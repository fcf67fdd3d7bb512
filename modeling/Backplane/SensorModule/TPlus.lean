import Backplane.SensorModule.Submissions

/-!
# The time since boost

The `t_plus_ms` that `HandleData` computes and passes to `HandleNoseover` and `HandleGround`. Boost
is detected `boostTimeThreshold` after it began, so that its start is `boost_detected_time -
boostTimeThreshold`; the code subtracts the threshold where it should be added.

Results:
* `tPlusMs_toNat_mod`: what is passed. In the first 250 ms after the detection the difference wraps.
* `tPlusMs_eq_NOT_PASSED_iff`: when it is the debouncers' sentinel.
* `tPlusMs_decreases_iff`: when it decreases from one call to another.
* `tPlusTrue_iff`: the time passed is the time since the start of boost only where none is passed.
-/

namespace Backplane.SensorModule

open Backplane.Run
open Backplane.Utils

/-! ## What is computed -/

/-- **The time passed**, for calls at or after the detection. -/
theorem tPlusMs_toNat_mod {uptime boost_detected_time : UInt64}
    (h : boost_detected_time.toNat ≤ uptime.toNat) :
    (tPlusMs uptime boost_detected_time).toNat =
      (uptime.toNat - boost_detected_time.toNat + (2 ^ 32 - 250)) % 2 ^ 32 := by
  have hu := uptime.toNat_lt
  have hthreshold : boostTimeThreshold.toUInt64.toNat = 250 := by decide
  unfold tPlusMs
  rw [UInt64.toNat_toUInt32, UInt64.toNat_sub, UInt64.toNat_sub, hthreshold]
  omega

/-- **The sentinel** is passed exactly 249 ms after the detection, and every 2^32 ms from then. -/
theorem tPlusMs_eq_NOT_PASSED_iff {uptime boost_detected_time : UInt64}
    (h : boost_detected_time.toNat ≤ uptime.toNat) :
    tPlusMs uptime boost_detected_time = NOT_PASSED ↔
      (uptime.toNat - boost_detected_time.toNat) % 2 ^ 32 = 249 := by
  have hsentinel : NOT_PASSED.toNat = 2 ^ 32 - 1 := by decide
  rw [← UInt32.toNat_inj, tPlusMs_toNat_mod h, hsentinel]
  omega

/-- **The time decreases** between a call in the first 250 ms after the detection and a later
one. -/
theorem tPlusMs_decreases_iff {uptime uptime' boost_detected_time : UInt64}
    (h : boost_detected_time.toNat ≤ uptime.toNat) (hle : uptime.toNat ≤ uptime'.toNat)
    (hlt : uptime'.toNat - boost_detected_time.toNat < 2 ^ 32) :
    tPlusMs uptime' boost_detected_time < tPlusMs uptime boost_detected_time ↔
      uptime.toNat < boost_detected_time.toNat + 250 ∧
        boost_detected_time.toNat + 250 ≤ uptime'.toNat := by
  rw [UInt32.lt_iff_toNat_lt, tPlusMs_toNat_mod h, tPlusMs_toNat_mod (Nat.le_trans h hle)]
  omega

/-- The time since the start of boost, as 32 bits hold it. -/
def timeSinceBoost (uptime boost_detected_time : UInt64) : UInt32 :=
  (uptime - (boost_detected_time - boostTimeThreshold.toUInt64)).toUInt32

/-- **It is never the time since boost**: it is 500 ms less. -/
theorem tPlusMs_ne (uptime boost_detected_time : UInt64) :
    tPlusMs uptime boost_detected_time ≠ timeSinceBoost uptime boost_detected_time := by
  have hthreshold : boostTimeThreshold.toUInt64.toNat = 250 := by decide
  have hu := uptime.toNat_lt
  have hb := boost_detected_time.toNat_lt
  intro heq
  have hnat := congrArg UInt32.toNat heq
  unfold tPlusMs timeSinceBoost at hnat
  simp only [UInt64.toNat_toUInt32, UInt64.toNat_sub, hthreshold] at hnat
  omega

/-! ## What is passed -/

variable {R D : Type} [CDouble D] [CFloat R D]

/-- The time a call passes to `HandleNoseover` or `HandleGround`, if it gets to one of them. -/
def CDetectionHandler.tPlusPassed (h : CDetectionHandler D) (timestamp : UInt64)
    (data : SensorData R) (w : SensorWorkings) : Option UInt32 :=
  let h1 := h.boostHandled timestamp data w
  if !h1.hasEventOccured .boost then none
  else
    let t_plus_ms := tPlusMs timestamp h1.boost_detected_time
    let h2 := h1.noseoverHandled timestamp.toNat t_plus_ms w
    if !h1.hasEventOccured .noseover || h2.hasEventOccured .noseover &&
      !h2.hasEventOccured .groundHit then some t_plus_ms else none

/-- **A call passes no time on**, and ends after `HandleBoost`, or it passes `tPlusMs` on. -/
theorem tPlusPassed_cases (h : CDetectionHandler D) (timestamp : UInt64) (data : SensorData R)
    (w : SensorWorkings) :
    let h1 := h.boostHandled timestamp data w
    let t_plus_ms := tPlusMs timestamp h1.boost_detected_time
    (h.tPlusPassed timestamp data w = none ∧ h.handleData timestamp data w = h1) ∨
      (h.tPlusPassed timestamp data w = some t_plus_ms ∧
        h.handleData timestamp data w = h1.afterBoost timestamp.toNat t_plus_ms w) := by
  intro h1 t_plus_ms
  rw [handleData_eq]
  unfold CDetectionHandler.tPlusPassed
  simp only
  by_cases hocc : (!h1.hasEventOccured .boost) = true
  · rw [if_pos hocc, if_pos hocc]
    exact Or.inl ⟨rfl, rfl⟩
  · rw [if_neg hocc, if_neg hocc]
    by_cases hpass : (!h1.hasEventOccured .noseover ||
        (h1.noseoverHandled timestamp.toNat t_plus_ms w).hasEventOccured .noseover &&
          !(h1.noseoverHandled timestamp.toNat t_plus_ms w).hasEventOccured .groundHit) = true
    · rw [if_pos hpass]
      exact Or.inr ⟨rfl, rfl⟩
    · rw [if_neg hpass]
      rw [Bool.or_eq_true, not_or] at hpass
      refine Or.inl ⟨rfl, ?_⟩
      rw [afterBoost_eq, if_neg hpass.2]
      unfold CDetectionHandler.noseoverHandled
      rw [if_neg hpass.1]

/-- Step `k`, at `uptime`, passes `t` on, with this time of the detection. -/
def PassesAt (steps : List (Step R)) (k : Nat) (uptime boost_detected_time : UInt64) (t : UInt32) :
    Prop :=
  ∃ data w, steps[k]? = some (.run uptime data w) ∧
    (handledAt (initialHandler : CDetectionHandler D) steps k).tPlusPassed uptime data w = some t ∧
    (handledAt (initialHandler : CDetectionHandler D) steps (k + 1)).boost_detected_time =
      boost_detected_time

/-- **T-plus time is monotone and true**, in a run. -/
structure TPlusTrue (D : Type) [CDouble D] [CFloat R D] (steps : List (Step R)) : Prop where
  monotone : ∀ j k uptime uptime' boost boost' t t', j ≤ k →
    PassesAt (D := D) steps j uptime boost t → PassesAt (D := D) steps k uptime' boost' t' →
    uptime'.toNat - boost'.toNat < 2 ^ 32 → t ≤ t'
  not_sentinel : ∀ k uptime boost t, PassesAt (D := D) steps k uptime boost t → t ≠ NOT_PASSED
  value : ∀ k uptime boost t, PassesAt (D := D) steps k uptime boost t →
    t = timeSinceBoost uptime boost

/-- What is passed is computed from the time of the detection. -/
theorem PassesAt.eq {steps : List (Step R)} {k : Nat} {uptime boost : UInt64} {t : UInt32}
    (h : PassesAt (D := D) steps k uptime boost t) : t = tPlusMs uptime boost := by
  obtain ⟨data, w, hk, ht, rfl⟩ := h
  rw [handledAt_succ _ hk]
  show t = tPlusMs uptime (CDetectionHandler.handleData _ uptime data w).boost_detected_time
  rcases tPlusPassed_cases (handledAt (initialHandler : CDetectionHandler D) steps k) uptime data w
    with ⟨hnone, -⟩ | ⟨hsome, heq⟩
  · rw [hnone] at ht
    cases ht
  · rw [hsome] at ht
    rw [heq, (afterBoost_frame _ _ _ _).2]
    exact (Option.some.inj ht).symm

/-- **T-plus time is never true where it is used**: it is so in exactly those runs in which no call
passes any time on. -/
theorem tPlusTrue_iff (D : Type) [CDouble D] [CFloat R D] (steps : List (Step R)) :
    TPlusTrue D steps ↔ ∀ k uptime boost t, ¬ PassesAt (D := D) steps k uptime boost t := by
  constructor
  · intro h k uptime boost t hp
    exact tPlusMs_ne uptime boost (hp.eq ▸ h.value k uptime boost t hp)
  · intro h
    exact ⟨fun j _ uptime _ boost _ t _ _ hp _ _ => absurd hp (h j uptime boost t),
      fun k uptime boost t hp => absurd hp (h k uptime boost t),
      fun k uptime boost t hp => absurd hp (h k uptime boost t)⟩

/-- Boost for 251 ms. -/
def boostFlight : List (Step Rat) :=
  [.run 0 (seaLevelReading 60) allOk, .run 251 (seaLevelReading 60) allOk]

/-- **In the call that detects boost**, `t_plus_ms` is 250 ms before 2^32. -/
theorem tPlusTrue_fails :
    ¬ ∀ steps : List (Step Rat), (steps.Pairwise fun a b => a.time ≤ b.time) →
      TPlusTrue Rat steps := by
  intro h
  have hp : PassesAt (D := Rat) boostFlight 1 251 251 (UInt32.ofNat (2 ^ 32 - 250)) :=
    ⟨seaLevelReading 60, allOk, rfl, by decide +kernel, by decide +kernel⟩
  have hvalue := (h boostFlight (by decide)).value 1 251 251 _ hp
  exact absurd hvalue (by decide)

end Backplane.SensorModule
