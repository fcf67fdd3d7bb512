import Backplane.SensorModule.Handlers

/-!
# The order of the flight phases

Whole flights: any list of steps of the module (`Step`), each a `Run` of the sensing tenant or the
expiry of a timer, in the order of one clock (`Clocked`). `FlightInv` relates the steps made so far
to the state of the handler; every step keeps it (`flightInv_step`), and the order of the phases is
read off it.

Results:
* `flown_reachable`: the controller of a flight is in a state that its own runs reach.
* `cause_of_newly`: a step that lets an event occur is of the kind that event is dispatched by.
* `flightInv_run`: the invariant of whole flights.
* `phase_ordering`: what precedes the dispatch of `Boost`, `Noseover` and `GroundHit`.
-/

namespace Backplane.SensorModule

open Backplane.Run
open Backplane.Flight
open Backplane.Utils

section Defs

variable {R D : Type}

/-- The uptime (ms) of a step. -/
def Step.time : Step R → Nat
  | .run uptime _ _ => uptime.toNat
  | .expiry now _ => now

/-- The steps are in the order of the clock, and uptimes fit the debouncers' 32 bits. -/
structure Clocked (steps : List (Step R)) : Prop where
  nondecreasing : steps.Pairwise fun a b => a.time ≤ b.time
  uptime_lt : ∀ uptime data w, .run uptime data w ∈ steps → uptime.toNat < 2 ^ 32 - 1

/-- The calls of `HandleData` in `steps`, while data is collected. -/
def handleDataCalls (steps : List (Step R)) : List (UInt64 × SensorData R) :=
  steps.filterMap fun
    | .run uptime data _ => some (uptime, data)
    | .expiry _ _ => none

variable [CDouble D] [CFloat R D]

/-- This side's accelerometer exceeds the squared threshold in this call. -/
def Side.Exceeds (side : Side) (call : UInt64 × SensorData R) : Prop :=
  boostThresholdMPerS2 * boostThresholdMPerS2 < squaredMagnitude (side.acceleration call.2)

/-- The module after `steps`. -/
def flown (steps : List (Step R)) : CDetectionHandler D := run sensorStep initialHandler steps

/-- The event is dispatched by step `k`, which is `a`. -/
def DispatchedAt (steps : List (Step R)) (event : Events) (k : Nat) (a : Step R) : Prop :=
  Onset sensorStep (initialHandler (D := D)) (fun h => h.Occured event) steps k a

/-- Step `k` dispatches the event on the submission of `source`. -/
def DispatchedFor (steps : List (Step R)) (k : Nat) (source : Sources) (event : Events) : Prop :=
  DispatchedBy (flown (steps.take k)).controller (flown (steps.take (k + 1))).controller
    source event

/-- Step `k`, a `Run` at uptime `t`, dispatched `Boost`. -/
def BoostAt (steps : List (Step R)) (k t : Nat) : Prop :=
  ∃ uptime data w, DispatchedAt steps .boost k (.run uptime data w) ∧ uptime.toNat = t

/-- Step `k`, at `t`, dispatched `NoseoverLockout`, 15 s after `Boost`. -/
def LockoutAt (steps : List (Step R)) (k t : Nat) : Prop :=
  ∃ a, DispatchedAt steps .noseoverLockout k a ∧ a.time = t ∧
    ∃ kB tB, BoostAt steps kB tB ∧ kB < k ∧ tB + 15000 ≤ t

/-- Step `k`, a `Run` at uptime `t`, dispatched `Noseover`, after the lockout. -/
def NoseoverAt (steps : List (Step R)) (k t : Nat) : Prop :=
  ∃ uptime data w, DispatchedAt steps .noseover k (.run uptime data w) ∧ uptime.toNat = t ∧
    ∃ kL tL, LockoutAt steps kL tL ∧ kL < k ∧ tL ≤ t

/-- What `Boost`, dispatched by step `k`, needs: a `Run`, for an accelerometer that works and
exceeded the threshold in every call of a span of more than 250 ms that ends there. -/
def BoostOrder (steps : List (Step R)) (k : Nat) (a : Step R) : Prop :=
  ∃ tB data w, ∃ side : Side, a = .run tB data w ∧ side.accOk w = true ∧
    DispatchedFor steps k side.acc .boost ∧
    ∃ pre first span, handleDataCalls (steps.take (k + 1)) = pre ++ first :: span ∧
      (∀ call ∈ first :: span, side.Exceeds call) ∧ first.1.toNat + 250 < tB.toNat

/-- What `Noseover` needs: a `Run`, for a barometer that works, after the lockout and at least
15 s after `Boost`. -/
def NoseoverOrder (steps : List (Step R)) (k : Nat) (a : Step R) : Prop :=
  ∃ tN data w, ∃ side : Side, a = .run tN data w ∧ side.baromOk w = true ∧
    DispatchedFor steps k side.barom .noseover ∧
    ∃ kL aL kB tB dataB wB, DispatchedAt steps .noseoverLockout kL aL ∧ kL < k ∧
      DispatchedAt steps .boost kB (.run tB dataB wB) ∧ kB < kL ∧ tB.toNat + 15000 ≤ tN.toNat

/-- What `GroundHit` needs: `Boost`, and the expiry of the full flight timer at least 350 s after
it, or a `Run`, for a barometer that works, more than 10 s after `Noseover`. -/
def GroundHitOrder (steps : List (Step R)) (k : Nat) (a : Step R) : Prop :=
  ∃ kB tB dataB wB, DispatchedAt steps .boost kB (.run tB dataB wB) ∧ kB < k ∧
    ((∃ now, a = .expiry now 1 ∧ DispatchedFor steps k .fullFlightTimer .groundHit ∧
        tB.toNat + 350000 ≤ now) ∨
      ∃ tG data w, ∃ side : Side, a = .run tG data w ∧ side.baromOk w = true ∧
        DispatchedFor steps k side.barom .groundHit ∧
        ∃ kN tN dataN wN, DispatchedAt steps .noseover kN (.run tN dataN wN) ∧ kN < k ∧
          tN.toNat + 10000 < tG.toNat)

/-- What a call feeds to this side's boost detector. -/
def boostSample (side : Side) (call : UInt64 × SensorData R) : UInt32 × D :=
  (call.1.toUInt32, squaredMagnitude (side.acceleration call.2))

/-- The boost detector samples of `steps`. -/
def boostSamples (side : Side) (steps : List (Step R)) : List (UInt32 × D) :=
  (handleDataCalls steps).map (boostSample side)

/-- The ground samples of `steps`: in order, stamped with the time since `Boost` of steps from
`Noseover` on. -/
structure GroundSamples (steps : List (Step R)) (boost_detected_time : UInt64)
    (samples : List (UInt32 × D)) : Prop where
  ordered : samples.Pairwise fun x y => x.1.toNat ≤ y.1.toNat
  stamped : ∀ x ∈ samples, ∃ a ∈ steps,
    x.1.toNat + (boost_detected_time.toNat + 250) = a.time ∧
      ∃ k t, NoseoverAt steps k t ∧ t ≤ a.time

/-- **The invariant of a flight**, between the steps made and the handler's state. -/
structure FlightInv (steps : List (Step R)) (h : CDetectionHandler D) : Prop where
  boostFirst : ∀ e, h.Occured e → h.Occured .boost
  running : ∀ i since, (h.controller.timers i).running = some since →
    ∃ k, BoostAt steps k since
  preBoost : ¬ h.Occured .boost → h.boost_detected_time = BOOST_NOT_YET_HAPPENED ∧
    ∀ side, h.boostDetector side = (initialHandler.boostDetector side).feedAll
      (boostSamples side steps)
  boostTime : h.Occured .boost → ∃ k, BoostAt steps k h.boost_detected_time.toNat
  lockout : h.Occured .noseoverLockout → ∃ k t, LockoutAt steps k t
  noseover : h.Occured .noseover → ∃ k t, NoseoverAt steps k t
  ground : ∀ side, ∃ samples, GroundSamples steps h.boost_detected_time samples ∧
    h.groundDetector side = (initialHandler.groundDetector side).feedAll samples

end Defs

variable {R D : Type} [CDouble D] [CFloat R D]

/-! ## Steps -/

omit [CDouble D] in
theorem not_occured {h : CDetectionHandler D} {e : Events}
    (hb : h.controller.eventStates e = false) : ¬ h.Occured e :=
  fun he => Bool.false_ne_true (hb.symm.trans he)

/-- A `Run` does nothing once the ground was hit, and calls `HandleData` before. -/
theorem sensorStep_run (h : CDetectionHandler D) (uptime : UInt64) (data : SensorData R)
    (w : SensorWorkings) :
    (h.Occured .groundHit ∧ sensorStep h (.run uptime data w) = h) ∨
      HandledBy uptime data w h (sensorStep h (.run uptime data w)) := by
  unfold sensorStep CDetectionHandler.sensingRun CDetectionHandler.continueCollecting
  simp only [Bool.not_not]
  split
  · rename_i hocc
    exact Or.inl ⟨hocc, rfl⟩
  · exact Or.inr (handleData_spec h uptime data w)

theorem sensorStep_occured (h : CDetectionHandler D) (a : Step R) {e : Events}
    (he : h.Occured e) : (sensorStep h a).Occured e := by
  cases a with
  | run uptime data w =>
    rcases sensorStep_run h uptime data w with ⟨-, heq⟩ | hby
    · rwa [heq]
    · exact hby.submits.occured he
  | expiry now i => exact eventStates_step config h.controller (.expiry now i) he

theorem sensorStep_reachable {h : CDetectionHandler D} (a : Step R)
    (hr : Reachable config h.controller) : Reachable config (sensorStep h a).controller := by
  cases a with
  | run uptime data w =>
    rcases sensorStep_run h uptime data w with ⟨-, heq⟩ | hby
    · rwa [heq]
    · exact hby.submits.reachable hr
  | expiry now i => exact timerExpiry_reachable hr i

/-- **A flight of the module is a run of its controller.** -/
theorem flown_reachable (steps : List (Step R)) :
    Reachable config (flown (D := D) steps).controller :=
  run_preserves (P := fun h : CDetectionHandler D => Reachable config h.controller)
    (fun _ a hr => sensorStep_reachable a hr) steps ⟨[], rfl⟩

/-- Why the step `a` from `h` to `h'` lets an event occur. -/
inductive Cause (h h' : CDetectionHandler D) : Step R → Events → Prop
  | boost (uptime : UInt64) (data : SensorData R) (w : SensorWorkings) (side : Side)
      (ok : side.accOk w = true) (passed : (h'.boostDetector side).passed = true)
      (dispatched : DispatchedBy h.controller h'.controller side.acc .boost) :
      Cause h h' (.run uptime data w) .boost
  | lockout (now since : Nat) (running : (h.controller.timers 0).running = some since)
      (elapsed : since + 15000 ≤ now) : Cause h h' (.expiry now 0) .noseoverLockout
  | noseover (uptime : UInt64) (data : SensorData R) (w : SensorWorkings) (side : Side)
      (unlocked : h.Occured .noseoverLockout) (ok : side.baromOk w = true)
      (dispatched : DispatchedBy h.controller h'.controller side.barom .noseover) :
      Cause h h' (.run uptime data w) .noseover
  | groundHit (uptime : UInt64) (data : SensorData R) (w : SensorWorkings) (side : Side)
      (after : h'.Occured .noseover) (ok : side.baromOk w = true)
      (passed : (h'.groundDetector side).passed = true)
      (dispatched : DispatchedBy h.controller h'.controller side.barom .groundHit) :
      Cause h h' (.run uptime data w) .groundHit
  | fullFlight (now since : Nat) (running : (h.controller.timers 1).running = some since)
      (elapsed : since + 350000 ≤ now)
      (dispatched : DispatchedBy h.controller h'.controller .fullFlightTimer .groundHit) :
      Cause h h' (.expiry now 1) .groundHit

/-- **A step that lets an event occur is of the kind the event is dispatched by.** -/
theorem cause_of_newly {h : CDetectionHandler D} {a : Step R} {e : Events}
    (hrunning : ∀ i since, (h.controller.timers i).running = some since → h.Occured .boost)
    (hb : ¬ h.Occured e) (ha : (sensorStep h a).Occured e) : Cause h (sensorStep h a) a e := by
  have hfalse : h.controller.eventStates e = false := Bool.eq_false_of_not_eq_true hb
  cases a with
  | run uptime data w =>
    rcases sensorStep_run h uptime data w with ⟨-, heq⟩ | hby
    · rw [heq] at ha
      exact absurd ha hb
    · obtain ⟨s, hjust, hdisp⟩ := hby.submits.exists_dispatcher rfl hfalse ha
      cases hjust with
      | boost side _ ok passed => exact .boost uptime data w side ok passed hdisp
      | noseover side unlocked ok => exact .noseover uptime data w side unlocked ok hdisp
      | groundHit side after ok passed => exact .groundHit uptime data w side after ok passed hdisp
  | expiry now i =>
    have hexpiry : (timerExpiry config h.controller now i).eventStates e = true := ha
    obtain ⟨he, ⟨since, hsince, hle⟩, hdisp⟩ := timerExpiry_dispatches rfl hfalse hexpiry
    fin_cases i
    · cases he
      exact .lockout now since hsince hle
    · cases he
      exact .fullFlight now since hsince hle hdisp
    · -- the slot without an initialiser runs only after boost
      cases he
      exact absurd (hrunning _ _ hsince) hb

/-- **Boost comes first**, as long as the timers run after it only. -/
theorem boost_occured_step {h : CDetectionHandler D} {a : Step R}
    (hfirst : ∀ e, h.Occured e → h.Occured .boost)
    (hrunning : ∀ i since, (h.controller.timers i).running = some since → h.Occured .boost)
    {e : Events} (he : (sensorStep h a).Occured e) : (sensorStep h a).Occured .boost := by
  have hkeep := fun hb => sensorStep_occured h a (e := .boost) hb
  have hnose : (sensorStep h a).Occured .noseover → h.Occured .boost := by
    intro hn
    by_cases hb : h.Occured .noseover
    · exact hfirst _ hb
    · cases cause_of_newly hrunning hb hn with
      | noseover _ _ _ _ unlocked => exact hfirst _ unlocked
  by_cases hb : h.Occured e
  · exact hkeep (hfirst e hb)
  · cases cause_of_newly hrunning hb he with
    | boost => exact he
    | lockout now since hrun => exact hkeep (hrunning 0 since hrun)
    | noseover _ _ _ _ unlocked => exact hkeep (hfirst _ unlocked)
    | groundHit _ _ _ _ after => exact hkeep (hnose after)
    | fullFlight now since hrun => exact hkeep (hrunning 1 since hrun)

/-! ## The invariant, field by field -/

theorem DispatchedAt.occured {steps : List (Step R)} {e : Events} {k : Nat} {a : Step R}
    (h : DispatchedAt steps e k a) : (flown steps).Occured e := by
  have hend := h.holds (fun h a => sensorStep_occured h a) h.lt_length
  rwa [stateAt_length] at hend

theorem BoostAt.append {steps : List (Step R)} {k t : Nat} (h : BoostAt steps k t)
    (l : List (Step R)) : BoostAt (steps ++ l) k t := by
  obtain ⟨uptime, data, w, hk, ht⟩ := h
  exact ⟨uptime, data, w, hk.append l, ht⟩

theorem BoostAt.occured {steps : List (Step R)} {k t : Nat} (h : BoostAt steps k t) :
    (flown steps).Occured .boost := by
  obtain ⟨uptime, data, w, hk, -⟩ := h
  exact DispatchedAt.occured hk

theorem LockoutAt.append {steps : List (Step R)} {k t : Nat} (h : LockoutAt steps k t)
    (l : List (Step R)) : LockoutAt (steps ++ l) k t := by
  obtain ⟨a, hk, ht, kB, tB, hB, hlt, hle⟩ := h
  exact ⟨a, hk.append l, ht, kB, tB, hB.append l, hlt, hle⟩

theorem NoseoverAt.append {steps : List (Step R)} {k t : Nat} (h : NoseoverAt steps k t)
    (l : List (Step R)) : NoseoverAt (steps ++ l) k t := by
  obtain ⟨uptime, data, w, hk, ht, kL, tL, hL, hlt, hle⟩ := h
  exact ⟨uptime, data, w, hk.append l, ht, kL, tL, hL.append l, hlt, hle⟩

theorem NoseoverAt.occured {steps : List (Step R)} {k t : Nat} (h : NoseoverAt steps k t) :
    (flown steps).Occured .noseover := by
  obtain ⟨uptime, data, w, hk, -⟩ := h
  exact DispatchedAt.occured hk

/-- There is one `Boost`. -/
theorem BoostAt.unique {steps : List (Step R)} {k k' t t' : Nat} (h : BoostAt steps k t)
    (h' : BoostAt steps k' t') : k = k' ∧ t = t' := by
  obtain ⟨uptime, data, w, hk, rfl⟩ := h
  obtain ⟨uptime', data', w', hk', rfl⟩ := h'
  obtain ⟨rfl, heq⟩ := onset_unique (fun h a => sensorStep_occured h a) hk hk'
  cases heq
  exact ⟨rfl, rfl⟩

/-- The step that makes an event occur dispatches it, at the end of the run. -/
theorem dispatchedAt_snoc {steps : List (Step R)} {a : Step R} {e : Events}
    (hb : ¬ (flown steps).Occured e) (ha : (sensorStep (flown steps) a).Occured e) :
    DispatchedAt (steps ++ [a]) e steps.length a :=
  onset_snoc hb ha

section Step

variable {steps : List (Step R)} {a : Step R}

theorem FlightInv.cause (hinv : FlightInv steps (flown steps)) {e : Events}
    (hb : ¬ (flown steps).Occured e) (ha : (sensorStep (flown steps) a).Occured e) :
    Cause (flown steps) (sensorStep (flown steps) a) a e :=
  cause_of_newly (fun i since hr => (hinv.running i since hr).choose_spec.occured) hb ha

theorem FlightInv.boostFirst_step (hinv : FlightInv steps (flown steps)) (e : Events)
    (he : (sensorStep (flown steps) a).Occured e) :
    (sensorStep (flown steps) a).Occured .boost :=
  boost_occured_step hinv.boostFirst
    (fun i since hr => (hinv.running i since hr).choose_spec.occured) he

/-- A `Run` before boost does call `HandleData`. -/
theorem FlightInv.handled (hinv : FlightInv steps (flown steps))
    (hb : ¬ (flown steps).Occured .boost) (uptime : UInt64) (data : SensorData R)
    (w : SensorWorkings) :
    HandledBy uptime data w (flown steps) (sensorStep (flown steps) (.run uptime data w)) := by
  rcases sensorStep_run (flown steps) uptime data w with ⟨hground, -⟩ | hby
  · exact absurd (hinv.boostFirst _ hground) hb
  · exact hby

theorem FlightInv.preBoost_step (hinv : FlightInv steps (flown steps))
    (hnot : ¬ (sensorStep (flown steps) a).Occured .boost) :
    (sensorStep (flown steps) a).boost_detected_time = BOOST_NOT_YET_HAPPENED ∧
      ∀ side, (sensorStep (flown steps) a).boostDetector side =
        (initialHandler.boostDetector side).feedAll (boostSamples side (steps ++ [a])) := by
  have hb : ¬ (flown steps).Occured .boost :=
    fun h => hnot (sensorStep_occured (flown steps) a h)
  obtain ⟨htime, hdet⟩ := hinv.preBoost hb
  cases a with
  | run uptime data w =>
    have hby := hinv.handled hb uptime data w
    refine ⟨?_, fun side => ?_⟩
    · rw [hby.boost_detected_time, if_neg (fun h => hnot h.2.1), htime]
    · rw [hby.boostDetector hb side, hdet side, ← feedAll_snoc]
      simp [boostSamples, boostSample, handleDataCalls]
  | expiry now i =>
    refine ⟨htime, fun side => ?_⟩
    have hsame : boostSamples side (steps ++ [.expiry now i]) = boostSamples side steps := by
      simp [boostSamples, handleDataCalls]
    rw [hsame]
    exact hdet side

omit [CDouble D] [CFloat R D] in
theorem start_eq_boost (i : Fin numTimerEvents) : (config.timerEvents i).start = .boost := by
  fin_cases i <;> rfl

theorem FlightInv.running_step (hinv : FlightInv steps (flown steps)) (i : Fin numTimerEvents)
    (since : Nat)
    (hr : ((sensorStep (flown steps) a).controller.timers i).running = some since) :
    ∃ k, BoostAt (steps ++ [a]) k since := by
  have hold : ((flown steps).controller.timers i).running = some since →
      ∃ k, BoostAt (steps ++ [a]) k since := by
    intro hrun
    obtain ⟨k, hk⟩ := hinv.running i since hrun
    exact ⟨k, hk.append _⟩
  cases a with
  | run uptime data w =>
    rcases sensorStep_run (flown steps) uptime data w with ⟨-, heq⟩ | hby
    · rw [heq] at hr
      exact hold hr
    · rcases hby.submits.running hr with hrun | ⟨hnow, hb, ha⟩
      · exact hold hrun
      · rw [start_eq_boost] at hb ha
        exact ⟨steps.length, uptime, data, w, dispatchedAt_snoc (not_occured hb) ha, hnow.symm⟩
  | expiry now j =>
    have hexpiry : ((timerExpiry config (flown steps).controller now j).timers i).running =
        some since := hr
    rcases timerExpiry_running hexpiry with hrun | ⟨-, hb, ha⟩
    · exact hold hrun
    · -- no expiry lets boost occur
      rw [start_eq_boost] at hb ha
      have hcause : Cause (flown steps) _ (.expiry now j) .boost := hinv.cause (not_occured hb) ha
      cases hcause

/-- The boost time stays as it is once there is boost. -/
theorem boost_detected_time_step {h : CDetectionHandler D} (hb : h.Occured .boost) (a : Step R) :
    (sensorStep h a).boost_detected_time = h.boost_detected_time := by
  cases a with
  | run uptime data w =>
    rcases sensorStep_run h uptime data w with ⟨-, heq⟩ | hby
    · rw [heq]
    · rw [hby.boost_detected_time, if_neg (fun h => h.1 hb)]
  | expiry now i => rfl

theorem FlightInv.boostTime_step (hinv : FlightInv steps (flown steps))
    (he : (sensorStep (flown steps) a).Occured .boost) :
    ∃ k, BoostAt (steps ++ [a]) k (sensorStep (flown steps) a).boost_detected_time.toNat := by
  by_cases hb : (flown steps).Occured .boost
  · rw [boost_detected_time_step hb]
    obtain ⟨k, hk⟩ := hinv.boostTime hb
    exact ⟨k, hk.append _⟩
  · cases hinv.cause hb he with
    | boost uptime data w =>
      have hby := hinv.handled hb uptime data w
      rw [hby.boost_detected_time, if_pos ⟨hb, he, (hinv.preBoost hb).1⟩]
      exact ⟨steps.length, uptime, data, w, dispatchedAt_snoc hb he, rfl⟩

theorem FlightInv.lockout_step (hinv : FlightInv steps (flown steps))
    (he : (sensorStep (flown steps) a).Occured .noseoverLockout) :
    ∃ k t, LockoutAt (steps ++ [a]) k t := by
  by_cases hb : (flown steps).Occured .noseoverLockout
  · obtain ⟨k, t, hk⟩ := hinv.lockout hb
    exact ⟨k, t, hk.append _⟩
  · have hnew := dispatchedAt_snoc hb he
    cases hinv.cause hb he with
    | lockout now since hrun hle =>
      obtain ⟨kB, hB⟩ := hinv.running 0 since hrun
      have hlt : kB < steps.length := by
        obtain ⟨_, _, _, hk, -⟩ := hB
        exact hk.lt_length
      exact ⟨steps.length, now, _, hnew, rfl, kB, since, hB.append _, hlt, hle⟩

omit [CDouble D] [CFloat R D] in
/-- No step is later than the last. -/
theorem Clocked.le_last (hc : Clocked (steps ++ [a])) {b : Step R} (hb : b ∈ steps ++ [a]) :
    b.time ≤ a.time := by
  rcases List.mem_append.mp hb with h | h
  · exact (List.pairwise_append.mp hc.nondecreasing).2.2 b h a (List.mem_singleton_self a)
  · rw [List.mem_singleton.mp h]

theorem FlightInv.noseover_step (hinv : FlightInv steps (flown steps))
    (hc : Clocked (steps ++ [a])) (he : (sensorStep (flown steps) a).Occured .noseover) :
    ∃ k t, NoseoverAt (steps ++ [a]) k t := by
  by_cases hb : (flown steps).Occured .noseover
  · obtain ⟨k, t, hk⟩ := hinv.noseover hb
    exact ⟨k, t, hk.append _⟩
  · have hnew := dispatchedAt_snoc hb he
    cases hinv.cause hb he with
    | noseover uptime data w side hlock =>
      obtain ⟨kL, tL, hL⟩ := hinv.lockout hlock
      have hLa := hL.append [.run uptime data w]
      obtain ⟨b, hk, rfl, -⟩ := hL
      exact ⟨steps.length, uptime.toNat, uptime, data, w, hnew, rfl, kL, b.time, hLa,
        hk.lt_length, hc.le_last (List.mem_append_left _ (List.mem_of_getElem? hk.input))⟩

/-- The time since boost, while it fits 32 bits. -/
theorem tPlusMs_toNat {timestamp boost_detected_time : UInt64}
    (hle : boost_detected_time.toNat + 250 ≤ timestamp.toNat) (hlt : timestamp.toNat < 2 ^ 32) :
    (tPlusMs timestamp boost_detected_time).toNat + (boost_detected_time.toNat + 250) =
      timestamp.toNat := by
  have hthreshold : boostTimeThreshold.toUInt64.toNat = 250 := rfl
  unfold tPlusMs
  rw [UInt64.toNat_toUInt32, UInt64.toNat_sub, UInt64.toNat_sub, hthreshold]
  omega

theorem GroundSamples.append {boost_detected_time : UInt64} {samples : List (UInt32 × D)}
    (h : GroundSamples steps boost_detected_time samples) :
    GroundSamples (steps ++ [a]) boost_detected_time samples := by
  refine ⟨h.ordered, fun x hx => ?_⟩
  obtain ⟨b, hb, heq, k, t, hN, hle⟩ := h.stamped x hx
  exact ⟨b, List.mem_append_left _ hb, heq, k, t, hN.append _, hle⟩

/-- There are no ground samples before boost. -/
theorem FlightInv.samples_nil (hinv : FlightInv steps (flown steps))
    (hb : ¬ (flown steps).Occured .boost) {boost_detected_time : UInt64}
    {samples : List (UInt32 × D)} (h : GroundSamples steps boost_detected_time samples) :
    samples = [] := by
  cases samples with
  | nil => rfl
  | cons x samples =>
    obtain ⟨b, -, -, k, t, hN, -⟩ := h.stamped x (List.mem_cons_self ..)
    exact absurd (hinv.boostFirst _ hN.occured) hb

/-- After `Noseover`, the last step is at least 15 s after the boost time. -/
theorem FlightInv.boost_le (hinv : FlightInv steps (flown steps)) (hc : Clocked (steps ++ [a]))
    (he : (sensorStep (flown steps) a).Occured .noseover) :
    (sensorStep (flown steps) a).boost_detected_time.toNat + 15000 ≤ a.time ∧
      ∃ k t, NoseoverAt (steps ++ [a]) k t ∧ t ≤ a.time := by
  obtain ⟨kB, hB⟩ := hinv.boostTime_step (hinv.boostFirst_step _ he)
  obtain ⟨k, t, hN⟩ := hinv.noseover_step hc he
  have hlast : t ≤ a.time := by
    obtain ⟨uptime, data, w, hk, rfl, -⟩ := hN
    exact hc.le_last (b := .run uptime data w) (List.mem_of_getElem? hk.input)
  refine ⟨?_, k, t, hN, hlast⟩
  obtain ⟨uptime, data, w, -, -, kL, tL, ⟨b, -, -, kB', tB, hB', -, hle⟩, -, hleN⟩ := hN
  obtain ⟨-, rfl⟩ := hB.unique hB'
  omega

/-- A sample fed to a ground detector in the last step. -/
theorem GroundSamples.snoc {boost_detected_time : UInt64} {samples : List (UInt32 × D)}
    (h : GroundSamples (steps ++ [a]) boost_detected_time samples) (hc : Clocked (steps ++ [a]))
    {t_plus_ms : UInt32} (v : D)
    (ht : t_plus_ms.toNat + (boost_detected_time.toNat + 250) = a.time)
    (hN : ∃ k t, NoseoverAt (steps ++ [a]) k t ∧ t ≤ a.time) :
    GroundSamples (steps ++ [a]) boost_detected_time (samples ++ [(t_plus_ms, v)]) := by
  constructor
  · refine List.pairwise_append.mpr ⟨h.ordered, List.pairwise_singleton .., ?_⟩
    intro x hx y hy
    obtain ⟨b, hb, heq, -⟩ := h.stamped x hx
    have hle := hc.le_last hb
    rw [List.mem_singleton.mp hy]
    show x.1.toNat ≤ t_plus_ms.toNat
    omega
  · intro x hx
    rcases List.mem_append.mp hx with hx | hx
    · exact h.stamped x hx
    · rw [List.mem_singleton.mp hx]
      exact ⟨a, by simp, ht, hN⟩

theorem FlightInv.ground_step (hinv : FlightInv steps (flown steps))
    (hc : Clocked (steps ++ [a])) (side : Side) :
    ∃ samples,
      GroundSamples (steps ++ [a]) (sensorStep (flown steps) a).boost_detected_time samples ∧
      (sensorStep (flown steps) a).groundDetector side =
        (initialHandler.groundDetector side).feedAll samples := by
  obtain ⟨samples, hs, heq⟩ := hinv.ground side
  have hkept : GroundSamples (steps ++ [a])
      (sensorStep (flown steps) a).boost_detected_time samples := by
    by_cases hb : (flown steps).Occured .boost
    · rw [boost_detected_time_step hb]
      exact hs.append
    · rw [hinv.samples_nil hb hs]
      exact ⟨List.Pairwise.nil, by simp⟩
  cases a with
  | expiry now i => exact ⟨samples, hkept, heq⟩
  | run uptime data w =>
    rcases sensorStep_run (flown steps) uptime data w with ⟨-, hsame⟩ | hby
    · rw [hsame] at hkept ⊢
      exact ⟨samples, hkept, heq⟩
    · rcases hby.groundDetector side with hsame | ⟨hnose, v, hfed⟩
      · exact ⟨samples, hkept, hsame.trans heq⟩
      · obtain ⟨hle, hN⟩ := hinv.boost_le hc hnose
        have hlt := hc.uptime_lt uptime data w (by simp)
        have htime : (Step.run uptime data w).time = uptime.toNat := rfl
        rw [htime] at hle
        refine ⟨samples ++ [(_, v)], hkept.snoc hc v (tPlusMs_toNat ?_ ?_) hN, ?_⟩
        · omega
        · omega
        · rw [hfed, heq, feedAll_snoc]

/-- **Every step of the module keeps the invariant.** -/
theorem flightInv_step (hinv : FlightInv steps (flown steps)) (hc : Clocked (steps ++ [a])) :
    FlightInv (steps ++ [a]) (sensorStep (flown steps) a) where
  boostFirst := hinv.boostFirst_step
  running := hinv.running_step
  preBoost := hinv.preBoost_step
  boostTime := hinv.boostTime_step
  lockout := hinv.lockout_step
  noseover := hinv.noseover_step hc
  ground := hinv.ground_step hc

end Step

/-! ## Whole flights -/

omit [CDouble D] [CFloat R D] in
theorem Clocked.of_append {steps l : List (Step R)} (hc : Clocked (steps ++ l)) :
    Clocked steps :=
  ⟨(List.pairwise_append.mp hc.nondecreasing).1,
    fun uptime data w h => hc.uptime_lt uptime data w (List.mem_append_left _ h)⟩

theorem flightInv_initial : FlightInv ([] : List (Step R)) initialHandler where
  boostFirst _ h := absurd h Bool.false_ne_true
  running _ _ h := by cases h
  preBoost _ := ⟨rfl, fun _ => rfl⟩
  boostTime h := absurd h Bool.false_ne_true
  lockout h := absurd h Bool.false_ne_true
  noseover h := absurd h Bool.false_ne_true
  ground _ := ⟨[], ⟨List.Pairwise.nil, by simp⟩, rfl⟩

/-- **The invariant holds after every flight.** -/
theorem flightInv_run {steps : List (Step R)} (hc : Clocked steps) :
    FlightInv steps (flown steps) :=
  run_induction (motive := fun l h => Clocked l → FlightInv l h) (fun _ => flightInv_initial)
    (fun _ _ ih hc => flightInv_step (ih hc.of_append) hc) steps hc

theorem take_of_dispatchedAt {steps : List (Step R)} {e : Events} {k : Nat} {a : Step R}
    (h : DispatchedAt steps e k a) : steps.take (k + 1) = steps.take k ++ [a] := by
  rw [List.take_add_one, h.input]
  rfl

/-- What the first `j` steps dispatched was dispatched in the whole flight. -/
theorem dispatchedAt_of_take {steps : List (Step R)} {e : Events} {j k : Nat} {a : Step R}
    (h : DispatchedAt (steps.take j) e k a) : DispatchedAt steps e k a := by
  rw [← List.take_append_drop j steps]
  exact h.append _

/-- The state of affairs at a dispatch: the invariant before it, and its cause. -/
theorem cause_of_dispatchedAt {steps : List (Step R)} (hc : Clocked steps) {e : Events} {k : Nat}
    {a : Step R} (h : DispatchedAt steps e k a) :
    FlightInv (steps.take k) (flown (steps.take k)) ∧ Clocked (steps.take k ++ [a]) ∧
      (sensorStep (flown (steps.take k)) a).Occured e ∧
      (flown (steps.take (k + 1)) : CDetectionHandler D) = sensorStep (flown (steps.take k)) a ∧
      Cause (flown (steps.take k)) (sensorStep (flown (steps.take k)) a) a e := by
  have htake := take_of_dispatchedAt h
  have hsnoc : (flown (steps.take (k + 1)) : CDetectionHandler D) =
      sensorStep (flown (steps.take k)) a := by
    unfold flown
    rw [htake, run_snoc]
  have hc' : Clocked (steps.take k ++ [a]) := by
    rw [← List.take_append_drop (k + 1) steps, htake] at hc
    exact hc.of_append
  have hinv := flightInv_run hc'.of_append
  have hafter : (flown (steps.take (k + 1)) : CDetectionHandler D).Occured e := h.after
  rw [hsnoc] at hafter
  exact ⟨hinv, hc', hafter, hsnoc, hinv.cause h.before hafter⟩

/-! ## Boost -/

theorem initial_boostDetector (side : Side) :
    ((initialHandler : CDetectionHandler D).boostDetector side).Fresh ∧
      ((initialHandler : CDetectionHandler D).boostDetector side).duration = 250 ∧
      ∀ v, ((initialHandler : CDetectionHandler D).boostDetector side).passesOne v = true ↔
        boostThresholdMPerS2 * boostThresholdMPerS2 < v := by
  cases side <;> exact ⟨⟨rfl, rfl⟩, rfl, fun _ => decide_eq_true_iff⟩

theorem initial_groundDetector (side : Side) :
    ((initialHandler : CDetectionHandler D).groundDetector side).Fresh ∧
      ((initialHandler : CDetectionHandler D).groundDetector side).duration = 10000 := by
  cases side <;> exact ⟨⟨rfl, rfl⟩, rfl⟩

theorem mem_of_mem_handleDataCalls {steps : List (Step R)} {call : UInt64 × SensorData R}
    (h : call ∈ handleDataCalls steps) : ∃ w, .run call.1 call.2 w ∈ steps := by
  unfold handleDataCalls at h
  obtain ⟨b, hb, heq⟩ := List.mem_filterMap.mp h
  cases b with
  | run uptime data w =>
    cases heq
    exact ⟨w, hb⟩
  | expiry now i => cases heq

theorem handleDataCalls_pairwise {steps : List (Step R)}
    (hclock : steps.Pairwise fun a b => a.time ≤ b.time) :
    (handleDataCalls steps).Pairwise fun x y => x.1.toNat ≤ y.1.toNat := by
  refine List.pairwise_filterMap.mpr (hclock.imp ?_)
  intro a b hab x hx y hy
  cases a <;> cases b <;> cases hx <;> cases hy
  exact hab

/-- A boost detector that passed in the last step: the span of calls it passed on. -/
theorem boost_span {steps : List (Step R)} {tB : UInt64} {data : SensorData R}
    {w : SensorWorkings} (hc : Clocked (steps ++ [.run tB data w])) (side : Side)
    (hpassed : (((initialHandler : CDetectionHandler D).boostDetector side).feedAll
      (boostSamples side (steps ++ [.run tB data w]))).passed = true) :
    ∃ pre first span, handleDataCalls (steps ++ [.run tB data w]) = pre ++ first :: span ∧
      (∀ call ∈ first :: span, side.Exceeds call) ∧ first.1.toNat + 250 < tB.toNat := by
  obtain ⟨hfresh, hduration, hpasses⟩ := initial_boostDetector (D := D) side
  have hend : (handleDataCalls (steps ++ [.run tB data w])).getLast? = some (tB, data) := by
    simp [handleDataCalls]
  have hfits : ∀ call ∈ handleDataCalls (steps ++ [.run tB data w]),
      call.1.toNat < 2 ^ 32 - 1 := by
    intro call hcall
    obtain ⟨w', hw'⟩ := mem_of_mem_handleDataCalls hcall
    exact hc.uptime_lt _ _ _ hw'
  obtain ⟨pre, first, span, hcalls, hall, hlong⟩ :=
    (passed_calls_iff hfresh (fun _ => rfl) hfits (handleDataCalls_pairwise hc.nondecreasing)
      hend).mp hpassed
  rw [hduration] at hlong
  exact ⟨pre, first, span, hcalls, fun call hcall => (hpasses _).mp (hall call hcall), hlong⟩

theorem boost_dispatched {steps : List (Step R)} (hc : Clocked steps) {k : Nat} {a : Step R}
    (h : DispatchedAt steps .boost k a) : BoostOrder steps k a := by
  obtain ⟨hinv, hc', hocc, hsnoc, hcause⟩ := cause_of_dispatchedAt hc h
  cases hcause with
  | boost tB data w side ok passed dispatched =>
    refine ⟨tB, data, w, side, rfl, ok, ?_, ?_⟩
    · unfold DispatchedFor
      rw [hsnoc]
      exact dispatched
    · have hby := hinv.handled h.before tB data w
      rw [take_of_dispatchedAt h]
      refine boost_span hc' side ?_
      rw [hby.boostDetector h.before side, (hinv.preBoost h.before).2 side, ← feedAll_snoc]
        at passed
      simpa [boostSamples, boostSample, handleDataCalls] using passed

/-! ## Noseover and the ground -/

theorem noseover_dispatched {steps : List (Step R)} (hc : Clocked steps) {k : Nat} {a : Step R}
    (h : DispatchedAt steps .noseover k a) : NoseoverOrder steps k a := by
  obtain ⟨hinv, hc', hocc, hsnoc, hcause⟩ := cause_of_dispatchedAt hc h
  cases hcause with
  | noseover tN data w side unlocked ok dispatched =>
    refine ⟨tN, data, w, side, rfl, ok, ?_, ?_⟩
    · unfold DispatchedFor
      rw [hsnoc]
      exact dispatched
    · obtain ⟨kL, tL, aL, hL, rfl, kB, tB, ⟨tB', dataB, wB, hB, rfl⟩, hlt, hle⟩ :=
        hinv.lockout unlocked
      have hlast : aL.time ≤ tN.toNat :=
        hc'.le_last (b := aL) (List.mem_append_left _ (List.mem_of_getElem? hL.input))
      have hkL : kL < k := Nat.lt_of_lt_of_le hL.lt_length (List.length_take_le ..)
      exact ⟨kL, aL, kB, tB', dataB, wB, dispatchedAt_of_take hL, hkL, dispatchedAt_of_take hB,
        hlt, hle.trans hlast⟩

/-- A ground detector that passed: `Noseover` was dispatched more than 10 s before. -/
theorem noseover_before_ground {steps : List (Step R)} {a : Step R} {boost_detected_time : UInt64}
    {samples : List (UInt32 × D)} (hc : Clocked (steps ++ [a])) (hlt : a.time < 2 ^ 32 - 1)
    (hs : GroundSamples (steps ++ [a]) boost_detected_time samples) (side : Side)
    (hpassed : (((initialHandler : CDetectionHandler D).groundDetector side).feedAll
      samples).passed = true) :
    ∃ k t, NoseoverAt (steps ++ [a]) k t ∧ t + 10000 < a.time := by
  obtain ⟨hfresh, hduration⟩ := initial_groundDetector (D := D) side
  have hne : ∀ x ∈ samples, x.1 ≠ NOT_PASSED := by
    intro x hx
    obtain ⟨b, hb, heq, -⟩ := hs.stamped x hx
    have hle := hc.le_last hb
    exact ne_NOT_PASSED (by omega)
  obtain ⟨pre, first, span, last, rfl, hend, -, hgt⟩ := passed_span hfresh hne hpassed
  have hmem : last ∈ first :: span := List.mem_of_getLast? hend
  obtain ⟨b, -, hfirst, k, t, hN, hle⟩ := hs.stamped first (by simp)
  obtain ⟨b', hb', hlast, -⟩ := hs.stamped last (List.mem_append_right _ hmem)
  have hle' := hc.le_last hb'
  have hordered : first.1.toNat ≤ last.1.toNat := by
    have hpair := (List.pairwise_append.mp hs.ordered).2.1
    rcases List.mem_cons.mp hmem with rfl | hmem
    · exact Nat.le_refl _
    · exact (List.pairwise_cons.mp hpair).1 _ hmem
  rw [hduration, lt_sub_iff hordered] at hgt
  have h10000 : (10000 : UInt32).toNat = 10000 := rfl
  exact ⟨k, t, hN, by omega⟩

theorem groundHit_dispatched {steps : List (Step R)} (hc : Clocked steps) {k : Nat} {a : Step R}
    (h : DispatchedAt steps .groundHit k a) : GroundHitOrder steps k a := by
  obtain ⟨hinv, hc', hocc, hsnoc, hcause⟩ := cause_of_dispatchedAt hc h
  cases hcause with
  | fullFlight now since running elapsed dispatched =>
    obtain ⟨kB, tB, dataB, wB, hB, rfl⟩ := hinv.running 1 since running
    refine ⟨kB, tB, dataB, wB, dispatchedAt_of_take hB,
      Nat.lt_of_lt_of_le hB.lt_length (List.length_take_le ..), Or.inl ⟨now, rfl, ?_, elapsed⟩⟩
    unfold DispatchedFor
    rw [hsnoc]
    exact dispatched
  | groundHit tG data w side after ok passed dispatched =>
    have hlt := hc'.uptime_lt tG data w (by simp)
    obtain ⟨samples, hs, heq⟩ := hinv.ground_step hc' side
    rw [heq] at passed
    obtain ⟨kN, t, hNt, hgt⟩ := noseover_before_ground hc' hlt hs side passed
    obtain ⟨tN, dataN, wN, hN, rfl, kL, tL, ⟨aL, hL, -, kB, t, hBt, hBL, -⟩, hLN, -⟩ := hNt
    obtain ⟨tB, dataB, wB, hB, -⟩ := hBt
    -- the last step is at `tG`, so `Noseover` was dispatched before it
    have hkN : kN < k := by
      rcases Nat.lt_or_ge kN (steps.take k).length with hlt | hge
      · exact Nat.lt_of_lt_of_le hlt (List.length_take_le ..)
      · have hin := hN.input
        rw [List.getElem?_append_right hge] at hin
        cases List.mem_singleton.mp (List.mem_of_getElem? hin)
        exact absurd hgt (Nat.not_lt.mpr (Nat.le_add_right ..))
    rw [← take_of_dispatchedAt h] at hN hB
    refine ⟨kB, tB, dataB, wB, dispatchedAt_of_take hB, hBL.trans (hLN.trans hkN),
      Or.inr ⟨tG, data, w, side, rfl, ok, ?_, kN, tN, dataN, wN, dispatchedAt_of_take hN, hkN, hgt⟩⟩
    unfold DispatchedFor
    rw [hsnoc]
    exact dispatched

/-! ## The order of the phases -/

/-- **The order of the flight phases**, for every flight: each dispatch of `Boost`, `Noseover` and
`GroundHit` comes after, and by, what it needs. -/
theorem phase_ordering {steps : List (Step R)} (hc : Clocked steps) (k : Nat) (a : Step R) :
    (DispatchedAt steps .boost k a → BoostOrder steps k a) ∧
    (DispatchedAt steps .noseover k a → NoseoverOrder steps k a) ∧
    (DispatchedAt steps .groundHit k a → GroundHitOrder steps k a) :=
  ⟨boost_dispatched hc, noseover_dispatched hc, groundHit_dispatched hc⟩

/-! ### A flight at sea level pressure, in exact arithmetic -/

/-- Rationals for `double`. The only power the flight takes is one of 1. -/
instance : CDouble Rat where
  decidableLT := fun a b => inferInstanceAs (Decidable (a < b))
  fabs x := if x < 0 then -x else x
  pow x _ := x

instance : CFloat Rat Rat where
  toDouble x := x

/-- Both barometers read sea level pressure, both accelerometers `g` along one axis. -/
def seaLevelReading (g : Rat) : SensorData Rat :=
  { primaryBarometer := { pressure := 101.325, temperature := 20 }
    secondaryBarometer := { pressure := 101.325, temperature := 20 }
    acceleration := { x := 0, y := 0, z := g }
    imuAcceleration := { x := 0, y := 0, z := g } }

def allOk : SensorWorkings := ⟨true, true, true, true⟩

/-- `Boost` at 251 ms, the lockout 15 s later, `Noseover`, and `GroundHit` 10 s after it. -/
def seaLevelFlight : List (Step Rat) :=
  [.run 0 (seaLevelReading 60) allOk, .run 251 (seaLevelReading 60) allOk, .expiry 15251 0,
    .run 15300 (seaLevelReading 9) allOk, .run 25301 (seaLevelReading 9) allOk]

theorem seaLevelFlight_clocked : Clocked seaLevelFlight := by
  refine ⟨by decide, fun uptime data w h => ?_⟩
  simp only [seaLevelFlight, List.mem_cons, Step.run.injEq, List.not_mem_nil, or_false,
    reduceCtorEq, false_or] at h
  rcases h with ⟨rfl, -⟩ | ⟨rfl, -⟩ | ⟨rfl, -⟩ | ⟨rfl, -⟩ <;> decide

theorem seaLevelFlight_phases :
    BoostOrder seaLevelFlight 1 (.run 251 (seaLevelReading 60) allOk) ∧
    NoseoverOrder seaLevelFlight 3 (.run 15300 (seaLevelReading 9) allOk) ∧
    GroundHitOrder seaLevelFlight 4 (.run 25301 (seaLevelReading 9) allOk) :=
  ⟨(phase_ordering seaLevelFlight_clocked 1 _).1 ⟨rfl, by decide +kernel, by decide +kernel⟩,
    (phase_ordering seaLevelFlight_clocked 3 _).2.1 ⟨rfl, by decide +kernel, by decide +kernel⟩,
    (phase_ordering seaLevelFlight_clocked 4 _).2.2 ⟨rfl, by decide +kernel, by decide +kernel⟩⟩

end Backplane.SensorModule
