import Backplane.Utils.Slope

/-!
# The velocity of the phase detection sample

Model of `find_line` (`app/samples/phase_detection/src/main.cpp`), which the sample calls after
every reading, and of what it and `FindSlope` report before the window is full.

* `findLine_eq_badLine_iff`: `find_line` returns `bad_line` where it would divide by zero, and
  also for a fit that is the line `y = 0`.
* `no_slope_before_full_iff`: the window starts with placeholders at the origin, which take part in
  the fit. A window that is not full yields no slope only while it is empty or holds one sample,
  taken at time 0.
-/

namespace Backplane.PhaseDetection

open Backplane.Utils Backplane.LeastSquares

/-- `Line`. -/
structure Line (T : Type) where
  m : T
  b : T
  deriving DecidableEq

/-- `bad_line`: returned when there is not enough information to fit a line. -/
def badLine {T : Type} [NatCast T] : Line T := { m := Nat.cast 0, b := Nat.cast 0 }

/-- `find_line`. -/
def findLine {T : Type} [Sub T] [Mul T] [Div T] [NatCast T] [BEq T] {windowSize : Nat}
    (summer : CRollingSum (LinearFitSample T) windowSize) : Line T :=
  let N : T := summer.size
  let E := summer.sum
  let denom := N * E.xx - E.x * E.x
  if denom == (Nat.cast 0 : T) then
    -- Would have divided by 0
    badLine
  else
    let m := (N * E.xy - E.x * E.y) / denom
    { m := m, b := (E.y - m * E.x) / N }

-- `==` on `ℚ` is decidable equality, whatever else is in scope
local instance instBEqRat : BEq ℚ := instBEqOfDecidableEq

variable {windowSize : Nat}

/-- The line is that of `FindSlope`, where there is one. -/
theorem findLine_eq (summer : CRollingSum (LinearFitSample ℚ) windowSize) :
    findLine summer = match findSlope summer with
      | none => badLine
      | some m => { m := m, b := (summer.sum.y - m * summer.sum.x) / (windowSize : ℚ) } := by
  unfold findLine findSlope
  simp only
  split <;> rfl

theorem findLine_eq_badLine_iff [NeZero windowSize]
    (summer : CRollingSum (LinearFitSample ℚ) windowSize) :
    findLine summer = badLine ↔
      findSlope summer = none ∨ (findSlope summer = some 0 ∧ summer.sum.y = 0) := by
  have hsize : (windowSize : ℚ) ≠ 0 := Nat.cast_ne_zero.mpr (NeZero.ne windowSize)
  rw [findLine_eq]
  cases findSlope summer with
  | none => simp
  | some m =>
    unfold badLine
    rw [Line.mk.injEq, Nat.cast_zero]
    constructor
    · rintro ⟨rfl, hb⟩
      rw [zero_mul, sub_zero, div_eq_zero_iff, or_iff_left hsize] at hb
      exact .inr ⟨rfl, hb⟩
    · rintro (hnone | ⟨hm, hy⟩)
      · cases hnone
      · obtain rfl := Option.some.inj hm
        rw [hy, zero_mul, sub_zero, zero_div]
        exact ⟨rfl, rfl⟩

/-- Distinct times that are all 0. -/
theorem times_zero_iff {samples : List (ℚ × ℚ)} (hdistinct : (samples.map Prod.fst).Nodup) :
    (∀ p ∈ samples, p.1 = 0) ↔ samples = [] ∨ ∃ y, samples = [(0, y)] := by
  constructor
  · intro h
    rcases samples with _ | ⟨p, _ | ⟨q, rest⟩⟩
    · exact .inl rfl
    · have hp := h p List.mem_cons_self
      exact .inr ⟨p.2, by rw [← hp]⟩
    · -- two samples at one time
      have hp := h p List.mem_cons_self
      have hq := h q (List.mem_cons_of_mem p List.mem_cons_self)
      rw [List.map_cons, List.map_cons, hp, hq] at hdistinct
      exact absurd List.mem_cons_self (List.nodup_cons.mp hdistinct).1
  · rintro (rfl | ⟨y, rfl⟩) p hp
    · exact absurd hp List.not_mem_nil
    · rw [List.mem_singleton.mp hp]

/-- **Before the window is full** no slope is reported iff there is no sample yet, or just one that
was taken at time 0. -/
theorem no_slope_before_full_iff [NeZero windowSize] {samples : List (ℚ × ℚ)}
    (hfewer : samples.length < windowSize) (hdistinct : (samples.map Prod.fst).Nodup) :
    let data : CRollingSum (LinearFitSample ℚ) windowSize :=
      (CRollingSum.new (LinearFitSample.new 0 0)).feedPoints samples
    (findSlope data = none ∧ findLine data = badLine) ↔
      samples = [] ∨ ∃ y, samples = [(0, y)] := by
  intro data
  have hsum := sum_feedPoints_fewer (Nat.le_of_lt hfewer)
  have hslope : findSlope data = none ↔ ∀ p ∈ samples, p.1 = 0 := by
    rw [findSlope_eq_none_iff _ hsum, vertical_placeholders_iff (Nat.sub_pos_of_lt hfewer)]
    rw [List.length_append, List.length_replicate]
    omega
  rw [← times_zero_iff hdistinct, ← hslope]
  exact ⟨And.left, fun h => ⟨h, (findLine_eq_badLine_iff data).mpr (.inl h)⟩⟩

/-- No sample yet, in the sample's window of ten. -/
theorem no_slope_before_full_empty :
    findSlope ((CRollingSum.new (LinearFitSample.new 0 0) :
      CRollingSum (LinearFitSample ℚ) 10).feedPoints []) = none :=
  ((@no_slope_before_full_iff 10 _ [] (by decide) List.nodup_nil).mpr (.inl rfl)).1

/-- One sample, 1 s after the start and at 100 ft: a velocity of 100 ft/s. -/
theorem slope_of_one_sample :
    findSlope ((CRollingSum.new (LinearFitSample.new 0 0) :
      CRollingSum (LinearFitSample ℚ) 10).feedPoints [(1, 100)]) = some 100 := by
  decide +kernel

end Backplane.PhaseDetection
