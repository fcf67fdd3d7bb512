import Backplane.General.LeastSquares
import Backplane.Utils.RollingSum

/-!
# `FindSlope` is the slope of least squares

`FindSlope` on a rolling sum of the samples `LinearFitSample(x, y)`, over exact rationals.

Results:
* `findSlope_window`: the slope is computed from the points of the window alone.
* `findSlope_correct`: once the window is full, `FindSlope` refuses exactly the windows whose
  points have one `x`, and gives the slope of a best line for all others.
-/

namespace Backplane.Utils

open Backplane.Window Backplane.LeastSquares

-- `==` on `ℚ` is decidable equality, whatever else is in scope
local instance instBEqRat : BEq ℚ := instBEqOfDecidableEq

variable {windowSize : Nat}

/-- The totals of a list of points. -/
theorem sum_map_ofPoint (points : List (ℚ × ℚ)) :
    (points.map LinearFitSample.ofPoint).sum =
      { x := sumX points, y := sumY points, xx := sumXX points, xy := sumXY points } := by
  rw [sum_linearFitSample]
  simp only [List.map_map]
  rfl

/-- **The slope of the window**: `data` has the totals of the points `window`. -/
theorem findSlope_window {data : CRollingSum (LinearFitSample ℚ) windowSize}
    {window : List (ℚ × ℚ)} (hlength : window.length = windowSize)
    (hsum : data.sum = (window.map LinearFitSample.ofPoint).sum) :
    findSlope data = if spread window = 0 then none else some (slope window) := by
  have hdenom : ((data.size : Nat) : ℚ) * data.sum.xx - data.sum.x * data.sum.x =
      spread window := by
    rw [hsum, sum_map_ofPoint]
    unfold spread
    rw [hlength]
    rfl
  have hnum : ((data.size : Nat) : ℚ) * data.sum.xy - data.sum.x * data.sum.y =
      window.length * sumXY window - sumX window * sumY window := by
    rw [hsum, sum_map_ofPoint, hlength]
    rfl
  unfold findSlope
  simp only [hdenom, hnum, Nat.cast_zero, beq_iff_eq]
  rfl

theorem findSlope_eq_none_iff {data : CRollingSum (LinearFitSample ℚ) windowSize}
    {window : List (ℚ × ℚ)} (hlength : window.length = windowSize)
    (hsum : data.sum = (window.map LinearFitSample.ofPoint).sum) :
    findSlope data = none ↔ Vertical window := by
  rw [findSlope_window hlength hsum, ← spread_eq_zero_iff]
  split <;> simp_all

/-- The samples `LinearFitSample(x, y)` of `points`, fed in order. -/
def CRollingSum.feedPoints (data : CRollingSum (LinearFitSample ℚ) windowSize)
    (points : List (ℚ × ℚ)) : CRollingSum (LinearFitSample ℚ) windowSize :=
  data.applyAll (points.map fun p => .add (LinearFitSample.new p.1 p.2))

theorem sum_feedPoints [NeZero windowSize] (start : LinearFitSample ℚ) (points : List (ℚ × ℚ)) :
    ((CRollingSum.new start : CRollingSum (LinearFitSample ℚ) windowSize).feedPoints points).sum =
      (lastSamples windowSize start (points.map LinearFitSample.ofPoint)).sum := by
  have hops : (points.map fun p => Op.add (LinearFitSample.new p.1 p.2)) =
      (points.map LinearFitSample.ofPoint).map .add := by
    rw [List.map_map]
    rfl
  unfold CRollingSum.feedPoints
  rw [hops, sum_applyAll, contents_adds]

/-- The totals once the window is full, whatever it held at the start. -/
theorem sum_feedPoints_full [NeZero windowSize] (start : LinearFitSample ℚ)
    {points : List (ℚ × ℚ)} (hfull : windowSize ≤ points.length) :
    ((CRollingSum.new start : CRollingSum (LinearFitSample ℚ) windowSize).feedPoints points).sum =
      ((points.drop (points.length - windowSize)).map LinearFitSample.ofPoint).sum := by
  rw [sum_feedPoints, lastSamples_of_ge _ (by rwa [List.length_map]), List.length_map,
    List.map_drop]

/-- **`FindSlope` on a full window.** -/
theorem findSlope_correct [NeZero windowSize] (start : LinearFitSample ℚ)
    {samples : List (ℚ × ℚ)} (hfull : windowSize ≤ samples.length) :
    let data : CRollingSum (LinearFitSample ℚ) windowSize :=
      (CRollingSum.new start).feedPoints samples
    let window := samples.drop (samples.length - windowSize)
    (findSlope data = none ↔ Vertical window) ∧
      ∀ m, findSlope data = some m →
        (∃ b, IsBestFit window m b) ∧
          ∀ m' b', (∀ p ∈ window, p.2 = m' * p.1 + b') → m = m' := by
  intro data window
  have hlength : window.length = windowSize := by
    rw [List.length_drop]
    omega
  have hsum := sum_feedPoints_full start hfull
  refine ⟨findSlope_eq_none_iff hlength hsum, fun m hm => ?_⟩
  rw [findSlope_window hlength hsum] at hm
  split at hm
  · cases hm
  · rename_i hspread
    obtain rfl := Option.some.inj hm
    exact ⟨⟨_, isBestFit_slope hspread⟩, fun m' b' hline => slope_of_line hspread hline⟩

/-- Three points on a line of slope 2, through a window of two. -/
theorem findSlope_correct_three :
    findSlope ((CRollingSum.new { x := 0, y := 0, xx := 0, xy := 0 } :
      CRollingSum (LinearFitSample ℚ) 2).feedPoints [(0, 1), (1, 3), (2, 5)]) ≠ none := by
  have h := @findSlope_correct 2 _ { x := 0, y := 0, xx := 0, xy := 0 } [(0, 1), (1, 3), (2, 5)]
    (by decide)
  rw [ne_eq, h.1]
  intro hvertical
  exact absurd (hvertical (1, 3) (by decide) (2, 5) (by decide)) (by decide)

/-! ## Before the window is full -/

/-- The totals of a window that is not full: the placeholders are points, too. -/
theorem sum_feedPoints_fewer [NeZero windowSize] {points : List (ℚ × ℚ)}
    (hfewer : points.length ≤ windowSize) :
    ((CRollingSum.new (LinearFitSample.new 0 0) :
        CRollingSum (LinearFitSample ℚ) windowSize).feedPoints points).sum =
      ((List.replicate (windowSize - points.length) (0, 0) ++ points).map
        LinearFitSample.ofPoint).sum := by
  rw [sum_feedPoints, lastSamples_of_le _ (by rwa [List.length_map]), List.length_map,
    List.map_append, List.map_replicate]
  rfl

/-- Placeholders and samples stand above one another iff the samples stand
above the origin. -/
theorem vertical_placeholders_iff {points : List (ℚ × ℚ)} {k : Nat} (hk : 0 < k) :
    Vertical (List.replicate k (0, 0) ++ points) ↔ ∀ p ∈ points, p.1 = 0 := by
  have horigin : ((0, 0) : ℚ × ℚ) ∈ List.replicate k (0, 0) ++ points :=
    List.mem_append_left _ (List.mem_replicate.mpr ⟨hk.ne', rfl⟩)
  constructor
  · intro h p hp
    exact h p (List.mem_append_right _ hp) (0, 0) horigin
  · intro h
    have hzero : ∀ p ∈ List.replicate k (0, 0) ++ points, p.1 = 0 := by
      intro p hp
      rcases List.mem_append.mp hp with hp | hp
      · rw [List.eq_of_mem_replicate hp]
      · exact h p hp
    exact fun p hp q hq => (hzero p hp).trans (hzero q hq).symm

end Backplane.Utils
