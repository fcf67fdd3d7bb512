import Mathlib.Algebra.BigOperators.Group.List.Basic
import Mathlib.Algebra.Order.BigOperators.Group.List
import Mathlib.Algebra.Order.Field.Basic
import Mathlib.Tactic.FieldSimp
import Mathlib.Tactic.LinearCombination
import Mathlib.Tactic.Linarith
import Mathlib.Tactic.Ring

/-!
# Lines of least squares

Points in the plane over a linearly ordered field, and the line `y = m * x + b` that minimises the
sum of their squared residuals.

Results:
* `isBestFit_of_normal`: a line that meets the normal equations is a best one.
* `spread_eq_zero_iff`: the determinant of those equations vanishes iff the points stand above one
  another.
* `isBestFit_slope`, `slope_of_line`: where it does not, the quotient that solves them is the slope
  of a best line, and the slope of the line that the points lie on.
-/

namespace Backplane.LeastSquares

variable {K : Type*} [Field K] (points : List (K × K))

def sumX : K := (points.map fun p => p.1).sum

def sumY : K := (points.map fun p => p.2).sum

def sumXX : K := (points.map fun p => p.1 * p.1).sum

def sumXY : K := (points.map fun p => p.1 * p.2).sum

/-- The determinant of the normal equations. -/
def spread : K := points.length * sumXX points - sumX points * sumX points

/-- The slope they give. -/
def slope : K := (points.length * sumXY points - sumX points * sumY points) / spread points

/-- The sum of the squared residuals of the line `y = m * x + b`. -/
def residual (m b : K) : K := (points.map fun p => (p.2 - (m * p.1 + b)) ^ 2).sum

/-- No line leaves less than `y = m * x + b`. -/
def IsBestFit [LE K] (m b : K) : Prop := ∀ m' b', residual points m b ≤ residual points m' b'

/-- All points have one `x`. -/
def Vertical : Prop := ∀ p ∈ points, ∀ q ∈ points, p.1 = q.1

variable {points}

@[simp] theorem sumX_cons (p : K × K) : sumX (p :: points) = p.1 + sumX points := List.sum_cons

@[simp] theorem sumY_cons (p : K × K) : sumY (p :: points) = p.2 + sumY points := List.sum_cons

@[simp] theorem sumXX_cons (p : K × K) : sumXX (p :: points) = p.1 * p.1 + sumXX points :=
  List.sum_cons

@[simp] theorem sumXY_cons (p : K × K) : sumXY (p :: points) = p.1 * p.2 + sumXY points :=
  List.sum_cons

@[simp] theorem residual_cons (p : K × K) (m b : K) :
    residual (p :: points) m b = (p.2 - (m * p.1 + b)) ^ 2 + residual points m b := List.sum_cons

/-- The sum of squares of `m * x + b` over the points. -/
theorem sum_sq_line (m b : K) :
    (points.map fun p => (m * p.1 + b) ^ 2).sum =
      m * m * sumXX points + 2 * m * b * sumX points + points.length * b * b := by
  induction points with
  | nil => simp [sumXX, sumX]
  | cons p points ih =>
    rw [List.map_cons, List.sum_cons, ih, sumXX_cons, sumX_cons, List.length_cons, Nat.cast_succ]
    ring

/-- **Two lines compared**: the residuals of the second from those of the first. -/
theorem residual_eq (m b m' b' : K) :
    residual points m' b' = residual points m b
      + 2 * ((m - m') * (sumXY points - m * sumXX points - b * sumX points)
        + (b - b') * (sumY points - m * sumX points - points.length * b))
      + (points.map fun p => ((m - m') * p.1 + (b - b')) ^ 2).sum := by
  induction points with
  | nil => simp [residual, sumXY, sumXX, sumX, sumY]
  | cons p points ih =>
    rw [List.map_cons, List.sum_cons, residual_cons, residual_cons, ih, sumXY_cons, sumXX_cons,
      sumX_cons, sumY_cons, List.length_cons, Nat.cast_succ]
    ring

/-- Points on a line. -/
theorem sums_of_line {m b : K} (h : ∀ p ∈ points, p.2 = m * p.1 + b) :
    sumY points = m * sumX points + points.length * b ∧
      sumXY points = m * sumXX points + b * sumX points := by
  induction points with
  | nil => simp [sumXY, sumXX, sumX, sumY]
  | cons p points ih =>
    obtain ⟨hy, hxy⟩ := ih fun q hq => h q (List.mem_cons_of_mem p hq)
    have hp := h p List.mem_cons_self
    rw [sumY_cons, sumX_cons, sumXY_cons, sumXX_cons, List.length_cons, Nat.cast_succ, hy, hxy, hp]
    constructor <;> ring

/-- Points above one another. -/
theorem sums_of_vertical {c : K} (h : ∀ p ∈ points, p.1 = c) :
    sumX points = points.length * c ∧ sumXX points = c * sumX points := by
  induction points with
  | nil => simp [sumXX, sumX]
  | cons p points ih =>
    obtain ⟨hx, hxx⟩ := ih fun q hq => h q (List.mem_cons_of_mem p hq)
    have hp := h p List.mem_cons_self
    rw [sumX_cons, sumXX_cons, List.length_cons, Nat.cast_succ, hxx, hx, hp]
    constructor <;> ring

theorem slope_of_line (hspread : spread points ≠ 0) {m b : K}
    (h : ∀ p ∈ points, p.2 = m * p.1 + b) : slope points = m := by
  obtain ⟨hy, hxy⟩ := sums_of_line h
  unfold slope
  rw [div_eq_iff hspread, hy, hxy]
  unfold spread
  ring

/-! ## Over an ordered field -/

variable [LinearOrder K] [IsStrictOrderedRing K]

variable (points) in
theorem sum_sq_nonneg (f : K × K → K) : 0 ≤ (points.map fun p => f p ^ 2).sum := by
  refine List.sum_nonneg fun a ha => ?_
  obtain ⟨p, _, rfl⟩ := List.mem_map.mp ha
  exact sq_nonneg _

/-- A sum of squares is zero only if they all are. -/
theorem eq_zero_of_sum_sq {f : K × K → K} (h : (points.map fun p => f p ^ 2).sum = 0) :
    ∀ p ∈ points, f p = 0 := by
  induction points with
  | nil => exact fun p hp => absurd hp List.not_mem_nil
  | cons q points ih =>
    rw [List.map_cons, List.sum_cons] at h
    have hq := sq_nonneg (f q)
    have hrest := sum_sq_nonneg points f
    intro p hp
    rcases List.mem_cons.mp hp with rfl | hp
    · exact pow_eq_zero_iff two_ne_zero |>.mp (by linarith)
    · exact ih (by linarith) p hp

/-- **The normal equations** are enough for a best line. -/
theorem isBestFit_of_normal {m b : K}
    (hb : sumY points - m * sumX points - points.length * b = 0)
    (hm : sumXY points - m * sumXX points - b * sumX points = 0) : IsBestFit points m b := by
  intro m' b'
  have hsq := sum_sq_nonneg points fun p => (m - m') * p.1 + (b - b')
  rw [residual_eq m b m' b', hb, hm]
  linarith

/-- **The determinant vanishes** iff the points have one `x`: it is a sum of squares. -/
theorem spread_eq_zero_iff : spread points = 0 ↔ Vertical points := by
  constructor
  · intro h p hp q hq
    have hn : (points.length : K) ≠ 0 := by
      rw [Nat.cast_ne_zero]
      exact List.length_pos_of_mem hp |>.ne'
    -- the squares of `n * x - sumX`, which add up to `n * spread`
    have hsum : (points.map fun r => (points.length * r.1 + -sumX points) ^ 2).sum = 0 := by
      rw [sum_sq_line]
      unfold spread at h
      linear_combination (points.length : K) * h
    have hx : ∀ r ∈ points, points.length * r.1 = sumX points := by
      intro r hr
      have hzero := eq_zero_of_sum_sq (f := fun r => points.length * r.1 + -sumX points) hsum r hr
      linear_combination hzero
    exact mul_left_cancel₀ hn ((hx p hp).trans (hx q hq).symm)
  · intro h
    cases points with
    | nil => simp [spread, sumX]
    | cons p points =>
      obtain ⟨hx, hxx⟩ := sums_of_vertical fun q hq => h q hq p List.mem_cons_self
      unfold spread
      rw [hxx]
      linear_combination -sumX (p :: points) * hx

/-- **The quotient is the slope of a best line.** -/
theorem isBestFit_slope (hspread : spread points ≠ 0) :
    IsBestFit points (slope points)
      ((sumY points - slope points * sumX points) / points.length) := by
  have hn : (points.length : K) ≠ 0 := by
    intro hzero
    rw [Nat.cast_eq_zero, List.length_eq_zero_iff] at hzero
    subst hzero
    exact hspread (by simp [spread, sumX])
  have hm : slope points * spread points =
      points.length * sumXY points - sumX points * sumY points := div_mul_cancel₀ _ hspread
  unfold spread at hm
  apply isBestFit_of_normal
  · rw [mul_div_cancel₀ _ hn]
    ring
  · field_simp
    linear_combination -hm

end Backplane.LeastSquares
