import Mathlib.Algebra.Order.Field.Basic
import Mathlib.Tactic.LinearCombination
import Mathlib.Tactic.Ring

/-!
# Lines through points

The line through the points `(time k, value k)` for `k < n`, in the order of their times: straight
between two points, and level before the first and after the last. `OnLine` relates a time to the
values there, so that points of one time are allowed.

Results:
* `OnLine.at_point`: it goes through them.
* `OnLine.unique`: it has one value at a time, where the times are all different.
-/

namespace Backplane.Polyline

variable {K : Type*} [Field K] [LinearOrder K]

/-- `v` is a value of the line at `t`. -/
inductive OnLine (n : Nat) (time value : Nat → K) (t : K) : K → Prop
  | before (h : t < time 0) : OnLine n time value t (value 0)
  | after (h : time (n - 1) < t) : OnLine n time value t (value (n - 1))
  | between {v : K} (i : Nat) (hi : i + 1 < n) (hlt : time i < time (i + 1)) (hlo : time i ≤ t)
      (hhi : t ≤ time (i + 1))
      (hv : (time (i + 1) - time i) * v = value i * (time (i + 1) - t) +
        value (i + 1) * (t - time i)) : OnLine n time value t v

variable [IsStrictOrderedRing K] {n : Nat} {time value : Nat → K} {t v w : K}

/-! ## Times that are all different -/

variable (hmono : ∀ i j, i < j → j < n → time i < time j)
include hmono

omit [Field K] [IsStrictOrderedRing K] in
theorem time_le (i j : Nat) (hij : i ≤ j) (hj : j < n) : time i ≤ time j := by
  rcases hij.eq_or_lt with rfl | hlt
  · exact le_rfl
  · exact (hmono i j hlt hj).le

/-- **The line goes through its points.** -/
theorem OnLine.at_point {k : Nat} (hk : k < n) (h : OnLine n time value (time k) v) :
    v = value k := by
  have hle := time_le hmono
  cases h with
  | before h => exact absurd h (hle 0 k (Nat.zero_le k) hk).not_gt
  | after h => exact absurd h (hle k (n - 1) (Nat.le_sub_one_of_lt hk) (by omega)).not_gt
  | between i hi hlt hlo hhi hv =>
    have hne : time (i + 1) - time i ≠ 0 := (sub_pos.mpr hlt).ne'
    have hik : i ≤ k := by
      by_contra hnot
      exact absurd (hmono k i (Nat.lt_of_not_le hnot) (by omega)) hlo.not_gt
    have hki : k ≤ i + 1 := by
      by_contra hnot
      exact absurd (hmono (i + 1) k (Nat.lt_of_not_le hnot) hk) hhi.not_gt
    refine mul_left_cancel₀ hne (hv.trans ?_)
    rcases Nat.eq_or_lt_of_le hik with rfl | hlt'
    · ring
    · obtain rfl : k = i + 1 := by omega
      ring

/-- **The line has one value at a time.** -/
theorem OnLine.unique (hv : OnLine n time value t v) (hw : OnLine n time value t w) : v = w := by
  have hle := time_le hmono
  -- at a point there is one value, and two pieces meet in a point
  have hpoint : ∀ k < n, t = time k → v = w := by
    rintro k hk rfl
    exact (hv.at_point hmono hk).trans (hw.at_point hmono hk).symm
  cases hv with
  | before h =>
    cases hw with
    | before h' => rfl
    | after h' =>
      rcases Nat.eq_zero_or_pos n with rfl | hn
      · exact absurd (h.trans h') (lt_irrefl _)
      · exact absurd (h.trans_le (hle 0 (n - 1) (Nat.zero_le _) (by omega))) h'.not_gt
    | between j hj hlt' hlo' hhi' hv' =>
      exact absurd (h.trans_le (hle 0 j (Nat.zero_le j) (by omega))) hlo'.not_gt
  | after h =>
    cases hw with
    | before h' =>
      rcases Nat.eq_zero_or_pos n with rfl | hn
      · exact absurd (h.trans h') (lt_irrefl _)
      · exact absurd (h'.trans_le (hle 0 (n - 1) (Nat.zero_le _) (by omega))) h.not_gt
    | after h' => rfl
    | between j hj hlt' hlo' hhi' hv' =>
      exact absurd (hhi'.trans (hle (j + 1) (n - 1) (by omega) (by omega))) h.not_ge
  | between i hi hlt hlo hhi hv =>
    cases hw with
    | before h' => exact absurd (h'.trans_le (hle 0 i (Nat.zero_le i) (by omega))) hlo.not_gt
    | after h' => exact absurd (hhi.trans (hle (i + 1) (n - 1) (by omega) (by omega))) h'.not_ge
    | between j hj hlt' hlo' hhi' hw =>
      rcases Nat.lt_trichotomy i j with hij | rfl | hji
      · exact hpoint (i + 1) hi (le_antisymm hhi ((hle (i + 1) j hij (by omega)).trans hlo'))
      · exact mul_left_cancel₀ (sub_pos.mpr hlt).ne' (hv.trans hw.symm)
      · exact hpoint (j + 1) hj (le_antisymm hhi' ((hle (j + 1) i hji (by omega)).trans hlo))

end Backplane.Polyline
