import Backplane.Utils.LinearFit
import Backplane.Utils.SlidingList
import Mathlib.Algebra.Order.Ring.Rat

/-!
# The rolling sum is the sum of the window

`CRollingSum` and `CMovingAverage` over any calls of `Feed` and `Fill`. The total is kept up to
date by a subtraction and an addition; in a commutative group it stays the sum of the samples that
the circular buffer holds.

Results:
* `sum_applyAll`: `Sum` is the sum of the window.
* `rolling_sum_correct`: so is `Avg` times the length, and the four totals of a linear fit.
* `sum_recovers_iff`: in a group with an absorbing invalid value, one invalid sample stays in the
  total when it has left the window.
-/

namespace Backplane.Utils

open Backplane.Run Backplane.Window

variable {T : Type} {len : Nat}

/-- One call of a rolling sum. -/
def CRollingSum.apply [Add T] [Sub T] (r : CRollingSum T len) : Op T → CRollingSum T len
  | .add new_value => r.feed new_value
  | .fill start => r.fill start

/-- Calls in order. -/
def CRollingSum.applyAll [Add T] [Sub T] (r : CRollingSum T len) (ops : List (Op T)) :
    CRollingSum T len :=
  run CRollingSum.apply r ops

/-- One call of a moving average. -/
def CMovingAverage.apply [Add T] [Sub T] (m : CMovingAverage T len) : Op T → CMovingAverage T len
  | .add value => m.feed value
  | .fill start => m.fill start

/-- Calls in order. -/
def CMovingAverage.applyAll [Add T] [Sub T] (m : CMovingAverage T len) (ops : List (Op T)) :
    CMovingAverage T len :=
  run CMovingAverage.apply m ops

theorem applyAll_snoc [Add T] [Sub T] (r : CRollingSum T len) (ops : List (Op T)) (op : Op T) :
    r.applyAll (ops ++ [op]) = (r.applyAll ops).apply op :=
  run_snoc ops op

/-! ## The buffer of a rolling sum -/

section Buffer

variable [Add T] [Sub T] [NeZero len] (start : T) (ops : List (Op T))

theorem buf_applyAll :
    ((CRollingSum.new start : CRollingSum T len).applyAll ops).buf =
      (CCircularBuffer.new start).applyAll ops := by
  refine run_hom CRollingSum.buf (fun r op => ?_) ops
  cases op <;> rfl

variable (len) in
/-- The sample that leaves with the next one is the oldest of the window. -/
theorem head?_contents :
    (contents len start ops).head? =
      some ((CRollingSum.new start : CRollingSum T len).applyAll ops).buf.oldestSample := by
  rw [buf_applyAll, ← samples_applyAll, oldestSample_eq]

theorem rolling_sum_applyAll :
    ((CMovingAverage.new start : CMovingAverage T len).applyAll ops).rolling_sum =
      (CRollingSum.new start).applyAll ops := by
  refine run_hom CMovingAverage.rolling_sum (fun m op => ?_) ops
  cases op <;> rfl

end Buffer

/-- `Fill` starts from the oldest sample and adds the others, all the same. -/
theorem fill_total [Add T] (r : CRollingSum T len) (start : T) :
    (r.fill start).total =
      (List.range' 1 (len - 1)).foldl (fun total _ => total + start) start := by
  have hat : ∀ i, (r.buf.fill start).at i = start := by
    intro i
    unfold CCircularBuffer.at CCircularBuffer.fill
    exact Vector.getElem_replicate _
  have holdest : (r.buf.fill start).oldestSample = start := by
    unfold CCircularBuffer.oldestSample CCircularBuffer.fill
    exact Vector.getElem_replicate _
  unfold CRollingSum.fill
  simp only [hat, holdest]
  rfl

/-! ## In a commutative group -/

section Group

variable [AddCommGroup T] [NeZero len]

theorem foldl_add_const (start total : T) (l : List Nat) :
    l.foldl (fun total _ => total + start) total = total + l.length • start := by
  induction l generalizing total with
  | nil => rw [List.foldl_nil, List.length_nil, zero_nsmul, add_zero]
  | cons i l ih => rw [List.foldl_cons, ih, List.length_cons, succ_nsmul', add_assoc]

theorem fill_total_eq (r : CRollingSum T len) (start : T) :
    (r.fill start).total = (List.replicate len start).sum := by
  have hpos := Nat.pos_of_neZero len
  rw [fill_total, foldl_add_const, List.length_range', List.sum_replicate, ← succ_nsmul',
    Nat.sub_add_cancel hpos]

/-- **`Sum` is the sum of the window**, after any calls. -/
theorem sum_applyAll (start : T) (ops : List (Op T)) :
    ((CRollingSum.new start : CRollingSum T len).applyAll ops).sum =
      (contents len start ops).sum := by
  induction ops using List.reverseRecOn with
  | nil =>
    rw [contents_nil]
    exact fill_total_eq _ start
  | append_singleton ops op ih =>
    rw [applyAll_snoc]
    cases op with
    | add new_value =>
      rw [contents_add _ _ (Nat.pos_of_neZero len), sum_slide (head?_contents len start ops), ← ih]
      rfl
    | fill value =>
      rw [contents_fill]
      exact fill_total_eq _ value

end Group

/-! ## The totals of a linear fit -/

instance [Zero T] : Zero (LinearFitSample T) where
  zero := { x := 0, y := 0, xx := 0, xy := 0 }

instance [Neg T] : Neg (LinearFitSample T) where
  neg a := { x := -a.x, y := -a.y, xx := -a.xx, xy := -a.xy }

/-- The sums and differences of samples are those of a group. -/
instance [AddCommGroup T] : AddCommGroup (LinearFitSample T) where
  add_assoc a b c := LinearFitSample.ext (add_assoc ..) (add_assoc ..) (add_assoc ..) (add_assoc ..)
  zero_add a := LinearFitSample.ext (zero_add _) (zero_add _) (zero_add _) (zero_add _)
  add_zero a := LinearFitSample.ext (add_zero _) (add_zero _) (add_zero _) (add_zero _)
  add_comm a b := LinearFitSample.ext (add_comm ..) (add_comm ..) (add_comm ..) (add_comm ..)
  neg_add_cancel a := LinearFitSample.ext (neg_add_cancel _) (neg_add_cancel _) (neg_add_cancel _)
    (neg_add_cancel _)
  sub_eq_add_neg a b := LinearFitSample.ext (sub_eq_add_neg ..) (sub_eq_add_neg ..)
    (sub_eq_add_neg ..) (sub_eq_add_neg ..)
  nsmul := nsmulRec
  zsmul := zsmulRec

/-- A sum of samples is taken field by field. -/
theorem sum_linearFitSample [AddCommGroup T] (l : List (LinearFitSample T)) :
    l.sum = { x := (l.map (·.x)).sum, y := (l.map (·.y)).sum, xx := (l.map (·.xx)).sum,
              xy := (l.map (·.xy)).sum } := by
  induction l with
  | nil => rfl
  | cons a l ih => rw [List.sum_cons, ih]; rfl

/-- The sample `LinearFitSample(x, y)` of a point. -/
def LinearFitSample.ofPoint [Mul T] (p : T × T) : LinearFitSample T := LinearFitSample.new p.1 p.2

/-- **The four totals of a linear fit** are the sums over the points of the window. -/
theorem sum_applyAll_points [Ring T] [NeZero len] (start : T × T) (ops : List (Op (T × T))) :
    ((CRollingSum.new (LinearFitSample.ofPoint start) :
        CRollingSum (LinearFitSample T) len).applyAll
          (ops.map (Op.map LinearFitSample.ofPoint))).sum =
      { x := ((contents len start ops).map fun p => p.1).sum
        y := ((contents len start ops).map fun p => p.2).sum
        xx := ((contents len start ops).map fun p => p.1 * p.1).sum
        xy := ((contents len start ops).map fun p => p.1 * p.2).sum } := by
  rw [sum_applyAll, contents_map, sum_linearFitSample]
  simp only [List.map_map]
  rfl

/-- **Rolling sums are sums of the window**, moving averages their quotient by the length, and the
totals of a linear fit the sums over its points. -/
theorem rolling_sum_correct (len : Nat) [NeZero len] :
    (∀ (T : Type) [AddCommGroup T] (start : T) (ops : List (Op T)),
      ((CRollingSum.new start : CRollingSum T len).applyAll ops).sum =
        (contents len start ops).sum) ∧
    (∀ (T : Type) [AddCommGroup T] [Div T] [NatCast T] (start : T) (ops : List (Op T)),
      ((CMovingAverage.new start : CMovingAverage T len).applyAll ops).avg =
        (contents len start ops).sum / (len : T)) ∧
    ∀ (start : ℚ × ℚ) (ops : List (Op (ℚ × ℚ))),
      ((CRollingSum.new (LinearFitSample.ofPoint start) :
          CRollingSum (LinearFitSample ℚ) len).applyAll
            (ops.map (Op.map LinearFitSample.ofPoint))).sum =
        { x := ((contents len start ops).map fun p => p.1).sum
          y := ((contents len start ops).map fun p => p.2).sum
          xx := ((contents len start ops).map fun p => p.1 * p.1).sum
          xy := ((contents len start ops).map fun p => p.1 * p.2).sum } := by
  refine ⟨fun T _ start ops => sum_applyAll start ops, fun T _ _ _ start ops => ?_,
    fun start ops => sum_applyAll_points start ops⟩
  unfold CMovingAverage.avg
  rw [rolling_sum_applyAll, sum_applyAll]

/-- Three samples through a window of two, filled in between. -/
theorem rolling_sum_correct_three :
    ((CRollingSum.new 3 : CRollingSum ℤ 2).applyAll [.add 1, .fill 4, .add 5, .add 6, .add 7]).sum
      = 13 :=
  ((rolling_sum_correct 2).1 ℤ 3 [.add 1, .fill 4, .add 5, .add 6, .add 7]).trans (by decide)

/-! ## Invalid samples -/

/-- **A map that keeps sums and differences** carries the total over. -/
theorem sum_map [Add T] [Sub T] {G : Type} [Add G] [Sub G] {f : G → T}
    (hadd : ∀ a b, f (a + b) = f a + f b) (hsub : ∀ a b, f (a - b) = f a - f b) [NeZero len]
    (start : G) (ops : List (Op G)) :
    ((CRollingSum.new (f start) : CRollingSum T len).applyAll (ops.map (Op.map f))).sum =
      f ((CRollingSum.new start : CRollingSum G len).applyAll ops).sum := by
  have hfill : ∀ (l : List Nat) (start total : G),
      l.foldl (fun total _ => total + f start) (f total) =
        f (l.foldl (fun total _ => total + start) total) := by
    intro l start
    induction l with
    | nil => exact fun total => rfl
    | cons i l ih =>
      intro total
      rw [List.foldl_cons, List.foldl_cons, ← hadd, ih]
  induction ops using List.reverseRecOn with
  | nil =>
    show (CRollingSum.fill _ (f start)).total = f (CRollingSum.fill _ start).total
    rw [fill_total, fill_total, hfill]
  | append_singleton ops op ih =>
    rw [List.map_append, List.map_singleton, applyAll_snoc, applyAll_snoc]
    cases op with
    | add new_value =>
      -- the two buffers lose images of each other
      have hold := head?_contents len (f start) (ops.map (Op.map f))
      rw [contents_map, List.head?_map, head?_contents len start ops, Option.map_some,
        Option.some_inj] at hold
      show CRollingSum.sum _ - CCircularBuffer.oldestSample _ + f new_value =
        f (CRollingSum.sum _ - CCircularBuffer.oldestSample _ + new_value)
      rw [ih, ← hold, hadd, hsub]
    | fill value =>
      show (CRollingSum.fill _ (f value)).total = f (CRollingSum.fill _ value).total
      rw [fill_total, fill_total, hfill]

/-- The values of `T` are those of a group and one that is not valid, which any sum or difference
with it keeps. -/
structure Absorbing {G : Type} [AddCommGroup G] [Add T] [Sub T] (valid : G → T) (invalid : T) :
    Prop where
  valid_or : ∀ t, t = invalid ∨ ∃ a, t = valid a
  valid_ne : ∀ a, valid a ≠ invalid
  add_valid : ∀ a b, valid (a + b) = valid a + valid b
  sub_valid : ∀ a b, valid (a - b) = valid a - valid b
  invalid_add : ∀ t, invalid + t = invalid
  add_invalid : ∀ t, t + invalid = invalid
  invalid_sub : ∀ t, invalid - t = invalid
  sub_invalid : ∀ t, t - invalid = invalid

section Absorbing

variable {G : Type} [AddCommGroup G] [Add T] [Sub T] {valid : G → T} {invalid : T}

/-- An invalid total stays, whatever is fed. -/
theorem sum_feed_invalid (h : Absorbing valid invalid) {r : CRollingSum T len}
    (hr : r.sum = invalid) (samples : List T) :
    (r.applyAll (samples.map .add)).sum = invalid := by
  induction samples generalizing r with
  | nil => exact hr
  | cons a samples ih =>
    refine ih (r := r.feed a) ?_
    show r.sum - r.buf.oldestSample + a = invalid
    rw [hr, h.invalid_sub, h.invalid_add]

theorem fill_invalid (h : Absorbing valid invalid) (r : CRollingSum T len) :
    (r.fill invalid).sum = invalid := by
  show (r.fill invalid).total = invalid
  rw [fill_total]
  generalize List.range' 1 (len - 1) = l
  induction l with
  | nil => rfl
  | cons i l ih => rw [List.foldl_cons, h.invalid_add, ih]

theorem sum_of_invalid_mem (h : Absorbing valid invalid) (r : CRollingSum T len)
    {samples : List T} (hmem : invalid ∈ samples) :
    (r.applyAll (samples.map .add)).sum = invalid := by
  obtain ⟨pre, post, rfl⟩ := List.append_of_mem hmem
  have hsplit : r.applyAll ((pre ++ invalid :: post).map .add) =
      ((r.applyAll (pre.map .add)).feed invalid).applyAll (post.map .add) := by
    unfold CRollingSum.applyAll
    rw [List.map_append, run_append]
    rfl
  rw [hsplit]
  refine sum_feed_invalid h ?_ post
  show _ - _ + invalid = invalid
  exact h.add_invalid _

/-- Values none of which is invalid. -/
theorem exists_map_valid (h : Absorbing valid invalid) {samples : List T}
    (hmem : invalid ∉ samples) : ∃ l : List G, samples = l.map valid := by
  induction samples with
  | nil => exact ⟨[], rfl⟩
  | cons t samples ih =>
    obtain ⟨l, rfl⟩ := ih fun hin => hmem (List.mem_cons_of_mem _ hin)
    rcases h.valid_or t with rfl | ⟨a, rfl⟩
    · exact absurd List.mem_cons_self hmem
    · exact ⟨a :: l, rfl⟩

/-- **The total is again that of the window** iff no sample was ever invalid, the start value
included: an invalid one that has left the window stays in the total. -/
theorem sum_recovers_iff (h : Absorbing valid invalid) [NeZero len] (start : T) (samples : List T)
    {window : List G} (hwindow : window.length = len) :
    ((CRollingSum.new start : CRollingSum T len).applyAll
        ((samples ++ window.map valid).map .add)).sum = valid window.sum ↔
      invalid ∉ start :: samples := by
  constructor
  · intro hsum hmem
    have hinvalid : ((CRollingSum.new start : CRollingSum T len).applyAll
        ((samples ++ window.map valid).map .add)).sum = invalid := by
      rcases List.mem_cons.mp hmem with rfl | hin
      · exact sum_feed_invalid h (fill_invalid h _) _
      · exact sum_of_invalid_mem h _ (List.mem_append_left _ hin)
    exact h.valid_ne window.sum (hsum.symm.trans hinvalid)
  · intro hmem
    obtain ⟨l, hl⟩ := exists_map_valid h hmem
    obtain ⟨a, rest, rfl, rfl, rfl⟩ := List.map_eq_cons_iff.mp hl.symm
    have hops : (rest.map valid ++ window.map valid).map Op.add =
        ((rest ++ window).map Op.add).map (Op.map valid) := by
      rw [← List.map_append, List.map_map, List.map_map]
      rfl
    rw [hops, sum_map h.add_valid h.sub_valid, sum_applyAll, contents_adds,
      lastSamples_of_ge _ (by rw [List.length_append]; omega), List.length_append, hwindow,
      Nat.add_sub_cancel, List.drop_left]

end Absorbing

/-- A number that may be NaN. -/
inductive Reading (G : Type)
  | valid (a : G)
  | nan
  deriving DecidableEq

instance {G : Type} [Add G] : Add (Reading G) where
  add
    | .valid a, .valid b => .valid (a + b)
    | _, _ => .nan

instance {G : Type} [Sub G] : Sub (Reading G) where
  sub
    | .valid a, .valid b => .valid (a - b)
    | _, _ => .nan

theorem absorbing_reading (G : Type) [AddCommGroup G] :
    Absorbing (Reading.valid : G → Reading G) Reading.nan where
  valid_or t := by
    cases t with
    | valid a => exact .inr ⟨a, rfl⟩
    | nan => exact .inl rfl
  valid_ne _ := by rintro ⟨⟩
  add_valid _ _ := rfl
  sub_valid _ _ := rfl
  invalid_add _ := rfl
  add_invalid t := by cases t <;> rfl
  invalid_sub _ := rfl
  sub_invalid t := by cases t <;> rfl

/-- Valid samples only, through a window of two. -/
theorem sum_recovers_valid :
    ((CRollingSum.new (.valid 0) : CRollingSum (Reading ℤ) 2).applyAll
      (([.valid 5] ++ ([1, 2] : List ℤ).map .valid : List (Reading ℤ)).map .add)).sum =
        .valid [1, 2].sum :=
  have hwindow : ([1, 2] : List ℤ).length = 2 := rfl
  (sum_recovers_iff (absorbing_reading ℤ) (.valid 0) [.valid 5] hwindow).mpr (by decide)

/-- NaN, and then a window full of valid samples. -/
theorem sum_stays_nan :
    ((CRollingSum.new (.valid 0) : CRollingSum (Reading ℤ) 2).applyAll
      ((.nan :: [1, 2].map Reading.valid).map .add)).sum ≠ .valid 3 := by
  decide

end Backplane.Utils
