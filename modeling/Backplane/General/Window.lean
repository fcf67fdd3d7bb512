import Backplane.General.Run
import Mathlib.Algebra.BigOperators.Group.List.Basic
import Mathlib.Algebra.Order.Ring.Int
import Mathlib.Data.List.Rotate

/-!
# Sliding windows

The last `n` samples of a stream, oldest first. A window can also be filled: it then holds one
value in every place, and what was added before is forgotten.

Results:
* `contents_add`, `contents_fill`: the window after one more operation.
* `contents_adds`, with `lastSamples_of_le` and `lastSamples_of_ge`: the window after additions
  only, until it is full and from then on.
* `sum_slide`: the sum of a window is kept by a subtraction and an addition.
* `rotate_set`: a window stored round an array, which overwrites its oldest place.
-/

namespace Backplane.Window

open Backplane.Run

variable {α β : Type*}

/-- What is done to a window. -/
inductive Op (α : Type*)
  | add (a : α)
  | fill (a : α)

/-- The same operation on the images of the samples. -/
def Op.map (f : α → β) : Op α → Op β
  | .add a => .add (f a)
  | .fill a => .fill (f a)

/-- The oldest sample leaves, `a` enters. -/
def slide (w : List α) (a : α) : List α := w.tail ++ [a]

/-- The last `n` of `samples`, with `pad` for those that are missing. -/
def lastSamples (n : Nat) (pad : α) (samples : List α) : List α :=
  (List.replicate n pad ++ samples).drop samples.length

/-- The value of the last fill and the samples added since. -/
def since (init : α) (ops : List (Op α)) : α × List α :=
  run (fun s op => match op with
    | .add a => (s.1, s.2 ++ [a])
    | .fill a => (a, [])) (init, []) ops

/-- What a window of `n` samples holds after `ops`. -/
def contents (n : Nat) (init : α) (ops : List (Op α)) : List α :=
  lastSamples n (since init ops).1 (since init ops).2

/-- How many samples `ops` add. -/
def additions (ops : List (Op α)) : Nat :=
  ops.countP fun op => match op with
    | .add _ => true
    | .fill _ => false

@[simp] theorem lastSamples_nil (n : Nat) (pad : α) :
    lastSamples n pad [] = List.replicate n pad := by
  unfold lastSamples
  rw [List.append_nil, List.length_nil, List.drop_zero]

theorem lastSamples_snoc {n : Nat} (hn : 0 < n) (pad : α) (samples : List α) (a : α) :
    lastSamples n pad (samples ++ [a]) = slide (lastSamples n pad samples) a := by
  unfold lastSamples slide
  rw [List.tail_drop, ← List.append_assoc, List.length_append, List.length_singleton,
    List.drop_append_of_le_length]
  rw [List.length_append, List.length_replicate]
  omega

/-- Before the window is full. -/
theorem lastSamples_of_le {n : Nat} (pad : α) {samples : List α} (h : samples.length ≤ n) :
    lastSamples n pad samples = List.replicate (n - samples.length) pad ++ samples := by
  unfold lastSamples
  rw [List.drop_append_of_le_length (by rwa [List.length_replicate]), List.drop_replicate]

/-- Once it is full. -/
theorem lastSamples_of_ge {n : Nat} (pad : α) {samples : List α} (h : n ≤ samples.length) :
    lastSamples n pad samples = samples.drop (samples.length - n) := by
  unfold lastSamples
  rw [List.drop_append, List.length_replicate,
    List.drop_eq_nil_of_le (by rwa [List.length_replicate]), List.nil_append]

/-! ## Operations -/

section Operations

variable {n : Nat} (init : α) (ops : List (Op α))

theorem contents_nil (n : Nat) : contents n init [] = List.replicate n init :=
  lastSamples_nil n init

theorem contents_add (hn : 0 < n) (a : α) :
    contents n init (ops ++ [.add a]) = slide (contents n init ops) a := by
  unfold contents since
  rw [run_snoc]
  exact lastSamples_snoc hn _ _ a

theorem contents_fill (n : Nat) (a : α) :
    contents n init (ops ++ [.fill a]) = List.replicate n a := by
  unfold contents since
  rw [run_snoc]
  exact lastSamples_nil n a

theorem contents_map (f : α → β) (n : Nat) :
    contents n (f init) (ops.map (Op.map f)) = (contents n init ops).map f := by
  have hsince : since (f init) (ops.map (Op.map f)) =
      (f (since init ops).1, (since init ops).2.map f) := by
    induction ops using List.reverseRecOn with
    | nil => rfl
    | append_singleton ops op ih =>
      unfold since at ih ⊢
      rw [List.map_append, List.map_singleton, run_snoc, run_snoc, ih]
      cases op with
      | add a => simp [Op.map]
      | fill a => rfl
  unfold contents lastSamples
  rw [hsince, List.length_map, List.map_drop, List.map_append, List.map_replicate]

/-- After additions only. -/
theorem contents_adds (n : Nat) (samples : List α) :
    contents n init (samples.map .add) = lastSamples n init samples := by
  have hsince : since init (samples.map .add) = (init, samples) := by
    induction samples using List.reverseRecOn with
    | nil => rfl
    | append_singleton samples a ih =>
      unfold since at ih ⊢
      rw [List.map_append, List.map_singleton, run_snoc, ih]
  unfold contents
  rw [hsince]

end Operations

/-! ## The sum of a window -/

/-- **The sum of a window** after the next sample, from the sum before it. -/
theorem sum_slide {G : Type*} [AddCommGroup G] {w : List G} {oldest : G}
    (h : w.head? = some oldest) (a : G) : (slide w a).sum = w.sum - oldest + a := by
  obtain ⟨rest, rfl⟩ := List.head?_eq_some_iff.mp h
  unfold slide
  rw [List.tail_cons, List.sum_append, List.sum_singleton, List.sum_cons, add_sub_cancel_left]

/-! ## A window round an array -/

/-- **Overwriting the oldest place** of an array slides the window that starts there. -/
theorem rotate_set {slots : List α} {oldest : Nat} (h : oldest < slots.length) (a : α) :
    (slots.set oldest a).rotate ((oldest + 1) % slots.length) = slide (slots.rotate oldest) a := by
  have hmod := List.rotate_mod (slots.set oldest a) (oldest + 1)
  rw [List.length_set] at hmod
  rw [hmod, List.rotate_eq_drop_append_take (by rw [List.length_set]; exact h),
    List.rotate_eq_drop_append_take (Nat.le_of_lt h), List.drop_set_of_lt (Nat.lt_succ_self _),
    List.take_set, List.take_add_one]
  unfold slide
  rw [List.drop_eq_getElem_cons h]
  simp only [List.cons_append, List.tail_cons, List.append_assoc]
  rw [List.getElem?_eq_getElem h, Option.toList_some, List.set_append_right _ _ (by simp)]
  simp [Nat.min_eq_left (Nat.le_of_lt h)]

/-- The `i`-th sample of that window. -/
theorem getElem?_rotate (slots : List α) (oldest : Nat) {i : Nat} (hi : i < slots.length) :
    (slots.rotate oldest)[i]? = slots[(oldest + i) % slots.length]? := by
  have hmod : (oldest + i) % slots.length < slots.length := Nat.mod_lt _ (Nat.zero_lt_of_lt hi)
  rw [List.getElem?_eq_getElem (by rwa [List.length_rotate]), List.getElem_rotate,
    List.getElem?_eq_getElem hmod]
  simp only [Nat.add_comm oldest i]

end Backplane.Window
