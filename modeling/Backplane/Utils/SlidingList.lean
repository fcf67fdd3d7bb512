import Backplane.General.Window
import Backplane.Utils.CircularBuffer

/-!
# The circular buffer is a sliding list

`CCircularBuffer` over any calls of `AddSample` and `Fill`, against the window they describe
(`Window.contents`).

Results:
* `samples_applyAll`: read from its oldest place on, the array is that window.
* `at_eq`, `getElem?_realIndex`, `oldestSample_eq`: `operator[]` and `OldestSample` are always
  right.
* `newestSample_eq_iff`: `NewestSample` steps back from `oldest_index` without the wrap it means to
  make, so it is right iff `oldest_index` is not 0.
* `refines_sliding_list_iff`: `oldest_index` is 0 once every `Length` additions.
-/

namespace Backplane.Utils

open Backplane.Run Backplane.Window

variable {ValueT : Type} {Length : Nat}

/-- One call of a buffer. -/
def CCircularBuffer.apply (b : CCircularBuffer ValueT Length) :
    Op ValueT → CCircularBuffer ValueT Length
  | .add value => b.addSample value
  | .fill value => b.fill value

/-- Calls in order. -/
def CCircularBuffer.applyAll (b : CCircularBuffer ValueT Length) (ops : List (Op ValueT)) :
    CCircularBuffer ValueT Length :=
  run CCircularBuffer.apply b ops

/-- The samples, oldest first. -/
def CCircularBuffer.samples (b : CCircularBuffer ValueT Length) : List ValueT :=
  b.underlying.toList.rotate b.oldest_index

/-! ## One call -/

theorem length_samples (b : CCircularBuffer ValueT Length) : b.samples.length = Length := by
  unfold CCircularBuffer.samples
  rw [List.length_rotate, Vector.length_toList]

theorem samples_new [NeZero Length] (initial_value : ValueT) :
    (CCircularBuffer.new initial_value : CCircularBuffer ValueT Length).samples =
      List.replicate Length initial_value := by
  unfold CCircularBuffer.samples CCircularBuffer.new
  rw [Vector.toList_replicate, List.rotate_replicate]

theorem samples_fill (b : CCircularBuffer ValueT Length) (value : ValueT) :
    (b.fill value).samples = List.replicate Length value := by
  unfold CCircularBuffer.samples CCircularBuffer.fill
  rw [Vector.toList_replicate, List.rotate_replicate]

theorem samples_addSample (b : CCircularBuffer ValueT Length) (value : ValueT) :
    (b.addSample value).samples = slide b.samples value := by
  have hlt : b.oldest_index < b.underlying.toList.length := by
    rw [Vector.length_toList]
    exact b.oldest_index_lt
  have h := rotate_set hlt value
  rw [Vector.length_toList] at h
  unfold CCircularBuffer.samples CCircularBuffer.addSample
  rw [Vector.toList_set]
  exact h

theorem at_eq (b : CCircularBuffer ValueT Length) {index : Nat} (h : index < Length) :
    b.samples[index]? = some (b.at index) := by
  have hlen : b.underlying.toList.length = Length := Vector.length_toList
  have hmod : (b.oldest_index + index) % Length < Length := Nat.mod_lt _ (Nat.zero_lt_of_lt h)
  unfold CCircularBuffer.samples CCircularBuffer.at
  rw [getElem?_rotate _ _ (by rwa [hlen]), hlen, List.getElem?_eq_getElem (by rwa [hlen])]
  rfl

/-- `operator[]` with its index in `std::size_t`. No object is larger than half the address space,
so two indices add up. -/
theorem getElem?_realIndex {SIZE_MAX : Nat} (b : CCircularBuffer ValueT Length)
    (hsize : 2 * Length ≤ SIZE_MAX + 1) {index : Nat} (h : index < Length) :
    b.underlying.toList[b.realIndex SIZE_MAX index]? = some (b.at index) := by
  have hlt := b.oldest_index_lt
  have hmod : (b.oldest_index + index) % Length < b.underlying.toList.length := by
    rw [Vector.length_toList]
    exact Nat.mod_lt _ (Nat.zero_lt_of_lt h)
  unfold CCircularBuffer.realIndex CCircularBuffer.at
  simp only [Nat.mod_eq_of_lt (show b.oldest_index + index < SIZE_MAX + 1 by omega)]
  rw [List.getElem?_eq_getElem hmod]
  rfl

theorem oldestSample_eq (b : CCircularBuffer ValueT Length) :
    b.samples.head? = some b.oldestSample := by
  have h := at_eq b (Nat.zero_lt_of_lt b.oldest_index_lt)
  rw [List.head?_eq_getElem?, h]
  unfold CCircularBuffer.at CCircularBuffer.oldestSample
  simp only [Nat.add_zero, Nat.mod_eq_of_lt b.oldest_index_lt]

/-! ## The newest sample -/

theorem newestIndex_eq {SIZE_MAX : Nat} (b : CCircularBuffer ValueT Length)
    (hsize : Length ≤ SIZE_MAX) :
    b.newestIndex SIZE_MAX = if b.oldest_index = 0 then SIZE_MAX else b.oldest_index - 1 := by
  have hlt := b.oldest_index_lt
  unfold CCircularBuffer.newestIndex
  rw [if_neg (Nat.not_lt_zero _)]
  split
  · rename_i hzero
    rw [hzero, Nat.zero_add, Nat.mod_eq_of_lt (Nat.lt_succ_self _)]
  · rename_i hpos
    rw [show b.oldest_index + SIZE_MAX = b.oldest_index - 1 + (SIZE_MAX + 1) by omega,
      Nat.add_mod_right, Nat.mod_eq_of_lt (by omega)]

/-- **`NewestSample` is the newest sample** iff `oldest_index` is not 0; otherwise it reads outside
the array. -/
theorem newestSample_eq_iff {SIZE_MAX : Nat} (b : CCircularBuffer ValueT Length)
    (hsize : Length ≤ SIZE_MAX) :
    b.newestSample SIZE_MAX = b.samples.getLast? ↔ b.oldest_index ≠ 0 := by
  have hlt := b.oldest_index_lt
  have hlen : b.underlying.toList.length = Length := Vector.length_toList
  have hlast : b.samples.getLast? =
      b.underlying.toList[(b.oldest_index + (Length - 1)) % Length]? := by
    have h := getElem?_rotate b.underlying.toList b.oldest_index (i := Length - 1) (by omega)
    rw [hlen] at h
    rw [List.getLast?_eq_getElem?, length_samples, ← h]
    rfl
  unfold CCircularBuffer.newestSample
  rw [hlast, newestIndex_eq b hsize]
  constructor
  · intro h hzero
    have hmod : (b.oldest_index + (Length - 1)) % Length < b.underlying.toList.length := by
      rw [hlen]
      exact Nat.mod_lt _ (by omega)
    rw [if_pos hzero, List.getElem?_eq_none (by omega), List.getElem?_eq_getElem hmod] at h
    cases h
  · intro hpos
    rw [if_neg hpos, show b.oldest_index + (Length - 1) = b.oldest_index - 1 + Length by omega,
      Nat.add_mod_right, Nat.mod_eq_of_lt (by omega)]

/-! ## Any calls -/

section Calls

variable [NeZero Length] (initial_value : ValueT) (ops : List (Op ValueT))

/-- **The array is the window**, read from its oldest place on. -/
theorem samples_applyAll :
    ((CCircularBuffer.new initial_value : CCircularBuffer ValueT Length).applyAll ops).samples =
      contents Length initial_value ops := by
  refine run_induction (motive := fun ops (b : CCircularBuffer ValueT Length) =>
    b.samples = contents Length initial_value ops) ?_ (fun ops op ih => ?_) ops
  · rw [samples_new, contents_nil]
  · cases op with
    | add value =>
      rw [contents_add _ _ (Nat.pos_of_neZero Length), ← ih]
      exact samples_addSample _ value
    | fill value =>
      rw [contents_fill]
      exact samples_fill _ value

/-- Filling leaves the index, adding moves it. -/
theorem oldest_index_applyAll :
    ((CCircularBuffer.new initial_value : CCircularBuffer ValueT Length).applyAll ops).oldest_index
      = additions ops % Length := by
  refine run_induction (motive := fun ops (b : CCircularBuffer ValueT Length) =>
    b.oldest_index = additions ops % Length) ?_ (fun ops op ih => ?_) ops
  · exact (Nat.zero_mod Length).symm
  · unfold additions at ih ⊢
    rw [List.countP_append]
    cases op with
    | add value =>
      rw [List.countP_singleton, if_pos rfl, ← Nat.mod_add_mod, ← ih]
      rfl
    | fill value =>
      rw [List.countP_singleton, if_neg (by simp), Nat.add_zero, ← ih]
      rfl

end Calls

/-- What the accessors read, in range, is the list `w`. -/
structure CCircularBuffer.Refines (SIZE_MAX : Nat) (b : CCircularBuffer ValueT Length)
    (w : List ValueT) : Prop where
  size : w.length = b.size
  indexed : ∀ index, index < b.size → w[index]? = b.underlying.toList[b.realIndex SIZE_MAX index]?
  oldest : w.head? = some b.oldestSample
  newest : w.getLast? = b.newestSample SIZE_MAX

theorem refines_samples_iff {SIZE_MAX : Nat} (hsize : 2 * Length ≤ SIZE_MAX + 1)
    (b : CCircularBuffer ValueT Length) :
    b.Refines SIZE_MAX b.samples ↔ b.oldest_index ≠ 0 := by
  have hlt := b.oldest_index_lt
  have hfits : Length ≤ SIZE_MAX := by omega
  constructor
  · intro h
    exact (newestSample_eq_iff b hfits).mp h.newest.symm
  · intro h
    exact ⟨length_samples b,
      fun index hi => (at_eq b hi).trans (getElem?_realIndex b hsize hi).symm,
      oldestSample_eq b, ((newestSample_eq_iff b hfits).mpr h).symm⟩

/-- **The buffer refines the sliding list** iff the additions so far are no multiple of its
length. -/
theorem refines_sliding_list_iff {SIZE_MAX : Nat} [NeZero Length]
    (hsize : 2 * Length ≤ SIZE_MAX + 1) (initial_value : ValueT) (ops : List (Op ValueT)) :
    ((CCircularBuffer.new initial_value : CCircularBuffer ValueT Length).applyAll ops).Refines
        SIZE_MAX (contents Length initial_value ops) ↔ ¬ Length ∣ additions ops := by
  rw [← samples_applyAll, refines_samples_iff hsize, oldest_index_applyAll, ne_eq,
    Nat.dvd_iff_mod_eq_zero]

/-- One sample in a buffer of two. -/
theorem refines_sliding_list_after_one :
    ((CCircularBuffer.new 0 : CCircularBuffer Nat 2).applyAll [.add 7]).Refines (2 ^ 32 - 1)
      (contents 2 0 [.add 7]) :=
  (refines_sliding_list_iff (by decide) 0 [.add 7]).mpr (by decide)

/-- Two samples in a buffer of two: `NewestSample` reads `underlying[SIZE_MAX]`. -/
theorem not_refines_sliding_list_full :
    ¬ ((CCircularBuffer.new 0 : CCircularBuffer Nat 2).applyAll [.add 7, .add 8]).Refines
      (2 ^ 32 - 1) (contents 2 0 [.add 7, .add 8]) := by
  intro h
  have hnewest := h.newest
  have hnone : ((CCircularBuffer.new 0 : CCircularBuffer Nat 2).applyAll
      [.add 7, .add 8]).newestSample (2 ^ 32 - 1) = none := by decide +kernel
  rw [hnone] at hnewest
  exact absurd hnewest (by decide)

end Backplane.Utils
