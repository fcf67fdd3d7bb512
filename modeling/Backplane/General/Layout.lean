import Mathlib.Algebra.Order.Ring.Nat
import Mathlib.Data.List.Basic

/-!
# Layouts of records

Records of scalars, given by the sizes of their fields. A packed record puts every field right
behind the one before it; a native one starts every field at a multiple of its size. `start` is
where the first field may start.

Results:
* `native_eq_packed_iff`: the two layouts agree iff every field is aligned in the packed one.
* `unpack_flatten`: the fields of a packed record, found by their offsets.
* `chunks_append`, `chunks_drop`: the records of a file, and those behind the first few.
-/

namespace Backplane.Layout

variable {α : Type*}

/-- Where the fields of a packed record start. -/
def packed : Nat → List Nat → List Nat
  | _, [] => []
  | start, s :: sizes => start :: packed (start + s) sizes

/-- The first multiple of `s` from `n` on. -/
def align (n s : Nat) : Nat := n + (s - n % s) % s

/-- Where the fields of a native record start. -/
def native : Nat → List Nat → List Nat
  | _, [] => []
  | start, s :: sizes => align start s :: native (align start s + s) sizes

/-- Where a native record ends. -/
def nativeEnd : Nat → List Nat → Nat
  | start, [] => start
  | start, s :: sizes => nativeEnd (align start s + s) sizes

/-- Every field of the packed record starts at a multiple of its size. -/
def Aligned : Nat → List Nat → Prop
  | _, [] => True
  | start, s :: sizes => s ∣ start ∧ Aligned (start + s) sizes

instance decidableAligned : ∀ start sizes, Decidable (Aligned start sizes)
  | _, [] => inferInstanceAs (Decidable True)
  | start, s :: sizes =>
    have := decidableAligned (start + s) sizes
    inferInstanceAs (Decidable (s ∣ start ∧ Aligned (start + s) sizes))

theorem align_eq_iff {n s : Nat} (hs : 0 < s) : align n s = n ↔ s ∣ n := by
  have hlt : n % s < s := Nat.mod_lt n hs
  unfold align
  rw [Nat.dvd_iff_mod_eq_zero, Nat.add_eq_left]
  constructor
  · intro h
    by_contra hne
    rw [Nat.mod_eq_of_lt (by omega)] at h
    omega
  · intro h
    rw [h, Nat.sub_zero, Nat.mod_self]

/-- **The two layouts agree iff every field is aligned in the packed one.** -/
theorem native_eq_packed_iff {sizes : List Nat} (hsizes : ∀ s ∈ sizes, 0 < s) (start : Nat) :
    native start sizes = packed start sizes ↔ Aligned start sizes := by
  induction sizes generalizing start with
  | nil => exact iff_of_true rfl trivial
  | cons s sizes ih =>
    obtain ⟨hs, hrest⟩ := List.forall_mem_cons.mp hsizes
    rw [native, packed, Aligned, List.cons_eq_cons, align_eq_iff hs]
    refine and_congr_right fun hdvd => ?_
    rw [(align_eq_iff hs).mpr hdvd]
    exact ih hrest (start + s)

theorem nativeEnd_of_aligned {sizes : List Nat} (hsizes : ∀ s ∈ sizes, 0 < s) {start : Nat}
    (h : Aligned start sizes) : nativeEnd start sizes = start + sizes.sum := by
  induction sizes generalizing start with
  | nil => rfl
  | cons s sizes ih =>
    obtain ⟨hs, hrest⟩ := List.forall_mem_cons.mp hsizes
    rw [nativeEnd, (align_eq_iff hs).mpr h.1, ih hrest h.2, List.sum_cons, Nat.add_assoc]

/-- The fields that start at these offsets. -/
def unpack (offsets sizes : List Nat) (record : List α) : List (List α) :=
  List.zipWith (fun offset size => (record.drop offset).take size) offsets sizes

/-- The fields of a packed record, behind `before`. -/
theorem unpack_packed (before : List α) (fields : List (List α)) :
    unpack (packed before.length (fields.map List.length)) (fields.map List.length)
      (before ++ fields.flatten) = fields := by
  induction fields generalizing before with
  | nil => rfl
  | cons field fields ih =>
    have hrest := ih (before ++ field)
    rw [List.append_assoc, List.length_append] at hrest
    rw [List.map_cons, packed, unpack, List.zipWith_cons_cons, List.flatten_cons,
      List.drop_left' rfl, List.take_left' rfl]
    exact congrArg _ hrest

/-- **The fields of a packed record**, at the offsets of a native one if it is aligned. -/
theorem unpack_flatten {fields : List (List α)} {sizes : List Nat}
    (hfields : fields.map List.length = sizes) (hsizes : ∀ s ∈ sizes, 0 < s)
    (h : Aligned 0 sizes) : unpack (native 0 sizes) sizes fields.flatten = fields := by
  rw [(native_eq_packed_iff hsizes 0).mpr h, ← hfields]
  exact unpack_packed [] fields

/-! ## Files of records -/

/-- The whole records of `size` bytes in a file. -/
def chunks (size : Nat) (data : List α) : List (List α) :=
  (List.range (data.length / size)).map fun i => (data.drop (i * size)).take size

theorem chunks_cons {size : Nat} (hsize : 0 < size) {record : List α} (h : record.length = size)
    (data : List α) : chunks size (record ++ data) = record :: chunks size data := by
  have hlen : (record ++ data).length / size = data.length / size + 1 := by
    rw [List.length_append, h, Nat.add_comm, Nat.add_div_right _ hsize]
  unfold chunks
  rw [hlen, List.range_succ_eq_map, List.map_cons, List.map_map, Nat.zero_mul, List.drop_zero,
    List.take_left' h]
  refine congrArg _ (List.map_congr_left fun i _ => ?_)
  show ((record ++ data).drop ((i + 1) * size)).take size = _
  rw [Nat.succ_mul, Nat.add_comm, ← h, List.drop_length_add_append]

/-- **The records of a file**, and what is left of it. -/
theorem chunks_append {size : Nat} (hsize : 0 < size) {records : List (List α)}
    (h : ∀ record ∈ records, record.length = size) (rest : List α) :
    chunks size (records.flatten ++ rest) = records ++ chunks size rest := by
  induction records with
  | nil => rfl
  | cons record records ih =>
    obtain ⟨hrecord, hrecords⟩ := List.forall_mem_cons.mp h
    rw [List.flatten_cons, List.append_assoc, chunks_cons hsize hrecord, ih hrecords,
      List.cons_append]

/-- The records behind the first `k`. -/
theorem chunks_drop (size : Nat) (data : List α) (k : Nat) :
    chunks size (data.drop (k * size)) = (chunks size data).drop k := by
  unfold chunks
  rw [List.length_drop, Nat.mul_comm k size, Nat.sub_mul_div]
  apply List.ext_getElem
  · simp
  · intro i hi hi'
    simp only [List.getElem_map, List.getElem_range, List.getElem_drop, List.drop_drop]
    rw [Nat.add_mul, Nat.mul_comm k size]

end Backplane.Layout
