import Mathlib.Algebra.Order.Ring.Int
import Mathlib.Data.List.Basic
import Mathlib.Data.List.Induction
import Mathlib.Data.Nat.BitIndices
import Mathlib.Tactic.Ring

/-!
# Bits

Numbers as lists of bits, the highest first, and bytes as lists of eight. `value` reads a list as a
number, `digits` writes the low bits of a number, and `bytesBits` are the bits of bytes one after
the other.

Results:
* `value_digits`, `digits_value`: the two views agree.
* `value_zipWith_xor`: two words differ by the number of the places where their bits differ.
* `length_bitIndices_value`: a word has as many bits set as its list says.
* `bytesBits_injective`: bytes are known by their bits.
-/

namespace Backplane.Bits

/-! ## Words -/

/-- The number that bits make, the highest first. -/
def value (bits : List Bool) : Nat := bits.foldl (fun v bit => 2 * v + bit.toNat) 0

/-- The `n` low bits of a number, the highest first. -/
def digits (n v : Nat) : List Bool := (List.range n).map fun i => v.testBit (n - 1 - i)

@[simp] theorem value_nil : value [] = 0 := rfl

@[simp] theorem length_digits (n v : Nat) : (digits n v).length = n := by
  rw [digits, List.length_map, List.length_range]

theorem value_snoc (bits : List Bool) (bit : Bool) :
    value (bits ++ [bit]) = 2 * value bits + bit.toNat := by
  rw [value, List.foldl_append]
  rfl

theorem value_append (high low : List Bool) :
    value (high ++ low) = value high * 2 ^ low.length + value low := by
  induction low using List.reverseRecOn with
  | nil => simp
  | append_singleton low bit ih =>
    rw [← List.append_assoc, value_snoc, value_snoc, ih, List.length_append,
      List.length_singleton, Nat.pow_succ]
    ring

theorem value_zeros (n : Nat) : value (List.replicate n false) = 0 := by
  induction n with
  | zero => rfl
  | succ n ih =>
    rw [List.replicate_succ', value_snoc, ih]
    rfl

theorem value_lt (bits : List Bool) : value bits < 2 ^ bits.length := by
  induction bits using List.reverseRecOn with
  | nil => exact Nat.one_pos
  | append_singleton bits bit ih =>
    have hbit := Bool.toNat_lt bit
    rw [value_snoc, List.length_append, List.length_singleton, Nat.pow_succ]
    omega

theorem digits_succ (n v : Nat) : digits (n + 1) v = digits n (v / 2) ++ [v.testBit 0] := by
  rw [digits, List.range_succ, List.map_append, List.map_singleton, digits]
  congr 1
  · apply List.map_congr_left
    intro i hi
    have hlt := List.mem_range.mp hi
    rw [← Nat.testBit_add_one, show n - 1 - i + 1 = n + 1 - 1 - i by omega]
  · rw [Nat.add_sub_cancel, Nat.sub_self]

/-- The low bits of a number make the number. -/
theorem value_digits {n v : Nat} (h : v < 2 ^ n) : value (digits n v) = v := by
  induction n generalizing v with
  | zero => exact (Nat.lt_one_iff.mp h).symm
  | succ n ih =>
    rw [digits_succ, value_snoc, ih (by rw [Nat.pow_succ] at h; omega), Nat.toNat_testBit]
    omega

/-- The number of a list of bits has these bits. -/
theorem digits_value (bits : List Bool) : digits bits.length (value bits) = bits := by
  induction bits using List.reverseRecOn with
  | nil => rfl
  | append_singleton bits bit ih =>
    have hbit := Bool.toNat_lt bit
    rw [List.length_append, List.length_singleton, digits_succ, value_snoc,
      show (2 * value bits + bit.toNat) / 2 = value bits by omega, ih, Nat.testBit_zero]
    cases bit <;> simp

theorem digits_xor (n a b : Nat) :
    digits n (a ^^^ b) = List.zipWith xor (digits n a) (digits n b) := by
  rw [digits, digits, digits, List.zipWith_map, List.zipWith_self]
  apply List.map_congr_left
  intro i _
  exact Nat.testBit_xor a b _

/-- The places where two words differ. -/
theorem value_zipWith_xor {a b : List Bool} (h : a.length = b.length) :
    value (List.zipWith xor a b) = value a ^^^ value b := by
  have hb : value b < 2 ^ a.length := h ▸ value_lt b
  rw [← value_digits (Nat.xor_lt_two_pow (value_lt a) hb), digits_xor, digits_value, h,
    digits_value]

/-- A word has as many bits set as its list says. -/
theorem length_bitIndices_value (bits : List Bool) :
    (value bits).bitIndices.length = bits.count true := by
  induction bits using List.reverseRecOn with
  | nil => simp
  | append_singleton bits bit ih =>
    rw [value_snoc, List.count_append]
    cases bit <;> simp [ih]

/-- One bit of a number, as C takes it out. -/
theorem shiftRight_and_one (v i : Nat) : (v >>> i) &&& 1 = (v.testBit i).toNat := by
  rw [Nat.and_one_is_mod, Nat.toNat_testBit, Nat.shiftRight_eq_div_pow]

/-- One more bit of a number, as C puts it in. -/
theorem two_mul_or (v : Nat) (bit : Bool) : (2 * v) ||| bit.toNat = 2 * v + bit.toNat := by
  have hbit : bit.toNat < 2 ^ 1 := Bool.toNat_lt bit
  rw [Nat.mul_comm, ← Nat.pow_one 2, ← Nat.shiftLeft_eq, Nat.shiftLeft_add_eq_or_of_lt hbit]

/-- A bit put below others, which are shifted for the next one. -/
theorem or_shiftLeft_one (bits : List Bool) (bit : Bool) :
    ((2 * value bits) ||| bit.toNat) <<< 1 = 2 * value (bits ++ [bit]) := by
  rw [two_mul_or, value_snoc, Nat.shiftLeft_eq, Nat.pow_one, Nat.mul_comm]

/-! ## Slices -/

/-- The `n` bits from `start` on. -/
def slice (bits : List Bool) (start n : Nat) : List Bool :=
  (List.range n).map fun k => bits.getD (start + k) false

@[simp] theorem length_slice (bits : List Bool) (start n : Nat) :
    (slice bits start n).length = n := by
  rw [slice, List.length_map, List.length_range]

theorem slice_add (bits : List Bool) (start m n : Nat) :
    slice bits start (m + n) = slice bits start m ++ slice bits (start + m) n := by
  unfold slice
  rw [List.range_add, List.map_append, List.map_map]
  simp only [Function.comp_def, Nat.add_assoc]

theorem slice_succ (bits : List Bool) (start n : Nat) :
    slice bits start (n + 1) = slice bits start n ++ [bits.getD (start + n) false] := by
  rw [slice_add]
  rfl

theorem slice_self {bits : List Bool} {n : Nat} (h : bits.length = n) : slice bits 0 n = bits := by
  subst h
  apply List.ext_getElem
  · exact length_slice _ _ _
  · intro k hk hk'
    simp [slice, hk']

theorem digits_value_slice (bits : List Bool) (start n : Nat) :
    digits n (value (slice bits start n)) = slice bits start n := by
  have hdigits := digits_value (slice bits start n)
  rwa [length_slice] at hdigits

theorem slice_append_left {a b : List Bool} {start n : Nat} (h : start + n ≤ a.length) :
    slice (a ++ b) start n = slice a start n := by
  apply List.map_congr_left
  intro k hk
  have hlt := List.mem_range.mp hk
  rw [List.getD_eq_getElem?_getD, List.getD_eq_getElem?_getD,
    List.getElem?_append_left (by omega)]

theorem slice_append_right (a b : List Bool) (start n : Nat) :
    slice (a ++ b) (a.length + start) n = slice b start n := by
  apply List.map_congr_left
  intro k _
  rw [List.getD_eq_getElem?_getD, List.getD_eq_getElem?_getD,
    List.getElem?_append_right (by omega),
    show a.length + start + k - a.length = start + k by omega]

/-- A part of parts of one width. -/
theorem slice_flatMap {w m c : Nat} (part : Nat → List Bool) (hw : ∀ c, (part c).length = w)
    (hc : c < m) : slice ((List.range m).flatMap part) (w * c) w = part c := by
  induction m with
  | zero => exact absurd hc (Nat.not_lt_zero c)
  | succ m ih =>
    have hlen : ((List.range m).flatMap part).length = w * m := by
      rw [List.length_flatMap]
      simp [hw, Nat.mul_comm]
    rw [List.range_succ, List.flatMap_append, List.flatMap_singleton]
    rcases Nat.lt_or_eq_of_le (Nat.le_of_lt_succ hc) with hlt | rfl
    · rw [slice_append_left, ih hlt]
      rw [hlen, ← Nat.mul_succ]
      exact Nat.mul_le_mul_left w hlt
    · have hright := slice_append_right ((List.range c).flatMap part) (part c) 0 w
      rwa [hlen, Nat.add_zero, slice_self (hw c)] at hright

theorem slice_slice (bits : List Bool) {start m i n : Nat} (h : i + n ≤ m) :
    slice (slice bits start m) i n = slice bits (start + i) n := by
  apply List.map_congr_left
  intro k hk
  have hlt := List.mem_range.mp hk
  rw [slice, List.getD_eq_getElem?_getD, List.getElem?_map, List.getElem?_range (by omega),
    Option.map_some, Option.getD_some, Nat.add_assoc]

/-- The parts of one width that bits begin with. -/
theorem flatMap_slice (bits : List Bool) (w m : Nat) :
    ((List.range m).flatMap fun c => slice bits (w * c) w) = slice bits 0 (w * m) := by
  induction m with
  | zero => rfl
  | succ m ih =>
    rw [List.range_succ, List.flatMap_append, List.flatMap_singleton, ih, Nat.mul_succ, slice_add,
      Nat.zero_add]

/-- The places where two slices differ. -/
theorem zipWith_slice (a b : List Bool) (start n : Nat) :
    List.zipWith xor (slice a start n) (slice b start n) =
      (List.range n).map fun k => a.getD (start + k) false ^^ b.getD (start + k) false := by
  rw [slice, slice, List.zipWith_map, List.zipWith_self]

/-! ## Bytes -/

/-- The bits of a byte. -/
def byteBits (b : UInt8) : List Bool := digits 8 b.toNat

/-- The bits of bytes. -/
def bytesBits (bytes : List UInt8) : List Bool := bytes.flatMap byteBits

@[simp] theorem length_byteBits (b : UInt8) : (byteBits b).length = 8 := length_digits 8 _

theorem bytesBits_append (a b : List UInt8) : bytesBits (a ++ b) = bytesBits a ++ bytesBits b :=
  List.flatMap_append

theorem bytesBits_singleton (b : UInt8) : bytesBits [b] = byteBits b :=
  List.flatMap_singleton byteBits b

@[simp] theorem length_bytesBits (bytes : List UInt8) :
    (bytesBits bytes).length = 8 * bytes.length := by
  induction bytes with
  | nil => rfl
  | cons b bytes ih =>
    rw [bytesBits, List.flatMap_cons, List.length_append, length_byteBits, List.length_cons]
    rw [bytesBits] at ih
    omega

/-- A byte made of eight bits has these bits. -/
theorem byteBits_value {bits : List Bool} (h : bits.length = 8) :
    byteBits (UInt8.ofNat (value bits)) = bits := by
  have hlt : value bits < 2 ^ 8 := h ▸ value_lt bits
  rw [byteBits, UInt8.toNat_ofNat', Nat.mod_eq_of_lt hlt, ← h, digits_value]

theorem byteBits_injective {a b : UInt8} (h : byteBits a = byteBits b) : a = b := by
  have hvalue := congrArg value h
  rwa [byteBits, byteBits, value_digits a.toNat_lt, value_digits b.toNat_lt,
    UInt8.toNat_inj] at hvalue

/-- Bytes are known by their bits. -/
theorem bytesBits_injective {a b : List UInt8} (h : bytesBits a = bytesBits b) : a = b := by
  induction a generalizing b with
  | nil =>
    have hlen := congrArg List.length h
    rw [length_bytesBits, length_bytesBits, List.length_nil] at hlen
    exact (List.length_eq_zero_iff.mp (by omega)).symm
  | cons x a ih =>
    cases b with
    | nil =>
      have hlen := congrArg List.length h
      rw [length_bytesBits, length_bytesBits, List.length_nil, List.length_cons] at hlen
      omega
    | cons y b =>
      obtain ⟨hhead, htail⟩ := List.append_inj h (by rw [length_byteBits, length_byteBits])
      rw [byteBits_injective hhead, ih htail]

/-- Where the bits of a byte stand. -/
theorem getElem?_bytesBits (bytes : List UInt8) (k : Nat) :
    (bytesBits bytes)[k]? = bytes[k / 8]?.map fun b => b.toNat.testBit (7 - k % 8) := by
  induction bytes generalizing k with
  | nil => rfl
  | cons b bytes ih =>
    rw [bytesBits, List.flatMap_cons]
    rcases Nat.lt_or_ge k 8 with hk | hk
    · rw [List.getElem?_append_left (by rwa [length_byteBits]), Nat.div_eq_of_lt hk,
        Nat.mod_eq_of_lt hk, byteBits, digits, List.getElem?_map, List.getElem?_range hk]
      rfl
    · have hdiv : k / 8 = (k - 8) / 8 + 1 := by omega
      have hmod : k % 8 = (k - 8) % 8 := by omega
      rw [List.getElem?_append_right (by rwa [length_byteBits]), length_byteBits, hdiv, hmod,
        List.getElem?_cons_succ]
      exact ih (k - 8)

end Backplane.Bits
