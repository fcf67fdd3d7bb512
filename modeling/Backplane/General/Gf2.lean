import Mathlib.Algebra.Order.Ring.Int
import Mathlib.Data.List.Nodup
import Mathlib.Data.Nat.BitIndices

/-!
# Cyclic codes over GF(2)

Polynomials over GF(2) as numbers, bit `i` the coefficient of `xⁱ`, and the code of a generator
`gen` of degree `deg`: the polynomials it divides. A table that names an error pattern for every
remainder corrects these patterns. The table is written one pattern after the other, each at its
own remainder.

Results:
* `remainder_xor`: the remainder of a sum.
* `remainder_encode`: a message with its check bits is in the code.
* `correct`: a pattern the table names at its remainder is corrected.
* `lookup_written`: what the table names once patterns with remainders of their own are written.
* `few_bits`: the numbers with up to three bits set.
-/

namespace Backplane.Gf2

/-! ## Division -/

/-- `gen` is a polynomial of degree `deg`. -/
structure Degree (gen deg : Nat) : Prop where
  top : gen.testBit deg = true
  lt : gen < 2 ^ (deg + 1)

/-- One step of the division: the multiple of `gen` under the bit at `i + deg` is taken off. -/
def reduce (gen deg i v : Nat) : Nat := if v.testBit (i + deg) then v ^^^ (gen <<< i) else v

/-- The remainder of a polynomial of degree below `deg + n`. -/
def remainder (gen deg : Nat) : Nat → Nat → Nat
  | 0, v => v
  | n + 1, v => remainder gen deg n (reduce gen deg n v)

variable {gen deg : Nat}

theorem reduce_xor (i a b : Nat) :
    reduce gen deg i (a ^^^ b) = reduce gen deg i a ^^^ reduce gen deg i b := by
  unfold reduce
  rw [Nat.testBit_xor]
  cases a.testBit (i + deg) <;> cases b.testBit (i + deg)
  · rfl
  · exact Nat.xor_assoc a b _
  · show a ^^^ b ^^^ gen <<< i = (a ^^^ gen <<< i) ^^^ b
    rw [Nat.xor_assoc, Nat.xor_comm b, ← Nat.xor_assoc]
  · show a ^^^ b = (a ^^^ gen <<< i) ^^^ (b ^^^ gen <<< i)
    rw [Nat.xor_assoc, Nat.xor_comm b, ← Nat.xor_assoc (gen <<< i), Nat.xor_self, Nat.zero_xor]

/-- **The remainder of a sum** is the sum of the remainders. -/
theorem remainder_xor (n a b : Nat) :
    remainder gen deg n (a ^^^ b) = remainder gen deg n a ^^^ remainder gen deg n b := by
  induction n generalizing a b with
  | zero => rfl
  | succ n ih =>
    show remainder gen deg n (reduce gen deg n (a ^^^ b)) = _
    rw [reduce_xor, ih]
    rfl

theorem reduce_of_lt {i v : Nat} (h : v < 2 ^ (i + deg)) : reduce gen deg i v = v := by
  unfold reduce
  rw [Nat.testBit_lt_two_pow h]
  rfl

theorem reduce_lt (hg : Degree gen deg) {i v : Nat} (h : v < 2 ^ (i + deg + 1)) :
    reduce gen deg i v < 2 ^ (i + deg) := by
  have hshift : gen <<< i < 2 ^ (i + deg + 1) := by
    rw [Nat.shiftLeft_eq, Nat.add_assoc, Nat.pow_add 2 i, Nat.mul_comm]
    exact Nat.mul_lt_mul_of_pos_left hg.lt (Nat.two_pow_pos i)
  have htop : (gen <<< i).testBit (i + deg) = true := by
    rw [Nat.testBit_shiftLeft, Nat.add_sub_cancel_left, hg.top]
    simp
  apply Nat.lt_pow_two_of_testBit
  intro k hk
  unfold reduce
  rcases Nat.lt_or_eq_of_le hk with hlt | rfl
  · -- above the top bit neither number has any
    have hpow : 2 ^ (i + deg + 1) ≤ 2 ^ k := Nat.pow_le_pow_right (by omega) hlt
    have hv : v.testBit k = false := Nat.testBit_lt_two_pow (Nat.lt_of_lt_of_le h hpow)
    have hgen : (gen <<< i).testBit k = false :=
      Nat.testBit_lt_two_pow (Nat.lt_of_lt_of_le hshift hpow)
    split
    · rw [Nat.testBit_xor, hv, hgen]
      rfl
    · exact hv
  · split
    · rename_i hbit
      rw [Nat.testBit_xor, hbit, htop]
      rfl
    · rename_i hbit
      exact Bool.eq_false_iff.mpr hbit

theorem remainder_lt (hg : Degree gen deg) {n v : Nat} (h : v < 2 ^ (n + deg)) :
    remainder gen deg n v < 2 ^ deg := by
  induction n generalizing v with
  | zero => rwa [Nat.zero_add] at h
  | succ n ih => exact ih (reduce_lt hg (by rwa [Nat.add_right_comm]))

/-- A polynomial below the degree of the generator is its own remainder. -/
theorem remainder_of_lt {v : Nat} (h : v < 2 ^ deg) (n : Nat) : remainder gen deg n v = v := by
  induction n with
  | zero => rfl
  | succ n ih =>
    have hlt : v < 2 ^ (n + deg) :=
      Nat.lt_of_lt_of_le h (Nat.pow_le_pow_right (by omega) (Nat.le_add_left deg n))
    show remainder gen deg n (reduce gen deg n v) = v
    rw [reduce_of_lt hlt, ih]

/-- The steps above the top bit of a polynomial change nothing. -/
theorem remainder_add {n v : Nat} (h : v < 2 ^ (n + deg)) (k : Nat) :
    remainder gen deg (n + k) v = remainder gen deg n v := by
  induction k with
  | zero => rfl
  | succ k ih =>
    have hlt : v < 2 ^ (n + k + deg) :=
      Nat.lt_of_lt_of_le h (Nat.pow_le_pow_right (by omega) (by omega))
    show remainder gen deg (n + k) (reduce gen deg (n + k) v) = _
    rw [reduce_of_lt hlt, ih]

/-! ## The code -/

/-- A message in the high bits with the check bits below it. -/
def encode (gen deg n message : Nat) : Nat :=
  message <<< deg ^^^ remainder gen deg n (message <<< deg)

theorem shiftLeft_lt {n message : Nat} (h : message < 2 ^ n) :
    message <<< deg < 2 ^ (n + deg) := by
  rw [Nat.shiftLeft_eq, Nat.pow_add]
  exact Nat.mul_lt_mul_of_pos_right h (Nat.two_pow_pos deg)

/-- **A message with its check bits is in the code.** -/
theorem remainder_encode (hg : Degree gen deg) {n message : Nat} (h : message < 2 ^ n) :
    remainder gen deg n (encode gen deg n message) = 0 := by
  rw [encode, remainder_xor, remainder_of_lt (remainder_lt hg (shiftLeft_lt h)), Nat.xor_self]

/-- The message stands above its check bits. -/
theorem encode_eq (hg : Degree gen deg) {n message : Nat} (h : message < 2 ^ n) :
    encode gen deg n message =
      message * 2 ^ deg + remainder gen deg n (message <<< deg) := by
  have hcheck := remainder_lt hg (shiftLeft_lt h)
  apply Nat.eq_of_testBit_eq
  intro i
  rw [encode, ← Nat.shiftLeft_eq, Nat.shiftLeft_add_eq_or_of_lt hcheck, Nat.testBit_xor,
    Nat.testBit_or, Nat.testBit_shiftLeft]
  rcases Nat.lt_or_ge i deg with hi | hi
  · simp [Nat.not_le.mpr hi]
  · rw [Nat.testBit_lt_two_pow (Nat.lt_of_lt_of_le hcheck (Nat.pow_le_pow_right (by omega) hi))]
    simp

/-- **Syndrome decoding**: a pattern the table names at its remainder is corrected. -/
theorem correct {n codeword : Nat} (hcode : remainder gen deg n codeword = 0) {table : Nat → Nat}
    {pattern : Nat} (h : table (remainder gen deg n pattern) = pattern) :
    (codeword ^^^ pattern) ^^^ table (remainder gen deg n (codeword ^^^ pattern)) = codeword := by
  rw [remainder_xor, hcode, Nat.zero_xor, h, Nat.xor_assoc, Nat.xor_self, Nat.xor_zero]

/-! ## The table -/

/-- One pattern is written at its key. -/
def write (key : Nat → Nat) (table : Array Nat) (pattern : Nat) : Array Nat :=
  table.setIfInBounds (key pattern) pattern

/-- What a table names. -/
def lookup (table : Array Nat) (i : Nat) : Nat := table.getD i 0

/-- The other patterns leave an entry as it is. -/
theorem lookup_foldl_write_of_ne {key : Nat → Nat} {patterns : List Nat} {i : Nat}
    (h : ∀ pattern ∈ patterns, key pattern ≠ i) (table : Array Nat) :
    lookup (patterns.foldl (write key) table) i = lookup table i := by
  induction patterns generalizing table with
  | nil => rfl
  | cons pattern patterns ih =>
    have hne := h pattern List.mem_cons_self
    rw [List.foldl_cons, ih fun p hp => h p (List.mem_cons_of_mem _ hp)]
    simp only [lookup, write, Array.getD_eq_getD_getElem?, Array.getElem?_setIfInBounds_ne hne]

/-- **A table of patterns with keys of their own** names each of them at its key. -/
theorem lookup_written {key : Nat → Nat} {patterns : List Nat}
    (hnodup : (patterns.map key).Nodup) (table : Array Nat)
    (hsize : ∀ pattern ∈ patterns, key pattern < table.size) {pattern : Nat}
    (h : pattern ∈ patterns) :
    lookup (patterns.foldl (write key) table) (key pattern) = pattern := by
  induction patterns generalizing table with
  | nil => cases h
  | cons first patterns ih =>
    rw [List.map_cons, List.nodup_cons] at hnodup
    have hfirst := hsize first List.mem_cons_self
    rw [List.foldl_cons]
    rcases List.mem_cons.mp h with rfl | htail
    · have hlater : ∀ later ∈ patterns, key later ≠ key pattern := fun later hlater heq =>
        hnodup.1 (heq ▸ List.mem_map_of_mem hlater)
      rw [lookup_foldl_write_of_ne hlater]
      simp only [lookup, write, Array.getD_eq_getD_getElem?,
        Array.getElem?_setIfInBounds_self_of_lt hfirst, Option.getD_some]
    · refine ih hnodup.2 _ (fun p hp => ?_) htail
      rw [write, Array.size_setIfInBounds]
      exact hsize p (List.mem_cons_of_mem _ hp)

/-- No key comes twice, nor is it one of those that bits of `seen` stand for. -/
def distinct : List Nat → Nat → Bool
  | [], _ => true
  | k :: keys, seen => !seen.testBit k && distinct keys (seen ||| 1 <<< k)

theorem nodup_of_distinct {keys : List Nat} (seen : Nat) (h : distinct keys seen = true) :
    keys.Nodup ∧ ∀ k ∈ keys, seen.testBit k = false := by
  induction keys generalizing seen with
  | nil => exact ⟨List.nodup_nil, fun k hk => absurd hk List.not_mem_nil⟩
  | cons k keys ih =>
    rw [distinct, Bool.and_eq_true, Bool.not_eq_true'] at h
    obtain ⟨hnodup, hfree⟩ := ih _ h.2
    have hself : (seen ||| 1 <<< k).testBit k = true := by
      rw [Nat.testBit_or, Nat.testBit_shiftLeft, Nat.sub_self]
      simp
    constructor
    · refine List.nodup_cons.mpr ⟨fun hk => ?_, hnodup⟩
      rw [hfree k hk] at hself
      cases hself
    · intro j hj
      rcases List.mem_cons.mp hj with rfl | htail
      · exact h.1
      · have hor := hfree j htail
        rw [Nat.testBit_or, Bool.or_eq_false_iff] at hor
        exact hor.1

/-! ## Patterns of few errors -/

/-- **The numbers with up to three bits set**, all below `n`. -/
theorem few_bits {n v : Nat} (hv : v < 2 ^ n) (h : v.bitIndices.length ≤ 3) :
    v = 0 ∨ (∃ i, i < n ∧ v = 2 ^ i) ∨ (∃ i j, i < j ∧ j < n ∧ v = 2 ^ i + 2 ^ j) ∨
      ∃ i j k, i < j ∧ j < k ∧ k < n ∧ v = 2 ^ i + 2 ^ j + 2 ^ k := by
  have hsum := Nat.sum_map_two_pow_bitIndices v
  have hsorted : v.bitIndices.SortedLT := Nat.bitIndices_sorted
  have hbelow : ∀ i ∈ v.bitIndices, i < n := by
    intro i hi
    have hle := Nat.two_pow_le_of_mem_bitIndices hi
    exact (Nat.pow_lt_pow_iff_right (by omega : 1 < 2)).mp (Nat.lt_of_le_of_lt hle hv)
  have hpairwise := hsorted.pairwise
  generalize v.bitIndices = indices at *
  match indices with
  | [] => exact .inl hsum.symm
  | [i] => exact .inr (.inl ⟨i, hbelow i (by simp), by simpa using hsum.symm⟩)
  | [i, j] =>
    refine .inr (.inr (.inl ⟨i, j, ?_, hbelow j (by simp), by simpa using hsum.symm⟩))
    simpa using hpairwise
  | [i, j, k] =>
    have horder : (i < j ∧ i < k) ∧ j < k := by simpa using hpairwise
    refine .inr (.inr (.inr ⟨i, j, k, horder.1.1, horder.2, hbelow k (by simp), ?_⟩))
    rw [← hsum]
    simp [Nat.add_assoc]
  | _ :: _ :: _ :: _ :: _ => exact absurd h (by simp)

end Backplane.Gf2
