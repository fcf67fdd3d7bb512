import Mathlib.Algebra.Order.Ring.Int
import Mathlib.Data.List.Basic

/-!
# Bytes and machine integers

The ways the code puts 16-bit values into packets and takes them out: `htons`, shifts and masks on
single bytes, and `memcpy` on a little-endian machine. Packets are received into zeroed buffers
(`zeroed`). The conversions of C to the integer types of sizes and offsets.
-/

namespace Backplane.Utils

/-- `htons`, which is its own inverse. -/
def htons (x : UInt16) : UInt16 := (x >>> 8) ||| (x <<< 8)

theorem htons_htons (x : UInt16) : htons (htons x) = x := by
  unfold htons
  apply UInt16.toBitVec_inj.mp
  apply BitVec.eq_of_getLsbD_eq
  intro i hi
  simp
  grind

/-- `uint16_t(hi << 8 | lo)`. -/
def word (hi lo : UInt8) : UInt16 := (hi.toUInt16 <<< 8) ||| lo.toUInt16

theorem word_toNat (hi lo : UInt8) : (word hi lo).toNat = 256 * hi.toNat + lo.toNat := by
  have hlo := lo.toNat_lt
  have hhi := hi.toNat_lt
  unfold word
  rw [UInt16.toNat_or, UInt16.toNat_shiftLeft, UInt8.toNat_toUInt16, UInt8.toNat_toUInt16]
  show (hi.toNat <<< 8 % 2 ^ 16) ||| lo.toNat = _
  rw [Nat.shiftLeft_eq, Nat.mod_eq_of_lt (by omega), ← Nat.shiftLeft_eq,
    ← Nat.shiftLeft_add_eq_or_of_lt hlo, Nat.shiftLeft_eq]
  omega

/-- The two bytes of a word, high byte first, make the word. -/
theorem word_bytes (b : UInt16) : word (b >>> 8).toUInt8 b.toUInt8 = b := by
  apply UInt16.toNat_inj.mp
  have hb := b.toNat_lt
  rw [word_toNat, UInt16.toNat_toUInt8, UInt16.toNat_toUInt8, UInt16.toNat_shiftRight]
  show 256 * (b.toNat >>> 8 % 2 ^ 8) + b.toNat % 2 ^ 8 = b.toNat
  rw [Nat.shiftRight_eq_div_pow]
  omega

/-- The bytes of the word that two bytes make. -/
theorem bytes_word (hi lo : UInt8) :
    (word hi lo).toUInt8 = lo ∧ (word hi lo >>> 8).toUInt8 = hi := by
  have hlo := lo.toNat_lt
  have hhi := hi.toNat_lt
  constructor
  · apply UInt8.toNat_inj.mp
    rw [UInt16.toNat_toUInt8, word_toNat]
    omega
  · apply UInt8.toNat_inj.mp
    rw [UInt16.toNat_toUInt8, UInt16.toNat_shiftRight, word_toNat]
    show (256 * hi.toNat + lo.toNat) >>> 8 % 2 ^ 8 = hi.toNat
    rw [Nat.shiftRight_eq_div_pow]
    omega

/-- The two bytes of a 16-bit value in memory, low byte first. -/
def littleEndian (x : UInt16) : List UInt8 := [x.toUInt8, (x >>> 8).toUInt8]

@[simp] theorem length_littleEndian (x : UInt16) : (littleEndian x).length = 2 := rfl

theorem littleEndian_word (hi lo : UInt8) : littleEndian (word hi lo) = [lo, hi] := by
  unfold littleEndian
  rw [(bytes_word hi lo).1, (bytes_word hi lo).2]

/-- A value as `size_t`. -/
def sizeT (x : Int) : Nat := (x % 2 ^ 32).toNat

/-- A value as `off_t`. -/
def offT (x : Int) : Int := x.bmod (2 ^ 32)

/-- A value as `uint64_t`. -/
def uint64T (x : Int) : Nat := (x % 2 ^ 64).toNat

/-- A zeroed buffer of `n` bytes that `bytes` were written to, from its start. -/
def zeroed (n : Nat) (bytes : List UInt8) : Vector UInt8 n := Vector.ofFn fun i => bytes.getD i 0

theorem zeroed_get {n : Nat} (bytes : List UInt8) (i : Fin n) :
    (zeroed n bytes).get i = bytes.getD i 0 := by
  show (Vector.ofFn fun i : Fin n => bytes.getD i 0)[i] = _
  rw [Fin.getElem_fin, Vector.getElem_ofFn]

theorem zeroed_getElem? (n : Nat) (bytes : List UInt8) (i : Nat) :
    (zeroed n bytes)[i]? = if i < n then some (bytes.getD i 0) else none := by
  unfold zeroed
  split
  · rename_i h
    rw [Vector.getElem?_eq_getElem h, Vector.getElem_ofFn]
  · rename_i h
    rw [Vector.getElem?_eq_none (Nat.le_of_not_lt h)]

/-- The bytes that were written are read back. -/
theorem take_zeroed {n : Nat} {bytes : List UInt8} (h : bytes.length ≤ n) :
    (zeroed n bytes).toList.take bytes.length = bytes := by
  apply List.ext_getElem
  · simp [h]
  · intro i hi hi'
    simp [zeroed, hi']

/-- A signature without zero bytes stands in the buffer only if it was written there. -/
theorem take_zeroed_eq_iff {n : Nat} {signature bytes : List UInt8} (hn : signature.length ≤ n)
    (hzero : 0 ∉ signature) :
    (zeroed n bytes).toList.take signature.length = signature ↔ signature <+: bytes := by
  have hget : ∀ i : Nat, i < n → (zeroed n bytes).toList[i]? = some (bytes.getD i 0) := by
    intro i hi
    rw [Vector.getElem?_toList, zeroed_getElem?, if_pos hi]
  rw [List.prefix_iff_getElem?]
  constructor
  · intro h i hi
    have hi' : signature[i]? = some (bytes.getD i 0) := by
      rw [← h, List.getElem?_take_of_lt hi, hget i (Nat.lt_of_lt_of_le hi hn)]
    rw [List.getElem?_eq_getElem hi, Option.some.injEq] at hi'
    rcases Nat.lt_or_ge i bytes.length with hb | hb
    · rw [List.getElem?_eq_getElem hb, hi', List.getD_eq_getElem?_getD,
        List.getElem?_eq_getElem hb, Option.getD_some]
    · rw [List.getD_eq_getElem?_getD, List.getElem?_eq_none hb, Option.getD_none] at hi'
      exact absurd (hi' ▸ List.getElem_mem hi) hzero
  · intro h
    apply List.ext_getElem?
    intro i
    rcases Nat.lt_or_ge i signature.length with hi | hi
    · rw [List.getElem?_take_of_lt hi, hget i (Nat.lt_of_lt_of_le hi hn),
        List.getElem?_eq_getElem hi, List.getD_eq_getElem?_getD, h i hi, Option.getD_some]
    · rw [List.getElem?_eq_none hi, List.getElem?_eq_none]
      exact Nat.le_trans (List.length_take_le _ _) hi

end Backplane.Utils
