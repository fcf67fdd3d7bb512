import Mathlib.Algebra.Order.Ring.Int

/-!
# Signed machine words

The arithmetic of signed words against that of the integers: a result that is in range is exact, an
arithmetic shift right is the floor of a division, and the same bits read as an unsigned word give
the value modulo the size of the word.

Results:
* `toInt_mul64`, `toInt_add64`, `toInt_sub32`: exact in range.
* `toInt_shiftRight64`, `toInt_shiftRight_sign`: arithmetic shifts.
* `xor_sub_sign`: a sign extension.
* `toInt_sub_shift`: a difference of unsigned words, shifted and cut to 32 bits.
-/

namespace Backplane.Word

/-! ## Exact in range -/

theorem toInt_add64 {a b : Int64} {x y : Int} (ha : a.toInt = x) (hb : b.toInt = y)
    (hlo : -2 ^ 63 ≤ x + y) (hhi : x + y < 2 ^ 63) : (a + b).toInt = x + y := by
  rw [Int64.toInt_add, ha, hb]
  exact Int.bmod_eq_of_le (by omega) (by omega)

theorem toInt_mul64 {a b : Int64} {x y : Int} (ha : a.toInt = x) (hb : b.toInt = y)
    (hlo : -2 ^ 63 ≤ x * y) (hhi : x * y < 2 ^ 63) : (a * b).toInt = x * y := by
  rw [Int64.toInt_mul, ha, hb]
  exact Int.bmod_eq_of_le (by omega) (by omega)

theorem toInt_sub32 {a b : Int32} {x y : Int} (ha : a.toInt = x) (hb : b.toInt = y)
    (hlo : -2 ^ 31 ≤ x - y) (hhi : x - y < 2 ^ 31) : (a - b).toInt = x - y := by
  rw [Int32.toInt_sub, ha, hb]
  exact Int.bmod_eq_of_le (by omega) (by omega)

/-- A word of 64 bits whose value is in the range of 32 bits. -/
theorem toInt_toInt32 {a : Int64} {x : Int} (ha : a.toInt = x) (hlo : -2 ^ 31 ≤ x)
    (hhi : x < 2 ^ 31) : a.toInt32.toInt = x := by
  rw [Int64.toInt_toInt32, ha]
  exact Int.bmod_eq_of_le (by omega) (by omega)

/-- A product is in the product of the ranges. -/
theorem mul_range {x y A B : Int} (hx : -A ≤ x) (hx' : x ≤ A) (hy : 0 ≤ y) (hy' : y ≤ B) :
    -(A * B) ≤ x * y ∧ x * y ≤ A * B := by
  have hA : 0 ≤ A := by omega
  have hle : A * y ≤ A * B := Int.mul_le_mul_of_nonneg_left hy' hA
  have hlo : -A * y ≤ x * y := Int.mul_le_mul_of_nonneg_right hx hy
  have hhi : x * y ≤ A * y := Int.mul_le_mul_of_nonneg_right hx' hy
  rw [Int.neg_mul] at hlo
  exact ⟨by omega, by omega⟩

/-! ## Shifts -/

/-- **An arithmetic shift right** is the floor of the division. -/
theorem toInt_shiftRight64 {a : Int64} {x : Int} (ha : a.toInt = x) (k : Int64) {n : Nat}
    (hk : (k.toBitVec.smod 64).toNat = n) : (a >>> k).toInt = x / 2 ^ n := by
  rw [← Int64.toInt_toBitVec, Int64.toBitVec_shiftRight, BitVec.toInt_sshiftRight', hk,
    Int64.toInt_toBitVec, ha, Int.shiftRight_eq_div_pow]
  rfl

/-- A shift left, modulo the size of the word. -/
theorem toNat_shiftLeft32 (a k : Int32) {n : Nat} (hk : (k.toBitVec.smod 32).toNat = n) :
    (a <<< k).toUInt32.toNat = a.toUInt32.toNat * 2 ^ n % 2 ^ 32 := by
  rw [← UInt32.toNat_toBitVec, Int32.toBitVec_toUInt32, Int32.toBitVec_shiftLeft,
    BitVec.shiftLeft_eq', BitVec.toNat_shiftLeft, hk, Nat.shiftLeft_eq]
  rfl

/-- The sign of a word, spread over all of it. -/
theorem toInt_shiftRight_sign {a : Int32} (h : a.toInt < 0) : (a >>> 31).toInt = -1 := by
  have hlo : -2 ^ 31 ≤ a.toInt := Int32.le_toInt a
  have hk : ((31 : Int32).toBitVec.smod 32).toNat = 31 := by decide
  rw [← Int32.toInt_toBitVec, Int32.toBitVec_shiftRight, BitVec.toInt_sshiftRight', hk,
    Int32.toInt_toBitVec, Int.shiftRight_eq_div_pow]
  show a.toInt / 2147483648 = -1
  omega

/-- Bits below the sign leave the sign. -/
theorem toInt_xor_neg {a b : Int32} (ha : a.toInt < 0) (hb : 0 ≤ b.toInt) :
    (a ^^^ b).toInt < 0 := by
  have hmsb : ∀ c : Int32, c.toInt < 0 ↔ c.toBitVec.msb = true := fun c => by
    rw [← Int32.toInt_toBitVec, BitVec.toInt_neg_iff, BitVec.msb_eq_true_iff_two_mul_ge]
  have hb' : b.toBitVec.msb = false := Bool.eq_false_iff.mpr fun h =>
    absurd ((hmsb b).mpr h) (by omega)
  rw [hmsb, Int32.toBitVec_xor, BitVec.msb_xor, (hmsb a).mp ha, hb']
  rfl

/-- **A sign bit, flipped and taken away**, is a sign extension. -/
theorem xor_sub_sign {x n : Nat} (h : x < 2 ^ (n + 1)) :
    ((x ^^^ 2 ^ n : Nat) : Int) - (2 ^ n : Nat) = (x : Int).bmod (2 ^ (n + 1)) := by
  have hpow : 2 ^ (n + 1) = 2 * 2 ^ n := Nat.pow_succ'
  have hpos : 0 < 2 ^ n := Nat.two_pow_pos n
  have hdiv : (x ^^^ 2 ^ n) / 2 ^ n = x / 2 ^ n ^^^ 1 := by
    rw [Nat.xor_div_two_pow, Nat.div_self hpos]
  have hmod : (x ^^^ 2 ^ n) % 2 ^ n = x % 2 ^ n := by
    rw [Nat.xor_mod_two_pow, Nat.mod_self, Nat.xor_zero]
  have hx := Nat.div_add_mod x (2 ^ n)
  have hy := Nat.div_add_mod (x ^^^ 2 ^ n) (2 ^ n)
  have hlt := Nat.mod_lt x hpos
  have hq : x / 2 ^ n < 2 := Nat.div_lt_of_lt_mul (by omega)
  rw [hdiv, hmod] at hy
  generalize 2 ^ n = m at *
  rw [hpow, Int.bmod_def, Int.emod_eq_of_lt (by omega) (by omega)]
  rcases Nat.le_one_iff_eq_zero_or_eq_one.mp (Nat.le_of_lt_succ hq) with hq | hq
  · rw [hq] at hx hy
    simp at hx hy
    split <;> omega
  · rw [hq] at hx hy
    simp at hx hy
    split <;> omega

/-! ## The same bits, unsigned -/

theorem toNat_toUInt64 (a : Int64) : (a.toUInt64.toNat : Int) = a.toInt % 2 ^ 64 := by
  have hlt : a.toUInt64.toNat < 2 ^ 64 := UInt64.toNat_lt _
  have hbits : a.toInt = (a.toUInt64.toNat : Int).bmod (2 ^ 64) := by
    rw [← Int64.toInt_toBitVec, BitVec.toInt_eq_toNat_bmod]
    rfl
  rw [hbits]
  show _ = Int.bmod _ (2 ^ 64) % ((2 ^ 64 : Nat) : Int)
  rw [Int.bmod_emod]
  omega

theorem toInt_toInt32_word (a : UInt32) : a.toInt32.toInt = (a.toNat : Int).bmod (2 ^ 32) := by
  rw [← Int32.toInt_toBitVec, UInt32.toBitVec_toInt32, BitVec.toInt_eq_toNat_bmod]
  rfl

/-- A word of 32 bits in one of 64. -/
theorem toInt_toInt64_word (a : UInt32) : a.toUInt64.toInt64.toInt = a.toNat := by
  have hlt : a.toNat < 2 ^ 32 := UInt32.toNat_lt a
  rw [← Int64.toInt_toBitVec, UInt64.toBitVec_toInt64, BitVec.toInt_eq_toNat_bmod,
    UInt64.toNat_toBitVec, UInt32.toNat_toUInt64]
  exact Int.bmod_eq_of_le (by omega) (by omega)

theorem bmod_congr {x y : Int} {m : Nat} (h : x % m = y % m) : x.bmod m = y.bmod m := by
  rw [Int.bmod_def, Int.bmod_def, h]

/-- The low 32 bits, signed, of a shifted difference of unsigned words. -/
theorem toInt_sub_shift (a b : UInt64) :
    ((a - b) >>> 15).toUInt32.toInt32.toInt =
      (((a.toNat : Int) - b.toNat) / 2 ^ 15).bmod (2 ^ 32) := by
  have ha : a.toNat < 2 ^ 64 := UInt64.toNat_lt a
  have hb : b.toNat < 2 ^ 64 := UInt64.toNat_lt b
  have hval : ((a - b) >>> 15).toUInt32.toNat =
      (2 ^ 64 - b.toNat + a.toNat) % 2 ^ 64 / 2 ^ 15 % 2 ^ 32 := by
    rw [UInt64.toNat_toUInt32, UInt64.toNat_shiftRight, UInt64.toNat_sub, Nat.shiftRight_eq_div_pow]
    rfl
  rw [toInt_toInt32_word, hval]
  exact bmod_congr (by omega)

end Backplane.Word
