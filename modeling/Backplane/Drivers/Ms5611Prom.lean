import Mathlib.Data.Nat.Bitwise
import Backplane.Drivers.Ms5611

/-!
# The check of the ms5611 coefficients

Model of `ms5611_calculate_crc4` and `ms5611_check_coef_crc` of
`drivers/sensor/ms5611/ms5611.c`. The register of the code has 32 bits, the one of the application
note (AN520) 16. What the bus answers is an input.

Results:
* `calculateCrc4_crc`: the register of the code holds that of the note in its low half.
* `calculateCrc4_restores`: the word with the CRC is put back.
* `checkCoefCrc_iff`: the images on which the check is the one of the note.
-/

namespace Backplane.Drivers

open Backplane.Word

def MS5611_PROM_READ_BASE : UInt8 := 0xA0

/-- The command that reads the last word. -/
def MS5611_PROM_READ_CRC : UInt8 := MS5611_PROM_READ_BASE ||| ((7 : UInt8) <<< 1)

/-! ## The code -/

/-- One round of the loop over the bits. -/
def crcBit (n_rem : UInt32) : UInt32 :=
  if n_rem &&& 0x8000 ≠ 0 then (n_rem <<< 1) ^^^ 0x3000 else n_rem <<< 1

/-- The byte of round `cnt`: the high one of a word, then the low one. -/
def promByte (prom : Vector UInt16 8) (cnt : Fin 16) : UInt8 :=
  if cnt.val % 2 = 1 then (prom[cnt.val / 2] &&& 0x00FF).toUInt8
  else (prom[cnt.val / 2] >>> 8).toUInt8

/-- One round of the loop over the bytes. -/
def crcByte (prom : Vector UInt16 8) (n_rem : UInt32) (cnt : Fin 16) : UInt32 :=
  crcBit^[8] (n_rem ^^^ (promByte prom cnt).toUInt32)

/-- The PROM during the computation: the low byte of the last word is zero. -/
def maskedProm (prom : Vector UInt16 8) : Vector UInt16 8 :=
  prom.set 7 ((0xFF00 : UInt16) &&& prom[7])

/-- `ms5611_calculate_crc4`. -/
def Ms5611Data.calculateCrc4 (data : Ms5611Data) : UInt8 × Ms5611Data :=
  let crc_read := data.prom[7].toUInt32
  let prom := maskedProm data.prom
  let n_rem := (List.finRange 16).foldl (crcByte prom) 0
  let n_rem := (0x000F : UInt32) &&& (n_rem >>> 12)
  ((n_rem ^^^ 0x00).toUInt8, { data with prom := prom.set 7 crc_read.toUInt16 })

/-- `ms5611_check_coef_crc`, after the bytes of `written`. -/
def Ms5611Data.checkCoefCrc (data : Ms5611Data) (bus : I2cBus) (written : List UInt8) :
    Int × Ms5611Data :=
  match bus.request written MS5611_PROM_READ_CRC with
  | .error ret => (ret, data)
  | .ok written =>
    match bus.receive written 2 with
    | .error ret => (ret, data)
    | .ok crc_bytes =>
      let data := { data with prom := data.prom.set 7 (sysGetBe16 crc_bytes) }
      let (crc_value, data) := data.calculateCrc4
      if crc_value.toUInt16 ≠ data.prom[7] then (-ENOTSUP, data) else (0, data)

/-! ## The application note -/

namespace An520

/-- A shift of the remainder. -/
def shift (rem : UInt16) : UInt16 :=
  if rem &&& 0x8000 ≠ 0 then (rem <<< 1) ^^^ 0x3000 else rem <<< 1

/-- The bytes of the PROM, the low one of the last word zero. -/
def byte (prom : Vector UInt16 8) (cnt : Fin 16) : UInt8 :=
  if cnt = 15 then 0
  else if cnt.val % 2 = 1 then prom[cnt.val / 2].toUInt8
  else (prom[cnt.val / 2] >>> 8).toUInt8

/-- The remainder after one byte. -/
def next (prom : Vector UInt16 8) (rem : UInt16) (cnt : Fin 16) : UInt16 :=
  shift^[8] (rem ^^^ (byte prom cnt).toUInt16)

/-- The CRC: the top four bits of the remainder. -/
def crc4 (prom : Vector UInt16 8) : UInt16 := (List.finRange 16).foldl (next prom) 0 >>> 12

theorem crc4_lt (prom : Vector UInt16 8) : (crc4 prom).toNat < 16 := by
  have hlt : ((List.finRange 16).foldl (next prom) 0).toNat < 2 ^ 16 := UInt16.toNat_lt _
  rw [crc4, UInt16.toNat_shiftRight, Nat.shiftRight_eq_div_pow]
  show _ / 4096 < 16
  omega

end An520

/-! ## The low half of the register -/

theorem and_sign_iff (n_rem : UInt32) :
    n_rem &&& 0x8000 = 0 ↔ n_rem.toUInt16 &&& 0x8000 = 0 := by
  have h32 : (n_rem &&& 0x8000).toNat = (n_rem.toNat.testBit 15).toNat * 2 ^ 15 := by
    rw [UInt32.toNat_and]
    exact Nat.and_two_pow _ 15
  have h16 : (n_rem.toUInt16 &&& 0x8000).toNat = (n_rem.toNat.testBit 15).toNat * 2 ^ 15 := by
    rw [UInt16.toNat_and, UInt32.toNat_toUInt16]
    show n_rem.toNat % 2 ^ 16 &&& 2 ^ 15 = _
    rw [Nat.and_two_pow, Nat.testBit_mod_two_pow]
    rfl
  rw [← UInt32.toNat_inj, ← UInt16.toNat_inj, h32, h16]
  rfl

theorem crcBit_low (n_rem : UInt32) : (crcBit n_rem).toUInt16 = An520.shift n_rem.toUInt16 := by
  unfold crcBit An520.shift
  by_cases h : n_rem &&& 0x8000 = 0
  · rw [if_neg (not_not_intro h), if_neg (not_not_intro ((and_sign_iff n_rem).mp h)),
      UInt32.toUInt16_shiftLeft _ _ (by decide)]
    rfl
  · rw [if_pos h, if_pos (mt (and_sign_iff n_rem).mpr h), UInt32.toUInt16_xor,
      UInt32.toUInt16_shiftLeft _ _ (by decide)]
    rfl

theorem crcBit_iterate_low (k : Nat) (n_rem : UInt32) :
    (crcBit^[k] n_rem).toUInt16 = An520.shift^[k] n_rem.toUInt16 := by
  induction k generalizing n_rem with
  | zero => rfl
  | succ k ih =>
    show (crcBit^[k] (crcBit n_rem)).toUInt16 = An520.shift^[k] (An520.shift n_rem.toUInt16)
    rw [ih, crcBit_low]

/-! ## The bytes -/

theorem high_of_masked (w : UInt16) :
    (((0xFF00 : UInt16) &&& w) >>> 8).toUInt8 = (w >>> 8).toUInt8 := by
  rw [UInt16.shiftRight_and, UInt16.toUInt8_and]
  exact UInt8.neg_one_and

theorem low_of_masked (w : UInt16) : (((0xFF00 : UInt16) &&& w) &&& 0x00FF).toUInt8 = 0 := by
  rw [UInt16.toUInt8_and, UInt16.toUInt8_and]
  show (0 &&& w.toUInt8) &&& _ = 0
  rw [UInt8.zero_and, UInt8.zero_and]

theorem low_of_word (w : UInt16) : (w &&& 0x00FF).toUInt8 = w.toUInt8 := by
  rw [UInt16.toUInt8_and]
  exact UInt8.and_neg_one

section
variable (prom : Vector UInt16 8)

/-- The bytes of the code are those of the note. -/
theorem promByte_masked (cnt : Fin 16) : promByte (maskedProm prom) cnt = An520.byte prom cnt := by
  have hget : (maskedProm prom)[cnt.val / 2] =
      if 7 = cnt.val / 2 then (0xFF00 : UInt16) &&& prom[7] else prom[cnt.val / 2] :=
    Vector.getElem_set _ _
  unfold promByte An520.byte
  rw [hget]
  by_cases h7 : 7 = cnt.val / 2
  · rw [if_pos h7]
    have hlast : cnt = 15 ∨ cnt = 14 := by omega
    rcases hlast with rfl | rfl
    · exact low_of_masked _
    · exact high_of_masked _
  · have hlast : cnt ≠ 15 := fun h => h7 (by rw [h]; rfl)
    rw [if_neg h7, if_neg hlast, low_of_word]

theorem crcByte_low (n_rem : UInt32) (cnt : Fin 16) :
    (crcByte (maskedProm prom) n_rem cnt).toUInt16 = An520.next prom n_rem.toUInt16 cnt := by
  unfold crcByte An520.next
  rw [crcBit_iterate_low, UInt32.toUInt16_xor, promByte_masked, UInt8.toUInt16_toUInt32]

theorem crcLoop_low (cnts : List (Fin 16)) (n_rem : UInt32) :
    (cnts.foldl (crcByte (maskedProm prom)) n_rem).toUInt16 =
      cnts.foldl (An520.next prom) n_rem.toUInt16 := by
  induction cnts generalizing n_rem with
  | nil => rfl
  | cons cnt cnts ih => rw [List.foldl_cons, List.foldl_cons, ih, crcByte_low]

end

theorem top_nibble (n_rem : UInt32) :
    (((0x000F : UInt32) &&& (n_rem >>> 12)) ^^^ 0x00).toUInt8.toNat =
      (n_rem.toUInt16 >>> 12).toNat := by
  rw [UInt32.toNat_toUInt8, UInt32.toNat_xor, UInt32.toNat_and, UInt32.toNat_shiftRight,
    UInt16.toNat_shiftRight, UInt32.toNat_toUInt16]
  show ((2 ^ 4 - 1 &&& n_rem.toNat >>> 12) ^^^ 0) % 2 ^ 8 = (n_rem.toNat % 2 ^ 16) >>> 12
  rw [Nat.xor_zero, Nat.and_comm, Nat.and_two_pow_sub_one_eq_mod, Nat.shiftRight_eq_div_pow,
    Nat.shiftRight_eq_div_pow]
  omega

/-- **The CRC of the code** is the one of the note. -/
theorem calculateCrc4_crc (data : Ms5611Data) :
    data.calculateCrc4.1.toNat = (An520.crc4 data.prom).toNat := by
  have hlow := crcLoop_low data.prom (List.finRange 16) 0
  rw [An520.crc4]
  show _ = ((List.finRange 16).foldl (An520.next data.prom) (0 : UInt32).toUInt16 >>> 12).toNat
  rw [← hlow]
  exact top_nibble _

/-- **The word with the CRC is put back.** -/
theorem calculateCrc4_restores (data : Ms5611Data) : data.calculateCrc4.2 = data := by
  show { data with prom := ((maskedProm data.prom).set 7 data.prom[7].toUInt32.toUInt16) } = data
  rw [UInt16.toUInt16_toUInt32, maskedProm, Vector.set_set, Vector.set_getElem_self]

/-! ## The check -/

section
variable (data : Ms5611Data) (bus : I2cBus) (written : List UInt8)

/-- The PROM as it was read: the last word is read again by the check. -/
def promImage : Vector UInt16 8 :=
  data.prom.set 7 (sysGetBe16 (bus.i2c_read_dt (written ++ [MS5611_PROM_READ_CRC]) 2).2)

/-- The transfers of the check succeed. -/
def ReadsCrc : Prop :=
  0 ≤ bus.i2c_write_dt (written ++ [MS5611_PROM_READ_CRC]) ∧
    0 ≤ (bus.i2c_read_dt (written ++ [MS5611_PROM_READ_CRC]) 2).1

variable {data bus written}

/-- The whole last word is held against the CRC. -/
theorem checkCoefCrc_spec (h : ReadsCrc bus written) :
    ((data.checkCoefCrc bus written).1 = 0 ↔
        (An520.crc4 (promImage data bus written)).toNat =
          (promImage data bus written)[7].toNat) ∧
      (data.checkCoefCrc bus written).2 = { data with prom := promImage data bus written } := by
  have hwrite : bus.request written MS5611_PROM_READ_CRC =
      .ok (written ++ [MS5611_PROM_READ_CRC]) := if_neg (Int.not_lt.mpr h.1)
  have hread : bus.receive (written ++ [MS5611_PROM_READ_CRC]) 2 =
      .ok (bus.i2c_read_dt (written ++ [MS5611_PROM_READ_CRC]) 2).2 := if_neg (Int.not_lt.mpr h.2)
  have hcrc := calculateCrc4_crc { data with prom := promImage data bus written }
  have hback := calculateCrc4_restores { data with prom := promImage data bus written }
  have hcheck : data.checkCoefCrc bus written =
      (match Ms5611Data.calculateCrc4 { data with prom := promImage data bus written } with
      | (crc_value, data) =>
        if crc_value.toUInt16 ≠ data.prom[7] then (-ENOTSUP, data) else (0, data)) := by
    unfold Ms5611Data.checkCoefCrc
    rw [hwrite]
    simp only
    rw [hread]
    rfl
  rcases hp : Ms5611Data.calculateCrc4 { data with prom := promImage data bus written } with
    ⟨crc_value, data'⟩
  rw [hp] at hcheck hcrc hback
  simp only at hcheck hcrc hback
  subst hback
  rw [hcheck]
  have heq : crc_value.toUInt16 = (promImage data bus written)[7] ↔
      (An520.crc4 (promImage data bus written)).toNat = (promImage data bus written)[7].toNat := by
    rw [← hcrc, ← UInt8.toNat_toUInt16, UInt16.toNat_inj]
  split
  · rename_i hne
    exact ⟨iff_of_false (show ¬(-ENOTSUP : Int) = 0 by decide) (mt heq.mpr hne), rfl⟩
  · rename_i hsame
    exact ⟨iff_of_true rfl (heq.mp (Classical.not_not.mp hsame)), rfl⟩

/-- **The images the check decides as the note does** are those without anything above the CRC in
the last word, and those whose CRC is wrong. -/
theorem checkCoefCrc_iff (h : ReadsCrc bus written) :
    (((data.checkCoefCrc bus written).1 = 0 ↔
          (promImage data bus written)[7].toNat % 16 =
            (An520.crc4 (promImage data bus written)).toNat) ∧
        (data.checkCoefCrc bus written).2.prom = promImage data bus written) ↔
      (promImage data bus written)[7].toNat < 16 ∨
        (promImage data bus written)[7].toNat % 16 ≠
          (An520.crc4 (promImage data bus written)).toNat := by
  have hlt := An520.crc4_lt (promImage data bus written)
  obtain ⟨hret, hdata⟩ := @checkCoefCrc_spec data bus written h
  have himage : (data.checkCoefCrc bus written).2.prom = promImage data bus written := by
    rw [hdata]
  rw [hret, and_iff_left himage]
  omega

/-- A bus that answers every read with a word. -/
def answeringWord (high low : UInt8) : I2cBus where
  i2c_write_dt := fun _ => 0
  i2c_read_dt := fun _ n => (0, Vector.ofFn fun i : Fin n => [high, low].getD i 0)

/-- An image whose CRC is `0xB` with `0x45` before it. -/
def sampleImage : Ms5611Data :=
  { Ms5611Data.calibrated with
    prom := #v[0x3132, 0x3334, 0x3536, 0x3738, 0x3940, 0x4142, 0x4344, 0x0000] }

/-- A last word without a CRC is refused, and it is not valid. -/
theorem checkCoefCrc_iff_wrong :
    (sampleImage.checkCoefCrc (answeringWord 0x45 0x00) []).1 = 0 ↔
      (promImage sampleImage (answeringWord 0x45 0x00) [])[7].toNat % 16 =
        (An520.crc4 (promImage sampleImage (answeringWord 0x45 0x00) [])).toNat :=
  ((checkCoefCrc_iff ⟨by decide, by decide⟩).mpr (.inr (by decide +kernel))).1

/-- **A valid image is refused**: there is a byte before its CRC. -/
theorem checkCoefCrc_refuses :
    ReadsCrc (answeringWord 0x45 0x0b) [] ∧
      (promImage sampleImage (answeringWord 0x45 0x0b) [])[7].toNat % 16 =
        (An520.crc4 (promImage sampleImage (answeringWord 0x45 0x0b) [])).toNat ∧
      (sampleImage.checkCoefCrc (answeringWord 0x45 0x0b) []).1 = -ENOTSUP := by
  refine ⟨⟨by decide, by decide⟩, by decide +kernel, by decide +kernel⟩

end

end Backplane.Drivers
