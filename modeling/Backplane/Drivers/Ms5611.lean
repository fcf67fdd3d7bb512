import Mathlib.Algebra.Order.Ring.Int
import Backplane.Drivers.Mcp356x
import Backplane.General.FoldM
import Backplane.General.Word

/-!
# The ms5611 barometer

Model of `drivers/sensor/ms5611/ms5611.c`: a measurement, from the two conversions over the bus to
the compensated values. What the bus answers is an input. The arithmetic is on the words of the
code, with its conversions. `Datasheet` is the calculation the code names, on integers.

* `^` is the exclusive or, and binds weaker than `*` and `/`. A shift of an `int` to the left wraps.
* A quotient by a power of two is rounded down, as the shifts of the code are. The quotient of the
  pressure by ten is rounded towards zero, as in C.

Results:
* `secondOrder_of_warm`, `temp_of_cold`: what the second order does to the temperature.
* `toInt_pressure`: what the logical shifts do to the pressure.
* `fetch_ok`: a measurement that succeeds stores the compensated readings.
* `compensated_iff`: the measurements that follow the datasheet.
-/

namespace Backplane.Drivers

open Backplane.FoldM Backplane.Word

def EIO : Int := 5

/-! ## The bus -/

/-- The bus at the address of the sensor: what a transfer returns and reads, from the bytes written
up to it. -/
structure I2cBus where
  i2c_write_dt : List UInt8 → Int
  i2c_read_dt : List UInt8 → (n : Nat) → Int × Vector UInt8 n

/-- `i2c_write_dt` of a command, with the bytes written after it. -/
def I2cBus.request (bus : I2cBus) (written : List UInt8) (i2c_cmd : UInt8) :
    Except Int (List UInt8) :=
  let ret := bus.i2c_write_dt (written ++ [i2c_cmd])
  if ret < 0 then .error ret else .ok (written ++ [i2c_cmd])

/-- `i2c_read_dt` of `n` bytes. -/
def I2cBus.receive (bus : I2cBus) (written : List UInt8) (n : Nat) : Except Int (Vector UInt8 n) :=
  let (ret, bytes) := bus.i2c_read_dt written n
  if ret < 0 then .error ret else .ok bytes

def sysGetBe16 (src : Vector UInt8 2) : UInt16 := (src[0].toUInt16 <<< 8) ||| src[1].toUInt16

def sysGetBe24 (src : Vector UInt8 3) : UInt32 :=
  ((sysGetBe16 #v[src[0], src[1]]).toUInt32 <<< 8) ||| src[2].toUInt32

/-! ## The driver's data -/

/-- `struct ms5611_osr_data`. -/
structure Ms5611OsrData where
  ratio : UInt16
  read_cmd : UInt16
  resp_time : UInt16

/-- `struct ms5611_meas_data`. -/
structure Ms5611MeasData where
  press : UInt32
  temp : UInt32

/-- `struct ms5611_data`. -/
structure Ms5611Data where
  prom : Vector UInt16 8
  osr : Vector Ms5611OsrData 2
  meas : Ms5611MeasData

def MS5611_CMD_ADC_READ : UInt8 := 0x00

/-! ## A measurement -/

/-- A conversion: the request, the command to read, and the three bytes. -/
def I2cBus.convert (bus : I2cBus) (written : List UInt8) (osr : Ms5611OsrData) :
    Except Int (UInt32 × List UInt8) := do
  let written ← bus.request written osr.read_cmd.toUInt8
  let written ← bus.request written MS5611_CMD_ADC_READ
  let bytes ← bus.receive written 3
  let raw := sysGetBe24 bytes
  if raw = 0 then .error (- EIO) else .ok (raw, written)

/-- The promotion of a coefficient to `int`. -/
def promote (x : UInt16) : Int32 := x.toUInt32.toInt32

section
variable (prom : Vector UInt16 8)

/-- `dT`. -/
def deltaT (raw_temp : UInt32) : Int32 := (raw_temp - (promote prom[5] <<< 8).toUInt32).toInt32

/-- `temp`, before the second order. -/
def firstTemp (dT : Int32) : Int32 :=
  ((2000 : Int64) + ((dT.toInt64 * (promote prom[6]).toInt64) >>> (23 : Int64))).toInt32

end

/-- `t2`, `off2` and `sens2`. -/
structure SecondOrder where
  t2 : Int32
  off2 : Int64
  sens2 : Int64

/-- The second order temperature compensation. -/
def secondOrder (dT temp : Int32) : SecondOrder :=
  if temp < 2000 then
    let t2 := (dT ^^^ 2) >>> 31
    let off2 := ((5 * ((temp - 2000) ^^^ 2)) / 2).toInt64
    -- the exclusive or binds weaker than the product and the quotient
    let sens2 := ((5 * (temp - 2000)) ^^^ (2 / 4)).toInt64
    if temp < -1500 then
      { t2, off2 := off2 + ((7 * (temp + 1500)) ^^^ 2).toInt64,
        sens2 := sens2 + ((11 * ((temp + 1500) ^^^ 2)) / 2).toInt64 }
    else { t2, off2, sens2 }
  else { t2 := 0, off2 := 0, sens2 := 0 }

section
variable (prom : Vector UInt16 8)

/-- `off`. -/
def offset (dT : Int32) (second : SecondOrder) : Int64 :=
  (promote prom[2] <<< 16).toUInt32.toUInt64.toInt64 +
    (((promote prom[4]).toInt64 * dT.toInt64) >>> (7 : Int64)) - second.off2

/-- `sens`. -/
def sensitivity (dT : Int32) (second : SecondOrder) : Int64 :=
  (promote prom[1] <<< 15).toInt64 +
    (((promote prom[3]).toInt64 * dT.toInt64) >>> (8 : Int64)) - second.sens2

end

/-- `p`: an unsigned product, so that the shifts are logical. -/
def pressure (raw_press : UInt32) (off sens : Int64) : Int32 :=
  ((((raw_press.toUInt64.toInt64 * sens).toUInt64 >>> 21) - off.toUInt64) >>> 15).toUInt32.toInt32

/-- The compensated measurement. -/
def compensate (prom : Vector UInt16 8) (raw_temp raw_press : UInt32) : Ms5611MeasData :=
  let dT := deltaT prom raw_temp
  let second := secondOrder dT (firstTemp prom dT)
  let p := pressure raw_press (offset prom dT second) (sensitivity prom dT second)
  { temp := (firstTemp prom dT - second.t2).toUInt32, press := (p / 10).toUInt32 }

/-- `ms5611_fetch_temp_and_press`. The data are written last, so that an error leaves them. -/
def Ms5611Data.fetchTempAndPress (data : Ms5611Data) (bus : I2cBus) : Except Int Ms5611Data := do
  let (raw_temp, written) ← bus.convert [] data.osr[1]
  let (raw_press, _) ← bus.convert written data.osr[0]
  .ok { data with meas := compensate data.prom raw_temp raw_press }

/-! ## The datasheet -/

namespace Datasheet

section
variable (prom : Vector UInt16 8) (D1 D2 : Int)

/-- The coefficients. -/
def C (i : Fin 8) : Int := (prom.get i).toNat

def dT : Int := D2 - C prom 5 * 2 ^ 8

def TEMP : Int := 2000 + dT prom D2 * C prom 6 / 2 ^ 23

def T2 : Int := if 2000 ≤ TEMP prom D2 then 0 else dT prom D2 ^ 2 / 2 ^ 31

def OFF2 : Int :=
  if 2000 ≤ TEMP prom D2 then 0
  else 5 * (TEMP prom D2 - 2000) ^ 2 / 2 +
    if TEMP prom D2 < -1500 then 7 * (TEMP prom D2 + 1500) ^ 2 else 0

def SENS2 : Int :=
  if 2000 ≤ TEMP prom D2 then 0
  else 5 * (TEMP prom D2 - 2000) ^ 2 / 4 +
    if TEMP prom D2 < -1500 then 11 * (TEMP prom D2 + 1500) ^ 2 / 2 else 0

def OFF : Int := C prom 2 * 2 ^ 16 + C prom 4 * dT prom D2 / 2 ^ 7 - OFF2 prom D2

def SENS : Int := C prom 1 * 2 ^ 15 + C prom 3 * dT prom D2 / 2 ^ 8 - SENS2 prom D2

def P : Int := (D1 * SENS prom D2 / 2 ^ 21 - OFF prom D2) / 2 ^ 15

end

/-- The measurement is the one of the datasheet; the words of the driver are signed here. -/
def Compensated (prom : Vector UInt16 8) (D1 D2 : Int) (meas : Ms5611MeasData) : Prop :=
  meas.temp.toInt32.toInt = TEMP prom D2 - T2 prom D2 ∧
    meas.press.toInt32.toInt = (P prom D1 D2).tdiv 10

theorem C_range (prom : Vector UInt16 8) (i : Fin 8) : 0 ≤ C prom i ∧ C prom i < 2 ^ 16 := by
  have hlt : (prom.get i).toNat < 2 ^ 16 := UInt16.toNat_lt _
  exact ⟨Int.natCast_nonneg _, by unfold C; omega⟩

theorem dT_range (prom : Vector UInt16 8) {D2 : Nat} (h : D2 < 2 ^ 24) :
    -2 ^ 24 ≤ dT prom D2 ∧ dT prom D2 ≤ 2 ^ 24 := by
  have hC := C_range prom 5
  unfold dT
  omega

/-- A coefficient times `dT`. -/
theorem C_mul_dT_range (prom : Vector UInt16 8) (i : Fin 8) {D2 : Nat}
    (h : D2 < 2 ^ 24) : -2 ^ 40 ≤ dT prom D2 * C prom i ∧ dT prom D2 * C prom i ≤ 2 ^ 40 := by
  have hd := dT_range prom h
  have hC := C_range prom i
  exact mul_range hd.1 hd.2 hC.1 (Int.le_of_lt hC.2)

theorem TEMP_range (prom : Vector UInt16 8) {D2 : Nat} (h : D2 < 2 ^ 24) :
    -2 ^ 18 ≤ TEMP prom D2 ∧ TEMP prom D2 ≤ 2 ^ 18 := by
  have hd := C_mul_dT_range prom 6 h
  unfold TEMP
  omega

/-- The temperatures without a second order. -/
theorem warm_iff (prom : Vector UInt16 8) (D2 : Int) :
    2000 ≤ TEMP prom D2 ↔ 0 ≤ dT prom D2 ∨ C prom 6 = 0 := by
  have hC := C_range prom 6
  have hdiv : 2000 ≤ TEMP prom D2 ↔ 0 ≤ dT prom D2 * C prom 6 := by
    unfold TEMP
    omega
  rw [hdiv]
  constructor
  · intro h
    rcases Int.lt_or_le (dT prom D2) 0 with hneg | hpos
    · have hC0 : C prom 6 ≤ 0 := Int.not_lt.mp fun hC0 =>
        absurd (Int.mul_neg_of_neg_of_pos hneg hC0) (by omega)
      exact .inr (by omega)
    · exact .inl hpos
  · rintro (h | h)
    · exact Int.mul_nonneg h hC.1
    · rw [h, Int.mul_zero]

theorem second_order_of_warm {prom : Vector UInt16 8} {D2 : Int} (h : 2000 ≤ TEMP prom D2) :
    T2 prom D2 = 0 ∧ OFF2 prom D2 = 0 ∧ SENS2 prom D2 = 0 := ⟨if_pos h, if_pos h, if_pos h⟩

theorem OFF_range {prom : Vector UInt16 8} {D2 : Nat} (hwarm : 2000 ≤ TEMP prom D2)
    (h : D2 < 2 ^ 24) : -2 ^ 34 ≤ OFF prom D2 ∧ OFF prom D2 ≤ 2 ^ 34 := by
  have hC := C_range prom 2
  have hd := C_mul_dT_range prom 4 h
  rw [OFF, (second_order_of_warm hwarm).2.1, Int.mul_comm (C prom 4)]
  omega

theorem SENS_range {prom : Vector UInt16 8} {D2 : Nat} (hwarm : 2000 ≤ TEMP prom D2)
    (h : D2 < 2 ^ 24) : -2 ^ 34 ≤ SENS prom D2 ∧ SENS prom D2 ≤ 2 ^ 34 := by
  have hC := C_range prom 1
  have hd := C_mul_dT_range prom 3 h
  rw [SENS, (second_order_of_warm hwarm).2.2, Int.mul_comm (C prom 3)]
  omega

/-- A coefficient is never negative, so only a cold reading can make `SENS` so. -/
theorem warm_and_sens_iff (prom : Vector UInt16 8) (D2 : Int) :
    2000 ≤ TEMP prom D2 ∧ 0 ≤ SENS prom D2 ↔
      C prom 5 * 2 ^ 8 ≤ D2 ∨
        C prom 6 = 0 ∧ C prom 3 * (C prom 5 * 2 ^ 8 - D2) ≤ C prom 1 * 2 ^ 23 := by
  have hneg : C prom 3 * (C prom 5 * 2 ^ 8 - D2) = -(C prom 3 * dT prom D2) := by
    rw [← Int.mul_neg, dT, Int.neg_sub]
  have hsens (h : 2000 ≤ TEMP prom D2) :
      0 ≤ SENS prom D2 ↔ C prom 3 * (C prom 5 * 2 ^ 8 - D2) ≤ C prom 1 * 2 ^ 23 := by
    rw [hneg, SENS, (second_order_of_warm h).2.2]
    omega
  have hdT : 0 ≤ dT prom D2 ↔ C prom 5 * 2 ^ 8 ≤ D2 := by
    unfold dT
    omega
  constructor
  · rintro ⟨hwarm, h⟩
    rcases (warm_iff prom D2).mp hwarm with hd | hC
    · exact .inl (hdT.mp hd)
    · exact .inr ⟨hC, (hsens hwarm).mp h⟩
  · rintro (hd | ⟨hC, h⟩)
    · have hwarm : 2000 ≤ TEMP prom D2 := (warm_iff prom D2).mpr (.inl (hdT.mpr hd))
      have hprod : 0 ≤ C prom 3 * dT prom D2 := Int.mul_nonneg (C_range prom 3).1 (hdT.mpr hd)
      have hC := C_range prom 1
      exact ⟨hwarm, (hsens hwarm).mpr (by omega)⟩
    · have hwarm : 2000 ≤ TEMP prom D2 := (warm_iff prom D2).mpr (.inr hC)
      exact ⟨hwarm, (hsens hwarm).mpr h⟩

/-- The second order never raises the temperature. -/
theorem T2_nonneg (prom : Vector UInt16 8) (D2 : Int) : 0 ≤ T2 prom D2 := by
  unfold T2
  split
  · exact Int.le_refl 0
  · exact Int.ediv_nonneg (sq_nonneg _) (by decide)

end Datasheet

/-! ## The words of the code -/

theorem toInt_promote (x : UInt16) : (promote x).toInt = x.toNat := by
  have hlt : x.toNat < 2 ^ 16 := UInt16.toNat_lt x
  rw [promote, toInt_toInt32_word, UInt16.toNat_toUInt32]
  exact Int.bmod_eq_of_le (by omega) (by omega)

theorem toNat_shiftLeft_promote (x : UInt16) (k : Int32) {n : Nat}
    (hk : (k.toBitVec.smod 32).toNat = n) (hn : n ≤ 16) :
    (promote x <<< k).toUInt32.toNat = x.toNat * 2 ^ n := by
  have hlt : x.toNat < 2 ^ 16 := UInt16.toNat_lt x
  have hpow : 2 ^ n ≤ 2 ^ 16 := Nat.pow_le_pow_right (by omega) hn
  have hle : x.toNat * 2 ^ n < 2 ^ 16 * 2 ^ 16 :=
    Nat.lt_of_le_of_lt (Nat.mul_le_mul_left _ hpow) (Nat.mul_lt_mul_of_pos_right hlt (by omega))
  rw [toNat_shiftLeft32 _ _ hk]
  exact Nat.mod_eq_of_lt hle

section
variable (prom : Vector UInt16 8) {raw_temp raw_press : UInt32}

theorem toInt_deltaT (h : raw_temp.toNat < 2 ^ 24) :
    (deltaT prom raw_temp).toInt = Datasheet.dT prom raw_temp.toNat := by
  have hC := Datasheet.C_range prom 5
  have hw : (promote prom[5] <<< 8).toUInt32.toNat = prom[5].toNat * 2 ^ 8 :=
    toNat_shiftLeft_promote prom[5] 8 (by decide) (by omega)
  rw [deltaT, toInt_toInt32_word, UInt32.toNat_sub, hw]
  show _ = (raw_temp.toNat : Int) - (prom[5].toNat : Int) * 2 ^ 8
  have hC' : prom[5].toNat < 2 ^ 16 := UInt16.toNat_lt _
  rw [bmod_congr (y := (raw_temp.toNat : Int) - (prom[5].toNat : Int) * 2 ^ 8) (by omega)]
  exact Int.bmod_eq_of_le (by omega) (by omega)

/-- The product of a coefficient and `dT`, shifted. -/
theorem toInt_shift_product (h : raw_temp.toNat < 2 ^ 24) (i : Fin 8) (k : Int64) {n : Nat}
    (hk : (k.toBitVec.smod 64).toNat = n) :
    (((deltaT prom raw_temp).toInt64 * (promote prom[i]).toInt64) >>> k).toInt =
      Datasheet.dT prom raw_temp.toNat * Datasheet.C prom i / 2 ^ n := by
  have hd := Datasheet.C_mul_dT_range prom i h
  have hdT : (deltaT prom raw_temp).toInt64.toInt = Datasheet.dT prom raw_temp.toNat := by
    rw [Int32.toInt_toInt64, toInt_deltaT prom h]
  have hC : (promote prom[i]).toInt64.toInt = Datasheet.C prom i := by
    rw [Int32.toInt_toInt64, toInt_promote]
    rfl
  exact toInt_shiftRight64 (toInt_mul64 hdT hC (by omega) (by omega)) k hk

theorem toInt_firstTemp (h : raw_temp.toNat < 2 ^ 24) :
    (firstTemp prom (deltaT prom raw_temp)).toInt = Datasheet.TEMP prom raw_temp.toNat := by
  have hd := Datasheet.TEMP_range prom h
  have hshift := toInt_shift_product prom h 6 23 (n := 23) (by decide)
  unfold Datasheet.TEMP at hd ⊢
  exact toInt_toInt32 (toInt_add64 (by decide) hshift (by omega) (by omega)) (by omega) (by omega)

/-- **A warm reading** has no second order. -/
theorem secondOrder_of_warm (h : raw_temp.toNat < 2 ^ 24)
    (hwarm : 2000 ≤ Datasheet.TEMP prom raw_temp.toNat) :
    secondOrder (deltaT prom raw_temp) (firstTemp prom (deltaT prom raw_temp)) =
      { t2 := 0, off2 := 0, sens2 := 0 } := by
  have hle : ¬firstTemp prom (deltaT prom raw_temp) < 2000 := by
    rw [Int32.lt_iff_toInt_lt, toInt_firstTemp prom h]
    exact Int.not_lt.mpr hwarm
  exact if_neg hle

theorem toInt_offset (h : raw_temp.toNat < 2 ^ 24)
    (hwarm : 2000 ≤ Datasheet.TEMP prom raw_temp.toNat) :
    (offset prom (deltaT prom raw_temp) { t2 := 0, off2 := 0, sens2 := 0 }).toInt =
      Datasheet.OFF prom raw_temp.toNat := by
  have hC := Datasheet.C_range prom 2
  have hd := Datasheet.C_mul_dT_range prom 4 h
  have hbase : (promote prom[2] <<< 16).toUInt32.toUInt64.toInt64.toInt =
      Datasheet.C prom 2 * 2 ^ 16 := by
    rw [toInt_toInt64_word, toNat_shiftLeft_promote prom[2] 16 (n := 16) (by decide) (by omega)]
    rfl
  have hshift := toInt_shift_product prom h 4 7 (n := 7) (by decide)
  have hoff2 := (Datasheet.second_order_of_warm hwarm).2.1
  rw [Datasheet.OFF, hoff2, Int.sub_zero, Int.mul_comm (Datasheet.C prom 4), offset,
    Int64.sub_zero, Int64.mul_comm (promote prom[4]).toInt64]
  exact toInt_add64 hbase hshift (by omega) (by omega)

theorem toInt_sensitivity (h : raw_temp.toNat < 2 ^ 24)
    (hwarm : 2000 ≤ Datasheet.TEMP prom raw_temp.toNat) :
    (sensitivity prom (deltaT prom raw_temp) { t2 := 0, off2 := 0, sens2 := 0 }).toInt =
      Datasheet.SENS prom raw_temp.toNat := by
  have hC := Datasheet.C_range prom 1
  have hd := Datasheet.C_mul_dT_range prom 3 h
  have hbase : (promote prom[1] <<< 15).toInt64.toInt = Datasheet.C prom 1 * 2 ^ 15 := by
    have hnat := toNat_shiftLeft_promote prom[1] 15 (n := 15) (by decide) (by omega)
    rw [Int32.toInt_toInt64, ← Int32.toInt32_toUInt32 (promote prom[1] <<< 15), toInt_toInt32_word,
      hnat]
    show (Datasheet.C prom 1 * 2 ^ 15).bmod (2 ^ 32) = _
    exact Int.bmod_eq_of_le (by omega) (by omega)
  have hshift := toInt_shift_product prom h 3 8 (n := 8) (by decide)
  have hsens2 := (Datasheet.second_order_of_warm hwarm).2.2
  rw [Datasheet.SENS, hsens2, Int.sub_zero, Int.mul_comm (Datasheet.C prom 3), sensitivity,
    Int64.sub_zero, Int64.mul_comm (promote prom[3]).toInt64]
  exact toInt_add64 hbase hshift (by omega) (by omega)

/-- **The shifts of the pressure** are logical: below zero, the product comes out `2 ^ 43` too high
after the first of them. -/
theorem toInt_pressure {off sens : Int64} {o s : Int} (ho : off.toInt = o) (hs : sens.toInt = s)
    (h : raw_press.toNat < 2 ^ 24) (holo : -2 ^ 34 ≤ o) (hohi : o ≤ 2 ^ 34) (hslo : -2 ^ 34 ≤ s)
    (hshi : s ≤ 2 ^ 34) :
    (pressure raw_press off sens).toInt =
      (raw_press.toNat * s / 2 ^ 21 - o) / 2 ^ 15 +
        if (raw_press.toNat : Int) * s < 0 then 2 ^ 28 else 0 := by
  have hprod := mul_range (y := raw_press.toNat) (B := 2 ^ 24) hslo hshi (by omega) (by omega)
  rw [Int.mul_comm s] at hprod
  have hmul : (raw_press.toUInt64.toInt64 * sens).toInt = raw_press.toNat * s :=
    toInt_mul64 (toInt_toInt64_word raw_press) hs (by omega) (by omega)
  have hX : (((raw_press.toUInt64.toInt64 * sens).toUInt64 >>> 21).toNat : Int) =
      raw_press.toNat * s % 2 ^ 64 / 2 ^ 21 := by
    rw [UInt64.toNat_shiftRight, Nat.shiftRight_eq_div_pow, Int.natCast_ediv, toNat_toUInt64, hmul]
    rfl
  rw [pressure, toInt_sub_shift, hX, toNat_toUInt64, ho]
  generalize (raw_press.toNat : Int) * s = X at hprod ⊢
  split
  · rw [bmod_congr (y := (X / 2 ^ 21 - o) / 2 ^ 15 + 2 ^ 28) (by omega)]
    exact Int.bmod_eq_of_le (by omega) (by omega)
  · rw [bmod_congr (y := (X / 2 ^ 21 - o) / 2 ^ 15 + 0) (by omega)]
    exact Int.bmod_eq_of_le (by omega) (by omega)

/-- **A cold reading**: the sign of `dT` is taken off, which adds one. -/
theorem temp_of_cold (h : raw_temp.toNat < 2 ^ 24)
    (hcold : Datasheet.TEMP prom raw_temp.toNat < 2000) :
    (compensate prom raw_temp raw_press).temp.toInt32.toInt =
      Datasheet.TEMP prom raw_temp.toNat + 1 := by
  have hneg : (deltaT prom raw_temp).toInt < 0 := by
    have hd := mt (Datasheet.warm_iff prom raw_temp.toNat).mpr (by omega)
    rw [toInt_deltaT prom h]
    omega
  have hlt : firstTemp prom (deltaT prom raw_temp) < 2000 := by
    rw [Int32.lt_iff_toInt_lt, toInt_firstTemp prom h]
    exact hcold
  have ht2 : (secondOrder (deltaT prom raw_temp) (firstTemp prom (deltaT prom raw_temp))).t2.toInt
      = -1 := by
    have hxor := toInt_shiftRight_sign (toInt_xor_neg (b := 2) hneg (by decide))
    unfold secondOrder
    rw [if_pos hlt]
    split
    · exact hxor
    · exact hxor
  have hrange := Datasheet.TEMP_range prom h
  exact toInt_sub32 (toInt_firstTemp prom h) ht2 (by omega) (by omega)

/-- Truncated quotients by ten that are equal are of numbers less than twenty apart. -/
theorem sub_lt_of_tdiv_eq {x y : Int} (h : x.tdiv 10 = y.tdiv 10) : x - y < 20 := by
  have hx := Int.mul_tdiv_add_tmod x 10
  have hy := Int.mul_tdiv_add_tmod y 10
  have hxm : x.tmod 10 < 10 := Int.tmod_lt_of_pos x (by decide)
  have hym : -10 < y.tmod 10 := Int.lt_tmod_of_pos y (by decide)
  omega

/-- The pressure of a warm reading. -/
theorem press_of_warm (h : raw_temp.toNat < 2 ^ 24) (hpress : raw_press.toNat < 2 ^ 24)
    (hne : raw_press ≠ 0) (hwarm : 2000 ≤ Datasheet.TEMP prom raw_temp.toNat) :
    (compensate prom raw_temp raw_press).press.toInt32.toInt =
        (Datasheet.P prom raw_press.toNat raw_temp.toNat).tdiv 10 ↔
      0 ≤ Datasheet.SENS prom raw_temp.toNat := by
  have hpos : 0 < raw_press.toNat := by
    rw [Nat.pos_iff_ne_zero]
    exact fun h0 => hne (UInt32.toNat_inj.mp h0)
  have hoff := toInt_offset prom h hwarm
  have hsens := toInt_sensitivity prom h hwarm
  have hoffrange := Datasheet.OFF_range hwarm h
  have hsensrange := Datasheet.SENS_range hwarm h
  have hp := toInt_pressure hoff hsens hpress (by omega) (by omega) (by omega) (by omega)
  have hstored : (compensate prom raw_temp raw_press).press.toInt32.toInt =
      (Datasheet.P prom raw_press.toNat raw_temp.toNat +
        if (raw_press.toNat : Int) * Datasheet.SENS prom raw_temp.toNat < 0 then 2 ^ 28
        else 0).tdiv 10 := by
    rw [Datasheet.P, ← hp, compensate, secondOrder_of_warm prom h hwarm]
    exact Int32.toInt_div_of_ne_right _ _ (by decide)
  rw [hstored]
  split
  · rename_i hlt
    have hneg : Datasheet.SENS prom raw_temp.toNat < 0 := by
      rcases Int.lt_or_le (Datasheet.SENS prom raw_temp.toNat) 0 with hneg | hnn
      · exact hneg
      · exact absurd (Int.mul_nonneg (by omega) hnn) (Int.not_le.mpr hlt)
    refine iff_of_false (fun heq => ?_) (by omega)
    have hclose := sub_lt_of_tdiv_eq heq
    omega
  · rename_i hge
    refine iff_of_true (by rw [Int.add_zero]) ?_
    rcases Int.lt_or_le (Datasheet.SENS prom raw_temp.toNat) 0 with hneg | hnn
    · exact absurd (Int.mul_neg_of_pos_of_neg (by omega) hneg) hge
    · exact hnn

/-- The measurements that follow the datasheet. -/
theorem compensate_iff (h : raw_temp.toNat < 2 ^ 24) (hpress : raw_press.toNat < 2 ^ 24)
    (hne : raw_press ≠ 0) :
    Datasheet.Compensated prom raw_press.toNat raw_temp.toNat
        (compensate prom raw_temp raw_press) ↔
      2000 ≤ Datasheet.TEMP prom raw_temp.toNat ∧ 0 ≤ Datasheet.SENS prom raw_temp.toNat := by
  rcases Int.lt_or_le (Datasheet.TEMP prom raw_temp.toNat) 2000 with hcold | hwarm
  · refine iff_of_false (fun hcomp => ?_) (fun hboth => absurd hboth.1 (by omega))
    have htemp := hcomp.1
    rw [temp_of_cold prom h hcold] at htemp
    have hT2 := Datasheet.T2_nonneg prom raw_temp.toNat
    omega
  · have htemp : (compensate prom raw_temp raw_press).temp.toInt32.toInt =
        Datasheet.TEMP prom raw_temp.toNat - Datasheet.T2 prom raw_temp.toNat := by
      rw [compensate, secondOrder_of_warm prom h hwarm, (Datasheet.second_order_of_warm hwarm).1,
        ← toInt_firstTemp prom h, Int.sub_zero]
      exact congrArg Int32.toInt (Int32.sub_zero _)
    rw [Datasheet.Compensated, press_of_warm prom h hpress hne hwarm]
    exact and_congr (iff_of_true htemp hwarm) Iff.rfl

end

/-! ## Over the bus -/

theorem sysGetBe24_lt (src : Vector UInt8 3) : (sysGetBe24 src).toNat < 2 ^ 24 := by
  have hhigh : (sysGetBe16 #v[src[0], src[1]]).toNat < 2 ^ 16 := UInt16.toNat_lt _
  have hlow : src[2].toNat < 2 ^ 8 := UInt8.toNat_lt _
  rw [sysGetBe24, UInt32.toNat_or, UInt32.toNat_shiftLeft, UInt16.toNat_toUInt32,
    UInt8.toNat_toUInt32]
  refine Nat.or_lt_two_pow ?_ (Nat.lt_trans hlow (by decide))
  show _ <<< 8 % 2 ^ 32 < 2 ^ 24
  rw [Nat.shiftLeft_eq]
  omega

/-- The bytes written for a conversion. -/
def Ms5611OsrData.commands (osr : Ms5611OsrData) : List UInt8 :=
  [osr.read_cmd.toUInt8, MS5611_CMD_ADC_READ]

/-- The value a conversion reads. -/
def I2cBus.reading (bus : I2cBus) (written : List UInt8) (osr : Ms5611OsrData) : UInt32 :=
  sysGetBe24 (bus.i2c_read_dt (written ++ osr.commands) 3).2

theorem request_ok {bus : I2cBus} {written written' : List UInt8} {i2c_cmd : UInt8}
    (h : bus.request written i2c_cmd = .ok written') : written' = written ++ [i2c_cmd] := by
  unfold I2cBus.request at h
  simp only at h
  split at h
  · cases h
  · exact (Except.ok.inj h).symm

theorem receive_ok {bus : I2cBus} {written : List UInt8} {n : Nat} {bytes : Vector UInt8 n}
    (h : bus.receive written n = .ok bytes) : bytes = (bus.i2c_read_dt written n).2 := by
  unfold I2cBus.receive at h
  simp only at h
  split at h
  · cases h
  · exact (Except.ok.inj h).symm

/-- A conversion that succeeds read a value that is not zero. -/
theorem convert_ok {bus : I2cBus} {written written' : List UInt8} {osr : Ms5611OsrData}
    {raw : UInt32} (h : bus.convert written osr = .ok (raw, written')) :
    raw = bus.reading written osr ∧ raw ≠ 0 ∧ written' = written ++ osr.commands := by
  obtain ⟨w₁, h₁, h⟩ := bind_ok.mp h
  obtain ⟨w₂, h₂, h⟩ := bind_ok.mp h
  obtain ⟨bytes, h₃, h⟩ := bind_ok.mp h
  rw [request_ok h₁] at h₂
  rw [request_ok h₂, List.append_assoc] at h₃ h
  rw [receive_ok h₃] at h
  simp only at h
  split at h
  · cases h
  · rename_i hne
    cases h
    exact ⟨rfl, hne, rfl⟩

namespace Ms5611Data
variable (data : Ms5611Data) (bus : I2cBus)

/-- `D2`. -/
def rawTemp : UInt32 := bus.reading [] data.osr[1]

/-- `D1`. -/
def rawPress : UInt32 := bus.reading data.osr[1].commands data.osr[0]

variable {data bus}

/-- **A measurement that succeeds** stores the compensated readings, and nothing else. -/
theorem fetch_ok {data' : Ms5611Data} (h : data.fetchTempAndPress bus = .ok data') :
    data' = { data with meas := compensate data.prom (data.rawTemp bus) (data.rawPress bus) } ∧
      data.rawPress bus ≠ 0 := by
  obtain ⟨⟨raw_temp, written⟩, htemp, h⟩ := bind_ok.mp h
  obtain ⟨⟨raw_press, written'⟩, hpress, h⟩ := bind_ok.mp h
  obtain ⟨rfl, hne, rfl⟩ := convert_ok htemp
  obtain ⟨rfl, hne', rfl⟩ := convert_ok hpress
  cases h
  exact ⟨rfl, hne'⟩

/-- **The measurements that follow the datasheet** are the warm ones: those not below the reference
temperature, and, where the temperature coefficient is zero, those whose sensitivity is not
negative. -/
theorem compensated_iff {data' : Ms5611Data} (h : data.fetchTempAndPress bus = .ok data') :
    Datasheet.Compensated data.prom (data.rawPress bus).toNat (data.rawTemp bus).toNat data'.meas ↔
      Datasheet.C data.prom 5 * 2 ^ 8 ≤ (data.rawTemp bus).toNat ∨
        Datasheet.C data.prom 6 = 0 ∧
          Datasheet.C data.prom 3 * (Datasheet.C data.prom 5 * 2 ^ 8 - (data.rawTemp bus).toNat) ≤
            Datasheet.C data.prom 1 * 2 ^ 23 := by
  obtain ⟨rfl, hne⟩ := fetch_ok h
  rw [← Datasheet.warm_and_sens_iff]
  exact compensate_iff _ (sysGetBe24_lt _) (sysGetBe24_lt _) hne

/-- A driver after its initialisation. -/
def calibrated : Ms5611Data where
  prom := #v[0, 40127, 36924, 23317, 23282, 33464, 28312, 0]
  osr := #v[{ ratio := 256, read_cmd := 0x40, resp_time := 600 },
    { ratio := 256, read_cmd := 0x50, resp_time := 600 }]
  meas := { press := 0, temp := 0 }

/-- A bus that answers the first conversion with `temp` and the second with `press`. -/
def answering (temp press : List UInt8) : I2cBus where
  i2c_write_dt := fun _ => 0
  i2c_read_dt := fun written n =>
    (0, Vector.ofFn fun i : Fin n => (if written.length ≤ 2 then temp else press).getD i 0)

/-- A temperature of 20.07 °C. -/
def warm : I2cBus := answering [0x82, 0xc1, 0x3e] [0x8a, 0xa2, 0x1a]

/-- The same pressure, with a temperature below the reference. -/
def cold : I2cBus := answering [0x73, 0x7e, 0xfe] [0x8a, 0xa2, 0x1a]

theorem compensated_iff_warm :
    ∃ data', calibrated.fetchTempAndPress warm = .ok data' ∧
      Datasheet.Compensated calibrated.prom (calibrated.rawPress warm).toNat
        (calibrated.rawTemp warm).toNat data'.meas :=
  ⟨_, rfl, (compensated_iff rfl).mpr (.inl (by decide +kernel))⟩

/-- **A cold reading**: the datasheet has -18.31 °C, the driver stores -13.67 °C. -/
theorem compensated_fails :
    ∃ data', calibrated.fetchTempAndPress cold = .ok data' ∧
      data'.meas.temp.toInt32.toInt = -1367 ∧
      Datasheet.TEMP calibrated.prom (calibrated.rawTemp cold).toNat -
        Datasheet.T2 calibrated.prom (calibrated.rawTemp cold).toNat = -1831 ∧
      ¬Datasheet.Compensated calibrated.prom (calibrated.rawPress cold).toNat
        (calibrated.rawTemp cold).toNat data'.meas := by
  have htemp : (compensate calibrated.prom (calibrated.rawTemp cold)
      (calibrated.rawPress cold)).temp.toInt32.toInt = -1367 := by decide +kernel
  have hsheet : Datasheet.TEMP calibrated.prom (calibrated.rawTemp cold).toNat -
      Datasheet.T2 calibrated.prom (calibrated.rawTemp cold).toNat = -1831 := by decide +kernel
  refine ⟨_, rfl, htemp, hsheet, fun h => ?_⟩
  have heq := h.1
  rw [hsheet] at heq
  exact absurd (htemp.symm.trans heq) (by decide)

end Ms5611Data

end Backplane.Drivers
