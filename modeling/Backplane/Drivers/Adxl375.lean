import Mathlib.Data.Rat.Floor
import Backplane.Drivers.Barometer
import Backplane.Utils.Bytes

/-!
# The adxl375 accelerometer

Model of `drivers/sensor/adxl375/adxl375.c`: `sample_fetch` and `channel_get`. What the bus leaves
in the buffer is an input. The factor of a count is the exact number, and a number out of the range
of `int16_t` is cut to its low 16 bits.

* The data are written whatever the bus returns.
* The millionths are taken from the 16 bits that are left of the value in millionths.

Results:
* `truncate_div`, `truncate_neg`: conversions to integers.
* `narrow_iff`: the counts that survive the cut.
* `accel_convert_iff`: the samples that come through.
* `acceleration_iff`: the axes of a block that come through.
-/

namespace Backplane.Drivers

open Backplane.Utils

/-! ## The driver -/

/-- `enum sensor_channel`, as far as this driver tells its values apart. -/
inductive AccelChannel
  | SENSOR_CHAN_ACCEL_X | SENSOR_CHAN_ACCEL_Y | SENSOR_CHAN_ACCEL_Z | SENSOR_CHAN_ACCEL_XYZ
  | unsupported (chan : Nat)

/-- `struct adxl375_xyz_accel_data`. -/
structure Adxl375XyzAccelData where
  x : Int16
  y : Int16
  z : Int16

/-- `struct adxl375_data`. -/
structure Adxl375Data where
  sample : Adxl375XyzAccelData

/-- Micro m/s² in one g. -/
def SENSOR_G : Int := 9806650

def ADXL375_MG2G_MULTIPLIER : ℚ := 49 / 1000

/-- The conversion of a number to an integer, which drops the fraction. -/
def truncate (x : ℚ) : Int := if 0 ≤ x then ⌊x⌋ else ⌈x⌉

/-- What the buffer of a transfer holds decoded. -/
def Adxl375XyzAccelData.ofBuff (buff : Vector UInt8 6) : Adxl375XyzAccelData where
  x := (word buff[1] buff[0]).toInt16
  y := (word buff[3] buff[2]).toInt16
  z := (word buff[5] buff[4]).toInt16

/-- `adxl375_sample_fetch`: the data and what it returns, where `read_reg_multiple` returns a code
and fills the buffer. -/
def Adxl375Data.sampleFetch (data : Adxl375Data)
    (read_reg_multiple : Vector UInt8 6 → Int × Vector UInt8 6) : Adxl375Data × Int :=
  let (ret, buff) := read_reg_multiple (Vector.replicate 6 0)
  ({ data with sample := .ofBuff buff }, ret)

/-- `adxl375_accel_convert`. -/
def adxl375AccelConvert (sample_val : Int16) : SensorValue where
  val1 := .ofInt (truncate
    (sample_val.toInt * SENSOR_G * ADXL375_MG2G_MULTIPLIER / 1000000))
  val2 := .ofInt ((Int16.ofInt (truncate
    (sample_val.toInt * SENSOR_G * ADXL375_MG2G_MULTIPLIER))).toInt.tmod 1000000)

/-- `adxl375_channel_get`: the values it writes from `val` on. -/
def Adxl375Data.channelGet (data : Adxl375Data) : AccelChannel → Except Int (List SensorValue)
  | .SENSOR_CHAN_ACCEL_X => .ok [adxl375AccelConvert data.sample.x]
  | .SENSOR_CHAN_ACCEL_Y => .ok [adxl375AccelConvert data.sample.y]
  | .SENSOR_CHAN_ACCEL_Z => .ok [adxl375AccelConvert data.sample.z]
  | .SENSOR_CHAN_ACCEL_XYZ => .ok [adxl375AccelConvert data.sample.x,
      adxl375AccelConvert data.sample.y, adxl375AccelConvert data.sample.z]
  | .unsupported _ => .error (-ENOTSUP)

/-! ## Numbers cut to integers -/

theorem truncate_div (n d : Nat) : truncate ((n : ℚ) / d) = (n / d : Nat) := by
  have hpos : (0 : ℚ) ≤ (n : ℚ) / d := by positivity
  rw [truncate, if_pos hpos, ← Int.cast_natCast (R := ℚ) n, Rat.floor_intCast_div_natCast,
    Int.natCast_ediv]

theorem truncate_neg (x : ℚ) : truncate (-x) = -truncate x := by
  unfold truncate
  rcases lt_trichotomy x 0 with h | rfl | h
  · rw [if_pos (by linarith), if_neg (by linarith), Int.floor_neg]
  · simp
  · rw [if_neg (by linarith), if_pos h.le, Int.ceil_neg]

/-! ## The samples that come through -/

/-- `n` counts in millionths of a m/s², without the fraction. -/
def micro (n : Nat) : Nat := n * 9610517 / 20

/-- At a multiple of 2131 the fraction of the 16 bits is the fraction. -/
theorem micro_of_dvd {n : Nat} (hn : n ≤ 2 ^ 15) (h : 2131 ∣ n) :
    micro n / 1000000 % 1024 = 0 ∧ micro n % 1000000 < 2 ^ 15 := by
  obtain ⟨c, rfl⟩ := h
  have hmicro : micro (2131 * c) = 1024000000 * c + 11727 * c / 20 := by
    unfold micro
    omega
  have hquot : micro (2131 * c) / 1000000 = 1024 * c := by omega
  omega

/-- The remainder is in 16 bits, and the quotient a multiple of 1024, nowhere else. -/
theorem dvd_of_micro {n : Nat} (hn : n ≤ 2 ^ 15) (hquot : micro n / 1000000 % 1024 = 0)
    (hrem : micro n % 1000000 ≤ 2 ^ 15) : 2131 ∣ n := by
  obtain ⟨c, hc⟩ := Nat.dvd_of_mod_eq_zero hquot
  have hdiv := Nat.div_add_mod (n * 9610517) 20
  have hmicro := Nat.div_add_mod (micro n) 1000000
  have hlt := Nat.mod_lt (n * 9610517) (show 20 > 0 by omega)
  rw [hc] at hmicro
  unfold micro at hmicro hrem
  have hzero : (n : Int) - 2131 * c = 0 := by omega
  exact ⟨c, by omega⟩

/-- A remainder survives the cut to 16 bits if it is in range and the rest is a multiple of the
range. -/
theorem bmod_eq_mod_iff (t : Nat) :
    (t : Int).bmod (2 ^ 16) = (t % 1000000 : Nat) ↔
      t / 1000000 % 1024 = 0 ∧ t % 1000000 < 2 ^ 15 := by
  rw [Int.bmod_eq_iff (by decide)]
  omega

theorem bmod_neg_eq_mod_iff (t : Nat) :
    (-(t : Int)).bmod (2 ^ 16) = -(t % 1000000 : Nat) ↔
      t / 1000000 % 1024 = 0 ∧ t % 1000000 ≤ 2 ^ 15 := by
  rw [Int.bmod_eq_iff (by decide)]
  omega

/-- **The counts whose fraction comes through**, above zero and below. -/
theorem narrow_iff {n : Nat} (hn : n ≤ 2 ^ 15) :
    ((micro n : Int).bmod (2 ^ 16) = (micro n % 1000000 : Nat) ↔ 2131 ∣ n) ∧
      ((-(micro n : Int)).bmod (2 ^ 16) = -(micro n % 1000000 : Nat) ↔ 2131 ∣ n) := by
  rw [bmod_eq_mod_iff, bmod_neg_eq_mod_iff]
  constructor
  · exact ⟨fun h => dvd_of_micro hn h.1 h.2.le, micro_of_dvd hn⟩
  · exact ⟨fun h => dvd_of_micro hn h.1 h.2, fun h => (micro_of_dvd hn h).imp_right Nat.le_of_lt⟩

/-- The value stands for `s` counts, exact to a millionth. -/
structure Millionths (s : Int) (val : SensorValue) : Prop where
  total : val.val1.toInt * 10 ^ 6 + val.val2.toInt =
    truncate (s * SENSOR_G * ADXL375_MG2G_MULTIPLIER)
  sign : 0 ≤ val.val1.toInt * val.val2.toInt
  small : |val.val2.toInt| < 10 ^ 6

/-- The number of millionths, above zero and below. -/
theorem truncate_micro (n : Nat) :
    truncate (((n : Int) : ℚ) * SENSOR_G * ADXL375_MG2G_MULTIPLIER) = micro n ∧
      truncate (((n : Int) : ℚ) * SENSOR_G * ADXL375_MG2G_MULTIPLIER / 1000000) =
        (micro n / 1000000 : Nat) := by
  have hmul : ((n : Int) : ℚ) * SENSOR_G * ADXL375_MG2G_MULTIPLIER =
      ((n * 9610517 : Nat) : ℚ) / (20 : Nat) := by
    unfold SENSOR_G ADXL375_MG2G_MULTIPLIER
    push_cast
    ring
  constructor
  · rw [hmul, truncate_div]
    rfl
  · have hdiv : ((n * 9610517 : Nat) : ℚ) / (20 : Nat) / 1000000 =
        ((n * 9610517 : Nat) : ℚ) / (20 * 1000000 : Nat) := by
      push_cast
      ring
    rw [hmul, hdiv, truncate_div, micro, Nat.div_div_eq_div_mul]

/-- The remainder of the 16 bits is the 16 bits. -/
theorem toInt_narrow (x : Int) :
    (Int32.ofInt ((Int16.ofInt x).toInt.tmod 1000000)).toInt = x.bmod (2 ^ 16) := by
  have hlo := Int16.le_toInt (Int16.ofInt x)
  have hhi := Int16.toInt_lt (Int16.ofInt x)
  have htmod : (Int16.ofInt x).toInt.tmod 1000000 = (Int16.ofInt x).toInt := by
    rcases Int.le_total 0 (Int16.ofInt x).toInt with hpos | hneg
    · exact Int.tmod_eq_of_lt hpos (by omega)
    · rw [← Int.neg_neg (Int16.ofInt x).toInt, Int.neg_tmod,
        Int.tmod_eq_of_lt (by omega) (by omega)]
  rw [htmod, Int32.toInt_ofInt_of_le (by omega) (by omega), Int16.toInt_ofInt]
  rfl

/-- **What is made of a sample**, above zero and below. -/
theorem toInt_accel_convert {s : Int16} {n : Nat} (hn : n ≤ 2 ^ 15) :
    (s.toInt = n → (adxl375AccelConvert s).val1.toInt = (micro n / 1000000 : Nat) ∧
      (adxl375AccelConvert s).val2.toInt = (micro n : Int).bmod (2 ^ 16) ∧
      truncate (s.toInt * SENSOR_G * ADXL375_MG2G_MULTIPLIER) = micro n) ∧
    (s.toInt = -n → (adxl375AccelConvert s).val1.toInt = -(micro n / 1000000 : Nat) ∧
      (adxl375AccelConvert s).val2.toInt = (-(micro n : Int)).bmod (2 ^ 16) ∧
      truncate (s.toInt * SENSOR_G * ADXL375_MG2G_MULTIPLIER) = -micro n) := by
  obtain ⟨hmicro, hunits⟩ := truncate_micro n
  have hle : micro n / 1000000 < 2 ^ 31 := by
    unfold micro
    omega
  constructor
  · intro hs
    unfold adxl375AccelConvert
    rw [toInt_narrow, hs, hmicro, hunits, Int32.toInt_ofInt_of_le (by omega) (by omega)]
    exact ⟨rfl, rfl, rfl⟩
  · intro hs
    have hneg : ((-(n : Int) : Int) : ℚ) * SENSOR_G * ADXL375_MG2G_MULTIPLIER =
        -(((n : Int) : ℚ) * SENSOR_G * ADXL375_MG2G_MULTIPLIER) := by
      push_cast
      ring
    unfold adxl375AccelConvert
    rw [toInt_narrow, hs, hneg, neg_div, truncate_neg, truncate_neg, hmicro, hunits,
      Int32.toInt_ofInt_of_le (by omega) (by omega)]
    exact ⟨rfl, rfl, rfl⟩

/-- With the right whole part, of either sign, the value is right iff its fraction is. -/
theorem millionths_iff_val2 {s e : Int} {val : SensorValue} {m : Nat} (he : e = 1 ∨ e = -1)
    (hval1 : val.val1.toInt = e * (m / 1000000 : Nat))
    (htotal : truncate (s * SENSOR_G * ADXL375_MG2G_MULTIPLIER) = e * m) :
    Millionths s val ↔ val.val2.toInt = e * (m % 1000000 : Nat) := by
  have hdiv := Nat.div_add_mod m 1000000
  have hlt := Nat.mod_lt m (show 1000000 > 0 by omega)
  have hsum : e * (m / 1000000 : Nat) * 10 ^ 6 + e * (m % 1000000 : Nat) = e * m := by
    rcases he with rfl | rfl <;> omega
  constructor
  · intro h
    have htotal' := h.total
    rw [hval1, htotal, ← hsum] at htotal'
    exact Int.add_left_cancel htotal'
  · intro h
    refine ⟨by rw [hval1, h, htotal, hsum], ?_, ?_⟩
    · have hsquare : e * (m / 1000000 : Nat) * (e * (m % 1000000 : Nat)) =
          (m / 1000000 : Nat) * (m % 1000000 : Nat) := by
        rcases he with rfl | rfl <;> ring
      rw [hval1, h, hsquare]
      exact Int.mul_nonneg (Int.natCast_nonneg _) (Int.natCast_nonneg _)
    · rcases he with rfl | rfl <;> rw [h, abs_lt] <;> omega

/-- **The samples that come through** are the multiples of 2131. -/
theorem accel_convert_iff (s : Int16) :
    Millionths s.toInt (adxl375AccelConvert s) ↔ 2131 ∣ s.toInt := by
  have hlo := Int16.le_toInt s
  have hhi := Int16.toInt_lt s
  obtain ⟨n, hs⟩ := Int.eq_nat_or_neg s.toInt
  have hn : n ≤ 2 ^ 15 := by omega
  have hdvd : 2131 ∣ s.toInt ↔ 2131 ∣ n := by omega
  obtain ⟨hpos, hneg⟩ := toInt_accel_convert (s := s) hn
  obtain ⟨hnarrow, hnarrow_neg⟩ := narrow_iff hn
  rcases hs with hs | hs
  · obtain ⟨hval1, hval2, htotal⟩ := hpos hs
    rw [← one_mul ((micro n / 1000000 : Nat) : Int)] at hval1
    rw [← one_mul ((micro n : Nat) : Int)] at htotal
    rw [millionths_iff_val2 (.inl rfl) hval1 htotal, hval2, one_mul, hdvd, hnarrow]
  · obtain ⟨hval1, hval2, htotal⟩ := hneg hs
    rw [← neg_one_mul] at hval1 htotal
    rw [millionths_iff_val2 (.inr rfl) hval1 htotal, hval2, neg_one_mul, hdvd, hnarrow_neg]

/-! ## The axes -/

inductive Axis
  | x | y | z

/-- The channel of an axis. -/
def Axis.channel : Axis → AccelChannel
  | .x => .SENSOR_CHAN_ACCEL_X
  | .y => .SENSOR_CHAN_ACCEL_Y
  | .z => .SENSOR_CHAN_ACCEL_Z

/-- The sample of an axis. -/
def Adxl375XyzAccelData.axis (sample : Adxl375XyzAccelData) : Axis → Int16
  | .x => sample.x
  | .y => sample.y
  | .z => sample.z

/-- The place of an axis among the three. -/
def Axis.index : Axis → Nat
  | .x => 0
  | .y => 1
  | .z => 2

/-- The signed number that two bytes stand for, the low one first. -/
def int16LittleEndian (low high : UInt8) : Int :=
  (low.toNat + 256 * high.toNat : Int).bmod (2 ^ 16)

/-- The sample of an axis in a block. -/
def blockSample (buff : Vector UInt8 6) : Axis → Int
  | .x => int16LittleEndian buff[0] buff[1]
  | .y => int16LittleEndian buff[2] buff[3]
  | .z => int16LittleEndian buff[4] buff[5]

theorem toInt_word (high low : UInt8) :
    (word high low).toInt16.toInt = int16LittleEndian low high := by
  have hbits : (word high low).toInt16.toInt = ((word high low).toNat : Int).bmod (2 ^ 16) := by
    rw [← Int16.toInt_toBitVec, UInt16.toBitVec_toInt16, BitVec.toInt_eq_toNat_bmod]
    rfl
  have hsum : ((256 * high.toNat + low.toNat : Nat) : Int) = low.toNat + 256 * high.toNat := by
    omega
  rw [hbits, word_toNat, hsum]
  rfl

theorem toInt_ofBuff (buff : Vector UInt8 6) (axis : Axis) :
    ((Adxl375XyzAccelData.ofBuff buff).axis axis).toInt = blockSample buff axis := by
  cases axis <;> exact toInt_word _ _

/-- **An axis comes through**: its channel, and the channel of all three, answer the sample of the
block in m/s², exact to a millionth. -/
def Adxl375Data.Answers (data : Adxl375Data) (axis : Axis) (s : Int) : Prop :=
  ∃ val vals, data.channelGet axis.channel = .ok [val] ∧
    data.channelGet .SENSOR_CHAN_ACCEL_XYZ = .ok vals ∧ vals[axis.index]? = some val ∧
    Millionths s val

theorem answers_iff (data : Adxl375Data) (axis : Axis) (s : Int) :
    data.Answers axis s ↔ Millionths s (adxl375AccelConvert (data.sample.axis axis)) := by
  constructor
  · rintro ⟨val, vals, hval, -, -, h⟩
    have heq : data.channelGet axis.channel =
        .ok [adxl375AccelConvert (data.sample.axis axis)] := by cases axis <;> rfl
    rw [heq] at hval
    cases hval
    exact h
  · intro h
    cases axis
    · exact ⟨_, _, rfl, rfl, rfl, h⟩
    · exact ⟨_, _, rfl, rfl, rfl, h⟩
    · exact ⟨_, _, rfl, rfl, rfl, h⟩

/-- **The axes that come through** after a fetch are those whose sample is a multiple of 2131, about
104 g. -/
theorem acceleration_iff (data : Adxl375Data)
    (read_reg_multiple : Vector UInt8 6 → Int × Vector UInt8 6) (axis : Axis) :
    (data.sampleFetch read_reg_multiple).1.Answers axis
        (blockSample (read_reg_multiple (Vector.replicate 6 0)).2 axis) ↔
      2131 ∣ blockSample (read_reg_multiple (Vector.replicate 6 0)).2 axis := by
  rw [answers_iff, ← toInt_ofBuff]
  exact accel_convert_iff _

/-- **20 counts**, about one g, come out as 9 m/s² and 23275 millionths below zero. -/
theorem not_acceleration_one_g :
    ¬ ∀ (data : Adxl375Data) (read_reg_multiple : Vector UInt8 6 → Int × Vector UInt8 6)
      (axis : Axis), (data.sampleFetch read_reg_multiple).2 = 0 →
      (data.sampleFetch read_reg_multiple).1.Answers axis
        (blockSample (read_reg_multiple (Vector.replicate 6 0)).2 axis) := by
  intro h
  have hz := h { sample := { x := 0, y := 0, z := 0 } }
    (fun _ => (0, #v[0, 0, 0, 0, 20, 0])) .z rfl
  rw [answers_iff, ← toInt_ofBuff] at hz
  have hdvd := (accel_convert_iff _).mp hz
  rw [toInt_ofBuff] at hdvd
  exact absurd hdvd (by decide)

end Backplane.Drivers
