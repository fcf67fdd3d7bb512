import Mathlib.Tactic.FinCases
import Backplane.Drivers.Barometer
import Backplane.General.Run

/-!
# The classic float getters

Model of the `l_get_*_data_float` functions (`lib/launch_core_classic/dev/sensor.c`) and the records
they fill (`include/launch_core_classic/types.h`). A getter asks the device for one channel after
the other; each answer goes to the channel's field, or the error value does and a bit is set. Five
getters are this pattern (`getFloats`) with their own channels, bits and fields; the one of the
barometer has its own body.

`float` is any type: `sensor_value_to_float` is Zephyr's conversion, `FLOAT_ERROR_VALUE` is
`FLT_MIN`. That is far below what a `sensor_value` other than zero can stand for, so that no
conversion yields it; where a result needs this, it says so.

Results:
* `getFloats_reports`: the pattern reports exactly the channels that failed.
* `lGetBarometerDataFloat_eq`: how the barometer's getter departs from it.
* `getters_report_iff`: which getters report exactly the channels that failed.
-/

namespace Backplane.Classic

open Backplane.Drivers (SensorValue)
open Backplane.Run

/-- The channels that the getters read. -/
inductive SensorChannel
  | SENSOR_CHAN_ACCEL_X | SENSOR_CHAN_ACCEL_Y | SENSOR_CHAN_ACCEL_Z
  | SENSOR_CHAN_GYRO_X | SENSOR_CHAN_GYRO_Y | SENSOR_CHAN_GYRO_Z
  | SENSOR_CHAN_MAGN_X | SENSOR_CHAN_MAGN_Y | SENSOR_CHAN_MAGN_Z
  | SENSOR_CHAN_AMBIENT_TEMP | SENSOR_CHAN_PRESS
  | SENSOR_CHAN_VOLTAGE | SENSOR_CHAN_CURRENT | SENSOR_CHAN_POWER

/-- What a device answers to `sensor_channel_get`: the code, and the value it stores. -/
abbrev SensorDevice := SensorChannel → Int × SensorValue

/-- The channel's retrieval fails. -/
def Fails (dev : SensorDevice) (channel : SensorChannel) : Prop := ¬(dev channel).1 = 0

instance Fails.decidable (dev : SensorDevice) (channel : SensorChannel) :
    Decidable (Fails dev channel) :=
  inferInstanceAs (Decidable (¬(dev channel).1 = 0))

/-! ## The records -/

/-- `l_accelerometer_data_t`. -/
structure LAccelerometerData (F : Type) where
  accel_x : F
  accel_y : F
  accel_z : F

/-- `l_barometer_data_t`. -/
structure LBarometerData (F : Type) where
  pressure : F
  temperature : F

/-- `l_gyroscope_data_t`. -/
structure LGyroscopeData (F : Type) where
  gyro_x : F
  gyro_y : F
  gyro_z : F

/-- `l_magnetometer_data_t`. -/
structure LMagnetometerData (F : Type) where
  mag_x : F
  mag_y : F
  mag_z : F

/-- `l_shunt_data_t`. -/
structure LShuntData (F : Type) where
  current : F
  voltage : F
  power : F

/-- `l_temperature_data_t`. -/
abbrev LTemperatureData (F : Type) := F

/-! ## The getters -/

/-- A channel that a getter retrieves into a record: its bit, and its field. -/
structure Retrieval (D F : Type) where
  channel : SensorChannel
  bit : Nat
  get : D → F
  set : D → F → D

variable {D F : Type} (sensor_value_to_float : SensorValue → F) (FLOAT_ERROR_VALUE : F)

/-- `if (likely(sensor_channel_get(dev, channel, &sensor_val) == 0))` and its two branches. -/
def retrieve (dev : SensorDevice) (s : D × Nat) (r : Retrieval D F) : D × Nat :=
  if (dev r.channel).1 = 0 then (r.set s.1 (sensor_value_to_float (dev r.channel).2), s.2)
  else (r.set s.1 FLOAT_ERROR_VALUE, s.2 ||| r.bit)

/-- A getter: the record, and what it returns. -/
def getFloats (rs : List (Retrieval D F)) (dev : SensorDevice) (data : D) : D × Int :=
  let s := run (retrieve sensor_value_to_float FLOAT_ERROR_VALUE dev) (data, 0) rs
  (s.1, -(s.2 : Int))

def accelerometer : List (Retrieval (LAccelerometerData F) F) :=
  [{ channel := .SENSOR_CHAN_ACCEL_X, bit := 0b1, get := (·.accel_x)
     set := fun d v => { d with accel_x := v } },
   { channel := .SENSOR_CHAN_ACCEL_Y, bit := 0b10, get := (·.accel_y)
     set := fun d v => { d with accel_y := v } },
   { channel := .SENSOR_CHAN_ACCEL_Z, bit := 0b100, get := (·.accel_z)
     set := fun d v => { d with accel_z := v } }]

def barometer : List (Retrieval (LBarometerData F) F) :=
  [{ channel := .SENSOR_CHAN_PRESS, bit := 0b1, get := (·.pressure)
     set := fun d v => { d with pressure := v } },
   { channel := .SENSOR_CHAN_AMBIENT_TEMP, bit := 0b10, get := (·.temperature)
     set := fun d v => { d with temperature := v } }]

def temperature : List (Retrieval (LTemperatureData F) F) :=
  [{ channel := .SENSOR_CHAN_AMBIENT_TEMP, bit := 0b1, get := id, set := fun _ v => v }]

def magnetometer : List (Retrieval (LMagnetometerData F) F) :=
  [{ channel := .SENSOR_CHAN_MAGN_X, bit := 0b1, get := (·.mag_x)
     set := fun d v => { d with mag_x := v } },
   { channel := .SENSOR_CHAN_MAGN_Y, bit := 0b10, get := (·.mag_y)
     set := fun d v => { d with mag_y := v } },
   { channel := .SENSOR_CHAN_MAGN_Z, bit := 0b100, get := (·.mag_z)
     set := fun d v => { d with mag_z := v } }]

def gyroscope : List (Retrieval (LGyroscopeData F) F) :=
  [{ channel := .SENSOR_CHAN_GYRO_X, bit := 0b1, get := (·.gyro_x)
     set := fun d v => { d with gyro_x := v } },
   { channel := .SENSOR_CHAN_GYRO_Y, bit := 0b10, get := (·.gyro_y)
     set := fun d v => { d with gyro_y := v } },
   { channel := .SENSOR_CHAN_GYRO_Z, bit := 0b100, get := (·.gyro_z)
     set := fun d v => { d with gyro_z := v } }]

def shunt : List (Retrieval (LShuntData F) F) :=
  [{ channel := .SENSOR_CHAN_CURRENT, bit := 0b1, get := (·.current)
     set := fun d v => { d with current := v } },
   { channel := .SENSOR_CHAN_VOLTAGE, bit := 0b10, get := (·.voltage)
     set := fun d v => { d with voltage := v } },
   { channel := .SENSOR_CHAN_POWER, bit := 0b100, get := (·.power)
     set := fun d v => { d with power := v } }]

def lGetAccelerometerDataFloat (dev : SensorDevice) (p_accel_data : LAccelerometerData F) :
    LAccelerometerData F × Int :=
  getFloats sensor_value_to_float FLOAT_ERROR_VALUE accelerometer dev p_accel_data

/-- The failure of either channel goes to `pressure`. -/
def lGetBarometerDataFloat (dev : SensorDevice) (p_baro_data : LBarometerData F) :
    LBarometerData F × Int :=
  let s : LBarometerData F × Nat :=
    if (dev .SENSOR_CHAN_PRESS).1 = 0 then
      ({ p_baro_data with pressure := sensor_value_to_float (dev .SENSOR_CHAN_PRESS).2 }, 0)
    else ({ p_baro_data with pressure := FLOAT_ERROR_VALUE }, 0 ||| 0b1)
  let s : LBarometerData F × Nat :=
    if (dev .SENSOR_CHAN_AMBIENT_TEMP).1 = 0 then
      ({ s.1 with temperature := sensor_value_to_float (dev .SENSOR_CHAN_AMBIENT_TEMP).2 }, s.2)
    else ({ s.1 with pressure := FLOAT_ERROR_VALUE }, s.2 ||| 0b10)
  (s.1, -(s.2 : Int))

def lGetTempSensorDataFloat (dev : SensorDevice) (p_temp_data : LTemperatureData F) :
    LTemperatureData F × Int :=
  getFloats sensor_value_to_float FLOAT_ERROR_VALUE temperature dev p_temp_data

def lGetMagnetometerDataFloat (dev : SensorDevice) (p_magn_data : LMagnetometerData F) :
    LMagnetometerData F × Int :=
  getFloats sensor_value_to_float FLOAT_ERROR_VALUE magnetometer dev p_magn_data

def lGetGyroscopeDataFloat (dev : SensorDevice) (p_gyro_data : LGyroscopeData F) :
    LGyroscopeData F × Int :=
  getFloats sensor_value_to_float FLOAT_ERROR_VALUE gyroscope dev p_gyro_data

def lGetShuntDataFloat (dev : SensorDevice) (p_shunt_data : LShuntData F) :
    LShuntData F × Int :=
  getFloats sensor_value_to_float FLOAT_ERROR_VALUE shunt dev p_shunt_data

/-! ## The pattern -/

/-- **Exactly the failed channels are reported**: bit `i` stands for the `i`-th, their fields and no
others are the error value, and each other field is the reading of its channel. -/
structure Reports (rs : List (Retrieval D F)) (dev : SensorDevice) (result : D × Int) : Prop where
  code : ∃ bits : Nat, result.2 = -(bits : Int) ∧
    ∀ i, bits.testBit i = true ↔ ∃ r : Retrieval D F, rs[i]? = some r ∧ Fails dev r.channel
  error : ∀ r ∈ rs, r.get result.1 = FLOAT_ERROR_VALUE ↔ Fails dev r.channel
  reading : ∀ r ∈ rs, ¬Fails dev r.channel →
    r.get result.1 = sensor_value_to_float (dev r.channel).2

/-- Each channel has its bit and its field, which later channels leave alone. -/
structure Apart (rs : List (Retrieval D F)) : Prop where
  bit : rs.map Retrieval.bit = (List.range rs.length).map (2 ^ ·)
  own : ∀ r ∈ rs, ∀ d v, r.get (r.set d v) = v
  other : rs.Pairwise fun r r' => ∀ d v, r.get (r'.set d v) = r.get d

/-- What a field is to hold. -/
def reading (dev : SensorDevice) (channel : SensorChannel) : F :=
  if (dev channel).1 = 0 then sensor_value_to_float (dev channel).2 else FLOAT_ERROR_VALUE

variable {sensor_value_to_float : SensorValue → F} {FLOAT_ERROR_VALUE : F}
variable {rs : List (Retrieval D F)} {dev : SensorDevice}

theorem retrieve_eq (s : D × Nat) (r : Retrieval D F) :
    retrieve sensor_value_to_float FLOAT_ERROR_VALUE dev s r =
      (r.set s.1 (reading sensor_value_to_float FLOAT_ERROR_VALUE dev r.channel),
        if (dev r.channel).1 = 0 then s.2 else s.2 ||| r.bit) := by
  unfold retrieve reading
  by_cases h : (dev r.channel).1 = 0
  · simp only [if_pos h]
  · simp only [if_neg h]

/-- A place of a list, or the one behind it. -/
theorem exists_getElem?_snoc {P : Retrieval D F → Prop} (pre : List (Retrieval D F))
    (r : Retrieval D F) (i : Nat) :
    (∃ r', (pre ++ [r])[i]? = some r' ∧ P r') ↔
      (∃ r', pre[i]? = some r' ∧ P r') ∨ pre.length = i ∧ P r := by
  rcases Nat.lt_trichotomy i pre.length with hlt | rfl | hgt
  · simp [List.getElem?_append_left hlt, Nat.ne_of_gt hlt]
  · simp
  · have hne : pre.length ≠ i := Nat.ne_of_lt hgt
    have hlen : (pre ++ [r]).length ≤ i := by
      rw [List.length_append]
      exact hgt
    simp [List.getElem?_eq_none hlen, List.getElem?_eq_none (Nat.le_of_lt hgt), hne]

/-- The bits after some of the retrievals. -/
theorem run_retrieve_bits (h : Apart rs) (data : D) {pre : List (Retrieval D F)}
    (hpre : pre <+: rs) (i : Nat) :
    (run (retrieve sensor_value_to_float FLOAT_ERROR_VALUE dev) (data, 0) pre).2.testBit i = true ↔
      ∃ r : Retrieval D F, pre[i]? = some r ∧ Fails dev r.channel := by
  refine run_prefix (motive := fun pre (s : D × Nat) => s.2.testBit i = true ↔
    ∃ r : Retrieval D F, pre[i]? = some r ∧ Fails dev r.channel) ?_ ?_ hpre
  · simp
  · rintro pre r ⟨post, rfl⟩ ih
    have hbit : r.bit = 2 ^ pre.length := by
      simpa using congrArg (fun bits : List Nat => bits[pre.length]?) h.bit
    rw [retrieve_eq, exists_getElem?_snoc, ← ih]
    by_cases hr : (dev r.channel).1 = 0
    · simp [hr, Fails]
    · simp [hr, hbit, Fails, Nat.testBit_or, Nat.testBit_two_pow]

/-- The fields after some of the retrievals. -/
theorem run_retrieve_fields (h : Apart rs) (data : D) {pre : List (Retrieval D F)}
    (hpre : pre <+: rs) :
    ∀ r ∈ pre, r.get (run (retrieve sensor_value_to_float FLOAT_ERROR_VALUE dev) (data, 0) pre).1 =
      reading sensor_value_to_float FLOAT_ERROR_VALUE dev r.channel := by
  refine run_prefix (motive := fun pre (s : D × Nat) => ∀ r ∈ pre,
    r.get s.1 = reading sensor_value_to_float FLOAT_ERROR_VALUE dev r.channel) ?_ ?_ hpre
  · simp
  · rintro pre r ⟨post, rfl⟩ ih r' hmem
    rw [retrieve_eq]
    rcases List.mem_append.mp hmem with hmem | hmem
    · rw [← ih _ hmem]
      have hother := (List.pairwise_append.mp (List.pairwise_append.mp h.other).1).2.2
      exact hother r' hmem r (List.mem_singleton_self r) _ _
    · obtain rfl := List.mem_singleton.mp hmem
      exact h.own r' (by simp) _ _

/-- **The pattern** reports exactly the failed channels. -/
theorem getFloats_reports (h : Apart rs)
    (herror : ∀ val, sensor_value_to_float val ≠ FLOAT_ERROR_VALUE) (dev : SensorDevice)
    (data : D) :
    Reports sensor_value_to_float FLOAT_ERROR_VALUE rs dev
      (getFloats sensor_value_to_float FLOAT_ERROR_VALUE rs dev data) where
  code := ⟨_, rfl, run_retrieve_bits h data List.prefix_rfl⟩
  error r hr := by
    unfold getFloats
    rw [run_retrieve_fields h data List.prefix_rfl r hr]
    unfold reading Fails
    by_cases hok : (dev r.channel).1 = 0
    · simpa [hok] using herror _
    · simp [hok]
  reading r hr hok := by
    unfold getFloats
    rw [run_retrieve_fields h data List.prefix_rfl r hr]
    exact if_pos (not_not.mp hok)

theorem apart_accelerometer : Apart (accelerometer (F := F)) where
  bit := rfl
  own := by simp [accelerometer]
  other := by simp [accelerometer]

theorem apart_temperature : Apart (temperature (F := F)) where
  bit := rfl
  own := by simp [temperature]
  other := by simp [temperature]

theorem apart_magnetometer : Apart (magnetometer (F := F)) where
  bit := rfl
  own := by simp [magnetometer]
  other := by simp [magnetometer]

theorem apart_gyroscope : Apart (gyroscope (F := F)) where
  bit := rfl
  own := by simp [gyroscope]
  other := by simp [gyroscope]

theorem apart_shunt : Apart (shunt (F := F)) where
  bit := rfl
  own := by simp [shunt]
  other := by simp [shunt]

theorem apart_barometer : Apart (barometer (F := F)) where
  bit := rfl
  own := by simp [barometer]
  other := by simp [barometer]

/-! ## The barometer -/

/-- **The barometer's getter** is the pattern, unless the temperature fails: then the pressure is
lost, and the temperature stays what it was. -/
theorem lGetBarometerDataFloat_eq (dev : SensorDevice) (data : LBarometerData F) :
    lGetBarometerDataFloat sensor_value_to_float FLOAT_ERROR_VALUE dev data =
      if Fails dev .SENSOR_CHAN_AMBIENT_TEMP then
        ({ pressure := FLOAT_ERROR_VALUE, temperature := data.temperature },
          (getFloats sensor_value_to_float FLOAT_ERROR_VALUE barometer dev data).2)
      else getFloats sensor_value_to_float FLOAT_ERROR_VALUE barometer dev data := by
  unfold lGetBarometerDataFloat getFloats barometer Fails
  by_cases hpress : (dev .SENSOR_CHAN_PRESS).1 = 0 <;>
    by_cases htemp : (dev .SENSOR_CHAN_AMBIENT_TEMP).1 = 0 <;>
      simp [retrieve, hpress, htemp]

/-- When the barometer's getter reports exactly the failed channels. -/
theorem barometer_reports_iff (herror : ∀ val, sensor_value_to_float val ≠ FLOAT_ERROR_VALUE)
    (dev : SensorDevice) (data : LBarometerData F) :
    Reports sensor_value_to_float FLOAT_ERROR_VALUE barometer dev
        (lGetBarometerDataFloat sensor_value_to_float FLOAT_ERROR_VALUE dev data) ↔
      ¬Fails dev .SENSOR_CHAN_AMBIENT_TEMP ∨
        Fails dev .SENSOR_CHAN_PRESS ∧ data.temperature = FLOAT_ERROR_VALUE := by
  have hpattern := getFloats_reports (apart_barometer (F := F)) herror dev data
  rw [lGetBarometerDataFloat_eq]
  by_cases htemp : Fails dev .SENSOR_CHAN_AMBIENT_TEMP
  · rw [if_pos htemp]
    constructor
    · intro h
      have hpress := h.error _ List.mem_cons_self
      have hstale := h.error _ (List.mem_cons_of_mem _ (List.mem_singleton_self _))
      exact .inr ⟨hpress.mp rfl, hstale.mpr htemp⟩
    · rintro (hok | ⟨hpress, hstale⟩)
      · exact absurd htemp hok
      · exact {
          code := hpattern.code
          error := by simp [barometer, hpress, htemp, hstale]
          reading := by simp [barometer, hpress, htemp] }
  · rw [if_neg htemp]
    exact ⟨fun _ => .inl htemp, fun _ => hpattern⟩

/-! ## All getters -/

/-- **The float getters.** All but the barometer's report exactly the failed channels, whatever
fails. The barometer's does iff the temperature comes through, or the pressure fails too and the
caller's temperature is the error value already. -/
theorem getters_report_iff (herror : ∀ val, sensor_value_to_float val ≠ FLOAT_ERROR_VALUE)
    (dev : SensorDevice) :
    (∀ data, Reports sensor_value_to_float FLOAT_ERROR_VALUE accelerometer dev
      (lGetAccelerometerDataFloat sensor_value_to_float FLOAT_ERROR_VALUE dev data)) ∧
    (∀ data, Reports sensor_value_to_float FLOAT_ERROR_VALUE barometer dev
        (lGetBarometerDataFloat sensor_value_to_float FLOAT_ERROR_VALUE dev data) ↔
      ¬Fails dev .SENSOR_CHAN_AMBIENT_TEMP ∨
        Fails dev .SENSOR_CHAN_PRESS ∧ data.temperature = FLOAT_ERROR_VALUE) ∧
    (∀ data, Reports sensor_value_to_float FLOAT_ERROR_VALUE temperature dev
      (lGetTempSensorDataFloat sensor_value_to_float FLOAT_ERROR_VALUE dev data)) ∧
    (∀ data, Reports sensor_value_to_float FLOAT_ERROR_VALUE magnetometer dev
      (lGetMagnetometerDataFloat sensor_value_to_float FLOAT_ERROR_VALUE dev data)) ∧
    (∀ data, Reports sensor_value_to_float FLOAT_ERROR_VALUE gyroscope dev
      (lGetGyroscopeDataFloat sensor_value_to_float FLOAT_ERROR_VALUE dev data)) ∧
    (∀ data, Reports sensor_value_to_float FLOAT_ERROR_VALUE shunt dev
      (lGetShuntDataFloat sensor_value_to_float FLOAT_ERROR_VALUE dev data)) :=
  ⟨getFloats_reports apart_accelerometer herror dev, barometer_reports_iff herror dev,
    getFloats_reports apart_temperature herror dev,
    getFloats_reports apart_magnetometer herror dev,
    getFloats_reports apart_gyroscope herror dev, getFloats_reports apart_shunt herror dev⟩

/-- `FLT_MIN`. -/
def FLT_MIN : ℚ := 1 / 2 ^ 126

/-- A `sensor_value` is zero or far above `FLT_MIN`. -/
theorem toRat_ne_flt_min (val : SensorValue) : val.toRat ≠ FLT_MIN := by
  intro h
  have hscale : ((val.val1.toInt * 10 ^ 6 + val.val2.toInt) * 2 ^ 126 : ℤ) = 10 ^ 6 := by
    have hrat : ((val.val1.toInt * 10 ^ 6 + val.val2.toInt) * 2 ^ 126 : ℚ) = 10 ^ 6 := by
      unfold SensorValue.toRat FLT_MIN at h
      linarith
    exact_mod_cast hrat
  omega

/-- A device at 101.5 kPa whose temperature fails with the errno `EIO`. -/
def coldDevice : SensorDevice
  | .SENSOR_CHAN_AMBIENT_TEMP => (-5, ⟨0, 0⟩)
  | _ => (0, ⟨101, 500000⟩)

/-- The same, seen by a getter that converts exactly. -/
theorem getters_report_iff_cold :
    ¬Reports SensorValue.toRat FLT_MIN barometer coldDevice
      (lGetBarometerDataFloat SensorValue.toRat FLT_MIN coldDevice ⟨0, 20⟩) := by
  rw [(getters_report_iff toRat_ne_flt_min coldDevice).2.1]
  rintro (hok | ⟨hpress, -⟩)
  · exact hok (by decide)
  · exact hpress rfl

/-- A pressure that came through is thrown away, and the old temperature passes for a new one. -/
theorem not_reports_cold :
    ¬∀ (dev : SensorDevice) (data : LBarometerData ℚ),
      Reports SensorValue.toRat FLT_MIN barometer dev
        (lGetBarometerDataFloat SensorValue.toRat FLT_MIN dev data) := by
  intro h
  have herror := (h coldDevice ⟨0, 20⟩).error _ List.mem_cons_self
  exact herror.mp rfl rfl

end Backplane.Classic
