import Mathlib.Algebra.Order.Ring.Rat
import Mathlib.Tactic.Linarith
import Backplane.Drivers.Ms5611

/-!
# The barometer behind the sensor API

Model of `ms5611_channel_get` and, over it, `CBarometer` of
`lib/f_core/device/sensor/c_barometer.cpp`. The driver holds hundredths of a unit; a `sensor_value`
is a whole number of units and a number of millionths.

* `sensor_value_to_float` and `sensor_value_to_double` round the number `SensorValue.toRat`.
* `k_oops` ends the thread: there is no value then.

Results:
* `updateSensorValue_channels`: after an update, the barometer answers what the driver does.
* `units_iff`: the stored values that come through.
-/

namespace Backplane.Drivers

open Backplane.Word

/-- `enum sensor_channel`, as far as the barometer tells its values apart. -/
inductive SensorChannel
  | SENSOR_CHAN_AMBIENT_TEMP | SENSOR_CHAN_PRESS
  | unsupported (chan : Nat)

/-- `struct sensor_value`. -/
structure SensorValue where
  val1 : Int32
  val2 : Int32

/-- The number a `sensor_value` stands for. -/
def SensorValue.toRat (val : SensorValue) : ℚ := val.val1.toInt + val.val2.toInt / 10 ^ 6

/-- The value `ms5611_channel_get` makes of a stored word. -/
def SensorValue.ofStored (stored : UInt32) : SensorValue where
  val1 := (stored / 100).toInt32
  val2 := (stored % 100).toInt32

/-- `ms5611_channel_get`. -/
def Ms5611Data.channelGet (data : Ms5611Data) : SensorChannel → Except Int SensorValue
  | .SENSOR_CHAN_PRESS => .ok (.ofStored data.meas.press)
  | .SENSOR_CHAN_AMBIENT_TEMP => .ok (.ofStored data.meas.temp)
  | .unsupported _ => .error (-ENOTSUP)

/-- `ms5611_sample_fetch`, which is called for all channels. -/
def Ms5611Data.sampleFetch (data : Ms5611Data) (bus : I2cBus) : Except Int Ms5611Data :=
  data.fetchTempAndPress bus

/-- `CBarometer`, with its device. -/
structure CBarometer where
  isInitialized : Bool
  dev : Ms5611Data
  pressure : SensorValue
  temperature : SensorValue

namespace CBarometer

/-- `CBarometer::UpdateSensorValue`. -/
def updateSensorValue (b : CBarometer) (bus : I2cBus) : Bool × CBarometer :=
  if b.isInitialized then
    match b.dev.sampleFetch bus with
    | .error _ => (false, b)
    | .ok dev =>
      match dev.channelGet .SENSOR_CHAN_PRESS with
      | .error _ => (false, { b with dev })
      | .ok pressure =>
        match dev.channelGet .SENSOR_CHAN_AMBIENT_TEMP with
        | .error _ => (false, { b with dev })
        | .ok temperature => (true, { b with dev, pressure, temperature })
  else (false, b)

/-- `CBarometer::GetSensorValue`; `none` is `k_oops`. -/
def getSensorValue (b : CBarometer) : SensorChannel → Option SensorValue
  | .SENSOR_CHAN_PRESS => some b.pressure
  | .SENSOR_CHAN_AMBIENT_TEMP => some b.temperature
  | .unsupported _ => none

/-- The number that `GetSensorValueFloat` and `GetSensorValueDouble` round. -/
def getSensorValueExact (b : CBarometer) (chan : SensorChannel) : Option ℚ :=
  (b.getSensorValue chan).map SensorValue.toRat

/-- **After an update** the barometer answers what the driver does. -/
theorem updateSensorValue_channels {b b' : CBarometer} {bus : I2cBus}
    (h : b.updateSensorValue bus = (true, b')) {chan : SensorChannel} {val : SensorValue}
    (hval : b'.dev.channelGet chan = .ok val) : b'.getSensorValue chan = some val := by
  have hb : b'.pressure = .ofStored b'.dev.meas.press ∧
      b'.temperature = .ofStored b'.dev.meas.temp := by
    unfold updateSensorValue at h
    split at h
    · split at h
      · cases h
      · cases h
        exact ⟨rfl, rfl⟩
    · cases h
  cases chan with
  | SENSOR_CHAN_AMBIENT_TEMP =>
    cases hval
    exact congrArg some hb.2
  | SENSOR_CHAN_PRESS =>
    cases hval
    exact congrArg some hb.1
  | unsupported chan => cases hval

end CBarometer

/-! ## The units -/

/-- The word the driver stores for a channel. -/
def Ms5611MeasData.channel (meas : Ms5611MeasData) : SensorChannel → Option UInt32
  | .SENSOR_CHAN_PRESS => some meas.press
  | .SENSOR_CHAN_AMBIENT_TEMP => some meas.temp
  | .unsupported _ => none

theorem channelGet_of_channel {data : Ms5611Data} {chan : SensorChannel} {stored : UInt32}
    (h : data.meas.channel chan = some stored) : data.channelGet chan = .ok (.ofStored stored) := by
  cases chan <;> cases h <;> rfl

/-- The quotient and the remainder fit a signed word, whatever is stored. -/
theorem toInt_ofStored (stored : UInt32) :
    (SensorValue.ofStored stored).val1.toInt = stored.toNat / 100 ∧
      (SensorValue.ofStored stored).val2.toInt = stored.toNat % 100 := by
  have hlt : stored.toNat < 2 ^ 32 := UInt32.toNat_lt stored
  constructor
  · show (stored / 100).toInt32.toInt = _
    rw [toInt_toInt32_word, UInt32.toNat_div]
    show ((stored.toNat / 100 : Nat) : Int).bmod _ = _
    exact Int.bmod_eq_of_le (by omega) (by omega)
  · show (stored % 100).toInt32.toInt = _
    rw [toInt_toInt32_word, UInt32.toNat_mod]
    show ((stored.toNat % 100 : Nat) : Int).bmod _ = _
    exact Int.bmod_eq_of_le (by omega) (by omega)

/-- The millionths are right only where there are none. -/
theorem millionths_iff (stored : UInt32) :
    (SensorValue.ofStored stored).val1.toInt * 10 ^ 6 + (SensorValue.ofStored stored).val2.toInt =
        stored.toInt32.toInt * 10 ^ 4 ↔
      0 ≤ stored.toInt32.toInt ∧ 100 ∣ stored.toInt32.toInt := by
  have hlt : stored.toNat < 2 ^ 32 := UInt32.toNat_lt stored
  obtain ⟨h1, h2⟩ := toInt_ofStored stored
  have hmod : (stored.toNat : Int) % ((2 ^ 32 : Nat) : Int) = stored.toNat := by omega
  rw [h1, h2, toInt_toInt32_word, Int.bmod_def, hmod]
  split
  · omega
  · omega

theorem toRat_of_millionths {val : SensorValue} {stored : Int}
    (h : val.val1.toInt * 10 ^ 6 + val.val2.toInt = stored * 10 ^ 4) :
    val.toRat = (stored / 100 : ℚ) := by
  have hcast : (val.val1.toInt * 10 ^ 6 + val.val2.toInt : ℚ) = stored * 10 ^ 4 := by
    exact_mod_cast h
  unfold SensorValue.toRat
  linarith

/-- The value of a channel comes through: the driver answers `stored` hundredths in units and
millionths, and the barometer the number. -/
def Units (data : Ms5611Data) (chan : SensorChannel) (stored : Int) : Prop :=
  (∃ val, data.channelGet chan = .ok val ∧
      val.val1.toInt * 10 ^ 6 + val.val2.toInt = stored * 10 ^ 4) ∧
    ∀ (b b' : CBarometer) (bus : I2cBus), b.updateSensorValue bus = (true, b') → b'.dev = data →
      b'.getSensorValueExact chan = some (stored / 100 : ℚ)

/-- **The values that come through** are whole units, and not below zero: the driver hands on
hundredths for millionths, and divides the word as an unsigned one. -/
theorem units_iff {data : Ms5611Data} {chan : SensorChannel} {stored : UInt32}
    (h : data.meas.channel chan = some stored) :
    Units data chan stored.toInt32.toInt ↔
      0 ≤ stored.toInt32.toInt ∧ 100 ∣ stored.toInt32.toInt := by
  have hget := channelGet_of_channel h
  rw [← millionths_iff]
  constructor
  · rintro ⟨⟨val, hval, hmillionths⟩, -⟩
    rw [hget] at hval
    cases hval
    exact hmillionths
  · intro hmillionths
    refine ⟨⟨_, hget, hmillionths⟩, ?_⟩
    rintro b b' bus hupdate rfl
    rw [CBarometer.getSensorValueExact, CBarometer.updateSensorValue_channels hupdate hget]
    exact congrArg some (toRat_of_millionths hmillionths)

/-- 20.00 °C comes through. -/
theorem units_iff_twenty :
    Units { Ms5611Data.calibrated with meas := { press := 10000, temp := 2000 } }
      .SENSOR_CHAN_AMBIENT_TEMP 2000 :=
  (@units_iff _ _ 2000 rfl).mpr ⟨by decide, by decide⟩

/-- **20.07 °C comes out as 20.000007 °C**, and a temperature below zero above 42 million. -/
theorem units_fail :
    ¬Units { Ms5611Data.calibrated with meas := { press := 10000, temp := 2007 } }
        .SENSOR_CHAN_AMBIENT_TEMP 2007 ∧
      ¬Units { Ms5611Data.calibrated with meas := { press := 10000, temp := -100 } }
        .SENSOR_CHAN_AMBIENT_TEMP (-100) := by
  constructor
  · rintro ⟨⟨val, hval, h⟩, -⟩
    cases hval
    revert h
    decide
  · rintro ⟨⟨val, hval, h⟩, -⟩
    cases hval
    revert h
    decide

end Backplane.Drivers
