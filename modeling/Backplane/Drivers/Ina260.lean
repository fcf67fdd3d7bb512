import Backplane.Drivers.Barometer
import Backplane.General.Stores

/-!
# The ina260 power monitor

Model of `drivers/sensor/ina260/ina260.c`: `sample_fetch` and `channel_get`. What the bus answers
for a register is an input. Each register is stored before the next one is read.

* `sensor_value_from_float` is a parameter, and its argument the exact number.

Results:
* `failsIn_fetchReg`: the rule for one register.
* `intact_sampleFetch_iff`: the fetches that leave the data when they fail.
-/

namespace Backplane.Drivers

open Backplane.Stores

/-- `enum sensor_channel`, as far as this driver tells its values apart. -/
inductive PowerChannel
  | SENSOR_CHAN_ALL | SENSOR_CHAN_VOLTAGE | SENSOR_CHAN_POWER | SENSOR_CHAN_CURRENT
  | unsupported (chan : Nat)
  deriving DecidableEq

/-- `enum ina260_mode`. -/
inductive Ina260Mode
  | TRIG_OFF | TRIG_CURRENT | TRIG_VOLTAGE | TRIG_BOTH
  | CONT_OFF | CONT_CURRENT | CONT_VOLTAGE | CONT_BOTH

def Ina260Mode.value : Ina260Mode → Nat
  | .TRIG_OFF => 0b000
  | .TRIG_CURRENT => 0b001
  | .TRIG_VOLTAGE => 0b010
  | .TRIG_BOTH => 0b011
  | .CONT_OFF => 0b100
  | .CONT_CURRENT => 0b101
  | .CONT_VOLTAGE => 0b110
  | .CONT_BOTH => 0b111

/-- `struct ina260_data`. -/
@[ext] structure Ina260Data where
  v_bus : UInt16
  power : UInt16
  current : UInt16
  deriving DecidableEq

def INA260_REG_CURRENT : UInt8 := 0x01
def INA260_REG_V_BUS : UInt8 := 0x02
def INA260_REG_POWER : UInt8 := 0x03

def INA260_VOLTS_PER_LSB : ℚ := 125 / 100000
def INA260_AMPS_PER_LSB : ℚ := 125 / 100000
def INA260_WATTS_PER_LSB : ℚ := 1 / 100

/-- The bus at the address of the monitor: `i2c_write_read_dt` of a register. -/
abbrev Ina260Bus : Type := UInt8 → Int × Vector UInt8 2

/-- `ina260_reg_read`. -/
def ina260RegRead (bus : Ina260Bus) (reg_addr : UInt8) : Except Int UInt16 :=
  let (rc, rx_buf) := bus reg_addr
  if rc = 0 then .ok (sysGetBe16 rx_buf) else .error rc

/-- One register of `ina260_sample_fetch`: read, and stored if the channel is asked for. -/
def fetchReg (bus : Ina260Bus) (wanted : Bool) (reg : UInt8)
    (store : UInt16 → Ina260Data → Ina260Data) : EStateM Int Ina260Data PUnit :=
  if wanted then do
    let tmp ← MonadExcept.ofExcept (ina260RegRead bus reg)
    modify (store tmp)
  else pure ⟨⟩

/-- `ina260_sample_fetch`. -/
def ina260SampleFetch (mode : Ina260Mode) (bus : Ina260Bus) (chan : PowerChannel) :
    EStateM Int Ina260Data PUnit :=
  if chan ≠ .SENSOR_CHAN_ALL ∧ chan ≠ .SENSOR_CHAN_VOLTAGE ∧ chan ≠ .SENSOR_CHAN_POWER ∧
      chan ≠ .SENSOR_CHAN_CURRENT then throw (-ENOTSUP)
  else if mode.value < Ina260Mode.CONT_OFF.value then throw (-ENOTSUP)
  else do
    fetchReg bus (chan = .SENSOR_CHAN_ALL ∨ chan = .SENSOR_CHAN_VOLTAGE) INA260_REG_V_BUS
      fun tmp data => { data with v_bus := tmp }
    fetchReg bus (chan = .SENSOR_CHAN_ALL ∨ chan = .SENSOR_CHAN_POWER) INA260_REG_POWER
      fun tmp data => { data with power := tmp }
    fetchReg bus (chan = .SENSOR_CHAN_ALL ∨ chan = .SENSOR_CHAN_CURRENT) INA260_REG_CURRENT
      fun tmp data => { data with current := tmp }

/-- `ina260_channel_get`. -/
def Ina260Data.channelGet (sensor_value_from_float : ℚ → Except Int SensorValue)
    (data : Ina260Data) : PowerChannel → Except Int SensorValue
  | .SENSOR_CHAN_VOLTAGE => sensor_value_from_float (data.v_bus.toNat * INA260_VOLTS_PER_LSB)
  | .SENSOR_CHAN_CURRENT => sensor_value_from_float (data.current.toNat * INA260_AMPS_PER_LSB)
  | .SENSOR_CHAN_POWER => sensor_value_from_float (data.power.toNat * INA260_WATTS_PER_LSB)
  | .SENSOR_CHAN_ALL | .unsupported _ => .error (-ENOTSUP)

/-! ## A fetch that fails -/

section
variable {bus : Ina260Bus} {reg : UInt8} {store : UInt16 → Ina260Data → Ina260Data}
  {P : Ina260Data → Prop} {data : Ina260Data}

/-- The register cannot be read. -/
def Unreadable (bus : Ina260Bus) (reg : UInt8) : Prop := ∃ e, ina260RegRead bus reg = .error e

/-- **One register**: if it is asked for, it is stored before the rest is read. -/
theorem failsIn_fetchReg_bind {wanted : Bool} {k : PUnit → EStateM Int Ina260Data PUnit} :
    FailsIn P (fetchReg bus wanted reg store >>= k) data ↔
      if wanted then (Unreadable bus reg → P data) ∧
        ∀ tmp, ina260RegRead bus reg = .ok tmp → FailsIn P (k ⟨⟩) (store tmp data)
      else FailsIn P (k ⟨⟩) data := by
  cases wanted with
  | false => exact Iff.rfl
  | true =>
    show FailsIn P ((MonadExcept.ofExcept (ina260RegRead bus reg) >>= fun tmp =>
      modify (store tmp)) >>= k) data ↔ _
    rw [bind_assoc]
    exact failsIn_ofExcept_bind

/-- The last register. -/
theorem failsIn_fetchReg {wanted : Bool} :
    FailsIn P (fetchReg bus wanted reg store) data ↔
      (wanted = true → Unreadable bus reg → P data) := by
  cases wanted with
  | false =>
    show FailsIn P (pure ⟨⟩ : EStateM Int Ina260Data PUnit) data ↔ _
    simp
  | true =>
    show FailsIn P (MonadExcept.ofExcept (ina260RegRead bus reg) >>= fun tmp =>
      modify (store tmp)) data ↔ _
    simp [Unreadable]

end

/-- **The fetches that leave the data when they fail**: those of one channel, and those of all where
nothing new was stored before the register that could not be read. -/
theorem intact_sampleFetch_iff (sensor_value_from_float : ℚ → Except Int SensorValue)
    (mode : Ina260Mode) (bus : Ina260Bus) (chan : PowerChannel) (data : Ina260Data) :
    Intact (ina260SampleFetch mode bus chan) (Ina260Data.channelGet sensor_value_from_float)
        data ↔
      (chan = .SENSOR_CHAN_ALL → Ina260Mode.CONT_OFF.value ≤ mode.value →
        ∀ v_bus, ina260RegRead bus INA260_REG_V_BUS = .ok v_bus →
          (Unreadable bus INA260_REG_POWER → v_bus = data.v_bus) ∧
          ∀ power, ina260RegRead bus INA260_REG_POWER = .ok power →
            Unreadable bus INA260_REG_CURRENT → v_bus = data.v_bus ∧ power = data.power) := by
  rw [intact_iff, ina260SampleFetch]
  by_cases hmode : mode.value < Ina260Mode.CONT_OFF.value
  · have hne : ¬Ina260Mode.CONT_OFF.value ≤ mode.value := Nat.not_le.mpr hmode
    rw [if_pos hmode, ite_self]
    simp [hne]
  · have hle : Ina260Mode.CONT_OFF.value ≤ mode.value := Nat.not_lt.mp hmode
    rw [if_neg hmode]
    cases chan with
    | SENSOR_CHAN_ALL =>
      simp [failsIn_fetchReg_bind, failsIn_fetchReg, Ina260Data.ext_iff, hle]
    | SENSOR_CHAN_VOLTAGE => simp [failsIn_fetchReg_bind, failsIn_fetchReg]
    | SENSOR_CHAN_POWER => simp [failsIn_fetchReg_bind, failsIn_fetchReg]
    | SENSOR_CHAN_CURRENT => simp [failsIn_fetchReg_bind, failsIn_fetchReg]
    | unsupported chan => simp

end Backplane.Drivers
