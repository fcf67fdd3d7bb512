import Mathlib.Logic.Function.Basic
import Mathlib.Tactic.NormNum
import Backplane.Drivers.Ina260

/-!
# The power module's telemetry

Model of `CSensingTenant::Run` (`app/backplane/power_module/src/c_sensing_tenant.cpp`) as the
hardware build compiles it, over `CShunt` (`lib/f_core/device/sensor/c_shunt.cpp`). A run makes
three `CShunt` objects on its stack: `shuntData` starts as what the memory holds, and an update that
fails leaves it so.

* `float` is any type; `sensor_value_to_float` is Zephyr's conversion, and `float` rounds a literal.
* `k_oops` ends the thread: there is no value then.

Results:
* `updateSensorValue_eq`: an update stores the three readings or nothing.
* `run_eq`: the message of a run.
* `rails_iff`: the runs in which each rail reports its own shunt.
-/

namespace Backplane.PowerModule

open Backplane.Drivers (SensorValue PowerChannel ENOTSUP)

/-! ## The shunt -/

/-- `CShunt::SShuntData`. -/
structure SShuntData where
  voltage : SensorValue
  current : SensorValue
  power : SensorValue

/-- What the device of a shunt answers: `device_is_ready`, `sensor_sample_fetch`, and
`sensor_channel_get` with the value it stores. -/
structure ShuntDevice where
  device_is_ready : Bool
  sample_fetch : Int
  channel_get : PowerChannel → Int × SensorValue

/-- `CShunt`, with its device. -/
structure CShunt where
  dev : ShuntDevice
  isInitialized : Bool
  shuntData : SShuntData

/-- What a run finds for a shunt: its device, and the memory where the object goes. -/
structure Slot where
  dev : ShuntDevice
  memory : SShuntData

namespace CShunt

/-- `CShunt::CShunt`. -/
def new (slot : Slot) : CShunt where
  dev := slot.dev
  isInitialized := slot.dev.device_is_ready
  shuntData := slot.memory

/-- `CSensorDevice::UpdateSensorValue`. -/
def baseUpdateSensorValue (s : CShunt) : Bool := s.isInitialized && s.dev.sample_fetch == 0

/-- `CShunt::UpdateSensorValue`. -/
def updateSensorValue (s : CShunt) : Bool × CShunt :=
  if !s.baseUpdateSensorValue then (false, s)
  else
    let voltage := s.dev.channel_get .SENSOR_CHAN_VOLTAGE
    if voltage.1 < 0 then (false, s)
    else
      let current := s.dev.channel_get .SENSOR_CHAN_CURRENT
      if current.1 < 0 then (false, s)
      else
        let power := s.dev.channel_get .SENSOR_CHAN_POWER
        if power.1 < 0 then (false, s)
        else
          (true, { s with
            shuntData := { voltage := voltage.2, current := current.2, power := power.2 } })

/-- `CShunt::GetSensorValue`; `none` is `k_oops`. -/
def getSensorValue (s : CShunt) : PowerChannel → Option SensorValue
  | .SENSOR_CHAN_VOLTAGE => some s.shuntData.voltage
  | .SENSOR_CHAN_CURRENT => some s.shuntData.current
  | .SENSOR_CHAN_POWER => some s.shuntData.power
  | .SENSOR_CHAN_ALL | .unsupported _ => none

end CShunt

/-! ## The tenant -/

variable {F : Type}

/-- `NTypes::ShuntData`. -/
@[ext] structure ShuntData (F : Type) where
  Voltage : F
  Current : F
  Power : F

/-- `NTypes::SensorData`. -/
structure SensorData (F : Type) where
  RailBattery : ShuntData F
  Rail3v3 : ShuntData F
  Rail5v0 : ShuntData F

/-- The aliases of the devicetree. -/
inductive Shunt
  | shunt_batt | shunt_3v3 | shunt_5v0
  deriving DecidableEq

/-- The ports of the tenant. -/
inductive Port
  | dataToBroadcast | dataToLog

/-- `CSensingTenant`. -/
structure CSensingTenant where
  logData : Bool

section
variable (sensor_value_to_float : SensorValue → F) (float : ℚ → F)

/-- `CSensorDevice::GetSensorValueFloat`. -/
def CShunt.getSensorValueFloat (s : CShunt) (chan : PowerChannel) : Option F :=
  (s.getSensorValue chan).map sensor_value_to_float

/-- `CSensingTenant::Run`: what it sends, and where. -/
def CSensingTenant.run (t : CSensingTenant) (slots : Shunt → Slot) :
    Option (List (Port × SensorData F)) := do
  let mut data : SensorData F :=
    { RailBattery := { Voltage := float 12, Current := float 0, Power := float 0 }
      Rail3v3 := { Voltage := float (33 / 10), Current := float 0, Power := float 0 }
      Rail5v0 := { Voltage := float 5, Current := float 0, Power := float 0 } }
  let shuntBatt := CShunt.new (slots .shunt_batt)
  let shunt3v3 := CShunt.new (slots .shunt_3v3)
  let shunt5v0 := CShunt.new (slots .shunt_5v0)
  let _shuntBatt := shuntBatt.updateSensorValue.2
  let shunt3v3 := shunt3v3.updateSensorValue.2
  let shunt5v0 := shunt5v0.updateSensorValue.2
  let current ← shunt3v3.getSensorValueFloat sensor_value_to_float .SENSOR_CHAN_CURRENT
  data := { data with Rail3v3.Current := current }
  let voltage ← shunt3v3.getSensorValueFloat sensor_value_to_float .SENSOR_CHAN_VOLTAGE
  data := { data with Rail3v3.Voltage := voltage }
  let power ← shunt3v3.getSensorValueFloat sensor_value_to_float .SENSOR_CHAN_POWER
  data := { data with Rail3v3.Power := power }
  let current ← shunt5v0.getSensorValueFloat sensor_value_to_float .SENSOR_CHAN_CURRENT
  data := { data with Rail5v0.Current := current }
  let voltage ← shunt5v0.getSensorValueFloat sensor_value_to_float .SENSOR_CHAN_VOLTAGE
  data := { data with Rail5v0.Voltage := voltage }
  let power ← shunt5v0.getSensorValueFloat sensor_value_to_float .SENSOR_CHAN_POWER
  data := { data with Rail5v0.Power := power }
  -- The same shunt once more.
  let current ← shunt5v0.getSensorValueFloat sensor_value_to_float .SENSOR_CHAN_CURRENT
  data := { data with Rail5v0.Current := current }
  let voltage ← shunt5v0.getSensorValueFloat sensor_value_to_float .SENSOR_CHAN_VOLTAGE
  data := { data with Rail5v0.Voltage := voltage }
  let power ← shunt5v0.getSensorValueFloat sensor_value_to_float .SENSOR_CHAN_POWER
  data := { data with Rail5v0.Power := power }
  let sent := [(Port.dataToBroadcast, data)]
  if t.logData then return sent ++ [(.dataToLog, data)]
  else return sent

end

/-! ## A run -/

/-- The update of the shunt succeeds. -/
structure ShuntDevice.Updates (dev : ShuntDevice) : Prop where
  ready : dev.device_is_ready = true
  fetched : dev.sample_fetch = 0
  voltage : ¬(dev.channel_get .SENSOR_CHAN_VOLTAGE).1 < 0
  current : ¬(dev.channel_get .SENSOR_CHAN_CURRENT).1 < 0
  power : ¬(dev.channel_get .SENSOR_CHAN_POWER).1 < 0

/-- The readings of a shunt. -/
def ShuntDevice.readings (dev : ShuntDevice) : SShuntData where
  voltage := (dev.channel_get .SENSOR_CHAN_VOLTAGE).2
  current := (dev.channel_get .SENSOR_CHAN_CURRENT).2
  power := (dev.channel_get .SENSOR_CHAN_POWER).2

/-- **All or nothing**: an update stores the three readings, or nothing. -/
theorem updateSensorValue_eq (slot : Slot) :
    slot.dev.Updates ∧ (CShunt.new slot).updateSensorValue =
        (true, { CShunt.new slot with shuntData := slot.dev.readings }) ∨
      ¬slot.dev.Updates ∧ (CShunt.new slot).updateSensorValue = (false, CShunt.new slot) := by
  unfold CShunt.updateSensorValue
  by_cases hbase : (!(CShunt.new slot).baseUpdateSensorValue) = true
  · rw [if_pos hbase]
    refine .inr ⟨fun h => ?_, rfl⟩
    simp [CShunt.new, CShunt.baseUpdateSensorValue, h.ready, h.fetched] at hbase
  · rw [if_neg hbase]
    have hready : slot.dev.device_is_ready = true ∧ slot.dev.sample_fetch = 0 := by
      simpa [CShunt.new, CShunt.baseUpdateSensorValue] using hbase
    by_cases hvoltage : (slot.dev.channel_get .SENSOR_CHAN_VOLTAGE).1 < 0
    · exact .inr ⟨fun h => h.voltage hvoltage, if_pos hvoltage⟩
    · by_cases hcurrent : (slot.dev.channel_get .SENSOR_CHAN_CURRENT).1 < 0
      · exact .inr ⟨fun h => h.current hcurrent, (if_neg hvoltage).trans (if_pos hcurrent)⟩
      · by_cases hpower : (slot.dev.channel_get .SENSOR_CHAN_POWER).1 < 0
        · exact .inr ⟨fun h => h.power hpower,
            (if_neg hvoltage).trans ((if_neg hcurrent).trans (if_pos hpower))⟩
        · exact .inl ⟨⟨hready.1, hready.2, hvoltage, hcurrent, hpower⟩,
            (if_neg hvoltage).trans ((if_neg hcurrent).trans (if_neg hpower))⟩

section
variable (sensor_value_to_float : SensorValue → F) (float : ℚ → F)

/-- The floats of three values. -/
def SShuntData.toFloats (d : SShuntData) : ShuntData F where
  Voltage := sensor_value_to_float d.voltage
  Current := sensor_value_to_float d.current
  Power := sensor_value_to_float d.power

/-- What is in a slot after the update. -/
def Slot.updated (slot : Slot) : SShuntData := (CShunt.new slot).updateSensorValue.2.shuntData

/-- The message of a run. -/
def message (slots : Shunt → Slot) : SensorData F where
  RailBattery := { Voltage := float 12, Current := float 0, Power := float 0 }
  Rail3v3 := (slots .shunt_3v3).updated.toFloats sensor_value_to_float
  Rail5v0 := (slots .shunt_5v0).updated.toFloats sensor_value_to_float

/-- The rail of a shunt. -/
def SensorData.rail (data : SensorData F) : Shunt → ShuntData F
  | .shunt_batt => data.RailBattery
  | .shunt_3v3 => data.Rail3v3
  | .shunt_5v0 => data.Rail5v0

/-- What a message goes to. -/
def CSensingTenant.sends (t : CSensingTenant) (data : SensorData F) :
    List (Port × SensorData F) :=
  (.dataToBroadcast, data) :: if t.logData then [(.dataToLog, data)] else []

/-- **A run** sends one message, wherever it sends it. -/
theorem run_eq (t : CSensingTenant) (slots : Shunt → Slot) :
    t.run sensor_value_to_float float slots =
      some (t.sends (message sensor_value_to_float float slots)) := by
  unfold CSensingTenant.run CSensingTenant.sends
  cases t.logData <;> rfl

/-- **Each rail reports its own shunt**: the readings of one that is updated, and nothing of one
that is not; other readings of a shunt make another rail of its own, and of no other. -/
structure Reports (t : CSensingTenant) (slots : Shunt → Slot) : Prop where
  own : ∃ sent, t.run sensor_value_to_float float slots = some sent ∧
    ∀ m ∈ sent, ∀ s, (slots s).dev.Updates →
      m.2.rail s = (slots s).dev.readings.toFloats sensor_value_to_float
  fresh : ∀ s, ¬(slots s).dev.Updates → ∀ memory,
    t.run sensor_value_to_float float (Function.update slots s ⟨(slots s).dev, memory⟩) =
      t.run sensor_value_to_float float slots
  only : ∀ s (dev : ShuntDevice), (slots s).dev.Updates → dev.Updates →
    dev.readings.toFloats sensor_value_to_float ≠
      (slots s).dev.readings.toFloats sensor_value_to_float →
    ∀ s', (t.run sensor_value_to_float float
        (Function.update slots s ⟨dev, (slots s).memory⟩)).map (·.map (·.2.rail s')) ≠
      (t.run sensor_value_to_float float slots).map (·.map (·.2.rail s')) ↔ s' = s

end

section
variable {sensor_value_to_float : SensorValue → F} {float : ℚ → F} {t : CSensingTenant}
  {slots : Shunt → Slot}

theorem updated_of_updates {slot : Slot} (h : slot.dev.Updates) :
    slot.updated = slot.dev.readings := by
  rcases updateSensorValue_eq slot with ⟨-, heq⟩ | ⟨hnot, -⟩
  · rw [Slot.updated, heq]
  · exact absurd h hnot

theorem updated_of_not_updates {slot : Slot} (h : ¬slot.dev.Updates) :
    slot.updated = slot.memory := by
  rcases updateSensorValue_eq slot with ⟨hyes, -⟩ | ⟨-, heq⟩
  · exact absurd hyes h
  · rw [Slot.updated, heq]
    rfl

/-- Two runs send the same on a rail iff their messages agree on it. -/
theorem run_rail_eq_iff {slots' : Shunt → Slot} (s : Shunt) :
    (t.run sensor_value_to_float float slots').map (·.map (·.2.rail s)) =
        (t.run sensor_value_to_float float slots).map (·.map (·.2.rail s)) ↔
      (message sensor_value_to_float float slots').rail s =
        (message sensor_value_to_float float slots).rail s := by
  rw [run_eq, run_eq]
  unfold CSensingTenant.sends
  cases t.logData <;> simp

/-- **The battery's rail** is the same in all runs. -/
theorem rail_batt (slots slots' : Shunt → Slot) :
    (message sensor_value_to_float float slots').rail .shunt_batt =
      (message sensor_value_to_float float slots).rail .shunt_batt := rfl

/-- The other two are what is in their slots after the update. -/
theorem rail_of_ne_batt {s : Shunt} (hs : s ≠ .shunt_batt) (slots : Shunt → Slot) :
    (message sensor_value_to_float float slots).rail s =
      (slots s).updated.toFloats sensor_value_to_float := by
  cases s with
  | shunt_batt => exact absurd rfl hs
  | shunt_3v3 => rfl
  | shunt_5v0 => rfl

/-- A message does not depend on what is in another slot. -/
theorem rail_update_of_ne {s s' : Shunt} (hne : s' ≠ s) (slot : Slot) :
    (message sensor_value_to_float float (Function.update slots s slot)).rail s' =
      (message sensor_value_to_float float slots).rail s' := by
  by_cases hs : s' = .shunt_batt
  · rw [hs, rail_batt]
  · rw [rail_of_ne_batt hs, rail_of_ne_batt hs, Function.update_of_ne hne]

/-- A run does not depend on what is in the battery's slot. -/
theorem message_update_batt (slots : Shunt → Slot) (slot : Slot) :
    message sensor_value_to_float float (Function.update slots .shunt_batt slot) =
      message sensor_value_to_float float slots := by
  simp [message]

theorem snd_of_mem_sends {data : SensorData F} {m : Port × SensorData F} (hm : m ∈ t.sends data) :
    m.2 = data := by
  unfold CSensingTenant.sends at hm
  cases hlog : t.logData <;> simp [hlog] at hm
  · rw [hm]
  · rcases hm with rfl | rfl <;> rfl

/-- A conversion that tells two values apart tells each value apart from some other. -/
theorem exists_float_ne (hfloat : ∃ v w, sensor_value_to_float v ≠ sensor_value_to_float w)
    (val : SensorValue) : ∃ v, sensor_value_to_float v ≠ sensor_value_to_float val := by
  obtain ⟨v, w, hne⟩ := hfloat
  by_cases hv : sensor_value_to_float v = sensor_value_to_float val
  · exact ⟨w, fun hw => hne (hv.trans hw.symm)⟩
  · exact ⟨v, hv⟩

/-- A battery that is measured would show on its rail. -/
theorem not_updates_batt (hfloat : ∃ v w, sensor_value_to_float v ≠ sensor_value_to_float w)
    (h : Reports sensor_value_to_float float t slots) : ¬(slots .shunt_batt).dev.Updates := by
  intro hup
  obtain ⟨v, hv⟩ := exists_float_ne hfloat (slots .shunt_batt).dev.readings.voltage
  let dev : ShuntDevice :=
    { device_is_ready := true, sample_fetch := 0, channel_get := fun _ => (0, v) }
  have hdev : dev.Updates := ⟨rfl, rfl, Int.lt_irrefl 0, Int.lt_irrefl 0, Int.lt_irrefl 0⟩
  have hne : dev.readings.toFloats sensor_value_to_float ≠
      (slots .shunt_batt).dev.readings.toFloats sensor_value_to_float :=
    fun heq => hv (congrArg ShuntData.Voltage heq)
  have hchanges := (h.only .shunt_batt dev hup hdev hne .shunt_batt).mpr rfl
  exact hchanges ((run_rail_eq_iff _).mpr (rail_batt _ _))

/-- **A shunt that is not updated** shows its memory. -/
theorem updates_of_reports (hfloat : ∃ v w, sensor_value_to_float v ≠ sensor_value_to_float w)
    (h : Reports sensor_value_to_float float t slots) {s : Shunt} (hs : s ≠ .shunt_batt) :
    (slots s).dev.Updates := by
  by_contra hnot
  obtain ⟨v, hv⟩ := exists_float_ne hfloat (slots s).memory.voltage
  let slot : Slot := ⟨(slots s).dev, { (slots s).memory with voltage := v }⟩
  have hslot : slot.updated = slot.memory := updated_of_not_updates hnot
  have hrail := (run_rail_eq_iff s).mp
    (congrArg (Option.map (List.map (·.2.rail s))) (h.fresh s hnot slot.memory))
  rw [rail_of_ne_batt hs, rail_of_ne_batt hs, Function.update_self, updated_of_not_updates hnot,
    hslot] at hrail
  exact hv (congrArg ShuntData.Voltage hrail)

/-- A run whose battery fails and whose other shunts are updated. -/
theorem reports_of_updates (hbatt : ¬(slots .shunt_batt).dev.Updates)
    (hothers : ∀ s, s ≠ .shunt_batt → (slots s).dev.Updates) :
    Reports sensor_value_to_float float t slots := by
  have hne : ∀ {s}, (slots s).dev.Updates → s ≠ .shunt_batt := by
    rintro s hup rfl
    exact hbatt hup
  constructor
  · refine ⟨_, run_eq _ _ t slots, fun m hm s hup => ?_⟩
    rw [snd_of_mem_sends hm, rail_of_ne_batt (hne hup), updated_of_updates hup]
  · intro s hnot memory
    by_cases hs : s = .shunt_batt
    · rw [hs, run_eq, run_eq, message_update_batt]
    · exact absurd (hothers s hs) hnot
  · intro s dev hup hdev hreadings s'
    rw [ne_eq, run_rail_eq_iff]
    by_cases hs : s' = s
    · subst hs
      have hslot : (⟨dev, (slots s').memory⟩ : Slot).updated = dev.readings :=
        updated_of_updates hdev
      rw [rail_of_ne_batt (hne hup), rail_of_ne_batt (hne hup), Function.update_self, hslot,
        updated_of_updates hup]
      exact iff_of_true hreadings rfl
    · exact iff_of_false (not_not.mpr (rail_update_of_ne hs _)) hs

/-- **The rails.** A run reports each rail's own shunt iff the battery's shunt fails and the other
two are updated. -/
theorem rails_iff (hfloat : ∃ v w, sensor_value_to_float v ≠ sensor_value_to_float w)
    (t : CSensingTenant) (slots : Shunt → Slot) :
    Reports sensor_value_to_float float t slots ↔
      ¬(slots .shunt_batt).dev.Updates ∧ (slots .shunt_3v3).dev.Updates ∧
        (slots .shunt_5v0).dev.Updates := by
  constructor
  · intro h
    exact ⟨not_updates_batt hfloat h, updates_of_reports hfloat h (by decide),
      updates_of_reports hfloat h (by decide)⟩
  · rintro ⟨hbatt, h3v3, h5v0⟩
    refine reports_of_updates hbatt fun s hs => ?_
    cases s with
    | shunt_batt => exact absurd rfl hs
    | shunt_3v3 => exact h3v3
    | shunt_5v0 => exact h5v0

/-- Shunts that measure 11.1 V, 2 A and 22.2 W. -/
def measured : Shunt → Slot := fun _ =>
  { dev :=
      { device_is_ready := true
        sample_fetch := 0
        channel_get := fun
          | .SENSOR_CHAN_VOLTAGE => (0, ⟨11, 100000⟩)
          | .SENSOR_CHAN_CURRENT => (0, ⟨2, 0⟩)
          | .SENSOR_CHAN_POWER => (0, ⟨22, 200000⟩)
          | .SENSOR_CHAN_ALL | .unsupported _ => (-ENOTSUP, ⟨0, 0⟩) }
    memory := ⟨⟨0, 0⟩, ⟨0, 0⟩, ⟨0, 0⟩⟩ }

theorem updates_measured (s : Shunt) : (measured s).dev.Updates :=
  ⟨rfl, rfl, Int.lt_irrefl 0, Int.lt_irrefl 0, Int.lt_irrefl 0⟩

/-- The three shunts answer, on a module that does not log. -/
theorem rails_iff_measured : ¬Reports SensorValue.toRat id ⟨false⟩ measured := by
  have hfloat : ∃ v w : SensorValue, v.toRat ≠ w.toRat :=
    ⟨⟨0, 0⟩, ⟨1, 0⟩, by simp [SensorValue.toRat]⟩
  exact fun h => ((rails_iff hfloat ⟨false⟩ measured).mp h).1 (updates_measured .shunt_batt)

/-- A battery at 11.1 V is reported at 12 V. -/
theorem not_reports_battery :
    ¬∀ (t : CSensingTenant) (slots : Shunt → Slot), Reports SensorValue.toRat id t slots := by
  intro h
  obtain ⟨sent, hsent, hown⟩ := (h ⟨false⟩ measured).own
  rw [run_eq] at hsent
  obtain rfl := Option.some.inj hsent
  have hvoltage : (12 : ℚ) = SensorValue.toRat ⟨11, 100000⟩ := congrArg ShuntData.Voltage
    (hown _ List.mem_cons_self .shunt_batt (updates_measured .shunt_batt))
  have hval2 : (100000 : Int32).toInt = 100000 := rfl
  have hval1 : (11 : Int32).toInt = 11 := rfl
  rw [SensorValue.toRat, hval1, hval2] at hvoltage
  norm_num at hvoltage

end

end Backplane.PowerModule
