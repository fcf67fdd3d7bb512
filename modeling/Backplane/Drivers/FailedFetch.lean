import Backplane.Drivers.Adxl375
import Backplane.Drivers.Ina260

/-!
# A fetch that fails

The `sample_fetch` of the three drivers as programs that store and may fail, and what is left of the
last sample when they do. The ms5611 stores at its end, the adxl375 before it looks at the code of
the bus, and the ina260 one register after the other.

Results:
* `run_fetch_temp_and_press`: the stores of the ms5611 are those of its measurement.
* `intact_ms5611`: it never touches the last sample.
* `failed_fetch_intact_iff`: the fetches of the three that leave the last sample when they fail.
-/

namespace Backplane.Drivers

open Backplane.Stores

/-- `ms5611_fetch_temp_and_press`, with its stores one by one. -/
def ms5611FetchTempAndPress (bus : I2cBus) : EStateM Int Ms5611Data PUnit := do
  let data ← get
  let temp_data ← MonadExcept.ofExcept (bus.convert [] (data.osr.get 1))
  let press_data ← MonadExcept.ofExcept (bus.convert temp_data.2 (data.osr.get 0))
  let meas := compensate data.prom temp_data.1 press_data.1
  modify fun data => { data with meas := { data.meas with temp := meas.temp } }
  modify fun data => { data with meas := { data.meas with press := meas.press } }

/-- `ms5611_sample_fetch`. -/
def ms5611SampleFetch (bus : I2cBus) : EStateM Int Ms5611Data PUnit := fun data =>
  match (ms5611FetchTempAndPress bus).run data with
  | .error ret data => if ret < 0 then .error ret data else .ok ⟨⟩ data
  | .ok _ data => .ok ⟨⟩ data

/-- `adxl375_sample_fetch`. -/
def adxl375SampleFetch (read_reg_multiple : Vector UInt8 6 → Int × Vector UInt8 6) :
    EStateM Int Adxl375Data PUnit :=
  ofCode fun data => data.sampleFetch read_reg_multiple

/-- **The stores of the ms5611** are those of its measurement, and there are none before the last
answer of the bus. -/
theorem run_fetch_temp_and_press (bus : I2cBus) (data : Ms5611Data) :
    (ms5611FetchTempAndPress bus).run data = match data.fetchTempAndPress bus with
      | .ok data' => .ok ⟨⟩ data'
      | .error e => .error e data := by
  have htemp_osr : data.osr[1] = data.osr.get 1 := rfl
  have hpress_osr : data.osr[0] = data.osr.get 0 := rfl
  unfold Ms5611Data.fetchTempAndPress ms5611FetchTempAndPress
  rw [run_get_bind, htemp_osr, hpress_osr]
  cases bus.convert [] (data.osr.get 1) with
  | error e => rfl
  | ok temp_data =>
    obtain ⟨raw_temp, written⟩ := temp_data
    rw [run_ofExcept_ok_bind]
    simp only [bind, Except.bind]
    cases bus.convert written (data.osr.get 0) with
    | error e => rfl
    | ok press_data => rfl

/-- **The ms5611** leaves the last sample whenever it fails. -/
theorem intact_ms5611 (bus : I2cBus) (data : Ms5611Data) :
    Intact (ms5611SampleFetch bus) Ms5611Data.channelGet data := by
  rw [intact_iff]
  have hfetch : FailsIn (· = data) (ms5611FetchTempAndPress bus) data := by
    unfold ms5611FetchTempAndPress
    simp
  intro e data' hrun
  have hsample : (ms5611SampleFetch bus).run data =
      match (ms5611FetchTempAndPress bus).run data with
      | .error ret data => if ret < 0 then .error ret data else .ok ⟨⟩ data
      | .ok _ data => .ok ⟨⟩ data := rfl
  rw [hsample] at hrun
  cases hmeas : (ms5611FetchTempAndPress bus).run data with
  | ok _ meas =>
    rw [hmeas] at hrun
    cases hrun
  | error ret meas =>
    rw [hmeas] at hrun
    by_cases hret : ret < 0
    · simp only [if_pos hret] at hrun
      cases hrun
      exact hfetch e data' hmeas
    · simp only [if_neg hret] at hrun
      cases hrun

/-- **The adxl375** leaves it if the buffer of the failed transfer happens to hold it. -/
theorem intact_adxl375_iff (read_reg_multiple : Vector UInt8 6 → Int × Vector UInt8 6)
    (data : Adxl375Data) :
    Intact (adxl375SampleFetch read_reg_multiple) Adxl375Data.channelGet data ↔
      (read_reg_multiple (Vector.replicate 6 0)).1 = 0 ∨
        .ofBuff (read_reg_multiple (Vector.replicate 6 0)).2 = data.sample := by
  have hdata : ∀ sample, (⟨sample⟩ : Adxl375Data) = data ↔ sample = data.sample := by
    intro sample
    cases data
    simp
  rw [intact_iff, adxl375SampleFetch, failsIn_ofCode]
  exact or_congr Iff.rfl (hdata _)

/-- **The fetches that leave the last sample when they fail**, driver by driver. -/
theorem failed_fetch_intact_iff (sensor_value_from_float : ℚ → Except Int SensorValue) :
    (∀ (bus : I2cBus) (data : Ms5611Data),
      Intact (ms5611SampleFetch bus) Ms5611Data.channelGet data) ∧
    (∀ (read_reg_multiple : Vector UInt8 6 → Int × Vector UInt8 6) (data : Adxl375Data),
      Intact (adxl375SampleFetch read_reg_multiple) Adxl375Data.channelGet data ↔
        (read_reg_multiple (Vector.replicate 6 0)).1 = 0 ∨
          .ofBuff (read_reg_multiple (Vector.replicate 6 0)).2 = data.sample) ∧
    (∀ (mode : Ina260Mode) (bus : Ina260Bus) (chan : PowerChannel) (data : Ina260Data),
      Intact (ina260SampleFetch mode bus chan) (Ina260Data.channelGet sensor_value_from_float)
          data ↔
        (chan = .SENSOR_CHAN_ALL → Ina260Mode.CONT_OFF.value ≤ mode.value →
          ∀ v_bus, ina260RegRead bus INA260_REG_V_BUS = .ok v_bus →
            (Unreadable bus INA260_REG_POWER → v_bus = data.v_bus) ∧
            ∀ power, ina260RegRead bus INA260_REG_POWER = .ok power →
              Unreadable bus INA260_REG_CURRENT → v_bus = data.v_bus ∧ power = data.power)) :=
  ⟨intact_ms5611, intact_adxl375_iff, intact_sampleFetch_iff sensor_value_from_float⟩

/-- **A transfer that fails** leaves zeros in the adxl375. -/
theorem not_intact_adxl375 :
    ¬ ∀ (read_reg_multiple : Vector UInt8 6 → Int × Vector UInt8 6) (data : Adxl375Data),
      Intact (adxl375SampleFetch read_reg_multiple) Adxl375Data.channelGet data := by
  intro h
  have hfail := (h (fun buff => (-5, buff)) { sample := { x := 1, y := 2, z := 3 } }) (-5) _ rfl
  have hx := congrArg (fun data => data.sample.x.toInt) hfail.1
  exact absurd hx (by decide)

end Backplane.Drivers
