import Mathlib.Algebra.Order.Group.Unbundled.Abs
import Mathlib.Tactic.FieldSimp
import Mathlib.Tactic.Ring
import Backplane.General.Polyline
import Backplane.General.Transitions
import Backplane.OpenRocket.Imu
import Backplane.OpenRocket.Packets

/-!
# Playing back a simulated flight

Model of `or_get_time` and `or_random` of `drivers/sensor/openrocket/openrocket_sensors.c`, and of
the `sample_fetch` of the barometer, the magnetometer and the IMU over it, for any sequence of
fetches at any times. What the clock shows once a measurement is over is an input. Scalars are exact
numbers; `(float) 0x7FFFFFFF` is 2 ^ 31.

`last_lower_index` is 0 from the driver's initialisation on: no driver writes it.

Results:
* `fetchMember_onLine`: a member is a value of the line through the packets.
* `flight_played`: every fetch of a run shows the flight, up to the noise.
* `period_held`: within a sampling period a sensor without noise shows one value.
-/

namespace Backplane.OpenRocket

open Backplane.Polyline
open Backplane.Transitions

/-! ## The time and the noise -/

/-- The Kconfig options of the drivers. -/
structure OrConfig where
  CONFIG_OPENROCKET_MS_BEFORE_LAUNCH : Nat
  CONFIG_OPENROCKET_NOISE : Bool

/-- `struct or_common_params`, without the time that a measurement takes. -/
structure OrCommonParams where
  broken : Bool
  sampling_period_us : Nat
  lag_time_us : Nat

/-- `or_get_time`, where `us` microseconds have passed since the boot. -/
def orGetTime (config : OrConfig) (cfg : OrCommonParams) (us : Nat) : ℚ :=
  let sampled : Int :=
    if cfg.sampling_period_us ≠ 0 then us / cfg.sampling_period_us * cfg.sampling_period_us else us
  ((sampled - cfg.lag_time_us - config.CONFIG_OPENROCKET_MS_BEFORE_LAUNCH * 1000 : Int) : ℚ) /
    1000000

/-- `or_random`: the state after it, and its result. -/
def orRandom (config : OrConfig) (rand_state : UInt32) (magnitude : ℚ) : UInt32 × ℚ :=
  if config.CONFIG_OPENROCKET_NOISE then
    let r32 := rand_state * 1103515245 + 12345
    (r32, (r32.toBitVec.toInt : ℚ) / 2 ^ 31 * magnitude)
  else (rand_state, 0)

/-! ## The drivers -/

/-- `enum sensor_channel`, as far as the drivers look at it. -/
inductive SensorChannel
  | SENSOR_CHAN_ALL
  | SENSOR_CHAN_AMBIENT_TEMP | SENSOR_CHAN_PRESS
  | SENSOR_CHAN_MAGN_X | SENSOR_CHAN_MAGN_Y | SENSOR_CHAN_MAGN_Z | SENSOR_CHAN_MAGN_XYZ
  | SENSOR_CHAN_ACCEL_X | SENSOR_CHAN_ACCEL_Y | SENSOR_CHAN_ACCEL_Z | SENSOR_CHAN_ACCEL_XYZ
  | SENSOR_CHAN_GYRO_X | SENSOR_CHAN_GYRO_Y | SENSOR_CHAN_GYRO_Z | SENSOR_CHAN_GYRO_XYZ
  | other
  deriving DecidableEq

open SensorChannel

def ENODEV : Int := 19
def ENOTSUP : Int := 134

/-- The members of `or_packets`. -/
structure OrPackets where
  table : PacketTable
  vert_accel : Nat → ℚ
  lat_accel : Nat → ℚ
  roll : Nat → ℚ
  pitch : Nat → ℚ
  yaw : Nat → ℚ
  temperature : Nat → ℚ
  pressure : Nat → ℚ
  magn_x : Nat → ℚ
  magn_y : Nat → ℚ
  magn_z : Nat → ℚ

/-- What a driver takes from one member: `init_openrocket` has made the first packet the one before
the simulation, and the last the one after it. -/
def OrPackets.member (packets : OrPackets) (column : Nat → ℚ) (last_lower_index : Nat)
    (time : ℚ) : Except Trouble ℚ :=
  packets.table.fetchMember last_lower_index time (column 0)
    (column (packets.table.or_packets_size - 1)) column

/-- A `sample_fetch` for the channels of `supported`, which takes its measurements with
`measure`. -/
def sampleFetch {D : Type} (config : OrConfig) (cfg : OrCommonParams)
    (supported : List SensorChannel) (measure : ℚ → D → Except Trouble D) (data : D)
    (chan : SensorChannel) (us : Nat) : Except Trouble (Int × D) :=
  if cfg.broken then .ok (-ENODEV, data)
  else if chan ∉ supported then .ok (-ENOTSUP, data)
  else
    match measure (orGetTime config cfg us) data with
    | .error e => .error e
    | .ok data => .ok (0, data)

/-- `struct or_barom_config`. -/
structure OrBaromConfig where
  sensor_cfg : OrCommonParams
  temp_noise_scale : ℚ
  press_noise_scale : ℚ

/-- `struct or_barom_data`. -/
structure OrBaromData where
  last_lower_index : Nat
  rand_state : UInt32
  pressure : ℚ
  temperature : ℚ

/-- After `or_barom_init`. -/
def OrBaromData.init (rand_state : UInt32) : OrBaromData :=
  { last_lower_index := 0, rand_state := rand_state, pressure := 0, temperature := 0 }

/-- What `or_barom_sample_fetch` measures. -/
def OrBaromConfig.measure (cfg : OrBaromConfig) (config : OrConfig) (packets : OrPackets) (time : ℚ)
    (data : OrBaromData) : Except Trouble OrBaromData := do
  let pressure ← packets.member packets.pressure data.last_lower_index time
  let temperature ← packets.member packets.temperature data.last_lower_index time
  let r0 := orRandom config data.rand_state cfg.press_noise_scale
  let r1 := orRandom config r0.1 cfg.temp_noise_scale
  return { data with
    rand_state := r1.1
    pressure := pressure + r0.2
    temperature := temperature + r1.2 }

/-- The channels that `or_barom_sample_fetch` supports. -/
def baromChannels : List SensorChannel :=
  [SENSOR_CHAN_ALL, SENSOR_CHAN_AMBIENT_TEMP, SENSOR_CHAN_PRESS]

/-- `or_barom_sample_fetch`. -/
def orBaromSampleFetch (config : OrConfig) (cfg : OrBaromConfig) (packets : OrPackets) :
    OrBaromData → SensorChannel → Nat → Except Trouble (Int × OrBaromData) :=
  sampleFetch config cfg.sensor_cfg baromChannels (cfg.measure config packets)

/-- `struct or_magnetometer_config`. -/
structure OrMagnetometerConfig where
  sensor_cfg : OrCommonParams
  noise : ℚ

/-- `struct or_magnetometer_data`. -/
structure OrMagnetometerData where
  last_lower_index : Nat
  rand_state : UInt32
  magn_x : ℚ
  magn_y : ℚ
  magn_z : ℚ

/-- After `or_magn_init`. -/
def OrMagnetometerData.init (rand_state : UInt32) : OrMagnetometerData :=
  { last_lower_index := 0, rand_state := rand_state, magn_x := 0, magn_y := 0, magn_z := 0 }

/-- What `or_magn_sample_fetch` measures. -/
def OrMagnetometerConfig.measure (cfg : OrMagnetometerConfig) (config : OrConfig)
    (packets : OrPackets) (time : ℚ) (data : OrMagnetometerData) :
    Except Trouble OrMagnetometerData := do
  let magn_x ← packets.member packets.magn_x data.last_lower_index time
  let magn_y ← packets.member packets.magn_y data.last_lower_index time
  let magn_z ← packets.member packets.magn_z data.last_lower_index time
  let r0 := orRandom config data.rand_state cfg.noise
  let r1 := orRandom config r0.1 cfg.noise
  let r2 := orRandom config r1.1 cfg.noise
  return { data with
    rand_state := r2.1
    magn_x := magn_x + r0.2
    magn_y := magn_y + r1.2
    magn_z := magn_z + r2.2 }

/-- The channels that `or_magn_sample_fetch` supports. -/
def magnChannels : List SensorChannel :=
  [SENSOR_CHAN_ALL, SENSOR_CHAN_MAGN_X, SENSOR_CHAN_MAGN_Y, SENSOR_CHAN_MAGN_Z,
    SENSOR_CHAN_MAGN_XYZ]

/-- `or_magn_sample_fetch`. -/
def orMagnSampleFetch (config : OrConfig) (cfg : OrMagnetometerConfig) (packets : OrPackets) :
    OrMagnetometerData → SensorChannel → Nat → Except Trouble (Int × OrMagnetometerData) :=
  sampleFetch config cfg.sensor_cfg magnChannels (cfg.measure config packets)

/-- `struct or_imu_config`, with its axes apart. -/
structure OrImuDevice where
  sensor_cfg : OrCommonParams
  axes : OrImuConfig
  accel_noise : ℚ
  gyro_noise : ℚ

/-- `struct or_imu_data`, with its measurements apart. -/
structure OrImuState where
  last_lower_index : Nat
  rand_state : UInt32
  measured : OrImuData

/-- After `or_imu_init`. -/
def OrImuState.init (rand_state : UInt32) : OrImuState :=
  { last_lower_index := 0, rand_state := rand_state,
    measured :=
      { accel_x := 0, accel_y := 0, accel_z := 0, gyro_x := 0, gyro_y := 0, gyro_z := 0 } }

/-- What `or_imu_sample_fetch` measures. -/
def OrImuDevice.measure (cfg : OrImuDevice) (config : OrConfig) (packets : OrPackets) (time : ℚ)
    (data : OrImuState) : Except Trouble OrImuState := do
  let vert_accel ← packets.member packets.vert_accel data.last_lower_index time
  let lat_accel ← packets.member packets.lat_accel data.last_lower_index time
  let roll ← packets.member packets.roll data.last_lower_index time
  let pitch ← packets.member packets.pitch data.last_lower_index time
  let yaw ← packets.member packets.yaw data.last_lower_index time
  let r0 := orRandom config data.rand_state cfg.accel_noise
  let r1 := orRandom config r0.1 cfg.accel_noise
  let r2 := orRandom config r1.1 cfg.gyro_noise
  let r3 := orRandom config r2.1 cfg.gyro_noise
  let r4 := orRandom config r3.1 cfg.gyro_noise
  return { data with
    rand_state := r4.1
    measured := cfg.axes.mapOrToSensor
      { vert_accel := vert_accel + r0.2
        lat_accel := lat_accel + r1.2
        roll := roll + r2.2
        pitch := pitch + r3.2
        yaw := yaw + r4.2 } }

/-- The channels that `or_imu_sample_fetch` supports. -/
def imuChannels : List SensorChannel :=
  [SENSOR_CHAN_ALL, SENSOR_CHAN_ACCEL_X, SENSOR_CHAN_ACCEL_Y, SENSOR_CHAN_ACCEL_Z,
    SENSOR_CHAN_ACCEL_XYZ, SENSOR_CHAN_GYRO_X, SENSOR_CHAN_GYRO_Y, SENSOR_CHAN_GYRO_Z,
    SENSOR_CHAN_GYRO_XYZ]

/-- `or_imu_sample_fetch`. -/
def orImuSampleFetch (config : OrConfig) (cfg : OrImuDevice) (packets : OrPackets) :
    OrImuState → SensorChannel → Nat → Except Trouble (Int × OrImuState) :=
  sampleFetch config cfg.sensor_cfg imuChannels (cfg.measure config packets)

/-! ## What a reading shows -/

/-- How far noise moves a reading. -/
def noiseBound (config : OrConfig) (scale : ℚ) : ℚ :=
  if config.CONFIG_OPENROCKET_NOISE then |scale| else 0

/-- **The reading shows a member of the flight**, up to the noise. -/
def Shows (config : OrConfig) (cfg : OrCommonParams) (table : PacketTable) (column : Nat → ℚ)
    (scale : ℚ) (us : Nat) (reading : ℚ) : Prop :=
  ∃ v, OnLine table.or_packets_size table.time_s column (orGetTime config cfg us) v ∧
    |reading - v| ≤ noiseBound config scale

/-- The noise is at most its magnitude. -/
theorem orRandom_le (config : OrConfig) (rand_state : UInt32) (magnitude : ℚ) :
    |(orRandom config rand_state magnitude).2| ≤ noiseBound config magnitude := by
  unfold orRandom noiseBound
  split
  · have hrange : ∀ r : BitVec 32, |(r.toInt : ℚ) / 2 ^ 31| ≤ 1 := by
      intro r
      have hlo := BitVec.le_toInt r
      have hhi := BitVec.toInt_lt (x := r)
      rw [abs_div, div_le_one (by positivity), abs_le]
      constructor
      · norm_num
        exact_mod_cast hlo
      · norm_num
        exact_mod_cast hhi.le
    rw [abs_mul]
    exact mul_le_of_le_one_left (abs_nonneg _) (hrange _)
  · exact (abs_zero).le

section Table
variable {table : PacketTable} {time : ℚ}

/-- What the drivers make of bounds. -/
theorem fetchMember_eq {last : Nat} {b : Bounds}
    (hcall : table.orFindBoundingPackets last time = .ok b) (presim postsim : ℚ)
    (column : Nat → ℚ) : table.fetchMember last time presim postsim column =
      if b.upper_idx = 0 then .ok presim
      else if b.lower_idx = table.or_packets_size then .ok postsim
      else table.read column b.lower_idx >>= fun lo_data =>
        table.read column b.upper_idx >>= fun hi_data => orLerp lo_data hi_data b.mix := by
  rw [PacketTable.fetchMember, hcall]
  rfl

/-- **What the drivers take** is a value of the line through the packets. -/
theorem fetchMember_onLine (h : table.time_s 0 < table.time_s 1) (time : ℚ) (column : Nat → ℚ) :
    ∃ v, table.fetchMember 0 time (column 0) (column (table.or_packets_size - 1)) column = .ok v ∧
      OnLine table.or_packets_size table.time_s column time v := by
  have hsize := table.two_le
  rcases lt_or_ge time (table.time_s 0) with hbefore | hfirst
  · refine ⟨column 0, ?_, .before hbefore⟩
    rw [fetchMember_eq (PacketTable.find_before 0 hbefore)]
    exact if_pos rfl
  · rcases PacketTable.find_of_le hfirst (show 0 + 1 < table.or_packets_size by omega) hfirst with
      ⟨hcall, hend⟩ | ⟨i, hi, hlo, hhi, hor, hcall⟩
    · refine ⟨column (table.or_packets_size - 1), ?_, .after hend⟩
      rw [fetchMember_eq hcall, if_neg (by simp only; omega)]
      exact if_pos rfl
    · have hlt : table.time_s i < table.time_s (i + 1) := by
        rcases hor with rfl | hearlier
        · exact h
        · exact hearlier.trans_le hhi
      rw [if_neg hlt.ne'] at hcall
      refine ⟨column i * (1 - (time - table.time_s i) / (table.time_s (i + 1) - table.time_s i)) +
        column (i + 1) * ((time - table.time_s i) / (table.time_s (i + 1) - table.time_s i)), ?_,
        .between i hi hlt hlo hhi ?_⟩
      · rw [fetchMember_eq hcall, if_neg (Nat.succ_ne_zero i), if_neg (by simp only; omega)]
        simp only [PacketTable.read_of_lt (Nat.lt_of_succ_lt hi), PacketTable.read_of_lt hi]
        exact if_pos (PacketTable.mix_range hlo hhi)
      · have hne := (sub_pos.mpr hlt).ne'
        field_simp
        ring

end Table

/-! ## Runs of fetches -/

/-- The fetches of a run: a channel, and the clock once the measurement is over. The state is what
the last fetch returned, and the driver's data. -/
def fetches {D : Type} (fetch : D → SensorChannel → Nat → Except Trouble (Int × D)) (data : D)
    (l : List (SensorChannel × Nat)) : List (Transition (Int × D) (SensorChannel × Nat)) :=
  transitions (fun s f => fetch s.2 f.1 f.2) (0, data) l

/-- **A run plays the flight back**: all fetches return, those of a supported channel with data that
`shows` the time, and the others with an error and the data as it was. -/
structure Played {D : Type} (broken : Bool) (supported : List SensorChannel)
    (shows : Nat → D → Prop) (l : List (SensorChannel × Nat))
    (steps : List (Transition (Int × D) (SensorChannel × Nat))) : Prop where
  made : steps.map Transition.input = l
  fetched : ∀ t ∈ steps, broken = false → t.input.1 ∈ supported →
    t.after.1 = 0 ∧ shows t.input.2 t.after.2
  refused : ∀ t ∈ steps, broken = true ∨ t.input.1 ∉ supported →
    t.after = (if broken then -ENODEV else -ENOTSUP, t.before.2)

section Runs
variable {D : Type} {config : OrConfig} {cfg : OrCommonParams} (supported : List SensorChannel)
  {measure : ℚ → D → Except Trouble D} {I : D → Prop} {shows : Nat → D → Prop}

/-- **One fetch**, where a measurement always succeeds and keeps an invariant. -/
theorem sampleFetch_spec (hmeasure : ∀ us data, I data →
      ∃ data', measure (orGetTime config cfg us) data = .ok data' ∧ I data' ∧ shows us data')
    (chan : SensorChannel) (us : Nat) {data : D} (hdata : I data) :
    ∃ r, sampleFetch config cfg supported measure data chan us = .ok r ∧ I r.2 ∧
      (cfg.broken = false → chan ∈ supported → r.1 = 0 ∧ shows us r.2) ∧
      (cfg.broken = true ∨ chan ∉ supported →
        r = (if cfg.broken then -ENODEV else -ENOTSUP, data)) := by
  unfold sampleFetch
  by_cases hbroken : cfg.broken = true
  · simp only [hbroken, if_true]
    exact ⟨_, rfl, hdata, fun h => Bool.noConfusion h, fun _ => rfl⟩
  · by_cases hchan : chan ∈ supported
    · obtain ⟨data', hok, hinv, hshows⟩ := hmeasure us data hdata
      rw [if_neg hbroken, if_neg (not_not.mpr hchan), hok]
      refine ⟨_, rfl, hinv, fun _ _ => ⟨rfl, hshows⟩, ?_⟩
      rintro (h | h)
      · exact absurd h hbroken
      · exact absurd hchan h
    · rw [if_neg hbroken, if_pos hchan]
      exact ⟨_, rfl, hdata, fun _ h => absurd h hchan, fun _ => by rw [if_neg hbroken]⟩

/-- **A whole run.** -/
theorem sampleFetch_played (hmeasure : ∀ us data, I data →
      ∃ data', measure (orGetTime config cfg us) data = .ok data' ∧ I data' ∧ shows us data')
    (l : List (SensorChannel × Nat)) {data : D} (hdata : I data) :
    Played cfg.broken supported shows l
      (fetches (sampleFetch config cfg supported measure) data l) := by
  have hstep : ∀ s : Int × D, ∀ f : SensorChannel × Nat, I s.2 →
      ∃ s', sampleFetch config cfg supported measure s.2 f.1 f.2 = .ok s' ∧ I s'.2 := by
    intro s f hs
    obtain ⟨r, hr, hinv, -⟩ := sampleFetch_spec supported hmeasure f.1 f.2 hs
    exact ⟨r, hr, hinv⟩
  have hkeep : ∀ s : Int × D, ∀ f : SensorChannel × Nat, ∀ s', I s.2 →
      sampleFetch config cfg supported measure s.2 f.1 f.2 = .ok s' → I s'.2 := by
    intro s f s' hs hs'
    obtain ⟨r, hr, hinv⟩ := hstep s f hs
    cases hr.symm.trans hs'
    exact hinv
  have hspec : ∀ t ∈ fetches (sampleFetch config cfg supported measure) data l,
      (cfg.broken = false → t.input.1 ∈ supported → t.after.1 = 0 ∧ shows t.input.2 t.after.2) ∧
        (cfg.broken = true ∨ t.input.1 ∉ supported →
          t.after = (if cfg.broken then -ENODEV else -ENOTSUP, t.before.2)) := by
    intro t ht
    obtain ⟨hok, hbefore, -⟩ :=
      transitions_invariant (P := fun s : Int × D => I s.2) hkeep hdata ht
    obtain ⟨r, hr, -, hfetched⟩ :=
      sampleFetch_spec supported hmeasure t.input.1 t.input.2 hbefore
    cases hr.symm.trans hok
    exact hfetched
  exact ⟨transitions_total (P := fun s : Int × D => I s.2) hstep l hdata,
    fun t ht => (hspec t ht).1, fun t ht => (hspec t ht).2⟩

end Runs

/-! ## The three sensors -/

section Sensors
variable {config : OrConfig} {packets : OrPackets}

/-- **A member with its noise** shows the flight. -/
theorem member_shows (h : packets.table.time_s 0 < packets.table.time_s 1) (config : OrConfig)
    (cfg : OrCommonParams) (us : Nat) (column : Nat → ℚ) :
    ∃ v, packets.member column 0 (orGetTime config cfg us) = .ok v ∧
      ∀ rand_state scale, Shows config cfg packets.table column scale us
        (v + (orRandom config rand_state scale).2) := by
  obtain ⟨v, hv, hline⟩ := fetchMember_onLine h (orGetTime config cfg us) column
  refine ⟨v, hv, fun rand_state scale => ⟨v, hline, ?_⟩⟩
  rw [add_sub_cancel_left]
  exact orRandom_le config rand_state scale

/-- The barometer shows the flight. -/
structure OrBaromData.ShowsFlight (config : OrConfig) (cfg : OrBaromConfig) (packets : OrPackets)
    (us : Nat) (data : OrBaromData) : Prop where
  pressure : Shows config cfg.sensor_cfg packets.table packets.pressure cfg.press_noise_scale us
    data.pressure
  temperature : Shows config cfg.sensor_cfg packets.table packets.temperature cfg.temp_noise_scale
    us data.temperature

/-- And the magnetometer. -/
structure OrMagnetometerData.ShowsFlight (config : OrConfig) (cfg : OrMagnetometerConfig)
    (packets : OrPackets) (us : Nat) (data : OrMagnetometerData) : Prop where
  magn_x : Shows config cfg.sensor_cfg packets.table packets.magn_x cfg.noise us data.magn_x
  magn_y : Shows config cfg.sensor_cfg packets.table packets.magn_y cfg.noise us data.magn_y
  magn_z : Shows config cfg.sensor_cfg packets.table packets.magn_z cfg.noise us data.magn_z

/-- What the IMU maps to its axes shows the flight. -/
structure OrData.ShowsFlight (config : OrConfig) (cfg : OrImuDevice) (packets : OrPackets)
    (us : Nat) (data : OrData) : Prop where
  vert_accel : Shows config cfg.sensor_cfg packets.table packets.vert_accel cfg.accel_noise us
    data.vert_accel
  lat_accel : Shows config cfg.sensor_cfg packets.table packets.lat_accel cfg.accel_noise us
    data.lat_accel
  roll : Shows config cfg.sensor_cfg packets.table packets.roll cfg.gyro_noise us data.roll
  pitch : Shows config cfg.sensor_cfg packets.table packets.pitch cfg.gyro_noise us data.pitch
  yaw : Shows config cfg.sensor_cfg packets.table packets.yaw cfg.gyro_noise us data.yaw

theorem barom_measure (h : packets.table.time_s 0 < packets.table.time_s 1) (cfg : OrBaromConfig)
    (us : Nat) (data : OrBaromData) (hdata : data.last_lower_index = 0) :
    ∃ data', cfg.measure config packets (orGetTime config cfg.sensor_cfg us) data = .ok data' ∧
      data'.last_lower_index = 0 ∧ data'.ShowsFlight config cfg packets us := by
  obtain ⟨pressure, hpressure, hshowsP⟩ := member_shows h config cfg.sensor_cfg us packets.pressure
  obtain ⟨temperature, htemperature, hshowsT⟩ :=
    member_shows h config cfg.sensor_cfg us packets.temperature
  unfold OrBaromConfig.measure
  rw [hdata, hpressure, htemperature]
  exact ⟨_, rfl, rfl, hshowsP .., hshowsT ..⟩

theorem magn_measure (h : packets.table.time_s 0 < packets.table.time_s 1)
    (cfg : OrMagnetometerConfig) (us : Nat) (data : OrMagnetometerData)
    (hdata : data.last_lower_index = 0) :
    ∃ data', cfg.measure config packets (orGetTime config cfg.sensor_cfg us) data = .ok data' ∧
      data'.last_lower_index = 0 ∧ data'.ShowsFlight config cfg packets us := by
  obtain ⟨magn_x, hx, hshowsX⟩ := member_shows h config cfg.sensor_cfg us packets.magn_x
  obtain ⟨magn_y, hy, hshowsY⟩ := member_shows h config cfg.sensor_cfg us packets.magn_y
  obtain ⟨magn_z, hz, hshowsZ⟩ := member_shows h config cfg.sensor_cfg us packets.magn_z
  unfold OrMagnetometerConfig.measure
  rw [hdata, hx, hy, hz]
  exact ⟨_, rfl, rfl, hshowsX .., hshowsY .., hshowsZ ..⟩

/-- The measurements of the IMU are the flight, mapped to its axes. -/
def OrImuState.ShowsFlight (config : OrConfig) (cfg : OrImuDevice) (packets : OrPackets)
    (us : Nat) (data : OrImuState) : Prop :=
  ∃ flight : OrData, flight.ShowsFlight config cfg packets us ∧
    data.measured = cfg.axes.mapOrToSensor flight

theorem imu_measure (h : packets.table.time_s 0 < packets.table.time_s 1) (cfg : OrImuDevice)
    (us : Nat) (data : OrImuState) (hdata : data.last_lower_index = 0) :
    ∃ data', cfg.measure config packets (orGetTime config cfg.sensor_cfg us) data = .ok data' ∧
      data'.last_lower_index = 0 ∧ data'.ShowsFlight config cfg packets us := by
  obtain ⟨vert, hvert, hshowsV⟩ := member_shows h config cfg.sensor_cfg us packets.vert_accel
  obtain ⟨lat, hlat, hshowsL⟩ := member_shows h config cfg.sensor_cfg us packets.lat_accel
  obtain ⟨roll, hroll, hshowsR⟩ := member_shows h config cfg.sensor_cfg us packets.roll
  obtain ⟨pitch, hpitch, hshowsP⟩ := member_shows h config cfg.sensor_cfg us packets.pitch
  obtain ⟨yaw, hyaw, hshowsY⟩ := member_shows h config cfg.sensor_cfg us packets.yaw
  unfold OrImuDevice.measure
  rw [hdata, hvert, hlat, hroll, hpitch, hyaw]
  refine ⟨_, rfl, rfl, _, ?_, rfl⟩
  exact ⟨hshowsV .., hshowsL .., hshowsR .., hshowsP .., hshowsY ..⟩

theorem barom_played (h : packets.table.time_s 0 < packets.table.time_s 1) (cfg : OrBaromConfig)
    (rand_state : UInt32) (l : List (SensorChannel × Nat)) :
    Played cfg.sensor_cfg.broken baromChannels
      (fun us data => data.ShowsFlight config cfg packets us) l
      (fetches (orBaromSampleFetch config cfg packets) (.init rand_state) l) :=
  sampleFetch_played _ (I := fun data : OrBaromData => data.last_lower_index = 0)
    (barom_measure h cfg) l rfl

theorem magn_played (h : packets.table.time_s 0 < packets.table.time_s 1)
    (cfg : OrMagnetometerConfig) (rand_state : UInt32) (l : List (SensorChannel × Nat)) :
    Played cfg.sensor_cfg.broken magnChannels
      (fun us data => data.ShowsFlight config cfg packets us) l
      (fetches (orMagnSampleFetch config cfg packets) (.init rand_state) l) :=
  sampleFetch_played _ (I := fun data : OrMagnetometerData => data.last_lower_index = 0)
    (magn_measure h cfg) l rfl

theorem imu_played (h : packets.table.time_s 0 < packets.table.time_s 1) (cfg : OrImuDevice)
    (rand_state : UInt32) (l : List (SensorChannel × Nat)) :
    Played cfg.sensor_cfg.broken imuChannels
      (fun us data => data.ShowsFlight config cfg packets us) l
      (fetches (orImuSampleFetch config cfg packets) (.init rand_state) l) :=
  sampleFetch_played _ (I := fun data : OrImuState => data.last_lower_index = 0)
    (imu_measure h cfg) l rfl

/-- **The sensors play the flight back**, over every run of fetches. -/
def OrPackets.PlayBack (packets : OrPackets) : Prop :=
  ∀ (config : OrConfig) (barom : OrBaromConfig) (magn : OrMagnetometerConfig) (imu : OrImuDevice)
    (rand_state : UInt32) (l : List (SensorChannel × Nat)),
    Played barom.sensor_cfg.broken baromChannels
        (fun us data => data.ShowsFlight config barom packets us) l
        (fetches (orBaromSampleFetch config barom packets) (.init rand_state) l) ∧
      Played magn.sensor_cfg.broken magnChannels
        (fun us data => data.ShowsFlight config magn packets us) l
        (fetches (orMagnSampleFetch config magn packets) (.init rand_state) l) ∧
      Played imu.sensor_cfg.broken imuChannels
        (fun us data => data.ShowsFlight config imu packets us) l
        (fetches (orImuSampleFetch config imu packets) (.init rand_state) l)

/-- **The flight is played back**: the first two packets have different times, as the drivers divide
by the difference. -/
theorem flight_played (h : packets.table.time_s 0 < packets.table.time_s 1) : packets.PlayBack :=
  fun _ barom magn imu rand_state l =>
    ⟨barom_played h barom rand_state l, magn_played h magn rand_state l,
      imu_played h imu rand_state l⟩

/-- A flight of two seconds, in which every member rises by one a second. -/
def climb : OrPackets where
  table := PacketTable.seconds 3 (by decide)
  vert_accel k := k
  lat_accel k := k
  roll k := k
  pitch k := k
  yaw k := k
  temperature k := k
  pressure k := k
  magn_x k := k
  magn_y k := k
  magn_z k := k

theorem climb_mono : ∀ i j, i < j → j < climb.table.or_packets_size →
    climb.table.time_s i < climb.table.time_s j := by
  intro i j hij _
  show (i : ℚ) < (j : ℚ)
  exact_mod_cast hij

def tenthSecond : OrCommonParams :=
  { broken := false, sampling_period_us := 100000, lag_time_us := 0 }

def quietConfig : OrConfig :=
  { CONFIG_OPENROCKET_MS_BEFORE_LAUNCH := 1000, CONFIG_OPENROCKET_NOISE := false }

def climbBarom : OrBaromConfig :=
  { sensor_cfg := tenthSecond, temp_noise_scale := 0, press_noise_scale := 0 }

def climbMagn : OrMagnetometerConfig := { sensor_cfg := tenthSecond, noise := 0 }

def climbImu : OrImuDevice where
  sensor_cfg := tenthSecond
  axes :=
    { vertical_axis := .OPENROCKET_AXIS_Z, vertical_axis_invert := true
      lateral_axis := .OPENROCKET_AXIS_X, roll_axis := .OPENROCKET_AXIS_Z
      pitch_axis := .OPENROCKET_AXIS_Y, yaw_axis := .OPENROCKET_AXIS_X
      roll_axis_invert := false, pitch_axis_invert := false, yaw_axis_invert := false }
  accel_noise := 0
  gyro_noise := 0

/-- Two fetches within a tenth of a second, and one of a channel of another sensor. -/
def climbFetches : List (SensorChannel × Nat) :=
  [(SENSOR_CHAN_ALL, 1510000), (SENSOR_CHAN_ALL, 1590000), (other, 2500000)]

theorem flight_played_climb : climb.PlayBack :=
  flight_played (climb_mono 0 1 Nat.one_pos (by decide))

end Sensors

/-! ## Sampling periods -/

section Readings
variable {config : OrConfig} {cfg : OrCommonParams} {table : PacketTable} {column : Nat → ℚ}
  {scale : ℚ} {us us' : Nat} {reading reading' : ℚ}

/-- The drivers read the clock in whole sampling periods. -/
theorem orGetTime_period (hperiod : cfg.sampling_period_us ≠ 0)
    (hsame : us / cfg.sampling_period_us = us' / cfg.sampling_period_us) :
    orGetTime config cfg us = orGetTime config cfg us' := by
  have hsame' : (us : Int) / cfg.sampling_period_us = us' / cfg.sampling_period_us := by
    exact_mod_cast hsame
  unfold orGetTime
  simp only [hperiod, ne_eq, not_false_eq_true, if_true, hsame']

theorem Shows.eq_of_period (hnoise : config.CONFIG_OPENROCKET_NOISE = false)
    (hmono : ∀ i j, i < j → j < table.or_packets_size → table.time_s i < table.time_s j)
    (hperiod : cfg.sampling_period_us ≠ 0)
    (hsame : us / cfg.sampling_period_us = us' / cfg.sampling_period_us)
    (h : Shows config cfg table column scale us reading)
    (h' : Shows config cfg table column scale us' reading') : reading = reading' := by
  have hexact : noiseBound config scale = 0 := by
    unfold noiseBound
    rw [hnoise]
    rfl
  obtain ⟨v, hline, hle⟩ := h
  obtain ⟨v', hline', hle'⟩ := h'
  rw [hexact, abs_nonpos_iff, sub_eq_zero] at hle hle'
  rw [← orGetTime_period hperiod hsame] at hline'
  rw [hle, hle']
  exact hline.unique hmono hline'

/-- **A sensor holds a reading over its sampling period**: two fetches in one period read the
same. -/
def HoldsPeriod {D R : Type} (cfg : OrCommonParams) (supported : List SensorChannel)
    (reading : D → R) (steps : List (Transition (Int × D) (SensorChannel × Nat))) : Prop :=
  ∀ t ∈ steps, ∀ t' ∈ steps, t.input.1 ∈ supported → t'.input.1 ∈ supported →
    t.input.2 / cfg.sampling_period_us = t'.input.2 / cfg.sampling_period_us →
    reading t.after.2 = reading t'.after.2

/-- A run that plays the flight back does, where what shows one period is one reading. -/
theorem Played.holdsPeriod {D R : Type} {supported : List SensorChannel} {shows : Nat → D → Prop}
    {l : List (SensorChannel × Nat)} {steps : List (Transition (Int × D) (SensorChannel × Nat))}
    {r : D → R} (h : Played cfg.broken supported shows l steps) (hbroken : cfg.broken = false)
    (hone : ∀ us us' d d', us / cfg.sampling_period_us = us' / cfg.sampling_period_us →
      shows us d → shows us' d' → r d = r d') : HoldsPeriod cfg supported r steps := by
  intro t ht t' ht' hchan hchan' hsame
  exact hone _ _ _ _ hsame (h.fetched t ht hbroken hchan).2 (h.fetched t' ht' hbroken hchan').2

end Readings

/-- A sensor that works, and has a sampling period. -/
structure OrCommonParams.Samples (cfg : OrCommonParams) : Prop where
  broken : cfg.broken = false
  period : cfg.sampling_period_us ≠ 0

/-- **Within a sampling period a sensor shows one reading**, whatever it is asked in between, where
there is no noise and the packets have different times. -/
theorem period_held {config : OrConfig} {packets : OrPackets} {barom : OrBaromConfig}
    {magn : OrMagnetometerConfig} {imu : OrImuDevice}
    (hnoise : config.CONFIG_OPENROCKET_NOISE = false)
    (hmono : ∀ i j, i < j → j < packets.table.or_packets_size →
      packets.table.time_s i < packets.table.time_s j)
    (hbarom : barom.sensor_cfg.Samples) (hmagn : magn.sensor_cfg.Samples)
    (himu : imu.sensor_cfg.Samples) (rand_state : UInt32) (l : List (SensorChannel × Nat)) :
    HoldsPeriod barom.sensor_cfg baromChannels
        (fun data : OrBaromData => (data.pressure, data.temperature))
        (fetches (orBaromSampleFetch config barom packets) (.init rand_state) l) ∧
      HoldsPeriod magn.sensor_cfg magnChannels
        (fun data : OrMagnetometerData => (data.magn_x, data.magn_y, data.magn_z))
        (fetches (orMagnSampleFetch config magn packets) (.init rand_state) l) ∧
      HoldsPeriod imu.sensor_cfg imuChannels OrImuState.measured
        (fetches (orImuSampleFetch config imu packets) (.init rand_state) l) := by
  have hfirst : packets.table.time_s 0 < packets.table.time_s 1 :=
    hmono 0 1 Nat.one_pos packets.table.two_le
  refine ⟨?_, ?_, ?_⟩
  · refine (barom_played hfirst barom rand_state l).holdsPeriod hbarom.broken ?_
    intro us us' d d' hsame h h'
    have hp := h.pressure.eq_of_period hnoise hmono hbarom.period hsame h'.pressure
    have ht := h.temperature.eq_of_period hnoise hmono hbarom.period hsame h'.temperature
    rw [hp, ht]
  · refine (magn_played hfirst magn rand_state l).holdsPeriod hmagn.broken ?_
    intro us us' d d' hsame h h'
    have hx := h.magn_x.eq_of_period hnoise hmono hmagn.period hsame h'.magn_x
    have hy := h.magn_y.eq_of_period hnoise hmono hmagn.period hsame h'.magn_y
    have hz := h.magn_z.eq_of_period hnoise hmono hmagn.period hsame h'.magn_z
    rw [hx, hy, hz]
  · refine (imu_played hfirst imu rand_state l).holdsPeriod himu.broken ?_
    rintro us us' d d' hsame ⟨⟨v, a, r, p, y⟩, h, hmap⟩ ⟨⟨v', a', r', p', y'⟩, h', hmap'⟩
    have hv : v = v' := h.vert_accel.eq_of_period hnoise hmono himu.period hsame h'.vert_accel
    have ha : a = a' := h.lat_accel.eq_of_period hnoise hmono himu.period hsame h'.lat_accel
    have hr : r = r' := h.roll.eq_of_period hnoise hmono himu.period hsame h'.roll
    have hp : p = p' := h.pitch.eq_of_period hnoise hmono himu.period hsame h'.pitch
    have hy : y = y' := h.yaw.eq_of_period hnoise hmono himu.period hsame h'.yaw
    rw [hmap, hmap', hv, ha, hr, hp, hy]

theorem period_held_climb :
    HoldsPeriod tenthSecond baromChannels
        (fun data : OrBaromData => (data.pressure, data.temperature))
        (fetches (orBaromSampleFetch quietConfig climbBarom climb) (.init 7) climbFetches) ∧
      HoldsPeriod tenthSecond magnChannels
        (fun data : OrMagnetometerData => (data.magn_x, data.magn_y, data.magn_z))
        (fetches (orMagnSampleFetch quietConfig climbMagn climb) (.init 7) climbFetches) ∧
      HoldsPeriod tenthSecond imuChannels OrImuState.measured
        (fetches (orImuSampleFetch quietConfig climbImu climb) (.init 7) climbFetches) :=
  have hsamples : tenthSecond.Samples := ⟨rfl, by decide⟩
  period_held rfl climb_mono hsamples hsamples hsamples 7 climbFetches

end Backplane.OpenRocket
