import Backplane.SensorModule.Submissions

/-!
# Which accelerometer a boost is attributed to

`CSensingTenant` (`app/backplane/sensor_module/src/c_sensing_tenant.cpp`) on the flight board
(`boards/sensor_module.overlay`): the aliases, the tenant's members, the fields of the data they
fill, and the source that `HandleBoost` submits for. The first accelerometer `HandleBoost` looks at
is `imu`, the low-g part; it submits for `HighGImu`, which `sourceNames` calls the ADXL375.

A step takes what every device answers: whether `UpdateSensorValue` succeeded, and what
`GetSensorValueFloat` then returns. No assumption is made on the uptimes; the debouncers see them
in 32 bits.

Results:
* `boostInv_run`: the boost detectors before boost, for any uptimes.
* `trips_iff_sawBoost`: with uptimes in order that fit 32 bits, a debouncer is satisfied exactly
  when its device saw boost.
* `onset_highGImu_iff`: `HighGImu` is recorded for boost by the step in which the LSM6DSL is the
  first to satisfy its debouncer.
* `attributed_iff`: the record is preceded by the ADXL375 seeing boost exactly when that step is.
* `attributed_fails`: a boost that the LSM6DSL alone sees.
-/

namespace Backplane.SensorModule

open Backplane.Run
open Backplane.Flight
open Backplane.Utils

/-! ## The board -/

/-- The devices of the board that the detection reads. -/
inductive Device
  | ms5611 | bmp388 | lsm6dsl | adxl375
  deriving DecidableEq

/-- `DT_ALIAS`. -/
inductive Alias
  | primaryBarometer | secondaryBarometer | imu | accelerometer

/-- `aliases` of `sensor_module.overlay`. -/
def aliases : Alias → Device
  | .primaryBarometer => .ms5611
  | .secondaryBarometer => .bmp388
  | .imu => .lsm6dsl
  | .accelerometer => .adxl375

/-- The channels the tenant gets. -/
inductive SensorChannel
  | accelX | accelY | accelZ | press | ambientTemp

/-- What a device answers in one `Run`. -/
structure SensorReading (R : Type) where
  /-- The result of `UpdateSensorValue`. -/
  updated : Bool
  /-- `GetSensorValueFloat`. -/
  valueFloat : SensorChannel → R

/-- The sensor members of `CSensingTenant` that the detection needs. -/
structure CSensingTenant where
  imuAccelerometer : Device
  primaryBarometer : Device
  secondaryBarometer : Device
  accelerometer : Device

/-- The constructor's initialisers. -/
def CSensingTenant.new (dtAlias : Alias → Device) : CSensingTenant :=
  { imuAccelerometer := dtAlias .imu
    primaryBarometer := dtAlias .primaryBarometer
    secondaryBarometer := dtAlias .secondaryBarometer
    accelerometer := dtAlias .accelerometer }

section Defs

variable {R D : Type}

/-- The acceleration a device answers. -/
def SensorReading.acceleration (r : SensorReading R) : AccelerometerData R :=
  { x := r.valueFloat .accelX, y := r.valueFloat .accelY, z := r.valueFloat .accelZ }

/-- The pressure and the temperature a device answers. -/
def SensorReading.barometer (r : SensorReading R) : BarometerData R :=
  { pressure := r.valueFloat .press, temperature := r.valueFloat .ambientTemp }

/-- `data` of `Run`. -/
def CSensingTenant.data (t : CSensingTenant) (readings : Device → SensorReading R) :
    SensorData R :=
  { acceleration := (readings t.accelerometer).acceleration
    imuAcceleration := (readings t.imuAccelerometer).acceleration
    primaryBarometer := (readings t.primaryBarometer).barometer
    secondaryBarometer := (readings t.secondaryBarometer).barometer }

/-- `sensor_states` of `Run`. -/
def CSensingTenant.sensorStates (t : CSensingTenant) (readings : Device → SensorReading R) :
    SensorWorkings :=
  { primaryAccOk := (readings t.imuAccelerometer).updated
    primaryBarometerOk := (readings t.primaryBarometer).updated
    secondaryBarometerOk := (readings t.secondaryBarometer).updated
    secondaryAccOk := (readings t.accelerometer).updated }

/-- A step of the board: a `Run` of the tenant, or the expiry of a timer. -/
inductive BoardStep (R : Type)
  | run (uptime : UInt64) (readings : Device → SensorReading R)
  | expiry (now : Nat) (i : Fin numTimerEvents)

/-- The uptime (ms) of a step. -/
def BoardStep.time : BoardStep R → Nat
  | .run uptime _ => uptime.toNat
  | .expiry now _ => now

/-- The step the handler sees. -/
def CSensingTenant.toStep (t : CSensingTenant) : BoardStep R → Step R
  | .run uptime readings => .run uptime (t.data readings) (t.sensorStates readings)
  | .expiry now i => .expiry now i

/-- One step on the flight board. -/
def boardStep [CDouble D] [CFloat R D] (h : CDetectionHandler D) (a : BoardStep R) :
    CDetectionHandler D :=
  sensorStep h ((CSensingTenant.new aliases).toStep a)

/-- The device behind the first and the second accelerometer of `HandleBoost`. -/
def Side.device : Side → Device
  | .primary => .lsm6dsl
  | .secondary => .adxl375

/-- The readings of `steps`. -/
def readingsOf (steps : List (BoardStep R)) : List (UInt64 × (Device → SensorReading R)) :=
  steps.filterMap fun
    | .run uptime readings => some (uptime, readings)
    | .expiry _ _ => none

variable [CDouble D] [CFloat R D]

/-- The device exceeds the squared threshold in this call. -/
def Device.Exceeds (d : Device) (call : UInt64 × (Device → SensorReading R)) : Prop :=
  boostThresholdMPerS2 * boostThresholdMPerS2 < squaredMagnitude (call.2 d).acceleration

instance (d : Device) (call : UInt64 × (Device → SensorReading R)) : Decidable (d.Exceeds call) :=
  decidableLTOfCDouble _ _

/-- The stamps, in 32 bits, of the calls since the device last did not exceed. -/
def Device.stamps (d : Device) (steps : List (BoardStep R)) : List UInt32 :=
  ((readingsOf steps).rtakeWhile fun call => d.Exceeds call).map fun call => call.1.toUInt32

/-- Step `k` is a `Run` in which the device works and its debouncer is satisfied: of the stamps
since it last did not exceed, the last is more than 250 ms after the first that is not the
sentinel. -/
def Device.Trips (d : Device) (steps : List (BoardStep R)) (k : Nat) : Prop :=
  ∃ uptime readings, steps[k]? = some (.run uptime readings) ∧ (readings d).updated = true ∧
    ∃ first last, (d.stamps (steps.take (k + 1))).find? (· != NOT_PASSED) = some first ∧
      (d.stamps (steps.take (k + 1))).getLast? = some last ∧ last ≠ NOT_PASSED ∧
      boostTimeThreshold < last - first

/-- The device trips in step `k`, before which neither accelerometer has. -/
def Device.FirstTrips (d : Device) (steps : List (BoardStep R)) (k : Nat) : Prop :=
  d.Trips steps k ∧ ∀ j < k, ∀ side : Side, ¬ side.device.Trips steps j

/-- The device saw boost in step `k`: it works, and has exceeded the threshold in every call of a
span of more than 250 ms. -/
def Device.SawBoost (d : Device) (steps : List (BoardStep R)) (k : Nat) : Prop :=
  ∃ uptime readings, steps[k]? = some (.run uptime readings) ∧ (readings d).updated = true ∧
    ∃ pre first span, readingsOf (steps.take (k + 1)) = pre ++ first :: span ∧
      (∀ call ∈ first :: span, d.Exceeds call) ∧ first.1.toNat + 250 < uptime.toNat

/-- The same, where the device worked in every call of the span. -/
def Device.SawBoostWorking (d : Device) (steps : List (BoardStep R)) (k : Nat) : Prop :=
  ∃ uptime readings, steps[k]? = some (.run uptime readings) ∧
    ∃ pre first span, readingsOf (steps.take (k + 1)) = pre ++ first :: span ∧
      (∀ call ∈ first :: span, (call.2 d).updated = true ∧ d.Exceeds call) ∧
      first.1.toNat + 250 < uptime.toNat

/-- `sourceStates[Boost][HighGImu]`. -/
def HighGImuRecorded (h : CDetectionHandler D) : Prop :=
  h.controller.sourceStates .boost .highGImu = true

variable (D) in
/-- **Boost is attributed to the accelerometer that saw it**: wherever `HighGImu` is recorded, a
step before that satisfies `saw`. -/
def Attributed (steps : List (BoardStep R))
    (saw : List (BoardStep R) → Nat → Prop) : Prop :=
  ∀ k, HighGImuRecorded (stateAt boardStep (initialHandler : CDetectionHandler D) steps k) →
    ∃ j < k, saw steps j

end Defs

variable {R D : Type} [CDouble D] [CFloat R D]

/-! ## The boost detectors before boost -/

/-- What a call feeds to the debouncer behind a device. -/
def Device.sample (d : Device) (call : UInt64 × (Device → SensorReading R)) : UInt32 × D :=
  (call.1.toUInt32, squaredMagnitude (call.2 d).acceleration)

omit [CDouble D] [CFloat R D] in
/-- **The crossing on the board**: the accelerometers of the handler are these devices. -/
theorem side_acceleration (side : Side) (readings : Device → SensorReading R) :
    side.acceleration ((CSensingTenant.new aliases).data readings) =
        (readings side.device).acceleration ∧
      side.accOk ((CSensingTenant.new aliases).sensorStates readings) =
        (readings side.device).updated := by
  cases side <;> exact ⟨rfl, rfl⟩

/-- Before boost the boost detectors have been fed the samples of `steps`, and nothing else has
occured. -/
structure BoostInv (steps : List (BoardStep R)) (h : CDetectionHandler D) : Prop where
  reachable : Reachable config h.controller
  boostFirst : ∀ e, h.Occured e → h.Occured .boost
  running : ∀ i since, (h.controller.timers i).running = some since → h.Occured .boost
  detectors : ¬ h.Occured .boost → ∀ side, h.boostDetector side =
    (initialHandler.boostDetector side).feedAll ((readingsOf steps).map side.device.sample)

section Step

variable {steps : List (BoardStep R)} {h : CDetectionHandler D}

theorem BoostInv.handled (hinv : BoostInv steps h) (hb : ¬ h.Occured .boost) (uptime : UInt64)
    (data : SensorData R) (w : SensorWorkings) :
    sensorStep h (.run uptime data w) = h.handleData uptime data w := by
  have hground : h.hasEventOccured .groundHit = false :=
    Bool.eq_false_of_not_eq_true fun hg => hb (hinv.boostFirst _ hg)
  unfold sensorStep CDetectionHandler.sensingRun CDetectionHandler.continueCollecting
  simp only [hground, Bool.not_false, Bool.not_true, Bool.false_eq_true, if_false]

theorem BoostInv.running_step (hinv : BoostInv steps h) {a : Step R} {i : Fin numTimerEvents}
    {since : Nat} (hr : ((sensorStep h a).controller.timers i).running = some since) :
    (sensorStep h a).Occured .boost := by
  have hold : (h.controller.timers i).running = some since → (sensorStep h a).Occured .boost :=
    fun hrun => sensorStep_occured h a (hinv.running i since hrun)
  cases a with
  | run uptime data w =>
    rcases sensorStep_run h uptime data w with ⟨-, heq⟩ | hby
    · rw [heq] at hr
      exact hold hr
    · rcases hby.submits.running hr with hrun | ⟨-, -, ha⟩
      · exact hold hrun
      · rwa [start_eq_boost] at ha
  | expiry now j =>
    have hexpiry : ((timerExpiry config h.controller now j).timers i).running = some since := hr
    rcases timerExpiry_running hexpiry with hrun | ⟨-, -, ha⟩
    · exact hold hrun
    · rwa [start_eq_boost] at ha

/-- **Every step on the board keeps it.** -/
theorem boostInv_step (hinv : BoostInv steps h) (a : BoardStep R) :
    BoostInv (steps ++ [a]) (boardStep h a) := by
  refine ⟨sensorStep_reachable _ hinv.reachable,
    fun _ he => boost_occured_step hinv.boostFirst hinv.running he,
    fun _ _ hr => hinv.running_step hr, fun hnot side => ?_⟩
  have hb : ¬ h.Occured .boost := fun hb => hnot (sensorStep_occured h _ hb)
  cases a with
  | run uptime readings =>
    show (sensorStep h (.run uptime _ _)).boostDetector side = _
    rw [hinv.handled hb, (handleData_spec h uptime _ _).boostDetector hb side,
      hinv.detectors hb side, ← feedAll_snoc, (side_acceleration side readings).1]
    simp [readingsOf, Device.sample]
  | expiry now i =>
    have hsame : readingsOf (steps ++ [.expiry now i]) = readingsOf steps := by
      simp [readingsOf]
    rw [hsame]
    exact hinv.detectors hb side

end Step

theorem boostInv_initial : BoostInv ([] : List (BoardStep R)) (initialHandler (D := D)) where
  reachable := ⟨[], rfl⟩
  boostFirst _ h := absurd h Bool.false_ne_true
  running _ _ h := by cases h
  detectors _ _ := rfl

/-- **It holds after any steps.** -/
theorem boostInv_run (steps : List (BoardStep R)) :
    BoostInv steps (run boardStep (initialHandler : CDetectionHandler D) steps) :=
  run_induction (motive := fun l h => BoostInv l h) boostInv_initial
    (fun _ a hinv => boostInv_step hinv a) steps

/-! ## Trips -/

/-- **A device trips** iff it works and its debouncer passes on the samples so far. -/
theorem trips_iff (side : Side) (steps : List (BoardStep R)) (k : Nat) :
    side.device.Trips steps k ↔ ∃ uptime readings, steps[k]? = some (.run uptime readings) ∧
      (readings side.device).updated = true ∧
        (((initialHandler : CDetectionHandler D).boostDetector side).feedAll
          ((readingsOf (steps.take (k + 1))).map side.device.sample)).passed = true := by
  obtain ⟨hfresh, hduration, hpasses⟩ := initial_boostDetector (D := D) side
  have hstamps : (((initialHandler : CDetectionHandler D).boostDetector side).passing
      ((readingsOf (steps.take (k + 1))).map side.device.sample)).map Prod.fst =
        side.device.stamps (steps.take (k + 1)) := by
    have hexceeds : (fun x : UInt32 × D =>
        ((initialHandler : CDetectionHandler D).boostDetector side).passesOne x.2) ∘
          (side.device.sample : UInt64 × (Device → SensorReading R) → UInt32 × D) =
        fun call => decide (side.device.Exceeds call) := by
      funext call
      rw [Bool.eq_iff_iff, Function.comp_apply, hpasses, decide_eq_true_iff]
      rfl
    unfold CDebouncer.passing Device.stamps List.rtakeWhile
    rw [← List.map_reverse, List.takeWhile_map, ← List.map_reverse, List.map_map, hexceeds]
    rfl
  unfold Device.Trips
  simp only [passed_feedAll_iff hfresh, hstamps, hduration]
  rfl

omit [CDouble D] [CFloat R D] in
theorem mem_of_mem_readingsOf {steps : List (BoardStep R)}
    {call : UInt64 × (Device → SensorReading R)} (h : call ∈ readingsOf steps) :
    .run call.1 call.2 ∈ steps := by
  obtain ⟨a, ha, heq⟩ := List.mem_filterMap.mp h
  cases a with
  | run uptime readings =>
    cases heq
    exact ha
  | expiry now i => cases heq

omit [CDouble D] [CFloat R D] in
theorem readingsOf_pairwise {steps : List (BoardStep R)}
    (hclock : steps.Pairwise fun a b => a.time ≤ b.time) :
    (readingsOf steps).Pairwise fun x y => x.1.toNat ≤ y.1.toNat := by
  refine List.pairwise_filterMap.mpr (hclock.imp ?_)
  intro a b hab x hx y hy
  cases a <;> cases b <;> cases hx <;> cases hy
  exact hab

/-- **With uptimes in order that fit 32 bits**, a device trips exactly when it sees boost. -/
theorem trips_iff_sawBoost {steps : List (BoardStep R)}
    (hclock : steps.Pairwise fun a b => a.time ≤ b.time)
    (hfits : ∀ uptime readings, .run uptime readings ∈ steps → uptime.toNat < 2 ^ 32 - 1)
    (side : Side) (k : Nat) : side.device.Trips steps k ↔ side.device.SawBoost steps k := by
  obtain ⟨hfresh, hduration, hpasses⟩ := initial_boostDetector (D := D) side
  rw [trips_iff (D := D)]
  unfold Device.SawBoost
  refine exists_congr fun uptime => exists_congr fun readings => and_congr_right fun hk =>
    and_congr_right fun _ => ?_
  have hend : (readingsOf (steps.take (k + 1))).getLast? = some (uptime, readings) := by
    obtain ⟨hlt, hget⟩ := List.getElem?_eq_some_iff.mp hk
    rw [List.take_succ_eq_append_getElem hlt, hget]
    simp [readingsOf]
  have hcalls := passed_calls_iff hfresh
    (fun call => rfl : ∀ call, (side.device.sample call).1 = call.1.toUInt32)
    (fun call hcall => hfits call.1 call.2 (List.mem_of_mem_take (mem_of_mem_readingsOf hcall)))
    (readingsOf_pairwise (hclock.sublist (List.take_sublist (k + 1) steps))) hend
  refine hcalls.trans (exists_congr fun pre => exists_congr fun first => exists_congr fun span =>
    and_congr_right fun _ => and_congr ?_ ?_)
  · exact forall_congr' fun call => forall_congr' fun _ => hpasses _
  · rw [hduration]
    rfl

/-! ## The first trip -/

omit [CDouble D] [CFloat R D] in
/-- A call submits boost for `HighGImu` on the first accelerometer only. -/
theorem justified_highGImu {h h' : CDetectionHandler D} {w : SensorWorkings}
    (hjust : Justified h w h' (.highGImu, .boost)) : ¬ h.Occured .boost ∧
      w.primaryAccOk = true ∧ (h'.boostDetector .primary).passed = true := by
  generalize hx : (Sources.highGImu, Events.boost) = x at hjust
  cases hjust with
  | boost side fresh ok passed =>
    cases side with
    | primary => exact ⟨fresh, ok, passed⟩
    | secondary => cases hx
  | noseover =>
    have hevent : Events.boost = .noseover := congrArg Prod.snd hx
    cases hevent
  | groundHit =>
    have hevent : Events.boost = .groundHit := congrArg Prod.snd hx
    cases hevent

variable (D) in
/-- The handler before step `k`. -/
abbrev boardAt (steps : List (BoardStep R)) (k : Nat) : CDetectionHandler D :=
  stateAt boardStep initialHandler steps k

section FirstTrip

variable {steps : List (BoardStep R)} {k : Nat}

/-- Before boost, a trip is what `HandleBoost` finds. -/
theorem trips_iff_fed (hb : ¬ (boardAt D steps k).Occured .boost) {uptime : UInt64}
    {readings : Device → SensorReading R} (hk : steps[k]? = some (.run uptime readings))
    (side : Side) :
    side.device.Trips steps k ↔ (readings side.device).updated = true ∧
      ((boardAt D steps k).boostFed uptime ((CSensingTenant.new aliases).data readings)
        side).passed = true := by
  obtain ⟨hlt, hget⟩ := List.getElem?_eq_some_iff.mp hk
  have hfed : ((initialHandler : CDetectionHandler D).boostDetector side).feedAll
      ((readingsOf (steps.take (k + 1))).map side.device.sample) =
        (boardAt D steps k).boostFed uptime ((CSensingTenant.new aliases).data readings) side := by
    have hdetectors := (boostInv_run (steps.take k)).detectors hb side
    unfold CDetectionHandler.boostFed
    rw [(side_acceleration side readings).1]
    show _ = ((run boardStep initialHandler (steps.take k)).boostDetector side).feed _ _
    rw [hdetectors, ← feedAll_snoc, List.take_succ_eq_append_getElem hlt, hget]
    simp [readingsOf, Device.sample]
  rw [trips_iff (D := D), hfed]
  constructor
  · rintro ⟨uptime', readings', hk', hok, hpassed⟩
    cases hk.symm.trans hk'
    exact ⟨hok, hpassed⟩
  · rintro ⟨hok, hpassed⟩
    exact ⟨uptime, readings, hk, hok, hpassed⟩

/-- A trip before boost is recorded for its source. -/
theorem recorded_of_trips (hb : ¬ (boardAt D steps k).Occured .boost) (side : Side)
    (ht : side.device.Trips steps k) :
    (boardAt D steps (k + 1)).controller.sourceStates .boost side.acc = true := by
  obtain ⟨uptime, readings, hk, -⟩ := id ht
  obtain ⟨hok, hpassed⟩ := (trips_iff_fed hb hk side).mp ht
  have hinv : BoostInv (steps.take k) (boardAt D steps k) := boostInv_run (steps.take k)
  have hmem : (side.acc, .boost) ∈ (boardAt D steps k).handleDataSubmissions uptime
      ((CSensingTenant.new aliases).data readings)
      ((CSensingTenant.new aliases).sensorStates readings) := by
    have hfresh : (boardAt D steps k).hasEventOccured .boost = false :=
      Bool.eq_false_of_not_eq_true hb
    unfold CDetectionHandler.handleDataSubmissions
    rw [hfresh]
    refine List.mem_append_left _ ((mem_boostSubmissions ..).mpr ⟨side, rfl, ?_, ?_⟩)
    · unfold CDetectionHandler.boostFed at hpassed ⊢
      rwa [feedVelocity_boostDetector]
    · rwa [(side_acceleration side readings).2]
  rw [boardAt, stateAt_succ hk]
  show (sensorStep (boardAt D steps k) (.run uptime _ _)).controller.sourceStates _ _ = true
  rw [hinv.handled hb, handleData_submissions]
  exact (submitted_recorded_iff ..).mpr (Or.inr hmem)

/-- `HighGImu` is recorded for boost by a step in which the first device trips. -/
theorem trips_of_recorded (hb : ¬ HighGImuRecorded (boardAt D steps k))
    (hr : HighGImuRecorded (boardAt D steps (k + 1))) :
    ¬ (boardAt D steps k).Occured .boost ∧ Device.lsm6dsl.Trips steps k := by
  have hinv : BoostInv (steps.take k) (boardAt D steps k) := boostInv_run (steps.take k)
  cases hk : steps[k]? with
  | none =>
    rw [boardAt, stateAt_succ_of_none hk] at hr
    exact absurd hr hb
  | some a =>
    rw [boardAt, stateAt_succ hk] at hr
    cases a with
    | run uptime readings =>
      rcases sensorStep_run (boardAt D steps k) uptime ((CSensingTenant.new aliases).data readings)
        ((CSensingTenant.new aliases).sensorStates readings) with ⟨-, heq⟩ | hby
      · exact absurd (heq ▸ hr : HighGImuRecorded (boardAt D steps k)) hb
      · rcases hby.submits.recorded hr with hold | hjust
        · exact absurd hold hb
        · obtain ⟨hfresh, hok, hpassed⟩ := justified_highGImu hjust
          rw [hby.boostDetector hfresh] at hpassed
          exact ⟨hfresh, (trips_iff_fed hfresh hk .primary).mpr ⟨hok, hpassed⟩⟩
    | expiry now i =>
      -- no slot of the timers has this source
      have hexpiry : (timerExpiry config (boardAt D steps k).controller now i).sourceStates
          .boost .highGImu = true := hr
      unfold timerExpiry at hexpiry
      split at hexpiry
      · rcases submitEvent_recorded_iff.mp hexpiry with hold | hslot
        · exact absurd hold hb
        · fin_cases i <;> cases hslot
      · exact absurd hexpiry hb

/-- **A trip before boost dispatches it**, and nothing else does. -/
theorem boost_occured_iff :
    (boardAt D steps k).Occured .boost ↔ ∃ j < k, ∃ side : Side, side.device.Trips steps j := by
  constructor
  · intro hocc
    have hstart : ¬ (initialHandler : CDetectionHandler D).Occured .boost := Bool.false_ne_true
    obtain ⟨j, a, hj, hon⟩ :=
      exists_onset (P := fun h : CDetectionHandler D => h.Occured .boost) hstart hocc
    have hinv : BoostInv (steps.take j) (boardAt D steps j) := boostInv_run (steps.take j)
    have hafter : (boardAt D steps (j + 1)).Occured .boost := hon.after
    rw [boardAt, stateAt_succ hon.input] at hafter
    cases a with
    | run uptime readings =>
      cases cause_of_newly hinv.running hon.before hafter with
      | boost _ _ _ side ok passed =>
        have hstep : sensorStep (boardAt D steps j)
            ((CSensingTenant.new aliases).toStep (.run uptime readings)) = _ :=
          hinv.handled hon.before uptime _ _
        rw [hstep, (handleData_spec _ uptime _ _).boostDetector hon.before] at passed
        rw [(side_acceleration side readings).2] at ok
        exact ⟨j, hj, side, (trips_iff_fed hon.before hon.input side).mpr ⟨ok, passed⟩⟩
    | expiry now i => cases cause_of_newly hinv.running hon.before hafter
  · rintro ⟨j, hj, side, ht⟩
    have hmono : ∀ (h : CDetectionHandler D) (a : BoardStep R), h.Occured .boost →
        (boardStep h a).Occured .boost := fun h a => sensorStep_occured h _
    by_cases hb : (boardAt D steps j).Occured .boost
    · exact stateAt_mono hmono hb (Nat.le_of_lt hj)
    · have hinv : BoostInv (steps.take (j + 1)) (boardAt D steps (j + 1)) :=
        boostInv_run (steps.take (j + 1))
      refine stateAt_mono hmono ?_ (Nat.succ_le_of_lt hj)
      show (boardAt D steps (j + 1)).controller.eventStates .boost = true
      rw [hinv.reachable.decided monotoneDeciders]
      have hrec := recorded_of_trips hb _ ht
      cases side <;> simp only [config, deciders, Side.acc] at hrec ⊢ <;> simp [hrec]

/-- What is recorded stays recorded. -/
theorem highGImu_step (h : CDetectionHandler D) (a : BoardStep R) (hr : HighGImuRecorded h) :
    HighGImuRecorded (boardStep h a) := by
  cases a with
  | run uptime readings =>
    show (h.sensingRun uptime _ _).controller.sourceStates .boost .highGImu = true
    unfold CDetectionHandler.sensingRun
    split
    · exact hr
    · rw [handleData_submissions]
      exact (submitted_recorded_iff ..).mpr (Or.inl hr)
  | expiry now i =>
    show (timerExpiry config h.controller now i).sourceStates .boost .highGImu = true
    unfold timerExpiry
    split
    · exact submitEvent_recorded_iff.mpr (Or.inl hr)
    · exact hr

/-- **`HighGImu` is recorded for boost** by the step in which the first device, the LSM6DSL, is the
first to trip. -/
theorem onset_highGImu_iff :
    (∃ a, Onset boardStep (initialHandler : CDetectionHandler D) HighGImuRecorded steps k a) ↔
      Device.lsm6dsl.FirstTrips steps k := by
  constructor
  · rintro ⟨a, hon⟩
    obtain ⟨hfresh, ht⟩ := trips_of_recorded hon.before hon.after
    exact ⟨ht, fun j hj side hj' => hfresh (boost_occured_iff.mpr ⟨j, hj, side, hj'⟩)⟩
  · rintro ⟨ht, hfirst⟩
    have hfresh : ¬ (boardAt D steps k).Occured .boost := by
      intro hocc
      obtain ⟨j, hj, side, hj'⟩ := boost_occured_iff.mp hocc
      exact hfirst j hj side hj'
    obtain ⟨uptime, readings, hk, -⟩ := id ht
    refine ⟨_, hk, fun hr => hfresh ?_, recorded_of_trips hfresh .primary ht⟩
    have hinv : BoostInv (steps.take k) (boardAt D steps k) := boostInv_run (steps.take k)
    show (boardAt D steps k).controller.eventStates .boost = true
    rw [hinv.reachable.decided monotoneDeciders]
    have hrec : (boardAt D steps k).controller.sourceStates .boost .highGImu = true := hr
    simp [config, deciders, hrec]

end FirstTrip

/-! ## Attribution -/

/-- **When the high-g accelerometer is behind its record.** Every record of `HighGImu` for boost is
preceded by the ADXL375 seeing boost exactly when the LSM6DSL, where it is the first to trip, does
not trip before the ADXL375 has seen boost. So too if the ADXL375 must work all along. -/
theorem attributed_iff (D : Type) [CDouble D] [CFloat R D] (steps : List (BoardStep R)) :
    (Attributed D steps Device.adxl375.SawBoost ↔
      ∀ k, Device.lsm6dsl.FirstTrips steps k → ∃ j ≤ k, Device.adxl375.SawBoost steps j) ∧
    (Attributed D steps Device.adxl375.SawBoostWorking ↔
      ∀ k, Device.lsm6dsl.FirstTrips steps k →
        ∃ j ≤ k, Device.adxl375.SawBoostWorking steps j) := by
  have hiff : ∀ saw : List (BoardStep R) → Nat → Prop, Attributed D steps saw ↔
      ∀ k, Device.lsm6dsl.FirstTrips steps k → ∃ j ≤ k, saw steps j := by
    intro saw
    have hstart : ¬ HighGImuRecorded (initialHandler : CDetectionHandler D) :=
      Bool.false_ne_true
    refine (preceded_iff highGImu_step hstart).trans (forall_congr' fun k => ?_)
    rw [← onset_highGImu_iff (D := D), exists_imp]
  exact ⟨hiff _, hiff _⟩

/-- Boost as the low-g accelerometer sees it: 60 m/s² for 251 ms. The high-g one reads nothing. -/
def lowGBoost : List (BoardStep Rat) :=
  let readings (d : Device) : SensorReading Rat :=
    { updated := true
      valueFloat := fun
        | .accelZ => if d = .lsm6dsl then 60 else 0
        | .press => 101.325
        | _ => 0 }
  [.run 0 readings, .run 251 readings]

/-- **The readings of the low-g accelerometer alone** record boost for the high-g one. -/
theorem attributed_fails :
    ¬ ∀ steps : List (BoardStep Rat), Attributed Rat steps Device.adxl375.SawBoost := by
  intro h
  have hrec : HighGImuRecorded (boardAt Rat lowGBoost 2) :=
    show (boardAt Rat lowGBoost 2).controller.sourceStates .boost .highGImu = true by
      decide +kernel
  have hquiet : ∀ call ∈ readingsOf lowGBoost, ¬ Device.adxl375.Exceeds call := by
    decide +kernel
  obtain ⟨j, hj, uptime, readings, hk, -, pre, first, span, hcalls, hall, -⟩ :=
    h lowGBoost 2 hrec
  have hmem : first ∈ readingsOf (lowGBoost.take (j + 1)) := by
    rw [hcalls]
    simp
  exact hquiet first (((List.take_prefix _ _).filterMap _).subset hmem)
    (hall first (List.mem_cons_self ..))

end Backplane.SensorModule
