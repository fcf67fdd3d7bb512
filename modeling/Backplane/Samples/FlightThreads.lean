import Backplane.Flight.Preemption
import Backplane.Samples.FindLine
import Backplane.SensorModule.Detection

/-!
# The threads of the phase detection sample

Model of `app/samples/phase_detection/src/main.cpp`: `imu_thread_f`, `barom_thread_f` and `main`
with the controller they share, its timers and the two polling timers, in any interleaving. A move
ends after each access to what is shared; a call of the controller is one access
(`Flight.preempted_same_outcome` says why that is enough). A failed sensor read leaves the last
values, so the readings are any values.

Left out are the messages to the console and the two remarks that `barom_thread_f` writes to the
flight log itself.
-/

namespace Backplane.PhaseDetection

open Backplane.Run
open Backplane.Flight
open Backplane.Threads
open Backplane.Utils

/-- The sample computes in `double`, with a square root. -/
class CMath (D : Type) extends SensorModule.CDouble D where
  sqrt : D → D

instance : CMath Float where
  sqrt := Float.sqrt

abbrev Controller := CPhaseController Events Sources numTimerEvents

/-! ## What the threads share -/

/-- A polling timer (`K_TIMER_DEFINE`): whether it runs, and its expiries since it was last
looked at. -/
structure PollTimer where
  running : Bool
  status : Nat
  deriving DecidableEq

/-- `k_timer_start`. -/
def PollTimer.start (_ : PollTimer) : PollTimer := { running := true, status := 0 }

/-- `k_timer_stop`. -/
def PollTimer.stop (t : PollTimer) : PollTimer := { t with running := false }

/-- `k_timer_status_sync` returns: the timer has expired, or is stopped. -/
def PollTimer.ready (t : PollTimer) : Bool := decide (0 < t.status) || !t.running

/-- The uptime (ms), the controller and the polling timers. -/
structure Shared where
  clock : Nat
  controller : Controller
  imu_timer : PollTimer
  barom_timer : PollTimer

/-- `SubmitEvent`, at the uptime. -/
def Shared.submit (s : Shared) (source : Sources) (event : Events) : Shared :=
  { s with controller := submitEvent config s.controller s.clock source event }

/-- `HasEventOccured`. -/
def Shared.hasEventOccured (s : Shared) (event : Events) : Bool :=
  s.controller.hasEventOccured event

/-- `WaitUntilEvent` returns: the bit of the event is set. -/
def Shared.eventPosted (s : Shared) (event : Events) : Bool :=
  s.controller.osEvents.getLsbD (CEnum.toFin event).val

/-- The uptime as `uint32_t`. -/
def Shared.timestamp (s : Shared) : UInt32 := UInt32.ofNat s.clock

/-! ## `imu_thread_f` -/

/-- What the IMU thread does next. -/
inductive ImuPc
  | submitReady | waitReady
  /-- The condition of the loop. -/
  | check
  | sync | read | checkBoost | submitBoost | checkCoast | submitCoast | done
  deriving DecidableEq

/-- The locals of `imu_thread_f`. -/
structure ImuThread (D : Type) where
  pc : ImuPc
  boost_detector : CDebouncer .over D
  coast_detector : CDebouncer .under D
  timestamp : UInt32
  mag : D

section Imu

variable {D : Type} [CMath D]

def imuStart : ImuThread D :=
  { pc := .submitReady
    boost_detector := { duration := 250, target_value := (50 : Nat) }
    coast_detector := { duration := 250, target_value := (35 : Nat) }
    timestamp := 0
    mag := (0 : Nat) }

/-- The body of `imu_thread_f`; `acc` is what the accelerometer reads. -/
def imuMove (acc : D × D × D) (s : Shared) (t : ImuThread D) : Option (Shared × ImuThread D) :=
  match t.pc with
  | .submitReady => some (s.submit .imu1 .padReady, { t with pc := .waitReady })
  | .waitReady => if s.eventPosted .padReady then some (s, { t with pc := .check }) else none
  | .check => some (s, { t with pc := if s.hasEventOccured .groundHit then .done else .sync })
  | .sync =>
    if s.imu_timer.ready then
      some ({ s with imu_timer := { s.imu_timer with status := 0 } }, { t with pc := .read })
    else none
  | .read =>
    let mag := CMath.sqrt (acc.1 * acc.1 + acc.2.1 * acc.2.1 + acc.2.2 * acc.2.2)
    some (s, { t with pc := .checkBoost, timestamp := s.timestamp, mag := mag })
  | .checkBoost =>
    if !s.hasEventOccured .boost then
      let boost_detector := t.boost_detector.feed t.timestamp t.mag
      some (s, { t with
        boost_detector := boost_detector
        coast_detector := t.coast_detector.feed t.timestamp t.mag
        pc := if boost_detector.passed then .submitBoost else .check })
    else some (s, { t with pc := .checkCoast })
  | .submitBoost => some (s.submit .imu1 .boost, { t with pc := .check })
  | .checkCoast =>
    if !s.hasEventOccured .coast then
      let coast_detector := t.coast_detector.feed t.timestamp t.mag
      some (s, { t with
        coast_detector := coast_detector
        pc := if coast_detector.passed then .submitCoast else .check })
    else some (s, { t with pc := .check })
  | .submitCoast => some (s.submit .imu1 .coast, { t with pc := .check })
  | .done => none

end Imu

/-! ## `barom_thread_f` -/

/-- What the barometer thread does next. `nosedOver`, `mainArmed` and `grounded` look at the event
that must have occured before a passed debouncer counts. -/
inductive BaromPc
  | submitReady | waitReady | measure
  /-- The condition of the loop. -/
  | check
  | sync | read | checkBoost | submitBoost
  | checkNoseover | nosedOver | submitNoseover
  | checkMain | mainArmed | submitMain
  | checkGround | grounded | submitGround
  | done
  deriving DecidableEq

def windowSize : Nat := 10

instance : NeZero windowSize := ⟨by decide⟩

/-- The locals of `barom_thread_f`. -/
structure BaromThread (D : Type) where
  pc : BaromPc
  velocity_summer : CRollingSum (LinearFitSample D) windowSize
  ground_level_avger : CMovingAverage D 100
  max_feet_agl : D
  boost_debouncer : CDebouncer .over D
  noseover_debouncer : CDebouncer .under D
  mainheight_debouncer : CDebouncer .under D
  no_vel_debouncer : CDebouncer .under D
  time_ms : UInt32
  feet : D
  velocity_ft_s : D
  feet_agl : D

section Barom

variable {D : Type} [CMath D]

/-- `rrc3_altitude_conversion_to_feet`. -/
def rrc3AltitudeConversionToFeet (P_sta_kpa : D) : D :=
  let standard_atmosphere_exponent : D := 0.190284
  let standard_atmosphere_factor : D := 145366.45
  let kpa_to_mbar : D := 10.0
  let sea_level_pressure_mbar : D := 1013.25
  let P_sta_mbar := P_sta_kpa * kpa_to_mbar
  (((1 : Nat) : D) -
    SensorModule.CDouble.pow (P_sta_mbar / sea_level_pressure_mbar) standard_atmosphere_exponent) *
      standard_atmosphere_factor

def baromStart : BaromThread D :=
  let zero : D := (0 : Nat)
  { pc := .submitReady
    velocity_summer := CRollingSum.new (.new zero zero)
    ground_level_avger := CMovingAverage.new zero
    max_feet_agl := zero
    boost_debouncer := { duration := 2000, target_value := (5 : Nat) }
    noseover_debouncer := { duration := 500, target_value := zero }
    mainheight_debouncer := { duration := 500, target_value := (500 : Nat) }
    no_vel_debouncer := { duration := 10 * 1000, target_value := (10 : Nat) }
    time_ms := 0
    feet := zero
    velocity_ft_s := zero
    feet_agl := zero }

/-- `line == bad_line`. -/
def Line.isBad (line : Line D) : Bool :=
  line.m == (badLine : Line D).m && line.b == (badLine : Line D).b

/-- The body of `barom_thread_f`; `press_kpa` is what the barometer reads. -/
def baromMove (press_kpa : D) (s : Shared) (t : BaromThread D) :
    Option (Shared × BaromThread D) :=
  match t.pc with
  | .submitReady => some (s.submit .barom1 .padReady, { t with pc := .waitReady })
  | .waitReady => if s.eventPosted .padReady then some (s, { t with pc := .measure }) else none
  | .measure =>
    let init_feet_asl := rrc3AltitudeConversionToFeet press_kpa
    some (s, { t with pc := .check, ground_level_avger := CMovingAverage.new init_feet_asl })
  | .check => some (s, { t with pc := if s.hasEventOccured .groundHit then .done else .sync })
  | .sync =>
    if s.barom_timer.ready then
      some ({ s with barom_timer := { s.barom_timer with status := 0 } }, { t with pc := .read })
    else none
  | .read =>
    let time_ms := s.timestamp
    let time_s : D := ((time_ms.toNat : Nat) : D) / 1000.0
    let feet := rrc3AltitudeConversionToFeet press_kpa
    let velocity_summer := t.velocity_summer.feed (.new time_s feet)
    let line := findLine velocity_summer
    let t := { t with velocity_summer := velocity_summer, time_ms := time_ms, feet := feet }
    -- Not enough samples, don't check
    if line.isBad then some (s, { t with pc := .check })
    else
      let feet_agl := feet - t.ground_level_avger.avg
      some (s, { t with
        pc := .checkBoost
        velocity_ft_s := line.m
        feet_agl := feet_agl
        max_feet_agl := if t.max_feet_agl < feet_agl then feet_agl else t.max_feet_agl })
  | .checkBoost =>
    if !s.hasEventOccured .boost then
      let boost_debouncer := t.boost_debouncer.feed t.time_ms t.velocity_ft_s
      some (s, { t with
        ground_level_avger := t.ground_level_avger.feed t.feet
        boost_debouncer := boost_debouncer
        pc := if boost_debouncer.passed then .submitBoost else .checkNoseover })
    else some (s, { t with pc := .checkNoseover })
  | .submitBoost => some (s.submit .barom1 .boost, { t with pc := .checkNoseover })
  | .checkNoseover =>
    if !s.hasEventOccured .noseover then
      some (s, { t with
        noseover_debouncer := t.noseover_debouncer.feed t.time_ms t.velocity_ft_s
        pc := .nosedOver })
    else some (s, { t with pc := .checkMain })
  | .nosedOver =>
    some (s, { t with
      pc := if s.hasEventOccured .boost && t.noseover_debouncer.passed then .submitNoseover
        else .checkMain })
  | .submitNoseover => some (s.submit .barom1 .noseover, { t with pc := .checkMain })
  | .checkMain =>
    if !s.hasEventOccured .mainChute then
      some (s, { t with
        mainheight_debouncer := t.mainheight_debouncer.feed t.time_ms t.feet_agl
        pc := .mainArmed })
    else some (s, { t with pc := .checkGround })
  | .mainArmed =>
    some (s, { t with
      pc := if s.hasEventOccured .noseover && t.mainheight_debouncer.passed then .submitMain
        else .checkGround })
  | .submitMain => some (s.submit .barom1 .mainChute, { t with pc := .checkGround })
  | .checkGround =>
    if !s.hasEventOccured .groundHit then
      some (s, { t with
        no_vel_debouncer := t.no_vel_debouncer.feed t.time_ms
          (SensorModule.CDouble.fabs t.velocity_ft_s)
        pc := .grounded })
    else some (s, { t with pc := .check })
  | .grounded =>
    some (s, { t with
      pc := if s.hasEventOccured .boost && t.no_vel_debouncer.passed then .submitGround
        else .check })
  | .submitGround => some (s.submit .barom1 .groundHit, { t with pc := .check })
  | .done => none

end Barom

/-! ## `main` and the kernel -/

/-- What `main` does next, after it has created the threads. -/
inductive MainPc
  | stopImuTimer | stopBaromTimer | waitPadReady | startImuTimer | startBaromTimer
  | waitBoost | waitCoast | slowImuTimer | waitNoseover | waitMainChute | waitGroundHit
  | endImuTimer | endBaromTimer | waitCamerasOff
  /-- `fl.Sync()`, then the return. -/
  | sync
  | done
  deriving DecidableEq

/-- The statement after this one. -/
def MainPc.next : MainPc → MainPc
  | .stopImuTimer => .stopBaromTimer
  | .stopBaromTimer => .waitPadReady
  | .waitPadReady => .startImuTimer
  | .startImuTimer => .startBaromTimer
  | .startBaromTimer => .waitBoost
  | .waitBoost => .waitCoast
  | .waitCoast => .slowImuTimer
  | .slowImuTimer => .waitNoseover
  | .waitNoseover => .waitMainChute
  | .waitMainChute => .waitGroundHit
  | .waitGroundHit => .endImuTimer
  | .endImuTimer => .endBaromTimer
  | .endBaromTimer => .waitCamerasOff
  | .waitCamerasOff => .sync
  | .sync => .done
  | .done => .done

/-- What `main` waits for at this statement. -/
def MainPc.awaits : MainPc → Option Events
  | .waitPadReady => some .padReady
  | .waitBoost => some .boost
  | .waitCoast => some .coast
  | .waitNoseover => some .noseover
  | .waitMainChute => some .mainChute
  | .waitGroundHit => some .groundHit
  | .waitCamerasOff => some .camerasOff
  | _ => none

/-- What `main` does to the polling timers at this statement. -/
def MainPc.poll (s : Shared) : MainPc → Shared
  | .stopImuTimer | .endImuTimer => { s with imu_timer := s.imu_timer.stop }
  | .stopBaromTimer | .endBaromTimer => { s with barom_timer := s.barom_timer.stop }
  | .startImuTimer | .slowImuTimer => { s with imu_timer := s.imu_timer.start }
  | .startBaromTimer => { s with barom_timer := s.barom_timer.start }
  | _ => s

/-- The body of `main`. -/
def mainMove (s : Shared) (pc : MainPc) : Option (Shared × MainPc) :=
  if pc = .done then none
  else
    match pc.awaits with
    | some event => if s.eventPosted event then some (s, pc.next) else none
    | none => some (pc.poll s, pc.next)

/-- What the kernel does by itself. -/
inductive Tick
  /-- Time passes. -/
  | elapse (ms : Nat)
  /-- A timer of the controller expires. -/
  | expiry (i : Fin numTimerEvents)
  | imu
  | barom

/-- A polling timer expires, if it runs. -/
def PollTimer.tick (t : PollTimer) : PollTimer :=
  if t.running then { t with status := t.status + 1 } else t

def kernelMove (s : Shared) : Tick → Shared
  | .elapse ms => { s with clock := s.clock + ms }
  | .expiry i => { s with controller := timerExpiry config s.controller s.clock i }
  | .imu => { s with imu_timer := s.imu_timer.tick }
  | .barom => { s with barom_timer := s.barom_timer.tick }

/-! ## The flight -/

/-- The threads of the sample, and the kernel. -/
inductive Thread
  | imu | barom | main | kernel
  deriving DecidableEq

/-- The locals of each. -/
abbrev Locals (D : Type) : Thread → Type
  | .imu => ImuThread D
  | .barom => BaromThread D
  | .main => MainPc
  | .kernel => Unit

/-- What each reads. -/
abbrev Reads (D : Type) : Thread → Type
  | .imu => D × D × D
  | .barom => D
  | .main => Unit
  | .kernel => Tick

variable (D : Type) [CMath D]

/-- The sample. -/
def flight : Program Thread Shared (Locals D) (Reads D) where
  move
    | .imu, acc, s, t => imuMove acc s t
    | .barom, press_kpa, s, t => baromMove press_kpa s t
    | .main, (), s, pc => mainMove s pc
    | .kernel, tick, s, () => some (kernelMove s tick, ())

/-- `main` has created the threads. -/
def flightStart : World Shared (Locals D) where
  shared :=
    { clock := 0
      controller := config.construct
      imu_timer := { running := false, status := 0 }
      barom_timer := { running := false, status := 0 } }
  locals
    | .imu => imuStart
    | .barom => baromStart
    | .main => .stopImuTimer
    | .kernel => ()

end Backplane.PhaseDetection
