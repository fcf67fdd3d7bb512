import Backplane.SensorModule.Flight
import Backplane.Utils.Debouncer
import Backplane.Utils.LinearFit

/-!
# The detection handler and the sensing tenant

Model of `CDetectionHandler` (`app/backplane/sensor_module/src/c_detection_handler.cpp`,
`include/c_detection_handler.h`) and of what `CSensingTenant::Run` does with it.

* Floating point is a parameter: `R` is `float` (the readings), `D` is `double`, with the
  operations the code uses (`CFloat`, `CDouble`). Nothing is assumed about them, so what is proved
  holds of IEEE arithmetic (`Float32`, `Float`), rounding and NaN included.
* Uptimes are `uint64_t` and are truncated to `uint32_t` on the way to the debouncers, as in the
  code.
* `now` is the kernel uptime at which a `SubmitEvent` runs; a call of `HandleData` is atomic, so it
  is the call's own timestamp.
* A `Step` of the module is a `Run` of the sensing tenant or the expiry of one of the controller's
  timers. The readings and the working flags of a `Run` are inputs of the step; the data fields no
  detector reads (gyroscope, magnetometer, thermometer) are left out.
-/

namespace Backplane.SensorModule

open Backplane.Run
open Backplane.Flight
open Backplane.Utils

/-- What the detectors use of `double`. -/
class CDouble (D : Type) extends Add D, Sub D, Mul D, Div D, LT D, BEq D, NatCast D,
    OfScientific D where
  decidableLT : DecidableLT D
  fabs : D → D
  pow : D → D → D

instance decidableLTOfCDouble {D : Type} [CDouble D] : DecidableLT D := CDouble.decidableLT

/-- What the detectors use of `float`: sums, products and the conversion to `double`. -/
class CFloat (R : Type) (D : outParam Type) extends Add R, Mul R where
  toDouble : R → D

instance : CDouble Float where
  natCast := Float.ofNat
  decidableLT := inferInstance
  fabs := Float.abs
  pow := Float.pow

instance : CFloat Float32 Float where
  toDouble := Float32.toFloat

/-- `NTypes::AccelerometerData`. -/
structure AccelerometerData (R : Type) where
  x : R
  y : R
  z : R

/-- `NTypes::BarometerData`. -/
structure BarometerData (R : Type) where
  pressure : R
  temperature : R

/-- `NTypes::SensorData`, the readings the detectors get. -/
structure SensorData (R : Type) where
  primaryBarometer : BarometerData R
  secondaryBarometer : BarometerData R
  acceleration : AccelerometerData R
  imuAcceleration : AccelerometerData R

/-- `SensorWorkings`. -/
structure SensorWorkings where
  primaryAccOk : Bool
  secondaryAccOk : Bool
  primaryBarometerOk : Bool
  secondaryBarometerOk : Bool

def boostTimeThreshold : UInt32 := 250
def noseoverTimeThreshold : UInt32 := 250
def groundTimeThreshold : UInt32 := 10000

def BAROM_VELOCITY_FINDER_WINDOW_SIZE : Nat := 10

instance : NeZero BAROM_VELOCITY_FINDER_WINDOW_SIZE := ⟨by decide⟩

/-- `BOOST_NOT_YET_HAPPENED = ~0`. -/
def BOOST_NOT_YET_HAPPENED : UInt64 := 0xFFFFFFFFFFFFFFFF

abbrev VelocityFinder (D : Type) :=
  CRollingSum (LinearFitSample D) BAROM_VELOCITY_FINDER_WINDOW_SIZE

/-- `CDetectionHandler`, with the controller it refers to. -/
structure CDetectionHandler (D : Type) where
  controller : SensorModulePhaseController
  primaryImuBoostSquaredDetector : CDebouncer .over D
  secondaryImuBoostSquaredDetector : CDebouncer .over D
  primaryBaromVelocityFinder : VelocityFinder D
  secondaryBaromVelocityFinder : VelocityFinder D
  primaryBaromNoseoverDetector : CDebouncer .under D
  secondaryBaromNoseoverDetector : CDebouncer .under D
  primaryBaromGroundDetector : CDebouncer .under D
  secondaryBaromGroundDetector : CDebouncer .under D
  boost_detected_time : UInt64

section Defs

variable {R D : Type} [CDouble D]

/-- `asl_from_pressure`. -/
def aslFromPressure (P_sta_kpa : D) : D :=
  let standard_atmosphere_exponent : D := 0.190284
  let standard_atmosphere_factor : D := 145366.45
  let kpa_to_mbar : D := 10.0
  let sea_level_pressure_mbar : D := 1013.25
  let P_sta_mbar := P_sta_kpa * kpa_to_mbar
  (1.0 - CDouble.pow (P_sta_mbar / sea_level_pressure_mbar) standard_atmosphere_exponent) *
    standard_atmosphere_factor

def boostThresholdMPerS2 : D := 5.0 * 9.8
def noseoverVelocityThreshold : D := 10.0
def groundVelocityThreshold : D := 10.0

/-- The constructor. -/
def CDetectionHandler.new (controller : SensorModulePhaseController) : CDetectionHandler D :=
  { controller := controller
    primaryImuBoostSquaredDetector :=
      { duration := boostTimeThreshold
        target_value := boostThresholdMPerS2 * boostThresholdMPerS2 }
    secondaryImuBoostSquaredDetector :=
      { duration := boostTimeThreshold
        target_value := boostThresholdMPerS2 * boostThresholdMPerS2 }
    primaryBaromVelocityFinder := CRollingSum.new (.new (Nat.cast 0) (Nat.cast 0))
    secondaryBaromVelocityFinder := CRollingSum.new (.new (Nat.cast 0) (Nat.cast 0))
    primaryBaromNoseoverDetector :=
      { duration := noseoverTimeThreshold, target_value := noseoverVelocityThreshold }
    secondaryBaromNoseoverDetector :=
      { duration := noseoverTimeThreshold, target_value := noseoverVelocityThreshold }
    primaryBaromGroundDetector :=
      { duration := groundTimeThreshold, target_value := groundVelocityThreshold }
    secondaryBaromGroundDetector :=
      { duration := groundTimeThreshold, target_value := groundVelocityThreshold }
    boost_detected_time := BOOST_NOT_YET_HAPPENED }

/-- `controller.HasEventOccured`. -/
def CDetectionHandler.hasEventOccured (h : CDetectionHandler D) (event : Events) : Bool :=
  h.controller.hasEventOccured event

/-- `controller.SubmitEvent`, at uptime `now`. -/
def CDetectionHandler.submit (h : CDetectionHandler D) (now : Nat) (source : Sources)
    (event : Events) : CDetectionHandler D :=
  { h with controller := submitEvent config h.controller now source event }

/-- `ContinueCollecting`. -/
def CDetectionHandler.continueCollecting (h : CDetectionHandler D) : Bool :=
  !h.hasEventOccured .groundHit

/-- The squared magnitude, computed in `float`. -/
def squaredMagnitude [CFloat R D] (a : AccelerometerData R) : D :=
  CFloat.toDouble (a.x * a.x + a.y * a.y + a.z * a.z)

/-- `HandleBoost`. -/
def CDetectionHandler.handleBoost [CFloat R D] (h : CDetectionHandler D) (timestamp : UInt64)
    (data : SensorData R) (sensor_states : SensorWorkings) : CDetectionHandler D :=
  let now := timestamp.toNat
  let primary_mag_squared_m_s2 : D := squaredMagnitude data.imuAcceleration
  let secondary_mag_squared_m_s2 : D := squaredMagnitude data.acceleration
  let h := { h with
    primaryImuBoostSquaredDetector :=
      h.primaryImuBoostSquaredDetector.feed timestamp.toUInt32 primary_mag_squared_m_s2
    secondaryImuBoostSquaredDetector :=
      h.secondaryImuBoostSquaredDetector.feed timestamp.toUInt32 secondary_mag_squared_m_s2 }
  let h := if h.primaryImuBoostSquaredDetector.passed && sensor_states.primaryAccOk then
    h.submit now .highGImu .boost else h
  let h := if h.secondaryImuBoostSquaredDetector.passed && sensor_states.secondaryAccOk then
    h.submit now .lowGImu .boost else h
  if h.hasEventOccured .boost && h.boost_detected_time == BOOST_NOT_YET_HAPPENED then
    { h with boost_detected_time := timestamp }
  else h

/-- Feed a velocity detector when the slope is known. -/
def feedSlope (slope : Option D) (f : D → D) (t_plus_ms : UInt32)
    (detector : CDebouncer .under D) : CDebouncer .under D :=
  match slope with
  | some velocity => detector.feed t_plus_ms (f velocity)
  | none => detector

/-- `HandleNoseover`. -/
def CDetectionHandler.handleNoseover (h : CDetectionHandler D) (now : Nat) (t_plus_ms : UInt32)
    (sensor_states : SensorWorkings) : CDetectionHandler D :=
  let h := { h with
    primaryBaromNoseoverDetector := feedSlope (findSlope h.primaryBaromVelocityFinder) id t_plus_ms
      h.primaryBaromNoseoverDetector
    secondaryBaromNoseoverDetector := feedSlope (findSlope h.secondaryBaromVelocityFinder) id
      t_plus_ms h.secondaryBaromNoseoverDetector }
  let h := if h.primaryBaromNoseoverDetector.passed && h.hasEventOccured .noseoverLockout &&
      sensor_states.primaryBarometerOk then
    h.submit now .baromMS5611 .noseover else h
  if h.secondaryBaromNoseoverDetector.passed && h.hasEventOccured .noseoverLockout &&
      sensor_states.secondaryBarometerOk then
    h.submit now .baromBMP .noseover else h

/-- `HandleGround`. -/
def CDetectionHandler.handleGround (h : CDetectionHandler D) (now : Nat) (t_plus_ms : UInt32)
    (sensor_states : SensorWorkings) : CDetectionHandler D :=
  let h := { h with
    primaryBaromGroundDetector := feedSlope (findSlope h.primaryBaromVelocityFinder) CDouble.fabs
      t_plus_ms h.primaryBaromGroundDetector
    secondaryBaromGroundDetector := feedSlope (findSlope h.secondaryBaromVelocityFinder)
      CDouble.fabs t_plus_ms h.secondaryBaromGroundDetector }
  let h := if h.primaryBaromGroundDetector.passed && sensor_states.primaryBarometerOk then
    h.submit now .baromMS5611 .groundHit else h
  if h.secondaryBaromGroundDetector.passed && sensor_states.secondaryBarometerOk then
    h.submit now .baromBMP .groundHit else h

/-- Both velocity finders get the altitude of this sample. -/
def CDetectionHandler.feedVelocity [CFloat R D] (h : CDetectionHandler D) (timestamp : UInt64)
    (data : SensorData R) : CDetectionHandler D :=
  let t_seconds : D := (Nat.cast timestamp.toNat : D) / 1000.0
  let primary_barom_asl := aslFromPressure (CFloat.toDouble data.primaryBarometer.pressure)
  let secondary_barom_asl := aslFromPressure (CFloat.toDouble data.secondaryBarometer.pressure)
  { h with
    primaryBaromVelocityFinder :=
      h.primaryBaromVelocityFinder.feed (.new t_seconds primary_barom_asl)
    secondaryBaromVelocityFinder :=
      h.secondaryBaromVelocityFinder.feed (.new t_seconds secondary_barom_asl) }

/-- `t_plus_ms`: computed in 64 bits, then truncated. -/
def tPlusMs (timestamp boost_detected_time : UInt64) : UInt32 :=
  (timestamp - boost_detected_time - boostTimeThreshold.toUInt64).toUInt32

/-- `HandleData`. -/
def CDetectionHandler.handleData [CFloat R D] (h : CDetectionHandler D) (timestamp : UInt64)
    (data : SensorData R) (sensor_states : SensorWorkings) : CDetectionHandler D :=
  let now := timestamp.toNat
  let h := h.feedVelocity timestamp data
  let h := if !h.hasEventOccured .boost then h.handleBoost timestamp data sensor_states else h
  -- Don't worry about the rest until we've got boost
  if !h.hasEventOccured .boost then h
  else
    let t_plus_ms := tPlusMs timestamp h.boost_detected_time
    let h := if !h.hasEventOccured .noseover then h.handleNoseover now t_plus_ms sensor_states
      else h
    if h.hasEventOccured .noseover && !h.hasEventOccured .groundHit then
      h.handleGround now t_plus_ms sensor_states
    else h

/-- A step of the module: a `Run` of the sensing tenant, or the expiry of a timer. -/
inductive Step (R : Type)
  | run (uptime : UInt64) (data : SensorData R) (workings : SensorWorkings)
  | expiry (now : Nat) (i : Fin numTimerEvents)

/-- `CSensingTenant::Run`, as far as the detection goes. -/
def CDetectionHandler.sensingRun [CFloat R D] (h : CDetectionHandler D) (uptime : UInt64)
    (data : SensorData R) (workings : SensorWorkings) : CDetectionHandler D :=
  if !h.continueCollecting then h else h.handleData uptime data workings

/-- One step, executed to its end. -/
def sensorStep [CFloat R D] (h : CDetectionHandler D) : Step R → CDetectionHandler D
  | .run uptime data workings => h.sensingRun uptime data workings
  | .expiry now i => { h with controller := timerExpiry config h.controller now i }

/-- The handler as the module constructs it. -/
def initialHandler : CDetectionHandler D := .new config.construct

end Defs

end Backplane.SensorModule
