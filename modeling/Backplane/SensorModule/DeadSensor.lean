import Backplane.SensorModule.Handlers

/-!
# A dead sensor cannot influence the detection

Two runs of `HandleData`, interleaved with the same timer expiries, that agree on everything but
the readings of one sensor, whose working flag is false throughout. `Blind s h h'` relates their
states: equal, but for the detectors and the velocity window that sensor `s` feeds.

Results:
* `blind_handleData`: a call keeps two states related.
* `flights_blind`: whole flights of the module keep them related.
* `dead_sensor`: after every call the controllers and the boost times are equal.
-/

namespace Backplane.SensorModule

open Backplane.Run
open Backplane.Flight
open Backplane.Utils

/-- The four sensors the detection uses. -/
inductive Sensor
  | acc (side : Side)
  | barom (side : Side)
  deriving DecidableEq

/-- The working flag of a sensor. -/
def Sensor.ok : Sensor → SensorWorkings → Bool
  | .acc side, w => side.accOk w
  | .barom side, w => side.baromOk w

section Defs

variable {R D : Type}

/-- The reading of this side's barometer. -/
def Side.barometer : Side → SensorData R → BarometerData R
  | .primary, data => data.primaryBarometer
  | .secondary, data => data.secondaryBarometer

/-- The readings of the other three sensors agree. -/
structure AgreeExcept (s : Sensor) (data data' : SensorData R) : Prop where
  acceleration : ∀ side, .acc side ≠ s → side.acceleration data = side.acceleration data'
  barometer : ∀ side, .barom side ≠ s → side.barometer data = side.barometer data'

/-- Two steps that differ in the readings of `s` only, which does not work. -/
inductive SameExcept (s : Sensor) : Step R → Step R → Prop
  | run (uptime : UInt64) (data data' : SensorData R) (w : SensorWorkings)
      (dead : s.ok w = false) (agree : AgreeExcept s data data') :
      SameExcept s (.run uptime data w) (.run uptime data' w)
  | expiry (now : Nat) (i : Fin numTimerEvents) : SameExcept s (.expiry now i) (.expiry now i)

/-- A call of `HandleData`, or the expiry of a timer. -/
def handlerStep [CDouble D] [CFloat R D] (h : CDetectionHandler D) :
    Step R → CDetectionHandler D
  | .run uptime data workings => h.handleData uptime data workings
  | .expiry now i => { h with controller := timerExpiry config h.controller now i }

/-- The states differ at most in what sensor `s` feeds. -/
structure Blind (s : Sensor) (h h' : CDetectionHandler D) : Prop where
  controller : h.controller = h'.controller
  boost_detected_time : h.boost_detected_time = h'.boost_detected_time
  boostDetector : ∀ side, .acc side ≠ s → h.boostDetector side = h'.boostDetector side
  velocityFinder : ∀ side, .barom side ≠ s → h.velocityFinder side = h'.velocityFinder side
  noseoverDetector : ∀ side, .barom side ≠ s → h.noseoverDetector side = h'.noseoverDetector side
  groundDetector : ∀ side, .barom side ≠ s → h.groundDetector side = h'.groundDetector side

end Defs

variable {R D : Type} [CDouble D] [CFloat R D] {s : Sensor} {h h' : CDetectionHandler D}
  {w : SensorWorkings} {data data' : SensorData R}

/-! ## Each handler keeps the states related -/

theorem blind_feedVelocity (hb : Blind s h h') (hd : AgreeExcept s data data')
    (timestamp : UInt64) :
    Blind s (h.feedVelocity timestamp data) (h'.feedVelocity timestamp data') := by
  refine ⟨hb.controller, hb.boost_detected_time, ?_, ?_, ?_, ?_⟩
  · exact fun side hs => by
      rw [feedVelocity_boostDetector, feedVelocity_boostDetector, hb.boostDetector side hs]
  · intro side hs
    have hfinder := hb.velocityFinder side hs
    have hreading := hd.barometer side hs
    cases side
    · show h.primaryBaromVelocityFinder.feed _ = h'.primaryBaromVelocityFinder.feed _
      rw [show h.primaryBaromVelocityFinder = h'.primaryBaromVelocityFinder from hfinder,
        show data.primaryBarometer = data'.primaryBarometer from hreading]
    · show h.secondaryBaromVelocityFinder.feed _ = h'.secondaryBaromVelocityFinder.feed _
      rw [show h.secondaryBaromVelocityFinder = h'.secondaryBaromVelocityFinder from hfinder,
        show data.secondaryBarometer = data'.secondaryBarometer from hreading]
  · intro side hs
    have heq := hb.noseoverDetector side hs
    cases side <;> exact heq
  · exact fun side hs => by
      rw [feedVelocity_groundDetector, feedVelocity_groundDetector, hb.groundDetector side hs]

/-- What a dead sensor's detector says does not count. -/
theorem and_ok_congr {t : Sensor} {b b' : Bool} (hdead : s.ok w = false)
    (heq : t ≠ s → b = b') : (b && t.ok w) = (b' && t.ok w) := by
  by_cases ht : t = s
  · subst ht
    rw [hdead, Bool.and_false, Bool.and_false]
  · rw [heq ht]

theorem boostFed_congr (hb : Blind s h h') (hd : AgreeExcept s data data') (timestamp : UInt64)
    {side : Side} (hs : .acc side ≠ s) :
    h.boostFed timestamp data side = h'.boostFed timestamp data' side := by
  unfold CDetectionHandler.boostFed
  rw [hb.boostDetector side hs, hd.acceleration side hs]

theorem boostSubmitted_congr (hb : Blind s h h') (hdead : s.ok w = false)
    (hd : AgreeExcept s data data') (timestamp : UInt64) :
    h.boostSubmitted timestamp data w = h'.boostSubmitted timestamp data' w := by
  have hpassed (side : Side) :
      ((h.boostFed timestamp data side).passed && (Sensor.acc side).ok w) =
        ((h'.boostFed timestamp data' side).passed && (Sensor.acc side).ok w) :=
    and_ok_congr hdead fun hs => by rw [boostFed_congr hb hd timestamp hs]
  unfold CDetectionHandler.boostSubmitted
  rw [show ((h.boostFed timestamp data .primary).passed && w.primaryAccOk) = _ from
      hpassed .primary,
    show ((h.boostFed timestamp data .secondary).passed && w.secondaryAccOk) = _ from
      hpassed .secondary, hb.controller]
  rfl

theorem blind_handleBoost (hb : Blind s h h') (hdead : s.ok w = false)
    (hd : AgreeExcept s data data') (timestamp : UInt64) :
    Blind s (h.handleBoost timestamp data w) (h'.handleBoost timestamp data' w) := by
  have hsubmitted := boostSubmitted_congr hb hdead hd timestamp
  rw [handleBoost_eq, handleBoost_eq]
  refine ⟨hsubmitted, ?_, fun side hs => ?_, fun side hs => ?_, fun side hs => ?_,
    fun side hs => ?_⟩
  · show (if _ then _ else _) = (if _ then _ else _)
    rw [hsubmitted, hb.boost_detected_time]
  · have heq := boostFed_congr hb hd timestamp hs
    cases side <;> exact heq
  · have heq := hb.velocityFinder side hs
    cases side <;> exact heq
  · have heq := hb.noseoverDetector side hs
    cases side <;> exact heq
  · have heq := hb.groundDetector side hs
    cases side <;> exact heq

theorem noseoverFed_congr (hb : Blind s h h') (t_plus_ms : UInt32) {side : Side}
    (hs : .barom side ≠ s) : h.noseoverFed t_plus_ms side = h'.noseoverFed t_plus_ms side := by
  unfold CDetectionHandler.noseoverFed
  rw [hb.velocityFinder side hs, hb.noseoverDetector side hs]

theorem noseoverSubmitted_congr (hb : Blind s h h') (hdead : s.ok w = false) (now : Nat)
    (t_plus_ms : UInt32) :
    h.noseoverSubmitted now t_plus_ms w = h'.noseoverSubmitted now t_plus_ms w := by
  have hpassed (side : Side) (lockout : Bool) :
      ((h.noseoverFed t_plus_ms side).passed && lockout && (Sensor.barom side).ok w) =
        ((h'.noseoverFed t_plus_ms side).passed && lockout && (Sensor.barom side).ok w) :=
    and_ok_congr hdead fun hs => by rw [noseoverFed_congr hb t_plus_ms hs]
  unfold CDetectionHandler.noseoverSubmitted
  simp only
  rw [hb.controller,
    show ((h.noseoverFed t_plus_ms .primary).passed &&
      h'.controller.eventStates .noseoverLockout && w.primaryBarometerOk) = _ from
      hpassed .primary _]
  exact if_congr (by rw [show ((h.noseoverFed t_plus_ms .secondary).passed && _ &&
      w.secondaryBarometerOk) = _ from hpassed .secondary _]; rfl) rfl rfl

theorem blind_handleNoseover (hb : Blind s h h') (hdead : s.ok w = false) (now : Nat)
    (t_plus_ms : UInt32) :
    Blind s (h.handleNoseover now t_plus_ms w) (h'.handleNoseover now t_plus_ms w) := by
  have hsubmitted := noseoverSubmitted_congr hb hdead now t_plus_ms
  rw [handleNoseover_eq, handleNoseover_eq]
  refine ⟨hsubmitted, hb.boost_detected_time, fun side hs => ?_, fun side hs => ?_,
    fun side hs => ?_, fun side hs => ?_⟩
  · have heq := hb.boostDetector side hs
    cases side <;> exact heq
  · have heq := hb.velocityFinder side hs
    cases side <;> exact heq
  · have heq := noseoverFed_congr hb t_plus_ms hs
    cases side <;> exact heq
  · have heq := hb.groundDetector side hs
    cases side <;> exact heq

theorem groundFed_congr (hb : Blind s h h') (t_plus_ms : UInt32) {side : Side}
    (hs : .barom side ≠ s) : h.groundFed t_plus_ms side = h'.groundFed t_plus_ms side := by
  unfold CDetectionHandler.groundFed
  rw [hb.velocityFinder side hs, hb.groundDetector side hs]

theorem groundSubmitted_congr (hb : Blind s h h') (hdead : s.ok w = false) (now : Nat)
    (t_plus_ms : UInt32) :
    h.groundSubmitted now t_plus_ms w = h'.groundSubmitted now t_plus_ms w := by
  have hpassed (side : Side) :
      ((h.groundFed t_plus_ms side).passed && (Sensor.barom side).ok w) =
        ((h'.groundFed t_plus_ms side).passed && (Sensor.barom side).ok w) :=
    and_ok_congr hdead fun hs => by rw [groundFed_congr hb t_plus_ms hs]
  unfold CDetectionHandler.groundSubmitted
  rw [show ((h.groundFed t_plus_ms .primary).passed && w.primaryBarometerOk) = _ from
      hpassed .primary,
    show ((h.groundFed t_plus_ms .secondary).passed && w.secondaryBarometerOk) = _ from
      hpassed .secondary, hb.controller]
  rfl

theorem blind_handleGround (hb : Blind s h h') (hdead : s.ok w = false) (now : Nat)
    (t_plus_ms : UInt32) :
    Blind s (h.handleGround now t_plus_ms w) (h'.handleGround now t_plus_ms w) := by
  have hsubmitted := groundSubmitted_congr hb hdead now t_plus_ms
  rw [handleGround_eq, handleGround_eq]
  refine ⟨hsubmitted, hb.boost_detected_time, fun side hs => ?_, fun side hs => ?_,
    fun side hs => ?_, fun side hs => ?_⟩
  · have heq := hb.boostDetector side hs
    cases side <;> exact heq
  · have heq := hb.velocityFinder side hs
    cases side <;> exact heq
  · have heq := hb.noseoverDetector side hs
    cases side <;> exact heq
  · have heq := groundFed_congr hb t_plus_ms hs
    cases side <;> exact heq

/-! ## Whole calls and whole runs -/

omit [CDouble D] in
theorem Blind.hasEventOccured (hb : Blind s h h') (e : Events) :
    h.hasEventOccured e = h'.hasEventOccured e := by
  unfold CDetectionHandler.hasEventOccured
  rw [hb.controller]

theorem blind_boostHandled (hb : Blind s h h') (hdead : s.ok w = false)
    (hd : AgreeExcept s data data') (timestamp : UInt64) :
    Blind s (h.boostHandled timestamp data w) (h'.boostHandled timestamp data' w) := by
  have hfed := blind_feedVelocity hb hd timestamp
  unfold CDetectionHandler.boostHandled
  rw [hb.hasEventOccured]
  split
  · exact blind_handleBoost hfed hdead hd timestamp
  · exact hfed

theorem blind_afterBoost (hb : Blind s h h') (hdead : s.ok w = false) (now : Nat)
    (t_plus_ms : UInt32) :
    Blind s (h.afterBoost now t_plus_ms w) (h'.afterBoost now t_plus_ms w) := by
  have hnose : Blind s (h.noseoverHandled now t_plus_ms w)
      (h'.noseoverHandled now t_plus_ms w) := by
    unfold CDetectionHandler.noseoverHandled
    rw [hb.hasEventOccured]
    split
    · exact blind_handleNoseover hb hdead now t_plus_ms
    · exact hb
  rw [afterBoost_eq, afterBoost_eq]
  rw [hnose.hasEventOccured, hnose.hasEventOccured]
  split
  · exact blind_handleGround hnose hdead now t_plus_ms
  · exact hnose

/-- **A call keeps the states related.** -/
theorem blind_handleData (hb : Blind s h h') (hdead : s.ok w = false)
    (hd : AgreeExcept s data data') (timestamp : UInt64) :
    Blind s (h.handleData timestamp data w) (h'.handleData timestamp data' w) := by
  have hboost := blind_boostHandled hb hdead hd timestamp
  rw [handleData_eq, handleData_eq, hboost.hasEventOccured, hboost.boost_detected_time]
  split
  · exact hboost
  · exact blind_afterBoost hboost hdead timestamp.toNat _

omit [CDouble D] in
theorem blind_expiry (hb : Blind s h h') (now : Nat) (i : Fin numTimerEvents) :
    Blind s { h with controller := timerExpiry config h.controller now i }
      { h' with controller := timerExpiry config h'.controller now i } where
  controller := congrArg (fun c => timerExpiry config c now i) hb.controller
  boost_detected_time := hb.boost_detected_time
  boostDetector side hs := by cases side <;> exact hb.boostDetector _ hs
  velocityFinder side hs := by cases side <;> exact hb.velocityFinder _ hs
  noseoverDetector side hs := by cases side <;> exact hb.noseoverDetector _ hs
  groundDetector side hs := by cases side <;> exact hb.groundDetector _ hs

theorem blind_handlerStep (h h' : CDetectionHandler D) (a a' : Step R) (hb : Blind s h h')
    (ha : SameExcept s a a') : Blind s (handlerStep h a) (handlerStep h' a') := by
  cases ha with
  | run uptime data data' w dead agree => exact blind_handleData hb dead agree uptime
  | expiry now i => exact blind_expiry hb now i

/-- The same of a step of the module, where the tenant stops calling once the ground was hit. -/
theorem blind_sensorStep (h h' : CDetectionHandler D) (a a' : Step R) (hb : Blind s h h')
    (ha : SameExcept s a a') : Blind s (sensorStep h a) (sensorStep h' a') := by
  cases ha with
  | run uptime data data' w dead agree =>
    unfold sensorStep CDetectionHandler.sensingRun CDetectionHandler.continueCollecting
    simp only [hb.hasEventOccured]
    split
    · exact hb
    · exact blind_handleData hb dead agree uptime
  | expiry now i => exact blind_expiry hb now i

omit [CDouble D] in
theorem Blind.refl (s : Sensor) (h : CDetectionHandler D) : Blind s h h :=
  ⟨rfl, rfl, fun _ _ => rfl, fun _ _ => rfl, fun _ _ => rfl, fun _ _ => rfl⟩

/-- **Flights of the module** that differ in the readings of a dead sensor have the same
controller and the same boost time all along. -/
theorem flights_blind {steps steps' : List (Step R)} (hs : List.Forall₂ (SameExcept s) steps steps')
    (k : Nat) :
    Blind s (stateAt sensorStep (initialHandler (D := D)) steps k)
      (stateAt sensorStep initialHandler steps' k) :=
  run_rel blind_sensorStep (Blind.refl s _) hs k

/-- **A dead sensor cannot influence the detection**: after any number of calls and expiries, from
any state of the handler, the source states, the event states and the boost time are the same in
two runs that differ in the readings of a sensor that does not work. -/
theorem dead_sensor {steps steps' : List (Step R)}
    (hs : List.Forall₂ (SameExcept s) steps steps') (start : CDetectionHandler D) (k : Nat) :
    let after := stateAt handlerStep start steps k
    let after' := stateAt handlerStep start steps' k
    after.controller.sourceStates = after'.controller.sourceStates ∧
      after.controller.eventStates = after'.controller.eventStates ∧
      after.boost_detected_time = after'.boost_detected_time := by
  intro after after'
  have hb : Blind s after after' := run_rel blind_handlerStep (Blind.refl s start) hs k
  exact ⟨congrArg _ hb.controller, congrArg _ hb.controller, hb.boost_detected_time⟩

/-- Two calls around an expiry. The low-g accelerometer does not work and reads `g`. -/
def brokenLowG (g : Float32) : List (Step Float32) :=
  let data : SensorData Float32 :=
    { primaryBarometer := { pressure := 101.325, temperature := 20 }
      secondaryBarometer := { pressure := 101.325, temperature := 20 }
      acceleration := { x := 0, y := 0, z := g }
      imuAcceleration := { x := 0, y := 0, z := 60 } }
  let workings : SensorWorkings := ⟨true, false, true, true⟩
  [.run 0 data workings, .expiry 100 0, .run 251 data workings]

theorem sameExcept_brokenLowG (g g' : Float32) :
    List.Forall₂ (SameExcept (.acc .secondary)) (brokenLowG g) (brokenLowG g') := by
  have hagree {data data' : SensorData Float32}
      (himu : data.imuAcceleration = data'.imuAcceleration)
      (hprimary : data.primaryBarometer = data'.primaryBarometer)
      (hsecondary : data.secondaryBarometer = data'.secondaryBarometer) :
      AgreeExcept (.acc .secondary) data data' := by
    constructor
    · intro side hs
      cases side
      · exact himu
      · exact absurd rfl hs
    · intro side _
      cases side
      · exact hprimary
      · exact hsecondary
  unfold brokenLowG
  exact .cons (.run _ _ _ _ rfl (hagree rfl rfl rfl)) (.cons (.expiry _ _)
    (.cons (.run _ _ _ _ rfl (hagree rfl rfl rfl)) .nil))

theorem dead_sensor_brokenLowG :
    let after := stateAt handlerStep (initialHandler (D := Float)) (brokenLowG 60) 3
    let after' := stateAt handlerStep (initialHandler (D := Float)) (brokenLowG 9.8) 3
    after.controller.sourceStates = after'.controller.sourceStates ∧
      after.controller.eventStates = after'.controller.eventStates ∧
      after.boost_detected_time = after'.boost_detected_time :=
  dead_sensor (sameExcept_brokenLowG 60 9.8) initialHandler 3

end Backplane.SensorModule
