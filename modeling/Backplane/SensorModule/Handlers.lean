import Backplane.Flight.Batch
import Backplane.SensorModule.Detection

/-!
# What one call of `HandleData` does

The detectors come in two sets, one for each pair of an accelerometer and a barometer (`Side`).
`HandledBy` says everything a call of `HandleData` can do to the controller, to the boost and
ground detectors and to the boost time; `handleData_spec` proves it once, phase by phase, and the
invariants of whole flights are derived from it.
-/

namespace Backplane.SensorModule

open Backplane.Run
open Backplane.Flight
open Backplane.Utils

/-- The two sets of sensors and detectors. -/
inductive Side
  | primary | secondary
  deriving DecidableEq

/-- The source the accelerometer of this side submits for. -/
def Side.acc : Side → Sources
  | .primary => .highGImu
  | .secondary => .lowGImu

/-- The source the barometer of this side submits for. -/
def Side.barom : Side → Sources
  | .primary => .baromMS5611
  | .secondary => .baromBMP

def Side.accOk : Side → SensorWorkings → Bool
  | .primary, w => w.primaryAccOk
  | .secondary, w => w.secondaryAccOk

def Side.baromOk : Side → SensorWorkings → Bool
  | .primary, w => w.primaryBarometerOk
  | .secondary, w => w.secondaryBarometerOk

/-- The reading of this side's accelerometer. -/
def Side.acceleration {R : Type} : Side → SensorData R → AccelerometerData R
  | .primary, data => data.imuAcceleration
  | .secondary, data => data.acceleration

variable {R D : Type}

def CDetectionHandler.boostDetector (h : CDetectionHandler D) : Side → CDebouncer .over D
  | .primary => h.primaryImuBoostSquaredDetector
  | .secondary => h.secondaryImuBoostSquaredDetector

def CDetectionHandler.velocityFinder (h : CDetectionHandler D) : Side → VelocityFinder D
  | .primary => h.primaryBaromVelocityFinder
  | .secondary => h.secondaryBaromVelocityFinder

def CDetectionHandler.noseoverDetector (h : CDetectionHandler D) : Side → CDebouncer .under D
  | .primary => h.primaryBaromNoseoverDetector
  | .secondary => h.secondaryBaromNoseoverDetector

def CDetectionHandler.groundDetector (h : CDetectionHandler D) : Side → CDebouncer .under D
  | .primary => h.primaryBaromGroundDetector
  | .secondary => h.secondaryBaromGroundDetector

/-- `event` has occured. -/
def CDetectionHandler.Occured (h : CDetectionHandler D) (event : Events) : Prop :=
  h.controller.eventStates event = true

instance (h : CDetectionHandler D) (event : Events) : Decidable (h.Occured event) :=
  inferInstanceAs (Decidable (_ = true))

/-- What may be submitted by a call that leads from `h` to `h'` with working flags `w`. -/
inductive Justified (h : CDetectionHandler D) (w : SensorWorkings) (h' : CDetectionHandler D) :
    Sources × Events → Prop
  | boost (side : Side) (fresh : ¬ h.Occured .boost) (ok : side.accOk w = true)
      (passed : (h'.boostDetector side).passed = true) : Justified h w h' (side.acc, .boost)
  | noseover (side : Side) (unlocked : h.Occured .noseoverLockout) (ok : side.baromOk w = true) :
      Justified h w h' (side.barom, .noseover)
  | groundHit (side : Side) (after : h'.Occured .noseover) (ok : side.baromOk w = true)
      (passed : (h'.groundDetector side).passed = true) : Justified h w h' (side.barom, .groundHit)

variable [CDouble D] [CFloat R D]

/-- A call with these arguments leads from `h` to `h'`. -/
structure HandledBy (timestamp : UInt64) (data : SensorData R) (w : SensorWorkings)
    (h h' : CDetectionHandler D) : Prop where
  submits : Submits config timestamp.toNat (Justified h w h') h.controller h'.controller
  boostDetector : ¬ h.Occured .boost → ∀ side, h'.boostDetector side =
    (h.boostDetector side).feed timestamp.toUInt32 (squaredMagnitude (side.acceleration data))
  boost_detected_time : h'.boost_detected_time =
    if ¬ h.Occured .boost ∧ h'.Occured .boost ∧ h.boost_detected_time = BOOST_NOT_YET_HAPPENED
    then timestamp else h.boost_detected_time
  groundDetector : ∀ side, h'.groundDetector side = h.groundDetector side ∨
    (h'.Occured .noseover ∧ ∃ v, h'.groundDetector side =
      (h.groundDetector side).feed (tPlusMs timestamp h'.boost_detected_time) v)

/-! ## The handlers, one at a time -/

omit [CDouble D] in
/-- A conditional submission touches the controller only. -/
theorem ite_submit (b : Bool) (h : CDetectionHandler D) (now : Nat) (source : Sources)
    (event : Events) :
    (if b then h.submit now source event else h) =
      { h with controller :=
          if b then submitEvent config h.controller now source event else h.controller } := by
  cases b <;> rfl

/-- One event, submitted by each side whose detector passed and whose sensor works. -/
theorem submits_sides (now : Nat) (c : SensorModulePhaseController) (source : Side → Sources)
    (event : Events) (passed ok : Side → Bool) :
    Submits config now
      (fun x => ∃ side, x = (source side, event) ∧ ok side = true ∧ passed side = true) c
      (let c := if passed .primary && ok .primary then
          submitEvent config c now (source .primary) event else c
        if passed .secondary && ok .secondary then
          submitEvent config c now (source .secondary) event else c) := by
  refine Submits.trans (Submits.submitIf _ _ _ fun hb => ?_)
    (Submits.submitIf _ _ _ fun hb => ?_)
  · rw [Bool.and_eq_true] at hb
    exact ⟨.primary, rfl, hb.2, hb.1⟩
  · rw [Bool.and_eq_true] at hb
    exact ⟨.secondary, rfl, hb.2, hb.1⟩

section Boost

variable (h : CDetectionHandler D) (timestamp : UInt64) (data : SensorData R) (w : SensorWorkings)

/-- This side's boost detector, fed. -/
def CDetectionHandler.boostFed (side : Side) : CDebouncer .over D :=
  (h.boostDetector side).feed timestamp.toUInt32 (squaredMagnitude (side.acceleration data))

/-- The controller after the submissions of `HandleBoost`. -/
def CDetectionHandler.boostSubmitted : SensorModulePhaseController :=
  let c := if (h.boostFed timestamp data .primary).passed && w.primaryAccOk then
    submitEvent config h.controller timestamp.toNat .highGImu .boost else h.controller
  if (h.boostFed timestamp data .secondary).passed && w.secondaryAccOk then
    submitEvent config c timestamp.toNat .lowGImu .boost else c

theorem handleBoost_eq :
    h.handleBoost timestamp data w =
      { h with
        primaryImuBoostSquaredDetector := h.boostFed timestamp data .primary
        secondaryImuBoostSquaredDetector := h.boostFed timestamp data .secondary
        controller := h.boostSubmitted timestamp data w
        boost_detected_time :=
          if (h.boostSubmitted timestamp data w).eventStates .boost &&
            h.boost_detected_time == BOOST_NOT_YET_HAPPENED
          then timestamp else h.boost_detected_time } := by
  unfold CDetectionHandler.handleBoost
  simp only [ite_submit]
  show (if ((h.boostSubmitted timestamp data w).eventStates .boost &&
    h.boost_detected_time == BOOST_NOT_YET_HAPPENED) = true then _ else _) = _
  by_cases hb : ((h.boostSubmitted timestamp data w).eventStates .boost &&
    h.boost_detected_time == BOOST_NOT_YET_HAPPENED) = true
  · rw [if_pos hb, if_pos hb]
    rfl
  · rw [if_neg hb, if_neg hb]
    rfl

theorem handleBoost_boostDetector (side : Side) :
    (h.handleBoost timestamp data w).boostDetector side =
      (h.boostDetector side).feed timestamp.toUInt32
        (squaredMagnitude (side.acceleration data)) := by
  rw [handleBoost_eq]
  cases side <;> rfl

theorem handleBoost_groundDetector (side : Side) :
    (h.handleBoost timestamp data w).groundDetector side = h.groundDetector side := by
  rw [handleBoost_eq]
  cases side <;> rfl

theorem handleBoost_submits :
    Submits config timestamp.toNat
      (fun x => ∃ side : Side, x = (side.acc, .boost) ∧ side.accOk w = true ∧
        ((h.handleBoost timestamp data w).boostDetector side).passed = true)
      h.controller (h.handleBoost timestamp data w).controller := by
  have hsides := submits_sides timestamp.toNat h.controller Side.acc .boost
    (fun side => ((h.handleBoost timestamp data w).boostDetector side).passed)
    (fun side => side.accOk w)
  rw [handleBoost_eq] at hsides ⊢
  exact hsides

theorem handleBoost_boost_detected_time :
    (h.handleBoost timestamp data w).boost_detected_time =
      if (h.handleBoost timestamp data w).Occured .boost ∧
        h.boost_detected_time = BOOST_NOT_YET_HAPPENED
      then timestamp else h.boost_detected_time := by
  rw [handleBoost_eq]
  simp only [Bool.and_eq_true, beq_iff_eq]
  rfl

end Boost

section Noseover

variable (h : CDetectionHandler D) (now : Nat) (t_plus_ms : UInt32) (w : SensorWorkings)

/-- This side's noseover detector, fed. -/
def CDetectionHandler.noseoverFed (side : Side) : CDebouncer .under D :=
  feedSlope (findSlope (h.velocityFinder side)) id t_plus_ms (h.noseoverDetector side)

/-- The controller after the submissions of `HandleNoseover`. -/
def CDetectionHandler.noseoverSubmitted : SensorModulePhaseController :=
  let c := if (h.noseoverFed t_plus_ms .primary).passed &&
      h.controller.eventStates .noseoverLockout && w.primaryBarometerOk then
    submitEvent config h.controller now .baromMS5611 .noseover else h.controller
  if (h.noseoverFed t_plus_ms .secondary).passed && c.eventStates .noseoverLockout &&
      w.secondaryBarometerOk then
    submitEvent config c now .baromBMP .noseover else c

theorem handleNoseover_eq :
    h.handleNoseover now t_plus_ms w =
      { h with
        primaryBaromNoseoverDetector := h.noseoverFed t_plus_ms .primary
        secondaryBaromNoseoverDetector := h.noseoverFed t_plus_ms .secondary
        controller := h.noseoverSubmitted now t_plus_ms w } := by
  unfold CDetectionHandler.handleNoseover
  simp only [ite_submit]
  rfl

theorem handleNoseover_frame :
    (∀ side, (h.handleNoseover now t_plus_ms w).boostDetector side = h.boostDetector side) ∧
    (∀ side, (h.handleNoseover now t_plus_ms w).groundDetector side = h.groundDetector side) ∧
    (h.handleNoseover now t_plus_ms w).boost_detected_time = h.boost_detected_time := by
  rw [handleNoseover_eq]
  refine ⟨fun side => ?_, fun side => ?_, rfl⟩ <;> cases side <;> rfl

/-- `HandleNoseover` submits `Noseover`, for working barometers, when the lockout is over. -/
theorem handleNoseover_submits :
    Submits config now
      (fun x => ∃ side : Side, x = (side.barom, .noseover) ∧ h.Occured .noseoverLockout ∧
        side.baromOk w = true)
      h.controller (h.handleNoseover now t_plus_ms w).controller := by
  rw [handleNoseover_eq]
  refine Submits.trans (Submits.submitIf _ _ _ fun hb => ?_)
    (Submits.submitIf _ _ _ fun hb => ?_)
  · simp only [Bool.and_eq_true] at hb
    exact ⟨.primary, rfl, hb.1.2, hb.2⟩
  · simp only [Bool.and_eq_true] at hb
    refine ⟨.secondary, rfl, ?_, hb.2⟩
    have hlock := hb.1.2
    -- the first submission was for another event
    split at hlock
    · rwa [submitEvent_eventStates_other (by decide)] at hlock
    · exact hlock

end Noseover

section Ground

variable (h : CDetectionHandler D) (now : Nat) (t_plus_ms : UInt32) (w : SensorWorkings)

/-- This side's ground detector, fed. -/
def CDetectionHandler.groundFed (side : Side) : CDebouncer .under D :=
  feedSlope (findSlope (h.velocityFinder side)) CDouble.fabs t_plus_ms (h.groundDetector side)

/-- The controller after the submissions of `HandleGround`. -/
def CDetectionHandler.groundSubmitted : SensorModulePhaseController :=
  let c := if (h.groundFed t_plus_ms .primary).passed && w.primaryBarometerOk then
    submitEvent config h.controller now .baromMS5611 .groundHit else h.controller
  if (h.groundFed t_plus_ms .secondary).passed && w.secondaryBarometerOk then
    submitEvent config c now .baromBMP .groundHit else c

theorem handleGround_eq :
    h.handleGround now t_plus_ms w =
      { h with
        primaryBaromGroundDetector := h.groundFed t_plus_ms .primary
        secondaryBaromGroundDetector := h.groundFed t_plus_ms .secondary
        controller := h.groundSubmitted now t_plus_ms w } := by
  unfold CDetectionHandler.handleGround
  simp only [ite_submit]
  rfl

theorem handleGround_frame :
    (∀ side, (h.handleGround now t_plus_ms w).boostDetector side = h.boostDetector side) ∧
    (h.handleGround now t_plus_ms w).boost_detected_time = h.boost_detected_time := by
  rw [handleGround_eq]
  refine ⟨fun side => ?_, rfl⟩
  cases side <;> rfl

/-- A ground detector is fed once, or not at all when the slope is not known. -/
theorem handleGround_groundDetector (side : Side) :
    (h.handleGround now t_plus_ms w).groundDetector side = h.groundDetector side ∨
      ∃ v, (h.handleGround now t_plus_ms w).groundDetector side =
        (h.groundDetector side).feed t_plus_ms v := by
  have hfed : (h.handleGround now t_plus_ms w).groundDetector side =
      h.groundFed t_plus_ms side := by
    rw [handleGround_eq]
    cases side <;> rfl
  rw [hfed]
  unfold CDetectionHandler.groundFed feedSlope
  cases findSlope (h.velocityFinder side) with
  | none => exact Or.inl rfl
  | some v => exact Or.inr ⟨CDouble.fabs v, rfl⟩

theorem handleGround_submits :
    Submits config now
      (fun x => ∃ side : Side, x = (side.barom, .groundHit) ∧ side.baromOk w = true ∧
        ((h.handleGround now t_plus_ms w).groundDetector side).passed = true)
      h.controller (h.handleGround now t_plus_ms w).controller := by
  have hsides := submits_sides now h.controller Side.barom .groundHit
    (fun side => ((h.handleGround now t_plus_ms w).groundDetector side).passed)
    (fun side => side.baromOk w)
  rw [handleGround_eq] at hsides ⊢
  exact hsides

end Ground

/-! ## The whole call -/

section AfterBoost

variable (h : CDetectionHandler D) (now : Nat) (t_plus_ms : UInt32) (w : SensorWorkings)

/-- What `HandleData` does once there is boost. -/
def CDetectionHandler.afterBoost : CDetectionHandler D :=
  let h := if !h.hasEventOccured .noseover then h.handleNoseover now t_plus_ms w else h
  if h.hasEventOccured .noseover && !h.hasEventOccured .groundHit then
    h.handleGround now t_plus_ms w
  else h

/-- What `afterBoost` may submit on the way to `h'`. -/
def SubmittedAfterBoost (h' : CDetectionHandler D) (x : Sources × Events) : Prop :=
  (∃ side : Side, x = (side.barom, .noseover) ∧ h.Occured .noseoverLockout ∧
    side.baromOk w = true) ∨
  ∃ side : Side, x = (side.barom, .groundHit) ∧ h'.Occured .noseover ∧ side.baromOk w = true ∧
    (h'.groundDetector side).passed = true

/-- The state between the two handlers of `afterBoost`. -/
def CDetectionHandler.noseoverHandled : CDetectionHandler D :=
  if !h.hasEventOccured .noseover then h.handleNoseover now t_plus_ms w else h

theorem noseoverHandled_frame :
    (∀ side, (h.noseoverHandled now t_plus_ms w).boostDetector side = h.boostDetector side) ∧
    (∀ side, (h.noseoverHandled now t_plus_ms w).groundDetector side = h.groundDetector side) ∧
    (h.noseoverHandled now t_plus_ms w).boost_detected_time = h.boost_detected_time := by
  unfold CDetectionHandler.noseoverHandled
  split
  · exact handleNoseover_frame h now t_plus_ms w
  · exact ⟨fun _ => rfl, fun _ => rfl, rfl⟩

theorem noseoverHandled_submits :
    Submits config now
      (fun x => ∃ side : Side, x = (side.barom, .noseover) ∧ h.Occured .noseoverLockout ∧
        side.baromOk w = true)
      h.controller (h.noseoverHandled now t_plus_ms w).controller := by
  unfold CDetectionHandler.noseoverHandled
  split
  · exact handleNoseover_submits h now t_plus_ms w
  · exact Submits.refl

theorem afterBoost_eq :
    h.afterBoost now t_plus_ms w =
      if (h.noseoverHandled now t_plus_ms w).hasEventOccured .noseover &&
        !(h.noseoverHandled now t_plus_ms w).hasEventOccured .groundHit then
        (h.noseoverHandled now t_plus_ms w).handleGround now t_plus_ms w
      else h.noseoverHandled now t_plus_ms w := rfl

/-- `afterBoost` ends after `HandleNoseover`, or goes on with `HandleGround`. -/
theorem afterBoost_cases :
    h.afterBoost now t_plus_ms w = h.noseoverHandled now t_plus_ms w ∨
    ((h.noseoverHandled now t_plus_ms w).Occured .noseover ∧
      h.afterBoost now t_plus_ms w =
        (h.noseoverHandled now t_plus_ms w).handleGround now t_plus_ms w) := by
  rw [afterBoost_eq]
  split
  · rename_i hb
    rw [Bool.and_eq_true] at hb
    exact Or.inr ⟨hb.1, rfl⟩
  · exact Or.inl rfl

theorem afterBoost_frame :
    (∀ side, (h.afterBoost now t_plus_ms w).boostDetector side = h.boostDetector side) ∧
    (h.afterBoost now t_plus_ms w).boost_detected_time = h.boost_detected_time := by
  obtain ⟨hboost, -, htime⟩ := noseoverHandled_frame h now t_plus_ms w
  rcases afterBoost_cases h now t_plus_ms w with heq | ⟨-, heq⟩
  · rw [heq]
    exact ⟨hboost, htime⟩
  · obtain ⟨hboost', htime'⟩ :=
      handleGround_frame (h.noseoverHandled now t_plus_ms w) now t_plus_ms w
    rw [heq]
    exact ⟨fun side => (hboost' side).trans (hboost side), htime'.trans htime⟩

theorem afterBoost_groundDetector (side : Side) :
    (h.afterBoost now t_plus_ms w).groundDetector side = h.groundDetector side ∨
      ((h.afterBoost now t_plus_ms w).Occured .noseover ∧
        ∃ v, (h.afterBoost now t_plus_ms w).groundDetector side =
          (h.groundDetector side).feed t_plus_ms v) := by
  obtain ⟨-, hground, -⟩ := noseoverHandled_frame h now t_plus_ms w
  rcases afterBoost_cases h now t_plus_ms w with heq | ⟨hnose, heq⟩
  · rw [heq]
    exact Or.inl (hground side)
  · rw [heq, ← hground side]
    rcases handleGround_groundDetector (h.noseoverHandled now t_plus_ms w) now t_plus_ms w side
      with hsame | hfed
    · exact Or.inl hsame
    · exact Or.inr ⟨(handleGround_submits _ now t_plus_ms w).occured hnose, hfed⟩

theorem afterBoost_submits :
    Submits config now (SubmittedAfterBoost h w (h.afterBoost now t_plus_ms w)) h.controller
      (h.afterBoost now t_plus_ms w).controller := by
  have hfirst := noseoverHandled_submits h now t_plus_ms w
  rcases afterBoost_cases h now t_plus_ms w with heq | ⟨hnose, heq⟩
  · rw [heq]
    exact hfirst.mono fun x hx => Or.inl hx
  · have hsecond := handleGround_submits (h.noseoverHandled now t_plus_ms w) now t_plus_ms w
    rw [heq]
    refine (hfirst.mono fun x hx => Or.inl hx).trans (hsecond.mono ?_)
    rintro x ⟨side, hx, hok, hpassed⟩
    exact Or.inr ⟨side, hx, hsecond.occured hnose, hok, hpassed⟩

end AfterBoost

section HandleData

variable (h : CDetectionHandler D) (timestamp : UInt64) (data : SensorData R) (w : SensorWorkings)

/-- The state `HandleData` looks for boost in. -/
def CDetectionHandler.boostHandled : CDetectionHandler D :=
  if !h.hasEventOccured .boost then
    (h.feedVelocity timestamp data).handleBoost timestamp data w
  else h.feedVelocity timestamp data

theorem handleData_eq :
    h.handleData timestamp data w =
      if !(h.boostHandled timestamp data w).hasEventOccured .boost then
        h.boostHandled timestamp data w
      else
        (h.boostHandled timestamp data w).afterBoost timestamp.toNat
          (tPlusMs timestamp (h.boostHandled timestamp data w).boost_detected_time) w := rfl

theorem feedVelocity_boostDetector (side : Side) :
    (h.feedVelocity timestamp data).boostDetector side = h.boostDetector side := by
  cases side <;> rfl

theorem feedVelocity_groundDetector (side : Side) :
    (h.feedVelocity timestamp data).groundDetector side = h.groundDetector side := by
  cases side <;> rfl

theorem boostHandled_of_occured (hocc : h.Occured .boost) :
    h.boostHandled timestamp data w = h.feedVelocity timestamp data := by
  have htrue : h.hasEventOccured .boost = true := hocc
  unfold CDetectionHandler.boostHandled
  rw [htrue]
  rfl

theorem boostHandled_of_not_occured (hnot : ¬ h.Occured .boost) :
    h.boostHandled timestamp data w =
      (h.feedVelocity timestamp data).handleBoost timestamp data w := by
  have hfalse : h.hasEventOccured .boost = false := Bool.eq_false_of_not_eq_true hnot
  unfold CDetectionHandler.boostHandled
  rw [hfalse]
  rfl

theorem boostHandled_submits :
    Submits config timestamp.toNat
      (fun x => ∃ side : Side, x = (side.acc, .boost) ∧ ¬ h.Occured .boost ∧
        side.accOk w = true ∧ ((h.boostHandled timestamp data w).boostDetector side).passed = true)
      h.controller (h.boostHandled timestamp data w).controller := by
  by_cases hocc : h.Occured .boost
  · rw [boostHandled_of_occured h timestamp data w hocc]
    exact Submits.refl
  · rw [boostHandled_of_not_occured h timestamp data w hocc]
    refine (handleBoost_submits (h.feedVelocity timestamp data) timestamp data w).mono ?_
    rintro x ⟨side, hx, hok, hpassed⟩
    exact ⟨side, hx, hocc, hok, hpassed⟩

theorem boostHandled_boostDetector (hnot : ¬ h.Occured .boost) (side : Side) :
    (h.boostHandled timestamp data w).boostDetector side =
      (h.boostDetector side).feed timestamp.toUInt32
        (squaredMagnitude (side.acceleration data)) := by
  rw [boostHandled_of_not_occured h timestamp data w hnot, handleBoost_boostDetector,
    feedVelocity_boostDetector]

theorem boostHandled_groundDetector (side : Side) :
    (h.boostHandled timestamp data w).groundDetector side = h.groundDetector side := by
  by_cases hocc : h.Occured .boost
  · rw [boostHandled_of_occured h timestamp data w hocc, feedVelocity_groundDetector]
  · rw [boostHandled_of_not_occured h timestamp data w hocc, handleBoost_groundDetector,
      feedVelocity_groundDetector]

theorem boostHandled_boost_detected_time :
    (h.boostHandled timestamp data w).boost_detected_time =
      if ¬ h.Occured .boost ∧ (h.boostHandled timestamp data w).Occured .boost ∧
        h.boost_detected_time = BOOST_NOT_YET_HAPPENED
      then timestamp else h.boost_detected_time := by
  by_cases hocc : h.Occured .boost
  · rw [boostHandled_of_occured h timestamp data w hocc, if_neg (fun hn => hn.1 hocc)]
    rfl
  · rw [boostHandled_of_not_occured h timestamp data w hocc, handleBoost_boost_detected_time]
    simp only [hocc, not_false_eq_true, true_and]
    rfl

/-- Nothing before `afterBoost` lets another event than `Boost` occur. -/
theorem boostHandled_occured_iff {e : Events} (he : e ≠ .boost) :
    (h.boostHandled timestamp data w).Occured e ↔ h.Occured e := by
  have hsame := (boostHandled_submits h timestamp data w).eventStates_of_ne (e := e)
    (by rintro x ⟨side, rfl, -⟩; exact he)
  unfold CDetectionHandler.Occured
  rw [hsame]

/-- **What a call of `HandleData` does**, to the controller and to the detectors. -/
theorem handleData_spec : HandledBy timestamp data w h (h.handleData timestamp data w) := by
  rw [handleData_eq]
  have hsubmits := boostHandled_submits h timestamp data w
  have hboost := boostHandled_boostDetector h timestamp data w
  have hground := boostHandled_groundDetector h timestamp data w
  have htime := boostHandled_boost_detected_time h timestamp data w
  have hother := boostHandled_occured_iff h timestamp data w (e := .noseoverLockout) (by decide)
  generalize h.boostHandled timestamp data w = h1 at hsubmits hboost hground htime hother
  split
  · refine ⟨hsubmits.mono ?_, hboost, htime, fun side => Or.inl (hground side)⟩
    rintro x ⟨side, rfl, hfresh, hok, hpassed⟩
    exact .boost side hfresh hok hpassed
  · rename_i hb
    have hocc : h1.Occured .boost := by
      unfold CDetectionHandler.Occured
      rwa [Bool.not_eq_true', Bool.not_eq_false] at hb
    have hsubmits2 := afterBoost_submits h1 timestamp.toNat
      (tPlusMs timestamp h1.boost_detected_time) w
    obtain ⟨hboost2, htime2⟩ := afterBoost_frame h1 timestamp.toNat
      (tPlusMs timestamp h1.boost_detected_time) w
    have hground2 := afterBoost_groundDetector h1 timestamp.toNat
      (tPlusMs timestamp h1.boost_detected_time) w
    generalize h1.afterBoost timestamp.toNat (tPlusMs timestamp h1.boost_detected_time) w = h2
      at hsubmits2 hboost2 htime2 hground2
    refine ⟨(hsubmits.mono ?_).trans (hsubmits2.mono ?_), fun hnot side => ?_, ?_, fun side => ?_⟩
    · rintro x ⟨side, rfl, hfresh, hok, hpassed⟩
      exact .boost side hfresh hok (by rwa [hboost2])
    · rintro x (⟨side, rfl, hlock, hok⟩ | ⟨side, rfl, hnose, hok, hpassed⟩)
      · exact .noseover side (hother.mp hlock) hok
      · exact .groundHit side hnose hok hpassed
    · rw [hboost2, hboost hnot]
    · have hocc2 : h2.Occured .boost := hsubmits2.occured hocc
      rw [htime2, htime]
      simp only [hocc, hocc2]
    · rw [htime2, ← hground side]
      exact hground2 side

end HandleData

end Backplane.SensorModule
