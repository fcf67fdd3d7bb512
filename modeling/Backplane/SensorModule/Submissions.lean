import Backplane.SensorModule.DeadSensor
import Backplane.SensorModule.Phases

/-!
# What a call submits, and on which samples

The `SubmitEvent` calls of one `HandleData` (`submissions`), and the samples that the debouncer
behind each of them has counted. The working flag of a sensor is looked at when its event is
submitted; its samples are fed whether it works or not.

Results:
* `handleData_submissions`: the controller after a call is the one before it, after these
  submissions.
* `handlerStep_debouncer`: what a step feeds a debouncer, `Detector.fed`: while its phase is on, the
  value of the call's own sample. The working flags of the call have no part in it.
* `submitted_on`: whoever is submitted for works at that moment, and its debouncer has passed on
  nothing but passing samples.
* `good_samples_fail`: a boost that rests on a sample taken while the accelerometer did not work.
-/

namespace Backplane.SensorModule

open Backplane.Run
open Backplane.Flight
open Backplane.Utils

variable {R D : Type}

/-! ## The submissions of a call -/

section Defs

variable [CDouble D] (h : CDetectionHandler D)

/-- The submissions of `HandleBoost`. -/
def CDetectionHandler.boostSubmissions [CFloat R D] (timestamp : UInt64) (data : SensorData R)
    (w : SensorWorkings) : List (Sources × Events) :=
  (if (h.boostFed timestamp data .primary).passed && w.primaryAccOk then [(.highGImu, .boost)]
    else []) ++
  if (h.boostFed timestamp data .secondary).passed && w.secondaryAccOk then [(.lowGImu, .boost)]
    else []

/-- The submissions of `HandleNoseover`. -/
def CDetectionHandler.noseoverSubmissions (t_plus_ms : UInt32) (w : SensorWorkings) :
    List (Sources × Events) :=
  (if (h.noseoverFed t_plus_ms .primary).passed && h.hasEventOccured .noseoverLockout &&
      w.primaryBarometerOk then [(.baromMS5611, .noseover)] else []) ++
  if (h.noseoverFed t_plus_ms .secondary).passed && h.hasEventOccured .noseoverLockout &&
      w.secondaryBarometerOk then [(.baromBMP, .noseover)] else []

/-- The submissions of `HandleGround`. -/
def CDetectionHandler.groundSubmissions (t_plus_ms : UInt32) (w : SensorWorkings) :
    List (Sources × Events) :=
  (if (h.groundFed t_plus_ms .primary).passed && w.primaryBarometerOk then
      [(.baromMS5611, .groundHit)] else []) ++
  if (h.groundFed t_plus_ms .secondary).passed && w.secondaryBarometerOk then
      [(.baromBMP, .groundHit)] else []

/-- The submissions that follow boost in a call. -/
def CDetectionHandler.afterBoostSubmissions (now : Nat) (t_plus_ms : UInt32) (w : SensorWorkings) :
    List (Sources × Events) :=
  let h1 := h.noseoverHandled now t_plus_ms w
  (if !h.hasEventOccured .noseover then h.noseoverSubmissions t_plus_ms w else []) ++
  if h1.hasEventOccured .noseover && !h1.hasEventOccured .groundHit then
    h1.groundSubmissions t_plus_ms w
  else []

/-- The submissions of `HandleData`. -/
def CDetectionHandler.handleDataSubmissions [CFloat R D] (timestamp : UInt64)
    (data : SensorData R) (w : SensorWorkings) : List (Sources × Events) :=
  let h1 := h.boostHandled timestamp data w
  (if !h.hasEventOccured .boost then
    (h.feedVelocity timestamp data).boostSubmissions timestamp data w else []) ++
  if !h1.hasEventOccured .boost then []
  else h1.afterBoostSubmissions timestamp.toNat (tPlusMs timestamp h1.boost_detected_time) w

/-- The submissions that a step's `HandleData` makes. A timer is not a sensor. -/
def CDetectionHandler.submissions [CFloat R D] : Step R → List (Sources × Events)
  | .run uptime data w => h.handleDataSubmissions uptime data w
  | .expiry _ _ => []

end Defs

/-- The controller after these submissions. -/
abbrev submitted (now : Nat) (c : SensorModulePhaseController) (subs : List (Sources × Events)) :
    SensorModulePhaseController :=
  run (step config) c (submitAll (subs.map (Prod.mk now)))

theorem submitted_append (now : Nat) (c : SensorModulePhaseController)
    (l l' : List (Sources × Events)) :
    submitted now c (l ++ l') = submitted now (submitted now c l) l' := by
  unfold submitted submitAll
  rw [List.map_append, List.map_append, run_append]

theorem submitted_ite (now : Nat) (c : SensorModulePhaseController) (b : Bool) (source : Sources)
    (event : Events) :
    submitted now c (if b then [(source, event)] else []) =
      if b then submitEvent config c now source event else c := by
  cases b <;> rfl

/-- What is recorded after submissions: what was, and what they submit. -/
theorem submitted_recorded_iff (now : Nat) (c : SensorModulePhaseController)
    (subs : List (Sources × Events)) {source : Sources} {event : Events} :
    (submitted now c subs).sourceStates event source = true ↔
      c.sourceStates event source = true ∨ (source, event) ∈ subs := by
  induction subs generalizing c with
  | nil => simp [submitted, submitAll]
  | cons x subs ih =>
    show (submitted now (submitEvent config c now x.1 x.2) subs).sourceStates event source = true
      ↔ _
    rw [ih, submitEvent_recorded_iff, List.mem_cons, or_assoc]

section Controller

variable [CDouble D] (h : CDetectionHandler D) (now : Nat) (t_plus_ms : UInt32)
  (timestamp : UInt64) (data : SensorData R) (w : SensorWorkings)

theorem boostSubmitted_eq [CFloat R D] :
    h.boostSubmitted timestamp data w =
      submitted timestamp.toNat h.controller (h.boostSubmissions timestamp data w) := by
  unfold CDetectionHandler.boostSubmissions
  rw [submitted_append, submitted_ite, submitted_ite]
  rfl

theorem noseoverSubmitted_eq :
    h.noseoverSubmitted now t_plus_ms w =
      submitted now h.controller (h.noseoverSubmissions t_plus_ms w) := by
  unfold CDetectionHandler.noseoverSubmissions
  rw [submitted_append, submitted_ite, submitted_ite]
  unfold CDetectionHandler.noseoverSubmitted CDetectionHandler.hasEventOccured
    CPhaseController.hasEventOccured
  simp only
  -- the first submission is for another event than the lockout
  have hlock : ∀ b : Bool, (if b then submitEvent config h.controller now .baromMS5611 .noseover
      else h.controller).eventStates .noseoverLockout =
        h.controller.eventStates .noseoverLockout := by
    intro b
    cases b
    · rfl
    · exact submitEvent_eventStates_other (by decide)
  rw [hlock]

theorem groundSubmitted_eq :
    h.groundSubmitted now t_plus_ms w =
      submitted now h.controller (h.groundSubmissions t_plus_ms w) := by
  unfold CDetectionHandler.groundSubmissions
  rw [submitted_append, submitted_ite, submitted_ite]
  rfl

theorem afterBoost_submissions :
    (h.afterBoost now t_plus_ms w).controller =
      submitted now h.controller (h.afterBoostSubmissions now t_plus_ms w) := by
  have hnose : (h.noseoverHandled now t_plus_ms w).controller = submitted now h.controller
      (if !h.hasEventOccured .noseover then h.noseoverSubmissions t_plus_ms w else []) := by
    unfold CDetectionHandler.noseoverHandled
    split
    · rw [handleNoseover_eq]
      exact noseoverSubmitted_eq h now t_plus_ms w
    · rfl
  rw [afterBoost_eq]
  unfold CDetectionHandler.afterBoostSubmissions
  rw [submitted_append, ← hnose]
  split
  · rw [handleGround_eq]
    exact groundSubmitted_eq _ now t_plus_ms w
  · rfl

/-- **The controller after a call** is the one before it, after the call's submissions. -/
theorem handleData_submissions [CFloat R D] :
    (h.handleData timestamp data w).controller =
      submitted timestamp.toNat h.controller (h.handleDataSubmissions timestamp data w) := by
  have hboost : (h.boostHandled timestamp data w).controller = submitted timestamp.toNat
      h.controller (if !h.hasEventOccured .boost then
        (h.feedVelocity timestamp data).boostSubmissions timestamp data w else []) := by
    unfold CDetectionHandler.boostHandled
    split
    · rw [handleBoost_eq]
      exact boostSubmitted_eq (h.feedVelocity timestamp data) timestamp data w
    · rfl
  rw [handleData_eq]
  unfold CDetectionHandler.handleDataSubmissions
  rw [submitted_append, ← hboost]
  split
  · rfl
  · exact afterBoost_submissions ..

end Controller

/-! ## The debouncers -/

/-- The six debouncers. -/
inductive Detector
  | boost (side : Side)
  | noseover (side : Side)
  | ground (side : Side)
  deriving DecidableEq

/-- The sensor whose readings a debouncer is fed. -/
def Detector.sensor : Detector → Sensor
  | .boost side => .acc side
  | .noseover side | .ground side => .barom side

/-- What is submitted when it has passed. -/
def Detector.submission : Detector → Sources × Events
  | .boost side => (side.acc, .boost)
  | .noseover side => (side.barom, .noseover)
  | .ground side => (side.barom, .groundHit)

def Detector.direction : Detector → ThresholdDirection
  | .boost _ => .over
  | .noseover _ | .ground _ => .under

/-- The debouncer in the handler. -/
def Detector.debouncer (d : Detector) (h : CDetectionHandler D) : CDebouncer d.direction D :=
  match d with
  | .boost side => h.boostDetector side
  | .noseover side => h.noseoverDetector side
  | .ground side => h.groundDetector side

theorem submission_injective : Function.Injective Detector.submission := by
  rintro (side | side | side) (side' | side' | side') heq <;> cases side <;> cases side' <;>
    first | rfl | exact absurd heq (by decide)

/-- In a call from `h` to `h'` the phase of the debouncer is on. -/
def Detector.Due (d : Detector) (h h' : CDetectionHandler D) : Prop :=
  match d with
  | .boost _ => ¬ h.Occured .boost
  | .noseover _ => h'.Occured .boost ∧ ¬ h.Occured .noseover
  | .ground _ => h'.Occured .boost ∧ h'.Occured .noseover ∧ ¬ h.Occured .groundHit

instance (d : Detector) (h h' : CDetectionHandler D) : Decidable (d.Due h h') :=
  match d with
  | .boost _ => inferInstanceAs (Decidable (¬ _))
  | .noseover _ => inferInstanceAs (Decidable (_ ∧ ¬ _))
  | .ground _ => inferInstanceAs (Decidable (_ ∧ _ ∧ ¬ _))

/-- The value the debouncer gets of a call's sample: the squared magnitude, or the slope of the
last samples, this one included, if there is one. -/
def Detector.value [CDouble D] [CFloat R D] (d : Detector) (h : CDetectionHandler D)
    (timestamp : UInt64) (data : SensorData R) : Option D :=
  match d with
  | .boost side => some (squaredMagnitude (side.acceleration data))
  | .noseover side => findSlope ((h.feedVelocity timestamp data).velocityFinder side)
  | .ground side =>
    (findSlope ((h.feedVelocity timestamp data).velocityFinder side)).map CDouble.fabs

/-- The time it gets with it. -/
def Detector.stamp (d : Detector) (timestamp : UInt64) (h' : CDetectionHandler D) : UInt32 :=
  match d with
  | .boost _ => timestamp.toUInt32
  | .noseover _ | .ground _ => tPlusMs timestamp h'.boost_detected_time

/-- What a step from `h` to `h'` feeds the debouncer, if anything. -/
def Detector.fed [CDouble D] [CFloat R D] (d : Detector) (h h' : CDetectionHandler D) :
    Step R → Option (UInt32 × D)
  | .run uptime data _ =>
    if d.Due h h' then (d.value h uptime data).map (Prod.mk (d.stamp uptime h')) else none
  | .expiry _ _ => none

section Fed

variable [CDouble D] (h : CDetectionHandler D) (now : Nat) (t_plus_ms : UInt32)
  (timestamp : UInt64) (data : SensorData R) (w : SensorWorkings) (side : Side)

variable {h timestamp data} in
theorem Detector.fed_of_due [CFloat R D] (d : Detector) {h' : CDetectionHandler D}
    (hdue : d.Due h h') : d.fed h h' (.run timestamp data w) =
      (d.value h timestamp data).map (Prod.mk (d.stamp timestamp h')) := if_pos hdue

variable {h timestamp data} in
theorem Detector.fed_of_not_due [CFloat R D] (d : Detector) {h' : CDetectionHandler D}
    (hdue : ¬ d.Due h h') : d.fed h h' (.run timestamp data w) = none := if_neg hdue

/-- `feedSlope` feeds the slope, if there is one. -/
theorem feedSlope_eq (slope : Option D) (f : D → D) (detector : CDebouncer .under D) :
    feedSlope slope f t_plus_ms detector =
      detector.feedAll ((slope.map f).map (Prod.mk t_plus_ms)).toList := by
  cases slope <;> rfl

omit [CDouble D] in
theorem not_hasEventOccured_iff (event : Events) :
    (!h.hasEventOccured event) = true ↔ ¬ h.Occured event := by
  rw [Bool.not_eq_true', ← Bool.not_eq_true]
  rfl

/-! ### Noseover and ground -/

theorem handleNoseover_noseoverDetector :
    (h.handleNoseover now t_plus_ms w).noseoverDetector side = h.noseoverFed t_plus_ms side := by
  rw [handleNoseover_eq]
  cases side <;> rfl

theorem handleNoseover_velocityFinder :
    (h.handleNoseover now t_plus_ms w).velocityFinder side = h.velocityFinder side := by
  rw [handleNoseover_eq]
  cases side <;> rfl

theorem handleGround_noseoverDetector :
    (h.handleGround now t_plus_ms w).noseoverDetector side = h.noseoverDetector side := by
  rw [handleGround_eq]
  cases side <;> rfl

theorem handleGround_groundFed :
    (h.handleGround now t_plus_ms w).groundDetector side = h.groundFed t_plus_ms side := by
  rw [handleGround_eq]
  cases side <;> rfl

/-- `HandleNoseover` lets no other event than `Noseover` occur. -/
theorem noseoverHandled_occured_iff {e : Events} (he : e ≠ .noseover) :
    (h.noseoverHandled now t_plus_ms w).Occured e ↔ h.Occured e := by
  have hsame := (noseoverHandled_submits h now t_plus_ms w).eventStates_of_ne (e := e)
    (by rintro x ⟨side, rfl, -⟩; exact he)
  unfold CDetectionHandler.Occured
  rw [hsame]

/-- After `HandleNoseover` no other event than `GroundHit` occurs. -/
theorem afterBoost_occured_iff {e : Events} (he : e ≠ .groundHit) :
    (h.afterBoost now t_plus_ms w).Occured e ↔
      (h.noseoverHandled now t_plus_ms w).Occured e := by
  rcases afterBoost_cases h now t_plus_ms w with heq | ⟨-, heq⟩
  · rw [heq]
  · have hsame := (handleGround_submits (h.noseoverHandled now t_plus_ms w) now t_plus_ms
      w).eventStates_of_ne (e := e) (by rintro x ⟨side, rfl, -⟩; exact he)
    unfold CDetectionHandler.Occured
    rw [heq, hsame]

theorem noseoverHandled_groundFed :
    (h.noseoverHandled now t_plus_ms w).groundFed t_plus_ms side = h.groundFed t_plus_ms side := by
  have hfinder : (h.noseoverHandled now t_plus_ms w).velocityFinder side =
      h.velocityFinder side := by
    unfold CDetectionHandler.noseoverHandled
    split
    · exact handleNoseover_velocityFinder h now t_plus_ms w side
    · rfl
  unfold CDetectionHandler.groundFed
  rw [hfinder, (noseoverHandled_frame h now t_plus_ms w).2.1]

theorem afterBoost_noseoverDetector :
    (h.afterBoost now t_plus_ms w).noseoverDetector side =
      if h.Occured .noseover then h.noseoverDetector side else h.noseoverFed t_plus_ms side := by
  have hfirst : (h.afterBoost now t_plus_ms w).noseoverDetector side =
      (h.noseoverHandled now t_plus_ms w).noseoverDetector side := by
    rcases afterBoost_cases h now t_plus_ms w with heq | ⟨-, heq⟩
    · rw [heq]
    · rw [heq, handleGround_noseoverDetector]
  rw [hfirst]
  unfold CDetectionHandler.noseoverHandled
  by_cases hocc : h.Occured .noseover
  · rw [if_neg (mt (not_hasEventOccured_iff h _).mp (not_not.mpr hocc)), if_pos hocc]
  · rw [if_pos ((not_hasEventOccured_iff h _).mpr hocc), if_neg hocc,
      handleNoseover_noseoverDetector]

theorem afterBoost_groundFed :
    (h.afterBoost now t_plus_ms w).groundDetector side =
      if (h.afterBoost now t_plus_ms w).Occured .noseover ∧ ¬ h.Occured .groundHit then
        h.groundFed t_plus_ms side
      else h.groundDetector side := by
  have hiff : ((h.noseoverHandled now t_plus_ms w).hasEventOccured .noseover &&
      !(h.noseoverHandled now t_plus_ms w).hasEventOccured .groundHit) = true ↔
      (h.afterBoost now t_plus_ms w).Occured .noseover ∧ ¬ h.Occured .groundHit := by
    rw [Bool.and_eq_true, not_hasEventOccured_iff,
      noseoverHandled_occured_iff h now t_plus_ms w (by decide),
      afterBoost_occured_iff h now t_plus_ms w (by decide)]
    rfl
  by_cases hdue : (h.afterBoost now t_plus_ms w).Occured .noseover ∧ ¬ h.Occured .groundHit
  · rw [if_pos hdue, afterBoost_eq, if_pos (hiff.mpr hdue), handleGround_groundFed,
      noseoverHandled_groundFed]
  · rw [if_neg hdue, afterBoost_eq, if_neg (mt hiff.mp hdue)]
    exact (noseoverHandled_frame h now t_plus_ms w).2.1 side

/-! ### The whole call -/

theorem boostHandled_noseoverDetector [CFloat R D] :
    (h.boostHandled timestamp data w).noseoverDetector side = h.noseoverDetector side := by
  unfold CDetectionHandler.boostHandled
  split
  · rw [handleBoost_eq]
    cases side <;> rfl
  · cases side <;> rfl

theorem boostHandled_velocityFinder [CFloat R D] :
    (h.boostHandled timestamp data w).velocityFinder side =
      (h.feedVelocity timestamp data).velocityFinder side := by
  unfold CDetectionHandler.boostHandled
  split
  · rw [handleBoost_eq]
    cases side <;> rfl
  · rfl

/-- Nothing after `HandleBoost` lets `Boost` occur. -/
theorem handleData_boost_iff [CFloat R D] :
    (h.handleData timestamp data w).Occured .boost ↔
      (h.boostHandled timestamp data w).Occured .boost := by
  rw [handleData_eq]
  split
  · rfl
  · rw [afterBoost_occured_iff _ _ _ _ (by decide), noseoverHandled_occured_iff _ _ _ _ (by decide)]

/-- A call in which there is no boost, and one in which there is. -/
theorem handleData_cases [CFloat R D] :
    (¬ (h.handleData timestamp data w).Occured .boost ∧
      h.handleData timestamp data w = h.boostHandled timestamp data w) ∨
    ((h.handleData timestamp data w).Occured .boost ∧
      h.handleData timestamp data w = (h.boostHandled timestamp data w).afterBoost
        timestamp.toNat (tPlusMs timestamp (h.handleData timestamp data w).boost_detected_time)
        w) := by
  by_cases hocc : (h.boostHandled timestamp data w).Occured .boost
  · have heq : h.handleData timestamp data w = (h.boostHandled timestamp data w).afterBoost
        timestamp.toNat (tPlusMs timestamp (h.boostHandled timestamp data w).boost_detected_time)
        w := by
      rw [handleData_eq, if_neg (mt (not_hasEventOccured_iff _ _).mp (not_not.mpr hocc))]
    refine Or.inr ⟨(handleData_boost_iff h timestamp data w).mpr hocc, ?_⟩
    have htime : (h.handleData timestamp data w).boost_detected_time =
        (h.boostHandled timestamp data w).boost_detected_time := by
      rw [heq, (afterBoost_frame _ _ _ _).2]
    rw [htime]
    exact heq
  · refine Or.inl ⟨mt (handleData_boost_iff h timestamp data w).mp hocc, ?_⟩
    rw [handleData_eq, if_pos ((not_hasEventOccured_iff _ _).mpr hocc)]

theorem handleData_boostDetector [CFloat R D] :
    (h.handleData timestamp data w).boostDetector side =
      (h.boostHandled timestamp data w).boostDetector side := by
  rcases handleData_cases h timestamp data w with ⟨-, heq⟩ | ⟨-, heq⟩
  · rw [heq]
  · rw [heq, (afterBoost_frame _ _ _ _).1]

/-- **A call feeds a debouncer** the value of its sample while the phase is on, and nothing else. -/
theorem handleData_debouncer [CFloat R D] (d : Detector) :
    d.debouncer (h.handleData timestamp data w) =
      (d.debouncer h).feedAll
        (d.fed h (h.handleData timestamp data w) (.run timestamp data w)).toList := by
  cases d with
  | boost side =>
    show (h.handleData timestamp data w).boostDetector side = _
    rw [handleData_boostDetector]
    by_cases hocc : h.Occured .boost
    · rw [Detector.fed_of_not_due w (.boost side) (not_not.mpr hocc),
        boostHandled_of_occured h timestamp data w hocc, feedVelocity_boostDetector]
      rfl
    · rw [Detector.fed_of_due w (.boost side) hocc,
        boostHandled_boostDetector h timestamp data w hocc]
      rfl
  | noseover side =>
    show (h.handleData timestamp data w).noseoverDetector side = _
    rcases handleData_cases h timestamp data w with ⟨hno, heq⟩ | ⟨hboost, heq⟩
    · rw [Detector.fed_of_not_due w (.noseover side) (fun hdue => hno hdue.1), heq,
        boostHandled_noseoverDetector]
      rfl
    · have hfed := afterBoost_noseoverDetector (h.boostHandled timestamp data w) timestamp.toNat
        (tPlusMs timestamp (h.handleData timestamp data w).boost_detected_time) w side
      rw [← heq, boostHandled_noseoverDetector] at hfed
      rw [hfed]
      simp only [boostHandled_occured_iff h timestamp data w (e := .noseover) (by decide)]
      by_cases hocc : h.Occured .noseover
      · rw [if_pos hocc, Detector.fed_of_not_due w (.noseover side) (fun hdue => hdue.2 hocc)]
        rfl
      · rw [if_neg hocc, Detector.fed_of_due w (.noseover side) ⟨hboost, hocc⟩,
          CDetectionHandler.noseoverFed, feedSlope_eq, boostHandled_noseoverDetector,
          boostHandled_velocityFinder, Option.map_id]
        rfl
  | ground side =>
    show (h.handleData timestamp data w).groundDetector side = _
    rcases handleData_cases h timestamp data w with ⟨hno, heq⟩ | ⟨hboost, heq⟩
    · rw [Detector.fed_of_not_due w (.ground side) (fun hdue => hno hdue.1), heq,
        boostHandled_groundDetector]
      rfl
    · have hfed := afterBoost_groundFed (h.boostHandled timestamp data w) timestamp.toNat
        (tPlusMs timestamp (h.handleData timestamp data w).boost_detected_time) w side
      rw [← heq, boostHandled_groundDetector] at hfed
      rw [hfed]
      simp only [boostHandled_occured_iff h timestamp data w (e := .groundHit) (by decide)]
      by_cases hdue : (h.handleData timestamp data w).Occured .noseover ∧ ¬ h.Occured .groundHit
      · rw [if_pos hdue, Detector.fed_of_due w (.ground side) ⟨hboost, hdue⟩,
          CDetectionHandler.groundFed, feedSlope_eq, boostHandled_groundDetector,
          boostHandled_velocityFinder]
        rfl
      · rw [if_neg hdue, Detector.fed_of_not_due w (.ground side) (fun hdue' => hdue hdue'.2)]
        rfl

/-- **What a step feeds a debouncer**: what its sample gives while the phase is on. -/
theorem handlerStep_debouncer [CFloat R D] (a : Step R) (d : Detector) :
    d.debouncer (handlerStep h a) =
      (d.debouncer h).feedAll (d.fed h (handlerStep h a) a).toList := by
  cases a with
  | run uptime data w => exact handleData_debouncer h uptime data w d
  | expiry now i => cases d <;> rename_i side <;> cases side <;> rfl

/-! ## Who is submitted for -/

/-- What is submitted in a call, its sensor works and its debouncer has passed. -/
structure SubmittedOn (w : SensorWorkings) (h' : CDetectionHandler D) (d : Detector) : Prop where
  ok : d.sensor.ok w = true
  passed : (d.debouncer h').passed = true

/-- One submission a side, each under its own condition. -/
theorem mem_sides {α : Type} {x : α} {p : Side → Bool} {e : Side → α} :
    x ∈ (if p .primary then [e .primary] else []) ++
        (if p .secondary then [e .secondary] else []) ↔ ∃ side, x = e side ∧ p side = true := by
  rw [List.mem_append, List.mem_ite_nil_right, List.mem_ite_nil_right]
  constructor
  · rintro (⟨hp, hx⟩ | ⟨hp, hx⟩)
    · exact ⟨.primary, List.mem_singleton.mp hx, hp⟩
    · exact ⟨.secondary, List.mem_singleton.mp hx, hp⟩
  · rintro ⟨side, rfl, hp⟩
    cases side
    · exact Or.inl ⟨hp, List.mem_singleton_self _⟩
    · exact Or.inr ⟨hp, List.mem_singleton_self _⟩

theorem mem_boostSubmissions [CFloat R D] {x : Sources × Events} :
    x ∈ h.boostSubmissions timestamp data w ↔ ∃ side, x = (Detector.boost side).submission ∧
      (h.boostFed timestamp data side).passed = true ∧ side.accOk w = true := by
  have hmem := mem_sides (x := x) (e := fun side => (Detector.boost side).submission)
    (p := fun side => (h.boostFed timestamp data side).passed && side.accOk w)
  refine hmem.trans (exists_congr fun side => and_congr_right fun _ => ?_)
  rw [Bool.and_eq_true]

theorem mem_noseoverSubmissions {x : Sources × Events} :
    x ∈ h.noseoverSubmissions t_plus_ms w ↔ ∃ side, x = (Detector.noseover side).submission ∧
      ((h.noseoverFed t_plus_ms side).passed = true ∧ h.hasEventOccured .noseoverLockout = true) ∧
        side.baromOk w = true := by
  have hmem := mem_sides (x := x) (e := fun side => (Detector.noseover side).submission)
    (p := fun side => (h.noseoverFed t_plus_ms side).passed &&
      h.hasEventOccured .noseoverLockout && side.baromOk w)
  refine hmem.trans (exists_congr fun side => and_congr_right fun _ => ?_)
  rw [Bool.and_eq_true, Bool.and_eq_true]

theorem mem_groundSubmissions {x : Sources × Events} :
    x ∈ h.groundSubmissions t_plus_ms w ↔ ∃ side, x = (Detector.ground side).submission ∧
      (h.groundFed t_plus_ms side).passed = true ∧ side.baromOk w = true := by
  have hmem := mem_sides (x := x) (e := fun side => (Detector.ground side).submission)
    (p := fun side => (h.groundFed t_plus_ms side).passed && side.baromOk w)
  refine hmem.trans (exists_congr fun side => and_congr_right fun _ => ?_)
  rw [Bool.and_eq_true]

theorem afterBoost_submittedOn {d : Detector}
    (hd : d.submission ∈ h.afterBoostSubmissions now t_plus_ms w) :
    SubmittedOn w (h.afterBoost now t_plus_ms w) d := by
  unfold CDetectionHandler.afterBoostSubmissions at hd
  simp only [List.mem_append, List.mem_ite_nil_right] at hd
  rcases hd with ⟨hfresh, hd⟩ | ⟨hafter, hd⟩
  · obtain ⟨side, heq, ⟨hpassed, -⟩, hok⟩ := (mem_noseoverSubmissions ..).mp hd
    cases submission_injective heq
    refine ⟨hok, ?_⟩
    show ((h.afterBoost now t_plus_ms w).noseoverDetector side).passed = true
    rwa [afterBoost_noseoverDetector, if_neg ((not_hasEventOccured_iff h _).mp hfresh)]
  · obtain ⟨side, heq, hpassed, hok⟩ := (mem_groundSubmissions ..).mp hd
    cases submission_injective heq
    refine ⟨hok, ?_⟩
    show ((h.afterBoost now t_plus_ms w).groundDetector side).passed = true
    rwa [afterBoost_eq, if_pos hafter, handleGround_groundFed]

/-- **Whoever a call submits for** works, and its debouncer has passed. -/
theorem handleData_submittedOn [CFloat R D] {d : Detector}
    (hd : d.submission ∈ h.handleDataSubmissions timestamp data w) :
    SubmittedOn w (h.handleData timestamp data w) d := by
  unfold CDetectionHandler.handleDataSubmissions at hd
  simp only [List.mem_append, List.mem_ite_nil_right] at hd
  rcases hd with ⟨hfresh, hd⟩ | hd
  · obtain ⟨side, heq, hpassed, hok⟩ := (mem_boostSubmissions ..).mp hd
    cases submission_injective heq
    refine ⟨hok, ?_⟩
    have hnot : ¬ h.Occured .boost := by
      unfold CDetectionHandler.Occured
      rwa [Bool.not_eq_true', ← Bool.not_eq_true] at hfresh
    have hfed : (h.boostHandled timestamp data w).boostDetector side =
        (h.feedVelocity timestamp data).boostFed timestamp data side := by
      rw [boostHandled_boostDetector h timestamp data w hnot, CDetectionHandler.boostFed,
        feedVelocity_boostDetector]
    show ((h.handleData timestamp data w).boostDetector side).passed = true
    rw [handleData_eq]
    split
    · rwa [hfed]
    · rwa [(afterBoost_frame _ _ _ _).1, hfed]
  · rw [handleData_eq]
    split at hd
    · exact absurd hd List.not_mem_nil
    · rename_i hocc
      rw [if_neg hocc]
      exact afterBoost_submittedOn _ _ _ _ hd

end Fed

/-! ## Runs of calls -/

section Runs

variable [CDouble D] [CFloat R D]

/-- Before step `k`. -/
abbrev handledAt (start : CDetectionHandler D) (steps : List (Step R)) (k : Nat) :
    CDetectionHandler D := stateAt handlerStep start steps k

/-- Step `k`, a call with working flags `w`, submits for the sensor of `d`. -/
def SubmitsAt (start : CDetectionHandler D) (steps : List (Step R)) (k : Nat)
    (w : SensorWorkings) (d : Detector) : Prop :=
  ∃ uptime data, steps[k]? = some (.run uptime data w) ∧
    d.submission ∈ (handledAt start steps k).handleDataSubmissions uptime data w

/-- Step `j` is in the window of step `k`: from the sample that set `firstTimePassed` on. -/
def InWindow (start : CDetectionHandler D) (steps : List (Step R)) (d : Detector) (j k : Nat) :
    Prop :=
  j ≤ k ∧ ∀ i, j ≤ i → i ≤ k →
    (d.debouncer (handledAt start steps (i + 1))).firstTimePassed ≠ NOT_PASSED

/-- **Events rest on good samples only**: the sensor worked in every call of the window. -/
def GoodSamplesOnly (start : CDetectionHandler D) (steps : List (Step R)) : Prop :=
  ∀ k w d, SubmitsAt start steps k w d → ∀ j, InWindow start steps d j k →
    ∀ uptime data w', steps[j]? = some (.run uptime data w') → d.sensor.ok w' = true

/-- A debouncer whose first time is set has just been fed a value that passes, if any. -/
theorem passesOne_of_feed {direction : ThresholdDirection} {d : CDebouncer direction D}
    {t : UInt32} {v : D} (h : (d.feed t v).firstTimePassed ≠ NOT_PASSED) :
    d.passesOne v = true := by
  by_contra hv
  unfold CDebouncer.feed at h
  rw [if_neg hv] at h
  exact h rfl

theorem handledAt_succ (start : CDetectionHandler D) {steps : List (Step R)} {k : Nat} {a : Step R}
    (h : steps[k]? = some a) :
    handledAt start steps (k + 1) = handlerStep (handledAt start steps k) a :=
  stateAt_succ h

/-- **What is submitted rests on passing samples.** The sensor works in the call that submits, and
the debouncer has passed by then. Each step feeds it what its sample gives while the phase is on,
whether the sensor works or not, and in the window all of that are values that pass. -/
theorem submitted_on (start : CDetectionHandler D) {steps : List (Step R)} {k : Nat}
    {w : SensorWorkings} {d : Detector} (h : SubmitsAt start steps k w d) :
    d.sensor.ok w = true ∧ (d.debouncer (handledAt start steps (k + 1))).passed = true ∧
      ∀ j a, steps[j]? = some a →
        let before := handledAt start steps j
        let after := handledAt start steps (j + 1)
        d.debouncer after = (d.debouncer before).feedAll (d.fed before after a).toList ∧
          (InWindow start steps d j k →
            ∀ x ∈ d.fed before after a, (d.debouncer before).passesOne x.2 = true) := by
  obtain ⟨uptime, data, hk, hd⟩ := h
  have hon := handleData_submittedOn _ uptime data w hd
  refine ⟨hon.ok, ?_, fun j a ha => ?_⟩
  · rw [handledAt_succ start hk]
    exact hon.passed
  · intro before after
    have hfed : d.debouncer after =
        (d.debouncer before).feedAll (d.fed before after a).toList := by
      have hstep := handlerStep_debouncer before a d
      rwa [← handledAt_succ start ha] at hstep
    refine ⟨hfed, fun hj x hx => ?_⟩
    rw [Option.mem_def.mp hx] at hfed
    have hset := hj.2 j (Nat.le_refl j) hj.1
    rw [show d.debouncer (handledAt start steps (j + 1)) = (d.debouncer before).feed x.1 x.2
      from hfed] at hset
    exact passesOne_of_feed hset

end Runs

/-- Both accelerometers read 60 m/s² in two calls, and do not work in the first. -/
def boostOnBadSample : List (Step Rat) :=
  [.run 0 (seaLevelReading 60) ⟨false, false, true, true⟩, .run 251 (seaLevelReading 60) allOk]

theorem boostOnBadSample_submits :
    SubmitsAt initialHandler boostOnBadSample 1 allOk (.boost .primary) :=
  ⟨251, seaLevelReading 60, rfl, by decide +kernel⟩

theorem submitted_on_boost :
    (Detector.boost .primary).sensor.ok allOk = true ∧
      ((Detector.boost .primary).debouncer
        (handledAt initialHandler boostOnBadSample 2)).passed = true ∧
      ∀ j a, boostOnBadSample[j]? = some a →
        let d := Detector.boost .primary
        let before := handledAt initialHandler boostOnBadSample j
        let after := handledAt initialHandler boostOnBadSample (j + 1)
        d.debouncer after = (d.debouncer before).feedAll (d.fed before after a).toList ∧
          (InWindow initialHandler boostOnBadSample d j 1 →
            ∀ x ∈ d.fed before after a, (d.debouncer before).passesOne x.2 = true) :=
  submitted_on initialHandler boostOnBadSample_submits

/-- **Boost is submitted on a sample taken while the accelerometer did not work.** -/
theorem good_samples_fail :
    ¬ ∀ steps : List (Step Rat),
      GoodSamplesOnly (initialHandler : CDetectionHandler Rat) steps := by
  intro h
  have hwindow : InWindow initialHandler boostOnBadSample (.boost .primary) 0 1 := by
    refine ⟨by decide, fun i _ hi => ?_⟩
    rcases Nat.le_one_iff_eq_zero_or_eq_one.mp hi with rfl | rfl
    · decide +kernel
    · decide +kernel
  have hok := h boostOnBadSample 1 allOk _ boostOnBadSample_submits 0 hwindow 0
    (seaLevelReading 60) ⟨false, false, true, true⟩ rfl
  exact absurd hok (by decide)

end Backplane.SensorModule
