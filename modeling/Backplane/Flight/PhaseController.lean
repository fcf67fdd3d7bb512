import Backplane.General.LatchBank

/-!
# The phase controller

Model of `CPhaseController` (`include/f_core/flight/c_phase_controller.h`), over any event and
source enumerations, timer table and decision functions.

* `submitEvent` is `SubmitEvent`. The loop that starts timers touches slot `i` in round `i` only,
  so it is written slot by slot (`startTimers`).
* The kernel's part is `KTimer`: how often `k_timer_start` was called, and since when the timer
  runs. Every timer is started with period `K_NO_WAIT`, so an expiry stops it (`timerExpiry`). The
  controller never reads the clock; `now` is the kernel uptime (ms) at which a call runs.
* `osEvents` is the 32-bit word of the `k_event`, which nobody clears after construction.
* The flight log is the list of lines passed to `CFlightLog::Write`, nothing when the controller
  was built without a log.

A controller is a bank of latches (`Backplane.LatchBank`): `submitEvent_bank` and `bank_run` say
that every run of the controller is the run of the bank over the submissions made.
-/

namespace Backplane.Flight

open Backplane.Run
open Backplane.LatchBank

/-- An `enum` whose values index the arrays of size `n`. -/
class CEnum (α : Type) (n : outParam Nat) where
  toFin : α → Fin n
  toFin_injective : Function.Injective toFin

/-- `TimerEvent`: `time` in milliseconds. -/
structure TimerEvent (EventID SourceID : Type) where
  start : EventID
  event : EventID
  time : Nat
  source : SourceID
  deriving DecidableEq

/-- What a controller is constructed with. `flight_log` says whether a log was passed. -/
structure Config (EventID SourceID : Type) {num_events : Nat} [CEnum EventID num_events]
    (num_timers : Nat) where
  /-- The `static_assert`. -/
  num_events_le : num_events ≤ 32
  timerEvents : Fin num_timers → TimerEvent EventID SourceID
  deciders : EventID → (SourceID → Bool) → Bool
  flight_log : Bool

/-- A `k_timer`: calls of `k_timer_start`, and the uptime of the last one while it runs. -/
structure KTimer where
  starts : Nat
  running : Option Nat
  deriving DecidableEq

/-- A line of the flight log. -/
inductive LogLine (EventID SourceID : Type)
  | initialized
  /-- `LogSourceEvent`. -/
  | sourceEvent (event : EventID) (source : SourceID)
  /-- `LogEventConfirmed`, with the event's state before. -/
  | eventConfirmed (event : EventID) (currentState : Bool)
  deriving DecidableEq

/-- The mutable members of `CPhaseController`. -/
structure CPhaseController (EventID SourceID : Type) (num_timers : Nat) where
  sourceStates : EventID → SourceID → Bool
  eventStates : EventID → Bool
  timers : Fin num_timers → KTimer
  osEvents : BitVec 32
  flightLog : List (LogLine EventID SourceID)

section Defs

variable {EventID SourceID : Type} [DecidableEq EventID] [DecidableEq SourceID]
  {num_events num_timers : Nat} [CEnum EventID num_events]

/-- `k_timer_start(timer, time, K_NO_WAIT)`. -/
def KTimer.start (t : KTimer) (now : Nat) : KTimer :=
  { starts := t.starts + 1, running := some now }

/-- The constructor. -/
def Config.construct (cfg : Config EventID SourceID num_timers) :
    CPhaseController EventID SourceID num_timers :=
  { sourceStates := fun _ _ => false
    eventStates := fun _ => false
    timers := fun _ => { starts := 0, running := none }
    osEvents := 0
    flightLog := if cfg.flight_log then [.initialized] else [] }

/-- `HasEventOccured`. -/
def CPhaseController.hasEventOccured (c : CPhaseController EventID SourceID num_timers)
    (event : EventID) : Bool :=
  c.eventStates event

/-- A line to the flight log, if there is one. -/
def writeLog (cfg : Config EventID SourceID num_timers)
    (c : CPhaseController EventID SourceID num_timers) (line : LogLine EventID SourceID) :
    CPhaseController EventID SourceID num_timers :=
  { c with flightLog := if cfg.flight_log then c.flightLog ++ [line] else c.flightLog }

/-- `LogSourceEvent`. -/
def logSourceEvent (cfg : Config EventID SourceID num_timers)
    (c : CPhaseController EventID SourceID num_timers) (event : EventID) (source : SourceID) :
    CPhaseController EventID SourceID num_timers :=
  writeLog cfg c (.sourceEvent event source)

/-- `LogEventConfirmed`. -/
def logEventConfirmed (cfg : Config EventID SourceID num_timers)
    (c : CPhaseController EventID SourceID num_timers) (event : EventID) (currentState : Bool) :
    CPhaseController EventID SourceID num_timers :=
  writeLog cfg c (.eventConfirmed event currentState)

/-- "start any necessary timers". -/
def startTimers (cfg : Config EventID SourceID num_timers) (timers : Fin num_timers → KTimer)
    (event : EventID) (now : Nat) : Fin num_timers → KTimer :=
  fun i => if (cfg.timerEvents i).start = event then (timers i).start now else timers i

/-- `1 << event`. -/
def eventBit (event : EventID) : BitVec 32 := 1#32 <<< (CEnum.toFin event).val

/-- `SubmitEvent`. -/
def submitEvent (cfg : Config EventID SourceID num_timers)
    (c : CPhaseController EventID SourceID num_timers) (now : Nat) (source : SourceID)
    (event : EventID) : CPhaseController EventID SourceID num_timers :=
  let states := Function.update (c.sourceStates event) source true
  let c := { c with sourceStates := Function.update c.sourceStates event states }
  if cfg.deciders event states then
    let last_state := c.eventStates event
    -- dispatch event
    let c := if !last_state then
        { c with
          eventStates := Function.update c.eventStates event true
          osEvents := c.osEvents ||| eventBit event
          timers := startTimers cfg c.timers event now }
      else c
    logEventConfirmed cfg (logSourceEvent cfg c event source) event last_state
  else
    logSourceEvent cfg c event source

/-- The kernel may call the expiry function of slot `i`: it runs, and its time has passed. -/
def expires (cfg : Config EventID SourceID num_timers)
    (c : CPhaseController EventID SourceID num_timers) (now : Nat) (i : Fin num_timers) : Bool :=
  match (c.timers i).running with
  | some since => decide (since + (cfg.timerEvents i).time ≤ now)
  | none => false

/-- The one-shot timer of slot `i` stops. -/
def stopTimer (c : CPhaseController EventID SourceID num_timers) (i : Fin num_timers) :
    CPhaseController EventID SourceID num_timers :=
  { c with timers := Function.update c.timers i { c.timers i with running := none } }

/-- The expiry of slot `i`, where it can expire: the timer stops and `timer_expiry_cb` submits. -/
def timerExpiry (cfg : Config EventID SourceID num_timers)
    (c : CPhaseController EventID SourceID num_timers) (now : Nat) (i : Fin num_timers) :
    CPhaseController EventID SourceID num_timers :=
  if expires cfg c now i then
    submitEvent cfg (stopTimer c i) now (cfg.timerEvents i).source (cfg.timerEvents i).event
  else c

/-- A call into the controller: a `SubmitEvent`, or the expiry of a timer. -/
inductive Call (EventID SourceID : Type) (num_timers : Nat)
  | submit (now : Nat) (source : SourceID) (event : EventID)
  | expiry (now : Nat) (i : Fin num_timers)
  deriving DecidableEq

/-- One call, executed to its end. -/
def step (cfg : Config EventID SourceID num_timers)
    (c : CPhaseController EventID SourceID num_timers) :
    Call EventID SourceID num_timers → CPhaseController EventID SourceID num_timers
  | .submit now source event => submitEvent cfg c now source event
  | .expiry now i => timerExpiry cfg c now i

/-- The `SubmitEvent` call a step makes. -/
def submission (cfg : Config EventID SourceID num_timers)
    (c : CPhaseController EventID SourceID num_timers) :
    Call EventID SourceID num_timers → Option (SourceID × EventID)
  | .submit _ source event => some (source, event)
  | .expiry now i =>
    if expires cfg c now i then some ((cfg.timerEvents i).source, (cfg.timerEvents i).event)
    else none

/-- The `SubmitEvent` calls of a run, in order. -/
def submissions (cfg : Config EventID SourceID num_timers)
    (c : CPhaseController EventID SourceID num_timers) :
    List (Call EventID SourceID num_timers) → List (SourceID × EventID)
  | [] => []
  | call :: calls => (submission cfg c call).toList ++ submissions cfg (step cfg c call) calls

/-- The controller as a bank of latches. -/
def CPhaseController.bank (c : CPhaseController EventID SourceID num_timers) :
    Bank EventID SourceID :=
  { reported := c.sourceStates, latched := c.eventStates }

end Defs

section Lemmas

variable {EventID SourceID : Type} [DecidableEq EventID] [DecidableEq SourceID]
  {num_events num_timers : Nat} [CEnum EventID num_events]
  (cfg : Config EventID SourceID num_timers) (c : CPhaseController EventID SourceID num_timers)

/-! ## What a submission does to each member -/

/-- The submission dispatches: its decider accepts and the event had not occured. -/
def dispatches (source : SourceID) (event : EventID) : Bool :=
  cfg.deciders event (Function.update (c.sourceStates event) source true) && !c.eventStates event

variable (now : Nat) (source : SourceID) (event : EventID)

theorem submitEvent_sourceStates :
    (submitEvent cfg c now source event).sourceStates =
      Function.update c.sourceStates event
        (Function.update (c.sourceStates event) source true) := by
  unfold submitEvent
  simp only
  split
  · cases c.eventStates event <;> rfl
  · rfl

variable {cfg c source event}

/-- What a submission that dispatches the event changes besides its source and the log. -/
theorem submitEvent_of_dispatches (hd : dispatches cfg c source event = true) :
    (submitEvent cfg c now source event).eventStates = Function.update c.eventStates event true ∧
      (submitEvent cfg c now source event).osEvents = c.osEvents ||| eventBit event ∧
      (submitEvent cfg c now source event).timers = startTimers cfg c.timers event now := by
  rw [dispatches, Bool.and_eq_true, Bool.not_eq_true'] at hd
  unfold submitEvent
  simp only [hd.1, hd.2, if_true]
  exact ⟨rfl, rfl, rfl⟩

/-- Another submission leaves all that. -/
theorem submitEvent_of_not_dispatches (hd : ¬ dispatches cfg c source event = true) :
    (submitEvent cfg c now source event).eventStates = c.eventStates ∧
      (submitEvent cfg c now source event).osEvents = c.osEvents ∧
      (submitEvent cfg c now source event).timers = c.timers := by
  rw [dispatches] at hd
  unfold submitEvent
  simp only
  split
  · rename_i hdecided
    rw [hdecided, Bool.true_and, Bool.not_eq_true', Bool.not_eq_false] at hd
    rw [hd]
    exact ⟨rfl, rfl, rfl⟩
  · exact ⟨rfl, rfl, rfl⟩

variable (cfg c source event)

theorem submitEvent_eventStates :
    (submitEvent cfg c now source event).eventStates =
      if dispatches cfg c source event then Function.update c.eventStates event true
      else c.eventStates := by
  split
  · exact (submitEvent_of_dispatches now ‹_›).1
  · exact (submitEvent_of_not_dispatches now ‹_›).1

theorem submitEvent_osEvents :
    (submitEvent cfg c now source event).osEvents =
      if dispatches cfg c source event then c.osEvents ||| eventBit event else c.osEvents := by
  split
  · exact (submitEvent_of_dispatches now ‹_›).2.1
  · exact (submitEvent_of_not_dispatches now ‹_›).2.1

theorem submitEvent_timers :
    (submitEvent cfg c now source event).timers =
      if dispatches cfg c source event then startTimers cfg c.timers event now
      else c.timers := by
  split
  · exact (submitEvent_of_dispatches now ‹_›).2.2
  · exact (submitEvent_of_not_dispatches now ‹_›).2.2

/-- A submission logs its source first, and a confirmation when it is decided; without a log
nothing is written. -/
theorem submitEvent_flightLog :
    (submitEvent cfg c now source event).flightLog =
      if cfg.flight_log then
        c.flightLog ++ .sourceEvent event source ::
          (if cfg.deciders event (Function.update (c.sourceStates event) source true) then
            [.eventConfirmed event (c.eventStates event)] else [])
      else c.flightLog := by
  unfold submitEvent logEventConfirmed logSourceEvent writeLog
  cases cfg.flight_log
  · simp only [Bool.false_eq_true, if_false]
    split
    · cases c.eventStates event <;> rfl
    · rfl
  · simp only [if_true]
    split
    · cases c.eventStates event <;> simp
    · rfl

end Lemmas

end Backplane.Flight
