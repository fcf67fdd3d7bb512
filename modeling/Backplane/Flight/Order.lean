import Backplane.Samples.PhaseDetection
import Backplane.SensorModule.Flight

/-!
# The order of submissions does not matter

Sensors, threads and timer interrupts submit in any order. With monotone deciders that reject the
empty set of reports, as both flights of the repository have, the outcome is that of the reports
as a set.

Results:
* `order_independent`: permuted submissions leave the same states, event bits and started timers,
  and every event of a reachable state has occured iff it is decided by the reports so far.
-/

namespace Backplane.Flight

open Backplane.Run

/-- **Order independence.** For every controller with monotone deciders that are false when nothing
was reported, and so for the sensor module's and the sample's: lists of submissions that are
permutations of each other, made at any times, have the same outcome; and in every reachable state
an event has occured iff its decider accepts the source states. -/
theorem order_independent :
    MonotoneDeciders SensorModule.deciders ∧ MonotoneDeciders PhaseDetection.deciders ∧
    ∀ (EventID SourceID : Type) [DecidableEq EventID] [DecidableEq SourceID]
      (num_events num_timers : Nat) [CEnum EventID num_events]
      (cfg : Config EventID SourceID num_timers), MonotoneDeciders cfg.deciders →
      (∀ l l' : List (Nat × SourceID × EventID), (l.map Prod.snd).Perm (l'.map Prod.snd) →
        SameOutcome (run (step cfg) cfg.construct (submitAll l))
          (run (step cfg) cfg.construct (submitAll l'))) ∧
      ∀ c, Reachable cfg c → ∀ e, c.hasEventOccured e = cfg.deciders e (c.sourceStates e) := by
  refine ⟨SensorModule.monotoneDeciders, PhaseDetection.monotoneDeciders, ?_⟩
  intro EventID SourceID _ _ num_events num_timers _ cfg hm
  exact ⟨fun l l' hperm => submitAll_perm hm hperm, fun c hc e => hc.decided hm e⟩

/-- The sample's pad checks in either order. -/
theorem order_independent_padReady :
    SameOutcome
      (run (step PhaseDetection.config) PhaseDetection.config.construct
        (submitAll [(1, .imu1, .padReady), (2, .barom1, .padReady)]))
      (run (step PhaseDetection.config) PhaseDetection.config.construct
        (submitAll [(3, .barom1, .padReady), (8, .imu1, .padReady)])) :=
  (order_independent.2.2 _ _ _ _ PhaseDetection.config PhaseDetection.monotoneDeciders).1 _ _
    (List.Perm.swap ..)

end Backplane.Flight
