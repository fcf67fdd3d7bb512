import Backplane.Flight.Dispatch
import Mathlib.Algebra.Order.Ring.Int
import Mathlib.Data.Fintype.Basic
import Mathlib.Tactic.FinCases

/-!
# The sensor module's flight: events, sources, timers and deciders

Model of `app/backplane/sensor_module/include/flight.hpp`, and the provenance of what the
controller built from it records.

The array `timer_events` has `numTimerEvents = 3` slots and two initialisers, so slot 2 is
value-initialised: start `Boost`, event `Boost`, no delay, source `LowGImu`. The controller starts
it with the others when `Boost` is dispatched.

Results:
* `monotoneDeciders`: the decision functions are monotone and reject the empty set of reports.
* `provenance_iff`: what the state and the log record was reported by its source, all along a run,
  iff slot 2 never expires before the handler itself has submitted `Boost` for `LowGImu`.
* `provenance_fails`: one `Boost` submission and the next tick.
-/

namespace Backplane.SensorModule

open Backplane.Run
open Backplane.LatchBank
open Backplane.Flight

/-- `Events`. -/
inductive Events
  | boost | noseoverLockout | noseover | groundHit
  deriving DecidableEq

/-- `Sources`. -/
inductive Sources
  | lowGImu | highGImu | baromBMP | baromMS5611 | noseoverLockoutTimer | fullFlightTimer
  deriving DecidableEq

def Events.toFin : Events → Fin 4
  | .boost => 0
  | .noseoverLockout => 1
  | .noseover => 2
  | .groundHit => 3

instance : CEnum Events 4 where
  toFin := Events.toFin
  toFin_injective := by intro a b; cases a <;> cases b <;> decide

/-- `K_SECONDS`, in milliseconds. -/
def kSeconds (s : Nat) : Nat := s * 1000

abbrev numTimerEvents : Nat := 3

instance : NeZero numTimerEvents := ⟨by decide⟩

/-- The initialisers of `timer_events`. -/
def timerEventInits : List (TimerEvent Events Sources) :=
  [{ start := .boost
     event := .noseoverLockout
     time := kSeconds 15
     source := .noseoverLockoutTimer },
   { start := .boost
     event := .groundHit
     time := kSeconds 350
     source := .fullFlightTimer }]

/-- A value-initialised `TimerEvent`: every member is zero. -/
def valueInitTimerEvent : TimerEvent Events Sources :=
  { start := .boost, event := .boost, time := 0, source := .lowGImu }

/-- `timer_events`: slots without an initialiser are value-initialised. -/
def timerEvents (i : Fin numTimerEvents) : TimerEvent Events Sources :=
  timerEventInits.getD i valueInitTimerEvent

/-- `deciders`. -/
def deciders : Events → (Sources → Bool) → Bool
  | .boost, states =>
    states .lowGImu || states .highGImu || states .baromBMP || states .baromMS5611
  | .noseoverLockout, states => states .noseoverLockoutTimer
  | .noseover, states => states .baromBMP || states .baromMS5611
  | .groundHit, states =>
    states .baromBMP || states .baromMS5611 || states .fullFlightTimer

/-- The controller of `CSensorModule`, which passes its flight log. -/
def config : Config Events Sources numTimerEvents where
  num_events_le := by decide
  timerEvents := timerEvents
  deciders := deciders
  flight_log := true

abbrev SensorModulePhaseController := CPhaseController Events Sources numTimerEvents

/-- The flight's deciders are monotone and false when nothing was reported. -/
theorem monotoneDeciders : MonotoneDeciders deciders := by
  constructor
  · intro e f g hfg
    have himp : ∀ s, f s = true → g s = true := fun s => Bool.le_iff_imp.mp (hfg s)
    rw [Bool.le_iff_imp]
    cases e <;> simp only [deciders, Bool.or_eq_true] <;> grind
  · intro e
    cases e <;> rfl

/-! ## Provenance -/

/-- The detection handler submitted `event` for `source`. -/
def Submitted (calls : List (Call Events Sources numTimerEvents)) (source : Sources)
    (event : Events) : Prop :=
  ∃ now, .submit now source event ∈ calls

/-- `source` may stand for `event`: the handler submitted it, or it is one of the two timers. -/
def Reported (calls : List (Call Events Sources numTimerEvents)) (event : Events)
    (source : Sources) : Prop :=
  Submitted calls source event ∨
    (event, source) = (.noseoverLockout, .noseoverLockoutTimer) ∨
    (event, source) = (.groundHit, .fullFlightTimer)

/-- Whatever the state or the flight log of `c` records, its source reported in `calls`. -/
structure Provenance (calls : List (Call Events Sources numTimerEvents))
    (c : SensorModulePhaseController) : Prop where
  state : ∀ event source, c.sourceStates event source = true → Reported calls event source
  log : ∀ event source, .sourceEvent event source ∈ c.flightLog → Reported calls event source

/-- The slot that has no initialiser. -/
def extraSlot : Fin numTimerEvents := 2

/-- Slot 2 expires in step `k`. -/
def ExtraSlotExpires (calls : List (Call Events Sources numTimerEvents)) (k : Nat) : Prop :=
  ∃ now, calls[k]? = some (.expiry now extraSlot) ∧
    expires config (stateAt (step config) config.construct calls k) now extraSlot = true

/-- A submission of the first `k` calls, seen in the whole run. -/
theorem stateAt_take {calls : List (Call Events Sources numTimerEvents)} {j k : Nat} (h : j ≤ k) :
    stateAt (step config) config.construct (calls.take k) j =
      stateAt (step config) config.construct calls j := by
  unfold stateAt
  rw [List.take_take, Nat.min_eq_left h]

theorem reported_of_mem_submissions {calls : List (Call Events Sources numTimerEvents)}
    (hslot : ∀ k, ExtraSlotExpires calls k → Submitted (calls.take k) .lowGImu .boost)
    {e : Events} {s : Sources} (h : (s, e) ∈ submissions config config.construct calls) :
    Reported calls e s := by
  obtain ⟨k, call, hk, hsub⟩ := mem_submissions_iff.mp h
  cases call with
  | submit now s' e' =>
    cases hsub
    exact Or.inl ⟨now, List.mem_of_getElem? hk⟩
  | expiry now i =>
    simp only [submission] at hsub
    split at hsub
    · rename_i hexp
      have hpair := Option.some.inj hsub
      fin_cases i
      · cases hpair
        exact Or.inr (Or.inl rfl)
      · cases hpair
        exact Or.inr (Or.inr rfl)
      · cases hpair
        obtain ⟨t, ht⟩ := hslot k ⟨now, hk, hexp⟩
        exact Or.inl ⟨t, List.mem_of_mem_take ht⟩
    · cases hsub

/-- **Provenance holds all along a run iff the slot without an initialiser never expires before
the handler has itself submitted what that slot submits.** -/
theorem provenance_iff (calls : List (Call Events Sources numTimerEvents)) :
    (∀ k, k ≤ calls.length →
      Provenance (calls.take k) (stateAt (step config) config.construct calls k)) ↔
    ∀ k, ExtraSlotExpires calls k → Submitted (calls.take k) .lowGImu .boost := by
  constructor
  · rintro h k ⟨now, hk, hexp⟩
    obtain ⟨hlt, hcall⟩ := List.getElem?_eq_some_iff.mp hk
    have hsub : submission config (stateAt (step config) config.construct (calls.take (k + 1)) k)
        (.expiry now extraSlot) = some (.lowGImu, .boost) := by
      rw [stateAt_take (Nat.le_succ k)]
      exact if_pos hexp
    have hrec : (stateAt (step config) config.construct calls (k + 1)).sourceStates
        .boost .lowGImu = true := by
      unfold stateAt
      rw [sourceStates_run]
      refine decide_eq_true (mem_submissions_iff.mpr ⟨k, .expiry now extraSlot, ?_, hsub⟩)
      rwa [List.getElem?_take_of_lt (Nat.lt_succ_self k)]
    rcases (h (k + 1) hlt).state _ _ hrec with ⟨t, ht⟩ | heq | heq
    · rw [List.take_succ_eq_append_getElem hlt, hcall, List.mem_append] at ht
      exact ⟨t, ht.resolve_right (by simp)⟩
    · cases heq
    · cases heq
  · intro h k hk
    have hslot : ∀ j, ExtraSlotExpires (calls.take k) j →
        Submitted ((calls.take k).take j) .lowGImu .boost := by
      rintro j ⟨now, hj, hexp⟩
      have hjk : j < k := by
        have := (List.getElem?_eq_some_iff.mp hj).1
        rw [List.length_take] at this
        omega
      rw [stateAt_take hjk.le] at hexp
      rw [List.take_take, Nat.min_eq_left hjk.le]
      refine h j ⟨now, ?_, hexp⟩
      rwa [List.getElem?_take_of_lt hjk] at hj
    constructor
    · intro e s hs
      refine reported_of_mem_submissions hslot ?_
      unfold stateAt at hs
      rw [sourceStates_run] at hs
      exact of_decide_eq_true hs
    · intro e s hs
      exact reported_of_mem_submissions hslot (mem_submissions_of_mem_flightLog _ hs)

/-- The high-g accelerometer reports boost at 251 ms; slot 2 expires on the next tick. -/
def boostThenTick : List (Call Events Sources numTimerEvents) :=
  [.submit 251 .highGImu .boost, .expiry 252 extraSlot]

/-- **The low-g accelerometer is recorded for a boost it did not report.** -/
theorem provenance_fails :
    ¬ ∀ calls k, k ≤ calls.length →
      Provenance (calls.take k) (stateAt (step config) config.construct calls k) := by
  intro h
  have hrec : (stateAt (step config) config.construct boostThenTick 2).sourceStates
      .boost .lowGImu = true := by decide
  rcases (h boostThenTick 2 le_rfl).state _ _ hrec with ⟨t, ht⟩ | heq | heq
  · simp [boostThenTick] at ht
  · cases heq
  · cases heq

end Backplane.SensorModule
