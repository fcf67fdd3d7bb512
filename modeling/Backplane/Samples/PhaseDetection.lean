import Backplane.Flight.Batch

/-!
# The phase detection sample: events, sources, timers and deciders

Model of `app/samples/phase_detection/src/flight.h`. Unlike the sensor module's flight it has
deciders that need two sources (`PadReady`, `Noseover`), and chains of timers: `Boost` starts the
timer that lets `GroundHit` occur, which starts the one for `CamerasOff`.

`monotoneDeciders`: the decision functions are monotone and reject the empty set of reports.
-/

namespace Backplane.PhaseDetection

open Backplane.Run
open Backplane.LatchBank
open Backplane.Flight

/-- `Events`. -/
inductive Events
  | padReady | boost | coast | noseover | mainChute | groundHit | camerasOff
  deriving DecidableEq

/-- `Sources`. -/
inductive Sources
  | imu1 | barom1 | noseoverLockout | boost2CoastTimer | noseover2MainTimer | fullFlightTimer
  | extraCameraTimer
  deriving DecidableEq

def Events.toFin : Events → Fin 7
  | .padReady => 0
  | .boost => 1
  | .coast => 2
  | .noseover => 3
  | .mainChute => 4
  | .groundHit => 5
  | .camerasOff => 6

instance : CEnum Events 7 where
  toFin := Events.toFin
  toFin_injective := by intro a b; cases a <;> cases b <;> decide

abbrev numTimerEvents : Nat := 5

/-- `timer_events`, times in milliseconds. -/
def timerEvents : Fin numTimerEvents → TimerEvent Events Sources
  | 0 => { start := .boost, event := .coast, time := 3000, source := .boost2CoastTimer }
  | 1 => { start := .boost, event := .noseover, time := 10000, source := .noseoverLockout }
  | 2 => { start := .noseover, event := .mainChute, time := 175000, source := .noseover2MainTimer }
  | 3 => { start := .boost, event := .groundHit, time := 350000, source := .fullFlightTimer }
  | 4 => { start := .groundHit, event := .camerasOff, time := 2000, source := .extraCameraTimer }

/-- `deciders`. -/
def deciders : Events → (Sources → Bool) → Bool
  | .padReady, states => states .imu1 && states .barom1
  | .boost, states => states .imu1 || states .barom1
  | .coast, states => states .boost2CoastTimer || states .imu1
  | .noseover, states => states .noseoverLockout && states .barom1
  | .mainChute, states => states .barom1 || states .noseover2MainTimer
  | .groundHit, states => states .barom1 || states .fullFlightTimer
  | .camerasOff, states => states .extraCameraTimer

/-- The sample's `Controller`, which passes its flight log. -/
def config : Config Events Sources numTimerEvents where
  num_events_le := by decide
  timerEvents := timerEvents
  deciders := deciders
  flight_log := true

/-- The sample's deciders are monotone and false when nothing was reported. -/
theorem monotoneDeciders : MonotoneDeciders deciders := by
  constructor
  · intro e f g hfg
    have himp : ∀ s, f s = true → g s = true := fun s => Bool.le_iff_imp.mp (hfg s)
    rw [Bool.le_iff_imp]
    cases e <;> simp only [deciders, Bool.or_eq_true, Bool.and_eq_true] <;> grind
  · intro e
    cases e <;> rfl

end Backplane.PhaseDetection
