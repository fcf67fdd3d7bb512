/-!
# The phases of the radio tenants

Model of `CPadFlightLandedStateMachine` and `NStateMachineGlobals`
(`include/f_core/c_pad_flight_landing_state_machine.h`). The flags are `static` in a namespace of a
header, so every translation unit has its own.
-/

namespace Backplane.Radio

/-- `CPadFlightLandedStateMachine::State`. -/
inductive State
  | PAD | FLIGHT | LANDED | GROUND
  deriving DecidableEq

/-- `NStateMachineGlobals`, as one translation unit has them. -/
structure NStateMachineGlobals where
  boostDetected : Bool := false
  landingDetected : Bool := false
  deriving DecidableEq

/-- `CPadFlightLandedStateMachine`. -/
structure CPadFlightLandedStateMachine where
  state : State := .PAD
  boostDetected : Bool := false
  landingDetected : Bool := false
  isGroundModule : Bool := false
  deriving DecidableEq

/-- `SetBoostDetected`. -/
def CPadFlightLandedStateMachine.setBoostDetected (m : CPadFlightLandedStateMachine)
    (detected : Bool) : CPadFlightLandedStateMachine :=
  { m with boostDetected := detected }

/-- `SetLandingDetected`. -/
def CPadFlightLandedStateMachine.setLandingDetected (m : CPadFlightLandedStateMachine)
    (detected : Bool) : CPadFlightLandedStateMachine :=
  { m with landingDetected := detected }

/-- `SetIsGroundModule`. -/
def CPadFlightLandedStateMachine.setIsGroundModule (m : CPadFlightLandedStateMachine) (is : Bool) :
    CPadFlightLandedStateMachine :=
  { m with isGroundModule := is }

/-- `Clock`: the state whose handler it calls, and the machine after it. No handler touches the
machine. -/
def CPadFlightLandedStateMachine.clock (m : CPadFlightLandedStateMachine) :
    State × CPadFlightLandedStateMachine :=
  let m := if m.isGroundModule then { m with state := .GROUND } else m
  match m.state with
  | .PAD => (.PAD, if m.boostDetected then { m with state := .FLIGHT } else m)
  | .FLIGHT => (.FLIGHT, if m.landingDetected then { m with state := .LANDED } else m)
  | .LANDED => (.LANDED, m)
  | .GROUND => (.GROUND, m)

/-- The part of a tenant's `Run` that both LoRa tenants share: the flags are copied, or the machine
is set to the ground, and the machine is clocked. -/
def CPadFlightLandedStateMachine.run (m : CPadFlightLandedStateMachine)
    (CONFIG_RADIO_MODULE_RECEIVER : Bool) (globals : NStateMachineGlobals) :
    State × CPadFlightLandedStateMachine :=
  if CONFIG_RADIO_MODULE_RECEIVER then (m.setIsGroundModule true).clock
  else
    ((m.setBoostDetected globals.boostDetected).setLandingDetected globals.landingDetected).clock

/-- How far a flight has come. -/
def State.rank : State → Nat
  | .PAD => 0
  | .FLIGHT => 1
  | .LANDED => 2
  | .GROUND => 3

/-- **What a `Run` of the flight radio does to the phase.** -/
theorem run_flight {m : CPadFlightLandedStateMachine} (h : m.isGroundModule = false)
    (globals : NStateMachineGlobals) :
    (m.run false globals).1 = m.state ∧ (m.run false globals).2.isGroundModule = false ∧
      (m.run false globals).2.state = match m.state with
        | .PAD => if globals.boostDetected then .FLIGHT else .PAD
        | .FLIGHT => if globals.landingDetected then .LANDED else .FLIGHT
        | .LANDED => .LANDED
        | .GROUND => .GROUND := by
  obtain ⟨state, boostDetected, landingDetected, isGroundModule⟩ := m
  obtain ⟨boost, landing⟩ := globals
  cases h
  cases state with
  | PAD => cases boost <;> exact ⟨rfl, rfl, rfl⟩
  | FLIGHT => cases landing <;> exact ⟨rfl, rfl, rfl⟩
  | LANDED => exact ⟨rfl, rfl, rfl⟩
  | GROUND => exact ⟨rfl, rfl, rfl⟩

/-- The phase only goes forward. -/
theorem run_rank {m : CPadFlightLandedStateMachine} (h : m.isGroundModule = false)
    (globals : NStateMachineGlobals) : m.state.rank ≤ (m.run false globals).2.state.rank := by
  rw [(run_flight h globals).2.2]
  cases m.state with
  | PAD => exact Nat.zero_le _
  | FLIGHT =>
    simp only
    split
    · exact Nat.le_succ 1
    · exact Nat.le_refl 1
  | LANDED => exact Nat.le_refl 2
  | GROUND => exact Nat.le_refl 3

end Backplane.Radio
