import Backplane.General.Transitions
import Backplane.Net.UdpAlert
import Backplane.Radio.Relay

/-!
# The flight radio

Model of `CRadioModule` (`app/backplane/radio_module/src/c_radio_module.cpp`) and
`CStateMachineUpdater` (`app/backplane/radio_module/src/c_state_machine_updater.cpp`): the tenants
with a part in moving the phases, each `Run` a step, in any order. The GNSS tenant is present by
what it sends. The data logger and the TFTP server are left out, so what a file request can do to
the module is not seen here (`Net.TftpParse`). A `k_oops` halts the system, so a run is over at the
first step that fails.

Each of the three translation units that use `NStateMachineGlobals` has its own flags, and
`SetupCallbacks` subscribes nobody to the alert tenant.

Results:
* `step_onPad`: no step takes a tenant off the pad, or sets a flag that a tenant reads.
* `alerts_move_iff`: alerts move the phases in exactly those runs in which no tenant runs after a
  boost alert.
* `alerts_move_fails`: a boost alert, and a `Run` of the transmit tenant.
-/

namespace Backplane.Radio

open Backplane.Net
open Backplane.Transitions
open Backplane.Utils

/-- The observers in the build. -/
inductive CObserver
  | stateMachineUpdater
  deriving DecidableEq

/-- `CRadioModule`, and the flags of `c_state_machine_updater.cpp`, `c_lora_transmit_tenant.cpp`
and `c_lora_receive_tenant.cpp`. The transmit tenant is the one the receive tenant refers to. -/
structure CRadioModule where
  alertTenant : CUdpAlertTenant CObserver
  sensorModuleListenerTenant : CUdpListenerTenant
  powerModuleListenerTenant : CUdpListenerTenant
  loraReceiveTenant : CLoraReceiveTenant
  updaterGlobals : NStateMachineGlobals
  loraTransmitGlobals : NStateMachineGlobals
  loraReceiveGlobals : NStateMachineGlobals

/-- `SetupCallbacks`. -/
def CRadioModule.setupCallbacks (m : CRadioModule) : CRadioModule := m

/-- As `main` leaves it. -/
def CRadioModule.started : Except Fault CRadioModule := do
  let loraReceiveTenant ← CLoraReceiveTenant.started
  return CRadioModule.setupCallbacks
    { alertTenant := {}
      sensorModuleListenerTenant := { listenPort := SENSOR_MODULE_TELEMETRY_PORT }
      powerModuleListenerTenant := { listenPort := POWER_MODULE_INA_DATA_PORT }
      loraReceiveTenant := loraReceiveTenant
      updaterGlobals := {}
      loraTransmitGlobals := {}
      loraReceiveGlobals := {} }

/-- `CStateMachineUpdater::Notify`. -/
def stateMachineUpdaterNotify (globals : NStateMachineGlobals) (alertType : AlertType) :
    NStateMachineGlobals :=
  if alertType = BOOST then { globals with boostDetected := true }
  else if alertType = LANDED then { globals with landingDetected := true }
  else globals

/-- A call of `Notify`. -/
def CRadioModule.notify (m : CRadioModule) (call : CObserver × AlertType) : CRadioModule :=
  match call.1 with
  | .stateMachineUpdater =>
    { m with updaterGlobals := stateMachineUpdaterNotify m.updaterGlobals call.2 }

/-- `loraBroadcastMessagePort`. -/
def CRadioModule.loraBroadcastMessagePort (m : CRadioModule) : MessagePort :=
  m.loraReceiveTenant.loraTransmitTenant.loraTransmitPort

/-- The transmit tenant replaced. -/
def CRadioModule.setLoraTransmitTenant (m : CRadioModule) (t : CLoraTransmitTenant) :
    CRadioModule :=
  { m with loraReceiveTenant := { m.loraReceiveTenant with loraTransmitTenant := t } }

/-- The queue replaced. -/
def CRadioModule.setLoraBroadcast (m : CRadioModule) (queue : MessagePort) : CRadioModule :=
  m.setLoraTransmitTenant { m.loraReceiveTenant.loraTransmitTenant with loraTransmitPort := queue }

/-- What can happen next: a datagram arrives, a tenant runs, or the shutoff timer expires. -/
inductive Op
  | alertArrives (datagram : List UInt8)
  | alertRun (fcntl : Fcntl)
  | sensorModuleArrives (datagram : List UInt8)
  | sensorModuleListenerRun (fcntl : Fcntl)
  | powerModuleArrives (datagram : List UInt8)
  | powerModuleListenerRun (fcntl : Fcntl)
  | gnssSend (message : RadioBroadcastData)
  | loraTransmitRun (env : Answers)
  | loraReceiveRun (env : Answers)
  | shutoffTimerExpires

/-- One step. -/
def CRadioModule.step (m : CRadioModule) : Op → Except Fault CRadioModule
  | .alertArrives datagram =>
    .ok { m with alertTenant := { m.alertTenant with sock := m.alertTenant.sock ++ [datagram] } }
  | .alertRun fcntl =>
    let r := m.alertTenant.run fcntl
    .ok (r.2.foldl CRadioModule.notify { m with alertTenant := r.1 })
  | .sensorModuleArrives datagram =>
    .ok { m with sensorModuleListenerTenant :=
      { m.sensorModuleListenerTenant with udp := m.sensorModuleListenerTenant.udp ++ [datagram] } }
  | .sensorModuleListenerRun fcntl =>
    let r := m.sensorModuleListenerTenant.run fcntl m.loraBroadcastMessagePort
    .ok ({ m with sensorModuleListenerTenant := r.1 }.setLoraBroadcast r.2)
  | .powerModuleArrives datagram =>
    .ok { m with powerModuleListenerTenant :=
      { m.powerModuleListenerTenant with udp := m.powerModuleListenerTenant.udp ++ [datagram] } }
  | .powerModuleListenerRun fcntl =>
    let r := m.powerModuleListenerTenant.run fcntl m.loraBroadcastMessagePort
    .ok ({ m with powerModuleListenerTenant := r.1 }.setLoraBroadcast r.2)
  | .gnssSend message =>
    .ok (m.setLoraBroadcast (m.loraBroadcastMessagePort.send message).1)
  | .loraTransmitRun env =>
    match m.loraReceiveTenant.loraTransmitTenant.run false m.loraTransmitGlobals env with
    | .error e => .error e.fault
    | .ok r => .ok (m.setLoraTransmitTenant r.1)
  | .loraReceiveRun env =>
    match m.loraReceiveTenant.run false m.loraReceiveGlobals env with
    | .error e => .error e.fault
    | .ok r => .ok { m with loraReceiveTenant := r.1 }
  | .shutoffTimerExpires =>
    .ok { m with loraReceiveTenant := m.loraReceiveTenant.shutoffTimerExpires.1 }

/-! ## What alerts are to do -/

/-- The two LoRa tenants. -/
inductive LoraTenant
  | transmit | receive
  deriving DecidableEq

/-- The phase of a tenant. -/
def CRadioModule.state (m : CRadioModule) : LoraTenant → State
  | .transmit => m.loraReceiveTenant.loraTransmitTenant.machine.state
  | .receive => m.loraReceiveTenant.machine.state

/-- The tenant whose `Run` a step is. -/
def Op.runs : Op → Option LoraTenant
  | .loraTransmitRun _ => some .transmit
  | .loraReceiveRun _ => some .receive
  | _ => none

/-- A module, and the types of the valid alerts its alert tenant has processed. -/
structure History where
  module : CRadioModule
  processed : List AlertType

/-- The valid alerts a step processes. -/
def CRadioModule.processed (m : CRadioModule) : Op → List AlertType
  | .alertRun fcntl => m.alertTenant.processed fcntl
  | _ => []

/-- One step, with the history kept. -/
def History.step (h : History) (op : Op) : Except Fault History :=
  match h.module.step op with
  | .error e => .error e
  | .ok m => .ok { module := m, processed := h.processed ++ h.module.processed op }

/-- The steps that a radio makes, of those it is given. -/
def radioRun (ops : List Op) : List (Transition History Op) :=
  match CRadioModule.started with
  | .error _ => []
  | .ok m => transitions History.step { module := m, processed := [] } ops

/-- **Alerts move the radio out of `PAD`**, and nothing else does. -/
structure AlertsMovePhases (steps : List (Transition History Op)) : Prop where
  boost : ∀ t ∈ steps, ∀ x, t.input.runs = some x → BOOST ∈ t.before.processed →
    t.before.module.state x = .PAD → t.after.module.state x = .FLIGHT
  landed : ∀ t ∈ steps, ∀ x, t.input.runs = some x → BOOST ∈ t.before.processed →
    LANDED ∈ t.before.processed → t.before.module.state x = .FLIGHT →
    t.after.module.state x = .LANDED
  onPad : ∀ t ∈ steps, ∀ x, BOOST ∉ t.after.processed → t.after.module.state x = .PAD
  notLanded : ∀ t ∈ steps, ∀ x, LANDED ∉ t.after.processed → t.after.module.state x ≠ .LANDED
  forward : ∀ t ∈ steps, ∀ x, (t.before.module.state x).rank ≤ (t.after.module.state x).rank

/-! ## What alerts do -/

/-- A machine of the flight radio that is on the pad. -/
structure Waiting (machine : CPadFlightLandedStateMachine) : Prop where
  state : machine.state = .PAD
  isGroundModule : machine.isGroundModule = false

/-- Both tenants are on the pad, and the flags they read are not set. -/
structure OnPad (m : CRadioModule) : Prop where
  transmit : Waiting m.loraReceiveTenant.loraTransmitTenant.machine
  receive : Waiting m.loraReceiveTenant.machine
  loraTransmitGlobals : m.loraTransmitGlobals = {}
  loraReceiveGlobals : m.loraReceiveGlobals = {}

theorem OnPad.state {m : CRadioModule} (hm : OnPad m) (x : LoraTenant) : m.state x = .PAD := by
  cases x with
  | transmit => exact hm.transmit.state
  | receive => exact hm.receive.state

/-- Observers reach the updater's own flags only. -/
theorem notify_frame (calls : List (CObserver × AlertType)) (m : CRadioModule) :
    ∃ globals, calls.foldl CRadioModule.notify m = { m with updaterGlobals := globals } := by
  induction calls generalizing m with
  | nil => exact ⟨m.updaterGlobals, rfl⟩
  | cons call calls ih => exact ih (m.notify call)

theorem onPad_started {m : CRadioModule} (h : CRadioModule.started = .ok m) : OnPad m := by
  obtain ⟨lt, hstart, hmachine, -⟩ := startup_keys true
  unfold CRadioModule.started CLoraReceiveTenant.started at h
  rw [hstart] at h
  cases h
  refine ⟨?_, ⟨rfl, rfl⟩, rfl, rfl⟩
  exact hmachine ▸ ⟨rfl, rfl⟩

/-- What keeps the machines and the flags they follow keeps the module on the pad. -/
theorem OnPad.of_frame {m m' : CRadioModule} (hm : OnPad m)
    (htransmit : m'.loraReceiveTenant.loraTransmitTenant.machine =
      m.loraReceiveTenant.loraTransmitTenant.machine)
    (hreceive : m'.loraReceiveTenant.machine = m.loraReceiveTenant.machine)
    (htg : m'.loraTransmitGlobals = m.loraTransmitGlobals)
    (hrg : m'.loraReceiveGlobals = m.loraReceiveGlobals) : OnPad m' :=
  ⟨htransmit ▸ hm.transmit, hreceive ▸ hm.receive, htg.trans hm.loraTransmitGlobals,
    hrg.trans hm.loraReceiveGlobals⟩

/-- A machine on the pad whose flags are not set stays there. -/
theorem Waiting.run {machine : CPadFlightLandedStateMachine} (h : Waiting machine) :
    Waiting (machine.run false {}).2 := by
  obtain ⟨-, hground, hnext⟩ := run_flight h.isGroundModule {}
  rw [h.state] at hnext
  exact ⟨hnext, hground⟩

/-- A step of the transmit tenant is a `Run` that succeeds. -/
theorem transmitRun_ok {m m' : CRadioModule} {env : Answers}
    (h : m.step (.loraTransmitRun env) = .ok m') :
    ∃ r, m.loraReceiveTenant.loraTransmitTenant.run false m.loraTransmitGlobals env = .ok r ∧
      m' = m.setLoraTransmitTenant r.1 := by
  unfold CRadioModule.step at h
  simp only at h
  split at h
  · cases h
  · rename_i r hr
    cases h
    exact ⟨r, hr, rfl⟩

theorem receiveRun_ok {m m' : CRadioModule} {env : Answers}
    (h : m.step (.loraReceiveRun env) = .ok m') :
    ∃ r, m.loraReceiveTenant.run false m.loraReceiveGlobals env = .ok r ∧
      m' = { m with loraReceiveTenant := r.1 } := by
  unfold CRadioModule.step at h
  simp only at h
  split at h
  · cases h
  · rename_i r hr
    cases h
    exact ⟨r, hr, rfl⟩

/-- **No step takes a tenant off the pad.** -/
theorem step_onPad {m m' : CRadioModule} {op : Op} (hm : OnPad m) (h : m.step op = .ok m') :
    OnPad m' := by
  cases op with
  | alertArrives | sensorModuleArrives | sensorModuleListenerRun | powerModuleArrives
  | powerModuleListenerRun | gnssSend =>
    cases h
    exact hm.of_frame rfl rfl rfl rfl
  | alertRun fcntl =>
    cases h
    obtain ⟨globals, hnotify⟩ := notify_frame (m.alertTenant.run fcntl).2
      { m with alertTenant := (m.alertTenant.run fcntl).1 }
    rw [hnotify]
    exact hm.of_frame rfl rfl rfl rfl
  | loraTransmitRun env =>
    obtain ⟨r, hr, rfl⟩ := transmitRun_ok h
    have hmachine := transmit_run_machine hr
    rw [hm.loraTransmitGlobals] at hmachine
    exact ⟨hmachine ▸ hm.transmit.run, hm.receive, hm.loraTransmitGlobals, hm.loraReceiveGlobals⟩
  | loraReceiveRun env =>
    obtain ⟨r, hr, rfl⟩ := receiveRun_ok h
    obtain ⟨hmachine, hother⟩ := receive_run_machine hr
    rw [hm.loraReceiveGlobals] at hmachine
    exact ⟨hother ▸ hm.transmit, hmachine ▸ hm.receive.run, hm.loraTransmitGlobals,
      hm.loraReceiveGlobals⟩
  | shutoffTimerExpires =>
    cases h
    unfold CLoraReceiveTenant.shutoffTimerExpires
    split
    · exact hm.of_frame rfl rfl rfl rfl
    · exact hm.of_frame rfl rfl rfl rfl

/-- **The whole run is made on the pad.** -/
theorem radioRun_onPad {ops : List Op} {t : Transition History Op} (ht : t ∈ radioRun ops) :
    OnPad t.before.module ∧ OnPad t.after.module := by
  unfold radioRun at ht
  split at ht
  · exact absurd ht List.not_mem_nil
  · rename_i m hstarted
    refine (transitions_invariant (P := fun h : History => OnPad h.module) ?_
      (onPad_started hstarted) ht).2
    intro h op h' hpad hstep
    unfold History.step at hstep
    split at hstep
    · cases hstep
    · rename_i m' hm'
      cases hstep
      exact step_onPad hpad hm'

/-- **Alerts move the phases iff** no LoRa tenant runs after a boost alert was processed. -/
theorem alerts_move_iff (ops : List Op) :
    AlertsMovePhases (radioRun ops) ↔
      ∀ t ∈ radioRun ops, ∀ x, t.input.runs = some x → BOOST ∉ t.before.processed := by
  constructor
  · intro h t ht x hx hboost
    obtain ⟨hbefore, hafter⟩ := radioRun_onPad ht
    have hflight := h.boost t ht x hx hboost (hbefore.state x)
    rw [hafter.state x] at hflight
    cases hflight
  · intro h
    refine ⟨fun t ht x hx hboost => absurd hboost (h t ht x hx),
      fun t ht x hx hboost => absurd hboost (h t ht x hx), fun t ht x _ => ?_,
      fun t ht x _ => ?_, fun t ht x => ?_⟩
    · exact (radioRun_onPad ht).2.state x
    · rw [(radioRun_onPad ht).2.state x]
      exact State.noConfusion
    · rw [(radioRun_onPad ht).1.state x]
      exact Nat.zero_le _

/-- A boost alert arrives and is processed, and the transmit tenant runs. -/
def boosted : List Op :=
  [.alertArrives (alertPacket BOOST), .alertRun ⟨0, true, 0⟩, .loraTransmitRun (delivering [])]

/-- **The transmit tenant stays on the pad.** -/
theorem alerts_move_fails : ¬ ∀ ops, AlertsMovePhases (radioRun ops) := by
  intro h
  have hthird : ((radioRun boosted)[2]?.map fun t => (t.input.runs, t.before.processed)) =
      some (some .transmit, [BOOST]) := by decide
  obtain ⟨t, ht, heq⟩ := Option.map_eq_some_iff.mp hthird
  obtain ⟨hruns, hprocessed⟩ := Prod.mk.inj heq
  have hmem := List.mem_of_getElem? ht
  obtain ⟨hbefore, hafter⟩ := radioRun_onPad hmem
  have hflight := (h boosted).boost t hmem .transmit hruns
    (by rw [hprocessed]; exact List.mem_singleton_self BOOST) (hbefore.state .transmit)
  rw [hafter.state .transmit] at hflight
  cases hflight

end Backplane.Radio
