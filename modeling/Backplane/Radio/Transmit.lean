import Backplane.General.FoldM
import Backplane.Radio.StateMachine
import Backplane.Radio.Types
import Mathlib.Tactic.Tauto

/-!
# The LoRa transmit tenant

Model of `CLoraTransmitTenant` (`app/backplane/radio_module/src/c_lora_transmit_tenant.cpp`): its
phase, its maps, its four handlers and `transmit`. A `k_oops` ends a `Run` with `Fault.kOops`, and
leaves what was sent before (`Halted`).

Results:
* `startup_keys`: the keys after `Startup`.
* `transmit_isOk`: `transmit` oopses exactly on a size of 255.
* `padRun_kept`: `PadRun` keeps the keys of both maps, and the phase.
* `transmit_run_machine`: whatever its handler does, a `Run` moves the phase as the machine says.
-/

namespace Backplane.Radio

open Backplane.FoldM
open Backplane.Utils

/-- `CLoraTransmitTenant`. -/
structure CLoraTransmitTenant where
  machine : CPadFlightLandedStateMachine
  lora : CLora
  loraTransmitPort : MessagePort
  portDataMap : CHashMap UInt16 RadioBroadcastData
  padDataRequestedMap : CHashMap UInt16 Bool

/-- As constructed. -/
def CLoraTransmitTenant.new : CLoraTransmitTenant :=
  { machine := {}, lora := {}, loraTransmitPort := [], portDataMap := .new,
    padDataRequestedMap := .new }

/-- The ports that can be requested on the pad, as `Startup` inserts them. -/
def padPorts : List UInt16 :=
  [POWER_MODULE_INA_DATA_PORT, RADIO_MODULE_GNSS_DATA_PORT, SENSOR_MODULE_TELEMETRY_PORT]

/-- Insert `value` under each key, and whether all keys were new. -/
def insertAll {V : Type} (isMainThreadCurrent : Bool) (value : V) (m : CHashMap UInt16 V)
    (keys : List UInt16) : Except Fault (CHashMap UInt16 V × Bool) :=
  keys.foldlM (fun acc key => do
    let r ← acc.1.insert isMainThreadCurrent key value
    return (r.1, acc.2 && r.2)) (m, true)

/-- `Startup`. -/
def CLoraTransmitTenant.startup (t : CLoraTransmitTenant) (isMainThreadCurrent : Bool) :
    Except Fault CLoraTransmitTenant := do
  let data ← insertAll isMainThreadCurrent RadioBroadcastData.zero t.portDataMap padPorts
  let requested ← insertAll isMainThreadCurrent false t.padDataRequestedMap padPorts
  if !(data.2 && requested.2) then throw .kOops
  return { t with portDataMap := data.1, padDataRequestedMap := requested.1 }

/-- `transmit`. -/
def CLoraTransmitTenant.transmit (t : CLoraTransmitTenant) (env : Answers)
    (data : RadioBroadcastData) : Except Halted (CLoraTransmitTenant × List Output) :=
  if data.size.toNat > 256 - 2 then .error { fault := .kOops, outputs := [] }
  else if data.size = 0 then .ok (t, [])
  else
    let txData := littleEndian data.port ++ data.data.toList.take data.size.toNat
    let sent := t.lora.transmitSynchronous env txData
    .ok ({ t with lora := sent.1 }, sent.2)

/-- `readTransmitQueue`. -/
def CLoraTransmitTenant.readTransmitQueue (t : CLoraTransmitTenant) :
    CLoraTransmitTenant × Option RadioBroadcastData :=
  let r := MessagePort.receive t.loraTransmitPort
  ({ t with loraTransmitPort := r.1 }, r.2)

/-- One port of the loop of `PadRun`. -/
def CLoraTransmitTenant.serveRequest (env : Answers)
    (acc : CLoraTransmitTenant × List Output) (entry : UInt16 × Bool) :
    Except Halted (CLoraTransmitTenant × List Output) :=
  if entry.2 then
    let data := (acc.1.portDataMap.get entry.1).getD .zero
    if entry.1 = 0 then .ok acc
    else
      match acc.1.transmit env data with
      | .error e => .error { e with outputs := acc.2 ++ e.outputs }
      | .ok sent =>
        match sent.1.padDataRequestedMap.assign entry.1 false with
        | .error e => .error { fault := e, outputs := acc.2 ++ sent.2 }
        | .ok requested =>
          .ok ({ sent.1 with padDataRequestedMap := requested }, acc.2 ++ sent.2)
  else .ok acc

/-- `PadRun`. -/
def CLoraTransmitTenant.padRun (t : CLoraTransmitTenant) (env : Answers) :
    Except Halted (CLoraTransmitTenant × List Output) :=
  let r := t.readTransmitQueue
  let rxData := r.2.getD .zero
  let t := { r.1 with portDataMap := (r.1.portDataMap.set rxData.port rxData).1 }
  (t.padDataRequestedMap.map.entries.map fun e => (e.1, e.2)).foldlM
    (CLoraTransmitTenant.serveRequest env) (t, [])

/-- `FlightRun`. -/
def CLoraTransmitTenant.flightRun (t : CLoraTransmitTenant) (env : Answers) :
    Except Halted (CLoraTransmitTenant × List Output) :=
  match t.readTransmitQueue with
  | (t, some data) => t.transmit env data
  | (t, none) => .ok (t, [])

/-- `LandedRun`. -/
def CLoraTransmitTenant.landedRun (t : CLoraTransmitTenant) (env : Answers) :
    Except Halted (CLoraTransmitTenant × List Output) :=
  match t.readTransmitQueue with
  | (t, some data) =>
    if data.port = RADIO_MODULE_GNSS_DATA_PORT then t.transmit env data else .ok (t, [])
  | (t, none) => .ok (t, [])

/-- `GroundRun`. -/
def CLoraTransmitTenant.groundRun (t : CLoraTransmitTenant) (env : Answers) :
    Except Halted (CLoraTransmitTenant × List Output) :=
  match t.readTransmitQueue with
  | (t, some data) => t.transmit env data
  | (t, none) => .ok (t, [])

/-- `Run`. -/
def CLoraTransmitTenant.run (t : CLoraTransmitTenant) (CONFIG_RADIO_MODULE_RECEIVER : Bool)
    (globals : NStateMachineGlobals) (env : Answers) :
    Except Halted (CLoraTransmitTenant × List Output) :=
  let r := t.machine.run CONFIG_RADIO_MODULE_RECEIVER globals
  let t := { t with machine := r.2 }
  match r.1 with
  | .PAD => t.padRun env
  | .FLIGHT => t.flightRun env
  | .LANDED => t.landedRun env
  | .GROUND => t.groundRun env

/-! ## Keys -/

/-- **After `Startup`** both maps hold the three ports. -/
theorem startup_keys (isMainThreadCurrent : Bool) :
    ∃ t, CLoraTransmitTenant.new.startup isMainThreadCurrent = .ok t ∧ t.machine = {} ∧
      t.lora = {} ∧ (∀ p, p ∈ t.portDataMap.map.keys ↔ p ∈ padPorts) ∧
      ∀ p, p ∈ t.padDataRequestedMap.map.keys ↔ p ∈ padPorts := by
  have hkeys : ∀ p : UInt16, p ∈ [SENSOR_MODULE_TELEMETRY_PORT, RADIO_MODULE_GNSS_DATA_PORT,
      POWER_MODULE_INA_DATA_PORT] ↔ p ∈ padPorts := by
    intro p
    simp only [padPorts, List.mem_cons, List.not_mem_nil, or_false]
    tauto
  cases isMainThreadCurrent
  · exact ⟨_, rfl, rfl, rfl, hkeys, hkeys⟩
  · exact ⟨_, rfl, rfl, rfl, hkeys, hkeys⟩

/-- **`transmit` oopses exactly on a size of 255.** -/
theorem transmit_isOk (t : CLoraTransmitTenant) (env : Answers) (data : RadioBroadcastData) :
    (∃ r, t.transmit env data = .ok r) ↔ data.size.toNat ≤ 254 := by
  unfold CLoraTransmitTenant.transmit
  split
  · rename_i h
    refine ⟨?_, fun hle => by omega⟩
    rintro ⟨r, hr⟩
    cases hr
  · rename_i h
    refine ⟨fun _ => by omega, fun _ => ?_⟩
    split <;> exact ⟨_, rfl⟩

/-- `transmit` changes nothing but the modem's direction. -/
theorem transmit_frame {t : CLoraTransmitTenant} {env : Answers} {data : RadioBroadcastData}
    {r : CLoraTransmitTenant × List Output} (h : t.transmit env data = .ok r) :
    ∃ lora, r.1 = { t with lora := lora } := by
  unfold CLoraTransmitTenant.transmit at h
  split at h
  · cases h
  · split at h
    · cases h
      exact ⟨t.lora, rfl⟩
    · cases h
      exact ⟨_, rfl⟩

/-- The keys of both maps, and the phase, are those of `t0`. -/
structure Kept (t0 t : CLoraTransmitTenant) : Prop where
  machine : t.machine = t0.machine
  data : t.portDataMap.map.keys = t0.portDataMap.map.keys
  requested : t.padDataRequestedMap.map.keys = t0.padDataRequestedMap.map.keys

theorem transmit_kept {t0 t : CLoraTransmitTenant} {env : Answers} {data : RadioBroadcastData}
    {r : CLoraTransmitTenant × List Output} (h0 : Kept t0 t) (h : t.transmit env data = .ok r) :
    Kept t0 r.1 := by
  obtain ⟨lora, hr⟩ := transmit_frame h
  rw [hr]
  exact ⟨h0.machine, h0.data, h0.requested⟩

/-- **When one port is served**: it is passed over, or `transmit` and the reset of its flag
succeed. -/
theorem serveRequest_ok {env : Answers} {acc acc' : CLoraTransmitTenant × List Output}
    {entry : UInt16 × Bool} : CLoraTransmitTenant.serveRequest env acc entry = .ok acc' ↔
      (¬ (entry.2 ∧ entry.1 ≠ 0) ∧ acc' = acc) ∨
      ((entry.2 ∧ entry.1 ≠ 0) ∧ ∃ sent requested,
        acc.1.transmit env ((acc.1.portDataMap.get entry.1).getD .zero) = .ok sent ∧
        sent.1.padDataRequestedMap.assign entry.1 false = .ok requested ∧
        acc' = ({ sent.1 with padDataRequestedMap := requested }, acc.2 ++ sent.2)) := by
  obtain ⟨port, flag⟩ := entry
  unfold CLoraTransmitTenant.serveRequest
  cases flag with
  | false => simp [eq_comm]
  | true =>
    by_cases hzero : port = 0
    · simp [hzero, eq_comm]
    · simp only [hzero, if_true, if_false]
      cases acc.1.transmit env ((acc.1.portDataMap.get port).getD .zero) with
      | error e => simp [hzero]
      | ok sent =>
        simp only
        cases hassign : sent.1.padDataRequestedMap.assign port false with
        | error e => simp [hzero, hassign]
        | ok requested => simp [hzero, hassign, eq_comm]

theorem serveRequest_kept {t0 : CLoraTransmitTenant} {env : Answers}
    (acc : CLoraTransmitTenant × List Output) (entry : UInt16 × Bool)
    (acc' : CLoraTransmitTenant × List Output) (h0 : Kept t0 acc.1)
    (h : CLoraTransmitTenant.serveRequest env acc entry = .ok acc') : Kept t0 acc'.1 := by
  rcases serveRequest_ok.mp h with ⟨-, rfl⟩ | ⟨-, sent, requested, hsent, hassign, rfl⟩
  · exact h0
  · have hkept := transmit_kept h0 hsent
    exact ⟨hkept.machine, hkept.data, (keys_assign hassign).trans hkept.requested⟩

theorem readTransmitQueue_kept (t : CLoraTransmitTenant) : Kept t t.readTransmitQueue.1 :=
  ⟨rfl, rfl, rfl⟩

/-- **`PadRun` keeps the keys** of both maps. -/
theorem padRun_kept {t : CLoraTransmitTenant} {env : Answers}
    {r : CLoraTransmitTenant × List Output} (h : t.padRun env = .ok r) : Kept t r.1 := by
  unfold CLoraTransmitTenant.padRun at h
  refine foldlM_preserves (P := fun acc : CLoraTransmitTenant × List Output => Kept t acc.1)
    (fun acc entry acc' h0 hs => serveRequest_kept acc entry acc' h0 hs) ?_ h
  exact ⟨rfl, keys_set .., rfl⟩

theorem flightRun_kept {t : CLoraTransmitTenant} {env : Answers}
    {r : CLoraTransmitTenant × List Output} (h : t.flightRun env = .ok r) : Kept t r.1 := by
  have hread := readTransmitQueue_kept t
  unfold CLoraTransmitTenant.flightRun at h
  split at h
  · rename_i t' data heq
    rw [heq] at hread
    exact transmit_kept hread h
  · rename_i t' heq
    rw [heq] at hread
    cases h
    exact hread

theorem landedRun_kept {t : CLoraTransmitTenant} {env : Answers}
    {r : CLoraTransmitTenant × List Output} (h : t.landedRun env = .ok r) : Kept t r.1 := by
  have hread := readTransmitQueue_kept t
  unfold CLoraTransmitTenant.landedRun at h
  split at h
  · rename_i t' data heq
    rw [heq] at hread
    split at h
    · exact transmit_kept hread h
    · cases h
      exact hread
  · rename_i t' heq
    rw [heq] at hread
    cases h
    exact hread

/-- `GroundRun` has the body of `FlightRun`. -/
theorem groundRun_eq (t : CLoraTransmitTenant) (env : Answers) :
    t.groundRun env = t.flightRun env :=
  rfl

/-- **A `Run` moves the phase as the machine says**, whatever its handler does. -/
theorem transmit_run_machine {t : CLoraTransmitTenant} {receiver : Bool}
    {globals : NStateMachineGlobals} {env : Answers} {r : CLoraTransmitTenant × List Output}
    (h : t.run receiver globals env = .ok r) :
    r.1.machine = (t.machine.run receiver globals).2 := by
  unfold CLoraTransmitTenant.run at h
  simp only at h
  split at h
  · exact (padRun_kept h).machine
  · exact (flightRun_kept h).machine
  · exact (landedRun_kept h).machine
  · rw [groundRun_eq] at h
    exact (flightRun_kept h).machine

end Backplane.Radio
