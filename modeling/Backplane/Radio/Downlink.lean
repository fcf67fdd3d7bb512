import Backplane.Radio.PadRequest
import Backplane.Radio.RadioModule

/-!
# The downlink of the flight radio

Runs of the flight radio's tenants (`CRadioModule`), in any order and from `Startup` on, with the
frames that the transmit tenant hands to the modem. The tenants never leave the pad, where a frame
is a message that was stored for a requested port. What the ground radio relays goes through
`TransmitAsynchronous`, whose destination is the program's first (`broadcast`).

Results:
* `Waits.run`, `Holds.padRun`, `Holds.receive`: a tenant passes on what it was given.
* `Traced.step`: no step brings in what was not offered.
* `flightRadio_genuine`: every frame that is sent is one that was offered.
* `broadcast_frames`: `TransmitAsynchronous` sends everything to the port of its first call.
* `downlink_relayed`: what the ground radio makes of the frames that reach it.
* `Holds.padRun_isOk`: the transmit tenant does not oops on messages of up to 254 bytes.
* `radio_survives_iff`: a frame that is not harmless halts the radio, and no other step of these
  tenants does.
-/

namespace Backplane.Radio

open Backplane.FoldM
open Backplane.Net
open Backplane.Run
open Backplane.Utils

/-! ## Frames -/

/-- The bytes of a datagram that a listener takes. -/
def taken (datagram : List UInt8) : List UInt8 := datagram.take 254

theorem length_taken (datagram : List UInt8) : (taken datagram).length ≤ 254 :=
  List.length_take_le ..

/-- What a step offers to the downlink. -/
def Op.offers : Op → List RadioBroadcastData
  | .sensorModuleArrives datagram => [messageOf SENSOR_MODULE_TELEMETRY_PORT (taken datagram)]
  | .powerModuleArrives datagram => [messageOf POWER_MODULE_INA_DATA_PORT (taken datagram)]
  | .gnssSend message => [message]
  | _ => []

/-- The frames that it may lead to: a datagram with its listener's port in front, and a message of
the GNSS tenant with its own. -/
def Op.frames : Op → List (List UInt8)
  | .sensorModuleArrives datagram => [frameOf SENSOR_MODULE_TELEMETRY_PORT (taken datagram)]
  | .powerModuleArrives datagram => [frameOf POWER_MODULE_INA_DATA_PORT (taken datagram)]
  | .gnssSend message => [loraFrame message]
  | _ => []

theorem size_messageOf (port : UInt16) {payload : List UInt8} (h : payload.length ≤ 254) :
    (messageOf port payload).size.toNat = payload.length := by
  unfold messageOf
  simp only
  rw [toNat_ofInt_size (Int.natCast_nonneg _) (by omega), Int.toNat_natCast]

theorem loraFrame_messageOf (port : UInt16) {payload : List UInt8} (h : payload.length ≤ 254) :
    loraFrame (messageOf port payload) = frameOf port payload := by
  unfold loraFrame frameOf
  rw [size_messageOf port h]
  unfold messageOf
  rw [take_zeroed h]

theorem frames_eq (op : Op) : op.frames = op.offers.map loraFrame := by
  cases op with
  | sensorModuleArrives datagram =>
    exact congrArg ([·]) (loraFrame_messageOf _ (length_taken datagram)).symm
  | powerModuleArrives datagram =>
    exact congrArg ([·]) (loraFrame_messageOf _ (length_taken datagram)).symm
  | _ => rfl

/-! ## Runs -/

/-- The module, and the frames that the transmit tenant has sent. -/
structure Downlink where
  module : CRadioModule
  sent : List (List UInt8)

/-- The frames that the transmit tenant sends in a step. -/
def CRadioModule.transmitted (m : CRadioModule) : Op → List (List UInt8)
  | .loraTransmitRun env =>
    heard some (putOut
      (m.loraReceiveTenant.loraTransmitTenant.run false m.loraTransmitGlobals env))
  | _ => []

/-- One step. -/
def Downlink.step (h : Downlink) (op : Op) : Except Fault Downlink :=
  match h.module.step op with
  | .error e => .error e
  | .ok m => .ok { module := m, sent := h.sent ++ h.module.transmitted op }

/-- A run of the radio. -/
def flightRadio (ops : List Op) : Except Fault Downlink := do
  let m ← CRadioModule.started
  ops.foldlM Downlink.step { module := m, sent := [] }

/-- The transmit tenant. -/
def CRadioModule.loraTransmitTenant (m : CRadioModule) : CLoraTransmitTenant :=
  m.loraReceiveTenant.loraTransmitTenant

/-- Datagrams that wait at a listener of `port` were offered. -/
def Waits (offered : List RadioBroadcastData) (listener : CUdpListenerTenant) (port : UInt16) :
    Prop :=
  listener.listenPort = port ∧ ∀ datagram ∈ listener.udp, messageOf port (taken datagram) ∈ offered

/-- What the transmit tenant has was offered; the maps have the ports of `Startup`. -/
structure Holds (offered : List RadioBroadcastData) (t : CLoraTransmitTenant) : Prop where
  queue : ∀ message ∈ t.loraTransmitPort, message ∈ offered
  stored : ∀ p message, t.portDataMap.get p = some message → message = .zero ∨ message ∈ offered
  keys : ∀ p, p ∈ t.padDataRequestedMap.map.keys ↔ p ∈ padPorts

/-- Everything in the module that is on its way down was offered. -/
structure Traced (offered : List RadioBroadcastData) (m : CRadioModule) : Prop where
  sensor : Waits offered m.sensorModuleListenerTenant SENSOR_MODULE_TELEMETRY_PORT
  power : Waits offered m.powerModuleListenerTenant POWER_MODULE_INA_DATA_PORT
  transmit : Holds offered m.loraTransmitTenant

variable {offered more : List RadioBroadcastData}

theorem Waits.append {listener : CUdpListenerTenant} {port : UInt16}
    (h : Waits offered listener port) : Waits (offered ++ more) listener port :=
  ⟨h.1, fun datagram hd => List.mem_append_left _ (h.2 datagram hd)⟩

theorem Holds.append {t : CLoraTransmitTenant} (h : Holds offered t) :
    Holds (offered ++ more) t where
  queue := fun message hm => List.mem_append_left _ (h.queue message hm)
  stored := fun p message hm => (h.stored p message hm).imp_right (List.mem_append_left _)
  keys := h.keys

/-- A datagram that arrives is offered. -/
theorem Waits.arrives {listener : CUdpListenerTenant} {port : UInt16}
    (h : Waits offered listener port) (datagram : List UInt8) :
    Waits (offered ++ [messageOf port (taken datagram)])
      { listener with udp := listener.udp ++ [datagram] } port := by
  refine ⟨h.1, fun d hd => ?_⟩
  rcases List.mem_append.mp hd with hold | hnew
  · exact List.mem_append_left _ (h.2 d hold)
  · rw [List.mem_singleton.mp hnew]
    exact List.mem_append_right _ (List.mem_singleton_self _)

/-- With another queue of messages that were offered. -/
theorem Holds.withQueue {t : CLoraTransmitTenant} (h : Holds offered t) {queue : MessagePort}
    (hqueue : ∀ message ∈ queue, message ∈ offered) :
    Holds offered { t with loraTransmitPort := queue } :=
  ⟨hqueue, h.stored, h.keys⟩

theorem mem_send {queue : MessagePort} {sent message : RadioBroadcastData}
    (h : message ∈ (queue.send sent).1) : message ∈ queue ∨ message = sent := by
  unfold MessagePort.send at h
  split at h
  · exact (List.mem_append.mp h).imp_right List.mem_singleton.mp
  · exact Or.inl h

/-! ## The listeners -/

theorem taken_pos {datagram : List UInt8} (h : datagram ≠ []) :
    ¬ ((taken datagram).length : Int) ≤ 0 := by
  cases datagram with
  | nil => exact absurd rfl h
  | cons first tail => simp [taken]

/-- A `Run` of a listener that takes a datagram, with room in the queue. -/
theorem listener_takes {listener : CUdpListenerTenant} {fcntl : Fcntl} {queue : MessagePort}
    {datagram : List UInt8} {rest : List (List UInt8)} (hudp : listener.udp = datagram :: rest)
    (hok : fcntl.ok = true) (hne : datagram ≠ []) (hroom : queue.length < 10) :
    listener.run fcntl queue = ({ listener with udp := rest },
      queue ++ [messageOf listener.listenPort (taken datagram)]) := by
  obtain ⟨udp, listenPort⟩ := listener
  cases hudp
  have hreceive : Inbox.receiveAsynchronous (datagram :: rest) fcntl 254 =
      (rest, ((taken datagram).length : Int), taken datagram) := by
    rw [receiveAsynchronous_cons _ _ hok, taken]
  unfold CUdpListenerTenant.run MessagePort.send
  simp only [hreceive, if_neg (taken_pos hne), if_pos hroom, if_true]
  rfl

/-- **A `Run` of a listener** takes the first datagram, if one waits. One that is empty is dropped,
and where the queue is full everything in it goes. -/
theorem listener_cases (listener : CUdpListenerTenant) (fcntl : Fcntl) (queue : MessagePort) :
    listener.run fcntl queue = (listener, queue) ∨
      ∃ datagram rest, listener.udp = datagram :: rest ∧
        ((datagram = [] ∧ listener.run fcntl queue = ({ listener with udp := rest }, queue)) ∨
          (datagram ≠ [] ∧ listener.run fcntl queue =
            ({ listener with udp := rest },
              queue ++ [messageOf listener.listenPort (taken datagram)])) ∨
          listener.run fcntl queue = ({ listener with udp := rest }, [])) := by
  obtain ⟨udp, listenPort⟩ := listener
  by_cases hok : fcntl.ok = true
  · cases udp with
    | nil =>
      have hreceive : Inbox.receiveAsynchronous [] fcntl 254 = ([], 0, []) := by
        rw [Inbox.receiveAsynchronous, if_pos hok]
      unfold CUdpListenerTenant.run
      simp only [hreceive, Int.le_refl, if_true, true_or]
    | cons datagram rest =>
      have hreceive : Inbox.receiveAsynchronous (datagram :: rest) fcntl 254 =
          (rest, ((taken datagram).length : Int), taken datagram) := by
        rw [receiveAsynchronous_cons _ _ hok, taken]
      refine Or.inr ⟨datagram, rest, rfl, ?_⟩
      by_cases hne : datagram = []
      · subst hne
        refine Or.inl ⟨rfl, ?_⟩
        unfold CUdpListenerTenant.run
        simp only [hreceive]
        rfl
      by_cases hroom : queue.length < 10
      · exact Or.inr (Or.inl ⟨hne, listener_takes rfl hok hne hroom⟩)
      · refine Or.inr (Or.inr ?_)
        unfold CUdpListenerTenant.run MessagePort.send
        simp only [hreceive, if_neg (taken_pos hne), if_neg hroom, Bool.false_eq_true, if_false]
  · unfold CUdpListenerTenant.run
    simp only [receiveAsynchronous_error _ hok]
    rw [if_pos (by decide)]
    exact Or.inl rfl

/-- What a listener queues was offered. -/
theorem Waits.run {listener : CUdpListenerTenant} {port : UInt16} (h : Waits offered listener port)
    (fcntl : Fcntl) {queue : MessagePort} (hqueue : ∀ message ∈ queue, message ∈ offered) :
    Waits offered (listener.run fcntl queue).1 port ∧
      ∀ message ∈ (listener.run fcntl queue).2, message ∈ offered := by
  obtain ⟨rfl, hwaits⟩ := h
  rcases listener_cases listener fcntl queue with hsame | ⟨datagram, rest, hudp, hrun⟩
  · rw [hsame]
    exact ⟨⟨rfl, hwaits⟩, hqueue⟩
  · rw [hudp] at hwaits
    obtain ⟨hfirst, hrest⟩ := List.forall_mem_cons.mp hwaits
    rcases hrun with ⟨-, hrun⟩ | ⟨-, hrun⟩ | hrun
    · rw [hrun]
      exact ⟨⟨rfl, hrest⟩, hqueue⟩
    · rw [hrun]
      refine ⟨⟨rfl, hrest⟩, fun message hm => ?_⟩
      rcases List.mem_append.mp hm with hold | hnew
      · exact hqueue message hold
      · rw [List.mem_singleton.mp hnew]
        exact hfirst
    · rw [hrun]
      exact ⟨⟨rfl, hrest⟩, fun _ hm => absurd hm List.not_mem_nil⟩

/-! ## `PadRun` of the transmit tenant -/

/-- What `PadRun` stores before its loop. -/
theorem Holds.padStored {t : CLoraTransmitTenant} (h : Holds offered t) :
    Holds offered t.padStored where
  queue := by
    intro message hm
    refine h.queue message ?_
    unfold CLoraTransmitTenant.padStored CLoraTransmitTenant.readTransmitQueue at hm
    cases hq : t.loraTransmitPort with
    | nil =>
      rw [hq] at hm
      exact hm
    | cons head rest =>
      rw [hq] at hm
      exact List.mem_cons_of_mem _ hm
  stored := by
    intro p message hm
    have hrx : t.readTransmitQueue.2.getD .zero = .zero ∨
        t.readTransmitQueue.2.getD .zero ∈ offered := by
      have hqueue := h.queue
      unfold CLoraTransmitTenant.readTransmitQueue
      cases hq : t.loraTransmitPort with
      | nil => exact Or.inl rfl
      | cons head rest =>
        rw [hq] at hqueue
        exact Or.inr (hqueue head List.mem_cons_self)
    unfold CLoraTransmitTenant.padStored at hm
    simp only [get_set] at hm
    split at hm
    · cases hm
      exact hrx
    · exact h.stored p message hm
  keys := h.keys

/-- The loop leaves the queue alone. -/
theorem padRun_queue {t : CLoraTransmitTenant} {env : Answers}
    {r : CLoraTransmitTenant × List Output} (h : t.padRun env = .ok r) :
    r.1.loraTransmitPort = t.padStored.loraTransmitPort := by
  rw [padRun_eq] at h
  refine foldlM_preserves (P := fun acc : CLoraTransmitTenant × List Output =>
    acc.1.loraTransmitPort = t.padStored.loraTransmitPort) ?_ rfl h
  intro acc entry acc' hacc hs
  rcases serveRequest_ok.mp hs with ⟨-, rfl⟩ | ⟨-, sent, requested, hsent, -, rfl⟩
  · exact hacc
  · obtain ⟨lora, hframe⟩ := transmit_frame hsent
    rw [hframe]
    exact hacc

theorem Holds.padRun {t : CLoraTransmitTenant} (h : Holds offered t) {env : Answers}
    {r : CLoraTransmitTenant × List Output} (hr : t.padRun env = .ok r) : Holds offered r.1 where
  queue := by
    rw [padRun_queue hr]
    exact h.padStored.queue
  stored := by
    rw [padRun_data hr]
    exact h.padStored.stored
  keys := by
    rw [(padRun_kept hr).requested]
    exact h.keys

/-- A stored message is a placeholder, or was offered. -/
theorem Holds.stored_eq {t : CLoraTransmitTenant} (h : Holds offered t) (p : UInt16) :
    t.stored p = .zero ∨ t.stored p ∈ offered := by
  unfold CLoraTransmitTenant.stored
  cases hp : t.portDataMap.get p with
  | none => exact Or.inl rfl
  | some message => exact h.stored p message hp

/-- **What `PadRun` hands to the modem** was offered: a placeholder is empty. -/
theorem Holds.padFrames {t : CLoraTransmitTenant} (h : Holds offered t) {frame : List UInt8}
    (hframe : frame ∈ t.padFrames) : ∃ message ∈ offered, frame = loraFrame message := by
  obtain ⟨entry, -, hframe⟩ := List.mem_flatMap.mp hframe
  unfold CLoraTransmitTenant.requestFrames transmitFrames at hframe
  split at hframe
  · split at hframe
    · exact absurd hframe List.not_mem_nil
    · rename_i hsize
      rcases h.padStored.stored_eq entry.1 with hzero | hoffered
      · exact absurd (congrArg RadioBroadcastData.size hzero) hsize
      · exact ⟨_, hoffered, List.mem_singleton.mp hframe⟩
  · exact absurd hframe List.not_mem_nil

/-- The modem sends what it is handed, and nothing else. -/
theorem heard_transmitAll {lora : CLora} {env : Answers} {frames : List (List UInt8)}
    {frame : List UInt8} (h : frame ∈ heard some (lora.transmitAll env frames).2) :
    frame ∈ frames := by
  induction frames using List.reverseRecOn with
  | nil => exact h
  | append_singleton frames last ih =>
    rw [transmitAll_append] at h
    unfold heard at h ih
    rw [List.filterMap_append] at h
    rcases List.mem_append.mp h with hold | hnew
    · exact List.mem_append_left _ (ih hold)
    · refine List.mem_append_right _ ?_
      unfold CLora.transmitAll CLora.transmitSynchronous at hnew
      simp only [List.foldl_cons, List.foldl_nil, List.nil_append] at hnew
      split at hnew
      · exact absurd hnew List.not_mem_nil
      · exact hnew

/-! ## `PadRun` of the receive tenant -/

/-- No branch touches the queue. -/
theorem padFrame_queue {t : CLoraReceiveTenant} {env : Answers} {rx : Received}
    {r : CLoraReceiveTenant × List Output} (h : t.padFrame env rx = .ok r) :
    r.1.loraTransmitTenant.loraTransmitPort = t.loraTransmitTenant.loraTransmitPort := by
  unfold CLoraReceiveTenant.padFrame at h
  split at h
  · cases h
    rfl
  split at h
  · split at h
    · simp only at h
      split at h
      · cases h
      · rename_i lt sent hsent
        obtain ⟨lora, hframe⟩ := transmit_frame hsent
        cases h
        show lt.loraTransmitPort = _
        rw [show lt = _ from hframe]
    split at h
    · split at h
      · cases h
      · cases h
        rfl
    · split at h
      · cases h
      · cases h
        rfl
  · cases h
    rfl

theorem receive_queue (t : CLoraReceiveTenant) (env : Answers) :
    (t.receive env).1.loraTransmitTenant.loraTransmitPort =
      t.loraTransmitTenant.loraTransmitPort := by
  unfold CLoraReceiveTenant.receive
  simp only
  split <;> rfl

theorem Holds.receive {t : CLoraReceiveTenant} (h : Holds offered t.loraTransmitTenant)
    {env : Answers} {r : CLoraReceiveTenant × List Output} (hr : t.padRun env = .ok r) :
    Holds offered r.1.loraTransmitTenant := by
  have hkeeps := receive_padRun_flags hr
  have hqueue := (padFrame_queue hr).trans (receive_queue t env)
  exact ⟨hqueue ▸ h.queue, hkeeps.data ▸ h.stored, hkeeps.keys ▸ h.keys⟩

/-! ## Runs of the module -/

/-- On the pad a `Run` of the transmit tenant is a `PadRun`. -/
theorem OnPad.transmit_run {m : CRadioModule} (h : OnPad m) (env : Answers) :
    m.loraTransmitTenant.run false m.loraTransmitGlobals env =
      { m.loraTransmitTenant with
        machine := (m.loraTransmitTenant.machine.run false {}).2 }.padRun env := by
  have hstate : (m.loraTransmitTenant.machine.run false {}).1 = .PAD :=
    (run_flight h.transmit.isGroundModule {}).1.trans h.transmit.state
  unfold CLoraTransmitTenant.run
  rw [h.loraTransmitGlobals]
  simp only [hstate]

/-- And one of the receive tenant. -/
theorem OnPad.receive_run {m : CRadioModule} (h : OnPad m) (env : Answers) :
    m.loraReceiveTenant.run false m.loraReceiveGlobals env =
      { m.loraReceiveTenant with
        machine := (m.loraReceiveTenant.machine.run false {}).2 }.padRun env := by
  have hstate : (m.loraReceiveTenant.machine.run false {}).1 = .PAD :=
    (run_flight h.receive.isGroundModule {}).1.trans h.receive.state
  unfold CLoraReceiveTenant.run
  rw [h.loraReceiveGlobals]
  simp only [hstate]

/-- The phase of the transmit tenant is not data. -/
theorem Holds.withMachine {t : CLoraTransmitTenant} (h : Holds offered t)
    (machine : CPadFlightLandedStateMachine) : Holds offered { t with machine := machine } :=
  ⟨h.queue, h.stored, h.keys⟩

/-- **No step brings in what was not offered.** -/
theorem Traced.step {m m' : CRadioModule} {op : Op} (hm : Traced offered m) (hpad : OnPad m)
    (h : m.step op = .ok m') : Traced (offered ++ op.offers) m' := by
  cases op with
  | alertArrives datagram =>
    cases h
    exact ⟨hm.sensor.append, hm.power.append, hm.transmit.append⟩
  | alertRun fcntl =>
    cases h
    obtain ⟨globals, hnotify⟩ := notify_frame (m.alertTenant.run fcntl).2
      { m with alertTenant := (m.alertTenant.run fcntl).1 }
    rw [hnotify]
    exact ⟨hm.sensor.append, hm.power.append, hm.transmit.append⟩
  | sensorModuleArrives datagram =>
    cases h
    exact ⟨hm.sensor.arrives datagram, hm.power.append, hm.transmit.append⟩
  | sensorModuleListenerRun fcntl =>
    obtain ⟨hsensor, hqueue⟩ := hm.sensor.run fcntl hm.transmit.queue
    cases h
    exact ⟨hsensor.append, hm.power.append, (hm.transmit.withQueue hqueue).append⟩
  | powerModuleArrives datagram =>
    cases h
    exact ⟨hm.sensor.append, hm.power.arrives datagram, hm.transmit.append⟩
  | powerModuleListenerRun fcntl =>
    obtain ⟨hpower, hqueue⟩ := hm.power.run fcntl hm.transmit.queue
    cases h
    exact ⟨hm.sensor.append, hpower.append, (hm.transmit.withQueue hqueue).append⟩
  | gnssSend message =>
    cases h
    refine ⟨hm.sensor.append, hm.power.append, hm.transmit.append.withQueue fun sent hsent => ?_⟩
    rcases mem_send hsent with hold | hnew
    · exact List.mem_append_left _ (hm.transmit.queue sent hold)
    · rw [hnew]
      exact List.mem_append_right _ (List.mem_singleton_self _)
  | loraTransmitRun env =>
    obtain ⟨r, hr, rfl⟩ := transmitRun_ok h
    rw [show m.loraReceiveTenant.loraTransmitTenant = m.loraTransmitTenant from rfl,
      hpad.transmit_run] at hr
    exact ⟨hm.sensor.append, hm.power.append, ((hm.transmit.withMachine _).padRun hr).append⟩
  | loraReceiveRun env =>
    obtain ⟨r, hr, rfl⟩ := receiveRun_ok h
    rw [hpad.receive_run] at hr
    have hreceive : Holds offered r.1.loraTransmitTenant :=
      Holds.receive (t := { m.loraReceiveTenant with
        machine := (m.loraReceiveTenant.machine.run false {}).2 }) hm.transmit hr
    exact ⟨hm.sensor.append, hm.power.append, hreceive.append⟩
  | shutoffTimerExpires =>
    cases h
    unfold CLoraReceiveTenant.shutoffTimerExpires
    split
    · exact ⟨hm.sensor.append, hm.power.append, hm.transmit.append⟩
    · exact ⟨hm.sensor.append, hm.power.append, hm.transmit.append⟩

/-- What a step sends was offered. -/
theorem Traced.transmitted {m m' : CRadioModule} {op : Op} (hm : Traced offered m) (hpad : OnPad m)
    (h : m.step op = .ok m') {frame : List UInt8} (hframe : frame ∈ m.transmitted op) :
    ∃ message ∈ offered, frame = loraFrame message := by
  cases op with
  | loraTransmitRun env =>
    obtain ⟨r, hr, -⟩ := transmitRun_ok h
    unfold CRadioModule.transmitted at hframe
    simp only [hr, putOut] at hframe
    rw [show m.loraReceiveTenant.loraTransmitTenant = m.loraTransmitTenant from rfl,
      hpad.transmit_run] at hr
    rw [(Prod.mk.inj (padRun_sends hr)).2] at hframe
    exact (hm.transmit.withMachine _).padFrames (heard_transmitAll hframe)
  | _ => exact absurd hframe List.not_mem_nil

/-- **The law of the downlink.** -/
structure Genuine (ops : List Op) (h : Downlink) : Prop where
  onPad : OnPad h.module
  traced : Traced (ops.flatMap Op.offers) h.module
  sent : ∀ frame ∈ h.sent, frame ∈ ops.flatMap Op.frames

theorem mem_frames {ops : List Op} {message : RadioBroadcastData}
    (h : message ∈ ops.flatMap Op.offers) : loraFrame message ∈ ops.flatMap Op.frames := by
  obtain ⟨op, hop, hmessage⟩ := List.mem_flatMap.mp h
  refine List.mem_flatMap.mpr ⟨op, hop, ?_⟩
  rw [frames_eq]
  exact List.mem_map_of_mem hmessage

theorem step_ok {h h' : Downlink} {op : Op} :
    h.step op = .ok h' ↔ ∃ m, h.module.step op = .ok m ∧
      h' = { module := m, sent := h.sent ++ h.module.transmitted op } := by
  unfold Downlink.step
  cases h.module.step op with
  | error e => simp
  | ok m => simp [eq_comm]

theorem genuine_step {ops : List Op} {op : Op} {h h' : Downlink} (hg : Genuine ops h)
    (hstep : h.step op = .ok h') : Genuine (ops ++ [op]) h' := by
  obtain ⟨m, hm, rfl⟩ := step_ok.mp hstep
  have htraced := hg.traced.step hg.onPad hm
  refine ⟨step_onPad hg.onPad hm, ?_, fun frame hframe => ?_⟩
  · rw [List.flatMap_append, List.flatMap_singleton]
    exact htraced
  · rw [List.flatMap_append]
    refine List.mem_append_left _ ?_
    rcases List.mem_append.mp hframe with hold | hnew
    · exact hg.sent frame hold
    · obtain ⟨message, hmessage, rfl⟩ := hg.traced.transmitted hg.onPad hm hnew
      exact mem_frames hmessage

theorem startup_queue {t t' : CLoraTransmitTenant} {main : Bool} (h : t.startup main = .ok t') :
    t'.loraTransmitPort = t.loraTransmitPort := by
  unfold CLoraTransmitTenant.startup at h
  obtain ⟨data, -, h⟩ := bind_ok.mp h
  obtain ⟨requested, -, h⟩ := bind_ok.mp h
  split at h
  · cases h
  · cases h
    rfl

/-- **After `Startup`** nothing is on its way: the maps hold placeholders. -/
theorem traced_started {m : CRadioModule} (h : CRadioModule.started = .ok m) : Traced [] m := by
  unfold CRadioModule.started at h
  obtain ⟨t, ht, h⟩ := bind_ok.mp h
  have hinv := padInv_started ht
  unfold CLoraReceiveTenant.started at ht
  obtain ⟨lt, hstart, ht⟩ := bind_ok.mp ht
  cases ht
  cases h
  refine ⟨⟨rfl, fun _ hd => absurd hd List.not_mem_nil⟩,
    ⟨rfl, fun _ hd => absurd hd List.not_mem_nil⟩, ?_, fun p message hp => Or.inl ?_,
    hinv.requestKeys⟩
  · intro message hm
    have hqueue : lt.loraTransmitPort = [] := startup_queue hstart
    change message ∈ lt.loraTransmitPort at hm
    rw [hqueue] at hm
    exact absurd hm List.not_mem_nil
  · change lt.portDataMap.get p = some message at hp
    have hmem : p ∈ padPorts :=
      (hinv.dataKeys p).mp (AList.lookup_isSome.mp (Option.isSome_iff_exists.mpr ⟨message, hp⟩))
    have hstored : (lt.portDataMap.get p).getD .zero = .zero := hinv.stored p hmem
    rw [hp] at hstored
    exact hstored

theorem genuine_started {m : CRadioModule} (h : CRadioModule.started = .ok m) :
    Genuine [] { module := m, sent := [] } :=
  ⟨onPad_started h, traced_started h, fun _ hframe => absurd hframe List.not_mem_nil⟩

/-- **What the radio sends was offered to it**: on the downlink a frame is the datagram that a
module sent, with the port that it was sent to, or a message of the GNSS tenant. -/
theorem flightRadio_genuine {ops : List Op} {h : Downlink} (hrun : flightRadio ops = .ok h) :
    Genuine ops h := by
  obtain ⟨m, hm, hrun⟩ := bind_ok.mp hrun
  exact foldlM_induction (genuine_started hm) (fun _ _ _ _ => genuine_step) hrun

/-! ## On the ground -/

theorem setTxRx_tx (lora : CLora) (isTransmit : Bool) (ret : Int) :
    (lora.setTxRx isTransmit ret).1.tx = isTransmit := by
  unfold CLora.setTxRx
  split
  · rename_i h
    exact h.symm
  · rfl

/-- After `receive` the modem is set to receive, whatever came. -/
theorem receive_tx (t : CLoraReceiveTenant) (env : Answers) :
    (t.receive env).1.loraTransmitTenant.lora.tx = false := by
  have hlora : (t.loraTransmitTenant.lora.receiveSynchronous env).1.tx = false := by
    unfold CLora.receiveSynchronous
    simp only
    split <;> exact setTxRx_tx ..
  unfold CLoraReceiveTenant.receive
  simp only
  split <;> exact hlora

theorem groundRun_tx {t : CLoraReceiveTenant} {env : Answers}
    {r : CLoraReceiveTenant × List Output} (h : t.groundRun env = .ok r) :
    r.1.loraTransmitTenant.lora.tx = false := by
  have htx := receive_tx t env
  unfold CLoraReceiveTenant.groundRun at h
  simp only at h
  split at h
  · cases h
    exact htx
  · split at h
    · cases h
    · cases h
      exact htx

/-- **The ground emits what comes over the link**, frame by frame, and goes on listening. -/
theorem groundRuns_emit {ground : CLoraReceiveTenant} {env : Answers} (h : Listens ground env)
    {frames : List (List UInt8)}
    (hframes : ∀ frame ∈ frames, 1 ≤ frame.length ∧ frame.length ≤ 255) :
    ∃ ground', groundRuns ground env frames =
        .ok (ground', frames.map fun frame => .udpSend (framePort frame).toNat frame) ∧
      Listens ground' env := by
  induction frames using List.reverseRecOn with
  | nil => exact ⟨ground, rfl, h⟩
  | append_singleton frames frame ih =>
    obtain ⟨mid, hmid, hlistens⟩ := ih fun f hf => hframes f (List.mem_append_left _ hf)
    obtain ⟨hpos, hle⟩ := hframes frame (List.mem_append_right _ (List.mem_singleton_self _))
    have hdelivers : Delivers mid { env with recv := ((frame.length : Int), frame) } frame :=
      ⟨hlistens, rfl, hpos, hle⟩
    obtain ⟨last, hlast⟩ := ground_emits hdelivers
    have htx : last.loraTransmitTenant.lora.tx = false :=
      groundRun_tx (t := { mid with machine := (mid.machine.run true {}).2 }) hlast
    refine ⟨last, ?_, ?_⟩
    · unfold groundRuns at hmid ⊢
      refine foldlM_snoc_ok.mpr ⟨_, hmid, ?_⟩
      simp only [hlast, List.map_append, List.map_singleton]
    · unfold Listens CLora.setTxRx
      rw [if_pos htx.symm]

/-! ## On the ground's network -/

/-- The calls that an output stands for, on socket `i`. -/
def socketCalls (i : Nat) (fcntl : Fcntl) : Output → List Net.Op
  | .udpSend dstPort data =>
    [.setDstPort i dstPort, .transmitAsynchronous i data fcntl data.length]
  | _ => []

/-- The program after these outputs. -/
def broadcast (BROADCAST_IP : UInt32) (i : Nat) (fcntl : Fcntl) (p : Program)
    (outputs : List Output) : Program :=
  run (Program.step BROADCAST_IP) p (outputs.flatMap (socketCalls i fcntl))

/-- The port a datagram goes to, and what is in it. -/
def arrival (d : Datagram) : Int × List UInt8 := (d.addr.port, d.data)

/-- Where `TransmitAsynchronous` sends: to the port of the program's first call, which `port` is if
there was none. -/
def asynchronousPort (p : Program) (port : UInt16) : UInt16 :=
  ((p.addr .asynchronous).map fun addr => htons addr.sin_port).getD port

section Broadcast

variable {p : Program} {i : Nat} {fcntl : Fcntl}

theorem ofInt_toNat (port : UInt16) : UInt16.ofInt (port.toNat : Int) = port := by
  have hlt := port.toNat_lt
  unfold UInt16.ofInt
  rw [Int.emod_eq_of_lt (Int.natCast_nonneg _) (by omega), Int.toNat_natCast, UInt16.ofNat_toNat]

/-- **One output**: a datagram to the program's first port. -/
theorem broadcast_one (BROADCAST_IP : UInt32) {s : CUdpSocket} (hs : p.sockets[i]? = some s)
    (hok : fcntl.ok = true) (port : UInt16) (data : List UInt8) :
    let p' := broadcast BROADCAST_IP i fcntl p [.udpSend port.toNat data]
    p'.sockets[i]? = some { s with dstPort := port.toNat } ∧
      (∀ next, asynchronousPort p' next = asynchronousPort p port) ∧
      p'.sent.map arrival =
        p.sent.map arrival ++ [(((asynchronousPort p port).toNat : Int), data)] := by
  intro p'
  have hset : (p.setDstPort i port.toNat).sockets[i]? = some { s with dstPort := port.toNat } := by
    unfold Program.setDstPort
    rw [List.getElem?_modify_eq, hs]
    rfl
  have hp' : p' = (p.setDstPort i port.toNat).sendto BROADCAST_IP .asynchronous
      { s with dstPort := port.toNat } data := by
    show ((p.setDstPort i port.toNat).step BROADCAST_IP
      (.transmitAsynchronous i data fcntl data.length)) = _
    unfold Program.step Program.transmitAsynchronous
    simp only [hset, hok, if_true]
  have hport : htons ((p.setDstPort i port.toNat).staticAddr .asynchronous
      { s with dstPort := port.toNat }).sin_port = asynchronousPort p port := by
    unfold Program.staticAddr Program.setDstPort asynchronousPort
    simp only
    cases p.addr .asynchronous with
    | none =>
      show htons (htons (UInt16.ofInt (port.toNat : Int))) = port
      rw [htons_htons, ofInt_toNat]
    | some addr => rfl
  rw [hp']
  refine ⟨hset, fun next => ?_, ?_⟩
  · rw [← hport]
    unfold Program.sendto asynchronousPort
    simp only [Function.update_self]
    rfl
  · rw [← hport]
    unfold Program.sendto
    simp only [List.map_append, List.map_singleton]
    rfl

/-- **All go to the port of the first.** -/
theorem broadcast_frames (BROADCAST_IP : UInt32) {s : CUdpSocket} (hs : p.sockets[i]? = some s)
    (hok : fcntl.ok = true) (frame : List UInt8) (frames : List (List UInt8)) :
    (broadcast BROADCAST_IP i fcntl p
        ((frame :: frames).map fun f => .udpSend (framePort f).toNat f)).sent.map arrival =
      p.sent.map arrival ++ (frame :: frames).map fun f =>
        (((asynchronousPort p (framePort frame)).toNat : Int), f) := by
  induction frames generalizing p s frame with
  | nil => exact (broadcast_one BROADCAST_IP hs hok (framePort frame) frame).2.2
  | cons next frames ih =>
    obtain ⟨hs', hport, hsent⟩ := broadcast_one BROADCAST_IP hs hok (framePort frame) frame
    have hsplit : broadcast BROADCAST_IP i fcntl p
        ((frame :: next :: frames).map fun f => .udpSend (framePort f).toNat f) =
      broadcast BROADCAST_IP i fcntl
        (broadcast BROADCAST_IP i fcntl p [.udpSend (framePort frame).toNat frame])
        ((next :: frames).map fun f => .udpSend (framePort f).toNat f) := rfl
    rw [hsplit, ih hs' next, hsent, hport, List.append_assoc]
    rfl

end Broadcast

/-- A datagram of the sensor module, and a request for its port. -/
def requested : List Op :=
  [.sensorModuleArrives [1, 2, 3], .sensorModuleListenerRun ⟨0, true, 0⟩,
    .loraReceiveRun (delivering [0xC7, 0x32, 0x33, 0x2C]), .loraTransmitRun (delivering [])]

theorem requested_run : ∃ h, flightRadio requested = .ok h ∧ h.sent = [[0x2C, 0x33, 1, 2, 3]] := by
  have hsent : (flightRadio requested).toOption.map Downlink.sent =
      some [[0x2C, 0x33, 1, 2, 3]] := by decide +kernel
  exact ok_of_shows hsent

/-- A program with this socket that has sent nothing. -/
def freshProgram (udp : CUdpSocket) : Program := { Program.start with sockets := [udp] }

/-- What Zephyr's LoRa driver answers: no positive error codes, and the size of a frame that is
received. -/
structure Answers.Plausible (env : Answers) : Prop where
  configRx : env.configRx ≤ 0
  recv : env.recv.1 ≤ 0 ∨
    ∃ frame : List UInt8, env.recv = ((frame.length : Int), frame) ∧
      1 ≤ frame.length ∧ frame.length ≤ 255

/-- The messages have room in a packet. -/
def Fits (offered : List RadioBroadcastData) : Prop :=
  ∀ message ∈ offered, message.size.toNat ≤ 254

/-- When one port of the loop of `PadRun` is served. -/
theorem serveRequest_isOk {env : Answers} {acc : CLoraTransmitTenant × List Output}
    {entry : UInt16 × Bool} (hsize : (acc.1.stored entry.1).size.toNat ≤ 254)
    (hkey : entry.1 ∈ acc.1.padDataRequestedMap.map.keys) :
    ∃ acc', CLoraTransmitTenant.serveRequest env acc entry = .ok acc' := by
  by_cases hserved : entry.2 = true ∧ entry.1 ≠ 0
  · obtain ⟨sent, hsent⟩ := (transmit_isOk acc.1 env _).mpr hsize
    obtain ⟨lora, hframe⟩ := transmit_frame hsent
    have hkey' : entry.1 ∈ sent.1.padDataRequestedMap.map.keys := by
      rw [hframe]
      exact hkey
    obtain ⟨m, hm⟩ := (assign_isOk sent.1.padDataRequestedMap entry.1 false).mpr hkey'
    exact ⟨_, serveRequest_ok.mpr (Or.inr ⟨hserved, sent, m, hsent, hm, rfl⟩)⟩
  · exact ⟨acc, serveRequest_ok.mpr (Or.inl ⟨hserved, rfl⟩)⟩

/-- **`PadRun` does not oops** on messages that fit. -/
theorem Holds.padRun_isOk {t : CLoraTransmitTenant} (h : Holds offered t) (hfits : Fits offered)
    (env : Answers) : ∃ r, t.padRun env = .ok r := by
  have hsize : ∀ p, (t.padStored.stored p).size.toNat ≤ 254 := by
    intro p
    rcases h.padStored.stored_eq p with hzero | hoffered
    · rw [hzero]
      decide
    · exact hfits _ hoffered
  rw [padRun_eq]
  refine foldlM_isOk_iff_steps.mpr fun pre entry acc hpre hacc => ?_
  have hserved := foldlM_served hacc
  have hkept : Kept t acc.1 :=
    foldlM_preserves (P := fun acc : CLoraTransmitTenant × List Output => Kept t acc.1)
      (fun acc entry acc' h0 hs => serveRequest_kept acc entry acc' h0 hs)
      (⟨rfl, keys_set .., rfl⟩ : Kept t t.padStored) hacc
  have hmem : entry ∈ t.requests :=
    hpre.subset (List.mem_append_right _ (List.mem_singleton_self _))
  refine serveRequest_isOk ?_ ?_
  · unfold CLoraTransmitTenant.stored
    rw [hserved.data]
    exact hsize entry.1
  · rw [hkept.requested]
    exact AList.lookup_isSome.mp
      (Option.isSome_iff_exists.mpr ⟨entry.2, mem_requests.mp hmem⟩)

/-- **A `PadRun` of the receive tenant fails** only on a frame that is delivered. -/
theorem receive_padRun_isOk_iff {t : CLoraReceiveTenant} {env : Answers} (henv : env.Plausible)
    (hkeys : PadKeys t) :
    (∃ r, t.padRun env = .ok r) ↔ ∀ frame, Delivers t env frame → Harmless frame := by
  constructor
  · rintro ⟨r, hr⟩ frame hd
    exact (padRun_safe_iff hd hkeys).mp ⟨r, hr, (receive_padRun_flags hr).keys⟩
  · intro h
    have hnone : (t.receive env).2.size ≤ 0 → ∃ r, t.padRun env = .ok r := by
      intro hsize
      unfold CLoraReceiveTenant.padRun CLoraReceiveTenant.padFrame
      simp only [if_pos hsize]
      exact ⟨_, rfl⟩
    by_cases hconfigured : (t.loraTransmitTenant.lora.setTxRx false env.configRx).2 = 0
    · rcases henv.recv with hle | ⟨frame, hrecv, hpos, hle⟩
      · refine hnone ?_
        unfold CLoraReceiveTenant.receive CLora.receiveSynchronous
        simp only [hconfigured, ne_eq, not_true_eq_false, if_false, if_pos hle]
        exact hle
      · have hd : Delivers t env frame := ⟨hconfigured, hrecv, hpos, hle⟩
        obtain ⟨r, hr, -⟩ := (padRun_safe_iff hd hkeys).mpr (h frame hd)
        exact ⟨r, hr⟩
    · refine hnone ?_
      have hret : (t.loraTransmitTenant.lora.setTxRx false env.configRx).2 ≤ 0 := by
        unfold CLora.setTxRx
        split
        · exact Int.le_refl 0
        · exact henv.configRx
      unfold CLoraReceiveTenant.receive CLora.receiveSynchronous
      simp only [if_pos hconfigured, if_pos hret]
      exact hret

/-- What a run offers fits, where the GNSS tenant keeps to the size of a packet. -/
theorem fits_offers {ops : List Op}
    (hgnss : ∀ message, .gnssSend message ∈ ops → message.size.toNat ≤ 254) :
    Fits (ops.flatMap Op.offers) := by
  intro message hm
  obtain ⟨op, hop, hm⟩ := List.mem_flatMap.mp hm
  cases op with
  | sensorModuleArrives datagram =>
    rw [List.mem_singleton.mp hm, size_messageOf _ (length_taken datagram)]
    exact length_taken datagram
  | powerModuleArrives datagram =>
    rw [List.mem_singleton.mp hm, size_messageOf _ (length_taken datagram)]
    exact length_taken datagram
  | gnssSend sent =>
    rw [List.mem_singleton.mp hm]
    exact hgnss sent hop
  | _ => exact absurd hm List.not_mem_nil

/-- The step fails on a frame only if it is a `Run` of the receive tenant. -/
theorem step_isOk_iff {ops : List Op} {op : Op} {h : Downlink} (hg : Genuine ops h)
    (hfits : Fits (ops.flatMap Op.offers))
    (hmodem : ∀ env, op = .loraReceiveRun env → env.Plausible) :
    (∃ h', h.step op = .ok h') ↔ ∀ env frame, op = .loraReceiveRun env →
      Delivers h.module.loraReceiveTenant env frame → Harmless frame := by
  have hsteps : (∃ h', h.step op = .ok h') ↔ ∃ m, h.module.step op = .ok m := by
    constructor
    · rintro ⟨h', hstep⟩
      obtain ⟨m, hm, -⟩ := step_ok.mp hstep
      exact ⟨m, hm⟩
    · rintro ⟨m, hm⟩
      exact ⟨_, step_ok.mpr ⟨m, hm, rfl⟩⟩
  rw [hsteps]
  cases op with
  | loraTransmitRun env =>
    refine iff_of_true ?_ fun _ _ heq => by cases heq
    obtain ⟨r, hr⟩ := (hg.traced.transmit.withMachine _).padRun_isOk hfits env
    unfold CRadioModule.step
    simp only
    rw [show h.module.loraReceiveTenant.loraTransmitTenant = h.module.loraTransmitTenant from rfl,
      hg.onPad.transmit_run, hr]
    exact ⟨_, rfl⟩
  | loraReceiveRun env =>
    have hkeys : PadKeys { h.module.loraReceiveTenant with
        machine := (h.module.loraReceiveTenant.machine.run false {}).2 } := hg.traced.transmit.keys
    have hiff := receive_padRun_isOk_iff (hmodem env rfl) hkeys
    have hrun : (∃ m, h.module.step (.loraReceiveRun env) = .ok m) ↔
        ∃ r, ({ h.module.loraReceiveTenant with
          machine := (h.module.loraReceiveTenant.machine.run false {}).2 } :
            CLoraReceiveTenant).padRun env = .ok r := by
      rw [← hg.onPad.receive_run]
      unfold CRadioModule.step
      simp only
      cases h.module.loraReceiveTenant.run false h.module.loraReceiveGlobals env with
      | error e => simp
      | ok r => simp
    rw [hrun, hiff]
    constructor
    · rintro hall _ frame heq hd
      cases heq
      exact hall frame (hd.withMachine _)
    · exact fun hall frame hd => hall env frame rfl (hd.withMachine _)
  | _ => exact iff_of_true ⟨_, rfl⟩ fun _ _ heq => by cases heq

/-- **The radio survives a run iff** every frame that the receive tenant is delivered in it is
harmless. Nothing that the listeners and the alert tenant get over the network can halt it. -/
theorem radio_survives_iff {ops : List Op}
    (hgnss : ∀ message, .gnssSend message ∈ ops → message.size.toNat ≤ 254)
    (hmodem : ∀ env, .loraReceiveRun env ∈ ops → env.Plausible) :
    (∃ h, flightRadio ops = .ok h) ↔ ∀ pre env h frame, pre ++ [.loraReceiveRun env] <+: ops →
      flightRadio pre = .ok h → Delivers h.module.loraReceiveTenant env frame →
      Harmless frame := by
  obtain ⟨t, ht, -⟩ := started_padKeys
  obtain ⟨m, hm⟩ : ∃ m, CRadioModule.started = .ok m := ⟨_, bind_ok.mpr ⟨t, ht, rfl⟩⟩
  have hrun : ∀ l, flightRadio l = l.foldlM Downlink.step { module := m, sent := [] } := by
    intro l
    unfold flightRadio
    rw [hm]
    rfl
  have hstep : ∀ pre op h, pre ++ [op] <+: ops → flightRadio pre = .ok h →
      ((∃ h', h.step op = .ok h') ↔ ∀ env frame, op = .loraReceiveRun env →
        Delivers h.module.loraReceiveTenant env frame → Harmless frame) := by
    intro pre op h hpre hh
    have hsub : ∀ {a}, a ∈ pre → a ∈ ops := fun ha => hpre.subset (List.mem_append_left _ ha)
    refine step_isOk_iff (flightRadio_genuine hh)
      (fits_offers fun message hmem => hgnss message (hsub hmem)) ?_
    rintro env rfl
    exact hmodem env (hpre.subset (List.mem_append_right _ (List.mem_singleton_self _)))
  rw [hrun, foldlM_isOk_iff_steps]
  constructor
  · intro h pre env d frame hpre hd
    exact (hstep pre _ d hpre hd).mp (h pre _ d hpre (hrun pre ▸ hd)) env frame rfl
  · intro h pre op d hpre hd
    rw [← hrun] at hd
    refine (hstep pre op d hpre hd).mpr ?_
    rintro env frame rfl
    exact h pre env d frame hpre hd

theorem delivering_plausible {frame : List UInt8} (hpos : 1 ≤ frame.length)
    (hle : frame.length ≤ 255) : (delivering frame).Plausible :=
  ⟨Int.le_refl 0, Or.inr ⟨frame, rfl, hpos, hle⟩⟩

/-- The radio survives the request above, which is harmless. -/
theorem radio_survives_requested : (∃ h, flightRadio requested = .ok h) ∧
    ∀ pre env h frame, pre ++ [.loraReceiveRun env] <+: requested → flightRadio pre = .ok h →
      Delivers h.module.loraReceiveTenant env frame → Harmless frame := by
  obtain ⟨h, hrun, -⟩ := requested_run
  refine ⟨⟨h, hrun⟩, (radio_survives_iff (fun message hm => ?_) (fun env henv => ?_)).mp ⟨h, hrun⟩⟩
  · simp [requested] at hm
  · simp only [requested, List.mem_cons, Op.loraReceiveRun.injEq, reduceCtorEq, List.not_mem_nil,
      false_or, or_false] at henv
    rw [henv]
    exact delivering_plausible (by decide) (by decide)

end Backplane.Radio
