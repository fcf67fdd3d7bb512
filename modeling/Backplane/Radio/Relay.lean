import Backplane.Radio.Receive

/-!
# The telemetry relay

Model of `CUdpListenerTenant` (`app/backplane/radio_module/src/c_udp_listener_tenant.cpp`), and the
way of a datagram through it, the flight radio's `CLoraTransmitTenant`, the LoRa link and the
ground radio's `CLoraReceiveTenant`. The link is a parameter.

Results:
* `listener_queues`, `flight_sends`, `ground_emits`: the three stages.
* `relay_emits`: the ground emits the frame, header included.
* `relay_never_exact`: no payload comes out as it went in.
-/

namespace Backplane.Radio

open Backplane.FoldM
open Backplane.Net
open Backplane.Utils

/-- `CUdpListenerTenant`, with what waits at its socket. -/
structure CUdpListenerTenant where
  udp : Inbox := []
  listenPort : UInt16

/-- `Run`, on the queue it shares with the LoRa tenants. -/
def CUdpListenerTenant.run (t : CUdpListenerTenant) (fcntl : Fcntl)
    (loraTransmitPort : MessagePort) : CUdpListenerTenant × MessagePort :=
  let r := t.udp.receiveAsynchronous fcntl 254
  let t := { t with udp := r.1 }
  if r.2.1 ≤ 0 then (t, loraTransmitPort)
  else
    let radioBroadcastData : RadioBroadcastData :=
      { port := t.listenPort, size := UInt8.ofInt r.2.1, data := zeroed 254 r.2.2 }
    let sent := MessagePort.send loraTransmitPort radioBroadcastData
    -- a full queue is emptied, and the message lost with it
    (t, if sent.2 then sent.1 else [])

/-- The frames of `sent` that come over the link. -/
def heard (link : List UInt8 → Option (List UInt8)) (sent : List Output) : List (List UInt8) :=
  sent.filterMap fun
    | .loraSend frame => link frame
    | _ => none

/-- The ground radio takes the frames, each in a `Run` of its own. -/
def groundRuns (ground : CLoraReceiveTenant) (env : Answers) (frames : List (List UInt8)) :
    Except Halted (CLoraReceiveTenant × List Output) :=
  frames.foldlM (fun acc frame =>
    match acc.1.run true {} { env with recv := ((frame.length : Int), frame) } with
    | .error e => .error { e with outputs := acc.2 ++ e.outputs }
    | .ok r => .ok (r.1, acc.2 ++ r.2)) (ground, [])

/-- A `Run` of the flight radio's transmit tenant, and what the ground radio makes of it. -/
def relay (link : List UInt8 → Option (List UInt8)) (globals : NStateMachineGlobals)
    (flight : CLoraTransmitTenant) (ground : CLoraReceiveTenant) (flightEnv groundEnv : Answers) :
    Except Halted (List Output) := do
  let sent ← flight.run false globals flightEnv
  let emitted ← groundRuns ground groundEnv (heard link sent.2)
  return emitted.2

/-! ## The stages -/

/-- `listener` receives `payload` and queues `message` for it. -/
structure Queues (listener : CUdpListenerTenant) (fcntl : Fcntl) (payload : List UInt8)
    (message : RadioBroadcastData) : Prop where
  waits : listener.udp.head? = some payload
  pos : 1 ≤ payload.length
  le : payload.length ≤ 254
  queued : ∃ queue, (listener.run fcntl queue).2 = queue ++ [message]

/-- `flight` is in `FLIGHT` and has `message` to dequeue, and the modem can be set to send. -/
structure Dequeues (flight : CLoraTransmitTenant) (env : Answers) (message : RadioBroadcastData) :
    Prop where
  state : flight.machine.state = .FLIGHT
  isGroundModule : flight.machine.isGroundModule = false
  head : flight.loraTransmitPort.head? = some message
  configured : (flight.lora.setTxRx true env.configTx).2 = 0

/-- The ground modem can be set to receive. -/
def Listens (ground : CLoraReceiveTenant) (env : Answers) : Prop :=
  (ground.loraTransmitTenant.lora.setTxRx false env.configRx).2 = 0

/-- The message of a payload received on `port`. -/
def messageOf (port : UInt16) (payload : List UInt8) : RadioBroadcastData :=
  { port := port, size := UInt8.ofInt payload.length, data := zeroed 254 payload }

/-- The frame of a message: the port, low byte first, and the payload. -/
def frameOf (port : UInt16) (payload : List UInt8) : List UInt8 := littleEndian port ++ payload

/-- **What the listener queues.** -/
theorem listener_queues {listener : CUdpListenerTenant} {fcntl : Fcntl} {payload : List UInt8}
    {message : RadioBroadcastData} (h : Queues listener fcntl payload message) :
    message = messageOf listener.listenPort payload := by
  obtain ⟨rest, hudp⟩ := List.head?_eq_some_iff.mp h.waits
  obtain ⟨queue, hqueued⟩ := h.queued
  have hpos := h.pos
  have hne : ∀ q : MessagePort, q ≠ q ++ [message] := by
    intro q hq
    have hlen := congrArg List.length hq
    simp at hlen
  unfold CUdpListenerTenant.run at hqueued
  by_cases hok : fcntl.ok = true
  · have hreceive : listener.udp.receiveAsynchronous fcntl 254 =
        (rest, (payload.length : Int), payload) := by
      rw [hudp, receiveAsynchronous_cons _ _ hok, List.take_of_length_le h.le]
    simp only [hreceive] at hqueued
    rw [if_neg (by omega)] at hqueued
    unfold MessagePort.send at hqueued
    by_cases hroom : queue.length < 10
    · simp only [if_pos hroom, if_true] at hqueued
      exact (List.singleton_inj.mp (List.append_cancel_left hqueued)).symm
    · simp only [if_neg hroom] at hqueued
      exact absurd hqueued (by simp)
  · simp only [receiveAsynchronous_error _ hok] at hqueued
    rw [if_pos (by omega)] at hqueued
    exact absurd hqueued (hne queue)

/-- **What the flight radio sends.** -/
theorem flight_sends {flight : CLoraTransmitTenant} {env : Answers} {port : UInt16}
    {payload : List UInt8} (h : Dequeues flight env (messageOf port payload))
    (hpos : 1 ≤ payload.length) (hle : payload.length ≤ 254) (globals : NStateMachineGlobals) :
    ∃ flight', flight.run false globals env =
      .ok (flight', [.loraSend (frameOf port payload)]) := by
  obtain ⟨rest, hqueue⟩ := List.head?_eq_some_iff.mp h.head
  have hphase := (run_flight h.isGroundModule globals).1
  have hsize : (UInt8.ofInt payload.length).toNat = payload.length := by
    rw [toNat_ofInt_size (by omega) (by omega), Int.toNat_natCast]
  have hnonzero : ¬ UInt8.ofInt payload.length = 0 := by
    intro h0
    rw [h0] at hsize
    have hzero : (0 : UInt8).toNat = 0 := rfl
    omega
  unfold CLoraTransmitTenant.run
  simp only [hphase, h.state]
  unfold CLoraTransmitTenant.flightRun CLoraTransmitTenant.readTransmitQueue
  simp only [hqueue, MessagePort.receive]
  unfold CLoraTransmitTenant.transmit messageOf CLora.transmitSynchronous
  simp only [hsize, take_zeroed hle]
  rw [if_neg (by omega), if_neg hnonzero, if_neg (by rw [h.configured]; simp)]
  exact ⟨_, rfl⟩

/-- **What the ground radio emits**: the frame as it is. -/
theorem ground_emits {ground : CLoraReceiveTenant} {env : Answers} {frame : List UInt8}
    (h : Delivers ground env frame) :
    ∃ ground', ground.run true {} env =
      .ok (ground', [.udpSend (framePort frame).toNat frame]) := by
  have hpos := h.pos
  have hle := h.le
  have hground : Delivers { ground with machine := (ground.machine.run true {}).2 } env frame :=
    ⟨h.configured, h.recv, h.pos, h.le⟩
  obtain ⟨lora, hr⟩ := receive_delivers hground
  have hread : readBuffer (zeroed 255 frame) 0 frame.length = .ok frame := by
    unfold readBuffer
    rw [if_pos (by omega), List.drop_zero, take_zeroed hle]
  show ∃ ground', ({ ground with machine := (ground.machine.run true {}).2 } :
    CLoraReceiveTenant).groundRun env = _
  unfold CLoraReceiveTenant.groundRun
  simp only [hr, Int.toNat_natCast, hread]
  rw [if_neg (by omega)]
  exact ⟨_, rfl⟩

theorem framePort_frameOf (port : UInt16) (payload : List UInt8) :
    framePort (frameOf port payload) = port :=
  word_bytes port

theorem length_frameOf (port : UInt16) (payload : List UInt8) :
    (frameOf port payload).length = payload.length + 2 := by
  unfold frameOf
  rw [List.length_append, length_littleEndian, Nat.add_comm]

/-! ## End to end -/

/-- The link carries every frame of at most 255 bytes unchanged. -/
def Carries (link : List UInt8 → Option (List UInt8)) : Prop :=
  ∀ frame : List UInt8, frame.length ≤ 255 → link frame = some frame

/-- Every frame sent is of at most 255 bytes, and the ground emits one datagram, which is
`payload`, to `port`. -/
structure RelaysExactly (link : List UInt8 → Option (List UInt8)) (globals : NStateMachineGlobals)
    (flight : CLoraTransmitTenant) (ground : CLoraReceiveTenant) (flightEnv groundEnv : Answers)
    (port : UInt16) (payload : List UInt8) : Prop where
  frames : ∀ r, flight.run false globals flightEnv = .ok r →
    ∀ frame, .loraSend frame ∈ r.2 → frame.length ≤ 255
  emitted : relay link globals flight ground flightEnv groundEnv =
    .ok [.udpSend port.toNat payload]

section Relay

variable {link : List UInt8 → Option (List UInt8)} {listener : CUdpListenerTenant} {fcntl : Fcntl}
  {flight : CLoraTransmitTenant} {ground : CLoraReceiveTenant} {flightEnv groundEnv : Answers}
  {payload : List UInt8} {message : RadioBroadcastData}

/-- **What comes out** of a payload that fits a frame: the frame, header included. -/
theorem relay_emits (hlink : Carries link) (hq : Queues listener fcntl payload message)
    (hd : Dequeues flight flightEnv message) (hl : Listens ground groundEnv)
    (hfits : payload.length ≤ 253) (globals : NStateMachineGlobals) :
    relay link globals flight ground flightEnv groundEnv =
      .ok [.udpSend listener.listenPort.toNat (frameOf listener.listenPort payload)] := by
  rw [listener_queues hq] at hd
  obtain ⟨flight', hflight⟩ := flight_sends hd hq.pos hq.le globals
  have hlen := length_frameOf listener.listenPort payload
  have hheard : heard link [.loraSend (frameOf listener.listenPort payload)] =
      [frameOf listener.listenPort payload] := by
    simp [heard, hlink _ (show (frameOf listener.listenPort payload).length ≤ 255 by omega)]
  have hdelivers : Delivers ground { groundEnv with
      recv := (((frameOf listener.listenPort payload).length : Int),
        frameOf listener.listenPort payload) } (frameOf listener.listenPort payload) :=
    ⟨hl, rfl, by omega, by omega⟩
  obtain ⟨ground', hground⟩ := ground_emits hdelivers
  rw [framePort_frameOf] at hground
  unfold relay
  rw [hflight]
  show (groundRuns ground groundEnv (heard link _) >>= _) = _
  rw [hheard]
  unfold groundRuns
  rw [List.foldlM_cons, hground]
  rfl

/-- **No payload comes out as it went in.** One of up to 253 bytes comes out with its header, and
one of 254 bytes makes a frame of 256. -/
theorem relay_never_exact (hlink : Carries link) (hq : Queues listener fcntl payload message)
    (hd : Dequeues flight flightEnv message) (hl : Listens ground groundEnv)
    (globals : NStateMachineGlobals) :
    ¬ RelaysExactly link globals flight ground flightEnv groundEnv listener.listenPort payload := by
  intro h
  have hlen := length_frameOf listener.listenPort payload
  by_cases hfits : payload.length ≤ 253
  · have hemitted := h.emitted
    rw [relay_emits hlink hq hd hl hfits globals] at hemitted
    injection hemitted with hemitted
    injection hemitted with hhead _
    injection hhead with _ hdata
    rw [hdata] at hlen
    omega
  · have hd' := hd
    rw [listener_queues hq] at hd'
    obtain ⟨flight', hflight⟩ := flight_sends hd' hq.pos hq.le globals
    have hle := h.frames _ hflight _ (List.mem_singleton_self _)
    have hpos := hq.le
    omega

end Relay

/-! ## A telemetry datagram of three bytes -/

/-- The power module's listener, with a datagram at its socket. -/
def inaListener : CUdpListenerTenant :=
  { udp := [[1, 2, 3]], listenPort := POWER_MODULE_INA_DATA_PORT }

/-- The transmit tenant in flight, with the listener's message. -/
def inaFlight : CLoraTransmitTenant :=
  { CLoraTransmitTenant.new with
    machine := { state := .FLIGHT }
    loraTransmitPort := [messageOf POWER_MODULE_INA_DATA_PORT [1, 2, 3]] }

def groundRadio : CLoraReceiveTenant := .new .new RADIO_BASE_PORT

theorem inaListener_queues : Queues inaListener ⟨0, true, 0⟩ [1, 2, 3]
    (messageOf POWER_MODULE_INA_DATA_PORT [1, 2, 3]) :=
  ⟨rfl, by decide, by decide, [], rfl⟩

theorem inaFlight_dequeues : Dequeues inaFlight (delivering [])
    (messageOf POWER_MODULE_INA_DATA_PORT [1, 2, 3]) :=
  ⟨rfl, rfl, rfl, rfl⟩

theorem groundRadio_listens : Listens groundRadio (delivering []) := rfl

theorem relay_never_exact_ina : ¬ RelaysExactly some {} inaFlight groundRadio (delivering [])
    (delivering []) POWER_MODULE_INA_DATA_PORT [1, 2, 3] :=
  relay_never_exact (fun _ _ => rfl) inaListener_queues inaFlight_dequeues groundRadio_listens {}

/-- **Three bytes in, five bytes out.** -/
theorem relay_fails : ¬ ∀ (link : List UInt8 → Option (List UInt8)) (globals : NStateMachineGlobals)
    (listener : CUdpListenerTenant) (fcntl : Fcntl) (flight : CLoraTransmitTenant)
    (ground : CLoraReceiveTenant) (flightEnv groundEnv : Answers) (payload : List UInt8)
    (message : RadioBroadcastData), Carries link → Queues listener fcntl payload message →
    Dequeues flight flightEnv message → Listens ground groundEnv →
    RelaysExactly link globals flight ground flightEnv groundEnv listener.listenPort payload := by
  intro h
  have hemitted := (h some {} inaListener ⟨0, true, 0⟩ inaFlight groundRadio (delivering [])
    (delivering []) [1, 2, 3] _ (fun _ _ => rfl) inaListener_queues inaFlight_dequeues
    groundRadio_listens).emitted
  rw [relay_emits (fun _ _ => rfl) inaListener_queues inaFlight_dequeues groundRadio_listens
    (by decide)] at hemitted
  injection hemitted with hemitted
  exact absurd hemitted (by decide)

end Backplane.Radio
