import Backplane.Messaging.MessagePort
import Backplane.Radio.Downlink

/-!
# The uplink

Commands for the pins of the flight radio. Model of `CReceiverModule`
(`app/backplane/radio_module/src/c_receiver_module.cpp`), whose tenants share one queue, and of the
ground radio and the flight radio together, in any order of steps. Frames of more than 255 bytes do
not get on the air, and of those that do the link loses any.

Results:
* `shortened_image`: what the queue gives back of a message.
* `ground_step`: what the ground has of a command goes up, or is lost.
* `padFrame_pins`, `padRun_pins`: what a `PadRun` of the flight radio does to the pins, even where
  it halts the radio.
* `followed_step`: one step of the two radios.
* `commands_obeyed`: from the ground's network to the pins.
-/

namespace Backplane.Radio

open Backplane.FoldM
open Backplane.Messaging
open Backplane.Net
open Backplane.Utils

/-! ## The ground radio -/

/-- `CReceiverModule`. The transmit tenant is the one the receive tenant refers to. -/
structure CReceiverModule where
  commandListenerTenant : CUdpListenerTenant
  dataRequestListenerTenant : CUdpListenerTenant
  loraReceiveTenant : CLoraReceiveTenant

/-- As `main` leaves it. -/
def CReceiverModule.started : Except Fault CReceiverModule := do
  let loraReceiveTenant ← CLoraReceiveTenant.started
  return {
    commandListenerTenant := { listenPort := RADIO_MODULE_COMMAND_PORT }
    dataRequestListenerTenant := { listenPort := RADIO_MODULE_DATA_REQUEST_PORT }
    loraReceiveTenant := loraReceiveTenant }

def CReceiverModule.loraTransmitTenant (m : CReceiverModule) : CLoraTransmitTenant :=
  m.loraReceiveTenant.loraTransmitTenant

/-- `loraBroadcastMessagePort`. -/
def CReceiverModule.loraBroadcastMessagePort (m : CReceiverModule) : MessagePort :=
  m.loraTransmitTenant.loraTransmitPort

/-- The transmit tenant replaced. -/
def CReceiverModule.setLoraTransmitTenant (m : CReceiverModule) (t : CLoraTransmitTenant) :
    CReceiverModule :=
  { m with loraReceiveTenant := { m.loraReceiveTenant with loraTransmitTenant := t } }

/-- A message as `broadcastQueue` gives it back: of its 258 bytes the queue has 256, and the last
data byte stays that of the zeroed variable. -/
def shortened (message : RadioBroadcastData) : RadioBroadcastData :=
  { message with data := message.data.set 253 0 }

/-- The queue replaced. -/
def CReceiverModule.setLoraBroadcast (m : CReceiverModule) (queue : MessagePort) :
    CReceiverModule :=
  m.setLoraTransmitTenant { m.loraTransmitTenant with loraTransmitPort := queue.map shortened }

/-- What can happen next on the ground: a datagram arrives, or a tenant runs. -/
inductive GroundOp
  | commandArrives (datagram : List UInt8)
  | commandListenerRun (fcntl : Fcntl)
  | dataRequestArrives (datagram : List UInt8)
  | dataRequestListenerRun (fcntl : Fcntl)
  | loraTransmitRun (env : Answers)
  | loraReceiveRun (env : Answers)

/-- One step, with what leaves the module. -/
def CReceiverModule.step (m : CReceiverModule) :
    GroundOp → Except Fault (CReceiverModule × List Output)
  | .commandArrives datagram =>
    .ok ({ m with commandListenerTenant :=
      { m.commandListenerTenant with udp := m.commandListenerTenant.udp ++ [datagram] } }, [])
  | .commandListenerRun fcntl =>
    let r := m.commandListenerTenant.run fcntl m.loraBroadcastMessagePort
    .ok ({ m with commandListenerTenant := r.1 }.setLoraBroadcast r.2, [])
  | .dataRequestArrives datagram =>
    .ok ({ m with dataRequestListenerTenant :=
      { m.dataRequestListenerTenant with
        udp := m.dataRequestListenerTenant.udp ++ [datagram] } }, [])
  | .dataRequestListenerRun fcntl =>
    let r := m.dataRequestListenerTenant.run fcntl m.loraBroadcastMessagePort
    .ok ({ m with dataRequestListenerTenant := r.1 }.setLoraBroadcast r.2, [])
  | .loraTransmitRun env =>
    match m.loraTransmitTenant.run true {} env with
    | .error e => .error e.fault
    | .ok r => .ok (m.setLoraTransmitTenant r.1, r.2)
  | .loraReceiveRun env =>
    match m.loraReceiveTenant.run true {} env with
    | .error e => .error e.fault
    | .ok r => .ok ({ m with loraReceiveTenant := r.1 }, r.2)

/-! ## Ground and flight -/

/-- The pins among the outputs. -/
def pinsSet (outputs : List Output) : List (Nat × Bool) :=
  outputs.filterMap fun
    | .setPin i value => some (i, value)
    | _ => none

/-- What a step of the flight radio sets its pins to. -/
def CRadioModule.driven (m : CRadioModule) : Op → List (Nat × Bool)
  | .loraReceiveRun env =>
    pinsSet (putOut (m.loraReceiveTenant.run false m.loraReceiveGlobals env))
  | .shutoffTimerExpires => pinsSet m.loraReceiveTenant.shutoffTimerExpires.2
  | _ => []

/-- The two radios, the frames of the ground that are on the air, and what the pins of the flight
radio were set to. -/
structure Uplink where
  ground : CReceiverModule
  flight : CRadioModule
  air : List (List UInt8)
  driven : List (Nat × Bool)

/-- What can happen next: a step of one of them, or the next frame is lost or heard. -/
inductive UplinkOp
  | ground (op : GroundOp)
  | flight (op : Op)
  | frameLost
  | hears (env : Answers)

/-- The same step, in which no frame is heard. -/
def Op.unheard : Op → Op
  | .loraReceiveRun env => .loraReceiveRun { env with recv := (min env.recv.1 0, []) }
  | op => op

/-- A step of the flight radio. -/
def Uplink.flies (u : Uplink) (op : Op) : Except Fault Uplink :=
  match u.flight.step op with
  | .error e => .error e
  | .ok m => .ok { u with flight := m, driven := u.driven ++ u.flight.driven op }

/-- The frames that get on the air. -/
def aired (outputs : List Output) : List (List UInt8) :=
  (heard some outputs).filter fun frame => frame.length ≤ 255

/-- One step. -/
def Uplink.step (u : Uplink) : UplinkOp → Except Fault Uplink
  | .ground op =>
    match u.ground.step op with
    | .error e => .error e
    | .ok r => .ok { u with ground := r.1, air := u.air ++ aired r.2 }
  | .flight op => u.flies op.unheard
  | .frameLost => .ok { u with air := u.air.tail }
  | .hears env =>
    match u.air with
    | [] => .ok u
    | frame :: rest =>
      { u with air := rest }.flies
        (.loraReceiveRun { env with recv := ((frame.length : Int), frame) })

/-- A run from `Startup` on. -/
def uplinkRun (ops : List UplinkOp) : Except Fault Uplink := do
  let ground ← CReceiverModule.started
  let flight ← CRadioModule.started
  ops.foldlM Uplink.step { ground := ground, flight := flight, air := [], driven := [] }

/-! ## The queue -/

/-- Where the port and the size stand. -/
theorem image_header (d d' : RadioBroadcastData) (padding padding' : UInt8)
    (hport : d.port = d'.port) (hsize : d.size = d'.size) {k : Nat} (hk : k < 3)
    (hbound : k < sizeofRadioBroadcastData) : (image d padding)[k] = (image d' padding')[k] := by
  obtain ⟨port, size, data⟩ := d
  obtain ⟨port', size', data'⟩ := d'
  cases hport
  cases hsize
  match k with
  | 0 => rfl
  | 1 => rfl
  | 2 => rfl

/-- Where the padding stands. -/
theorem image_padding (d : RadioBroadcastData) (padding : UInt8)
    (hbound : 257 < sizeofRadioBroadcastData) : (image d padding)[257] = padding := by
  have hlen : (littleEndian d.port ++ [d.size] ++ d.data.toList).length = 257 := by simp
  have hget : (littleEndian d.port ++ [d.size] ++ d.data.toList ++ [padding])[257]? =
      some padding := hlen ▸ List.getElem?_concat_length
  have himage : (image d padding)[257]? = some padding := by
    rw [← hget, ← Vector.getElem?_toList]
    rfl
  rw [Vector.getElem?_eq_getElem hbound] at himage
  exact Option.some.inj himage

/-- **What the queue makes of a message.** -/
theorem shortened_image (message : RadioBroadcastData) (padding : UInt8) (beyond : Nat → UInt8) :
    image (shortened message) 0 =
      copyOut (copyIn 256 (image message padding) beyond) (image .zero 0) := by
  apply Vector.ext
  intro k hk
  rcases Nat.lt_or_ge k 256 with hlt | hge
  · have hcopy : (copyOut (copyIn 256 (image message padding) beyond) (image .zero 0))[k] =
        (image message padding)[k] := by
      simp [copyOut, copyIn, hlt]
    rw [hcopy]
    rcases Nat.lt_or_ge k 3 with hheader | hdata
    · exact image_header (shortened message) message 0 padding rfl rfl hheader hk
    · obtain ⟨j, rfl⟩ := Nat.exists_eq_add_of_le hdata
      have hj : j < 254 := by omega
      rw [image_data _ _ hj, image_data _ _ hj]
      exact Vector.getElem_set_ne (by decide) _ (by omega)
  · rw [copyOut_behind _ _ hk hge]
    rcases Nat.eq_or_lt_of_le hge with rfl | hlast
    · rw [image_data _ _ (Nat.lt_succ_self 253), image_data _ _ (Nat.lt_succ_self 253)]
      simp [shortened, RadioBroadcastData.zero, zeroed]
    · have hk' : k = 257 := by
        have hsize : sizeofRadioBroadcastData = 258 := rfl
        omega
      subst hk'
      rw [image_padding, image_padding]

/-! ## Commands on the ground -/

/-- The command in a message: the first byte of its data. -/
def RadioBroadcastData.command (message : RadioBroadcastData) : Option UInt8 :=
  if message.port = RADIO_MODULE_COMMAND_PORT then some (message.data.get 0) else none

/-- The command in a frame. -/
def frameCommand (frame : List UInt8) : Option UInt8 :=
  if framePort frame = RADIO_MODULE_COMMAND_PORT then frame[2]? else none

/-- The pins of a command, a bit each. -/
def commandPins (command : UInt8) : List (Nat × Bool) :=
  (List.range 4).map fun i => (i, (command >>> UInt8.ofNat i) &&& 1 == 1)

/-- The command that arrives on the ground in a step. -/
def GroundOp.command : GroundOp → Option UInt8
  | .commandArrives datagram => datagram.head?
  | _ => none

/-- The commands that the ground has not sent yet. -/
def CReceiverModule.pending (m : CReceiverModule) : List UInt8 :=
  m.loraBroadcastMessagePort.filterMap RadioBroadcastData.command ++
    m.commandListenerTenant.udp.filterMap List.head?

theorem command_shortened (message : RadioBroadcastData) :
    (shortened message).command = message.command := by
  have hfirst : (shortened message).data.get 0 = message.data.get 0 :=
    Vector.getElem_set_ne (by decide) _ (by decide)
  unfold RadioBroadcastData.command
  rw [hfirst]
  rfl

theorem filterMap_shortened (queue : MessagePort) :
    (queue.map shortened).filterMap RadioBroadcastData.command =
      queue.filterMap RadioBroadcastData.command := by
  rw [List.filterMap_map]
  exact List.filterMap_congr fun message _ => command_shortened message

theorem command_messageOf {datagram : List UInt8} (h : datagram ≠ []) :
    (messageOf RADIO_MODULE_COMMAND_PORT (taken datagram)).command = datagram.head? := by
  cases datagram with
  | nil => exact absurd rfl h
  | cons first rest =>
    unfold RadioBroadcastData.command messageOf
    rw [if_pos rfl, zeroed_get]
    rfl

/-- **A `Run` of the command listener** queues the command that it takes, or loses some. -/
theorem commandListener_pending {listener : CUdpListenerTenant}
    (hport : listener.listenPort = RADIO_MODULE_COMMAND_PORT) (fcntl : Fcntl)
    (queue : MessagePort) :
    (((listener.run fcntl queue).2.map shortened).filterMap RadioBroadcastData.command ++
        (listener.run fcntl queue).1.udp.filterMap List.head?).Sublist
      (queue.filterMap RadioBroadcastData.command ++ listener.udp.filterMap List.head?) := by
  rw [filterMap_shortened]
  rcases listener_cases listener fcntl queue with hsame | ⟨datagram, rest, hudp, hrun⟩
  · rw [hsame]
  · rw [hudp]
    rcases hrun with ⟨hempty, hrun⟩ | ⟨hne, hrun⟩ | hrun
    · rw [hrun, hempty]
      exact List.Sublist.refl _
    · rw [hrun, hport, List.filterMap_append]
      simp only [List.filterMap_cons, command_messageOf hne, List.filterMap_nil]
      cases datagram with
      | nil => exact absurd rfl hne
      | cons first tail =>
        simp only [List.head?_cons, List.append_assoc, List.singleton_append]
        exact List.Sublist.refl _
    · rw [hrun]
      refine (List.Sublist.trans ?_ (List.sublist_append_right _ _))
      exact ((List.sublist_cons_self datagram rest).filterMap List.head?)

/-- One of another listener queues no command. -/
theorem otherListener_pending {listener : CUdpListenerTenant}
    (hport : listener.listenPort ≠ RADIO_MODULE_COMMAND_PORT) (fcntl : Fcntl)
    (queue : MessagePort) :
    (((listener.run fcntl queue).2.map shortened).filterMap RadioBroadcastData.command).Sublist
      (queue.filterMap RadioBroadcastData.command) := by
  rw [filterMap_shortened]
  rcases listener_cases listener fcntl queue with hsame | ⟨datagram, rest, hudp, hrun⟩
  · rw [hsame]
  · rcases hrun with ⟨-, hrun⟩ | ⟨-, hrun⟩ | hrun
    · rw [hrun]
    · have hnone : (messageOf listener.listenPort (taken datagram)).command = none := if_neg hport
      rw [hrun, List.filterMap_append]
      simp only [List.filterMap_cons, hnone, List.filterMap_nil, List.append_nil]
      exact List.Sublist.refl _
    · rw [hrun]
      exact List.nil_sublist _

theorem filterMap_cons_toList {α β : Type} (f : α → Option β) (a : α) (l : List α) :
    (a :: l).filterMap f = (f a).toList ++ l.filterMap f := by
  rw [List.filterMap_eq_flatMap_toList, List.filterMap_eq_flatMap_toList, List.flatMap_cons]

theorem filterMap_snoc_toList {α β : Type} (f : α → Option β) (l : List α) (a : α) :
    (l ++ [a]).filterMap f = l.filterMap f ++ (f a).toList := by
  rw [List.filterMap_append, filterMap_cons_toList, List.filterMap_nil, List.append_nil]

/-- The frame of a message has its command. -/
theorem frameCommand_loraFrame {message : RadioBroadcastData} (h : message.size ≠ 0) :
    frameCommand (loraFrame message) = message.command := by
  have hport : framePort (loraFrame message) = message.port := framePort_frameOf _ _
  have hsize : message.size.toNat ≠ 0 := fun h0 => h (UInt8.toNat_inj.mp h0)
  have hfirst : (message.data.toList.take message.size.toNat)[0]? = some (message.data.get 0) := by
    rw [List.getElem?_take_of_lt (Nat.pos_of_ne_zero hsize), Vector.getElem?_toList]
    exact Vector.getElem?_eq_getElem (by decide)
  unfold frameCommand RadioBroadcastData.command
  rw [hport]
  split
  · exact hfirst
  · rfl

/-- **`transmit`** sends the command of its message, or loses it. -/
theorem transmit_command {t : CLoraTransmitTenant} {env : Answers} {message : RadioBroadcastData}
    {r : CLoraTransmitTenant × List Output} (h : t.transmit env message = .ok r) :
    ((aired r.2).filterMap frameCommand).Sublist message.command.toList := by
  unfold CLoraTransmitTenant.transmit at h
  split at h
  · cases h
  split at h
  · cases h
    exact List.nil_sublist _
  · rename_i hsize
    cases h
    unfold CLora.transmitSynchronous
    simp only
    split
    · exact List.nil_sublist _
    · show ((([loraFrame message].filter fun frame => frame.length ≤ 255)).filterMap
        frameCommand).Sublist _
      refine (List.filter_sublist.filterMap frameCommand).trans ?_
      rw [filterMap_cons_toList, frameCommand_loraFrame hsize, List.filterMap_nil, List.append_nil]

/-- **A `GroundRun` of the transmit tenant** sends the command that it takes from the queue, or
loses it. -/
theorem groundRun_sends {t : CLoraTransmitTenant} {env : Answers}
    {r : CLoraTransmitTenant × List Output} (h : t.groundRun env = .ok r) :
    ((aired r.2).filterMap frameCommand ++
        r.1.loraTransmitPort.filterMap RadioBroadcastData.command).Sublist
      (t.loraTransmitPort.filterMap RadioBroadcastData.command) := by
  unfold CLoraTransmitTenant.groundRun CLoraTransmitTenant.readTransmitQueue at h
  cases hqueue : t.loraTransmitPort with
  | nil =>
    rw [hqueue] at h
    cases h
    exact List.Sublist.refl _
  | cons message rest =>
    rw [hqueue] at h
    change CLoraTransmitTenant.transmit { t with loraTransmitPort := rest } env message = .ok r at h
    obtain ⟨lora, hframe⟩ := transmit_frame h
    rw [hframe, filterMap_cons_toList]
    exact (transmit_command h).append_right _

/-- The listeners are on the ports of the build. -/
structure CReceiverModule.OnPorts (m : CReceiverModule) : Prop where
  command : m.commandListenerTenant.listenPort = RADIO_MODULE_COMMAND_PORT
  dataRequest : m.dataRequestListenerTenant.listenPort = RADIO_MODULE_DATA_REQUEST_PORT

theorem listener_port (listener : CUdpListenerTenant) (fcntl : Fcntl) (queue : MessagePort) :
    (listener.run fcntl queue).1.listenPort = listener.listenPort := by
  rcases listener_cases listener fcntl queue with hsame | ⟨_, _, -, hrun⟩
  · rw [hsame]
  · rcases hrun with ⟨-, hrun⟩ | ⟨-, hrun⟩ | hrun
    · rw [hrun]
    · rw [hrun]
    · rw [hrun]

/-- A `Run` of the receive tenant on the ground leaves the queue alone, and nothing of it gets on
the air. -/
theorem groundReceive_queue {t : CLoraReceiveTenant} {env : Answers}
    {r : CLoraReceiveTenant × List Output} (h : t.run true {} env = .ok r) :
    r.1.loraTransmitTenant.loraTransmitPort = t.loraTransmitTenant.loraTransmitPort ∧
      aired r.2 = [] := by
  change ({ t with machine := (t.machine.run true {}).2 } : CLoraReceiveTenant).groundRun env =
    .ok r at h
  have hqueue := receive_queue { t with machine := (t.machine.run true {}).2 } env
  unfold CLoraReceiveTenant.groundRun at h
  simp only at h
  split at h
  · cases h
    exact ⟨hqueue, rfl⟩
  · split at h
    · cases h
    · cases h
      exact ⟨hqueue, rfl⟩

/-- **One step of the ground**: what it has of a command goes up in order, or is lost. -/
theorem ground_step {m : CReceiverModule} {op : GroundOp} {r : CReceiverModule × List Output}
    (hports : m.OnPorts) (h : m.step op = .ok r) :
    r.1.OnPorts ∧ ((aired r.2).filterMap frameCommand ++ r.1.pending).Sublist
      (m.pending ++ op.command.toList) := by
  cases op with
  | commandArrives datagram =>
    cases h
    refine ⟨⟨hports.command, hports.dataRequest⟩, ?_⟩
    show (m.loraBroadcastMessagePort.filterMap RadioBroadcastData.command ++
      (m.commandListenerTenant.udp ++ [datagram]).filterMap List.head?).Sublist _
    rw [List.filterMap_append, ← List.append_assoc]
    refine List.Sublist.append_left ?_ _
    cases datagram <;> exact List.Sublist.refl _
  | commandListenerRun fcntl =>
    cases h
    refine ⟨⟨(listener_port ..).trans hports.command, hports.dataRequest⟩, ?_⟩
    refine List.Sublist.trans ?_ (List.sublist_append_left _ _)
    exact commandListener_pending hports.command fcntl m.loraBroadcastMessagePort
  | dataRequestArrives datagram =>
    cases h
    exact ⟨⟨hports.command, hports.dataRequest⟩, List.sublist_append_left _ _⟩
  | dataRequestListenerRun fcntl =>
    cases h
    refine ⟨⟨hports.command, (listener_port ..).trans hports.dataRequest⟩, ?_⟩
    have hne : m.dataRequestListenerTenant.listenPort ≠ RADIO_MODULE_COMMAND_PORT := by
      rw [hports.dataRequest]
      decide
    refine List.Sublist.trans ?_ (List.sublist_append_left _ _)
    exact (otherListener_pending hne fcntl m.loraBroadcastMessagePort).append_right _
  | loraTransmitRun env =>
    unfold CReceiverModule.step at h
    simp only at h
    split at h
    · cases h
    · rename_i sent hsent
      cases h
      refine ⟨⟨hports.command, hports.dataRequest⟩, ?_⟩
      refine List.Sublist.trans ?_ (List.sublist_append_left _ _)
      change ({ m.loraTransmitTenant with
        machine := (m.loraTransmitTenant.machine.run true {}).2 } :
        CLoraTransmitTenant).groundRun env = .ok sent at hsent
      show ((aired sent.2).filterMap frameCommand ++
        (sent.1.loraTransmitPort.filterMap RadioBroadcastData.command ++ _)).Sublist _
      rw [← List.append_assoc]
      exact (groundRun_sends hsent).append_right _
  | loraReceiveRun env =>
    unfold CReceiverModule.step at h
    simp only at h
    split at h
    · cases h
    · rename_i received hreceived
      cases h
      obtain ⟨hqueue, hair⟩ := groundReceive_queue hreceived
      refine ⟨⟨hports.command, hports.dataRequest⟩, ?_⟩
      refine List.Sublist.trans ?_ (List.sublist_append_left _ _)
      rw [hair]
      show (received.1.loraTransmitTenant.loraTransmitPort.filterMap RadioBroadcastData.command ++
        _).Sublist _
      rw [hqueue]
      exact List.Sublist.refl _

/-! ## The pins -/

theorem transmit_pins (t : CLoraTransmitTenant) (env : Answers) (message : RadioBroadcastData) :
    pinsSet (putOut (t.transmit env message)) = [] := by
  unfold CLoraTransmitTenant.transmit
  split
  · rfl
  split
  · rfl
  · unfold CLora.transmitSynchronous
    simp only
    split
    · rfl
    · rfl

/-- The pins of a command are set as it says, before the status is sent. -/
theorem pinsSet_command (command : UInt8) (sent : List Output) (h : pinsSet sent = []) :
    pinsSet ((List.range 4).map (fun i =>
      Output.setPin i ((command >>> UInt8.ofNat i) &&& 1 == 1)) ++ sent) = commandPins command := by
  have hsent : pinsSet ((List.range 4).map (fun i =>
      Output.setPin i ((command >>> UInt8.ofNat i) &&& 1 == 1))) = commandPins command := rfl
  unfold pinsSet at h hsent ⊢
  rw [List.filterMap_append, hsent, h, List.append_nil]

/-- **What `PadRun` does to the pins.** Only a command of at least a byte sets them, before the
status is sent. -/
theorem padFrame_pins (t : CLoraReceiveTenant) (env : Answers) (rx : Received) :
    pinsSet (putOut (t.padFrame env rx)) =
      if 2 < rx.size ∧ rx.port = RADIO_MODULE_COMMAND_PORT.toNat then
        commandPins (rx.buffer.get 2) else [] := by
  unfold CLoraReceiveTenant.padFrame
  split
  · rename_i hsize
    exact (if_neg fun hc => absurd hc.1 (by omega)).symm
  split
  · rename_i hsize
    split
    · rename_i hport
      have hsent := transmit_pins t.loraTransmitTenant env
        { port := RADIO_MODULE_COMMAND_RESPONSE_PORT, size := UInt8.ofInt rx.size,
          data := zeroed 254 [pinByte env] }
      rw [if_pos ⟨hsize, hport⟩]
      simp only
      -- the pins are set, whatever becomes of the status
      split
      · rename_i e he
        rw [he] at hsent
        exact pinsSet_command _ _ hsent
      · rename_i lt sent he
        rw [he] at hsent
        exact pinsSet_command _ _ hsent
    · rename_i hport
      have hnone : ¬ (2 < rx.size ∧ rx.port = RADIO_MODULE_COMMAND_PORT.toNat) :=
        fun hc => hport hc.2
      rw [if_neg hnone]
      split
      · split <;> rfl
      · split <;> rfl
  · rename_i hsize
    exact (if_neg fun hc => hsize hc.1).symm

theorem padFrame_timer {t : CLoraReceiveTenant} {env : Answers} {rx : Received}
    {r : CLoraReceiveTenant × List Output} (h : t.padFrame env rx = .ok r) :
    r.1.shutoffTimerRunning = t.shutoffTimerRunning := by
  unfold CLoraReceiveTenant.padFrame at h
  split at h
  · cases h
    rfl
  split at h
  · split at h
    · simp only at h
      split at h
      · cases h
      · cases h
        rfl
    split at h
    · split at h
      · cases h
      · cases h
        rfl
    · split at h
      · cases h
      · cases h
        rfl
  · cases h
    rfl

theorem receive_timer (t : CLoraReceiveTenant) (env : Answers) :
    (t.receive env).1.shutoffTimerRunning = t.shutoffTimerRunning := by
  unfold CLoraReceiveTenant.receive
  simp only
  split
  · rfl
  · rfl

/-- Without a byte received there is no port. -/
theorem receive_silent {t : CLoraReceiveTenant} {env : Answers}
    (h : (t.loraTransmitTenant.lora.receiveSynchronous env).2.2 = []) :
    (t.receive env).2.port = 0 := by
  unfold CLoraReceiveTenant.receive
  simp only [h, zeroed_get]
  split
  · rfl
  · rfl

theorem padRun_silent {t : CLoraReceiveTenant} {env : Answers}
    (hbytes : (t.loraTransmitTenant.lora.receiveSynchronous env).2.2 = []) :
    pinsSet (putOut (t.padRun env)) = [] := by
  have hport : ¬ (0 : Int) = RADIO_MODULE_COMMAND_PORT.toNat := by decide
  unfold CLoraReceiveTenant.padRun
  rw [padFrame_pins, receive_silent hbytes, if_neg fun hc => hport hc.2]

/-- **A `PadRun` that a frame is delivered to** obeys the command in it, though it may halt the
radio. -/
theorem padRun_obeys {t : CLoraReceiveTenant} {env : Answers} {frame : List UInt8}
    (hd : Delivers t env frame) :
    pinsSet (putOut (t.padRun env)) = (frameCommand frame).toList.flatMap commandPins := by
  obtain ⟨lora, hreceive⟩ := receive_delivers hd
  unfold CLoraReceiveTenant.padRun
  rw [padFrame_pins, hreceive]
  unfold frameCommand
  by_cases hport : framePort frame = RADIO_MODULE_COMMAND_PORT
  · rw [if_pos hport]
    by_cases hlong : 2 < frame.length
    · have hfirst : frame[2]? = some (frame.getD 2 0) := getElem?_eq_some_getD hlong
      rw [if_pos ⟨Int.ofNat_lt.mpr hlong, congrArg _ (congrArg _ hport)⟩, zeroed_get, hfirst]
      exact (List.append_nil _).symm
    · rw [if_neg fun hc => hlong (Int.ofNat_lt.mp hc.1),
        List.getElem?_eq_none (Nat.le_of_not_lt hlong)]
      rfl
  · rw [if_neg hport, if_neg fun hc => hport (UInt16.toNat_inj.mp (Int.natCast_inj.mp hc.2))]
    rfl

/-- **A `PadRun` that hears a frame** obeys the command in it, or misses it. -/
theorem padRun_pins {t : CLoraReceiveTenant} {env : Answers} {frame : List UInt8}
    (hrecv : env.recv = ((frame.length : Int), frame)) (hle : frame.length ≤ 255) :
    ∃ obeyed : List UInt8, obeyed.Sublist (frameCommand frame).toList ∧
      pinsSet (putOut (t.padRun env)) = obeyed.flatMap commandPins := by
  by_cases hheard : (t.loraTransmitTenant.lora.setTxRx false env.configRx).2 = 0 ∧
      1 ≤ frame.length
  · exact ⟨_, List.Sublist.refl _, padRun_obeys ⟨hheard.1, hrecv, hheard.2, hle⟩⟩
  · refine ⟨[], List.nil_sublist _, padRun_silent ?_⟩
    unfold CLora.receiveSynchronous
    simp only
    split
    · rfl
    · rename_i hconfigured
      have hempty : ¬ 1 ≤ frame.length := fun hpos => hheard ⟨not_not.mp hconfigured, hpos⟩
      have hnil : frame = [] := List.length_eq_zero_iff.mp (by omega)
      rw [hrecv, hnil]

/-! ## The flight radio -/

theorem padRun_timer {t : CLoraReceiveTenant} {env : Answers}
    {r : CLoraReceiveTenant × List Output} (h : t.padRun env = .ok r) :
    r.1.shutoffTimerRunning = t.shutoffTimerRunning :=
  (padFrame_timer h).trans (receive_timer t env)

/-- The shutoff timer is started after the landing only. -/
theorem step_timer {m m' : CRadioModule} {op : Op} (hpad : OnPad m) (h : m.step op = .ok m') :
    m'.loraReceiveTenant.shutoffTimerRunning = m.loraReceiveTenant.shutoffTimerRunning := by
  cases op with
  | alertArrives | sensorModuleArrives | sensorModuleListenerRun | powerModuleArrives
  | powerModuleListenerRun | gnssSend =>
    cases h
    rfl
  | alertRun fcntl =>
    cases h
    obtain ⟨globals, hnotify⟩ := notify_frame (m.alertTenant.run fcntl).2
      { m with alertTenant := (m.alertTenant.run fcntl).1 }
    rw [hnotify]
  | loraTransmitRun env =>
    obtain ⟨r, -, rfl⟩ := transmitRun_ok h
    rfl
  | loraReceiveRun env =>
    obtain ⟨r, hr, rfl⟩ := receiveRun_ok h
    rw [hpad.receive_run] at hr
    exact padRun_timer (t := { m.loraReceiveTenant with
      machine := (m.loraReceiveTenant.machine.run false {}).2 }) hr
  | shutoffTimerExpires =>
    cases h
    unfold CLoraReceiveTenant.shutoffTimerExpires
    split
    · rfl
    · rfl

/-- **A step that hears a frame** obeys the command in it, or misses it. -/
theorem driven_hears {m : CRadioModule} (hpad : OnPad m) (env : Answers) {frame : List UInt8}
    (hle : frame.length ≤ 255) : ∃ obeyed : List UInt8,
      obeyed.Sublist (frameCommand frame).toList ∧
      m.driven (.loraReceiveRun { env with recv := ((frame.length : Int), frame) }) =
        obeyed.flatMap commandPins := by
  unfold CRadioModule.driven
  simp only
  rw [hpad.receive_run]
  exact padRun_pins rfl hle

/-- **Any other step** leaves the pins alone, with the shutoff timer not running. -/
theorem driven_unheard {m : CRadioModule} (hpad : OnPad m)
    (htimer : m.loraReceiveTenant.shutoffTimerRunning = false) (op : Op) :
    m.driven op.unheard = [] := by
  cases op with
  | alertArrives | alertRun | sensorModuleArrives | sensorModuleListenerRun | powerModuleArrives
  | powerModuleListenerRun | gnssSend | loraTransmitRun => rfl
  | loraReceiveRun env =>
    unfold Op.unheard CRadioModule.driven
    simp only
    rw [hpad.receive_run]
    refine padRun_silent ?_
    unfold CLora.receiveSynchronous
    simp only
    split
    · rfl
    · rfl
  | shutoffTimerExpires =>
    unfold Op.unheard CRadioModule.driven CLoraReceiveTenant.shutoffTimerExpires
    simp only [htimer]
    rfl

/-! ## From the ground to the pins -/

/-- The command that arrives on the ground in a step. -/
def UplinkOp.command : UplinkOp → Option UInt8
  | .ground op => op.command
  | _ => none

/-- The commands that have not come through yet. -/
def Uplink.pending (u : Uplink) : List UInt8 := u.air.filterMap frameCommand ++ u.ground.pending

/-- The flight radio is on the pad with its timer not running. Before what has not come through yet
there were the commands that the pins were set by. -/
structure Followed (arrived : List UInt8) (u : Uplink) : Prop where
  ports : u.ground.OnPorts
  onPad : OnPad u.flight
  timer : u.flight.loraReceiveTenant.shutoffTimerRunning = false
  air : ∀ frame ∈ u.air, frame.length ≤ 255
  driven : ∃ obeyed : List UInt8, u.driven = obeyed.flatMap commandPins ∧
    (obeyed ++ u.pending).Sublist arrived

/-- A step of the flight radio, of which the pins show `obeyed`. -/
theorem Followed.flies {arrived obeyed : List UInt8} {u u' : Uplink} {op : Op}
    {air : List (List UInt8)} (hu : Followed arrived u) (hair : ∀ frame ∈ air, frame ∈ u.air)
    (hdriven : u.flight.driven op = obeyed.flatMap commandPins)
    (hobeyed : (obeyed ++ air.filterMap frameCommand).Sublist (u.air.filterMap frameCommand))
    (h : { u with air := air }.flies op = .ok u') : Followed arrived u' := by
  unfold Uplink.flies at h
  simp only at h
  split at h
  · cases h
  · rename_i m hm
    cases h
    obtain ⟨before, hbefore, hsublist⟩ := hu.driven
    refine ⟨hu.ports, step_onPad hu.onPad hm, (step_timer hu.onPad hm).trans hu.timer,
      fun frame hframe => hu.air frame (hair frame hframe), before ++ obeyed, ?_, ?_⟩
    · rw [List.flatMap_append, ← hbefore, ← hdriven]
    · refine List.Sublist.trans ?_ hsublist
      unfold Uplink.pending
      simp only
      rw [List.append_assoc, ← List.append_assoc obeyed]
      exact (hobeyed.append_right _).append_left _

theorem append_noCommand (arrived : List UInt8) {op : UplinkOp} (h : op.command = none) :
    arrived ++ op.command.toList = arrived := by
  rw [h]
  exact List.append_nil arrived

/-- **One step of the uplink.** -/
theorem followed_step {arrived : List UInt8} {u u' : Uplink} {op : UplinkOp}
    (hu : Followed arrived u) (h : u.step op = .ok u') :
    Followed (arrived ++ op.command.toList) u' := by
  cases op with
  | ground op =>
    unfold Uplink.step at h
    simp only at h
    split at h
    · cases h
    · rename_i r hr
      cases h
      obtain ⟨hports, hsends⟩ := ground_step hu.ports hr
      obtain ⟨obeyed, hdriven, hsublist⟩ := hu.driven
      refine ⟨hports, hu.onPad, hu.timer, fun frame hframe => ?_, obeyed, hdriven, ?_⟩
      · rcases List.mem_append.mp hframe with hold | hnew
        · exact hu.air frame hold
        · exact of_decide_eq_true (List.mem_filter.mp hnew).2
      · refine List.Sublist.trans ?_ (hsublist.append_right _)
        unfold Uplink.pending
        simp only [List.filterMap_append, List.append_assoc]
        exact (hsends.append_left _).append_left _
  | flight op =>
    rw [append_noCommand arrived rfl]
    have hnone : u.flight.driven op.unheard = ([] : List UInt8).flatMap commandPins :=
      driven_unheard hu.onPad hu.timer op
    exact hu.flies (fun _ hframe => hframe) hnone (List.Sublist.refl _) h
  | frameLost =>
    rw [append_noCommand arrived rfl]
    cases h
    obtain ⟨obeyed, hdriven, hsublist⟩ := hu.driven
    refine ⟨hu.ports, hu.onPad, hu.timer,
      fun frame hframe => hu.air frame (List.mem_of_mem_tail hframe), obeyed, hdriven, ?_⟩
    refine List.Sublist.trans (List.Sublist.append_left ?_ _) hsublist
    exact ((List.tail_sublist u.air).filterMap frameCommand).append_right _
  | hears env =>
    rw [append_noCommand arrived rfl]
    unfold Uplink.step at h
    simp only at h
    split at h
    · cases h
      exact hu
    · rename_i frame rest hair
      have hle : frame.length ≤ 255 := hu.air frame (hair ▸ List.mem_cons_self)
      obtain ⟨obeyed, hobeyed, hdriven⟩ := driven_hears hu.onPad env hle
      refine hu.flies (fun f hf => hair ▸ List.mem_cons_of_mem frame hf) hdriven ?_ h
      rw [hair, filterMap_cons_toList]
      exact hobeyed.append_right _

/-- **After `Startup`** nothing has arrived. -/
theorem followed_started {ground : CReceiverModule} {flight : CRadioModule}
    (hground : CReceiverModule.started = .ok ground) (hflight : CRadioModule.started = .ok flight) :
    Followed [] { ground := ground, flight := flight, air := [], driven := [] } := by
  have hpad := onPad_started hflight
  unfold CReceiverModule.started at hground
  obtain ⟨t, ht, hground⟩ := bind_ok.mp hground
  cases hground
  unfold CRadioModule.started at hflight
  obtain ⟨t', ht', hflight⟩ := bind_ok.mp hflight
  cases hflight
  have hqueue : t.loraTransmitTenant.loraTransmitPort = [] := by
    unfold CLoraReceiveTenant.started at ht
    obtain ⟨lt, hstart, ht⟩ := bind_ok.mp ht
    cases ht
    exact startup_queue hstart
  have htimer : t'.shutoffTimerRunning = false := by
    unfold CLoraReceiveTenant.started at ht'
    obtain ⟨lt, -, ht'⟩ := bind_ok.mp ht'
    cases ht'
    rfl
  refine ⟨⟨rfl, rfl⟩, hpad, htimer, fun _ hframe => absurd hframe List.not_mem_nil, [], rfl, ?_⟩
  show (t.loraTransmitTenant.loraTransmitPort.filterMap RadioBroadcastData.command ++ []).Sublist []
  rw [hqueue]
  exact List.Sublist.refl _

theorem uplinkRun_followed {ops : List UplinkOp} {u : Uplink} (h : uplinkRun ops = .ok u) :
    Followed (ops.filterMap UplinkOp.command) u := by
  unfold uplinkRun at h
  obtain ⟨ground, hground, h⟩ := bind_ok.mp h
  obtain ⟨flight, hflight, h⟩ := bind_ok.mp h
  refine foldlM_induction
    (motive := fun done u => Followed (done.filterMap UplinkOp.command) u)
    (followed_started hground hflight) (fun done op c c' hc hstep => ?_) h
  rw [filterMap_snoc_toList]
  exact followed_step hc hstep

/-- **From the ground's network to the pins.** What the pins of the flight radio are set to is what
commands say that arrived on the ground, in the order of their arrival and none of them twice. -/
theorem commands_obeyed {ops : List UplinkOp} {u : Uplink} (h : uplinkRun ops = .ok u) :
    ∃ obeyed : List UInt8, obeyed.Sublist (ops.filterMap UplinkOp.command) ∧
      u.driven = obeyed.flatMap commandPins := by
  obtain ⟨obeyed, hdriven, hsublist⟩ := (uplinkRun_followed h).driven
  exact ⟨obeyed, (List.sublist_append_left _ _).trans hsublist, hdriven⟩

/-- A command for the first and the third pin, all the way. -/
def oneCommand : List UplinkOp :=
  [.ground (.commandArrives [5]), .ground (.commandListenerRun ⟨0, true, 0⟩),
    .ground (.loraTransmitRun (delivering [])), .hears (delivering [])]

theorem oneCommand_run : ∃ u, uplinkRun oneCommand = .ok u ∧
    u.driven = [(0, true), (1, false), (2, true), (3, false)] := by
  have hdriven : (uplinkRun oneCommand).toOption.map Uplink.driven =
      some [(0, true), (1, false), (2, true), (3, false)] := by decide +kernel
  exact ok_of_shows hdriven

theorem commands_obeyed_oneCommand : ∃ obeyed : List UInt8,
    obeyed.Sublist (oneCommand.filterMap UplinkOp.command) ∧
      [(0, true), (1, false), (2, true), (3, false)] = obeyed.flatMap commandPins := by
  obtain ⟨u, hrun, hdriven⟩ := oneCommand_run
  rw [← hdriven]
  exact commands_obeyed hrun

end Backplane.Radio
