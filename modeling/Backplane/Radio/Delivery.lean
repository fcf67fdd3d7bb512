import Backplane.Radio.Uplink

/-!
# What becomes of one command

From any state in which nothing is on its way up, a command datagram takes four steps to the pins of
the flight radio: it arrives, the listener takes it, the ground radio sends it and the flight radio
hears it. At a payload of 253 bytes the flight radio sets its pins and halts, because the status
that is sent back has the size of the frame, and a longer one does not get on the air.

What the flight radio sends back for the ground station to verify a command is two bytes longer than
the command.

Results:
* `ground_delivers`: what the ground makes of a command datagram.
* `driven_command`, `padRun_command_isOk`: the flight radio obeys every command that it hears, and
  survives those in frames of at most 254 bytes.
* `command_delivered_iff`: the commands that set the pins are those of at most 253 bytes.
* `padRun_answers`: the status that is sent back.
* `command_verified_iff`: the commands that can be verified are those of at most 251 bytes, where
  the ground radio has relayed nothing to another port.
-/

namespace Backplane.Radio

open Backplane.FoldM
open Backplane.Net
open Backplane.Utils

/-- Nothing is on its way up. -/
structure Uplink.Idle (u : Uplink) : Prop where
  datagrams : u.ground.commandListenerTenant.udp = []
  queue : u.ground.loraBroadcastMessagePort = []
  air : u.air = []

/-- A command datagram arrives on the ground, is taken and is sent. -/
def sendCommand (datagram : List UInt8) (fcntl : Fcntl) (sending : Answers) : List UplinkOp :=
  [.ground (.commandArrives datagram), .ground (.commandListenerRun fcntl),
    .ground (.loraTransmitRun sending)]

/-- What a step sets the pins to, whether the flight radio halts in it or not. -/
def Uplink.drives (u : Uplink) : UplinkOp → List (Nat × Bool)
  | .flight op => u.flight.driven op.unheard
  | .hears env =>
    match u.air with
    | [] => []
    | frame :: _ =>
      u.flight.driven (.loraReceiveRun { env with recv := ((frame.length : Int), frame) })
  | _ => []

theorem step_drives {u u' : Uplink} {op : UplinkOp} (h : u.step op = .ok u') :
    u'.driven = u.driven ++ u.drives op := by
  have hflies : ∀ {v : Uplink} {op : Op}, v.flies op = .ok u' →
      u'.driven = v.driven ++ v.flight.driven op := by
    intro v op hv
    unfold Uplink.flies at hv
    split at hv
    · cases hv
    · cases hv
      rfl
  cases op with
  | ground op =>
    unfold Uplink.step at h
    simp only at h
    split at h
    · cases h
    · cases h
      exact (List.append_nil _).symm
  | flight op => exact hflies h
  | frameLost =>
    cases h
    exact (List.append_nil _).symm
  | hears env =>
    cases hair : u.air with
    | nil =>
      simp only [Uplink.step, hair] at h
      cases h
      simp only [Uplink.drives, hair, List.append_nil]
    | cons frame rest =>
      simp only [Uplink.step, hair] at h
      simp only [Uplink.drives, hair]
      exact hflies (v := { u with air := rest }) h

/-! ## The frame of a command -/

/-- The message of a command datagram, as the transmit tenant gets it. -/
def commandMessage (datagram : List UInt8) : RadioBroadcastData :=
  shortened (messageOf RADIO_MODULE_COMMAND_PORT (taken datagram))

theorem size_commandMessage (datagram : List UInt8) :
    (commandMessage datagram).size.toNat = min 254 datagram.length := by
  have hsize : (commandMessage datagram).size =
      (messageOf RADIO_MODULE_COMMAND_PORT (taken datagram)).size := rfl
  rw [hsize, size_messageOf _ (length_taken datagram), taken, List.length_take]

theorem size_commandMessage_ne {datagram : List UInt8} (h : datagram ≠ []) :
    (commandMessage datagram).size ≠ 0 := by
  intro hzero
  have hsize := size_commandMessage datagram
  rw [hzero] at hsize
  have hpos := List.length_pos_of_ne_nil h
  change 0 = min 254 datagram.length at hsize
  omega

theorem length_loraFrame (message : RadioBroadcastData) :
    (loraFrame message).length = 2 + min message.size.toNat 254 := by
  unfold loraFrame
  rw [List.length_append, length_littleEndian, List.length_take, Vector.length_toList]

theorem length_commandFrame (datagram : List UInt8) :
    (loraFrame (commandMessage datagram)).length = 2 + min 254 datagram.length := by
  rw [length_loraFrame, size_commandMessage]
  omega

theorem command_commandMessage {datagram : List UInt8} (h : datagram ≠ []) :
    (commandMessage datagram).command = some (datagram.head h) :=
  (command_shortened _).trans ((command_messageOf h).trans (List.head?_eq_some_head h))

theorem frameCommand_commandFrame {datagram : List UInt8} (h : datagram ≠ []) :
    frameCommand (loraFrame (commandMessage datagram)) = some (datagram.head h) :=
  (frameCommand_loraFrame (size_commandMessage_ne h)).trans (command_commandMessage h)

/-! ## On the ground -/

/-- Where `lora_config` answers with 0, so does `setTxRx`. -/
theorem setTxRx_zero (lora : CLora) (isTransmit : Bool) : (lora.setTxRx isTransmit 0).2 = 0 := by
  unfold CLora.setTxRx
  split
  · rfl
  · rfl

/-- `transmit` of a message that fits, where the modem can be set to transmit. -/
theorem transmit_delivers (t : CLoraTransmitTenant) {env : Answers} (message : RadioBroadcastData)
    (hsize : message.size ≠ 0) (hle : message.size.toNat ≤ 254) (htx : env.configTx = 0) :
    ∃ t', t.transmit env message = .ok (t', [.loraSend (loraFrame message)]) := by
  unfold CLoraTransmitTenant.transmit CLora.transmitSynchronous
  simp only
  rw [if_neg (by omega), if_neg hsize, htx, if_neg (by rw [setTxRx_zero]; simp)]
  exact ⟨_, rfl⟩

/-- A `GroundRun` of the transmit tenant that sends. -/
theorem groundRun_delivers {t : CLoraTransmitTenant} {env : Answers}
    {message : RadioBroadcastData} {rest : MessagePort}
    (hqueue : t.loraTransmitPort = message :: rest) (hsize : message.size ≠ 0)
    (hle : message.size.toNat ≤ 254) (htx : env.configTx = 0) :
    ∃ t', t.groundRun env = .ok (t', [.loraSend (loraFrame message)]) := by
  unfold CLoraTransmitTenant.groundRun CLoraTransmitTenant.readTransmitQueue
  simp only [hqueue, MessagePort.receive]
  exact transmit_delivers _ message hsize hle htx

/-- The listener takes the datagram. -/
theorem listenerRun_delivers {m : CReceiverModule} (hports : m.OnPorts) {datagram : List UInt8}
    (hudp : m.commandListenerTenant.udp = [datagram]) (hqueue : m.loraBroadcastMessagePort = [])
    (hne : datagram ≠ []) {fcntl : Fcntl} (hfcntl : fcntl.ok = true) :
    ∃ m', m.step (.commandListenerRun fcntl) = .ok (m', []) ∧
      m'.loraBroadcastMessagePort = [commandMessage datagram] := by
  refine ⟨_, rfl, ?_⟩
  show (m.commandListenerTenant.run fcntl m.loraBroadcastMessagePort).2.map shortened = _
  rw [hqueue, listener_takes hudp hfcntl hne (by decide), hports.command]
  rfl

/-- The transmit tenant sends it. -/
theorem transmitRun_delivers {m : CReceiverModule} {datagram : List UInt8}
    (hqueue : m.loraBroadcastMessagePort = [commandMessage datagram]) (hne : datagram ≠ [])
    {env : Answers} (htx : env.configTx = 0) :
    ∃ m', m.step (.loraTransmitRun env) =
      .ok (m', [.loraSend (loraFrame (commandMessage datagram))]) := by
  have hle : (commandMessage datagram).size.toNat ≤ 254 := by
    rw [size_commandMessage]
    exact Nat.min_le_left ..
  obtain ⟨t', ht'⟩ := groundRun_delivers
    (t := { m.loraTransmitTenant with machine := (m.loraTransmitTenant.machine.run true {}).2 })
    hqueue (size_commandMessage_ne hne) hle htx
  have hrun : m.loraTransmitTenant.run true {} env =
    .ok (t', [.loraSend (loraFrame (commandMessage datagram))]) := ht'
  unfold CReceiverModule.step
  simp only [hrun]
  exact ⟨_, rfl⟩

theorem ground_ok {u : Uplink} {op : GroundOp} {r : CReceiverModule × List Output}
    (h : u.ground.step op = .ok r) :
    u.step (.ground op) = .ok { u with ground := r.1, air := u.air ++ aired r.2 } := by
  unfold Uplink.step
  simp only [h]

/-- **On the ground** a command datagram becomes a frame, which gets on the air if it is not too
long. -/
theorem ground_delivers {u : Uplink} (hports : u.ground.OnPorts) (hidle : u.Idle)
    {datagram : List UInt8} (hne : datagram ≠ []) {fcntl : Fcntl} (hfcntl : fcntl.ok = true)
    {env : Answers} (htx : env.configTx = 0) :
    ∃ ground, (sendCommand datagram fcntl env).foldlM Uplink.step u =
      .ok { u with
        ground := ground
        air := [loraFrame (commandMessage datagram)].filter fun frame => frame.length ≤ 255 } := by
  obtain ⟨m', hlistener, hqueue⟩ := listenerRun_delivers
    (m := { u.ground with commandListenerTenant :=
      { u.ground.commandListenerTenant with
        udp := u.ground.commandListenerTenant.udp ++ [datagram] } })
    ⟨hports.command, hports.dataRequest⟩ (congrArg (· ++ [datagram]) hidle.datagrams) hidle.queue
    hne hfcntl
  obtain ⟨m'', htransmit⟩ := transmitRun_delivers hqueue hne htx
  have hair : u.air ++ [] ++ [] ++ aired [.loraSend (loraFrame (commandMessage datagram))] =
      [loraFrame (commandMessage datagram)].filter fun frame => frame.length ≤ 255 := by
    rw [hidle.air]
    rfl
  refine ⟨m'', foldlM_cons_ok.mpr ⟨_, ground_ok rfl, foldlM_cons_ok.mpr ⟨_, ground_ok hlistener,
    foldlM_cons_ok.mpr ⟨_, ground_ok htransmit, ?_⟩⟩⟩⟩
  rw [← hair]
  rfl

/-! ## In flight -/

/-- **The flight radio goes on** where its `PadRun` does. -/
theorem flies_isOk_iff {u : Uplink} (hpad : OnPad u.flight) {env : Answers} :
    (∃ u', u.flies (.loraReceiveRun env) = .ok u') ↔
      ∃ r, ({ u.flight.loraReceiveTenant with
        machine := (u.flight.loraReceiveTenant.machine.run false {}).2 } :
          CLoraReceiveTenant).padRun env = .ok r := by
  rw [← hpad.receive_run]
  unfold Uplink.flies CRadioModule.step
  simp only
  cases u.flight.loraReceiveTenant.run false u.flight.loraReceiveGlobals env with
  | error e => simp
  | ok r => simp

/-- A command is survived if the frame has at most 254 bytes. -/
theorem padRun_command_isOk {t : CLoraReceiveTenant} {env : Answers} {frame : List UInt8}
    (hd : Delivers t env frame) (hlong : 2 < frame.length)
    (hport : framePort frame = RADIO_MODULE_COMMAND_PORT) :
    (∃ r, t.padRun env = .ok r) ↔ frame.length ≤ 254 := by
  obtain ⟨lora, hsafe⟩ := safePadRun_iff hd
  rw [safe_command_iff (Int.ofNat_lt.mpr hlong) (Int.ofNat_le.mpr hd.le)
    (congrArg (fun p : UInt16 => (p.toNat : Int)) hport)] at hsafe
  constructor
  · rintro ⟨r, hr⟩
    exact Int.ofNat_le.mp (hsafe.mp ⟨r, hr, (receive_padRun_flags hr).keys⟩)
  · intro hle
    obtain ⟨r, hr, -⟩ := hsafe.mpr (Int.ofNat_le.mpr hle)
    exact ⟨r, hr⟩

/-- **A command that is heard** sets the pins, though the flight radio may halt then. -/
theorem driven_command {m : CRadioModule} (hpad : OnPad m) {env : Answers} {frame : List UInt8}
    (hd : Delivers m.loraReceiveTenant env frame) {command : UInt8}
    (hcommand : frameCommand frame = some command) :
    m.driven (.loraReceiveRun env) = commandPins command := by
  unfold CRadioModule.driven
  simp only
  rw [hpad.receive_run, padRun_obeys (hd.withMachine _), hcommand]
  exact List.append_nil _

/-! ## All the way -/

theorem uplinkRun_append {ops : List UplinkOp} {u : Uplink} (h : uplinkRun ops = .ok u)
    (more : List UplinkOp) : uplinkRun (ops ++ more) = more.foldlM Uplink.step u := by
  unfold uplinkRun at h ⊢
  obtain ⟨ground, hground, h⟩ := bind_ok.mp h
  obtain ⟨flight, hflight, h⟩ := bind_ok.mp h
  rw [hground, hflight]
  show (ops ++ more).foldlM Uplink.step _ = _
  rw [List.foldlM_append, h]
  rfl

/-- **What is on the air** once a command has been sent. -/
theorem sendCommand_ok {ops : List UplinkOp} {u : Uplink} (h : uplinkRun ops = .ok u)
    (hidle : u.Idle) {datagram : List UInt8} (hne : datagram ≠ []) {fcntl : Fcntl}
    (hfcntl : fcntl.ok = true) {sending : Answers} (htx : sending.configTx = 0) : ∃ ground,
      uplinkRun (ops ++ sendCommand datagram fcntl sending) = .ok { u with
        ground := ground
        air := [loraFrame (commandMessage datagram)].filter fun frame => frame.length ≤ 255 } := by
  obtain ⟨ground, hground⟩ := ground_delivers (uplinkRun_followed h).ports hidle hne hfcntl htx
  exact ⟨ground, (uplinkRun_append h _).trans hground⟩

/-- **Which commands come through.** From any state in which nothing is on its way up, and where
nothing fails or is lost, a command datagram sets the pins if and only if it has at most 253 bytes,
and at 253 the flight radio does not survive it. -/
theorem command_delivered_iff {ops : List UplinkOp} {u : Uplink} (h : uplinkRun ops = .ok u)
    (hidle : u.Idle) {datagram : List UInt8} (hne : datagram ≠ []) {fcntl : Fcntl}
    (hfcntl : fcntl.ok = true) {sending hearing : Answers} (htx : sending.configTx = 0)
    (hrx : hearing.configRx = 0) :
    ((∃ u', uplinkRun (ops ++ sendCommand datagram fcntl sending) = .ok u' ∧
      u'.drives (.hears hearing) = commandPins (datagram.head hne)) ↔ datagram.length ≤ 253) ∧
    ((∃ u', uplinkRun (ops ++ sendCommand datagram fcntl sending ++ [.hears hearing]) = .ok u' ∧
      u'.driven = u.driven ++ commandPins (datagram.head hne)) ↔ datagram.length ≤ 252) := by
  obtain ⟨ground, hsent⟩ := sendCommand_ok h hidle hne hfcntl htx
  have hpad := (uplinkRun_followed h).onPad
  have hlength := length_commandFrame datagram
  have hpos := List.length_pos_of_ne_nil hne
  have hlast : ∀ u', uplinkRun (ops ++ sendCommand datagram fcntl sending ++ [.hears hearing]) =
      .ok u' ↔ { u with
        ground := ground
        air := [loraFrame (commandMessage datagram)].filter fun frame => frame.length ≤ 255 }.step
          (.hears hearing) = .ok u' := by
    intro u'
    rw [uplinkRun_append hsent, List.foldlM_cons, bind_ok]
    exact ⟨fun ⟨_, hv, hu'⟩ => hv.trans hu', fun hu' => ⟨u', hu', rfl⟩⟩
  by_cases hair : datagram.length ≤ 253
  · have hle : (loraFrame (commandMessage datagram)).length ≤ 255 := by omega
    simp only [List.filter_singleton, hle, decide_true, cond_true] at hsent hlast
    -- the only frame on the air is the one that is heard
    have hd : Delivers u.flight.loraReceiveTenant { hearing with
        recv := (((loraFrame (commandMessage datagram)).length : Int),
          loraFrame (commandMessage datagram)) } (loraFrame (commandMessage datagram)) :=
      ⟨by rw [hrx]; exact setTxRx_zero .., rfl, by omega, hle⟩
    have hdriven := driven_command hpad hd (frameCommand_commandFrame hne)
    refine ⟨iff_of_true ⟨_, hsent, hdriven⟩ hair, ?_⟩
    have hok := (flies_isOk_iff (u := { u with ground := ground, air := [] }) hpad).trans
      (padRun_command_isOk (hd.withMachine _) (by omega) (framePort_frameOf ..))
    have hshort : datagram.length ≤ 252 ↔ (loraFrame (commandMessage datagram)).length ≤ 254 := by
      omega
    rw [hshort, ← hok]
    constructor
    · rintro ⟨u', hu', -⟩
      exact ⟨u', (hlast u').mp hu'⟩
    · rintro ⟨u', hu'⟩
      exact ⟨u', (hlast u').mpr hu', (step_drives ((hlast u').mp ((hlast u').mpr hu'))).trans
        (congrArg (u.driven ++ ·) hdriven)⟩
  · have hlong : ¬ (loraFrame (commandMessage datagram)).length ≤ 255 := by omega
    simp only [List.filter_singleton, hlong, decide_false, cond_false] at hsent hlast
    -- nothing is heard
    have hnone : ∀ command, ([] : List (Nat × Bool)) ≠ commandPins command := by
      intro command heq
      exact absurd (congrArg List.length heq) (by simp [commandPins])
    refine ⟨iff_of_false ?_ hair, iff_of_false ?_ (by omega)⟩
    · rintro ⟨u', hu', hdrives⟩
      cases hsent.symm.trans hu'
      exact hnone _ hdrives
    · rintro ⟨u', hu', hdriven⟩
      have hstep := (step_drives ((hlast u').mp hu')).symm.trans hdriven
      exact hnone _ (List.append_cancel_left hstep)

theorem started_idle : ∃ u, uplinkRun [] = .ok u ∧ u.Idle := by
  have hwaits : (uplinkRun []).toOption.map (fun u =>
      (u.ground.commandListenerTenant.udp, u.ground.loraBroadcastMessagePort, u.air)) =
      some ([], [], []) := by decide +kernel
  obtain ⟨u, hrun, hshown⟩ := ok_of_shows hwaits
  obtain ⟨hdatagrams, hrest⟩ := Prod.mk.inj hshown
  obtain ⟨hqueue, hair⟩ := Prod.mk.inj hrest
  exact ⟨u, hrun, hdatagrams, hqueue, hair⟩

theorem command_delivered_started : ∃ u, uplinkRun [] = .ok u ∧
    ((∃ u', uplinkRun ([] ++ sendCommand [5] ⟨0, true, 0⟩ (delivering [])) = .ok u' ∧
      u'.drives (.hears (delivering [])) = commandPins 5) ↔ [(5 : UInt8)].length ≤ 253) ∧
    ((∃ u', uplinkRun ([] ++ sendCommand [5] ⟨0, true, 0⟩ (delivering []) ++
        [.hears (delivering [])]) = .ok u' ∧
      u'.driven = u.driven ++ commandPins 5) ↔ [(5 : UInt8)].length ≤ 252) := by
  obtain ⟨u, hrun, hidle⟩ := started_idle
  exact ⟨u, hrun, command_delivered_iff hrun hidle (List.cons_ne_nil 5 []) rfl rfl rfl⟩

/-! ## The status -/

/-- The pins read back what a command has set them to. -/
def ReadsBack (command : UInt8) (env : Answers) : Prop :=
  ∀ i < 4, env.getPin i = if (command >>> UInt8.ofNat i) &&& 1 == 1 then 1 else 0

/-- The frames of the status that a `Run` of the receive tenant sends back. -/
def CRadioModule.answers (m : CRadioModule) (env : Answers) : List (List UInt8) :=
  aired (putOut (m.loraReceiveTenant.run false m.loraReceiveGlobals env))

/-- The frame of a status of `size` bytes. -/
def statusFrame (size : Nat) (pins : UInt8) : List UInt8 :=
  frameOf RADIO_MODULE_COMMAND_RESPONSE_PORT ((zeroed 254 [pins]).toList.take size)

/-- A byte of four pins. -/
def packed (command : UInt8) : UInt8 :=
  let pin := fun i : Nat => UInt8.ofInt (if (command >>> UInt8.ofNat i) &&& 1 == 1 then 1 else 0)
  pin 0 ||| pin 1 <<< 1 ||| pin 2 <<< 2 ||| pin 3 <<< 3

theorem packed_eq (command : UInt8) : packed command = command &&& 15 := by
  have hall : ∀ n : Fin 256, packed (UInt8.ofNat n) = UInt8.ofNat n &&& 15 := by decide +kernel
  have hcommand := hall ⟨command.toNat, command.toNat_lt⟩
  rw [UInt8.ofNat_toNat] at hcommand
  exact hcommand

/-- The status has the pins of the command. -/
theorem pinByte_readsBack {command : UInt8} {env : Answers} (h : ReadsBack command env) :
    pinByte env = command &&& 15 := by
  rw [← packed_eq]
  unfold pinByte packed
  rw [h 0 (by decide), h 1 (by decide), h 2 (by decide), h 3 (by decide)]

theorem length_statusFrame {size : Nat} (h : size ≤ 254) (pins : UInt8) :
    (statusFrame size pins).length = size + 2 := by
  unfold statusFrame
  rw [length_frameOf, List.length_take, Vector.length_toList, Nat.min_eq_left h]

/-- `transmit` of a status. -/
theorem transmit_status {t : CLoraTransmitTenant} {env : Answers} {size : Int} (hpos : 0 < size)
    (hle : size ≤ 254) (htx : env.configTx = 0) (pins : UInt8) :
    ∃ t', t.transmit env
      { port := RADIO_MODULE_COMMAND_RESPONSE_PORT, size := UInt8.ofInt size,
        data := zeroed 254 [pins] } = .ok (t', [.loraSend (statusFrame size.toNat pins)]) := by
  have hsize : (UInt8.ofInt size).toNat = size.toNat := toNat_ofInt_size (by omega) (by omega)
  have hnonzero : UInt8.ofInt size ≠ 0 := by
    intro h0
    rw [h0] at hsize
    have hzero : (0 : UInt8).toNat = 0 := rfl
    omega
  have hframe : loraFrame
      { port := RADIO_MODULE_COMMAND_RESPONSE_PORT
        size := UInt8.ofInt size
        data := zeroed 254 [pins] } = statusFrame size.toNat pins := by
    unfold loraFrame
    rw [hsize]
    rfl
  rw [← hframe]
  exact transmit_delivers t _ hnonzero (show (UInt8.ofInt size).toNat ≤ 254 by omega) htx

/-- `transmit` of a status that is too long halts the radio. -/
theorem transmit_status_error {t : CLoraTransmitTenant} {env : Answers} {size : Int}
    (hlong : 254 < size) (hle : size ≤ 255) (pins : UInt8) :
    t.transmit env
      { port := RADIO_MODULE_COMMAND_RESPONSE_PORT, size := UInt8.ofInt size,
        data := zeroed 254 [pins] } = .error { fault := .kOops, outputs := [] } := by
  have hsize : (UInt8.ofInt size).toNat = size.toNat := toNat_ofInt_size (by omega) hle
  unfold CLoraTransmitTenant.transmit
  rw [if_pos (show (UInt8.ofInt size).toNat > 256 - 2 by omega)]

/-- **The answer to a command** has the size of the command. -/
theorem padRun_answers {t : CLoraReceiveTenant} {env : Answers} {frame : List UInt8}
    (hd : Delivers t env frame) (hlong : 2 < frame.length)
    (hport : framePort frame = RADIO_MODULE_COMMAND_PORT) (htx : env.configTx = 0) :
    heard some (putOut (t.padRun env)) =
      if frame.length ≤ 254 then [statusFrame frame.length (pinByte env)] else [] := by
  have hle := hd.le
  obtain ⟨lora, hreceive⟩ := receive_delivers hd
  have hcommand : ((framePort frame).toNat : Int) = RADIO_MODULE_COMMAND_PORT.toNat :=
    congrArg (fun p : UInt16 => (p.toNat : Int)) hport
  unfold CLoraReceiveTenant.padRun CLoraReceiveTenant.padFrame
  rw [hreceive]
  simp only
  rw [if_neg (by omega), if_pos (by omega), if_pos hcommand]
  by_cases hfits : frame.length ≤ 254
  · obtain ⟨t', ht'⟩ := transmit_status (t := { t.loraTransmitTenant with lora := lora })
      (Int.natCast_pos.mpr (by omega : 0 < frame.length)) (Int.ofNat_le.mpr hfits) htx
      (pinByte env)
    rw [if_pos hfits, ht']
    rfl
  · rw [if_neg hfits, transmit_status_error (by omega) (by omega)]
    rfl

/-- It gets on the air if the command has at most 253 bytes. -/
theorem answers_eq {m : CRadioModule} (hpad : OnPad m) {env : Answers} {frame : List UInt8}
    (hd : Delivers m.loraReceiveTenant env frame) (hlong : 2 < frame.length)
    (hport : framePort frame = RADIO_MODULE_COMMAND_PORT) (htx : env.configTx = 0) :
    m.answers env =
      if frame.length ≤ 253 then [statusFrame frame.length (pinByte env)] else [] := by
  unfold CRadioModule.answers aired
  rw [hpad.receive_run, padRun_answers (hd.withMachine _) hlong hport htx]
  by_cases hfits : frame.length ≤ 254
  · have hlength := length_statusFrame hfits (pinByte env)
    rw [if_pos hfits, List.filter_singleton]
    by_cases hshort : frame.length ≤ 253
    · rw [if_pos hshort, decide_eq_true (by omega), cond_true]
    · rw [if_neg hshort, decide_eq_false (by omega), cond_false]
  · rw [if_neg hfits, if_neg (by omega)]
    rfl

theorem frameCommand_some {frame : List UInt8} {command : UInt8}
    (h : frameCommand frame = some command) :
    framePort frame = RADIO_MODULE_COMMAND_PORT ∧ 2 < frame.length := by
  unfold frameCommand at h
  split at h
  · rename_i hport
    exact ⟨hport, (List.getElem?_eq_some_iff.mp h).1⟩
  · cases h

theorem getElem?_statusFrame {size : Nat} (h : 0 < size) (pins : UInt8) :
    (statusFrame size pins)[2]? = some pins := by
  have hfirst : (zeroed 254 [pins]).toList[0]? = some pins := by
    rw [Vector.getElem?_toList, zeroed_getElem?, if_pos (by decide)]
    rfl
  unfold statusFrame frameOf
  rw [List.getElem?_append_right (Nat.le_of_eq (length_littleEndian _)), length_littleEndian,
    List.getElem?_take_of_lt h]
  exact hfirst

/-- **Which commands can be verified.** In whatever state the two radios are, and if the pins read
back what they were set to, the ground station gets the status of the next command on the air, on
the port for it, if and only if the command's frame has at most 253 bytes, two of which are its
port, and the ground radio has relayed nothing to another port before. -/
theorem command_verified_iff {ops : List UplinkOp} {u : Uplink} (h : uplinkRun ops = .ok u)
    {frame : List UInt8} {rest : List (List UInt8)} (hair : u.air = frame :: rest)
    {command : UInt8} (hcommand : frameCommand frame = some command) {hearing : Answers}
    (hrx : hearing.configRx = 0) (htx : hearing.configTx = 0) (hback : ReadsBack command hearing)
    {relaying : Answers} (hlistens : Listens u.ground.loraReceiveTenant relaying)
    {p : Program} {i : Nat} (hudp : p.sockets[i]? = some u.ground.loraReceiveTenant.udp)
    {fcntl : Fcntl} (hfcntl : fcntl.ok = true) (BROADCAST_IP : UInt32) :
    (∃ r status, groundRuns u.ground.loraReceiveTenant relaying
        (u.flight.answers { hearing with recv := ((frame.length : Int), frame) }) = .ok r ∧
        (broadcast BROADCAST_IP i fcntl p r.2).sent.map arrival = p.sent.map arrival ++
          [((RADIO_MODULE_COMMAND_RESPONSE_PORT.toNat : Int), status)] ∧
        status[2]? = some (command &&& 15)) ↔
      frame.length ≤ 253 ∧
        asynchronousPort p RADIO_MODULE_COMMAND_RESPONSE_PORT =
          RADIO_MODULE_COMMAND_RESPONSE_PORT := by
  obtain ⟨hport, hlong⟩ := frameCommand_some hcommand
  have hfollowed := uplinkRun_followed h
  have hle : frame.length ≤ 255 := hfollowed.air frame (hair ▸ List.mem_cons_self)
  have hd : Delivers u.flight.loraReceiveTenant
      { hearing with recv := ((frame.length : Int), frame) } frame :=
    ⟨by rw [hrx]; exact setTxRx_zero .., rfl, by omega, hle⟩
  have hpins : pinByte { hearing with recv := ((frame.length : Int), frame) } = command &&& 15 :=
    pinByte_readsBack hback
  rw [answers_eq hfollowed.onPad hd hlong hport htx, hpins]
  by_cases hshort : frame.length ≤ 253
  · have hlength := length_statusFrame (Nat.le_succ_of_le hshort) (command &&& 15)
    obtain ⟨ground, hground, -⟩ := groundRuns_emit hlistens
      (List.forall_mem_singleton.mpr (by omega :
        1 ≤ (statusFrame frame.length (command &&& 15)).length ∧
          (statusFrame frame.length (command &&& 15)).length ≤ 255))
    have hresponse : framePort (statusFrame frame.length (command &&& 15)) =
        RADIO_MODULE_COMMAND_RESPONSE_PORT := framePort_frameOf _ _
    have hsent := broadcast_frames BROADCAST_IP hudp hfcntl
      (statusFrame frame.length (command &&& 15)) []
    rw [List.map_singleton, hresponse] at hground hsent
    rw [if_pos hshort, hground]
    constructor
    · rintro ⟨r, status, hr, hstatus, -⟩
      cases hr
      rw [hsent] at hstatus
      have hgoes := (Prod.mk.inj (List.singleton_inj.mp (List.append_cancel_left hstatus))).1
      exact ⟨hshort, UInt16.toNat_inj.mp (Int.natCast_inj.mp hgoes)⟩
    · rintro ⟨-, hgoes⟩
      have hpos : 0 < frame.length := by omega
      refine ⟨_, _, rfl, ?_, getElem?_statusFrame hpos _⟩
      rw [hsent, hgoes]
      rfl
  · rw [if_neg hshort]
    refine iff_of_false ?_ fun hboth => hshort hboth.1
    rintro ⟨r, status, hr, hstatus, -⟩
    -- nothing is relayed
    cases hr
    have hlen := congrArg List.length hstatus
    rw [List.length_append] at hlen
    exact absurd hlen (Nat.ne_of_lt (Nat.lt_succ_self _))

/-- The first and the third pin are set. -/
def alternating : Answers :=
  { delivering [] with getPin := fun i => if i % 2 = 0 then 1 else 0 }

theorem commandOnAir : ∃ u, uplinkRun (oneCommand.take 3) = .ok u ∧ u.air = [[225, 46, 5]] := by
  have hair : (uplinkRun (oneCommand.take 3)).toOption.map Uplink.air = some [[225, 46, 5]] := by
    decide +kernel
  exact ok_of_shows hair

theorem command_verified_alternating : ∃ u, uplinkRun (oneCommand.take 3) = .ok u ∧
    ((∃ r status, groundRuns u.ground.loraReceiveTenant (delivering [])
        (u.flight.answers { alternating with recv := ((3 : Nat), [225, 46, 5]) }) = .ok r ∧
        (broadcast 0xFFFFFFFF 0 ⟨0, true, 0⟩ (freshProgram u.ground.loraReceiveTenant.udp)
          r.2).sent.map arrival =
          [((RADIO_MODULE_COMMAND_RESPONSE_PORT.toNat : Int), status)] ∧
        status[2]? = some (5 &&& 15)) ↔
      3 ≤ 253 ∧ asynchronousPort (freshProgram u.ground.loraReceiveTenant.udp)
        RADIO_MODULE_COMMAND_RESPONSE_PORT = RADIO_MODULE_COMMAND_RESPONSE_PORT) := by
  obtain ⟨u, hrun, hair⟩ := commandOnAir
  have hback : ReadsBack 5 alternating := by
    unfold ReadsBack
    decide
  have hlistens : Listens u.ground.loraReceiveTenant (delivering []) := setTxRx_zero ..
  exact ⟨u, hrun, command_verified_iff hrun hair rfl rfl rfl hback hlistens
    (p := freshProgram u.ground.loraReceiveTenant.udp) (i := 0) rfl rfl 0xFFFFFFFF⟩

end Backplane.Radio
