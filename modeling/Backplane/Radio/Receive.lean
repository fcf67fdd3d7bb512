import Backplane.Radio.Transmit

/-!
# The LoRa receive tenant

Model of `CLoraReceiveTenant` (`app/backplane/radio_module/src/c_lora_receive_tenant.cpp`): its
phase, `receive` and its four handlers. A frame is taken into a zeroed buffer of 255 bytes; reading
past it is `Fault.outOfBounds`. A `Run` that a fault ends leaves what it had put out before, such as
the pins set by a command (`Halted`). Of the shutoff timer only `running` is kept, and of the
datagrams only the port the socket holds: where they go is up to the socket (`Net.UdpSocket`).

Results:
* `receive_run_machine`: whatever its handler does, a `Run` moves the phase as the machine says.
* `requestPorts_isOk_iff`: the loop over requested ports succeeds iff each pair of buffer bytes it
  looks at names a port of the map.
* `padRun_safe_iff`: which frames the flight radio survives.
* `padRun_unsafe`: a three-byte data request.
-/

namespace Backplane.Radio

open Backplane.FoldM
open Backplane.Utils
open Backplane.Net

/-- `CLoraReceiveTenant`, with the transmit tenant it refers to and the static
`camerasTurnedOff`. -/
structure CLoraReceiveTenant where
  machine : CPadFlightLandedStateMachine
  loraTransmitTenant : CLoraTransmitTenant
  shutoffTimerRunning : Bool
  camerasTurnedOff : Bool
  udp : CUdpSocket

/-- As constructed, on source port `srcPort`. -/
def CLoraReceiveTenant.new (loraTransmitTenant : CLoraTransmitTenant) (srcPort : UInt16) :
    CLoraReceiveTenant :=
  { machine := {}, loraTransmitTenant := loraTransmitTenant, shutoffTimerRunning := false,
    camerasTurnedOff := false, udp := { dstPort := srcPort.toNat } }

/-- What `receive` hands to its caller. -/
structure Received where
  size : Int
  buffer : Vector UInt8 255
  port : Int

/-- The flight radio's tenants, after `Startup` on the main thread. -/
def CLoraReceiveTenant.started : Except Fault CLoraReceiveTenant := do
  let loraTransmitTenant ← CLoraTransmitTenant.new.startup true
  return .new loraTransmitTenant RADIO_BASE_PORT

def portOffset : Nat := 2

/-- `receive`. -/
def CLoraReceiveTenant.receive (t : CLoraReceiveTenant) (env : Answers) :
    CLoraReceiveTenant × Received :=
  let r := t.loraTransmitTenant.lora.receiveSynchronous env
  let t := { t with loraTransmitTenant := { t.loraTransmitTenant with lora := r.1 } }
  let buffer := zeroed 255 r.2.2
  if r.2.1 ≤ 0 then (t, { size := r.2.1, buffer := buffer, port := 0 })
  else
    (t, { size := r.2.1, buffer := buffer, port := (word (buffer.get 1) (buffer.get 0)).toNat })

/-- `len` bytes from `offset` on. -/
def readBuffer (buffer : Vector UInt8 255) (offset len : Nat) : Except Fault (List UInt8) :=
  if offset + len ≤ 255 then .ok ((buffer.toList.drop offset).take len) else .error .outOfBounds

/-- The state of the four pins, packed into a byte. -/
def pinByte (env : Answers) : UInt8 :=
  UInt8.ofInt (env.getPin 0) ||| UInt8.ofInt (env.getPin 1) <<< 1 |||
    UInt8.ofInt (env.getPin 2) <<< 2 ||| UInt8.ofInt (env.getPin 3) <<< 3

/-- The values of `i` in `for (int i = 2; i < rxSize; i += 2)`. -/
def requestIndices (rxSize : Nat) : List Nat := List.range' 2 ((rxSize - 1) / 2) 2

/-- One requested port: `padDataRequestedMap[buffer[i] << 8 | buffer[i + 1]] = true`. -/
def requestPort (buffer : Vector UInt8 255) (m : CHashMap UInt16 Bool) (i : Nat) :
    Except Fault (CHashMap UInt16 Bool) :=
  match buffer[i]?, buffer[i + 1]? with
  | some hi, some lo => m.assign (word hi lo) true
  | _, _ => .error .outOfBounds

/-- The loop over the requested ports. -/
def requestPorts (buffer : Vector UInt8 255) (rxSize : Nat) (m : CHashMap UInt16 Bool) :
    Except Fault (CHashMap UInt16 Bool) :=
  (requestIndices rxSize).foldlM (requestPort buffer) m

/-- `PadRun`, once it has received `rx`. -/
def CLoraReceiveTenant.padFrame (t : CLoraReceiveTenant) (env : Answers) (rx : Received) :
    Except Halted (CLoraReceiveTenant × List Output) :=
  if rx.size ≤ 0 then .ok (t, [])
  else if rx.size > 2 then
    if rx.port = RADIO_MODULE_COMMAND_PORT.toNat then
      -- Apply commands to pins
      let pins := (List.range 4).map fun i =>
        Output.setPin i ((rx.buffer.get 2 >>> UInt8.ofNat i) &&& 1 == 1)
      let pinStatus : RadioBroadcastData :=
        { port := RADIO_MODULE_COMMAND_RESPONSE_PORT
          size := UInt8.ofInt rx.size
          data := zeroed 254 [pinByte env] }
      -- Retransmit status so GS can verify
      match t.loraTransmitTenant.transmit env pinStatus with
      | .error e => .error { e with outputs := pins ++ e.outputs }
      | .ok (lt, sent) => .ok ({ t with loraTransmitTenant := lt }, pins ++ sent)
    else if rx.port = RADIO_MODULE_DATA_REQUEST_PORT.toNat then
      match requestPorts rx.buffer rx.size.toNat t.loraTransmitTenant.padDataRequestedMap with
      | .error e => .error { fault := e, outputs := [] }
      | .ok m =>
        .ok ({ t with loraTransmitTenant :=
          { t.loraTransmitTenant with padDataRequestedMap := m } }, [])
    else
      match readBuffer rx.buffer 2 (rx.size - portOffset).toNat with
      | .error e => .error { fault := e, outputs := [] }
      | .ok data =>
        .ok ({ t with udp := { t.udp with dstPort := rx.port } }, [.udpSend rx.port data])
  else .ok (t, [])

/-- `PadRun`. -/
def CLoraReceiveTenant.padRun (t : CLoraReceiveTenant) (env : Answers) :
    Except Halted (CLoraReceiveTenant × List Output) :=
  let r := t.receive env
  r.1.padFrame env r.2

/-- `FlightRun`. -/
def CLoraReceiveTenant.flightRun (t : CLoraReceiveTenant) : CLoraReceiveTenant × List Output :=
  (t, [])

/-- `LandedRun`. -/
def CLoraReceiveTenant.landedRun (t : CLoraReceiveTenant) : CLoraReceiveTenant × List Output :=
  let t := if !t.shutoffTimerRunning && !t.camerasTurnedOff then
    { t with shutoffTimerRunning := true } else t
  let t := if t.shutoffTimerRunning && t.camerasTurnedOff then
    { t with shutoffTimerRunning := false } else t
  (t, [])

/-- `shutoffTimerExpirationFn`, if the timer is running. -/
def CLoraReceiveTenant.shutoffTimerExpires (t : CLoraReceiveTenant) :
    CLoraReceiveTenant × List Output :=
  if t.shutoffTimerRunning then
    ({ t with camerasTurnedOff := true }, (List.range 4).map fun i => .setPin i false)
  else (t, [])

/-- `GroundRun`. -/
def CLoraReceiveTenant.groundRun (t : CLoraReceiveTenant) (env : Answers) :
    Except Halted (CLoraReceiveTenant × List Output) :=
  let r := t.receive env
  let t := r.1
  let rx := r.2
  if rx.size ≤ 0 then .ok (t, [])
  else
    match readBuffer rx.buffer 0 rx.size.toNat with
    | .error e => .error { fault := e, outputs := [] }
    | .ok data => .ok ({ t with udp := { t.udp with dstPort := rx.port } }, [.udpSend rx.port data])

/-- `Run`. -/
def CLoraReceiveTenant.run (t : CLoraReceiveTenant) (CONFIG_RADIO_MODULE_RECEIVER : Bool)
    (globals : NStateMachineGlobals) (env : Answers) :
    Except Halted (CLoraReceiveTenant × List Output) :=
  let r := t.machine.run CONFIG_RADIO_MODULE_RECEIVER globals
  let t := { t with machine := r.2 }
  match r.1 with
  | .PAD => t.padRun env
  | .FLIGHT => .ok t.flightRun
  | .LANDED => .ok t.landedRun
  | .GROUND => t.groundRun env

/-! ## The phase -/

theorem receive_machine (t : CLoraReceiveTenant) (env : Answers) :
    (t.receive env).1.machine = t.machine ∧
      (t.receive env).1.loraTransmitTenant.machine = t.loraTransmitTenant.machine := by
  unfold CLoraReceiveTenant.receive
  simp only
  split
  · exact ⟨rfl, rfl⟩
  · exact ⟨rfl, rfl⟩

/-- No branch of `PadRun` touches a phase. -/
theorem padFrame_machine {t : CLoraReceiveTenant} {env : Answers} {rx : Received}
    {r : CLoraReceiveTenant × List Output} (h : t.padFrame env rx = .ok r) :
    r.1.machine = t.machine ∧
      r.1.loraTransmitTenant.machine = t.loraTransmitTenant.machine := by
  unfold CLoraReceiveTenant.padFrame at h
  split at h
  · cases h
    exact ⟨rfl, rfl⟩
  split at h
  · split at h
    · simp only at h
      split at h
      · cases h
      · rename_i lt sent hsent
        cases h
        exact ⟨rfl, (transmit_kept ⟨rfl, rfl, rfl⟩ hsent).machine⟩
    split at h
    · split at h
      · cases h
      · cases h
        exact ⟨rfl, rfl⟩
    · split at h
      · cases h
      · cases h
        exact ⟨rfl, rfl⟩
  · cases h
    exact ⟨rfl, rfl⟩

theorem landedRun_machine (t : CLoraReceiveTenant) :
    t.landedRun.1.machine = t.machine ∧
      t.landedRun.1.loraTransmitTenant.machine = t.loraTransmitTenant.machine := by
  unfold CLoraReceiveTenant.landedRun
  simp only
  constructor
  · split <;> split <;> rfl
  · split <;> split <;> rfl

theorem groundRun_machine {t : CLoraReceiveTenant} {env : Answers}
    {r : CLoraReceiveTenant × List Output} (h : t.groundRun env = .ok r) :
    r.1.machine = t.machine ∧
      r.1.loraTransmitTenant.machine = t.loraTransmitTenant.machine := by
  unfold CLoraReceiveTenant.groundRun at h
  simp only at h
  split at h
  · cases h
    exact receive_machine t env
  · split at h
    · cases h
    · cases h
      exact receive_machine t env

/-- **A `Run` moves its own phase as the machine says**, and no other. -/
theorem receive_run_machine {t : CLoraReceiveTenant} {receiver : Bool}
    {globals : NStateMachineGlobals} {env : Answers} {r : CLoraReceiveTenant × List Output}
    (h : t.run receiver globals env = .ok r) :
    r.1.machine = (t.machine.run receiver globals).2 ∧
      r.1.loraTransmitTenant.machine = t.loraTransmitTenant.machine := by
  unfold CLoraReceiveTenant.run at h
  simp only at h
  split at h
  · obtain ⟨hown, hother⟩ := padFrame_machine h
    obtain ⟨hown', hother'⟩ :=
      receive_machine { t with machine := (t.machine.run receiver globals).2 } env
    exact ⟨hown.trans hown', hother.trans hother'⟩
  · cases h
    exact ⟨rfl, rfl⟩
  · cases h
    exact landedRun_machine _
  · exact groundRun_machine h

/-! ## Receiving a frame -/

/-- `lora_recv` delivers `frame`. -/
structure Delivers (t : CLoraReceiveTenant) (env : Answers) (frame : List UInt8) : Prop where
  configured : (t.loraTransmitTenant.lora.setTxRx false env.configRx).2 = 0
  recv : env.recv = ((frame.length : Int), frame)
  pos : 1 ≤ frame.length
  le : frame.length ≤ 255

/-- The phase has no part in it. -/
theorem Delivers.withMachine {t : CLoraReceiveTenant} {env : Answers} {frame : List UInt8}
    (h : Delivers t env frame) (machine : CPadFlightLandedStateMachine) :
    Delivers { t with machine := machine } env frame :=
  ⟨h.configured, h.recv, h.pos, h.le⟩

/-- The port a frame is for. -/
def framePort (frame : List UInt8) : UInt16 := word (frame.getD 1 0) (frame.getD 0 0)

/-- What a delivered frame makes of `receive`. -/
theorem receive_delivers {t : CLoraReceiveTenant} {env : Answers} {frame : List UInt8}
    (h : Delivers t env frame) :
    ∃ lora, t.receive env =
      ({ t with loraTransmitTenant := { t.loraTransmitTenant with lora := lora } },
        { size := frame.length, buffer := zeroed 255 frame, port := (framePort frame).toNat }) := by
  have hpos := h.pos
  unfold CLoraReceiveTenant.receive CLora.receiveSynchronous
  simp only [h.configured, h.recv, ne_eq, not_true_eq_false, if_false]
  rw [if_neg (by omega), zeroed_get, zeroed_get]
  exact ⟨(t.loraTransmitTenant.lora.setTxRx false env.configRx).1, rfl⟩

/-! ## The loop over the requested ports -/

theorem mem_requestIndices {rxSize i : Nat} :
    i ∈ requestIndices rxSize ↔ 2 ≤ i ∧ i < rxSize ∧ i % 2 = 0 := by
  unfold requestIndices
  rw [List.mem_range']
  constructor
  · rintro ⟨k, hk, rfl⟩
    omega
  · rintro ⟨h2, hlt, heven⟩
    exact ⟨(i - 2) / 2, by omega, by omega⟩

/-- The pair of buffer bytes at `i` names a port of `keys`. -/
def NamesPort (buffer : Vector UInt8 255) (keys : List UInt16) (i : Nat) : Prop :=
  ∃ hi lo, buffer[i]? = some hi ∧ buffer[i + 1]? = some lo ∧ word hi lo ∈ keys

theorem requestPort_isOk_iff (buffer : Vector UInt8 255) (m : CHashMap UInt16 Bool) (i : Nat) :
    (∃ m', requestPort buffer m i = .ok m') ↔ NamesPort buffer m.map.keys i := by
  unfold requestPort NamesPort
  cases hhi : buffer[i]? with
  | none => simp
  | some hi =>
    cases hlo : buffer[i + 1]? with
    | none => simp
    | some lo => simp [assign_isOk]

theorem requestPort_keys {buffer : Vector UInt8 255} {m m' : CHashMap UInt16 Bool} {i : Nat}
    (h : requestPort buffer m i = .ok m') : m'.map.keys = m.map.keys := by
  unfold requestPort at h
  split at h
  · exact keys_assign h
  · cases h

/-- **The loop succeeds iff** every pair it looks at names a port of the map. -/
theorem requestPorts_isOk_iff (buffer : Vector UInt8 255) (rxSize : Nat)
    (m : CHashMap UInt16 Bool) :
    (∃ m', requestPorts buffer rxSize m = .ok m') ↔
      ∀ i ∈ requestIndices rxSize, NamesPort buffer m.map.keys i := by
  refine foldlM_isOk_iff (P := fun m' : CHashMap UInt16 Bool => m'.map.keys = m.map.keys)
    (fun m' i m'' hm h => (requestPort_keys h).trans hm) (fun m' i hm => ?_) rfl
  rw [requestPort_isOk_iff, hm]

theorem requestPorts_keys {buffer : Vector UInt8 255} {rxSize : Nat}
    {m m' : CHashMap UInt16 Bool} (h : requestPorts buffer rxSize m = .ok m') :
    m'.map.keys = m.map.keys :=
  foldlM_preserves (P := fun c : CHashMap UInt16 Bool => c.map.keys = m.map.keys)
    (fun _ _ _ hm hs => (requestPort_keys hs).trans hm) rfl h

/-! ## Which frames are survived -/

/-- The map holds the ports that `Startup` inserts. -/
def PadKeys (t : CLoraReceiveTenant) : Prop :=
  ∀ p, p ∈ t.loraTransmitTenant.padDataRequestedMap.map.keys ↔ p ∈ padPorts

/-- `PadRun` returns, having read inside its buffer, and keeps the keys. -/
def SafePadRun (t : CLoraReceiveTenant) (env : Answers) : Prop :=
  ∃ r, t.padRun env = .ok r ∧ r.1.loraTransmitTenant.padDataRequestedMap.map.keys =
    t.loraTransmitTenant.padDataRequestedMap.map.keys

/-- The pair of frame bytes at `i` names a port that can be requested. -/
def RequestsPort (frame : List UInt8) (i : Nat) : Prop :=
  ∃ hi lo, frame[i]? = some hi ∧ frame[i + 1]? = some lo ∧ word hi lo ∈ padPorts

/-- A short frame, a command of at most 254 bytes, a request of listened ports, or a frame for
another port. -/
inductive Harmless (frame : List UInt8) : Prop
  | short (h : frame.length ≤ 2)
  | command (h : framePort frame = RADIO_MODULE_COMMAND_PORT) (hlen : frame.length ≤ 254)
  | dataRequest (h : framePort frame = RADIO_MODULE_DATA_REQUEST_PORT)
      (hports : ∀ i ∈ requestIndices frame.length, RequestsPort frame i)
  | forward (hc : framePort frame ≠ RADIO_MODULE_COMMAND_PORT)
      (hr : framePort frame ≠ RADIO_MODULE_DATA_REQUEST_PORT)

/-- No listened port has a low byte of zero. -/
theorem word_zero_not_mem (hi : UInt8) : word hi 0 ∉ padPorts := by
  intro h
  have hnat : (word hi 0).toNat ∈ padPorts.map UInt16.toNat := List.mem_map_of_mem h
  rw [word_toNat] at hnat
  simp [padPorts, POWER_MODULE_INA_DATA_PORT, RADIO_MODULE_GNSS_DATA_PORT,
    SENSOR_MODULE_TELEMETRY_PORT] at hnat
  omega

theorem getElem?_eq_some_getD {frame : List UInt8} {i : Nat} (h : i < frame.length) :
    frame[i]? = some (frame.getD i 0) := by
  rw [List.getD_eq_getElem?_getD, List.getElem?_eq_getElem h]
  rfl

/-- In the buffer a pair cut off by the end of the frame names no port. -/
theorem namesPort_zeroed {frame : List UInt8} {keys : List UInt16}
    (hkeys : ∀ p, p ∈ keys ↔ p ∈ padPorts) (hle : frame.length ≤ 255) {i : Nat}
    (hi : i < frame.length) : NamesPort (zeroed 255 frame) keys i ↔ RequestsPort frame i := by
  unfold NamesPort RequestsPort
  have hfirst : frame[i]? = some (frame.getD i 0) := getElem?_eq_some_getD hi
  rw [zeroed_getElem?, if_pos (by omega), zeroed_getElem?, hfirst]
  simp only [hkeys]
  by_cases hlast : i + 1 < frame.length
  · rw [if_pos (by omega), getElem?_eq_some_getD hlast]
  · have hnone : frame[i + 1]? = none := List.getElem?_eq_none (by omega)
    have hzero : frame.getD (i + 1) 0 = 0 := by rw [List.getD_eq_getElem?_getD, hnone]; rfl
    rw [hnone, hzero]
    constructor
    · rintro ⟨hi', lo, hhi, hlo, hmem⟩
      split at hlo
      · cases hlo
        exact absurd hmem (word_zero_not_mem hi')
      · cases hlo
    · rintro ⟨_, _, _, hlo, _⟩
      cases hlo

section PadRun

variable {t : CLoraReceiveTenant} {env : Answers} {rx : Received}

/-- `padFrame` returns and keeps the keys. -/
def SafePadFrame (t : CLoraReceiveTenant) (env : Answers) (rx : Received) : Prop :=
  ∃ r, t.padFrame env rx = .ok r ∧ r.1.loraTransmitTenant.padDataRequestedMap.map.keys =
    t.loraTransmitTenant.padDataRequestedMap.map.keys

theorem safe_short (h : rx.size ≤ 2) : SafePadFrame t env rx := by
  unfold SafePadFrame CLoraReceiveTenant.padFrame
  rw [if_neg (show ¬ rx.size > 2 by omega), ite_self]
  exact ⟨_, rfl, rfl⟩

theorem toNat_ofInt_size {size : Int} (h0 : 0 ≤ size) (hle : size ≤ 255) :
    (UInt8.ofInt size).toNat = size.toNat := by
  unfold UInt8.ofInt
  rw [Int.emod_eq_of_lt h0 (by omega), UInt8.toNat_ofNat', Nat.mod_eq_of_lt (by omega)]

/-- The status sent back has the size of the command, whatever that is. -/
theorem safe_command_iff (hsize : 2 < rx.size) (hle : rx.size ≤ 255)
    (h : rx.port = RADIO_MODULE_COMMAND_PORT.toNat) :
    SafePadFrame t env rx ↔ rx.size ≤ 254 := by
  have hpos : ¬ rx.size ≤ 0 := by omega
  have htoNat := toNat_ofInt_size (by omega) hle
  have hok := transmit_isOk t.loraTransmitTenant env
    { port := RADIO_MODULE_COMMAND_RESPONSE_PORT, size := UInt8.ofInt rx.size,
      data := zeroed 254 [pinByte env] }
  rw [show rx.size ≤ 254 ↔ (UInt8.ofInt rx.size).toNat ≤ 254 by omega, ← hok]
  unfold SafePadFrame CLoraReceiveTenant.padFrame
  simp only [if_neg hpos, if_pos hsize, if_pos h]
  cases hsent : t.loraTransmitTenant.transmit env _ with
  | error e =>
    constructor
    · rintro ⟨r, hr, -⟩
      cases hr
    · rintro ⟨r, hr⟩
      cases hr
  | ok sent =>
    obtain ⟨lora, hframe⟩ := transmit_frame hsent
    refine ⟨fun _ => ⟨sent, rfl⟩, fun _ => ⟨_, rfl, ?_⟩⟩
    show sent.1.padDataRequestedMap.map.keys = _
    rw [hframe]

theorem safe_dataRequest_iff (hsize : 2 < rx.size)
    (h : rx.port = RADIO_MODULE_DATA_REQUEST_PORT.toNat) :
    SafePadFrame t env rx ↔ ∀ i ∈ requestIndices rx.size.toNat,
      NamesPort rx.buffer t.loraTransmitTenant.padDataRequestedMap.map.keys i := by
  have hpos : ¬ rx.size ≤ 0 := by omega
  have hc : ¬ rx.port = RADIO_MODULE_COMMAND_PORT.toNat := by
    rw [h]
    decide
  rw [← requestPorts_isOk_iff]
  unfold SafePadFrame CLoraReceiveTenant.padFrame
  simp only [if_neg hpos, if_pos hsize, if_neg hc, if_pos h]
  cases hm : requestPorts rx.buffer rx.size.toNat t.loraTransmitTenant.padDataRequestedMap with
  | error e =>
    constructor
    · rintro ⟨r, hr, -⟩
      cases hr
    · rintro ⟨m, hm⟩
      cases hm
  | ok m => exact ⟨fun _ => ⟨m, rfl⟩, fun _ => ⟨_, rfl, requestPorts_keys hm⟩⟩

theorem safe_forward (hle : rx.size ≤ 255) (hc : rx.port ≠ RADIO_MODULE_COMMAND_PORT.toNat)
    (hr : rx.port ≠ RADIO_MODULE_DATA_REQUEST_PORT.toNat) : SafePadFrame t env rx := by
  by_cases hsize : 2 < rx.size
  · have hread : readBuffer rx.buffer 2 (rx.size - portOffset).toNat =
        .ok ((rx.buffer.toList.drop 2).take (rx.size - portOffset).toNat) := by
      unfold readBuffer portOffset
      rw [if_pos (by omega)]
    unfold SafePadFrame CLoraReceiveTenant.padFrame
    rw [if_neg (by omega), if_pos hsize, if_neg hc, if_neg hr, hread]
    exact ⟨_, rfl, rfl⟩
  · exact safe_short (by omega)

end PadRun

theorem safePadRun_iff {t : CLoraReceiveTenant} {env : Answers} {frame : List UInt8}
    (h : Delivers t env frame) : ∃ lora, SafePadRun t env ↔ SafePadFrame
      { t with loraTransmitTenant := { t.loraTransmitTenant with lora := lora } } env
      { size := frame.length, buffer := zeroed 255 frame, port := (framePort frame).toNat } := by
  obtain ⟨lora, hr⟩ := receive_delivers h
  refine ⟨lora, ?_⟩
  unfold SafePadRun CLoraReceiveTenant.padRun
  rw [hr]
  exact Iff.rfl

/-- **Which frames `PadRun` survives.** Of the delivered frames exactly the harmless ones are read
inside the buffer, without an oops, and leave the keys as they were. -/
theorem padRun_safe_iff {t : CLoraReceiveTenant} {env : Answers} {frame : List UInt8}
    (h : Delivers t env frame) (hkeys : PadKeys t) : SafePadRun t env ↔ Harmless frame := by
  obtain ⟨lora, hsafe⟩ := safePadRun_iff h
  have hle := h.le
  have hport : ∀ p : UInt16, ((framePort frame).toNat : Int) = p.toNat ↔ framePort frame = p := by
    intro p
    rw [Int.natCast_inj, UInt16.toNat_inj]
  rw [hsafe]
  by_cases hshort : frame.length ≤ 2
  · exact iff_of_true (safe_short (Int.ofNat_le.mpr hshort)) (.short hshort)
  have hsize : (2 : Int) < frame.length := by omega
  by_cases hc : framePort frame = RADIO_MODULE_COMMAND_PORT
  · rw [safe_command_iff hsize (Int.ofNat_le.mpr hle) ((hport _).mpr hc)]
    constructor
    · exact fun h254 => .command hc (Int.ofNat_le.mp h254)
    · rintro (hs | ⟨-, hlen⟩ | ⟨hr, -⟩ | ⟨hc', -⟩)
      · exact absurd hs hshort
      · exact Int.ofNat_le.mpr hlen
      · rw [hc] at hr
        exact absurd hr (by decide)
      · exact absurd hc hc'
  by_cases hd : framePort frame = RADIO_MODULE_DATA_REQUEST_PORT
  · rw [safe_dataRequest_iff hsize ((hport _).mpr hd)]
    have hpair : ∀ i ∈ requestIndices frame.length, NamesPort (zeroed 255 frame)
        t.loraTransmitTenant.padDataRequestedMap.map.keys i ↔ RequestsPort frame i :=
      fun i hi => namesPort_zeroed hkeys hle (mem_requestIndices.mp hi).2.1
    constructor
    · exact fun hall => .dataRequest hd fun i hi => (hpair i hi).mp (hall i hi)
    · rintro (hs | ⟨hc', -⟩ | ⟨-, hports⟩ | ⟨-, hd'⟩)
      · exact absurd hs hshort
      · exact absurd hc' hc
      · exact fun i hi => (hpair i hi).mpr (hports i hi)
      · exact absurd hd hd'
  · exact iff_of_true (safe_forward (Int.ofNat_le.mpr hle) (fun hp => hc ((hport _).mp hp))
      (fun hp => hd ((hport _).mp hp))) (.forward hc hd)

/-! ## After startup -/

theorem started_padKeys : ∃ t, CLoraReceiveTenant.started = .ok t ∧
    t.loraTransmitTenant.lora = {} ∧ PadKeys t := by
  obtain ⟨lt, hstart, -, hlora, -, hkeys⟩ := startup_keys true
  refine ⟨.new lt RADIO_BASE_PORT, ?_, hlora, hkeys⟩
  unfold CLoraReceiveTenant.started
  rw [hstart]
  rfl

/-- The modem is already set to receive, and `lora_recv` returns `frame`. -/
def delivering (frame : List UInt8) : Answers :=
  { configRx := 0, configTx := 0, recv := ((frame.length : Int), frame), getPin := fun _ => 0 }

theorem delivers_delivering {t : CLoraReceiveTenant} {frame : List UInt8}
    (hlora : t.loraTransmitTenant.lora = {}) (hpos : 1 ≤ frame.length) (hle : frame.length ≤ 255) :
    Delivers t (delivering frame) frame := by
  refine ⟨?_, rfl, hpos, hle⟩
  rw [hlora]
  rfl

/-- A request of the INA data port. -/
theorem padRun_safe_request : ∃ t, CLoraReceiveTenant.started = .ok t ∧
    (SafePadRun t (delivering [0xC7, 0x32, 0x2B, 0x07]) ↔ Harmless [0xC7, 0x32, 0x2B, 0x07]) := by
  obtain ⟨t, hstart, hlora, hkeys⟩ := started_padKeys
  exact ⟨t, hstart, padRun_safe_iff (delivers_delivering hlora (by decide) (by decide)) hkeys⟩

/-- **A data request of three bytes** reaches `k_oops`: its only pair is cut off after a zero. -/
theorem padRun_unsafe : ¬ ∀ (t : CLoraReceiveTenant) (env : Answers) (frame : List UInt8),
    CLoraReceiveTenant.started = .ok t → Delivers t env frame → SafePadRun t env := by
  intro h
  obtain ⟨t, hstart, hlora, hkeys⟩ := started_padKeys
  have hd : Delivers t (delivering [0xC7, 0x32, 0x00]) [0xC7, 0x32, 0x00] :=
    delivers_delivering hlora (by decide) (by decide)
  obtain ⟨lora, hsafe⟩ := safePadRun_iff hd
  have hall := (safe_dataRequest_iff (by decide) (by decide)).mp (hsafe.mp (h t _ _ hstart hd))
  have hpair := (namesPort_zeroed hkeys (by decide) (by decide)).mp
    (hall 2 (mem_requestIndices.mpr (by decide)))
  obtain ⟨hi, lo, -, hlo, -⟩ := hpair
  cases hlo

end Backplane.Radio
