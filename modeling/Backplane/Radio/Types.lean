import Backplane.Net.UdpSocket
import Backplane.Utils.HashMap

/-!
# What the radio module's tenants share

Model of `NTypes::RadioBroadcastData` (`app/backplane/radio_module/include/n_radio_module_types.h`),
the ports of `data/autocoder_inputs/network_defs.yaml`, the message queue between the tenants
(`include/f_core/messaging/c_msgq_message_port.h`, a `k_msgq` of 10) and the modem
(`include/f_core/radio/c_lora.h`, `lib/f_core/radio/c_lora.cpp`).

The modem caches the direction it was configured for, and takes it over even when `lora_config`
then fails. What `lora_config`, `lora_recv` and the pins answer are inputs (`Answers`). What leaves
the module is an `Output`.
-/

namespace Backplane.Radio

open Backplane.Utils
open Backplane.Net

def POWER_MODULE_INA_DATA_PORT : UInt16 := 11015
def RADIO_BASE_PORT : UInt16 := 12000
def RADIO_MODULE_COMMAND_PORT : UInt16 := 12001
def RADIO_MODULE_COMMAND_RESPONSE_PORT : UInt16 := 12002
def RADIO_MODULE_GNSS_DATA_PORT : UInt16 := 12005
def RADIO_MODULE_DATA_REQUEST_PORT : UInt16 := 12999
def SENSOR_MODULE_TELEMETRY_PORT : UInt16 := 13100

/-- `NTypes::RadioBroadcastData`. -/
structure RadioBroadcastData where
  port : UInt16
  size : UInt8
  data : Vector UInt8 254
  deriving DecidableEq

/-- `RadioBroadcastData{}`. -/
def RadioBroadcastData.zero : RadioBroadcastData := { port := 0, size := 0, data := zeroed 254 [] }

/-- A `k_msgq` of 10 messages. -/
abbrev MessagePort := List RadioBroadcastData

/-- `Send` with `K_NO_WAIT`: `false` is `-ENOMSG`. -/
def MessagePort.send (q : MessagePort) (message : RadioBroadcastData) : MessagePort × Bool :=
  if q.length < 10 then (q ++ [message], true) else (q, false)

/-- `Receive`. -/
def MessagePort.receive : MessagePort → MessagePort × Option RadioBroadcastData
  | [] => ([], none)
  | message :: q => (q, some message)

/-- What the hardware answers during one `Run`: `lora_config` for receiving and for transmitting,
`lora_recv`, and `GetPin` of the four pins. -/
structure Answers where
  configRx : Int
  configTx : Int
  recv : Int × List UInt8
  getPin : Nat → Int

/-- What leaves the module. A `udpSend` is a call of `TransmitAsynchronous`, with the port that its
socket holds. -/
inductive Output
  | loraSend (frame : List UInt8)
  | udpSend (dstPort : Int) (data : List UInt8)
  | setPin (i : Nat) (value : Bool)
  deriving DecidableEq

/-- A `Run` that a fault ended, and what it had put out before. -/
structure Halted where
  fault : Fault
  outputs : List Output
  deriving DecidableEq

/-- What a `Run` puts out, to its end or to the fault. -/
def putOut {σ : Type} : Except Halted (σ × List Output) → List Output
  | .error e => e.outputs
  | .ok r => r.2

/-- `CLora`, as far as its `config` changes. -/
structure CLora where
  tx : Bool := false
  deriving DecidableEq

/-- `setTxRx`, where `lora_config` would answer `ret`. -/
def CLora.setTxRx (lora : CLora) (isTransmit : Bool) (ret : Int) : CLora × Int :=
  if isTransmit = lora.tx then (lora, 0) else ({ lora with tx := isTransmit }, ret)

/-- `TransmitSynchronous`. -/
def CLora.transmitSynchronous (lora : CLora) (env : Answers) (data : List UInt8) :
    CLora × List Output :=
  let r := lora.setTxRx true env.configTx
  if r.2 ≠ 0 then (r.1, []) else (r.1, [.loraSend data])

/-- `ReceiveSynchronous`: what it returns, and the bytes written to the caller's buffer. -/
def CLora.receiveSynchronous (lora : CLora) (env : Answers) : CLora × Int × List UInt8 :=
  let r := lora.setTxRx false env.configRx
  if r.2 ≠ 0 then (r.1, r.2, []) else (r.1, env.recv.1, env.recv.2)

end Backplane.Radio
