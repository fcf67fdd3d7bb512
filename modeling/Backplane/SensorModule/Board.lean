import Backplane.General.Threads
import Backplane.Messaging.Waiting
import Backplane.Net.TftpOnline
import Backplane.Net.TftpParse
import Backplane.Net.UdpSocket
import Backplane.Os.DataLogger
import Backplane.SensorModule.Readings

/-!
# The tasks of the sensor module

Model of `CSensorModule` (`app/backplane/sensor_module/src/c_sensor_module.cpp`,
`include/c_sensor_module.h`) as the threads it starts: the sensing task, the networking task, which
runs the broadcast tenant and the TFTP server in turn, the data logging task, and the expiries of
the controller's timers. Any interleaving of their moves is a run.

* `CSensingTenant::Run` makes four moves: the check of `ContinueCollecting`, then the reads with
  `HandleData`, then a `Send` to each port. A call of `HandleData` is one move.
* `CUdpBroadcastTenant::Run` (`include/f_core/net/application/c_udp_broadcast_tenant.h`) and
  `CDataLoggerTenant::Run` (`include/f_core/os/tenants/c_datalogger_tenant.h`) receive in one move
  and pass the message on in another. The logger waits for a message, the broadcaster does not.
* `CTftpServerTenant::Run` makes one move for every answer of a socket.
* What the sockets and the file system answer is an input: `zsock_sendto` may refuse a datagram, and
  `fs_write` may fail or store a part. So is what a file transfer reads, also where it reads the
  data log.

Next to the state the model keeps what was measured and where it went. A message counts as broadcast
when `zsock_sendto` takes it, and as logged when `fs_write` stores all of it.
-/

namespace Backplane.SensorModule

open Backplane.Flight
open Backplane.Messaging
open Backplane.Net
open Backplane.Os
open Backplane.Run
open Backplane.Threads
open Backplane.Utils

/-- The tasks, and the timers. -/
inductive Task
  | sensing | networking | dataLog | timers
  deriving DecidableEq

theorem ten_messages (_ : SensorPort) : 0 < 10 := by decide

/-- The wiring of the module's ports: each has a queue of its name, for ten messages. -/
abbrev ports : Wiring SensorPort SensorPort where
  sizeof _ := sizeofSensorData
  queue := id
  msg_size _ := sizeofSensorData
  max_msgs _ := 10
  max_pos := ten_messages

/-- They are those of the module. -/
theorem ports_eq : ports = sensorModule sizeofSensorData := rfl

abbrev Message := Vector UInt8 sizeofSensorData

/-- What the tasks share: the detection handler with its controller, the message ports, the
program's sockets and the data logger; then what was measured, broadcast and logged, in order, and
the bytes that `fs_write` has stored. -/
structure Board (D : Type) where
  handler : CDetectionHandler D
  ports : Ports ports
  net : Net.Program
  dataLogger : Datalogger
  measured : List Message
  broadcast : List Message
  logged : List Message
  written : List UInt8

/-- Where the sensing task stands: before a `Run`, behind its check, or before the first or second
`Send`. -/
inductive Sensing
  | run
  | collect
  | sendBroadcast (data : Message)
  | sendLog (data : Message)

/-- Where the networking task stands: before the `Run` of the broadcast tenant, before its
`TransmitAsynchronous`, before the `Run` of the TFTP server, or in a wait for an
acknowledgement. -/
inductive Networking
  | receive
  | transmit (message : Message)
  | tftp
  | waitForAck (session : TftpSession)

/-- Where the data logging task stands: before `Receive`, or before `write`. -/
inductive Logging
  | receive
  | write (message : Message)

/-- The state of a task of its own. -/
abbrev Local : Task → Type
  | .sensing => Sensing
  | .networking => Networking
  | .dataLog => Logging
  | .timers => Unit

/-- What a `Run` of the sensing tenant reads. -/
structure Sample (R : Type) where
  uptime : UInt64
  data : FullSensorData R
  workings : SensorWorkings

/-- What a move of the networking task reads: the answer of `ReceiveAsynchronous`, the answers to
the transmit calls of the move and, for a request, the port of the client, the new data socket and
the file system. -/
structure NetInput where
  received : Poll
  fcntl : Nat → Fcntl
  sendto : Nat → Int
  clientPort : UInt16
  dataSock : Int
  fs : List UInt8 → Fs

/-- What a move of a task reads. -/
abbrev Input (R : Type) : Task → Type
  | .sensing => Sample R
  | .networking => NetInput
  | .dataLog => FsAnswers
  | .timers => Nat × Fin numTimerEvents

section Defs

variable {R D : Type} [CDouble D] [CFloat R D]

/-- `Receive` into a zeroed message. -/
def Board.receive (s : Board D) (p : SensorPort) : Option (Message × Board D) :=
  (s.ports.waiting p).head?.map fun message =>
    (message, { s with ports := s.ports.receive p (Vector.replicate _ 0) })

/-- `Send`; the queue takes no more bytes than the message has. -/
def Board.send (s : Board D) (p : SensorPort) (data : Message) : Board D :=
  { s with ports := s.ports.send p data fun _ => 0 }

/-- `CSensingTenant::Run`. -/
def sensingMove (floatBytes : R → Vector UInt8 sizeofFloat) (a : Sample R) (s : Board D) :
    Sensing → Board D × Sensing
  | .run =>
    if !s.handler.continueCollecting then (s, .run) else (s, .collect)
  | .collect =>
    let data := a.data.image floatBytes
    ({ s with
        handler := s.handler.handleData a.uptime a.data.toSensorData a.workings
        measured := s.measured ++ [data] }, .sendBroadcast data)
  | .sendBroadcast data => (s.send .broadcast data, .sendLog data)
  | .sendLog data => (s.send .dataLog data, .run)

/-- `TransmitAsynchronous` of packet after packet. -/
def transmitAll (BROADCAST_IP : UInt32) (socket : CUdpSocket) (net : Net.Program)
    (fcntl : Nat → Fcntl) (sendto : Nat → Int) : List (List UInt8) → Net.Program
  | [] => net
  | packet :: packets =>
    transmitAll BROADCAST_IP socket
      (net.transmitAsynchronous BROADCAST_IP socket packet (fcntl 0) (sendto 0)).1
      (fun i => fcntl (i + 1)) (fun i => sendto (i + 1)) packets

/-- The TFTP server has sent `packets`, and waits or has returned. -/
def Board.served (BROADCAST_IP : UInt32) (s : Board D) (a : NetInput) (session : TftpSession)
    (packets : List (List UInt8)) : Board D × Networking :=
  ({ s with net := transmitAll BROADCAST_IP session.dataSock s.net a.fcntl a.sendto packets },
    if session.returned then .receive else .waitForAck session)

/-- A read request is taken up. -/
def NetInput.session (a : NetInput) (packet : List UInt8) : TftpSession :=
  { dataSock := { sock := a.dataSock, dstPort := a.clientPort.toNat }
    fs := a.fs
    packet := packet
    polls := [] }

/-- `CTftpServerTenant::Run`, up to the first wait. -/
def Board.tftpRun (BROADCAST_IP : UInt32) (s : Board D) (a : NetInput) : Board D × Networking :=
  match a.received with
  | .error _ _ => (s, .receive)
  | .received [] => (s, .receive)
  | .received bytes =>
    let packet := packetOf bytes
    if word (packet.getD 0 0) (packet.getD 1 0) = RRQ.toUInt16 then
      let session := a.session packet
      s.served BROADCAST_IP a session session.sent
    else (s, .receive)

/-- The networking task: the broadcast tenant on `socket`, then the TFTP server. -/
def networkingMove (BROADCAST_IP : UInt32) (socket : CUdpSocket) (a : NetInput) (s : Board D) :
    Networking → Board D × Networking
  | .receive =>
    match s.receive .broadcast with
    | none => (s, .tftp)
    | some (message, s) => (s, .transmit message)
  | .transmit message =>
    let r := s.net.transmitAsynchronous BROADCAST_IP socket message.toList (a.fcntl 0) (a.sendto 0)
    ({ s with
        net := r.1
        broadcast := if r.2 < 0 then s.broadcast else s.broadcast ++ [message] }, .tftp)
  | .tftp => s.tftpRun BROADCAST_IP a
  | .waitForAck session =>
    s.served BROADCAST_IP a (session.answer a.received) (session.reply a.received)

/-- The data logger's `write` of a message. -/
def Board.store (s : Board D) (a : FsAnswers) (message : Message) : Board D :=
  let stored := a.stored message.toList
  { s with
    dataLogger := (s.dataLogger.write message.toList a).1
    logged := if stored = message.toList then s.logged ++ [message] else s.logged
    written := s.written ++ stored }

/-- The data logging task, which waits for messages. -/
def dataLogMove (a : FsAnswers) (s : Board D) : Logging → Option (Board D × Logging)
  | .receive => (s.receive .dataLog).map fun (message, s) => (s, .write message)
  | .write message => some (s.store a message, .receive)

/-- The expiry of timer `i` of the controller. -/
def Board.expire (s : Board D) (now : Nat) (i : Fin numTimerEvents) : Board D :=
  { s with handler :=
    { s.handler with controller := timerExpiry config s.handler.controller now i } }

/-- The module: its threads, the broadcast address and the socket of the broadcast tenant. -/
def sensorTasks (floatBytes : R → Vector UInt8 sizeofFloat) (BROADCAST_IP : UInt32)
    (socket : CUdpSocket) : Threads.Program Task (Board D) Local (Input R) where
  move
    | .sensing, a, s, l => some (sensingMove floatBytes a s l)
    | .networking, a, s, l => some (networkingMove BROADCAST_IP socket a s l)
    | .dataLog, a, s, l => dataLogMove a s l
    | .timers, a, s, l => some (s.expire a.1 a.2, l)

/-- The module as it starts, with the content of the data log that it finds. -/
def sensorStart (dataLog : List UInt8) : World (Board D) Local where
  shared :=
    { handler := initialHandler
      ports := Ports.init ports
      net := Net.Program.start
      dataLogger := Datalogger.new dataLog .Growing 0
      measured := []
      broadcast := []
      logged := []
      written := [] }
  locals
    | .sensing => .run
    | .networking => .receive
    | .dataLog => .receive
    | .timers => ()

/-- The module after these turns. -/
abbrev sensorRun (floatBytes : R → Vector UInt8 sizeofFloat) (BROADCAST_IP : UInt32)
    (socket : CUdpSocket) (dataLog : List UInt8) (turns : List (Σ t, Input R t)) :
    World (Board D) Local :=
  run (sensorTasks floatBytes BROADCAST_IP socket).step (sensorStart dataLog) turns

end Defs

end Backplane.SensorModule
