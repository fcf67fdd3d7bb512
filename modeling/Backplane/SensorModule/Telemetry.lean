import Backplane.SensorModule.Board

/-!
# Telemetry

What becomes of the readings of the sensing task, in any interleaving of the tasks. They take two
paths, one to the broadcast tenant and one to the data log; each has a queue of ten messages.

Results:
* `flow_step`: what a turn does to a path.
* `telemetry_in_order`: what arrives is, in order and without repetition, part of what was measured.
* `telemetry_lossless_iff`: the runs in which a path loses nothing.
* `whole_run`: the file holds the messages logged, if none is stored in part.
-/

namespace Backplane.SensorModule

open Backplane.Flight
open Backplane.Messaging
open Backplane.Net
open Backplane.Os
open Backplane.Run
open Backplane.Threads
open Backplane.Utils

/-- The messages that wait at a port. -/
def Board.waiting {D : Type} (s : Board D) (p : SensorPort) : List Message := s.ports.waiting p

/-- What the consumer of a path has passed on: what `zsock_sendto` took, or the file holds whole. -/
def Board.passedOn {D : Type} (s : Board D) : SensorPort → List Message
  | .broadcast => s.broadcast
  | .dataLog => s.logged

/-- The message that is still to be sent to a port. -/
def Sensing.unsent : Sensing → SensorPort → List Message
  | .run, _ | .collect, _ => []
  | .sendBroadcast data, _ => [data]
  | .sendLog _, .broadcast => []
  | .sendLog data, .dataLog => [data]

/-- The next move is the `Send` to this port. -/
def Sensing.sends : Sensing → SensorPort → Bool
  | .sendBroadcast _, .broadcast => true
  | .sendLog _, .dataLog => true
  | _, _ => false

/-- The message that the networking task has received and not yet transmitted. -/
def Networking.held : Networking → List Message
  | .transmit message => [message]
  | _ => []

/-- The message that the data logging task has received and not yet written. -/
def Logging.held : Logging → List Message
  | .write message => [message]
  | .receive => []

/-- The message that the consumer of a path holds. -/
def held (n : Networking) (g : Logging) : SensorPort → List Message
  | .broadcast => n.held
  | .dataLog => g.held

section Worlds

variable {D : Type}

abbrev Module (D : Type) := World (Board D) Local

/-- Everything on a path, from its end to its start. -/
def flow (p : SensorPort) (w : Module D) : List Message :=
  w.shared.passedOn p ++ held (w.locals .networking) (w.locals .dataLog) p ++
    w.shared.waiting p ++ (w.locals .sensing).unsent p

/-! ## The ports -/

variable {s : Board D} {p q : SensorPort}

theorem ports_sound : Sound ports :=
  ⟨Function.injective_id, fun _ => Nat.le_refl _⟩

/-- What a `Receive` that finds a message does. -/
structure Received (p : SensorPort) (message : Message) (s s' : Board D) : Prop where
  waiting : s.waiting p = message :: s'.waiting p
  others : ∀ q, q ≠ p → s'.waiting q = s.waiting q
  frame : ∃ ports, s' = { s with ports := ports }

theorem Received.measured {message : Message} {s' : Board D} (h : Received p message s s') :
    s'.measured = s.measured := by
  obtain ⟨ports, rfl⟩ := h.frame
  rfl

theorem received_of_receive {message : Message} {s' : Board D}
    (h : s.receive p = some (message, s')) : Received p message s s' := by
  unfold Board.receive at h
  obtain ⟨first, hfirst, heq⟩ := Option.map_eq_some_iff.mp h
  obtain ⟨rest, hwaiting⟩ := List.head?_eq_some_iff.mp hfirst
  cases heq
  refine ⟨?_, fun q hq => waiting_receive_other ports_sound s.ports hq _, _, rfl⟩
  have htail := waiting_receive_self s.ports p (Vector.replicate _ 0)
  rw [hwaiting, List.tail_cons] at htail
  exact hwaiting.trans (congrArg _ htail.symm)

theorem receive_eq_none : s.receive p = none ↔ s.waiting p = [] := by
  unfold Board.receive Board.waiting
  rw [Option.map_eq_none_iff, List.head?_eq_none_iff]

/-- The queue of a port has room. -/
def Board.Room (s : Board D) (p : SensorPort) : Prop := (s.waiting p).length < 10

instance (s : Board D) (p : SensorPort) : Decidable (s.Room p) :=
  inferInstanceAs (Decidable (_ < _))

theorem send_waiting (data : Message) : (s.send p data).waiting q =
    if q = p ∧ s.Room p then s.waiting q ++ [data] else s.waiting q := by
  by_cases hq : q = p
  · subst hq
    have hself := waiting_send_self ports_sound s.ports q data fun _ => 0
    simp only [true_and]
    exact hself
  · rw [if_neg fun h => hq h.1]
    exact waiting_send_other ports_sound s.ports hq data fun _ => 0

/-! ## What a path gains and loses -/

variable {R : Type} {BROADCAST_IP : UInt32} {socket : CUdpSocket} {dataLog : List UInt8}

/-- `TransmitAsynchronous` has its packet taken: the socket can be set non-blocking, and
`zsock_sendto` does not refuse. -/
def NetInput.takes (a : NetInput) : Prop := (a.fcntl 0).ok = true ∧ 0 ≤ a.sendto 0

instance (a : NetInput) : Decidable a.takes := inferInstanceAs (Decidable (_ ∧ _))

/-- A turn at which a path loses a message: a `Send` to a full queue, a packet that the socket does
not take, or a record that `fs_write` does not store whole. -/
def Drops (p : SensorPort) (w : Module D) : (Σ t, Input R t) → Prop
  | ⟨.sensing, _⟩ => (w.locals .sensing).sends p = true ∧ ¬ w.shared.Room p
  | ⟨.networking, a⟩ => held (w.locals .networking) .receive p ≠ [] ∧ ¬ a.takes
  | ⟨.dataLog, a⟩ =>
    ∃ message ∈ held .receive (w.locals .dataLog) p, a.stored message.toList ≠ message.toList
  | ⟨.timers, _⟩ => False

/-- A turn that moves messages on; a message that is measured joins the path at its start. -/
def Moves (p : SensorPort) (w w' : Module D) : Prop :=
  ∃ new, flow p w' = flow p w ++ new ∧ w'.shared.measured = w.shared.measured ++ new

/-- A turn that takes a message out of the path. -/
def Loses (p : SensorPort) (w w' : Module D) : Prop :=
  ∃ before message after, flow p w = before ++ message :: after ∧
    flow p w' = before ++ after ∧ w'.shared.measured = w.shared.measured

theorem Moves.of_eq {w w' : Module D} (h : flow p w' = flow p w)
    (hmeasured : w'.shared.measured = w.shared.measured) : Moves p w w' :=
  ⟨[], by rw [h, List.append_nil], by rw [hmeasured, List.append_nil]⟩

theorem flow_sensing (w : Module D) (y : Board D × Sensing) :
    flow p (w.moved .sensing y) = y.1.passedOn p ++
      held (w.locals .networking) (w.locals .dataLog) p ++ y.1.waiting p ++ y.2.unsent p := rfl

theorem flow_networking (w : Module D) (y : Board D × Networking) :
    flow p (w.moved .networking y) = y.1.passedOn p ++ held y.2 (w.locals .dataLog) p ++
      y.1.waiting p ++ (w.locals .sensing).unsent p := rfl

theorem flow_dataLog (w : Module D) (y : Board D × Logging) :
    flow p (w.moved .dataLog y) = y.1.passedOn p ++ held (w.locals .networking) y.2 p ++
      y.1.waiting p ++ (w.locals .sensing).unsent p := rfl

/-- A `Send` to port `q`, from `l` to `l'`. -/
theorem send_step (w : Module D) (q : SensorPort) (data : Message) {l : Sensing} (l' : Sensing)
    (hl : w.locals .sensing = l) (hown : q = p → l.unsent p = [data] ∧ l'.unsent p = [])
    (hother : q ≠ p → l'.unsent p = l.unsent p) :
    let w' := w.moved .sensing (w.shared.send q data, l')
    ((q = p ∧ ¬ w.shared.Room p) ∧ Loses p w w') ∨
      (¬ (q = p ∧ ¬ w.shared.Room p) ∧ Moves p w w') := by
  intro w'
  have hflow : flow p w' = w.shared.passedOn p ++
      held (w.locals .networking) (w.locals .dataLog) p ++ (w.shared.send q data).waiting p ++
      l'.unsent p := by
    cases p <;> exact flow_sensing w _
  have hstart : flow p w = w.shared.passedOn p ++
      held (w.locals .networking) (w.locals .dataLog) p ++ w.shared.waiting p ++ l.unsent p := by
    rw [← hl]
    rfl
  by_cases hq : q = p
  · subst hq
    obtain ⟨hbefore, hafter⟩ := hown rfl
    rw [hbefore] at hstart
    by_cases hroom : w.shared.Room q
    · refine .inr ⟨fun h => h.2 hroom, .of_eq ?_ rfl⟩
      rw [hflow, hstart, hafter, send_waiting, if_pos ⟨rfl, hroom⟩, List.append_nil,
        List.append_assoc _ _ [data]]
    · refine .inl ⟨⟨rfl, hroom⟩, _, data, [], hstart, ?_, rfl⟩
      rw [hflow, hafter, send_waiting, if_neg fun h => hroom h.2]
  · refine .inr ⟨fun h => hq h.1, .of_eq ?_ rfl⟩
    rw [hflow, hstart, hother hq, send_waiting, if_neg fun h => hq h.1.symm]

/-- A `Receive` from port `q` into what its consumer holds. -/
theorem receive_flow {w w' : Module D} {q : SensorPort} {message : Message}
    (h : Received q message w.shared w'.shared)
    (hsensing : w'.locals .sensing = w.locals .sensing)
    (hown : held (w.locals .networking) (w.locals .dataLog) q = [] ∧
      held (w'.locals .networking) (w'.locals .dataLog) q = [message])
    (hother : p ≠ q → held (w'.locals .networking) (w'.locals .dataLog) p =
      held (w.locals .networking) (w.locals .dataLog) p) : flow p w' = flow p w := by
  have hpassed : w'.shared.passedOn p = w.shared.passedOn p := by
    obtain ⟨ports, hframe⟩ := h.frame
    rw [hframe]
    rfl
  unfold flow
  rw [hsensing, hpassed]
  by_cases hp : p = q
  · subst hp
    rw [hown.1, hown.2, h.waiting, List.append_nil, List.append_assoc _ [message]]
    rfl
  · rw [hother hp, h.others p hp]

/-- The message at the end of a path is passed on, or it is lost. -/
theorem pass_step {w w' : Module D} {passed rest : List Message} {message : Message}
    {taken : Prop} [Decidable taken] (hbefore : flow p w = passed ++ [message] ++ rest)
    (hafter : flow p w' = (if taken then passed ++ [message] else passed) ++ rest)
    (hmeasured : w'.shared.measured = w.shared.measured) :
    (¬ taken ∧ Loses p w w') ∨ (taken ∧ Moves p w w') := by
  by_cases htaken : taken
  · rw [if_pos htaken, ← hbefore] at hafter
    exact .inr ⟨htaken, .of_eq hafter hmeasured⟩
  · rw [if_neg htaken] at hafter
    rw [List.append_assoc] at hbefore
    exact .inl ⟨htaken, passed, message, rest, hbefore, hafter, hmeasured⟩

/-! ## What a move can be -/

theorem transmit_sent (net : Net.Program) (socket : CUdpSocket) (packet : List UInt8)
    (fcntl : Fcntl) (ret : Int) :
    (net.transmitAsynchronous BROADCAST_IP socket packet fcntl ret).1.sent.map Datagram.data =
      net.sent.map Datagram.data ++ if fcntl.ok then [packet] else [] := by
  unfold Net.Program.transmitAsynchronous Net.Program.sendto
  split <;> simp

/-- A packet that is taken has been handed to `zsock_sendto`. -/
theorem transmit_taken_iff (net : Net.Program) (socket : CUdpSocket) (packet : List UInt8)
    (a : NetInput) : ¬ (net.transmitAsynchronous BROADCAST_IP socket packet (a.fcntl 0)
      (a.sendto 0)).2 < 0 ↔ a.takes := by
  unfold Net.Program.transmitAsynchronous NetInput.takes
  by_cases hok : (a.fcntl 0).ok = true
  · rw [if_pos hok, and_iff_right hok]
    exact Int.not_lt
  · rw [if_neg hok]
    exact iff_of_false (fun h => h (by omega)) fun h => hok h.1

theorem transmitAll_sent (socket : CUdpSocket) (packets : List (List UInt8)) :
    ∀ (net : Net.Program) (fcntl : Nat → Fcntl) (sendto : Nat → Int),
      net.sent.map Datagram.data <+:
        (transmitAll BROADCAST_IP socket net fcntl sendto packets).sent.map Datagram.data := by
  induction packets with
  | nil => exact fun _ _ _ => List.prefix_rfl
  | cons packet packets ih =>
    intro net fcntl sendto
    refine List.IsPrefix.trans ?_ (ih _ _ _)
    rw [transmit_sent]
    exact List.prefix_append _ _

/-- A move of the TFTP server: it may send, and touches no message. -/
structure Idles (s : Board D) (n : Networking) (y : Board D × Networking) : Prop where
  frame : ∃ net, y.1 = { s with net := net }
  sent : s.net.sent.map Datagram.data <+: y.1.net.sent.map Datagram.data
  before : n.held = []
  after : y.2.held = []

theorem idles_served (s : Board D) (a : NetInput) (session : TftpSession)
    (packets : List (List UInt8)) {n : Networking} (hn : n.held = []) :
    Idles s n (s.served BROADCAST_IP a session packets) where
  frame := ⟨_, rfl⟩
  sent := transmitAll_sent _ packets s.net a.fcntl a.sendto
  before := hn
  after := by
    unfold Board.served
    simp only
    split <;> rfl

theorem idles_tftpRun (s : Board D) (a : NetInput) :
    Idles s .tftp (s.tftpRun BROADCAST_IP a) := by
  have hstay : Idles s .tftp (s, .receive) := ⟨⟨s.net, rfl⟩, List.prefix_rfl, rfl, rfl⟩
  unfold Board.tftpRun
  split
  · exact hstay
  · exact hstay
  · simp only
    split
    · exact idles_served s a _ _ rfl
    · exact hstay

/-- **What a move of the networking task is**: a `Receive` that finds a message, its transmission,
or one that touches no message. -/
theorem networkingMove_cases (BROADCAST_IP : UInt32) (socket : CUdpSocket) (a : NetInput)
    (s : Board D) (n : Networking) :
    let y := networkingMove BROADCAST_IP socket a s n
    (∃ message, n = .receive ∧ Received .broadcast message s y.1 ∧ y.2 = .transmit message) ∨
      (∃ message net, n = .transmit message ∧
        y = ({ s with
          net := net
          broadcast := if a.takes then s.broadcast ++ [message] else s.broadcast }, .tftp) ∧
        net.sent.map Datagram.data = s.net.sent.map Datagram.data ++
          if (a.fcntl 0).ok then [message.toList] else []) ∨
      Idles s n y := by
  intro y
  cases n with
  | receive =>
    cases hreceive : s.receive .broadcast with
    | none =>
      have hy : y = (s, .tftp) := by simp only [y, networkingMove, hreceive]
      rw [hy]
      exact .inr (.inr ⟨⟨s.net, rfl⟩, List.prefix_rfl, rfl, rfl⟩)
    | some result =>
      have hy : y = (result.2, .transmit result.1) := by simp only [y, networkingMove, hreceive]
      rw [hy]
      exact .inl ⟨result.1, rfl, received_of_receive hreceive, rfl⟩
  | transmit message =>
    have hsent : (s.net.transmitAsynchronous BROADCAST_IP socket message.toList (a.fcntl 0)
        (a.sendto 0)).1.sent.map Datagram.data = s.net.sent.map Datagram.data ++
          if (a.fcntl 0).ok then [message.toList] else [] := transmit_sent ..
    refine .inr (.inl ⟨message, _, rfl, ?_, hsent⟩)
    have htaken : ¬ (s.net.transmitAsynchronous BROADCAST_IP socket message.toList (a.fcntl 0)
        (a.sendto 0)).2 < 0 ↔ a.takes := transmit_taken_iff s.net socket message.toList a
    simp only [y, networkingMove]
    by_cases htakes : a.takes
    · rw [if_neg (htaken.mpr htakes), if_pos htakes]
    · rw [if_pos (Decidable.not_not.mp fun h => htakes (htaken.mp h)), if_neg htakes]
  | tftp => exact .inr (.inr (idles_tftpRun s a))
  | waitForAck session => exact .inr (.inr (idles_served s a _ _ rfl))

/-- **What a move of the data logging task is.** -/
theorem dataLogMove_cases {a : FsAnswers} {g : Logging} {y : Board D × Logging}
    (h : dataLogMove a s g = some y) :
    (∃ message, g = .receive ∧ Received .dataLog message s y.1 ∧ y.2 = .write message) ∨
      ∃ message, g = .write message ∧ y = (s.store a message, .receive) := by
  cases g with
  | receive =>
    obtain ⟨⟨message, s'⟩, hreceive, rfl⟩ := Option.map_eq_some_iff.mp h
    exact .inl ⟨message, rfl, received_of_receive hreceive, rfl⟩
  | write message =>
    cases h
    exact .inr ⟨message, rfl, rfl⟩

/-! ## Where the paths end -/

/-- The queues hold ten messages at most; what was broadcast is among the datagrams; the file holds
what `fs_write` has stored, over what it held before. -/
structure Board.Delivers (dataLog : List UInt8) (s : Board D) : Prop where
  waiting : ∀ p, (s.waiting p).length ≤ 10
  broadcast : (s.broadcast.map Vector.toList).Sublist (s.net.sent.map Datagram.data)
  file : s.dataLogger = Datalogger.grown dataLog s.written

theorem delivers_send (h : s.Delivers dataLog) (p : SensorPort) (data : Message) :
    (s.send p data).Delivers dataLog where
  waiting := fun q => by
    rw [send_waiting]
    split
    · rename_i hroom
      obtain ⟨rfl, hlt⟩ := hroom
      rw [List.length_append]
      exact hlt
    · exact h.waiting q
  broadcast := h.broadcast
  file := h.file

theorem delivers_receive (h : s.Delivers dataLog) {message : Message} {s' : Board D}
    (hr : Received p message s s') : s'.Delivers dataLog := by
  have hwaiting : ∀ q, (s'.waiting q).length ≤ 10 := by
    intro q
    have hle := h.waiting q
    by_cases hq : q = p
    · subst hq
      rw [hr.waiting, List.length_cons] at hle
      exact Nat.le_of_succ_le hle
    · rwa [hr.others q hq]
  obtain ⟨ports, rfl⟩ := hr.frame
  exact ⟨hwaiting, h.broadcast, h.file⟩

theorem delivers_networking (h : s.Delivers dataLog) (a : NetInput) (n : Networking) :
    (networkingMove BROADCAST_IP socket a s n).1.Delivers dataLog := by
  rcases networkingMove_cases BROADCAST_IP socket a s n with ⟨message, -, hr, -⟩ |
    ⟨message, net, -, hy, hsent⟩ | hidle
  · exact delivers_receive h hr
  · rw [hy]
    refine ⟨h.waiting, ?_, h.file⟩
    simp only [hsent]
    split
    · rename_i htakes
      rw [List.map_append, if_pos htakes.1]
      exact h.broadcast.append (List.Sublist.refl _)
    · exact h.broadcast.trans (List.sublist_append_left _ _)
  · obtain ⟨net, hframe⟩ := hidle.frame
    have hsent := hidle.sent
    rw [hframe] at hsent ⊢
    exact ⟨h.waiting, h.broadcast.trans hsent.sublist, h.file⟩

theorem delivers_dataLog (h : s.Delivers dataLog) {a : FsAnswers} {g : Logging}
    {y : Board D × Logging} (hy : dataLogMove a s g = some y) : y.1.Delivers dataLog := by
  rcases dataLogMove_cases hy with ⟨message, -, hr, -⟩ | ⟨message, -, rfl⟩
  · exact delivers_receive h hr
  · refine ⟨h.waiting, h.broadcast, ?_⟩
    show (s.dataLogger.write message.toList a).1 = _
    rw [h.file, write_grown]
    rfl

/-! ## What the tasks leave alone -/

/-- **What a move of the networking task can do to the board.** -/
structure NetMoved (s s' : Board D) : Prop where
  handler : s'.handler = s.handler
  measured : s'.measured = s.measured
  dataLogger : s'.dataLogger = s.dataLogger
  logged : s'.logged = s.logged
  written : s'.written = s.written
  waiting : s'.waiting .dataLog = s.waiting .dataLog

/-- **What a move of the data logging task can do to the board.** -/
structure LogMoved (s s' : Board D) : Prop where
  handler : s'.handler = s.handler
  measured : s'.measured = s.measured
  net : s'.net = s.net
  broadcast : s'.broadcast = s.broadcast
  waiting : s'.waiting .broadcast = s.waiting .broadcast

/-- **What a move of the sensing task can do to the board.** -/
structure SensingMoved (s s' : Board D) : Prop where
  net : s'.net = s.net
  broadcast : s'.broadcast = s.broadcast
  dataLogger : s'.dataLogger = s.dataLogger
  logged : s'.logged = s.logged
  written : s'.written = s.written

theorem netMoved (BROADCAST_IP : UInt32) (socket : CUdpSocket) (a : NetInput) (s : Board D)
    (n : Networking) : NetMoved s (networkingMove BROADCAST_IP socket a s n).1 := by
  rcases networkingMove_cases BROADCAST_IP socket a s n with ⟨message, -, hr, -⟩ |
    ⟨message, net, -, hy, -⟩ | hidle
  · obtain ⟨ports, hframe⟩ := hr.frame
    have hwaiting := hr.others .dataLog (by decide)
    rw [hframe] at hwaiting ⊢
    exact ⟨rfl, rfl, rfl, rfl, rfl, hwaiting⟩
  · rw [hy]
    exact ⟨rfl, rfl, rfl, rfl, rfl, rfl⟩
  · obtain ⟨net, hframe⟩ := hidle.frame
    rw [hframe]
    exact ⟨rfl, rfl, rfl, rfl, rfl, rfl⟩

theorem logMoved {a : FsAnswers} {s : Board D} {g : Logging} {y : Board D × Logging}
    (h : dataLogMove a s g = some y) : LogMoved s y.1 := by
  rcases dataLogMove_cases h with ⟨message, -, hr, -⟩ | ⟨message, -, rfl⟩
  · obtain ⟨ports, hframe⟩ := hr.frame
    have hwaiting := hr.others .broadcast (by decide)
    rw [hframe] at hwaiting ⊢
    exact ⟨rfl, rfl, rfl, rfl, hwaiting⟩
  · exact ⟨rfl, rfl, rfl, rfl, rfl⟩

variable [CDouble D] [CFloat R D] {floatBytes : R → Vector UInt8 sizeofFloat}

theorem sensingMoved (floatBytes : R → Vector UInt8 sizeofFloat) (a : Sample R) (s : Board D)
    (l : Sensing) : SensingMoved s (sensingMove floatBytes a s l).1 := by
  unfold sensingMove
  split
  · split <;> exact ⟨rfl, rfl, rfl, rfl, rfl⟩
  · exact ⟨rfl, rfl, rfl, rfl, rfl⟩
  · exact ⟨rfl, rfl, rfl, rfl, rfl⟩
  · exact ⟨rfl, rfl, rfl, rfl, rfl⟩

/-! ## Turns -/

theorem sensing_step (p : SensorPort) (w : Module D) (a : Sample R) :
    let w' := (sensorTasks floatBytes BROADCAST_IP socket).step w ⟨.sensing, a⟩
    (Drops p w ⟨.sensing, a⟩ ∧ Loses p w w') ∨ (¬ Drops p w ⟨.sensing, a⟩ ∧ Moves p w w') := by
  intro w'
  have hw' : w' = w.moved .sensing (sensingMove floatBytes a w.shared (w.locals .sensing)) := rfl
  have hdrop : Drops p w ⟨.sensing, a⟩ ↔ (w.locals .sensing).sends p = true ∧ ¬ w.shared.Room p :=
    Iff.rfl
  rw [hdrop, hw']
  cases hl : w.locals .sensing with
  | run =>
    refine .inr ⟨fun h => Bool.false_ne_true h.1, ?_⟩
    unfold sensingMove
    simp only
    split
    · exact .of_eq (by rw [flow_sensing, flow, hl]) rfl
    · exact .of_eq (by rw [flow_sensing, flow, hl]; rfl) rfl
  | collect =>
    refine .inr ⟨fun h => Bool.false_ne_true h.1, [a.data.image floatBytes], ?_, rfl⟩
    rw [flow_sensing, flow, hl]
    cases p <;> exact (congrArg (· ++ _) (List.append_nil _)).symm
  | sendBroadcast data =>
    have h := send_step (p := p) w .broadcast data (.sendLog data) hl
      (fun hp => by subst hp; exact ⟨rfl, rfl⟩) (fun hp => by cases p <;> trivial)
    cases p with
    | broadcast => simpa [Sensing.sends, sensingMove] using h
    | dataLog => simpa [Sensing.sends, sensingMove] using h
  | sendLog data =>
    have h := send_step (p := p) w .dataLog data .run hl
      (fun hp => by subst hp; exact ⟨rfl, rfl⟩) (fun hp => by cases p <;> trivial)
    cases p with
    | broadcast => simpa [Sensing.sends, sensingMove] using h
    | dataLog => simpa [Sensing.sends, sensingMove] using h

theorem networking_step (p : SensorPort) (w : Module D) (a : NetInput) :
    let w' := (sensorTasks floatBytes BROADCAST_IP socket).step w ⟨.networking, a⟩
    (Drops (R := R) p w ⟨.networking, a⟩ ∧ Loses p w w') ∨
      (¬ Drops (R := R) p w ⟨.networking, a⟩ ∧ Moves p w w') := by
  intro w'
  have hw' : w' = w.moved .networking
    (networkingMove BROADCAST_IP socket a w.shared (w.locals .networking)) := rfl
  have hdrop : Drops (R := R) p w ⟨.networking, a⟩ ↔
      held (w.locals .networking) .receive p ≠ [] ∧ ¬ a.takes := Iff.rfl
  rw [hdrop, hw']
  rcases networkingMove_cases BROADCAST_IP socket a w.shared (w.locals .networking) with
    ⟨message, hn, hr, hy⟩ | ⟨message, net, hn, hy, -⟩ | hidle
  · refine .inr ⟨fun h => h.1 (by rw [hn]; cases p <;> rfl), .of_eq ?_ hr.measured⟩
    refine receive_flow hr rfl ⟨by rw [hn]; rfl, ?_⟩ fun hp => ?_
    · exact congrArg Networking.held hy
    · cases p with
      | broadcast => exact absurd rfl hp
      | dataLog => rfl
  · rw [hy, hn]
    cases p with
    | dataLog =>
      refine .inr ⟨fun h => h.1 rfl, .of_eq ?_ rfl⟩
      rw [flow_networking]
      rfl
    | broadcast =>
      have hbefore : flow .broadcast w = w.shared.broadcast ++ [message] ++
          (w.shared.waiting .broadcast ++ (w.locals .sensing).unsent .broadcast) := by
        rw [flow, hn, List.append_assoc]
        rfl
      have hafter : flow .broadcast (w.moved .networking ({ w.shared with
          net := net
          broadcast := if a.takes then w.shared.broadcast ++ [message]
            else w.shared.broadcast }, .tftp)) =
          (if a.takes then w.shared.broadcast ++ [message] else w.shared.broadcast) ++
            (w.shared.waiting .broadcast ++ (w.locals .sensing).unsent .broadcast) := by
        rw [flow_networking, List.append_assoc]
        exact congrArg (· ++ _) (List.append_nil _)
      rcases pass_step hbefore hafter rfl with ⟨hnot, hloses⟩ | ⟨htakes, hmoves⟩
      · exact .inl ⟨⟨List.cons_ne_nil _ _, hnot⟩, hloses⟩
      · exact .inr ⟨fun h => h.2 htakes, hmoves⟩
  · obtain ⟨net, hframe⟩ := hidle.frame
    have hheld : ∀ g, held (networkingMove BROADCAST_IP socket a w.shared
        (w.locals .networking)).2 g p = held (w.locals .networking) g p := by
      intro g
      cases p with
      | broadcast => exact hidle.after.trans hidle.before.symm
      | dataLog => rfl
    refine .inr ⟨fun h => h.1 ?_, .of_eq ?_ ?_⟩
    · cases p with
      | broadcast => exact hidle.before
      | dataLog => rfl
    · rw [flow_networking, hheld, hframe]
      rfl
    · rw [moved_shared, hframe]

theorem dataLog_step (p : SensorPort) (w : Module D) (a : FsAnswers) :
    let w' := (sensorTasks floatBytes BROADCAST_IP socket).step w ⟨.dataLog, a⟩
    (Drops (R := R) p w ⟨.dataLog, a⟩ ∧ Loses p w w') ∨
      (¬ Drops (R := R) p w ⟨.dataLog, a⟩ ∧ Moves p w w') := by
  intro w'
  have hdrop : Drops (R := R) p w ⟨.dataLog, a⟩ ↔ ∃ message ∈ held .receive (w.locals .dataLog) p,
      a.stored message.toList ≠ message.toList := Iff.rfl
  rw [hdrop]
  cases hmove : dataLogMove a w.shared (w.locals .dataLog) with
  | none =>
    have hw' : w' = w := by simp only [w', Threads.Program.step, sensorTasks, hmove]
    rw [hw']
    refine .inr ⟨?_, .of_eq rfl rfl⟩
    cases hg : w.locals .dataLog with
    | receive =>
      rintro ⟨message, hmem, -⟩
      cases p <;> exact List.not_mem_nil hmem
    | write message =>
      rw [hg] at hmove
      cases hmove
  | some y =>
    have hw' : w' = w.moved .dataLog y := by
      simp only [w', Threads.Program.step, sensorTasks, hmove]
    rw [hw']
    rcases dataLogMove_cases hmove with ⟨message, hg, hr, hy⟩ | ⟨message, hg, rfl⟩
    · rw [hg]
      refine .inr ⟨?_, .of_eq ?_ hr.measured⟩
      · rintro ⟨message, hmem, -⟩
        cases p <;> exact List.not_mem_nil hmem
      · refine receive_flow hr rfl ⟨by rw [hg]; rfl, ?_⟩ fun hp => ?_
        · exact congrArg Logging.held hy
        · cases p with
          | broadcast => rfl
          | dataLog => exact absurd rfl hp
    · rw [hg]
      cases p with
      | broadcast =>
        refine .inr ⟨fun ⟨message, hmem, _⟩ => List.not_mem_nil hmem, .of_eq ?_ rfl⟩
        rw [flow_dataLog]
        rfl
      | dataLog =>
        have hbefore : flow .dataLog w = w.shared.logged ++ [message] ++
            (w.shared.waiting .dataLog ++ (w.locals .sensing).unsent .dataLog) := by
          rw [flow, hg, List.append_assoc]
          rfl
        have hafter : flow .dataLog (w.moved .dataLog (w.shared.store a message, .receive)) =
            (if a.stored message.toList = message.toList then w.shared.logged ++ [message]
              else w.shared.logged) ++
              (w.shared.waiting .dataLog ++ (w.locals .sensing).unsent .dataLog) := by
          rw [flow_dataLog, List.append_assoc]
          exact congrArg (· ++ _) (List.append_nil _)
        rcases pass_step hbefore hafter rfl with ⟨hnot, hloses⟩ | ⟨hstored, hmoves⟩
        · exact .inl ⟨⟨message, List.mem_singleton_self _, hnot⟩, hloses⟩
        · refine .inr ⟨?_, hmoves⟩
          rintro ⟨other, hmem, hother⟩
          rw [List.mem_singleton.mp hmem] at hother
          exact hother hstored

/-- **What a turn does to a path.** -/
theorem flow_step (p : SensorPort) (w : Module D) (x : Σ t, Input R t) :
    let w' := (sensorTasks floatBytes BROADCAST_IP socket).step w x
    (Drops p w x ∧ Loses p w w') ∨ (¬ Drops p w x ∧ Moves p w w') := by
  obtain ⟨t, a⟩ := x
  cases t with
  | sensing => exact sensing_step p w a
  | networking => exact networking_step p w a
  | dataLog => exact dataLog_step p w a
  | timers => exact .inr ⟨fun h => h.elim, .of_eq rfl rfl⟩

/-! ## Runs -/

theorem delivers_run (dataLog : List UInt8) (turns : List (Σ t, Input R t)) :
    (sensorRun (D := D) floatBytes BROADCAST_IP socket dataLog turns).shared.Delivers dataLog := by
  refine world_induction (P := fun w : Module D => w.shared.Delivers dataLog) ?_ ?_ turns
  · exact ⟨fun p => Nat.zero_le _, List.Sublist.refl _, rfl⟩
  · intro w t a y h hy
    rw [moved_shared]
    cases t with
    | sensing =>
      cases hy
      unfold sensingMove
      split
      · split <;> exact h
      · exact ⟨h.waiting, h.broadcast, h.file⟩
      · exact delivers_send h _ _
      · exact delivers_send h _ _
    | networking =>
      cases hy
      exact delivers_networking h a _
    | dataLog => exact delivers_dataLog h hy
    | timers =>
      cases hy
      exact ⟨h.waiting, h.broadcast, h.file⟩

/-- What is on a path is, in order, part of what was measured. -/
def Flows (p : SensorPort) (w : Module D) : Prop := (flow p w).Sublist w.shared.measured

theorem flows_step (p : SensorPort) (w : Module D) (x : Σ t, Input R t) (h : Flows p w) :
    Flows p ((sensorTasks floatBytes BROADCAST_IP socket).step w x) := by
  unfold Flows at h ⊢
  rcases flow_step p w x with ⟨-, before, message, after, hbefore, hafter, hmeasured⟩ |
    ⟨-, new, hflow, hmeasured⟩
  · rw [hafter, hmeasured]
    rw [hbefore] at h
    exact ((List.sublist_cons_self message after).append_left before).trans h
  · rw [hflow, hmeasured]
    exact h.append (List.Sublist.refl new)

omit [CFloat R D] in
theorem flows_start (p : SensorPort) (dataLog : List UInt8) :
    Flows p (sensorStart (D := D) dataLog) := by
  cases p <;> exact List.nil_sublist _

theorem flows_run (p : SensorPort) (dataLog : List UInt8) (turns : List (Σ t, Input R t)) :
    Flows p (sensorRun (D := D) floatBytes BROADCAST_IP socket dataLog turns) :=
  run_preserves (P := Flows p) (flows_step p) turns (flows_start p dataLog)

/-- A turn keeps a path complete iff it drops nothing. -/
theorem complete_step_iff (p : SensorPort) (w : Module D) (x : Σ t, Input R t) (h : Flows p w) :
    flow p ((sensorTasks floatBytes BROADCAST_IP socket).step w x) =
        ((sensorTasks floatBytes BROADCAST_IP socket).step w x).shared.measured ↔
      flow p w = w.shared.measured ∧ ¬ Drops p w x := by
  rcases flow_step p w x with ⟨hdrop, before, message, after, hbefore, hafter, hmeasured⟩ |
    ⟨hdrop, new, hflow, hmeasured⟩
  · -- the path is too short now for all that was measured
    refine iff_of_false (fun heq => ?_) fun hall => hall.2 hdrop
    have hle := h.length_le
    have hlen := congrArg List.length heq
    rw [hbefore] at hle
    rw [hafter, hmeasured] at hlen
    simp only [List.length_append, List.length_cons] at hle hlen
    omega
  · rw [hflow, hmeasured, List.append_left_inj, and_iff_left hdrop]

/-! ## The file -/

/-- `fs_write` stores the module's records whole, or not at all. -/
def StoresRecords (turns : List (Σ t, Input R t)) : Prop :=
  ∀ a : FsAnswers, ⟨.dataLog, a⟩ ∈ turns → a.AllOrNothing sizeofSensorData

/-- The file holds the messages logged, one behind the other. -/
def Board.Whole (s : Board D) : Prop := s.written = bytesOf s.logged

omit [CDouble D] in
theorem whole_store {a : FsAnswers} (ha : a.AllOrNothing sizeofSensorData) {s : Board D}
    (h : s.Whole) (message : Message) : (s.store a message).Whole := by
  have hne : message.toList ≠ [] := by
    intro hnil
    have hlength := message.length_toList
    rw [hnil] at hlength
    exact absurd hlength (by decide)
  have hall : a.AllOrNothing message.toList.length := by
    rw [message.length_toList]
    exact ha
  unfold Board.Whole Board.store
  simp only
  rcases hall.stored with hstored | hstored
  · rw [hstored, if_neg hne.symm, List.append_nil, h]
  · rw [hstored, if_pos rfl, bytesOf_concat, h]

theorem whole_step (w : Module D) (x : Σ t, Input R t) (h : w.shared.Whole)
    (hx : ∀ a : FsAnswers, x = ⟨.dataLog, a⟩ → a.AllOrNothing sizeofSensorData) :
    ((sensorTasks floatBytes BROADCAST_IP socket).step w x).shared.Whole := by
  have hframe : ∀ s : Board D, s.written = w.shared.written → s.logged = w.shared.logged →
      s.Whole := by
    intro s hwritten hlogged
    unfold Board.Whole
    rw [hwritten, hlogged]
    exact h
  rcases step_cases (p := sensorTasks floatBytes BROADCAST_IP socket) w x with heq | ⟨y, hy, heq⟩
  · rwa [heq]
  rw [heq, moved_shared]
  obtain ⟨t, a⟩ := x
  cases t with
  | sensing =>
    cases hy
    have hmoved := sensingMoved floatBytes a w.shared (w.locals .sensing)
    exact hframe _ hmoved.written hmoved.logged
  | networking =>
    cases hy
    have hmoved := netMoved BROADCAST_IP socket a w.shared (w.locals .networking)
    exact hframe _ hmoved.written hmoved.logged
  | dataLog =>
    rcases dataLogMove_cases hy with ⟨message, -, hr, -⟩ | ⟨message, -, rfl⟩
    · obtain ⟨ports, hframe⟩ := hr.frame
      rw [hframe]
      exact h
    · exact whole_store (hx a rfl) h message
  | timers =>
    cases hy
    exact h

/-- **No message stored in part**: then the file is what was logged, over what it held before. -/
theorem whole_run (dataLog : List UInt8) (turns : List (Σ t, Input R t))
    (h : StoresRecords turns) :
    (sensorRun (D := D) floatBytes BROADCAST_IP socket dataLog turns).shared.Whole := by
  have hstart : (sensorStart (D := D) dataLog).shared.Whole := rfl
  refine run_prefix (motive := fun _ (w : Module D) => w.shared.Whole) hstart
    (fun pre x hpre hw => whole_step _ x hw ?_) List.prefix_rfl
  rintro a rfl
  exact h a (hpre.subset (List.mem_append_right pre (List.mem_singleton_self _)))

/-! ## The telemetry of a run -/

/-- **Telemetry in order.** In any interleaving, what was broadcast, or logged, and what is on the
way are, in order and without repetition, part of what was measured, with ten messages waiting at
most. What was broadcast is among the datagrams. The file is what `fs_write` has stored, written
over what the file held before: the messages logged, if none is stored in part. -/
theorem telemetry_in_order (dataLog : List UInt8) (turns : List (Σ t, Input R t)) :
    let w := sensorRun (D := D) floatBytes BROADCAST_IP socket dataLog turns
    (∀ p, (flow p w).Sublist w.shared.measured ∧ (w.shared.waiting p).length ≤ 10) ∧
      (w.shared.broadcast.map Vector.toList).Sublist (w.shared.net.sent.map Datagram.data) ∧
      w.shared.dataLogger.file.content =
        w.shared.written ++ dataLog.drop w.shared.written.length ∧
      (StoresRecords turns → w.shared.written = bytesOf w.shared.logged) := by
  intro w
  have h : w.shared.Delivers dataLog := delivers_run dataLog turns
  refine ⟨fun p => ⟨flows_run p dataLog turns, h.waiting p⟩, h.broadcast, ?_,
    whole_run dataLog turns⟩
  rw [h.file]
  rfl

/-- **A path is complete iff no turn has dropped a message**: no `Send` found its queue full, no
packet was refused, and no record stored in part. -/
theorem telemetry_lossless_iff (p : SensorPort) (dataLog : List UInt8)
    (turns : List (Σ t, Input R t)) :
    let after := sensorRun (D := D) floatBytes BROADCAST_IP socket dataLog
    flow p (after turns) = (after turns).shared.measured ↔
      ∀ pre x, pre ++ [x] <+: turns → ¬ Drops p (after pre) x :=
  run_iff (I := Flows p) (G := fun w : Module D => flow p w = w.shared.measured)
    (flows_step p) (complete_step_iff p) (flows_start p dataLog) (by cases p <;> rfl) turns

end Worlds

end Backplane.SensorModule
