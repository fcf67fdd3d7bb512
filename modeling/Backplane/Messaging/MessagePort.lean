import Mathlib.Logic.Function.Basic
import Backplane.General.Run
import Backplane.Radio.Types

/-!
# Message ports

Model of `CMsgqMessagePort<T>` (`include/f_core/messaging/c_msgq_message_port.h`) over the `k_msgq`
each module file binds it to. A queue copies the bytes it was defined with, `msg_size` of them: on
`Send` from the message and the memory behind it, on `Receive` over the caller's variable, whose
other bytes stay. A message is the memory image of a `T`, `sizeof` bytes. An operation that waits
is the operation at the moment it gets through.

Next to the queues the state keeps what was sent to each port and not cleared, and what each port
received. Every entry of a queue bears the port it was sent to.

Results:
* `conserves_step`: with queues of their own and large enough, a port's messages are those it
  received and those that wait, in order.
* `faithful_iff`: the wirings under which every port delivers what was sent to it.
* `receiver_loses_last_byte`: the wiring of the receiver build.
-/

namespace Backplane.Messaging

open Backplane.Run
open Backplane.Utils
open Backplane.Radio

/-- How a module file wires ports `P` to queues `Q`: `sizeof(T)` of each port and its queue, and
the `K_MSGQ_DEFINE` of each queue. -/
structure Wiring (P Q : Type) where
  sizeof : P → Nat
  queue : P → Q
  msg_size : Q → Nat
  max_msgs : Q → Nat
  max_pos : ∀ q, 0 < max_msgs q

variable {P Q : Type} [DecidableEq P] [DecidableEq Q]

/-- A message of a port. -/
abbrev Wiring.Message (w : Wiring P Q) (p : P) : Type := Vector UInt8 (w.sizeof p)

/-- What a queue holds of a message, and the port the message was sent to. -/
abbrev Wiring.Entry (w : Wiring P Q) (q : Q) : Type := P × Vector UInt8 (w.msg_size q)

/-- The bytes `k_msgq_put` copies from a message and the memory behind it. -/
def copyIn {n : Nat} (size : Nat) (message : Vector UInt8 n) (beyond : Nat → UInt8) :
    Vector UInt8 size :=
  Vector.ofFn fun k => if h : k.val < n then message[k.val] else beyond (k.val - n)

/-- The variable after `k_msgq_get` has copied an entry over it. -/
def copyOut {n size : Nat} (entry : Vector UInt8 size) (old : Vector UInt8 n) : Vector UInt8 n :=
  Vector.ofFn fun k => if h : k.val < size then entry[k.val] else old[k.val]

/-- The queues of a module, and what went through its ports. -/
structure Ports (w : Wiring P Q) where
  queues : (q : Q) → List (w.Entry q)
  sent : (p : P) → List (w.Message p)
  received : (p : P) → List (w.Message p)

/-- Empty queues. -/
def Ports.init (w : Wiring P Q) : Ports w :=
  { queues := fun _ => [], sent := fun _ => [], received := fun _ => [] }

/-- An operation on a port: what is sent and the memory behind it, or the variable that is received
into. -/
inductive PortOp (w : Wiring P Q)
  | send (p : P) (message : w.Message p) (beyond : Nat → UInt8)
  | receive (p : P) (old : w.Message p)
  | clear (p : P)

variable {w : Wiring P Q}

/-- `Send`: nothing is sent while the queue is full. -/
def Ports.send (s : Ports w) (p : P) (message : w.Message p) (beyond : Nat → UInt8) : Ports w :=
  let q := w.queue p
  if (s.queues q).length < w.max_msgs q then
    { s with
      queues := Function.update s.queues q
        (s.queues q ++ [(p, copyIn (w.msg_size q) message beyond)])
      sent := Function.update s.sent p (s.sent p ++ [message]) }
  else s

/-- `Receive`: nothing is received while the queue is empty. -/
def Ports.receive (s : Ports w) (p : P) (old : w.Message p) : Ports w :=
  let q := w.queue p
  match s.queues q with
  | [] => s
  | entry :: rest =>
    { s with
      queues := Function.update s.queues q rest
      received := Function.update s.received p (s.received p ++ [copyOut entry.2 old]) }

/-- `Clear`: the messages that wait, the last ones sent, count as cleared. -/
def Ports.clear (s : Ports w) (p : P) : Ports w :=
  let q := w.queue p
  { s with
    queues := Function.update s.queues q []
    sent := fun p' => (s.sent p').take
      ((s.sent p').length - ((s.queues q).filter fun entry => entry.1 = p').length) }

/-- One operation. -/
def Ports.step (s : Ports w) : PortOp w → Ports w
  | .send p message beyond => s.send p message beyond
  | .receive p old => s.receive p old
  | .clear p => s.clear p

/-- Whatever the operations, every port receives what was sent to it, in order. -/
def Faithful (w : Wiring P Q) : Prop :=
  ∀ (ops : List (PortOp w)) (p : P),
    (run Ports.step (Ports.init w) ops).received p <+: (run Ports.step (Ports.init w) ops).sent p

/-- Every port has a queue to itself, and the queue takes whole messages. -/
structure Sound (w : Wiring P Q) : Prop where
  exclusive : Function.Injective w.queue
  whole : ∀ p, w.sizeof p ≤ w.msg_size (w.queue p)

omit [DecidableEq P] [DecidableEq Q] in
/-- A queue that takes whole messages gives them back. -/
theorem copyOut_copyIn {n size : Nat} (h : n ≤ size) (message old : Vector UInt8 n)
    (beyond : Nat → UInt8) : copyOut (copyIn size message beyond) old = message := by
  apply Vector.ext
  intro k hk
  have hsize : k < size := Nat.lt_of_lt_of_le hk h
  simp [copyOut, copyIn, hsize]

omit [DecidableEq P] [DecidableEq Q] in
/-- The bytes a queue does not take stay those of the variable. -/
theorem copyOut_behind {n size : Nat} (entry : Vector UInt8 size) (old : Vector UInt8 n) {k : Nat}
    (hk : k < n) (h : size ≤ k) : (copyOut entry old)[k] = old[k] := by
  simp [copyOut, Nat.not_lt.mpr h]

/-! ## Sound wirings -/

/-- The messages that wait for a port. -/
def Ports.waiting (s : Ports w) (p : P) : List (w.Message p) :=
  (s.queues (w.queue p)).map fun entry => copyOut entry.2 (Vector.replicate _ 0)

/-- The law of the ports: what was sent was received or waits. -/
structure Ports.Conserves (s : Ports w) : Prop where
  sent : ∀ p, s.sent p = s.received p ++ s.waiting p
  own : ∀ p, ∀ entry ∈ s.queues (w.queue p), entry.1 = p

omit [DecidableEq P] [DecidableEq Q] in
theorem conserves_init (w : Wiring P Q) : (Ports.init w).Conserves where
  sent := fun _ => rfl
  own := fun _ _ h => absurd h List.not_mem_nil

variable {s : Ports w}

omit [DecidableEq P] [DecidableEq Q] in
theorem queue_ne (hw : Sound w) {p p' : P} (hp : p' ≠ p) : w.queue p' ≠ w.queue p :=
  fun heq => hp (hw.exclusive heq)

/-- A queue that is written to with entries of its port leaves every queue with its own. -/
theorem own_update (hw : Sound w) (h : s.Conserves) {p : P} {entries : List (w.Entry (w.queue p))}
    (hown : ∀ entry ∈ entries, entry.1 = p) (p' : P) :
    ∀ entry ∈ Function.update s.queues (w.queue p) entries (w.queue p'), entry.1 = p' := by
  by_cases hp : p' = p
  · subst hp
    rwa [Function.update_self]
  · rw [Function.update_of_ne (queue_ne hw hp)]
    exact h.own p'

theorem conserves_send (hw : Sound w) (h : s.Conserves) (p : P) (message : w.Message p)
    (beyond : Nat → UInt8) : (s.send p message beyond).Conserves := by
  unfold Ports.send
  simp only
  split
  · constructor
    · intro p'
      unfold Ports.waiting
      by_cases hp : p' = p
      · subst hp
        have hcopy := copyOut_copyIn (hw.whole p') message (Vector.replicate _ 0) beyond
        simp only [Function.update_self, List.map_append, List.map_singleton, hcopy]
        rw [h.sent p', List.append_assoc]
        rfl
      · simp only [Function.update_of_ne hp, Function.update_of_ne (queue_ne hw hp)]
        exact h.sent p'
    · refine own_update hw h fun entry hentry => ?_
      rcases List.mem_append.mp hentry with hold | hnew
      · exact h.own p entry hold
      · rw [List.mem_singleton.mp hnew]
  · exact h

theorem conserves_receive (hw : Sound w) (h : s.Conserves) (p : P) (old : w.Message p) :
    (s.receive p old).Conserves := by
  unfold Ports.receive
  simp only
  split
  · exact h
  · rename_i entry rest hqueue
    -- the queue takes whole messages, so nothing of the variable shows
    have hcopy : copyOut entry.2 old = copyOut entry.2 (Vector.replicate _ 0) := by
      apply Vector.ext
      intro k hk
      have hsize : k < w.msg_size (w.queue p) := Nat.lt_of_lt_of_le hk (hw.whole p)
      simp [copyOut, hsize]
    constructor
    · intro p'
      unfold Ports.waiting
      by_cases hp : p' = p
      · subst hp
        simp only [Function.update_self]
        rw [h.sent p', Ports.waiting, hqueue, List.map_cons, hcopy, List.append_assoc]
        rfl
      · simp only [Function.update_of_ne hp, Function.update_of_ne (queue_ne hw hp)]
        exact h.sent p'
    · refine own_update hw h fun entry' hentry => h.own p entry' ?_
      rw [hqueue]
      exact List.mem_cons_of_mem _ hentry

theorem conserves_clear (hw : Sound w) (h : s.Conserves) (p : P) : (s.clear p).Conserves := by
  constructor
  · intro p'
    unfold Ports.clear Ports.waiting
    by_cases hp : p' = p
    · subst hp
      have hall : (s.queues (w.queue p')).filter (fun entry => entry.1 = p') =
          s.queues (w.queue p') :=
        List.filter_eq_self.mpr fun entry hentry => decide_eq_true (h.own p' entry hentry)
      have hlen : (s.waiting p').length = (s.queues (w.queue p')).length := List.length_map _
      simp only [Function.update_self, hall, List.map_nil, List.append_nil]
      rw [h.sent p', List.length_append, hlen, Nat.add_sub_cancel, List.take_left']
      rfl
    · have hnone : (s.queues (w.queue p)).filter (fun entry => entry.1 = p') = [] := by
        refine List.filter_eq_nil_iff.mpr fun entry hentry => ?_
        rw [h.own p entry hentry, decide_eq_true_eq]
        exact fun heq => hp heq.symm
      simp only [Function.update_of_ne (queue_ne hw hp), hnone, List.length_nil, Nat.sub_zero,
        List.take_length]
      exact h.sent p'
  · exact own_update hw h fun _ hentry => absurd hentry List.not_mem_nil

/-- **The law of the ports**, over every operation of a sound wiring. -/
theorem conserves_step (hw : Sound w) (s : Ports w) (op : PortOp w) (h : s.Conserves) :
    (s.step op).Conserves := by
  cases op with
  | send p message beyond => exact conserves_send hw h p message beyond
  | receive p old => exact conserves_receive hw h p old
  | clear p => exact conserves_clear hw h p

theorem faithful_of_sound (hw : Sound w) : Faithful w := by
  intro ops p
  have h := run_preserves (P := Ports.Conserves) (conserves_step hw) ops (conserves_init w)
  rw [h.sent p]
  exact List.prefix_append _ _

/-! ## Unsound wirings -/

/-- The ports once a message was sent to `p`, and nothing else. -/
def sentOne (w : Wiring P Q) (p : P) (message : w.Message p) : Ports w :=
  (Ports.init w).send p message fun _ => 0

theorem sentOne_queues (w : Wiring P Q) (p : P) (message : w.Message p) :
    (sentOne w p message).queues (w.queue p) =
      [(p, copyIn (w.msg_size (w.queue p)) message fun _ => 0)] := by
  have hroom : ((Ports.init w).queues (w.queue p)).length < w.max_msgs (w.queue p) := w.max_pos _
  unfold sentOne Ports.send
  simp only
  rw [if_pos hroom]
  exact Function.update_self _ _ _

theorem sentOne_sent (w : Wiring P Q) (p p' : P) (message : w.Message p) :
    (sentOne w p message).sent p' = Function.update (fun _ => []) p [message] p' := by
  have hroom : ((Ports.init w).queues (w.queue p)).length < w.max_msgs (w.queue p) := w.max_pos _
  unfold sentOne Ports.send
  simp only
  rw [if_pos hroom]
  rfl

theorem sentOne_received (w : Wiring P Q) (p p' : P) (message : w.Message p) :
    (sentOne w p message).received p' = [] := by
  unfold sentOne Ports.send
  simp only
  split <;> rfl

theorem receive_received (s : Ports w) (p : P) (old : w.Message p) {entry : w.Entry (w.queue p)}
    {rest : List (w.Entry (w.queue p))} (h : s.queues (w.queue p) = entry :: rest) :
    (s.receive p old).received p = s.received p ++ [copyOut entry.2 old] ∧
      (s.receive p old).sent = s.sent := by
  unfold Ports.receive
  simp only
  split
  · rename_i hnil
    rw [h] at hnil
    cases hnil
  · rename_i hcons
    rw [h] at hcons
    cases hcons
    exact ⟨Function.update_self _ _ _, rfl⟩

/-- What a port receives after one message was sent to a port of the same queue. -/
theorem received_sentOne (w : Wiring P Q) (hf : Faithful w) {p p' : P}
    (message : w.Message p) (old : w.Message p') {entry : w.Entry (w.queue p')}
    {rest : List (w.Entry (w.queue p'))}
    (h : (sentOne w p message).queues (w.queue p') = entry :: rest) :
    [copyOut entry.2 old] <+: Function.update (fun _ => []) p [message] p' := by
  have hfifo : ((sentOne w p message).receive p' old).received p' <+:
      ((sentOne w p message).receive p' old).sent p' :=
    hf [.send p message fun _ => 0, .receive p' old] p'
  obtain ⟨hreceived, hsent⟩ := receive_received _ p' old h
  rwa [hreceived, hsent, sentOne_received, sentOne_sent, List.nil_append] at hfifo

/-- A faithful wiring gives back what was sent. -/
theorem copyOut_of_faithful (hf : Faithful w) (p : P) (message old : w.Message p) :
    copyOut (copyIn (w.msg_size (w.queue p)) message fun _ => 0) old = message := by
  have hfifo := received_sentOne w hf message old (sentOne_queues w p message)
  rw [Function.update_self] at hfifo
  exact List.head_eq_of_cons_eq (hfifo.eq_of_length rfl)

theorem sound_of_faithful (hf : Faithful w) : Sound w := by
  constructor
  · intro p p' hq
    by_contra hp
    have hne : (sentOne w p (Vector.replicate _ 0)).queues (w.queue p') ≠ [] := by
      rw [← hq, sentOne_queues]
      exact List.cons_ne_nil _ _
    obtain ⟨entry, rest, hqueue⟩ := List.exists_cons_of_ne_nil hne
    have hfifo := received_sentOne w hf _ (Vector.replicate _ 0) hqueue
    rw [Function.update_of_ne (fun h => hp h.symm)] at hfifo
    exact absurd (List.prefix_nil.mp hfifo) (List.cons_ne_nil _ _)
  · intro p
    by_contra hsmall
    have hlt := Nat.lt_of_not_le hsmall
    -- the first byte the queue does not take comes from the variable
    have heq := copyOut_of_faithful hf p (Vector.replicate _ 0) (Vector.replicate _ 1)
    have hbyte := congrArg (fun v : w.Message p => v[w.msg_size (w.queue p)]) heq
    simp only [copyOut_behind _ _ hlt (Nat.le_refl _), Vector.getElem_replicate] at hbyte
    exact absurd hbyte (by decide)

/-- **The faithful wirings**: every port has a queue to itself, which takes whole messages. -/
theorem faithful_iff (w : Wiring P Q) : Faithful w ↔ Sound w :=
  ⟨sound_of_faithful, faithful_of_sound⟩

/-! ## The modules -/

/-- `sizeof(NTypes::RadioBroadcastData)`: its fields, padded to the alignment of the port. -/
def sizeofRadioBroadcastData : Nat := 2 + 1 + 254 + 1

/-- The memory image of a `RadioBroadcastData`. -/
def image (d : RadioBroadcastData) (padding : UInt8) : Vector UInt8 sizeofRadioBroadcastData :=
  ⟨(littleEndian d.port ++ [d.size] ++ d.data.toList ++ [padding]).toArray, by
    simp [sizeofRadioBroadcastData]⟩

/-- Where the data bytes stand. -/
theorem image_data (d : RadioBroadcastData) (padding : UInt8) {k : Nat} (hk : k < 254)
    (hbound : 3 + k < sizeofRadioBroadcastData) : (image d padding)[3 + k] = d.data[k] := by
  have hport : (littleEndian d.port ++ [d.size]).length = 3 := rfl
  have hlen : 3 + k < (littleEndian d.port ++ [d.size] ++ d.data.toList ++ [padding]).length := by
    simpa [sizeofRadioBroadcastData] using hbound
  have hget : (littleEndian d.port ++ [d.size] ++ d.data.toList ++ [padding])[3 + k] =
      d.data[k] := by
    rw [List.getElem_append_left (by simp; omega), List.getElem_append_right (by rw [hport]; omega)]
    simp only [hport, Nat.add_sub_cancel_left, Vector.getElem_toList]
  exact hget

/-- The ports of `c_receiver_module.cpp`. -/
inductive ReceiverPort
  | loraBroadcastMsgQueue | udpBroadcastMsgQueue
  deriving DecidableEq

/-- The queue of `c_receiver_module.cpp`. -/
inductive ReceiverQueue
  | broadcastQueue
  deriving DecidableEq

def receiverModule : Wiring ReceiverPort ReceiverQueue where
  sizeof _ := sizeofRadioBroadcastData
  queue _ := .broadcastQueue
  msg_size _ := 256
  max_msgs _ := 10
  max_pos _ := by decide

/-- The ports of `c_radio_module.cpp`, each with the queue of its name. -/
inductive RadioPort
  | loraBroadcast | udpBroadcast | gnssLog
  deriving DecidableEq

/-- The wiring of `c_radio_module.cpp`, by the size of a `GnssLoggingData`. -/
def radioModule (sizeofGnssLoggingData : Nat) : Wiring RadioPort RadioPort where
  sizeof
    | .loraBroadcast | .udpBroadcast => sizeofRadioBroadcastData
    | .gnssLog => sizeofGnssLoggingData
  queue := id
  msg_size
    | .loraBroadcast | .udpBroadcast => sizeofRadioBroadcastData
    | .gnssLog => sizeofGnssLoggingData
  max_msgs _ := 10
  max_pos _ := by decide

/-- The ports of `c_sensor_module.cpp` and `c_power_module.cpp`, each with the queue of its name. -/
inductive SensorPort
  | broadcast | dataLog
  deriving DecidableEq

/-- The wiring of both, by the size of a `SensorData`. -/
def sensorModule (sizeofSensorData : Nat) : Wiring SensorPort SensorPort where
  sizeof _ := sizeofSensorData
  queue := id
  msg_size _ := sizeofSensorData
  max_msgs _ := 10
  max_pos _ := by decide

theorem radioModule_sound (n : Nat) : Sound (radioModule n) :=
  ⟨Function.injective_id, fun p => by cases p <;> exact Nat.le_refl _⟩

theorem sensorModule_sound (n : Nat) : Sound (sensorModule n) :=
  ⟨Function.injective_id, fun _ => Nat.le_refl _⟩

/-- The last of 254 data bytes does not survive the queue of the receiver build. -/
theorem receiver_loses_last_byte : ¬ Faithful receiverModule := by
  intro h
  let d : RadioBroadcastData := { port := 12001, size := 254, data := Vector.replicate 254 0xFF }
  have heq : copyOut (copyIn 256 (image d 0) fun _ => 0) (Vector.replicate _ 0) = image d 0 :=
    copyOut_of_faithful h .loraBroadcastMsgQueue (image d 0) (Vector.replicate _ 0)
  have hlt : 3 + 253 < sizeofRadioBroadcastData := by decide
  have hbyte := congrArg (fun v : Vector UInt8 sizeofRadioBroadcastData => v[3 + 253]) heq
  simp only [copyOut_behind _ _ hlt (Nat.le_refl _), image_data d 0 (by omega) hlt,
    Vector.getElem_replicate, d] at hbyte
  exact absurd hbyte (by decide)

end Backplane.Messaging
