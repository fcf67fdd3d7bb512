import Backplane.Messaging.MessagePort

/-!
# What waits at a message port

The operations on ports with queues of their own, large enough for whole messages, as operations on
the lists of messages that wait: `Send` adds to the end of a list that is not full, `Receive` takes
the first, and neither touches another port.
-/

namespace Backplane.Messaging

variable {P Q : Type} [DecidableEq P] [DecidableEq Q] {w : Wiring P Q}

omit [DecidableEq P] [DecidableEq Q] in
theorem length_waiting (s : Ports w) (p : P) :
    (s.waiting p).length = (s.queues (w.queue p)).length := List.length_map _

theorem waiting_send_self (hw : Sound w) (s : Ports w) (p : P) (message : w.Message p)
    (beyond : Nat → UInt8) : (s.send p message beyond).waiting p =
      if (s.waiting p).length < w.max_msgs (w.queue p) then s.waiting p ++ [message]
      else s.waiting p := by
  rw [length_waiting]
  unfold Ports.send
  simp only
  split
  · have hcopy := copyOut_copyIn (hw.whole p) message (Vector.replicate _ 0) beyond
    unfold Ports.waiting
    simp only [Function.update_self, List.map_append, List.map_singleton, hcopy]
  · rfl

theorem waiting_send_other (hw : Sound w) (s : Ports w) {p p' : P} (hp : p' ≠ p)
    (message : w.Message p) (beyond : Nat → UInt8) :
    (s.send p message beyond).waiting p' = s.waiting p' := by
  unfold Ports.send
  simp only
  split
  · unfold Ports.waiting
    simp only [Function.update_of_ne (queue_ne hw hp)]
  · rfl

theorem waiting_receive_self (s : Ports w) (p : P) (old : w.Message p) :
    (s.receive p old).waiting p = (s.waiting p).tail := by
  unfold Ports.receive
  simp only
  split
  · rename_i hqueue
    unfold Ports.waiting
    rw [hqueue]
    rfl
  · rename_i hqueue
    unfold Ports.waiting
    simp only [Function.update_self, hqueue, List.map_cons, List.tail_cons]

theorem waiting_receive_other (hw : Sound w) (s : Ports w) {p p' : P} (hp : p' ≠ p)
    (old : w.Message p) : (s.receive p old).waiting p' = s.waiting p' := by
  unfold Ports.receive
  simp only
  split
  · rfl
  · unfold Ports.waiting
    simp only [Function.update_of_ne (queue_ne hw hp)]

end Backplane.Messaging
