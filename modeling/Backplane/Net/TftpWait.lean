import Backplane.Net.Tftp
import Backplane.Net.UdpSocket

/-!
# Lost acknowledgements

What the socket answers to the polls of `waitForAck`, through `CUdpSocket::ReceiveAsynchronous`
(`lib/f_core/net/transport/c_udp_socket.cpp`). A poll that finds nothing is `EWOULDBLOCK` at
`zsock_recvfrom`; the wrapper makes 0 of it, and `waitForAck` counts negative results only.

Results:
* `waitForAck_eq_none_iff`: the polls after which the server still waits.
* `boundedWait_iff`: a wait over an infinite sequence of answers ends, within five polls that find
  nothing, iff the client or the socket settles it within them.
* `lost_ack_hangs`: while nothing arrives the server waits, however long that is.
-/

namespace Backplane.Net

/-- `EAGAIN` and `EWOULDBLOCK`, which are one number. -/
def EAGAIN : Int := 11
def EWOULDBLOCK : Int := EAGAIN

/-- What the socket answers to one poll: `zsock_fcntl`, with the `errno` it leaves if it fails, and
`zsock_recvfrom`, with its `errno` or the datagram. -/
structure Outcome where
  fcntl : Fcntl
  fcntlErrno : Int
  recvfrom : Except Int (List UInt8)

/-- `ReceiveAsynchronous` into a buffer of `len` bytes: -1 with `errno`, or what was received,
which is nothing when there was nothing. -/
def Outcome.receiveAsynchronous (o : Outcome) (len : Nat) : Except Int (List UInt8) :=
  if o.fcntl.ok then
    match o.recvfrom with
    | .error errno => if errno = EWOULDBLOCK ∨ errno = EAGAIN then .ok [] else .error errno
    | .ok datagram => .ok (datagram.take len)
  else .error o.fcntlErrno

/-- What `waitForAck` sees of it. -/
def Outcome.poll (o : Outcome) : Poll :=
  match o.receiveAsynchronous ackPktSize with
  | .error errno => .error errno (errno = EWOULDBLOCK ∨ errno = EAGAIN)
  | .ok bytes => .received bytes

/-- Nothing is available. -/
def Outcome.nothing (o : Outcome) : Bool :=
  o.fcntl.ok && match o.recvfrom with
    | .error errno => errno = EAGAIN
    | .ok _ => false

/-- A datagram is delivered. -/
def Outcome.delivers (o : Outcome) : Bool :=
  o.fcntl.ok && match o.recvfrom with
    | .error _ => false
    | .ok _ => true

/-- A datagram as long as an acknowledgement is delivered, or the socket fails for good. -/
def Outcome.settles (o : Outcome) : Bool :=
  if o.fcntl.ok then
    match o.recvfrom with
    | .error errno => errno ≠ EAGAIN
    | .ok datagram => ackPktSize ≤ datagram.length
  else o.fcntlErrno ≠ EAGAIN

/-- The flags cannot be had, for now: the one answer that counts as a retry. -/
def Outcome.flagsAgain (o : Outcome) : Bool := !o.fcntl.ok && o.fcntlErrno = EAGAIN

/-- The first `n` answers. -/
def firstOutcomes (outcomes : Nat → Outcome) (n : Nat) : List Outcome := (List.range n).map outcomes

/-- **A wait ends in time**: it returns after `n` polls, at most five of which found nothing. -/
def BoundedWait (blockNum : UInt16) (outcomes : Nat → Outcome) : Prop :=
  ∃ n ret, waitForAck blockNum 0 ((firstOutcomes outcomes n).map Outcome.poll) = some (ret, []) ∧
    (firstOutcomes outcomes n).countP Outcome.nothing ≤ maxRetries

/-- The first `n` answers settle a wait: one does alone, or five do together. -/
def SettledBy (outcomes : Nat → Outcome) (n : Nat) : Prop :=
  (∃ o ∈ firstOutcomes outcomes n, o.settles = true) ∨
    maxRetries ≤ (firstOutcomes outcomes n).countP Outcome.flagsAgain

/-! ## The wait, poll by poll -/

/-- The poll ends a wait. -/
def Poll.settles : Poll → Bool
  | .error _ again => !again
  | .received bytes => ackPktSize ≤ bytes.length

/-- **What `waitForAck` learns of an answer**: whether it ends the wait, and whether it counts. -/
theorem poll_spec (o : Outcome) : o.poll.settles = o.settles ∧ o.poll.again = o.flagsAgain := by
  unfold Outcome.poll Outcome.receiveAsynchronous Outcome.settles Outcome.flagsAgain EWOULDBLOCK
  by_cases hok : o.fcntl.ok = true
  · cases hr : o.recvfrom with
    | error errno =>
      by_cases h : errno = EAGAIN
      · simp [hok, h, Poll.settles, Poll.again, ackPktSize]
      · simp [hok, h, Poll.settles, Poll.again]
    | ok datagram => simp [hok, Poll.settles, Poll.again]
  · simp [hok, Poll.settles, Poll.again]

/-- The first four bytes of a datagram that has them. -/
theorem take_ackPktSize {bytes : List UInt8} (h : ackPktSize ≤ bytes.length) :
    ∃ a0 a1 a2 a3, bytes.take ackPktSize = [a0, a1, a2, a3] :=
  List.length_eq_four.mp (List.length_take_of_le h)

/-- **A poll of a wait**: it ends the wait, counts as a retry, or changes nothing. -/
theorem waitForAck_cons {b : UInt16} {retries : Nat} (hr : retries < maxRetries) (p : Poll)
    (polls : List Poll) :
    (p.settles = true ∧ ∃ ret, waitForAck b retries (p :: polls) = some (ret, polls)) ∨
    (p.settles = false ∧
      waitForAck b retries (p :: polls) = waitForAck b (retries + p.again.toNat) polls) := by
  cases p with
  | error errno again =>
    rw [waitForAck, if_pos hr]
    cases again
    · exact Or.inl ⟨rfl, errno, rfl⟩
    · exact Or.inr ⟨rfl, rfl⟩
  | received bytes =>
    rw [waitForAck, if_pos hr]
    rcases Nat.lt_or_ge bytes.length ackPktSize with hlt | hge
    · refine Or.inr ⟨decide_eq_false (Nat.not_le.mpr hlt), ?_⟩
      simp only [List.take_of_length_le (Nat.le_of_lt hlt)]
      split
      · exact absurd hlt (Nat.lt_irrefl _)
      · rfl
    · refine Or.inl ⟨decide_eq_true hge, ?_⟩
      obtain ⟨a0, a1, a2, a3, htake⟩ := take_ackPktSize hge
      simp only [htake]
      split
      · exact ⟨0, rfl⟩
      · exact ⟨-1, rfl⟩

/-- **The server still waits** iff no poll has ended the wait and fewer than five were counted. -/
theorem waitForAck_eq_none_iff {b : UInt16} {retries : Nat} {polls : List Poll} :
    waitForAck b retries polls = none ↔
      (∀ p ∈ polls, p.settles = false) ∧ retries + polls.countP Poll.again < maxRetries := by
  induction polls generalizing retries with
  | nil =>
    rw [waitForAck]
    split <;> simp_all
  | cons p polls ih =>
    rcases Nat.lt_or_ge retries maxRetries with hr | hr
    · rcases waitForAck_cons (b := b) hr p polls with ⟨hp, ret, heq⟩ | ⟨hp, heq⟩
      · rw [heq]
        simp [hp]
      · rw [heq, ih, List.forall_mem_cons, List.countP_cons]
        have hcount : (if p.again = true then 1 else 0) = p.again.toNat := by
          cases p.again <;> rfl
        rw [hcount, Nat.add_assoc, Nat.add_comm p.again.toNat]
        simp [hp]
    · unfold waitForAck
      rw [if_neg (Nat.not_lt.mpr hr)]
      constructor
      · exact fun h => absurd h (by simp)
      · rintro ⟨-, hlt⟩
        exact absurd hlt (by omega)

/-- The poll at which a wait ends is the last that it reads. -/
theorem waitForAck_snoc {b : UInt16} {retries : Nat} {polls : List Poll} {p : Poll}
    (hwait : waitForAck b retries polls = none)
    (hend : waitForAck b retries (polls ++ [p]) ≠ none) :
    ∃ ret, waitForAck b retries (polls ++ [p]) = some (ret, []) := by
  induction polls generalizing retries with
  | nil =>
    have hr : retries < maxRetries := by
      have h := (waitForAck_eq_none_iff.mp hwait).2
      omega
    rw [List.nil_append] at hend ⊢
    rcases waitForAck_cons (b := b) hr p [] with ⟨-, hret⟩ | ⟨-, heq⟩
    · exact hret
    · rw [heq] at hend ⊢
      rw [waitForAck] at hend ⊢
      split
      · rename_i hlt
        exact absurd (if_pos hlt) hend
      · exact ⟨-1, rfl⟩
  | cons q polls ih =>
    have hr : retries < maxRetries := by
      have h := (waitForAck_eq_none_iff.mp hwait).2
      omega
    have hq : q.settles = false := (waitForAck_eq_none_iff.mp hwait).1 q (List.mem_cons_self ..)
    rw [List.cons_append] at hend ⊢
    rcases waitForAck_cons (b := b) hr q polls with ⟨hset, -⟩ | ⟨-, heq⟩
    · exact absurd (hset.symm.trans hq) (by simp)
    · rcases waitForAck_cons (b := b) hr q (polls ++ [p]) with ⟨hset, -⟩ | ⟨-, heq'⟩
      · exact absurd (hset.symm.trans hq) (by simp)
      · rw [heq'] at hend ⊢
        exact ih (heq ▸ hwait) hend

/-! ## Infinite sequences of answers -/

theorem waitForAck_outcomes_eq_none_iff {b : UInt16} {outcomes : Nat → Outcome} {n : Nat} :
    waitForAck b 0 ((firstOutcomes outcomes n).map Outcome.poll) = none ↔
      ¬ SettledBy outcomes n := by
  have hcount : ((firstOutcomes outcomes n).map Outcome.poll).countP Poll.again =
      (firstOutcomes outcomes n).countP Outcome.flagsAgain := by
    rw [List.countP_map]
    congr 1
    funext o
    exact (poll_spec o).2
  rw [waitForAck_eq_none_iff, hcount, SettledBy, not_or, Nat.zero_add, Nat.not_le]
  refine and_congr_left' ?_
  simp [poll_spec]

theorem firstOutcomes_succ (outcomes : Nat → Outcome) (n : Nat) :
    firstOutcomes outcomes (n + 1) = firstOutcomes outcomes n ++ [outcomes n] := by
  simp [firstOutcomes, List.range_succ]

theorem countP_nothing_mono (outcomes : Nat → Outcome) {m n : Nat} (h : m ≤ n) :
    (firstOutcomes outcomes m).countP Outcome.nothing ≤
      (firstOutcomes outcomes n).countP Outcome.nothing := by
  induction h with
  | refl => exact Nat.le_refl _
  | step _ ih =>
    rw [firstOutcomes_succ, List.countP_append]
    exact Nat.le_trans ih (Nat.le_add_right ..)

/-- **When a lost acknowledgement does not hang the server**: iff some of its polls settle the
wait, with at most five among them that find nothing. -/
theorem boundedWait_iff (blockNum : UInt16) (outcomes : Nat → Outcome) :
    BoundedWait blockNum outcomes ↔
      ∃ n, SettledBy outcomes n ∧
        (firstOutcomes outcomes n).countP Outcome.nothing ≤ maxRetries := by
  constructor
  · rintro ⟨n, ret, hret, hcount⟩
    refine ⟨n, ?_, hcount⟩
    by_contra hnot
    rw [waitForAck_outcomes_eq_none_iff.mpr hnot] at hret
    cases hret
  · rintro ⟨n, hsettled, hcount⟩
    -- the first poll that settles the wait is not after these
    induction n with
    | zero =>
      rcases hsettled with ⟨o, ho, -⟩ | hle
      · exact absurd ho List.not_mem_nil
      · exact absurd hle (Nat.not_succ_le_zero _)
    | succ n ih =>
      by_cases hbefore : SettledBy outcomes n
      · exact ih hbefore (Nat.le_trans (countP_nothing_mono outcomes (Nat.le_succ n)) hcount)
      · have hwait := (waitForAck_outcomes_eq_none_iff (b := blockNum)).mpr hbefore
        have hend : waitForAck blockNum 0
            ((firstOutcomes outcomes (n + 1)).map Outcome.poll) ≠ none :=
          fun h => waitForAck_outcomes_eq_none_iff.mp h hsettled
        rw [firstOutcomes_succ, List.map_append] at hend
        obtain ⟨ret, hret⟩ := waitForAck_snoc hwait hend
        exact ⟨n + 1, ret, by rwa [firstOutcomes_succ, List.map_append], hcount⟩

/-- Nothing is available. -/
def silence : Outcome :=
  { fcntl := { flags := 0, nonblock := true, setResult := 0 }, fcntlErrno := 0
    recvfrom := .error EAGAIN }

/-- **While nothing arrives the server waits**, however often it polls. -/
theorem lost_ack_hangs (blockNum : UInt16) (n : Nat) :
    waitForAck blockNum 0 ((firstOutcomes (fun _ => silence) n).map Outcome.poll) = none := by
  rw [waitForAck_outcomes_eq_none_iff]
  have hall : ∀ o ∈ firstOutcomes (fun _ => silence) n, o = silence := by
    simp [firstOutcomes]
  rintro (⟨o, ho, hsettles⟩ | hcount)
  · rw [hall o ho] at hsettles
    exact absurd hsettles (by decide)
  · have hzero : (firstOutcomes (fun _ => silence) n).countP Outcome.flagsAgain = 0 := by
      rw [List.countP_eq_zero]
      intro o ho
      rw [hall o ho]
      decide
    exact absurd hcount (by rw [hzero]; decide)

/-- **A lost acknowledgement hangs the server**, with no datagram at all. -/
theorem boundedWait_fails :
    ¬ ∀ (blockNum : UInt16) (outcomes : Nat → Outcome),
      (∃ m, ∀ i, m ≤ i → (outcomes i).delivers = false) →
      (∀ i datagram, (outcomes i).recvfrom = .ok datagram →
        1 ≤ datagram.length ∧ datagram.length ≤ 4) →
      BoundedWait blockNum outcomes := by
  intro h
  obtain ⟨n, ret, hret, -⟩ := h 1 (fun _ => silence) ⟨0, fun _ _ => rfl⟩
    (fun i datagram hd => by cases hd)
  rw [lost_ack_hangs] at hret
  cases hret

end Backplane.Net
