import Backplane.General.Run
import Backplane.Utils.Bytes
import Mathlib.Logic.Function.Basic

/-!
# UDP sockets and the address they send to

Model of `CUdpSocket` (`include/f_core/net/transport/c_udp_socket.h`,
`lib/f_core/net/transport/c_udp_socket.cpp`), for programs with any number of sockets.

* The destination address of each transmit method is a `static` local: one object for the whole
  program, initialised by the first call of that method on any socket (`Program.addr`).
  `TransmitAsynchronous` initialises it even when it then fails to set the socket non-blocking.
* `z_impl_net_addr_pton` writes the configured broadcast address into it on every call.
* The kernel's answers (`zsock_socket`, `zsock_fcntl`, `zsock_sendto`) are inputs. A datagram is
  recorded when it is handed to `zsock_sendto`, with the port its socket held.
* Receiving takes from the datagrams that wait at a bound socket (`Inbox`).

Results:
* `calls_run`: the static addresses and the datagrams of a run, from the calls made in it.
* `addressed_iff`: every datagram goes to the port its socket holds iff every call that sends is
  made on a socket that holds the port of the first call of its method.
* `addressed_fails`: one socket, retargeted between two sends.
-/

namespace Backplane.Net

open Backplane.Run
open Backplane.Utils

/-- `sockaddr_in`, of family `AF_INET`; `sin_port` is in network order. -/
structure SockaddrIn where
  sin_port : UInt16
  sin_addr : UInt32
  deriving DecidableEq

/-- The port the address stands for. -/
def SockaddrIn.port (a : SockaddrIn) : Int := (htons a.sin_port).toNat

/-- `CUdpSocket`. -/
structure CUdpSocket where
  sock : Int := -1
  dstPort : Int := -1
  deriving DecidableEq

/-- The two methods that send. -/
inductive Method
  | synchronous | asynchronous
  deriving DecidableEq

/-- A call of `zsock_sendto`, and the port held by the socket it was issued on. -/
structure Datagram where
  sock : Int
  dstPort : Int
  addr : SockaddrIn
  data : List UInt8
  deriving DecidableEq

/-- The sockets, the two static addresses and what was sent. -/
structure Program where
  sockets : List CUdpSocket
  addr : Method → Option SockaddrIn
  sent : List Datagram

/-- Before `main`. -/
def Program.start : Program := { sockets := [], addr := fun _ => none, sent := [] }

/-- The answers of `zsock_fcntl`: the flags, whether `O_NONBLOCK` is among them, and the result of
setting it. -/
structure Fcntl where
  flags : Int
  nonblock : Bool
  setResult : Int

/-- `TransmitAsynchronous` gets past the two `zsock_fcntl` calls. -/
def Fcntl.ok (f : Fcntl) : Bool :=
  !decide (f.flags < 0) && (f.nonblock || !decide (f.setResult < 0))

/-- The constructor. -/
def Program.construct (p : Program) (ipv4_initialized : Bool) (sock : Int) (dstPort : UInt16) :
    Program :=
  { p with sockets := p.sockets ++
      [{ dstPort := dstPort.toNat, sock := if ipv4_initialized then sock else -1 }] }

/-- `SetDstPort` of socket `i`. -/
def Program.setDstPort (p : Program) (i : Nat) (port : Int) : Program :=
  { p with sockets := p.sockets.modify i fun s => { s with dstPort := port } }

/-- `static const sockaddr_in addr`: what the declaration leaves in it. -/
def Program.staticAddr (p : Program) (m : Method) (s : CUdpSocket) : SockaddrIn :=
  (p.addr m).getD { sin_port := htons (UInt16.ofInt s.dstPort), sin_addr := 0 }

section Defs

variable (BROADCAST_IP : UInt32)

/-- The address is completed and the datagram handed to `zsock_sendto`. -/
def Program.sendto (p : Program) (m : Method) (s : CUdpSocket) (data : List UInt8) : Program :=
  let addr := { p.staticAddr m s with sin_addr := BROADCAST_IP }
  { p with
    addr := Function.update p.addr m (some addr)
    sent := p.sent ++ [{ sock := s.sock, dstPort := s.dstPort, addr := addr, data := data }] }

/-- `TransmitSynchronous` on `s`, and what it returns. -/
def Program.transmitSynchronous (p : Program) (s : CUdpSocket) (data : List UInt8) (ret : Int) :
    Program × Int :=
  (p.sendto BROADCAST_IP .synchronous s data, ret)

/-- `TransmitAsynchronous` on `s`, and what it returns. -/
def Program.transmitAsynchronous (p : Program) (s : CUdpSocket) (data : List UInt8)
    (fcntl : Fcntl) (ret : Int) : Program × Int :=
  if fcntl.ok then (p.sendto BROADCAST_IP .asynchronous s data, ret)
  else
    ({ p with addr := Function.update p.addr .asynchronous (some (p.staticAddr .asynchronous s)) },
      -1)

/-- A step of the program. `i` is a socket, in order of construction. -/
inductive Op
  | construct (ipv4_initialized : Bool) (sock : Int) (dstPort : UInt16)
  | setDstPort (i : Nat) (port : Int)
  | transmitSynchronous (i : Nat) (data : List UInt8) (ret : Int)
  | transmitAsynchronous (i : Nat) (data : List UInt8) (fcntl : Fcntl) (ret : Int)

/-- One step. There are no calls on sockets that do not exist. -/
def Program.step (p : Program) : Op → Program
  | .construct ipv4_initialized sock dstPort => p.construct ipv4_initialized sock dstPort
  | .setDstPort i port => p.setDstPort i port
  | .transmitSynchronous i data ret =>
    match p.sockets[i]? with
    | some s => (p.transmitSynchronous BROADCAST_IP s data ret).1
    | none => p
  | .transmitAsynchronous i data fcntl ret =>
    match p.sockets[i]? with
    | some s => (p.transmitAsynchronous BROADCAST_IP s data fcntl ret).1
    | none => p

end Defs

/-! ## Receiving -/

/-- The datagrams that wait at a bound socket. -/
abbrev Inbox := List (List UInt8)

/-- `ReceiveAsynchronous` with a buffer of `len` bytes: what stays, what it returns, and the bytes
written to the buffer. `zsock_recvfrom` cuts a long datagram, and finds nothing when none waits. -/
def Inbox.receiveAsynchronous (inbox : Inbox) (fcntl : Fcntl) (len : Nat) :
    Inbox × Int × List UInt8 :=
  if fcntl.ok then
    match inbox with
    | [] => (inbox, 0, [])
    | datagram :: rest => (rest, ((datagram.take len).length : Int), datagram.take len)
  else (inbox, -1, [])

theorem receiveAsynchronous_cons (datagram : List UInt8) (rest : Inbox) {fcntl : Fcntl}
    (h : fcntl.ok = true) (len : Nat) : Inbox.receiveAsynchronous (datagram :: rest) fcntl len =
      (rest, ((datagram.take len).length : Int), datagram.take len) := by
  rw [Inbox.receiveAsynchronous, if_pos h]

theorem receiveAsynchronous_error (inbox : Inbox) {fcntl : Fcntl} (h : ¬ fcntl.ok = true)
    (len : Nat) : inbox.receiveAsynchronous fcntl len = (inbox, -1, []) := by
  unfold Inbox.receiveAsynchronous
  rw [if_neg h]

/-! ## The calls of a run -/

/-- A call of a transmit method: its socket, its data, and whether it gets to `zsock_sendto`. -/
structure Call where
  socket : CUdpSocket
  data : List UInt8
  sends : Bool

/-- What a step does to the sockets. -/
def socketsAfter (sockets : List CUdpSocket) : Op → List CUdpSocket
  | .construct ipv4_initialized sock dstPort =>
    sockets ++ [{ dstPort := dstPort.toNat, sock := if ipv4_initialized then sock else -1 }]
  | .setDstPort i port => sockets.modify i fun s => { s with dstPort := port }
  | .transmitSynchronous .. => sockets
  | .transmitAsynchronous .. => sockets

/-- The call of method `m` a step makes. -/
def callOf (m : Method) (sockets : List CUdpSocket) : Op → Option Call
  | .transmitSynchronous i data _ =>
    if m = .synchronous then sockets[i]?.map fun s => ⟨s, data, true⟩ else none
  | .transmitAsynchronous i data fcntl _ =>
    if m = .asynchronous then sockets[i]?.map fun s => ⟨s, data, fcntl.ok⟩ else none
  | _ => none

/-- The calls of method `m` in a run, in order. -/
def calls (m : Method) (sockets : List CUdpSocket) : List Op → List Call
  | [] => []
  | op :: ops => (callOf m sockets op).toList ++ calls m (socketsAfter sockets op) ops

theorem calls_snoc (m : Method) (sockets : List CUdpSocket) (ops : List Op) (op : Op) :
    calls m sockets (ops ++ [op]) =
      calls m sockets ops ++ (callOf m (run socketsAfter sockets ops) op).toList := by
  induction ops generalizing sockets with
  | nil => simp [calls]
  | cons op' ops ih =>
    simp only [List.cons_append, calls]
    rw [ih, List.append_assoc, run_cons]

theorem mem_calls_snoc {m : Method} {ops : List Op} {op : Op} {c : Call} :
    c ∈ calls m [] (ops ++ [op]) ↔
      c ∈ calls m [] ops ∨ callOf m (run socketsAfter [] ops) op = some c := by
  rw [calls_snoc, List.mem_append, Option.mem_toList]

/-- The first call of a method stays its first. -/
theorem head?_calls_snoc {m : Method} {ops : List Op} (op : Op) {first : Call}
    (h : (calls m [] ops).head? = some first) :
    (calls m [] (ops ++ [op])).head? = some first := by
  rw [calls_snoc, List.head?_append, h]
  rfl

/-- A call is the first of its method, or comes after the first. -/
theorem head?_calls_of_call {m : Method} {ops : List Op} {op : Op} {c : Call}
    (h : callOf m (run socketsAfter [] ops) op = some c) :
    (calls m [] (ops ++ [op])).head? = some ((calls m [] ops).head?.getD c) := by
  rw [calls_snoc, List.head?_append, h]
  cases (calls m [] ops).head? <;> rfl

section Runs

variable (BROADCAST_IP : UInt32)

/-- The datagram of call `c`, in a program whose first call of that method was `first`. -/
def datagramOf (first c : Call) : Datagram :=
  { sock := c.socket.sock
    dstPort := c.socket.dstPort
    addr := { sin_port := htons (UInt16.ofInt first.socket.dstPort), sin_addr := BROADCAST_IP }
    data := c.data }

theorem datagramOf_port (first c : Call) :
    (datagramOf BROADCAST_IP first c).addr.port =
      (UInt16.ofInt first.socket.dstPort).toNat := by
  unfold SockaddrIn.port datagramOf
  rw [htons_htons]

/-- The calls of `ops` send `d`. -/
def Sends (ops : List Op) (d : Datagram) : Prop :=
  ∃ m first c, (calls m [] ops).head? = some first ∧ c ∈ calls m [] ops ∧ c.sends = true ∧
    d = datagramOf BROADCAST_IP first c

/-- A further step sends what its call sends. -/
theorem sends_snoc {ops : List Op} {op : Op} {d : Datagram} :
    Sends BROADCAST_IP (ops ++ [op]) d ↔ Sends BROADCAST_IP ops d ∨
      ∃ m c, callOf m (run socketsAfter [] ops) op = some c ∧ c.sends = true ∧
        d = datagramOf BROADCAST_IP ((calls m [] ops).head?.getD c) c := by
  constructor
  · rintro ⟨m, first, c, hf, hc, hs, rfl⟩
    rcases mem_calls_snoc.mp hc with hold | hnew
    · obtain ⟨first', rest, hcons⟩ := List.exists_cons_of_ne_nil (List.ne_nil_of_mem hold)
      have hf' : (calls m [] ops).head? = some first' := by rw [hcons, List.head?_cons]
      cases (head?_calls_snoc op hf').symm.trans hf
      exact Or.inl ⟨m, first, c, hf', hold, hs, rfl⟩
    · cases (head?_calls_of_call hnew).symm.trans hf
      exact Or.inr ⟨m, c, hnew, hs, rfl⟩
  · rintro (⟨m, first, c, hf, hc, hs, rfl⟩ | ⟨m, c, hnew, hs, rfl⟩)
    · exact ⟨m, first, c, head?_calls_snoc op hf, mem_calls_snoc.mpr (Or.inl hc), hs, rfl⟩
    · exact ⟨m, _, c, head?_calls_of_call hnew, mem_calls_snoc.mpr (Or.inr hnew), hs, rfl⟩

/-- The state of a program, from the calls it made: each static address is that of its method's
first call, and so is the address of every datagram. -/
structure CallsInv (ops : List Op) (p : Program) : Prop where
  sockets : p.sockets = run socketsAfter [] ops
  addr : ∀ m, (p.addr m).map SockaddrIn.sin_port =
    (calls m [] ops).head?.map fun first => htons (UInt16.ofInt first.socket.dstPort)
  sent : ∀ d, d ∈ p.sent ↔ Sends BROADCAST_IP ops d

theorem step_sockets (p : Program) (op : Op) :
    (p.step BROADCAST_IP op).sockets = socketsAfter p.sockets op := by
  cases op with
  | construct => rfl
  | setDstPort => rfl
  | transmitSynchronous i data ret =>
    unfold Program.step
    simp only
    split <;> rfl
  | transmitAsynchronous i data fcntl ret =>
    unfold Program.step Program.transmitAsynchronous
    simp only
    split
    · split <;> rfl
    · rfl

/-- **What a step can do**: nothing to the addresses, or one call of one method, which leaves that
method's address initialised and sends at most one datagram to it. -/
theorem step_cases (p : Program) (op : Op) :
    ((∀ m, callOf m p.sockets op = none) ∧ (p.step BROADCAST_IP op).addr = p.addr ∧
      (p.step BROADCAST_IP op).sent = p.sent) ∨
    ∃ m c a, (∀ m', callOf m' p.sockets op = if m' = m then some c else none) ∧
      a.sin_port = (p.staticAddr m c.socket).sin_port ∧
      (p.step BROADCAST_IP op).addr = Function.update p.addr m (some a) ∧
      (p.step BROADCAST_IP op).sent = p.sent ++ if c.sends then
        [⟨c.socket.sock, c.socket.dstPort, ⟨(p.staticAddr m c.socket).sin_port, BROADCAST_IP⟩,
          c.data⟩] else [] := by
  cases op with
  | construct => exact Or.inl ⟨fun _ => rfl, rfl, rfl⟩
  | setDstPort => exact Or.inl ⟨fun _ => rfl, rfl, rfl⟩
  | transmitSynchronous i data ret =>
    cases hs : p.sockets[i]? with
    | none =>
      refine Or.inl ⟨fun m => ?_, ?_, ?_⟩
      · simp [callOf, hs]
      · simp [Program.step, hs]
      · simp [Program.step, hs]
    | some s =>
      refine Or.inr ⟨.synchronous, ⟨s, data, true⟩,
        { p.staticAddr .synchronous s with sin_addr := BROADCAST_IP }, fun m => ?_, rfl, ?_, ?_⟩
      · simp [callOf, hs]
      · simp [Program.step, hs, Program.transmitSynchronous, Program.sendto]
      · simp [Program.step, hs, Program.transmitSynchronous, Program.sendto]
  | transmitAsynchronous i data fcntl ret =>
    cases hs : p.sockets[i]? with
    | none =>
      refine Or.inl ⟨fun m => ?_, ?_, ?_⟩
      · simp [callOf, hs]
      · simp [Program.step, hs]
      · simp [Program.step, hs]
    | some s =>
      cases hok : fcntl.ok with
      | true =>
        refine Or.inr ⟨.asynchronous, ⟨s, data, true⟩,
          { p.staticAddr .asynchronous s with sin_addr := BROADCAST_IP }, fun m => ?_, rfl, ?_, ?_⟩
        · simp [callOf, hs, hok]
        · simp [Program.step, hs, Program.transmitAsynchronous, hok, Program.sendto]
        · simp [Program.step, hs, Program.transmitAsynchronous, hok, Program.sendto]
      | false =>
        refine Or.inr ⟨.asynchronous, ⟨s, data, false⟩, p.staticAddr .asynchronous s,
          fun m => ?_, rfl, ?_, ?_⟩
        · simp [callOf, hs, hok]
        · simp [Program.step, hs, Program.transmitAsynchronous, hok]
        · simp [Program.step, hs, Program.transmitAsynchronous, hok]

/-- A static address has the port of the first call, be it this one. -/
theorem CallsInv.staticAddr {ops : List Op} {p : Program} (h : CallsInv BROADCAST_IP ops p)
    (m : Method) (c : Call) :
    (p.staticAddr m c.socket).sin_port =
      htons (UInt16.ofInt ((calls m [] ops).head?.getD c).socket.dstPort) := by
  have haddr := h.addr m
  unfold Program.staticAddr
  cases hp : p.addr m with
  | none =>
    rw [hp] at haddr
    cases hc : (calls m [] ops).head? with
    | none => rfl
    | some first =>
      rw [hc] at haddr
      cases haddr
  | some a =>
    rw [hp] at haddr
    cases hc : (calls m [] ops).head? with
    | none =>
      rw [hc] at haddr
      cases haddr
    | some first =>
      rw [hc] at haddr
      exact Option.some.inj haddr

/-- A step keeps what is known of the static addresses. -/
theorem CallsInv.addr_step {ops : List Op} {p : Program} (h : CallsInv BROADCAST_IP ops p)
    (op : Op) (m : Method) : ((p.step BROADCAST_IP op).addr m).map SockaddrIn.sin_port =
      (calls m [] (ops ++ [op])).head?.map fun first =>
        htons (UInt16.ofInt first.socket.dstPort) := by
  have hkept : callOf m (run socketsAfter [] ops) op = none →
      calls m [] (ops ++ [op]) = calls m [] ops := by
    intro hnone
    rw [calls_snoc, hnone]
    exact List.append_nil _
  rcases step_cases BROADCAST_IP p op with ⟨hnone, haddr, -⟩ | ⟨m', c, a, hcall, ha, haddr, -⟩
  · rw [h.sockets] at hnone
    rw [haddr, hkept (hnone m), h.addr]
  · rw [h.sockets] at hcall
    rw [haddr]
    by_cases hm : m = m'
    · subst hm
      rw [Function.update_self, head?_calls_of_call ((hcall m).trans (if_pos rfl)),
        Option.map_some, Option.map_some, ha, h.staticAddr]
    · rw [Function.update_of_ne hm, hkept ((hcall m).trans (if_neg hm)), h.addr]

/-- A step sends what its call sends. -/
theorem CallsInv.sent_step {ops : List Op} {p : Program} (h : CallsInv BROADCAST_IP ops p)
    (op : Op) (d : Datagram) :
    d ∈ (p.step BROADCAST_IP op).sent ↔ Sends BROADCAST_IP (ops ++ [op]) d := by
  rw [sends_snoc, ← h.sent]
  rcases step_cases BROADCAST_IP p op with ⟨hnone, -, hsent⟩ | ⟨m, c, a, hcall, -, -, hsent⟩
  · rw [h.sockets] at hnone
    rw [hsent]
    refine ⟨Or.inl, ?_⟩
    rintro (hd | ⟨m, c, hc, -⟩)
    · exact hd
    · rw [hnone m] at hc
      cases hc
  · rw [h.sockets] at hcall
    have hport := h.staticAddr BROADCAST_IP m c
    rw [hsent, List.mem_append]
    refine or_congr Iff.rfl ?_
    constructor
    · intro hd
      split at hd
      · rename_i hs
        refine ⟨m, c, (hcall m).trans (if_pos rfl), hs, ?_⟩
        rw [List.mem_singleton.mp hd, hport]
        rfl
      · exact absurd hd List.not_mem_nil
    · rintro ⟨m', c', hc', hs, rfl⟩
      rw [hcall m'] at hc'
      split at hc'
      · rename_i hm
        subst hm
        cases hc'
        rw [if_pos hs, List.mem_singleton, hport]
        rfl
      · cases hc'

theorem callsInv_step {ops : List Op} {p : Program} (h : CallsInv BROADCAST_IP ops p) (op : Op) :
    CallsInv BROADCAST_IP (ops ++ [op]) (p.step BROADCAST_IP op) := by
  refine ⟨?_, h.addr_step BROADCAST_IP op, h.sent_step BROADCAST_IP op⟩
  rw [step_sockets, h.sockets, run_snoc]

/-- **The addresses and the datagrams of a run are those of its calls.** -/
theorem calls_run (ops : List Op) :
    CallsInv BROADCAST_IP ops (run (Program.step BROADCAST_IP) Program.start ops) :=
  run_induction (motive := CallsInv BROADCAST_IP)
    ⟨rfl, fun m => by cases m <;> rfl, fun d => by simp [Program.start, Sends, calls]⟩
    (fun _ op h => callsInv_step BROADCAST_IP h op) ops

/-- **Every datagram goes to the port its socket holds iff** every call that gets to
`zsock_sendto` is made on a socket holding the port, reduced to 16 bits, that was held in the
program's first call of that method. -/
theorem addressed_iff (ops : List Op) :
    (∀ d ∈ (run (Program.step BROADCAST_IP) Program.start ops).sent, d.addr.port = d.dstPort) ↔
    ∀ m first, (calls m [] ops).head? = some first → ∀ c ∈ calls m [] ops, c.sends = true →
      c.socket.dstPort = (UInt16.ofInt first.socket.dstPort).toNat := by
  have h := calls_run BROADCAST_IP ops
  constructor
  · intro hall m first hf c hc hs
    have hd := hall _ ((h.sent _).mpr ⟨m, first, c, hf, hc, hs, rfl⟩)
    rw [datagramOf_port] at hd
    exact hd.symm
  · intro hall d hd
    obtain ⟨m, first, c, hf, hc, hs, rfl⟩ := (h.sent d).mp hd
    rw [datagramOf_port]
    exact (hall m first hf c hc hs).symm

end Runs

/-- A forwarder retargets its one socket from port 11015 to port 12005 between two sends. -/
def retargeted : List Op :=
  [.construct true 3 12000, .setDstPort 0 11015, .transmitSynchronous 0 [1] 1,
    .setDstPort 0 12005, .transmitSynchronous 0 [2] 1]

/-- **The second datagram goes to the port of the first.** -/
theorem addressed_fails :
    ¬ ∀ (BROADCAST_IP : UInt32) (ops : List Op),
      ∀ d ∈ (run (Program.step BROADCAST_IP) Program.start ops).sent, d.addr.port = d.dstPort := by
  intro h
  have hsent : (⟨3, 12005, ⟨htons 11015, 0xFFFFFFFF⟩, [2]⟩ : Datagram) ∈
      (run (Program.step 0xFFFFFFFF) Program.start retargeted).sent := by decide
  exact absurd (h _ _ _ hsent) (by decide)

end Backplane.Net
