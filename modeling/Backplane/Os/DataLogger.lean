import Backplane.General.Run
import Backplane.Os.FsFile

/-!
# The data logger

Model of `detail::datalogger` and `CDataLogger` (`include/f_core/os/c_datalogger.h`,
`lib/f_core/os/c_datalogger.cpp`). The index of the next packet is computed from the position of
the file on every call. A packet of `sizeof(T) = s` bytes is a `Vector UInt8 s`.

Results:
* `write_circular`, `write_fixedSize`: one call, with a file system that does its part.
* `bounded_log`: what a bounded file holds after any number of packets.
* `sessions_grow_iff`: the histories of sessions in which a growing file keeps all packets.
-/

namespace Backplane.Os

open Backplane.Ring
open Backplane.Run

/-- `LogMode`. -/
inductive LogMode
  | Growing | Circular | FixedSize
  deriving DecidableEq

/-- `detail::datalogger`, once `fs_open` has succeeded. -/
structure Datalogger where
  file : FsFile
  mode : LogMode
  num_packets : Nat

/-- The constructor, on a file with this content. -/
def Datalogger.new (content : List UInt8) (mode : LogMode) (num_packets : Nat) : Datalogger :=
  { file := FsFile.open content (FS_O_WRITE ||| FS_O_CREATE), mode := mode
    num_packets := num_packets }

/-- `fs_write` on the file of a logger. -/
def Datalogger.fsWrite (d : Datalogger) (data : List UInt8) (answers : FsAnswers) :
    Datalogger × Int :=
  let r := d.file.write data answers.fs_write
  ({ d with file := r.1 }, r.2)

/-- `write`. -/
def Datalogger.write (d : Datalogger) (data : List UInt8) (answers : FsAnswers) :
    Datalogger × Int :=
  if d.mode = .Growing then d.fsWrite data answers
  else
    let offset := d.file.tell answers.fs_tell
    if offset < 0 then (d, offset)
    else
      let index := offset.toNat / data.length
      match d.mode with
      | .FixedSize => if index < d.num_packets then d.fsWrite data answers else (d, ENOSPC)
      | .Circular =>
        -- the result of fs_seek is dropped
        let d := if index ≥ d.num_packets then
          { d with file := (d.file.seek 0 answers.fs_seek).1 } else d
        d.fsWrite data answers
      | .Growing => (d, -EINVAL)

/-- `CDataLogger::write`, with a file system that stores the packet. -/
def Datalogger.log {s : Nat} (d : Datalogger) (packet : Vector UInt8 s) : Datalogger :=
  (d.write packet.toList (FsAnswers.full s)).1

variable {s n : Nat}

/-- A packet stored whole at the position. -/
theorem fsWrite_full {d : Datalogger} (h : d.file.append = false) (packet : Vector UInt8 s) :
    d.fsWrite packet.toList (FsAnswers.full s) =
      ({ d with file :=
        { content := overwrite 0 d.file.content d.file.pos packet.toList, pos := d.file.pos + s
          append := false } }, (s : Int)) := by
  have hlen : packet.toList.length = s := packet.length_toList
  have hwrite := write_full h packet.toList
  rw [hlen] at hwrite
  unfold Datalogger.fsWrite
  rw [show (FsAnswers.full s).fs_write = .ok s from rfl, hwrite, h]

/-! ## Bounded files -/

/-- The logger stands behind `c` slots of a file that holds `slots`. -/
structure Framed (d : Datalogger) (mode : LogMode) (n c : Nat) (slots : List (Vector UInt8 s)) :
    Prop where
  mode : d.mode = mode
  num_packets : d.num_packets = n
  append : d.file.append = false
  pos : d.file.pos = c * s
  content : d.file.content = bytesOf slots

theorem framed_new (mode : LogMode) (n : Nat) :
    Framed (Datalogger.new [] mode n) mode n 0 ([] : List (Vector UInt8 s)) where
  mode := rfl
  num_packets := rfl
  append := rfl
  pos := (Nat.zero_mul s).symm
  content := rfl

variable {d : Datalogger} {mode : LogMode} {c : Nat} {slots : List (Vector UInt8 s)}

/-- `fs_write` at slot `c`. -/
theorem Framed.fsWrite (h : Framed d mode n c slots) (hc : c ≤ slots.length)
    (packet : Vector UInt8 s) :
    Framed (d.fsWrite packet.toList (FsAnswers.full s)).1 mode n (c + 1)
      (if c = slots.length then slots ++ [packet] else slots.set c packet) := by
  rw [fsWrite_full h.append]
  refine ⟨h.mode, h.num_packets, rfl, ?_, ?_⟩
  · show d.file.pos + s = _
    rw [h.pos, Nat.succ_mul]
  · show overwrite 0 d.file.content d.file.pos packet.toList = _
    rw [h.content, h.pos, overwrite_bytesOf slots hc]

/-- The index the code computes from the position. -/
theorem Framed.index (h : Framed d mode n c slots) (hs : 0 < s) (packet : Vector UInt8 s) :
    (d.file.tell none).toNat / packet.toList.length = c := by
  show (d.file.pos : Int).toNat / packet.toList.length = c
  rw [packet.length_toList, Int.toNat_natCast, h.pos, Nat.mul_div_cancel c hs]

/-- **A packet in `Circular` mode** goes to the slot of its number, modulo `n`. -/
theorem write_circular {history : List (Vector UInt8 s)} (hs : 0 < s) (hn : 0 < n)
    (h : Framed d .Circular n c slots) (hslots : Slots n history slots)
    (hcursor : Cursor n history.length c) (packet : Vector UInt8 s) :
    Framed (d.log packet) .Circular n (history.length % n + 1)
      (place n history.length slots packet) := by
  -- the position after the late wrap
  have hwrapped : ∃ d', Framed d' .Circular n (history.length % n) slots ∧
      d.log packet = (d'.fsWrite packet.toList (FsAnswers.full s)).1 := by
    have htell : ¬ d.file.tell none < 0 := Int.not_lt.mpr (Int.natCast_nonneg _)
    have hwrap := hcursor.wrap
    unfold Datalogger.log Datalogger.write
    rw [if_neg (by rw [h.mode]; decide)]
    simp only [show (FsAnswers.full s).fs_tell = none from rfl, h.mode, h.index hs, h.num_packets]
    rw [if_neg htell]
    split at hwrap
    · rename_i hge
      rw [if_pos hge, ← hwrap, show (FsAnswers.full s).fs_seek = none from rfl,
        seek_of_nonneg _ (Int.le_refl 0)]
      exact ⟨{ file := { d.file with pos := 0 }, mode := .Circular, num_packets := n },
        ⟨rfl, rfl, h.append, (Nat.zero_mul s).symm, h.content⟩, rfl⟩
    · rename_i hlt
      rw [if_neg hlt, ← hwrap]
      exact ⟨d, h, rfl⟩
  obtain ⟨d', hd', hlog⟩ := hwrapped
  rw [hlog, hslots.place_eq hn]
  exact hd'.fsWrite (hslots.mod_le_length hn) packet

/-- **A packet in `FixedSize` mode** goes behind the others, or nowhere. -/
theorem write_fixedSize (hs : 0 < s) (h : Framed d .FixedSize n slots.length slots)
    (packet : Vector UInt8 s) :
    if slots.length < n then
      Framed (d.log packet) .FixedSize n (slots.length + 1) (slots ++ [packet])
    else d.log packet = d := by
  have htell : ¬ d.file.tell none < 0 := Int.not_lt.mpr (Int.natCast_nonneg _)
  have hlog : d.log packet =
      (if slots.length < n then d.fsWrite packet.toList (FsAnswers.full s) else (d, ENOSPC)).1 := by
    unfold Datalogger.log Datalogger.write
    rw [if_neg (by rw [h.mode]; decide)]
    simp only [show (FsAnswers.full s).fs_tell = none from rfl, h.mode, h.index hs, h.num_packets]
    rw [if_neg htell]
  rw [hlog]
  by_cases hfree : slots.length < n
  · rw [if_pos hfree, if_pos hfree]
    have hwrite := h.fsWrite (Nat.le_refl _) packet
    rwa [if_pos rfl] at hwrite
  · rw [if_neg hfree, if_neg hfree]

theorem run_fixedSize (hs : 0 < s) (n : Nat) (packets : List (Vector UInt8 s)) :
    Framed (run Datalogger.log (Datalogger.new [] .FixedSize n) packets) .FixedSize n
      (packets.take n).length (packets.take n) := by
  refine run_induction (motive := fun history d =>
    Framed d .FixedSize n (history.take n).length (history.take n)) ?_ ?_ packets
  · rw [List.take_nil]
    exact framed_new .FixedSize n
  · intro history packet h
    have hwrite := write_fixedSize hs h packet
    rw [List.length_take] at hwrite
    by_cases hfree : history.length < n
    · rw [if_pos (by omega), Nat.min_eq_right (Nat.le_of_lt hfree),
        List.take_of_length_le (Nat.le_of_lt hfree)] at hwrite
      rwa [List.take_of_length_le (by rw [List.length_append]; exact hfree), List.length_append]
    · rw [if_neg (by omega)] at hwrite
      rwa [List.take_append_of_le_length (Nat.le_of_not_lt hfree), hwrite]

theorem run_circular (hs : 0 < s) (hn : 0 < n) (packets : List (Vector UInt8 s)) :
    ∃ c slots, Framed (run Datalogger.log (Datalogger.new [] .Circular n) packets) .Circular n c
      slots ∧ Slots n packets slots ∧ Cursor n packets.length c := by
  refine run_induction (motive := fun history d => ∃ c slots, Framed d .Circular n c slots ∧
    Slots n history slots ∧ Cursor n history.length c) ?_ ?_ packets
  · exact ⟨0, [], framed_new .Circular n, Slots.nil n, Cursor.zero n⟩
  · rintro history packet ⟨c, slots, h, hslots, hcursor⟩
    refine ⟨_, _, write_circular hs hn h hslots hcursor packet, hslots.place hn packet, ?_⟩
    rw [List.length_append]
    exact Cursor.next hn history.length

/-- **Bounded log files.** After any number of packets a `FixedSize` file is its first `n` packets,
and a `Circular` file a ring: each slot holds the last packet of its class, and the latest packets
are all there. -/
theorem bounded_log (hs : 0 < s) (hn : 0 < n) (packets : List (Vector UInt8 s)) :
    (run Datalogger.log (Datalogger.new [] .FixedSize n) packets).file.content =
      bytesOf (packets.take n) ∧
    ∃ slots : List (Vector UInt8 s),
      (run Datalogger.log (Datalogger.new [] .Circular n) packets).file.content = bytesOf slots ∧
      slots.length = min packets.length n ∧
      (∀ k, k < min packets.length n → ∃ i, i < packets.length ∧ i % n = k ∧
        (∀ j, i < j → j < packets.length → j % n ≠ k) ∧ slots[k]? = packets[i]?) ∧
      ∀ j, j < packets.length → packets.length ≤ j + n → slots[j % n]? = packets[j]? := by
  refine ⟨(run_fixedSize hs n packets).content, ?_⟩
  obtain ⟨_, slots, h, hslots, _⟩ := run_circular hs hn packets
  exact ⟨slots, h.content, hslots.length, fun k hk => hslots.holds hk,
    fun j hj hrecent => hslots.recent hj hrecent⟩

theorem bounded_log_two : 0 < 2 ∧ 0 < 3 ∧
    (run Datalogger.log (Datalogger.new [] .FixedSize 3) [#v[1, 2], #v[3, 4]]).file.content =
      [1, 2, 3, 4] :=
  ⟨by decide, by decide, (bounded_log (by decide) (by decide) [#v[1, 2], #v[3, 4]]).1⟩

/-! ## Growing files -/

/-- The end of a session: the file is closed, or power is lost once the first packets have been
flushed, and the others go with it. -/
inductive SessionEnd
  | close
  | powerLoss (flushed : Nat)

/-- A session of a growing logger. -/
structure Session where
  size : Nat
  size_pos : 0 < size
  packets : List (Vector UInt8 size)
  ending : SessionEnd

/-- The packets of a session that reach the disk. -/
def Session.kept (session : Session) : List (Vector UInt8 session.size) :=
  match session.ending with
  | .close => session.packets
  | .powerLoss flushed => session.packets.take flushed

/-- The file after a session, from its content before. -/
def Session.after (content : List UInt8) (session : Session) : List UInt8 :=
  (run Datalogger.log (Datalogger.new content .Growing 0) session.kept).file.content

theorem write_growing (hmode : d.mode = .Growing) (happend : d.file.append = false)
    (packet : Vector UInt8 s) :
    d.log packet = { d with file :=
      { content := overwrite 0 d.file.content d.file.pos packet.toList, pos := d.file.pos + s
        append := false } } := by
  unfold Datalogger.log Datalogger.write
  rw [if_pos hmode, fsWrite_full happend]

/-- A growing logger that has written `bytes` over `content`. -/
def Datalogger.grown (content bytes : List UInt8) : Datalogger where
  file :=
    { content := bytes ++ content.drop bytes.length, pos := bytes.length, append := false }
  mode := .Growing
  num_packets := 0

/-- **A growing logger writes over the old content**, from its start. -/
theorem run_growing (content : List UInt8) (packets : List (Vector UInt8 s)) :
    run Datalogger.log (Datalogger.new content .Growing 0) packets =
      Datalogger.grown content (bytesOf packets) := by
  refine run_induction (motive := fun history d => d =
    Datalogger.grown content (bytesOf history)) rfl ?_ packets
  intro history packet h
  rw [h, write_growing rfl rfl, bytesOf_concat]
  simp only [Datalogger.grown, overwrite_append, List.drop_drop, List.length_append,
    Vector.length_toList]

/-- What `fs_write` stores joins what the logger has written. -/
theorem write_grown (content bytes data : List UInt8) (answers : FsAnswers) :
    ((Datalogger.grown content bytes).write data answers).1 =
      Datalogger.grown content (bytes ++ answers.stored data) := by
  have hmode : (Datalogger.grown content bytes).mode = .Growing := rfl
  unfold Datalogger.write
  rw [if_pos hmode]
  unfold Datalogger.fsWrite FsFile.write FsAnswers.stored
  cases answers.fs_write with
  | error e =>
    simp only [List.append_nil]
  | ok n =>
    simp only [Datalogger.grown, Bool.false_eq_true, if_false, overwrite_append, List.drop_drop,
      List.length_append]

theorem after_eq (content : List UInt8) (session : Session) :
    session.after content =
      bytesOf session.kept ++ content.drop (bytesOf session.kept).length := by
  unfold Session.after
  rw [run_growing]
  rfl

theorem bytesOf_kept_eq_nil (session : Session) :
    bytesOf session.kept = [] ↔ session.kept = [] := by
  constructor
  · intro h
    by_contra hne
    obtain ⟨packet, rest, hkept⟩ := List.exists_cons_of_ne_nil hne
    have hlen : (bytesOf session.kept).length = 0 := by rw [h]; rfl
    rw [hkept, bytesOf, List.map_cons, List.flatten_cons, List.length_append,
      packet.length_toList] at hlen
    exact absurd session.size_pos (by omega)
  · intro h
    rw [h]
    rfl

/-- A session adds to the file exactly if there is nothing to write over, or nothing to write. -/
theorem after_grows_iff (content : List UInt8) (session : Session) :
    session.after content = content ++ bytesOf session.kept ↔
      content = [] ∨ session.kept = [] := by
  rw [after_eq, ← bytesOf_kept_eq_nil]
  constructor
  · intro h
    have hlen := congrArg List.length h
    rw [List.length_append, List.length_append, List.length_drop] at hlen
    rcases Nat.eq_zero_or_pos content.length with hzero | hpos
    · exact .inl (List.length_eq_zero_iff.mp hzero)
    · exact .inr (List.length_eq_zero_iff.mp (by omega))
  · rintro (rfl | hkept)
    · rw [List.drop_nil, List.append_nil, List.nil_append]
    · rw [hkept, List.nil_append, List.append_nil]
      rfl

/-- The file stays empty only while nothing is written. -/
theorem run_after_eq_nil (content : List UInt8) (sessions : List Session) :
    run Session.after content sessions = [] ↔
      content = [] ∧ ∀ session ∈ sessions, session.kept = [] := by
  induction sessions generalizing content with
  | nil => simp
  | cons session sessions ih =>
    rw [run_cons, ih, List.forall_mem_cons, ← and_assoc]
    refine and_congr_left' ?_
    rw [after_eq, List.append_eq_nil_iff, bytesOf_kept_eq_nil, and_comm]
    refine and_congr_left fun hkept => ?_
    rw [hkept]
    rfl

/-- **The histories in which a growing file loses nothing**: at most one session writes, and it
writes to an empty file. -/
theorem sessions_grow_iff (content : List UInt8) (sessions : List Session) :
    (∀ pre session, pre ++ [session] <+: sessions →
      run Session.after content (pre ++ [session]) =
        run Session.after content pre ++ bytesOf session.kept) ↔
      (content = [] ∨ ∀ session ∈ sessions, session.kept = []) ∧
        sessions.Pairwise fun s t => s.kept = [] ∨ t.kept = [] := by
  simp only [run_snoc, after_grows_iff, run_after_eq_nil]
  induction sessions using List.reverseRecOn with
  | nil => simp
  | append_singleton sessions last ih =>
    rw [forall_step_snoc, ih, List.pairwise_append]
    have hlast : (∀ t ∈ sessions, t.kept = [] ∨ last.kept = []) ↔
        (∀ t ∈ sessions, t.kept = []) ∨ last.kept = [] := by
      by_cases h : last.kept = [] <;> simp [h]
    simp only [List.forall_mem_append, List.forall_mem_singleton, List.pairwise_singleton,
      true_and, hlast]
    -- what is left is about the content, the sessions before and the last one
    generalize (∀ session ∈ sessions, session.kept = []) = noneKept
    by_cases hnone : noneKept <;> by_cases hkept : last.kept = [] <;>
      simp [hnone, hkept, and_comm]

/-- The second boot writes over the packet of the first. -/
theorem not_grow_second_session :
    ¬ ∀ (content : List UInt8) (sessions : List Session) (pre : List Session) (session : Session),
      pre ++ [session] <+: sessions → run Session.after content (pre ++ [session]) =
        run Session.after content pre ++ bytesOf session.kept := by
  intro h
  have hgrow := h []
    [⟨1, by decide, [#v[1]], .close⟩, ⟨1, by decide, [#v[2]], .close⟩]
    [⟨1, by decide, [#v[1]], .close⟩] ⟨1, by decide, [#v[2]], .close⟩ List.prefix_rfl
  exact absurd hgrow (by decide)

end Backplane.Os
