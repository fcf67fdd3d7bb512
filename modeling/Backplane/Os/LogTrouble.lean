import Backplane.Os.DataLogger

/-!
# Bounded log files and file-system trouble

Writes of a `CDataLogger` under any answers of the file system: `fs_tell` and `fs_seek` may fail,
`fs_write` may fail or store a part of the packet. The file must stay within its bound, a packet
reported as written must lie on the grid of packets, and a packet that is not stored must not be
reported.

Results:
* `write_of_writesAt`, `write_of_not_writesAt`: what `write` does, by the place it writes at.
* `writeSound_iff`: when one write is sound.
* `survives_iff`: the runs in which all are.
* `survives_fails`: a short write, and then a whole one.
-/

namespace Backplane.Os

open Backplane.Ring
open Backplane.Run

/-! ## One write -/

section Defs

variable {s : Nat} (d : Datalogger)

/-- Where a write of a packet of `size` bytes calls `fs_write`, if it gets there: at the position,
or at the start where the log wraps. -/
def Datalogger.writesAt (size : Nat) (answers : FsAnswers) : Option Nat :=
  let full := d.num_packets ≤ d.file.pos / size
  match d.mode, answers.fs_tell with
  | .Growing, _ => some d.file.pos
  | _, some _ => none
  | .FixedSize, none => if full then none else some d.file.pos
  | .Circular, none => if full ∧ answers.fs_seek = none then some 0 else some d.file.pos

/-- The whole packet is stored. -/
def Datalogger.Stores (size : Nat) (answers : FsAnswers) : Prop :=
  ∃ p k, d.writesAt size answers = some p ∧ answers.fs_write = .ok k ∧ size ≤ k

/-- **A write survives the trouble**: the file is within its bound, a packet reported as written
lies whole on the grid, and one that is not stored is reported as an error or a smaller count. -/
structure WriteSound (bound : Nat) (packet : Vector UInt8 s) (answers : FsAnswers) : Prop where
  bounded : (d.write packet.toList answers).1.file.content.length ≤ bound
  onGrid : (d.write packet.toList answers).2 = s → ∃ p, d.writesAt s answers = some p ∧ s ∣ p ∧
    ((d.write packet.toList answers).1.file.content.drop p).take s = packet.toList
  reported : ¬ d.Stores s answers → (d.write packet.toList answers).2 < s

/-- When it does. On the grid, inside the bound and with room left nothing is asked. -/
structure WriteCondition (bound size : Nat) (answers : FsAnswers) : Prop where
  /-- The positive `ENOSPC` of a full `FixedSize` log is smaller than a packet. -/
  full : d.mode = .FixedSize → answers.fs_tell = none → d.num_packets ≤ d.file.pos / size →
    ENOSPC < size
  /-- Off the grid no packet is stored whole, nor anything out of bounds. -/
  offGrid : ∀ p k, d.writesAt size answers = some p → answers.fs_write = .ok k → ¬ size ∣ p →
    k < size ∧ p + k ≤ bound
  /-- Where the log has not wrapped, nothing is stored out of bounds. -/
  pastEnd : ∀ p k, d.writesAt size answers = some p → answers.fs_write = .ok k →
    d.num_packets * size ≤ p → p + min k size ≤ bound

end Defs

variable {s : Nat} {d : Datalogger}

/-- `FixedSize` mode, with the position known. -/
theorem write_of_fixedSize {packet : Vector UInt8 s} {answers : FsAnswers}
    (hmode : d.mode = .FixedSize) (htell : answers.fs_tell = none) :
    d.write packet.toList answers =
      if d.num_packets ≤ d.file.pos / s then (d, ENOSPC) else d.fsWrite packet.toList answers := by
  have hnonneg : ¬ d.file.tell none < 0 := Int.not_lt.mpr (Int.natCast_nonneg d.file.pos)
  unfold Datalogger.write
  rw [if_neg (by rw [hmode]; decide), htell, if_neg hnonneg, packet.length_toList]
  simp only [hmode]
  rw [← ite_not]
  simp only [Nat.not_lt]
  rfl

/-- `Circular` mode, with the position known. -/
theorem write_of_circular {packet : Vector UInt8 s} {answers : FsAnswers}
    (hmode : d.mode = .Circular) (htell : answers.fs_tell = none) :
    d.write packet.toList answers =
      Datalogger.fsWrite (if d.num_packets ≤ d.file.pos / s then
        { d with file := (d.file.seek 0 answers.fs_seek).1 } else d) packet.toList answers := by
  have hnonneg : ¬ d.file.tell none < 0 := Int.not_lt.mpr (Int.natCast_nonneg d.file.pos)
  unfold Datalogger.write
  rw [if_neg (by rw [hmode]; decide), htell, if_neg hnonneg, packet.length_toList]
  simp only [hmode]
  rfl

theorem mode_cases (d : Datalogger) :
    d.mode = .Growing ∨ d.mode = .FixedSize ∨ d.mode = .Circular := by
  cases d.mode <;> simp

/-- **Where `fs_write` is called**, the call is as if the position were there. -/
theorem write_of_writesAt (packet : Vector UInt8 s) {answers : FsAnswers} {p : Nat}
    (h : d.writesAt s answers = some p) :
    d.write packet.toList answers =
      Datalogger.fsWrite { d with file := { d.file with pos := p } } packet.toList answers := by
  unfold Datalogger.writesAt at h
  rcases mode_cases d with hmode | hmode | hmode
  · rw [hmode] at h
    cases h
    unfold Datalogger.write
    rw [if_pos hmode]
  · cases htell : answers.fs_tell with
    | some e => simp [hmode, htell] at h
    | none =>
      rw [write_of_fixedSize hmode htell]
      simp only [hmode, htell] at h
      split at h
      · cases h
      · rename_i hroom
        cases h
        rw [if_neg hroom]
  · cases htell : answers.fs_tell with
    | some e => simp [hmode, htell] at h
    | none =>
      rw [write_of_circular hmode htell]
      simp only [hmode, htell] at h
      split at h
      · rename_i hwrap
        cases h
        rw [if_pos hwrap.1, hwrap.2, seek_of_nonneg _ (Int.le_refl 0)]
        rfl
      · rename_i hstay
        cases h
        by_cases hfull : d.num_packets ≤ d.file.pos / s
        · -- the seek fails, and nobody looks
          rw [if_pos hfull]
          cases hseek : answers.fs_seek with
          | none => exact absurd ⟨hfull, hseek⟩ hstay
          | some e => rfl
        · rw [if_neg hfull]

/-- **Where it is not**, nothing changes, and the result is an error, or `ENOSPC` of a full log. -/
theorem write_of_not_writesAt (packet : Vector UInt8 s) {answers : FsAnswers}
    (h : d.writesAt s answers = none) :
    (d.write packet.toList answers).1 = d ∧
      ((d.write packet.toList answers).2 < 0 ∧ answers.fs_tell ≠ none ∨
        (d.write packet.toList answers).2 = ENOSPC ∧ d.mode = .FixedSize ∧
          answers.fs_tell = none ∧ d.num_packets ≤ d.file.pos / s) := by
  have hmode : d.mode ≠ .Growing := by
    intro hmode
    unfold Datalogger.writesAt at h
    rw [hmode] at h
    cases h
  cases htell : answers.fs_tell with
  | some e =>
    have hneg : d.file.tell answers.fs_tell < 0 := by
      rw [htell]
      exact e.2
    unfold Datalogger.write
    rw [if_neg hmode, if_pos hneg]
    exact ⟨rfl, Or.inl ⟨hneg, by simp⟩⟩
  | none =>
    unfold Datalogger.writesAt at h
    rcases mode_cases d with hcase | hcase | hcase
    · exact absurd hcase hmode
    · simp only [hcase, htell] at h
      split at h
      · rename_i hfull
        rw [write_of_fixedSize hcase htell, if_pos hfull]
        exact ⟨rfl, Or.inr ⟨rfl, hcase, rfl, hfull⟩⟩
      · cases h
    · simp only [hcase, htell] at h
      split at h <;> cases h

/-- A failing `fs_write` leaves the content. -/
theorem fsWrite_error (d : Datalogger) (packet : Vector UInt8 s) {answers : FsAnswers} {e : Errno}
    (h : answers.fs_write = .error e) : d.fsWrite packet.toList answers = (d, e.val) := by
  unfold Datalogger.fsWrite FsFile.write
  rw [h]

/-- What `fs_write` stores and returns. -/
theorem fsWrite_ok (d : Datalogger) (packet : Vector UInt8 s) {answers : FsAnswers} {k : Nat}
    (happend : d.file.append = false) (h : answers.fs_write = .ok k) :
    (d.fsWrite packet.toList answers).1.file.content =
        overwrite 0 d.file.content d.file.pos (packet.toList.take k) ∧
      (d.fsWrite packet.toList answers).2 = (min k s : Nat) := by
  unfold Datalogger.fsWrite FsFile.write
  rw [h, happend]
  refine ⟨rfl, ?_⟩
  show ((packet.toList.take k).length : Int) = _
  rw [List.length_take, packet.length_toList]

section Step

variable {bound : Nat} (packet : Vector UInt8 s) {answers : FsAnswers}

/-- A write that does not get to `fs_write` is sound unless `ENOSPC` counts as a packet. -/
theorem writeSound_of_not_writesAt (hlen : d.file.content.length ≤ bound)
    (h : d.writesAt s answers = none) :
    WriteSound d bound packet answers ↔ WriteCondition d bound s answers := by
  obtain ⟨hsame, hret⟩ := write_of_not_writesAt packet h
  have hstores : ¬ d.Stores s answers := by
    rintro ⟨p, k, hp, -⟩
    rw [h] at hp
    cases hp
  constructor
  · intro hsound
    have hlt := hsound.reported hstores
    refine ⟨fun _ htell _ => ?_, fun p k hp => ?_, fun p k hp => ?_⟩
    · rcases hret with ⟨-, hne⟩ | ⟨heq, -⟩
      · exact absurd htell hne
      · rwa [heq] at hlt
    · rw [h] at hp
      cases hp
    · rw [h] at hp
      cases hp
  · intro hcond
    have hlt : (d.write packet.toList answers).2 < s := by
      rcases hret with ⟨hneg, -⟩ | ⟨heq, hmode, htell, hfull⟩
      · omega
      · rw [heq]
        exact hcond.full hmode htell hfull
    exact ⟨by rwa [hsame], fun heq => absurd heq (Int.ne_of_lt hlt), fun _ => hlt⟩

/-- A write that `fs_write` refuses is sound. -/
theorem writeSound_of_error (hlen : d.file.content.length ≤ bound) {p : Nat} {e : Errno}
    (h : d.writesAt s answers = some p) (he : answers.fs_write = .error e) :
    WriteSound d bound packet answers := by
  have hwrite := write_of_writesAt packet h
  rw [fsWrite_error _ packet he] at hwrite
  have hlt : (d.write packet.toList answers).2 < s := by
    rw [hwrite]
    have hneg := e.2
    show e.val < (s : Int)
    omega
  exact ⟨by rwa [hwrite], fun heq => absurd heq (Int.ne_of_lt hlt), fun _ => hlt⟩

/-- A write that stores `k` bytes at `p` is sound if what it stores ends within the bound, and a
whole packet is on the grid. -/
theorem writeSound_of_ok (hlen : d.file.content.length ≤ bound) (happend : d.file.append = false)
    {p k : Nat} (h : d.writesAt s answers = some p) (hk : answers.fs_write = .ok k) :
    WriteSound d bound packet answers ↔ p + min k s ≤ bound ∧ (s ≤ k → s ∣ p) := by
  have hwrite : (d.write packet.toList answers).1.file.content =
        overwrite 0 d.file.content p (packet.toList.take k) ∧
      (d.write packet.toList answers).2 = (min k s : Nat) := by
    rw [write_of_writesAt packet h]
    exact fsWrite_ok { d with file := { d.file with pos := p } } packet happend hk
  obtain ⟨hcontent, hret⟩ := hwrite
  have hlength : (d.write packet.toList answers).1.file.content.length =
      max d.file.content.length (p + min k s) := by
    rw [hcontent, length_overwrite, List.length_take, packet.length_toList]
  constructor
  · intro hsound
    have hbounded := hsound.bounded
    rw [hlength] at hbounded
    refine ⟨by omega, fun hle => ?_⟩
    obtain ⟨q, hq, hdvd, -⟩ := hsound.onGrid (by rw [hret, Nat.min_eq_right hle])
    rw [h] at hq
    cases hq
    exact hdvd
  · rintro ⟨hend, hgrid⟩
    refine ⟨by rw [hlength]; omega, fun heq => ?_, fun hnot => ?_⟩
    · rw [hret] at heq
      have hle : s ≤ k := by omega
      refine ⟨p, h, hgrid hle, ?_⟩
      have hwhole := take_drop_overwrite 0 d.file.content p packet.toList
      rw [packet.length_toList] at hwhole
      rw [hcontent, List.take_of_length_le (l := packet.toList) (by rwa [packet.length_toList])]
      exact hwhole
    · have hlt : k < s := Nat.lt_of_not_le fun hle => hnot ⟨p, k, h, hk, hle⟩
      rw [hret]
      omega

omit packet in
/-- A packet on the grid that starts inside the bound ends inside it. -/
theorem next_packet_le {p n : Nat} (hgrid : s ∣ p) (hlt : p < n * s) : p + s ≤ n * s := by
  obtain ⟨i, rfl⟩ := hgrid
  rw [Nat.mul_comm s i] at hlt ⊢
  rw [← Nat.succ_mul]
  exact Nat.mul_le_mul_right s (Nat.lt_of_mul_lt_mul_right hlt)

/-- **When a write is sound.** -/
theorem writeSound_iff (hlen : d.file.content.length ≤ bound)
    (hbound : d.num_packets * s ≤ bound) (happend : d.file.append = false) :
    WriteSound d bound packet answers ↔ WriteCondition d bound s answers := by
  cases h : d.writesAt s answers with
  | none => exact writeSound_of_not_writesAt packet hlen h
  | some p =>
    have hfull : d.mode = .FixedSize → answers.fs_tell = none →
        d.num_packets ≤ d.file.pos / s → ENOSPC < s := by
      intro hmode htell hge
      simp [Datalogger.writesAt, hmode, htell, hge] at h
    cases hk : answers.fs_write with
    | error e =>
      refine iff_of_true (writeSound_of_error packet hlen h hk)
        ⟨hfull, fun p k _ hok => ?_, fun p k _ hok => ?_⟩
      · rw [hk] at hok
        cases hok
      · rw [hk] at hok
        cases hok
    | ok k =>
      rw [writeSound_of_ok packet hlen happend h hk]
      constructor
      · rintro ⟨hend, hgrid⟩
        refine ⟨hfull, fun q j hq hj hoff => ?_, fun q j hq hj _ => ?_⟩
        · cases h.symm.trans hq
          cases hk.symm.trans hj
          have hlt : k < s := Nat.lt_of_not_le fun hle => hoff (hgrid hle)
          exact ⟨hlt, by omega⟩
        · cases h.symm.trans hq
          cases hk.symm.trans hj
          exact hend
      · intro hcond
        refine ⟨?_, fun hle => ?_⟩
        · by_cases hoff : s ∣ p
          · rcases Nat.lt_or_ge p (d.num_packets * s) with hlt | hge
            · -- the next packet on the grid is inside the bound
              have hnext := next_packet_le hoff hlt
              omega
            · exact hcond.pastEnd p k h hk hge
          · have hend := (hcond.offGrid p k h hk hoff).2
            omega
        · by_contra hoff
          have hlt := (hcond.offGrid p k h hk hoff).1
          omega

end Step

/-! ## Runs -/

/-- `write`, as a step of a run: a packet, and what the file system answers. -/
def Datalogger.logUnder (d : Datalogger) (w : Vector UInt8 s × FsAnswers) : Datalogger :=
  (d.write w.1.toList w.2).1

/-- The logger after `writes`, on a file with this content. -/
def loggedUnder (content : List UInt8) (mode : LogMode) (n : Nat)
    (writes : List (Vector UInt8 s × FsAnswers)) : Datalogger :=
  run Datalogger.logUnder (Datalogger.new content mode n) writes

/-- The bound of the file: `n` packets, or what it held before. -/
def fileBound (content : List UInt8) (n s : Nat) : Nat := max content.length (n * s)

/-- What sound writes keep. -/
structure LogInv (content : List UInt8) (n s : Nat) (d : Datalogger) : Prop where
  bounded : d.file.content.length ≤ fileBound content n s
  num_packets : d.num_packets = n
  append : d.file.append = false

/-- **A log survives file-system trouble**: every write is sound. -/
def Survives (content : List UInt8) (mode : LogMode) (n : Nat)
    (writes : List (Vector UInt8 s × FsAnswers)) : Prop :=
  ∀ pre w, pre ++ [w] <+: writes →
    WriteSound (loggedUnder content mode n pre) (fileBound content n s) w.1 w.2

/-- A write leaves all but the file's content and position. -/
theorem write_frame (d : Datalogger) (packet : Vector UInt8 s) (answers : FsAnswers) :
    (d.write packet.toList answers).1.num_packets = d.num_packets ∧
      (d.write packet.toList answers).1.file.append = d.file.append := by
  cases h : d.writesAt s answers with
  | none => rw [(write_of_not_writesAt packet h).1]; exact ⟨rfl, rfl⟩
  | some p =>
    rw [write_of_writesAt packet h]
    refine ⟨rfl, ?_⟩
    unfold Datalogger.fsWrite FsFile.write
    cases answers.fs_write <;> rfl

/-- **A log survives exactly the trouble in which every write meets the condition.** -/
theorem survives_iff (content : List UInt8) (mode : LogMode) (n : Nat)
    (writes : List (Vector UInt8 s × FsAnswers)) :
    Survives content mode n writes ↔ ∀ pre w, pre ++ [w] <+: writes →
      WriteCondition (loggedUnder content mode n pre) (fileBound content n s) s w.2 := by
  have hiff : ∀ (d : Datalogger) (w : Vector UInt8 s × FsAnswers),
      LogInv content n s d → (WriteSound d (fileBound content n s) w.1 w.2 ↔
        WriteCondition d (fileBound content n s) s w.2) := by
    rintro d w ⟨hlen, rfl, happend⟩
    exact writeSound_iff w.1 hlen (Nat.le_max_right ..) happend
  have hkeep : ∀ (d : Datalogger) (w : Vector UInt8 s × FsAnswers), LogInv content n s d →
      WriteSound d (fileBound content n s) w.1 w.2 → LogInv content n s (d.logUnder w) := by
    intro d w hinv hsound
    obtain ⟨hframe, hframe'⟩ := write_frame d w.1 w.2
    exact ⟨hsound.bounded, hframe.trans hinv.num_packets, hframe'.trans hinv.append⟩
  exact forall_step_iff hiff hkeep ⟨Nat.le_max_left .., rfl, rfl⟩ writes

/-- A write of which one byte is stored, and a whole one behind it. -/
def shortWrite : List (Vector UInt8 2 × FsAnswers) :=
  [(#v[1, 2], FsAnswers.full 1), (#v[3, 4], FsAnswers.full 2)]

/-- **A short write takes the log off its grid**: the next packet goes across the end of a file of
one packet. -/
theorem survives_fails :
    ¬ ∀ (mode : LogMode) (n : Nat) (writes : List (Vector UInt8 2 × FsAnswers)),
      mode ≠ .Growing → 0 < n → Survives [] mode n writes := by
  intro h
  have hsound := h .FixedSize 1 shortWrite (by decide) (by decide) [(#v[1, 2], FsAnswers.full 1)]
    (#v[3, 4], FsAnswers.full 2) List.prefix_rfl
  exact absurd hsound.bounded (by decide)

end Backplane.Os
