import Backplane.General.Run
import Backplane.Os.File
import Backplane.Os.FsFile

/-!
# Reads of one file

`CFile` with the position of its open file, which all calls of `Read` share. `Read` seeks only to an
offset above 0, so a call with offset 0 reads on where the call before it stopped. The answers of
`fs_seek` and `fs_read` are errors or those of Zephyr on this file.

Results:
* `read_eq_stateless`: with an offset above 0, or at the start of the file, `Read` is that of
  `CFile`, which has no position.
* `readsRight_iff`: which calls read the bytes at their offset.
* `all_reads_right_iff`: in which sequences all calls do.
* `all_reads_right_of_pos`: all those without a call at offset 0.
-/

namespace Backplane.Os

open Backplane.Run

/-- `CFile` with its file. -/
structure PositionedCFile where
  file : FsFile
  flags : Nat
  initStatus : Int

/-- A file with this content that was opened. -/
def PositionedCFile.new (content : List UInt8) (flags : Nat) : PositionedCFile :=
  { file := FsFile.open content flags, flags := flags, initStatus := 0 }

/-- What goes wrong in a call. -/
structure ReadAnswers where
  fs_seek : Option Errno
  fs_read : Option Errno

/-- `fs_read` at the position, which moves it: what it returns, and the bytes it reads. -/
def PositionedCFile.fsRead (f : PositionedCFile) (len : Nat) (answer : Option Errno) :
    PositionedCFile × Int × List UInt8 :=
  match answer with
  | some e => (f, e, [])
  | none => ({ f with file := (f.file.read len).1 }, (f.file.read len).2)

/-- `Read`. -/
def PositionedCFile.read (f : PositionedCFile) (len : Nat) (offset : Int) (answers : ReadAnswers) :
    PositionedCFile × Int × List UInt8 :=
  if f.initStatus < 0 then (f, -1, [])
  else if f.flags &&& FS_O_READ = 0 then (f, -1, [])
  else if offset > 0 then
    let sought := f.file.seek offset answers.fs_seek
    if sought.2 < 0 then ({ f with file := sought.1 }, -1, [])
    else PositionedCFile.fsRead { f with file := sought.1 } len answers.fs_read
  else f.fsRead len answers.fs_read

/-- A call of `Read`. -/
structure ReadCall where
  len : Nat
  offset : Nat
  answers : ReadAnswers

/-- The file after a call. -/
def PositionedCFile.afterRead (f : PositionedCFile) (call : ReadCall) : PositionedCFile :=
  (f.read call.len call.offset call.answers).1

/-- What a read of `len` bytes at `offset` should return, and write to its buffer. -/
def bytesAt (content : List UInt8) (offset len : Nat) : Int × List UInt8 :=
  (((min len (content.length - offset) : Nat) : Int), (content.drop offset).take len)

/-- The call fails, or returns the bytes of the file from its offset on. -/
def ReadsRight (content : List UInt8) (f : PositionedCFile) (call : ReadCall) : Prop :=
  0 ≤ (f.read call.len call.offset call.answers).2.1 →
    (f.read call.len call.offset call.answers).2 = bytesAt content call.offset call.len

/-- At offset 0, `fs_read` fails or meets the same bytes at the position as at the start. -/
def MeetsStart (content : List UInt8) (f : PositionedCFile) (call : ReadCall) : Prop :=
  call.offset = 0 → call.answers.fs_read = none →
    (content.drop f.file.pos).take call.len = content.take call.len

/-- A file open for reading, with its content. -/
structure PositionedCFile.Readable (f : PositionedCFile) (content : List UInt8) : Prop where
  content : f.file.content = content
  opened : ¬ f.initStatus < 0
  flags : f.flags &&& FS_O_READ ≠ 0

variable {f : PositionedCFile} {content : List UInt8}

theorem readable_new (content : List UInt8) {flags : Nat} (h : flags &&& FS_O_READ ≠ 0) :
    (PositionedCFile.new content flags).Readable content :=
  ⟨rfl, Int.not_lt.mpr (Int.le_refl 0), h⟩

theorem length_take_drop (content : List UInt8) (len pos : Nat) :
    ((content.drop pos).take len).length = min len (content.length - pos) := by
  rw [List.length_take, List.length_drop]

theorem fsRead_none (hf : f.Readable content) (len : Nat) :
    (f.fsRead len none).2 = bytesAt content f.file.pos len := by
  unfold PositionedCFile.fsRead FsFile.read bytesAt
  simp only [hf.content, length_take_drop]

/-- `fs_read` moves the position at most. -/
theorem fsRead_frame (f : PositionedCFile) (len : Nat) (answer : Option Errno) :
    ∃ pos, (f.fsRead len answer).1 = { f with file := { f.file with pos := pos } } := by
  cases answer with
  | some e => exact ⟨f.file.pos, rfl⟩
  | none => exact ⟨_, rfl⟩

/-- **A call leaves the file as it is**, but for the position. -/
theorem PositionedCFile.Readable.afterRead (hf : f.Readable content) (call : ReadCall) :
    (f.afterRead call).Readable content := by
  have hframe : ∃ pos, f.afterRead call = { f with file := { f.file with pos := pos } } := by
    unfold PositionedCFile.afterRead PositionedCFile.read
    rw [if_neg hf.opened, if_neg hf.flags]
    split
    · obtain ⟨pos, hpos⟩ := seek_frame f.file call.offset call.answers.fs_seek
      simp only [hpos]
      split
      · exact ⟨pos, rfl⟩
      · exact fsRead_frame _ _ _
    · exact fsRead_frame _ _ _
  obtain ⟨pos, hpos⟩ := hframe
  rw [hpos]
  exact ⟨hf.content, hf.opened, hf.flags⟩

/-- With an offset above 0, the position before the call does not matter. -/
theorem read_of_pos (hf : f.Readable content) {len offset : Nat} (hoffset : 0 < offset)
    (answers : ReadAnswers) : (f.read len offset answers).2 = match answers.fs_seek with
      | some _ => (-1, [])
      | none => match answers.fs_read with
        | some e => (e.1, [])
        | none => bytesAt content offset len := by
  have hgt : (offset : Int) > 0 := Int.natCast_pos.mpr hoffset
  unfold PositionedCFile.read
  rw [if_neg hf.opened, if_neg hf.flags, if_pos hgt]
  cases hseek : answers.fs_seek with
  | some e =>
    unfold FsFile.seek
    simp only
    rw [if_pos e.2]
  | none =>
    rw [seek_of_nonneg f.file (Int.natCast_nonneg offset)]
    cases hread : answers.fs_read with
    | some e => rfl
    | none =>
      have hsought : PositionedCFile.Readable
          { f with file := { f.file with pos := offset } } content :=
        ⟨hf.content, hf.opened, hf.flags⟩
      exact fsRead_none hsought len

/-- At offset 0, it is the position that is read at. -/
theorem read_zero (hf : f.Readable content) (len : Nat) (answers : ReadAnswers) :
    (f.read len (0 : Nat) answers).2 = match answers.fs_read with
      | some e => (e.1, [])
      | none => bytesAt content f.file.pos len := by
  unfold PositionedCFile.read
  rw [if_neg hf.opened, if_neg hf.flags, if_neg (by decide)]
  cases hread : answers.fs_read with
  | some e => rfl
  | none => exact fsRead_none hf len

/-- **Without the position**: a call that nothing goes wrong in, above offset 0 or at the start of
the file, is one of the `CFile` that the other readers use. -/
theorem read_eq_stateless (hf : f.Readable content) {offset : Nat}
    (hstart : 0 < offset ∨ f.file.pos = 0) (len : Nat) :
    (f.read len offset { fs_seek := none, fs_read := none }).2 =
      CFile.read { fs := Fs.serving content, flags := f.flags, initStatus := f.initStatus } len
        offset := by
  have hserved : ∀ pos : Nat, (Fs.serving content).fs_read pos len = bytesAt content pos len := by
    intro pos
    unfold Fs.serving bytesAt
    simp only [Int.toNat_natCast, length_take_drop]
  unfold CFile.read
  simp only [if_neg hf.opened, if_neg hf.flags]
  rcases Nat.eq_zero_or_pos offset with rfl | hpos
  · have hzero : f.file.pos = 0 := hstart.resolve_left (Nat.lt_irrefl 0)
    rw [read_zero hf, hzero, if_neg (by decide)]
    exact (hserved 0).symm
  · rw [read_of_pos hf hpos, if_pos (Int.natCast_pos.mpr hpos)]
    exact (hserved offset).symm

/-! ## Sequences of calls -/

/-- **One call**: above offset 0 it reads at its offset; at 0 it reads at the position. -/
theorem readsRight_iff (hf : f.Readable content) (call : ReadCall) :
    ReadsRight content f call ↔ MeetsStart content f call := by
  obtain ⟨len, offset, answers⟩ := call
  unfold ReadsRight MeetsStart
  simp only
  rcases Nat.eq_zero_or_pos offset with rfl | hpos
  · rw [read_zero hf]
    cases hread : answers.fs_read with
    | some e =>
      have hneg : ¬ (0 : Int) ≤ e.1 := Int.not_le.mpr e.2
      simp [hneg]
    | none =>
      unfold bytesAt
      rw [← length_take_drop, ← length_take_drop, List.drop_zero]
      constructor
      · intro h _ _
        exact (Prod.mk.inj (h (Int.natCast_nonneg _))).2
      · intro h _
        rw [h rfl rfl]
  · rw [read_of_pos hf hpos]
    have hne : offset ≠ 0 := hpos.ne'
    cases hseek : answers.fs_seek with
    | some e => simp [hne]
    | none =>
      cases hread : answers.fs_read with
      | some e =>
        have hneg : ¬ (0 : Int) ≤ e.1 := Int.not_le.mpr e.2
        simp [hne, hneg]
      | none => simp [hne]

theorem forall_readsRight_iff (hf : f.Readable content) (calls : List ReadCall) :
    (∀ pre call, pre ++ [call] <+: calls →
        ReadsRight content (run PositionedCFile.afterRead f pre) call) ↔
      ∀ pre call, pre ++ [call] <+: calls →
        MeetsStart content (run PositionedCFile.afterRead f pre) call :=
  forall_step_iff (I := fun f => PositionedCFile.Readable f content)
    (fun _ call hf => readsRight_iff hf call) (fun _ call hf _ => hf.afterRead call) hf calls

/-- **A sequence of calls** reads what it is told to iff every call at offset 0 fails, or meets the
bytes of the start at the position that the calls before it left. -/
theorem all_reads_right_iff (content : List UInt8) {flags : Nat} (hflags : flags &&& FS_O_READ ≠ 0)
    (calls : List ReadCall) :
    let file := PositionedCFile.new content flags
    (∀ pre call, pre ++ [call] <+: calls →
        ReadsRight content (run PositionedCFile.afterRead file pre) call) ↔
      ∀ pre call, pre ++ [call] <+: calls →
        MeetsStart content (run PositionedCFile.afterRead file pre) call :=
  forall_readsRight_iff (readable_new content hflags) calls

/-- A call that nothing goes wrong in. -/
def ReadCall.plain (len offset : Nat) : ReadCall :=
  { len := len, offset := offset, answers := { fs_seek := none, fs_read := none } }

/-- Three bytes, read front to back: the second call reads the last of them. -/
theorem all_reads_right_forward :
    ReadsRight [1, 2, 3] (run PositionedCFile.afterRead (PositionedCFile.new [1, 2, 3] FS_O_READ)
      [ReadCall.plain 2 0]) (ReadCall.plain 2 2) := by
  refine (all_reads_right_iff [1, 2, 3] (by decide) [ReadCall.plain 2 0, ReadCall.plain 2 2]).mpr
    (fun pre call hpre hzero _ => ?_) _ _ List.prefix_rfl
  rcases pre with _ | ⟨a, _ | ⟨b, pre⟩⟩
  · rfl
  · obtain ⟨rest, hrest⟩ := hpre
    obtain ⟨rfl, -⟩ := List.cons.inj (List.cons.inj hrest).2
    cases hzero
  · have hlen := hpre.length_le
    simp at hlen

/-- The same start, read twice: the second call reads the third byte. -/
theorem not_all_reads_right_twice :
    ¬ ∀ pre call, pre ++ [call] <+: [ReadCall.plain 2 0, ReadCall.plain 2 0] →
      ReadsRight [1, 2, 3] (run PositionedCFile.afterRead
        (PositionedCFile.new [1, 2, 3] FS_O_READ) pre) call := by
  intro h
  have hsecond := h [ReadCall.plain 2 0] (ReadCall.plain 2 0) List.prefix_rfl
  unfold ReadsRight at hsecond
  exact absurd (hsecond (by decide)) (by decide)

/-- A sequence in which only the first call is at offset 0. -/
theorem all_reads_right_of_pos (content : List UInt8) {flags : Nat}
    (hflags : flags &&& FS_O_READ ≠ 0) {first : ReadCall} {calls : List ReadCall}
    (hpos : ∀ call ∈ calls, 0 < call.offset) :
    ∀ pre call, pre ++ [call] <+: first :: calls → ReadsRight content
      (run PositionedCFile.afterRead (PositionedCFile.new content flags) pre) call := by
  refine (forall_readsRight_iff (readable_new content hflags) (first :: calls)).mpr
    fun pre call hpre hzero _ => ?_
  cases pre with
  | nil => exact congrArg (List.take call.len) List.drop_zero
  | cons a pre =>
    obtain ⟨rest, hrest⟩ := hpre
    rw [List.cons_append, List.cons_append] at hrest
    have hmem : call ∈ calls := by
      rw [← (List.cons.inj hrest).2]
      simp
    exact absurd hzero (hpos call hmem).ne'

end Backplane.Os
