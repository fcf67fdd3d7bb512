import Backplane.General.Ring
import Backplane.Utils.Bytes

/-!
# Open files

Model of an open `fs_file_t` as Zephyr's file system API keeps it: the content of the file, the
position, and whether it was opened to append. What can go wrong in a call is an input
(`FsAnswers`): a seek or a tell may fail, and a write may fail or store only a part.
-/

namespace Backplane.Os

open Backplane.Ring

def FS_O_WRITE : Nat := 0x02
def FS_O_RDWR : Nat := 0x03
def FS_O_CREATE : Nat := 0x10
def FS_O_APPEND : Nat := 0x20

def EINVAL : Int := 22
def ENOSPC : Int := 28

/-- A negative error code. -/
abbrev Errno := { e : Int // e < 0 }

/-- What the file system answers to the calls of one operation: an error, or success. `fs_write`
stores as many bytes as it is given here, at most what it was asked to. -/
structure FsAnswers where
  fs_seek : Option Errno
  fs_tell : Option Errno
  fs_write : Except Errno Nat

/-- Nothing goes wrong, and up to `n` bytes are stored. -/
def FsAnswers.full (n : Nat) : FsAnswers := { fs_seek := none, fs_tell := none, fs_write := .ok n }

/-- What `fs_write` stores of `data`. -/
def FsAnswers.stored (answers : FsAnswers) (data : List UInt8) : List UInt8 :=
  match answers.fs_write with
  | .error _ => []
  | .ok n => data.take n

/-- `fs_write` stores `len` bytes whole, or none of them. -/
def FsAnswers.AllOrNothing (answers : FsAnswers) (len : Nat) : Prop :=
  ∀ n, answers.fs_write = .ok n → n = 0 ∨ len ≤ n

theorem FsAnswers.AllOrNothing.stored {answers : FsAnswers} {data : List UInt8}
    (h : answers.AllOrNothing data.length) :
    answers.stored data = [] ∨ answers.stored data = data := by
  unfold FsAnswers.stored
  cases hanswer : answers.fs_write with
  | error e => exact .inl rfl
  | ok n =>
    rcases h n hanswer with rfl | hle
    · exact .inl List.take_zero
    · exact .inr (List.take_of_length_le hle)

/-- `fs_file_t`. -/
structure FsFile where
  content : List UInt8
  pos : Nat
  append : Bool

/-- `fs_open` of a file with this content, which is empty for a new file. -/
def FsFile.open (content : List UInt8) (flags : Nat) : FsFile :=
  { content := content, pos := 0, append := flags &&& FS_O_APPEND != 0 }

/-- `fs_seek` with `FS_SEEK_SET`. -/
def FsFile.seek (f : FsFile) (offset : Int) (answer : Option Errno) : FsFile × Int :=
  match answer with
  | some e => (f, e)
  | none => if offset < 0 then (f, -EINVAL) else ({ f with pos := offset.toNat }, 0)

/-- `fs_tell`. -/
def FsFile.tell (f : FsFile) (answer : Option Errno) : Int :=
  match answer with
  | some e => e
  | none => f.pos

/-- `fs_write`: an appending file writes at its end. -/
def FsFile.write (f : FsFile) (data : List UInt8) (answer : Except Errno Nat) : FsFile × Int :=
  match answer with
  | .error e => (f, e)
  | .ok n =>
    let stored := data.take n
    let pos := if f.append then f.content.length else f.pos
    ({ f with content := overwrite 0 f.content pos stored, pos := pos + stored.length },
      stored.length)

/-- `fs_read`: what it returns, and the bytes it writes to its buffer. -/
def FsFile.read (f : FsFile) (len : Nat) : FsFile × Int × List UInt8 :=
  let bytes := (f.content.drop f.pos).take len
  ({ f with pos := f.pos + bytes.length }, bytes.length, bytes)

theorem seek_of_nonneg (f : FsFile) {offset : Int} (h : 0 ≤ offset) :
    f.seek offset none = ({ f with pos := offset.toNat }, 0) := by
  unfold FsFile.seek
  exact if_neg (Int.not_lt.mpr h)

/-- A seek moves the position at most. -/
theorem seek_frame (f : FsFile) (offset : Int) (answer : Option Errno) :
    ∃ pos, (f.seek offset answer).1 = { f with pos := pos } := by
  unfold FsFile.seek
  split
  · exact ⟨f.pos, rfl⟩
  · split
    · exact ⟨f.pos, rfl⟩
    · exact ⟨_, rfl⟩

/-- A write of a file that does not append, stored whole. -/
theorem write_full {f : FsFile} (h : f.append = false) (data : List UInt8) :
    f.write data (.ok data.length) =
      ({ f with content := overwrite 0 f.content f.pos data, pos := f.pos + data.length },
        (data.length : Int)) := by
  unfold FsFile.write
  simp only [List.take_length, h]
  rfl

/-! ## Files of records -/

variable {s : Nat}

/-- The bytes of records, one after the other. -/
def bytesOf (records : List (Vector UInt8 s)) : List UInt8 :=
  (records.map Vector.toList).flatten

theorem bytesOf_concat (records : List (Vector UInt8 s)) (record : Vector UInt8 s) :
    bytesOf (records ++ [record]) = bytesOf records ++ record.toList := by
  unfold bytesOf
  rw [List.map_append, List.flatten_append, List.map_singleton, List.flatten_singleton]

/-- A record written at a slot of a file of records, or behind the last one. -/
theorem overwrite_bytesOf (slots : List (Vector UInt8 s)) {i : Nat} (hi : i ≤ slots.length)
    (record : Vector UInt8 s) :
    overwrite 0 (bytesOf slots) (i * s) record.toList =
      bytesOf (if i = slots.length then slots ++ [record] else slots.set i record) := by
  have hframes : ∀ f ∈ slots.map Vector.toList, f.length = s := by
    intro f hf
    obtain ⟨v, _, rfl⟩ := List.mem_map.mp hf
    exact v.length_toList
  unfold bytesOf
  rw [overwrite_flatten 0 hframes record.length_toList (by rwa [List.length_map]), List.length_map]
  split
  · rw [List.map_append, List.map_singleton]
  · rw [List.map_set]

end Backplane.Os
