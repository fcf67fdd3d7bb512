import Mathlib.Algebra.Order.Ring.Int
import Mathlib.Data.List.Basic

/-!
# Files

Model of `CFile` (`include/f_core/os/c_file.h`, `lib/f_core/os/c_file.cpp`) as its reader sees it.
The file system is a parameter: `Fs` holds Zephyr's answers for one path. `fs_read` reads at the
file position; `Read` seeks to its offset first unless that is 0, and the readers of this
development read at 0 once, first, where the position of an opened file is.
-/

namespace Backplane.Os

/-- The answers of `fs_open`, `fs_stat`, `fs_seek` (to an offset) and `fs_read` (at a position). -/
structure Fs where
  fs_open : Int
  fs_stat : Except Int Nat
  fs_seek : Int → Int
  fs_read : Int → Nat → Int × List UInt8

def FS_O_READ : Nat := 1

/-- `CFile`. -/
structure CFile where
  fs : Fs
  flags : Nat
  initStatus : Int

/-- The constructor. -/
def CFile.new (fs : Fs) (flags : Nat) : CFile :=
  { fs := fs, flags := flags, initStatus := fs.fs_open }

/-- `GetInitStatus`. -/
def CFile.getInitStatus (f : CFile) : Int := f.initStatus

/-- `GetFileSize`: 0 on error. -/
def CFile.getFileSize (f : CFile) : Nat :=
  match f.fs.fs_stat with
  | .ok size => size
  | .error _ => 0

/-- `Read`: what it returns, and the bytes it wrote to its buffer. -/
def CFile.read (f : CFile) (len : Nat) (offset : Int) : Int × List UInt8 :=
  if f.initStatus < 0 then (-1, [])
  else if f.flags &&& FS_O_READ = 0 then (-1, [])
  else if offset > 0 then
    if f.fs.fs_seek offset < 0 then (-1, []) else f.fs.fs_read offset len
  else f.fs.fs_read 0 len

/-! ## The calls made -/

/-- A call of the file system, with what it returned. -/
inductive FsCall
  | fs_stat (ret : Int)
  | fs_seek (ret : Int)
  | fs_read (ret : Int)

/-- The call reported an error. -/
def FsCall.failed : FsCall → Bool
  | .fs_stat ret => ret < 0
  | .fs_seek ret => ret < 0
  | .fs_read ret => ret < 0

/-- The call that `GetFileSize` makes. -/
def CFile.getFileSizeCall (f : CFile) : FsCall :=
  match f.fs.fs_stat with
  | .ok _ => .fs_stat 0
  | .error err => .fs_stat err

/-- The calls that `Read` makes. -/
def CFile.readCalls (f : CFile) (len : Nat) (offset : Int) : List FsCall :=
  if f.initStatus < 0 then []
  else if f.flags &&& FS_O_READ = 0 then []
  else if offset > 0 then
    .fs_seek (f.fs.fs_seek offset) ::
      if f.fs.fs_seek offset < 0 then [] else [.fs_read (f.fs.fs_read offset len).1]
  else [.fs_read (f.fs.fs_read 0 len).1]

/-- Answers of the documented kinds: errors are negative, results fit an `int`, and no more is read
than was asked for. -/
structure Fs.Documented (fs : Fs) : Prop where
  stat_error : ∀ err, fs.fs_stat = .error err → err < 0
  read_ge : ∀ pos len, -2 ^ 31 ≤ (fs.fs_read pos len).1
  read_le : ∀ pos len, (fs.fs_read pos len).1 ≤ len

/-- A failed `fs_stat` looks like an empty file. -/
theorem getFileSizeCall_failed {f : CFile} (h : f.getFileSizeCall.failed = true) :
    f.getFileSize = 0 := by
  unfold CFile.getFileSizeCall at h
  unfold CFile.getFileSize
  cases hs : f.fs.fs_stat with
  | ok size =>
    rw [hs] at h
    exact absurd h Bool.false_ne_true
  | error err => rfl

/-- `Read` returns an error exactly if a call of it did, and otherwise at most `len`. -/
theorem read_spec {f : CFile} (hd : f.fs.Documented) (hopen : ¬ f.initStatus < 0)
    (hflags : f.flags &&& FS_O_READ ≠ 0) (len : Nat) (offset : Int) :
    ((f.read len offset).1 < 0 ↔ ∃ c ∈ f.readCalls len offset, c.failed = true) ∧
      -2 ^ 31 ≤ (f.read len offset).1 ∧ (f.read len offset).1 ≤ len := by
  unfold CFile.read CFile.readCalls
  rw [if_neg hopen, if_neg hflags, if_neg hopen, if_neg hflags]
  by_cases hoffset : offset > 0
  · rw [if_pos hoffset, if_pos hoffset]
    by_cases hseek : f.fs.fs_seek offset < 0
    · rw [if_pos hseek, if_pos hseek]
      refine ⟨?_, by omega, by omega⟩
      simp [FsCall.failed, hseek]
    · rw [if_neg hseek, if_neg hseek]
      refine ⟨?_, hd.read_ge offset len, hd.read_le offset len⟩
      simp [FsCall.failed, hseek]
  · rw [if_neg hoffset, if_neg hoffset]
    refine ⟨?_, hd.read_ge 0 len, hd.read_le 0 len⟩
    simp [FsCall.failed]

/-! ## Files that are read as they are -/

/-- The file holds `content`, and every read at an offset inside it gets the bytes there. -/
structure CFile.Holds (f : CFile) (len : Nat) (content : List UInt8) : Prop where
  opened : ¬ f.getInitStatus < 0
  size : f.getFileSize = content.length
  read : ∀ offset : Nat, offset < content.length →
    f.read len offset =
      (((min len (content.length - offset) : Nat) : Int), (content.drop offset).take len)

/-- A file system that serves `content`. -/
def Fs.serving (content : List UInt8) : Fs where
  fs_open := 0
  fs_stat := .ok content.length
  fs_seek _ := 0
  fs_read pos len :=
    (((content.drop pos.toNat).take len).length, (content.drop pos.toNat).take len)

/-- **A file of a file system that serves `content` holds it.** -/
theorem holds_serving (content : List UInt8) (len : Nat) :
    (CFile.new (Fs.serving content) FS_O_READ).Holds len content := by
  refine ⟨?_, rfl, fun offset hlt => ?_⟩
  · simp [CFile.getInitStatus, CFile.new, Fs.serving]
  · have hlen : ((content.drop offset).take len).length = min len (content.length - offset) := by
      rw [List.length_take, List.length_drop]
    rw [← hlen]
    cases offset with
    | zero => simp [CFile.read, CFile.new, Fs.serving, FS_O_READ]
    | succ n => simp [CFile.read, CFile.new, Fs.serving, FS_O_READ]

end Backplane.Os
