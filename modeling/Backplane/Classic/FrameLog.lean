import Backplane.General.Run
import Backplane.Os.FsFile

/-!
# The classic frame log

Model of `l_fs_file_t` and its functions (`include/launch_core_classic/os/fs.h`,
`lib/launch_core_classic/os/fs.c`). Reads and writes share one file position, which every call sets
first; the write position is kept in `wpos`, and wrapped by the write after the last frame. Values
of `off_t` are integers, and arithmetic on them wraps at 32 bits (`offT`); the bound is compared as
`uint64_t`. An `l_fs_log_mode_t` is one of its two values, so that the `default` of the switch over
it is never taken.

Results:
* `past_end_iff`: what the comparison decides.
* `lFsWrite_circ`, `lFsWrite_once`, `Framed.lFsRead_slot`: one call.
* `frame_log`: what is read back after any calls.
-/

namespace Backplane.Classic

open Backplane.Os
open Backplane.Ring
open Backplane.Run
open Backplane.Utils

def ENOTINIT : Int := 200
def EDOM : Int := 33

/-- `l_fs_log_mode_t`. -/
inductive LFsLogMode
  | SLOG_ONCE | SLOG_CIRC
  deriving DecidableEq

/-- `l_fs_file_t`. -/
structure LFsFile where
  width : Int
  mode : LFsLogMode
  size : Nat
  initialized : Bool
  file : FsFile
  wpos : Int

/-- `L_FS_CREATE_FILE`. -/
def L_FS_CREATE_FILE (sample_width n_samples : Nat) (mode : LFsLogMode) : LFsFile where
  width := sample_width
  mode := mode
  size := sample_width * n_samples
  initialized := false
  file := { content := [], pos := 0, append := false }
  wpos := 0

/-- `l_fs_init`, on a file with this content. -/
def LFsFile.lFsInit (p : LFsFile) (content : List UInt8) (fs_open : Option Errno) :
    LFsFile × Int :=
  match fs_open with
  | some e => (p, e)
  | none =>
    let p := { p with file := FsFile.open content (FS_O_CREATE ||| FS_O_RDWR) }
    if p.size < uint64T p.width then (p, -EDOM) else ({ p with initialized := true }, 0)

/-- The calls of `l_fs_write` once its write position is settled. -/
def LFsFile.store (p : LFsFile) (src : List UInt8) (answers : FsAnswers) :
    LFsFile × Nat × Option Int :=
  let r := p.file.seek p.wpos answers.fs_seek
  let p := { p with file := r.1 }
  if r.2 < 0 then (p, sizeT r.2, none)
  else
    let r := p.file.write (src.take p.width.toNat) answers.fs_write
    let p := { p with file := r.1 }
    if r.2 < 0 then (p, sizeT r.2, none)
    else ({ p with wpos := offT (p.file.tell answers.fs_tell) }, sizeT r.2, none)

/-- `l_fs_write`: the number of bytes it returns, and what it stores in `*err_flag`. -/
def LFsFile.lFsWrite (p : LFsFile) (src : List UInt8) (answers : FsAnswers) :
    LFsFile × Nat × Option Int :=
  if !p.initialized then (p, 0, some (-ENOTINIT))
  else if uint64T (offT (p.wpos + p.width)) > p.size then
    -- next write will go out-of-bounds
    match p.mode with
    | .SLOG_ONCE => (p, 0, some (-ENOSPC))
    | .SLOG_CIRC => LFsFile.store { p with wpos := 0 } src answers
  else p.store src answers

/-- `l_fs_read`: what it returns, and the bytes it writes to `dst`. -/
def LFsFile.lFsRead (p : LFsFile) (idx : Int) (fs_seek : Option Errno) :
    LFsFile × Nat × List UInt8 :=
  if !p.initialized then (p, sizeT (-ENOTINIT), [])
  else
    let frame_start := offT (idx * p.width)
    let frame_end := offT (frame_start + p.width)
    if uint64T frame_end > p.size then (p, sizeT (-EDOM), [])
    else
      let r := p.file.seek frame_start fs_seek
      let p := { p with file := r.1 }
      if r.2 < 0 then (p, sizeT r.2, [])
      else
        let r := p.file.read p.width.toNat
        ({ p with file := r.1 }, sizeT r.2.1, r.2.2)

/-- **A read never disturbs the write position**, nor the content. -/
theorem lFsRead_frame (p : LFsFile) (idx : Int) (fs_seek : Option Errno) :
    ∃ pos, (p.lFsRead idx fs_seek).1 = { p with file := { p.file with pos := pos } } := by
  obtain ⟨pos, hseek⟩ := seek_frame p.file (offT (idx * p.width)) fs_seek
  unfold LFsFile.lFsRead
  split
  · exact ⟨p.file.pos, rfl⟩
  · simp only [hseek]
    split
    · exact ⟨p.file.pos, rfl⟩
    · split
      · exact ⟨pos, rfl⟩
      · exact ⟨_, rfl⟩

variable {w n c : Nat}

/-- The bound of the write after `c` frames: past the end exactly behind the last slot. Where the
sum does not fit an `off_t` it turns negative, and huge as a `uint64_t`. -/
theorem past_end_iff (hw : 0 < w) (hn : 0 < n) (hc : c ≤ n) (hnext : c < n → (c + 1) * w < 2 ^ 31)
    (hlast : c = n → n * w < 2 ^ 31) :
    uint64T (offT (((c * w : Nat) : Int) + (w : Int))) > w * n ↔ n ≤ c := by
  rw [Nat.mul_comm w n]
  rcases Nat.lt_or_eq_of_le hc with hlt | rfl
  · have hfits := hnext hlt
    have hle : (c + 1) * w ≤ n * w := Nat.mul_le_mul_right w hlt
    rw [Nat.succ_mul] at hfits hle
    have hval : uint64T (offT (((c * w : Nat) : Int) + (w : Int))) = c * w + w := by
      unfold uint64T offT
      rw [Int.bmod_eq_of_le] <;> omega
    rw [hval]
    omega
  · have hfits := hlast rfl
    have hle : w ≤ c * w := Nat.le_mul_of_pos_left w hn
    refine ⟨fun _ => Nat.le_refl c, fun _ => ?_⟩
    unfold uint64T offT
    rcases Nat.lt_or_ge (c * w + w) (2 ^ 31) with hsum | hsum
    · rw [Int.bmod_eq_of_le] <;> omega
    · rw [← Int.sub_bmod_right, Int.bmod_eq_of_le] <;> omega

/-! ## One call -/

/-- The log is open, stands behind `c` frames and holds `slots`. -/
structure Framed (p : LFsFile) (mode : LFsLogMode) (n c : Nat) (slots : List (Vector UInt8 w)) :
    Prop where
  initialized : p.initialized = true
  mode : p.mode = mode
  width : p.width = w
  size : p.size = w * n
  append : p.file.append = false
  wpos : p.wpos = ((c * w : Nat) : Int)
  content : p.file.content = bytesOf slots

/-- A log that `l_fs_init` has opened on an empty file. -/
def opened (w n : Nat) (mode : LFsLogMode) : LFsFile :=
  ((L_FS_CREATE_FILE w n mode).lFsInit [] none).1

theorem framed_opened (hn : 0 < n) (mode : LFsLogMode) :
    Framed (opened w n mode) mode n 0 ([] : List (Vector UInt8 w)) := by
  have hwidth : uint64T w ≤ w * n := by
    have hle : w ≤ w * n := Nat.le_mul_of_pos_right w hn
    unfold uint64T
    omega
  have hopen : opened w n mode = { L_FS_CREATE_FILE w n mode with
      file := FsFile.open [] (FS_O_CREATE ||| FS_O_RDWR), initialized := true } := by
    have hsize : ¬ (L_FS_CREATE_FILE w n mode).size < uint64T (L_FS_CREATE_FILE w n mode).width :=
      Nat.not_lt.mpr hwidth
    unfold opened LFsFile.lFsInit
    simp only
    rw [if_neg hsize]
  rw [hopen]
  exact ⟨rfl, rfl, rfl, rfl, rfl, by rw [Nat.zero_mul]; rfl, rfl⟩

variable {p : LFsFile} {mode : LFsLogMode} {slots : List (Vector UInt8 w)}

/-- The comparison of `l_fs_write` at a write position. -/
theorem Framed.past_end (h : Framed p mode n c slots) (hw : 0 < w) (hn : 0 < n) (hc : c ≤ n)
    (hnext : c < n → (c + 1) * w < 2 ^ 31) (hlast : c = n → n * w < 2 ^ 31) :
    uint64T (offT (p.wpos + p.width)) > p.size ↔ n ≤ c := by
  rw [h.wpos, h.width, h.size]
  exact past_end_iff hw hn hc hnext hlast

/-- A write of an open log, by the place of its write position. -/
theorem Framed.lFsWrite_eq (h : Framed p mode n c slots)
    (hpast : uint64T (offT (p.wpos + p.width)) > p.size ↔ n ≤ c) (src : List UInt8)
    (answers : FsAnswers) :
    p.lFsWrite src answers =
      if n ≤ c then
        if mode = .SLOG_ONCE then (p, 0, some (-ENOSPC))
        else LFsFile.store { p with wpos := 0 } src answers
      else p.store src answers := by
  have hinit : ¬ (!p.initialized) = true := by
    rw [h.initialized]
    decide
  unfold LFsFile.lFsWrite
  rw [if_neg hinit]
  by_cases hfull : n ≤ c
  · rw [if_pos (hpast.mpr hfull), if_pos hfull]
    cases hmode : p.mode
    · rw [if_pos (h.mode.symm.trans hmode)]
    · rw [if_neg (by rw [← h.mode, hmode]; decide)]
  · rw [if_neg (fun hp => hfull (hpast.mp hp)), if_neg hfull]

/-- A frame stored at the write position. -/
theorem Framed.store {i : Nat} (h : Framed p mode n i slots) (hi : i ≤ slots.length)
    (hfits : (i + 1) * w < 2 ^ 31) (frame : Vector UInt8 w) :
    Framed (p.store frame.toList (FsAnswers.full w)).1 mode n (i + 1)
        (if i = slots.length then slots ++ [frame] else slots.set i frame) ∧
      (p.store frame.toList (FsAnswers.full w)).2 = (w, none) := by
  have hlen : frame.toList.length = w := frame.length_toList
  have hseek : p.file.seek p.wpos none = ({ p.file with pos := i * w }, 0) := by
    rw [h.wpos, seek_of_nonneg _ (Int.natCast_nonneg _), Int.toNat_natCast]
  have hsrc : frame.toList.take p.width.toNat = frame.toList := by
    rw [h.width, Int.toNat_natCast, List.take_of_length_le (Nat.le_of_eq hlen)]
  have hwrite := write_full (f := { p.file with pos := i * w }) h.append frame.toList
  rw [hlen] at hwrite
  have hsucc : (i + 1) * w = i * w + w := Nat.succ_mul i w
  have hstep : p.store frame.toList (FsAnswers.full w) =
      ({ p with
          file := { content := overwrite 0 p.file.content (i * w) frame.toList, pos := i * w + w
                    append := p.file.append }
          wpos := offT ((i * w + w : Nat) : Int) }, sizeT w, none) := by
    unfold LFsFile.store
    simp only [show (FsAnswers.full w).fs_seek = none from rfl, hseek, hsrc,
      show (FsAnswers.full w).fs_write = .ok w from rfl, hwrite,
      show (FsAnswers.full w).fs_tell = none from rfl]
    rw [if_neg (Int.lt_irrefl 0), if_neg (Int.not_lt.mpr (Int.natCast_nonneg w))]
    rfl
  have hwpos : offT ((i * w + w : Nat) : Int) = (((i + 1) * w : Nat) : Int) := by
    rw [hsucc] at hfits ⊢
    unfold offT
    rw [Int.bmod_eq_of_le] <;> omega
  have hsize : sizeT (w : Int) = w := by
    rw [hsucc] at hfits
    unfold sizeT
    omega
  rw [hstep, hwpos, hsize]
  refine ⟨⟨h.initialized, h.mode, h.width, h.size, h.append, rfl, ?_⟩, rfl⟩
  rw [h.content, overwrite_bytesOf slots hi]

/-- **A frame in `SLOG_CIRC` mode** goes to the slot of its number, modulo `n`. -/
theorem lFsWrite_circ {history : List (Vector UInt8 w)} (hw : 0 < w) (hn : 0 < n)
    (h : Framed p .SLOG_CIRC n c slots) (hslots : Slots n history slots)
    (hcursor : Cursor n history.length c) (hfits : min (history.length + 1) n * w < 2 ^ 31)
    (frame : Vector UInt8 w) :
    Framed (p.lFsWrite frame.toList (FsAnswers.full w)).1 .SLOG_CIRC n (history.length % n + 1)
      (place n history.length slots frame) := by
  have hslot : (history.length % n + 1) * w < 2 ^ 31 := by
    have hle : history.length % n + 1 ≤ min (history.length + 1) n :=
      Nat.le_min.mpr ⟨Nat.succ_le_succ (Nat.mod_le _ _), Nat.mod_lt _ hn⟩
    exact Nat.lt_of_le_of_lt (Nat.mul_le_mul_right w hle) hfits
  have hwrap := hcursor.wrap
  have hpast := h.past_end hw hn hcursor.le
    (fun hlt => by rw [if_neg (Nat.not_le.mpr hlt)] at hwrap; rwa [hwrap])
    (fun heq => by
      have hreached := hcursor.reached
      rwa [Nat.min_eq_right (by omega)] at hfits)
  have hwrite : ∃ p', Framed p' .SLOG_CIRC n (history.length % n) slots ∧
      p.lFsWrite frame.toList (FsAnswers.full w) = p'.store frame.toList (FsAnswers.full w) := by
    have hmode : ¬ LFsLogMode.SLOG_CIRC = .SLOG_ONCE := by decide
    rw [h.lFsWrite_eq hpast, if_neg hmode, ← hwrap]
    split
    · refine ⟨{ p with wpos := 0 }, ?_, rfl⟩
      exact ⟨h.initialized, h.mode, h.width, h.size, h.append, by rw [Nat.zero_mul]; rfl, h.content⟩
    · exact ⟨p, h, rfl⟩
  obtain ⟨p', hp', heq⟩ := hwrite
  rw [heq, hslots.place_eq hn]
  exact (hp'.store (hslots.mod_le_length hn) hslot frame).1

/-- **A frame in `SLOG_ONCE` mode** goes behind the others; past the last one the write fails and
changes nothing. -/
theorem lFsWrite_once (hw : 0 < w) (hn : 0 < n) (h : Framed p .SLOG_ONCE n slots.length slots)
    (hle : slots.length ≤ n) (hfits : min (slots.length + 1) n * w < 2 ^ 31)
    (frame : Vector UInt8 w) :
    if slots.length < n then
      Framed (p.lFsWrite frame.toList (FsAnswers.full w)).1 .SLOG_ONCE n (slots.length + 1)
        (slots ++ [frame])
    else p.lFsWrite frame.toList (FsAnswers.full w) = (p, 0, some (-ENOSPC)) := by
  have hpast := h.past_end hw hn hle
    (fun hlt => by rwa [Nat.min_eq_left hlt] at hfits)
    (fun heq => by rwa [heq, Nat.min_eq_right (Nat.le_succ n)] at hfits)
  rw [h.lFsWrite_eq hpast]
  by_cases hfree : slots.length < n
  · rw [if_pos hfree, if_neg (Nat.not_le.mpr hfree)]
    rw [Nat.min_eq_left hfree] at hfits
    have hstore := (h.store (Nat.le_refl _) hfits frame).1
    rwa [if_pos rfl] at hstore
  · rw [if_neg hfree, if_pos (Nat.le_of_not_lt hfree), if_pos rfl]

/-- **A frame is read back** at its slot. -/
theorem Framed.lFsRead_slot (h : Framed p mode n c slots) (hle : slots.length ≤ n)
    (hfits : slots.length * w < 2 ^ 31) {i : Nat} (hi : i < slots.length) :
    (p.lFsRead i none).2 = (w, slots[i].toList) := by
  have hinit : ¬ (!p.initialized) = true := by
    rw [h.initialized]
    decide
  have hsucc : (i + 1) * w = i * w + w := Nat.succ_mul i w
  have hend : (i + 1) * w ≤ slots.length * w := Nat.mul_le_mul_right w hi
  have hsize : slots.length * w ≤ w * n := by
    rw [Nat.mul_comm w n]
    exact Nat.mul_le_mul_right w hle
  have hstart : offT ((i : Int) * p.width) = ((i * w : Nat) : Int) := by
    rw [h.width, ← Int.natCast_mul]
    unfold offT
    rw [Int.bmod_eq_of_le] <;> omega
  have hbound : ¬ uint64T (offT (((i * w : Nat) : Int) + p.width)) > p.size := by
    rw [h.width, h.size, ← Int.natCast_add]
    unfold uint64T offT
    rw [Int.bmod_eq_of_le] <;> omega
  have hframes : ∀ f ∈ slots.map Vector.toList, f.length = w := by
    intro f hf
    obtain ⟨v, _, rfl⟩ := List.mem_map.mp hf
    exact v.length_toList
  have hbytes : (p.file.content.drop (i * w)).take p.width.toNat = slots[i].toList := by
    rw [h.content, h.width, Int.toNat_natCast, bytesOf,
      take_drop_flatten hframes (by rwa [List.length_map]), List.getElem_map]
  have hlen : sizeT (slots[i].toList.length : Int) = w := by
    rw [slots[i].length_toList]
    unfold sizeT
    omega
  unfold LFsFile.lFsRead FsFile.read
  rw [if_neg hinit]
  simp only [hstart]
  rw [if_neg hbound, seek_of_nonneg _ (Int.natCast_nonneg _), if_neg (Int.lt_irrefl 0)]
  simp only [Int.toNat_natCast, hbytes, hlen]

/-! ## Runs -/

/-- A call on an open log. -/
inductive FrameOp (w : Nat)
  | write (frame : Vector UInt8 w)
  | read (idx : Int)

/-- A call, with a file system that transfers full frames. -/
def LFsFile.step (p : LFsFile) : FrameOp w → LFsFile
  | .write frame => (p.lFsWrite frame.toList (FsAnswers.full w)).1
  | .read idx => (p.lFsRead idx none).1

/-- The frames written by calls. -/
def framesOf (ops : List (FrameOp w)) : List (Vector UInt8 w) :=
  ops.filterMap fun op =>
    match op with
    | .write frame => some frame
    | .read _ => none

theorem framesOf_write (ops : List (FrameOp w)) (frame : Vector UInt8 w) :
    framesOf (ops ++ [.write frame]) = framesOf ops ++ [frame] :=
  List.filterMap_append

theorem framesOf_read (ops : List (FrameOp w)) (idx : Int) :
    framesOf (ops ++ [.read idx]) = framesOf ops :=
  List.filterMap_append.trans (List.append_nil _)

theorem framesOf_prefix {pre ops : List (FrameOp w)} (h : pre <+: ops) :
    (framesOf pre).length ≤ (framesOf ops).length :=
  (h.filterMap _).length_le

theorem Framed.read (h : Framed p mode n c slots) (idx : Int) :
    Framed (p.step (.read idx : FrameOp w)) mode n c slots := by
  obtain ⟨pos, hread⟩ := lFsRead_frame p idx none
  show Framed (p.lFsRead idx none).1 mode n c slots
  rw [hread]
  exact ⟨h.initialized, h.mode, h.width, h.size, h.append, h.wpos, h.content⟩

theorem run_circ (hw : 0 < w) (hn : 0 < n) (ops : List (FrameOp w))
    (hfits : min (framesOf ops).length n * w < 2 ^ 31) :
    ∃ c slots, Framed (run LFsFile.step (opened w n .SLOG_CIRC) ops) .SLOG_CIRC n c slots ∧
      Slots n (framesOf ops) slots ∧ Cursor n (framesOf ops).length c := by
  refine run_prefix (motive := fun pre p => ∃ c slots, Framed p .SLOG_CIRC n c slots ∧
    Slots n (framesOf pre) slots ∧ Cursor n (framesOf pre).length c) ?_ ?_ List.prefix_rfl
  · exact ⟨0, [], framed_opened hn .SLOG_CIRC, Slots.nil n, Cursor.zero n⟩
  · rintro pre op hpre ⟨c, slots, h, hslots, hcursor⟩
    cases op with
    | write frame =>
      have hcount := framesOf_prefix hpre
      rw [framesOf_write, List.length_append, List.length_singleton] at hcount
      have hfits' : min ((framesOf pre).length + 1) n * w < 2 ^ 31 :=
        Nat.lt_of_le_of_lt (Nat.mul_le_mul_right w (by omega)) hfits
      rw [framesOf_write]
      refine ⟨_, _, lFsWrite_circ hw hn h hslots hcursor hfits' frame, hslots.place hn frame, ?_⟩
      rw [List.length_append]
      exact Cursor.next hn _
    | read idx =>
      rw [framesOf_read]
      exact ⟨c, slots, h.read idx, hslots, hcursor⟩

theorem run_once (hw : 0 < w) (hn : 0 < n) (ops : List (FrameOp w))
    (hfits : min (framesOf ops).length n * w < 2 ^ 31) :
    Framed (run LFsFile.step (opened w n .SLOG_ONCE) ops) .SLOG_ONCE n
      ((framesOf ops).take n).length ((framesOf ops).take n) := by
  refine run_prefix (motive := fun pre p => Framed p .SLOG_ONCE n
    ((framesOf pre).take n).length ((framesOf pre).take n)) ?_ ?_ List.prefix_rfl
  · rw [show framesOf ([] : List (FrameOp w)) = [] from rfl, List.take_nil]
    exact framed_opened hn .SLOG_ONCE
  · intro pre op hpre h
    cases op with
    | write frame =>
      have hcount := framesOf_prefix hpre
      rw [framesOf_write, List.length_append, List.length_singleton] at hcount
      have hfits' : min (((framesOf pre).take n).length + 1) n * w < 2 ^ 31 := by
        rw [List.length_take]
        exact Nat.lt_of_le_of_lt (Nat.mul_le_mul_right w (by omega)) hfits
      have hwrite := lFsWrite_once hw hn h (List.length_take_le _ _) hfits' frame
      rw [List.length_take] at hwrite
      rw [framesOf_write]
      by_cases hfree : (framesOf pre).length < n
      · rw [if_pos (by omega), Nat.min_eq_right (Nat.le_of_lt hfree),
          List.take_of_length_le (Nat.le_of_lt hfree)] at hwrite
        rwa [List.take_of_length_le (by rw [List.length_append]; exact hfree), List.length_append]
      · rw [if_neg (by omega)] at hwrite
        rw [List.take_append_of_le_length (Nat.le_of_not_lt hfree)]
        show Framed (LFsFile.lFsWrite _ frame.toList (FsAnswers.full w)).1 _ _ _ _
        rwa [hwrite]
    | read idx =>
      rw [framesOf_read]
      exact h.read idx

/-- **The frame log.** After any calls that leave what is written within an `off_t`: in `SLOG_CIRC`
mode frame `i` is the last one written whose number is congruent to it; in `SLOG_ONCE` mode it is
the `i`-th, and past the last frame a write fails and changes nothing. No read moves the write
position. -/
theorem frame_log (hw : 0 < w) (hn : 0 < n) (ops : List (FrameOp w))
    (hfits : min (framesOf ops).length n * w < 2 ^ 31) :
    (∀ i : Nat, i < min (framesOf ops).length n → ∃ j, ∃ hj : j < (framesOf ops).length,
      j % n = i ∧ (∀ k, j < k → k < (framesOf ops).length → k % n ≠ i) ∧
      ((run LFsFile.step (opened w n .SLOG_CIRC) ops).lFsRead i none).2 =
        (w, (framesOf ops)[j].toList)) ∧
    (∀ i : Nat, i < min (framesOf ops).length n → ∃ hi : i < (framesOf ops).length,
      ((run LFsFile.step (opened w n .SLOG_ONCE) ops).lFsRead i none).2 =
        (w, (framesOf ops)[i].toList)) ∧
    (n ≤ (framesOf ops).length → ∀ frame : Vector UInt8 w,
      (run LFsFile.step (opened w n .SLOG_ONCE) ops).lFsWrite frame.toList (FsAnswers.full w) =
        (run LFsFile.step (opened w n .SLOG_ONCE) ops, 0, some (-ENOSPC))) ∧
    ∀ mode idx fs_seek,
      ((run LFsFile.step (opened w n mode) ops).lFsRead idx fs_seek).1.wpos =
        (run LFsFile.step (opened w n mode) ops).wpos := by
  refine ⟨fun i hi => ?_, fun i hi => ?_, fun hfull frame => ?_, fun mode idx fs_seek => ?_⟩
  · obtain ⟨c, slots, h, hslots, -⟩ := run_circ hw hn ops hfits
    obtain ⟨j, hj, hmod, hlast, hget⟩ := hslots.holds hi
    have hlen := hslots.length
    have hi' : i < slots.length := by rwa [hlen]
    refine ⟨j, hj, hmod, hlast, ?_⟩
    rw [h.lFsRead_slot (by omega) (by rwa [hlen]) hi']
    rw [List.getElem?_eq_getElem hi', List.getElem?_eq_getElem hj, Option.some.injEq] at hget
    rw [hget]
  · have h := run_once hw hn ops hfits
    have hlen : ((framesOf ops).take n).length = min (framesOf ops).length n := by
      rw [List.length_take, Nat.min_comm]
    have hi' : i < ((framesOf ops).take n).length := by rwa [hlen]
    refine ⟨Nat.lt_of_lt_of_le hi (Nat.min_le_left _ _), ?_⟩
    rw [h.lFsRead_slot (List.length_take_le _ _) (by rwa [hlen]) hi', List.getElem_take]
  · have h := run_once hw hn ops hfits
    have hwrite := lFsWrite_once hw hn h (List.length_take_le _ _) ?_ frame
    · rwa [if_neg (by rw [List.length_take]; omega)] at hwrite
    · rw [List.length_take]
      exact Nat.lt_of_le_of_lt (Nat.mul_le_mul_right w (by omega)) hfits
  · obtain ⟨pos, hread⟩ := lFsRead_frame (run LFsFile.step (opened w n mode) ops) idx fs_seek
    rw [hread]

/-- Three frames in a log for two: the third is where the first was. -/
def threeFrames : List (FrameOp 2) :=
  [.write #v[10, 11], .write #v[12, 13], .read 1, .write #v[14, 15]]

theorem frame_log_wrapped :
    ((run LFsFile.step (opened 2 2 .SLOG_CIRC) threeFrames).lFsRead 0 none).2 =
      (2, [14, 15]) := by
  obtain ⟨j, hj, hmod, hlast, hread⟩ :=
    (frame_log (n := 2) (by decide) (by decide) threeFrames (by decide)).1 0 (by decide)
  have hlt : j < 3 := hj
  have htwo : j = 2 := by
    by_contra hne
    exact hlast 2 (by omega) (by decide) (by decide)
  subst htwo
  exact hread

end Backplane.Classic
