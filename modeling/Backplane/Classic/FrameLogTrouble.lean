import Backplane.Classic.FrameLog

/-!
# The classic frame log and file-system trouble

What the caller of `l_fs_write` learns when `fs_seek`, `fs_write` or `fs_tell` fails, or `fs_write`
stores a part of the frame. The flag is set where a write is refused, and nowhere behind that.

Results:
* `lFsWrite_settle`: a write is refused, or goes to the file system from a settled position.
* `store_seek_error`, `store_write_error`, `store_written`: what each failure leaves.
* `short_write_aligned_iff`: the write position after a part of a frame.
* `trouble_not_reported`: no failure is reported.
-/

namespace Backplane.Classic

open Backplane.Os
open Backplane.Utils

namespace LFsFile

/-- The log that `l_fs_write` goes to the file system with, if it does not refuse the write. -/
def settle (p : LFsFile) : Option LFsFile :=
  if !p.initialized then none
  else if uint64T (offT (p.wpos + p.width)) > p.size then
    match p.mode with
    | .SLOG_ONCE => none
    | .SLOG_CIRC => some { p with wpos := 0 }
  else some p

/-- A call of the file system fails, from a settled position, or stores a part of the frame. -/
def Fails (q : LFsFile) (src : List UInt8) (answers : FsAnswers) : Prop :=
  (q.file.seek q.wpos answers.fs_seek).2 < 0 ∨
    ((q.file.seek q.wpos answers.fs_seek).1.write (src.take q.width.toNat) answers.fs_write).2 <
      q.width ∨
    answers.fs_tell ≠ none

/-- A call of the file system inside `l_fs_write` fails. -/
def Troubled (p : LFsFile) (src : List UInt8) (answers : FsAnswers) : Prop :=
  ∃ q, p.settle = some q ∧ q.Fails src answers

/-- **The caller is told**, and the log goes on at a frame. -/
structure Reports (p : LFsFile) (src : List UInt8) (answers : FsAnswers) : Prop where
  flagged : ∃ e, (p.lFsWrite src answers).2.2 = some e ∧ e < 0
  counted : ((p.lFsWrite src answers).2.1 : Int) < p.width
  aligned : ∃ k : Nat, (p.lFsWrite src answers).1.wpos = k * p.width ∧ k * p.width ≤ p.size
  next : ∀ frame : List UInt8, frame.length = p.width →
    ((p.lFsWrite src answers).1.lFsWrite frame (FsAnswers.full frame.length)).2 =
        (frame.length, none) →
      ∃ k : Nat, frame = (((p.lFsWrite src answers).1.lFsWrite frame
        (FsAnswers.full frame.length)).1.file.content.drop (k * frame.length)).take frame.length

/-- A write goes to the file system, or is refused and flagged. -/
theorem lFsWrite_settle (p : LFsFile) (src : List UInt8) (answers : FsAnswers) :
    (∃ q, p.settle = some q ∧ p.lFsWrite src answers = q.store src answers) ∨
      p.settle = none ∧ ∃ e, e < 0 ∧ p.lFsWrite src answers = (p, 0, some e) := by
  unfold settle lFsWrite
  by_cases hinit : (!p.initialized) = true
  · rw [if_pos hinit, if_pos hinit]
    exact .inr ⟨rfl, _, by decide, rfl⟩
  · rw [if_neg hinit, if_neg hinit]
    by_cases hpast : uint64T (offT (p.wpos + p.width)) > p.size
    · rw [if_pos hpast, if_pos hpast]
      cases p.mode with
      | SLOG_ONCE => exact .inr ⟨rfl, _, by decide, rfl⟩
      | SLOG_CIRC => exact .inl ⟨_, rfl, rfl⟩
    · rw [if_neg hpast, if_neg hpast]
      exact .inl ⟨p, rfl, rfl⟩

/-! ## What each failure leaves -/

variable {q : LFsFile} {src : List UInt8} {answers : FsAnswers}

/-- **A seek that fails**: its code as a number of bytes, and the position as it was. -/
theorem store_seek_error (h : (q.file.seek q.wpos answers.fs_seek).2 < 0) :
    (q.store src answers).1.wpos = q.wpos ∧
      (q.store src answers).2 = (sizeT (q.file.seek q.wpos answers.fs_seek).2, none) := by
  unfold store
  simp only
  rw [if_pos h]
  exact ⟨rfl, rfl⟩

/-- **A write that fails**: the same. -/
theorem store_write_error (hseek : ¬(q.file.seek q.wpos answers.fs_seek).2 < 0) {e : Errno}
    (h : answers.fs_write = .error e) :
    (q.store src answers).1.wpos = q.wpos ∧ (q.store src answers).2 = (sizeT e, none) := by
  have hneg : ((q.file.seek q.wpos answers.fs_seek).1.write (src.take q.width.toNat)
      (.error e)).2 < 0 := e.2
  unfold store
  simp only
  rw [if_neg hseek, h, if_pos hneg]
  exact ⟨rfl, rfl⟩

/-- **A write that stores something**: the number of bytes, and what `fs_tell` answers for the
position. -/
theorem store_written (hseek : ¬(q.file.seek q.wpos answers.fs_seek).2 < 0) {n : Nat}
    (h : answers.fs_write = .ok n) :
    (q.store src answers).1.wpos =
        offT (((q.file.seek q.wpos answers.fs_seek).1.write (src.take q.width.toNat)
          (.ok n)).1.tell answers.fs_tell) ∧
      (q.store src answers).2 = (sizeT ((src.take q.width.toNat).take n).length, none) := by
  have hpos : ¬((q.file.seek q.wpos answers.fs_seek).1.write (src.take q.width.toNat)
      (.ok n)).2 < 0 := Int.not_lt.mpr (Int.natCast_nonneg _)
  unfold store
  simp only
  rw [if_neg hseek, h, if_neg hpos]
  exact ⟨rfl, rfl⟩

/-- **Nothing is flagged** once the file system is called. -/
theorem store_unflagged (q : LFsFile) (src : List UInt8) (answers : FsAnswers) :
    (q.store src answers).2.2 = none := by
  by_cases hseek : (q.file.seek q.wpos answers.fs_seek).2 < 0
  · rw [(store_seek_error hseek).2]
  · cases hwrite : answers.fs_write with
    | error e => rw [(store_write_error hseek hwrite).2]
    | ok n => rw [(store_written hseek hwrite).2]

end LFsFile

/-! ## A part of a frame -/

section
variable {w n c k : Nat} {p : LFsFile} {mode : LFsLogMode} {slots : List (Vector UInt8 w)}

/-- A log that stores `k` bytes of a frame stands behind them. -/
theorem Framed.store_short (h : Framed p mode n c slots) (hk : k ≤ w) (hfits : c * w + k < 2 ^ 31)
    (frame : Vector UInt8 w) :
    (p.store frame.toList (FsAnswers.full k)).1.wpos = ((c * w + k : Nat) : Int) ∧
      (p.store frame.toList (FsAnswers.full k)).2 = (k, none) := by
  have hfull : (FsAnswers.full k).fs_seek = none := rfl
  have hseek : p.file.seek p.wpos none = ({ p.file with pos := c * w }, 0) := by
    rw [h.wpos, seek_of_nonneg _ (Int.natCast_nonneg _), Int.toNat_natCast]
  have hlen : ((frame.toList.take p.width.toNat).take k).length = k := by
    rw [h.width, Int.toNat_natCast, List.length_take, List.length_take, frame.length_toList]
    omega
  have htell : (({ p.file with pos := c * w } : FsFile).write (frame.toList.take p.width.toNat)
      (.ok k)).1.tell none = ((c * w + k : Nat) : Int) := by
    unfold FsFile.write
    simp only [h.append, hlen]
    rfl
  have hnonneg : ¬(p.file.seek p.wpos (FsAnswers.full k).fs_seek).2 < 0 := by
    rw [hfull, hseek]
    exact Int.lt_irrefl 0
  have hcall : (FsAnswers.full k).fs_write = .ok k := rfl
  obtain ⟨hwpos, hret⟩ := @LFsFile.store_written p frame.toList _ hnonneg k hcall
  rw [hwpos, hret, hlen, hfull, hseek, show (FsAnswers.full k).fs_tell = none from rfl, htell]
  constructor
  · exact Int.bmod_eq_of_le (by omega) (by omega)
  · have hsize : sizeT (k : Int) = k := by
      unfold sizeT
      omega
    rw [hsize]

/-- **After a part of a frame** the log stands at a frame iff nothing was stored. -/
theorem Framed.short_write_aligned_iff (h : Framed p mode n c slots) (hk : k < w)
    (hfits : c * w + k < 2 ^ 31) (frame : Vector UInt8 w) :
    (∃ j : Nat, (p.store frame.toList (FsAnswers.full k)).1.wpos = j * p.width) ↔ k = 0 := by
  rw [(h.store_short (Nat.le_of_lt hk) hfits frame).1, h.width]
  constructor
  · rintro ⟨j, hj⟩
    have heq : c * w + k = j * w := by exact_mod_cast hj
    have hdvd : w ∣ c * w + k := heq ▸ Nat.dvd_mul_left w j
    exact Nat.eq_zero_of_dvd_of_lt ((Nat.dvd_add_right (Nat.dvd_mul_left w c)).mp hdvd) hk
  · rintro rfl
    exact ⟨c, by rw [Nat.add_zero, Int.natCast_mul]⟩

end

/-! ## The caller -/

namespace LFsFile

/-- **No failure is reported**, whichever call fails, in whatever state. -/
theorem trouble_not_reported {p : LFsFile} {src : List UInt8} {answers : FsAnswers}
    (h : p.Troubled src answers) : ¬p.Reports src answers := by
  intro hreports
  obtain ⟨q, hsettle, -⟩ := h
  obtain ⟨e, hflag, -⟩ := hreports.flagged
  rcases p.lFsWrite_settle src answers with ⟨q', -, hwrite⟩ | ⟨hnone, -⟩
  · rw [hwrite, store_unflagged q' src answers] at hflag
    exact Option.some_ne_none e hflag.symm
  · rw [hnone] at hsettle
    exact Option.some_ne_none q hsettle.symm

/-- The first frame of two bytes, of which one is stored. -/
theorem trouble_not_reported_short :
    ¬(opened 2 1 .SLOG_CIRC).Reports [1, 2] (FsAnswers.full 1) :=
  trouble_not_reported ⟨opened 2 1 .SLOG_CIRC, rfl, .inr (.inl (by decide))⟩

/-- One byte of two is stored, and the caller sees no flag. -/
theorem not_reports_short :
    ¬∀ (p : LFsFile) (src : List UInt8) (answers : FsAnswers), p.Troubled src answers →
      p.Reports src answers := by
  intro h
  have hreports := h (opened 2 1 .SLOG_CIRC) [1, 2] (FsAnswers.full 1)
    ⟨opened 2 1 .SLOG_CIRC, rfl, .inr (.inl (by decide))⟩
  obtain ⟨e, hflag, -⟩ := hreports.flagged
  exact Option.some_ne_none e hflag.symm

end LFsFile

end Backplane.Classic
