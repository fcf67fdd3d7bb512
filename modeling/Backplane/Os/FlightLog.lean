import Backplane.Os.FsFile
import Backplane.Utils.Format

/-!
# The flight log

Model of `CFlightLog` (`include/f_core/os/flight_log.hpp`, `lib/f_core/os/flight_log.cpp`) and of
`LogSourceEvent` and `LogEventConfirmed` (`include/f_core/flight/c_phase_controller.h`). A call of
`fs_write` is recorded with the buffer it is given and the length it is asked to read from it; a
length beyond the buffer reads the memory behind it.

Results:
* `inBounds_writeTimestamp_iff`, `data_writeTimestamp_iff`: a timestamp of ten characters loses the
  space behind it to the zero of `snprintf`, a longer one makes `fs_write` read past the buffer.
* `flight_log_line_iff`: when a line is the one that was asked for and all reads are in bounds.
-/

namespace Backplane.Os

open Backplane.Ring
open Backplane.Utils

/-- A call of `fs_write`: what it points to, and how much of it is to be written. -/
structure FsWriteCall where
  buffer : List UInt8
  size : Nat

/-- It reads its buffer only. -/
def FsWriteCall.InBounds (c : FsWriteCall) : Prop := c.size ≤ c.buffer.length

/-- The bytes it reads; `behind` is the memory behind the buffer. -/
def FsWriteCall.data (behind : Nat → UInt8) (c : FsWriteCall) : List UInt8 :=
  c.buffer.take c.size ++ (List.range (c.size - c.buffer.length)).map behind

/-- `CFlightLog`, opened with `FS_O_CREATE | FS_O_APPEND`. -/
structure CFlightLog where
  file : FsFile
  append : file.append = true

/-- The log of a file with this content. -/
def CFlightLog.open (content : List UInt8) : CFlightLog :=
  { file := FsFile.open content (FS_O_CREATE ||| FS_O_APPEND), append := rfl }

/-- What a call depends on: the clock, the memory behind a buffer, and what the file system answers
to the three calls of `fs_write`. -/
structure LogEnv where
  k_uptime_get : Int64
  behind : Nat → UInt8
  timestamp : Except Errno Nat
  message : Except Errno Nat
  newline : Except Errno Nat

/-- What a call leaves: the log, its result, and the calls of `fs_write` it made. -/
structure LogResult where
  log : CFlightLog
  ret : Int
  calls : List FsWriteCall

/-- `fs_write`. -/
def CFlightLog.fsWrite (log : CFlightLog) (c : FsWriteCall) (behind : Nat → UInt8)
    (answer : Except Errno Nat) : CFlightLog × Int :=
  ({ file := (log.file.write (c.data behind) answer).1
     append := by
      unfold FsFile.write
      split
      · exact log.append
      · exact log.append },
    (log.file.write (c.data behind) answer).2)

/-- `%9lld: ` -/
def timestampText (timestamp : Int64) : List UInt8 :=
  padLeft 9 (decimal timestamp.toInt) ++ text ": "

/-- The size of the buffer in `writeTimestamp`. -/
def timestampBufSize : Nat := 12

/-- The size of the buffers in `LogSourceEvent` and `LogEventConfirmed`. -/
def eventBufSize : Nat := 64

/-- The call that `writeTimestamp` makes. -/
def writeTimestamp (timestamp : Int64) : FsWriteCall :=
  let printed := snprintf timestampBufSize (timestampText timestamp)
  { buffer := printed.1, size := sizeT printed.2 }

/-- `Write(timestamp, msg, str_len)`. -/
def CFlightLog.writeLen (log : CFlightLog) (timestamp : Int64) (msg : List UInt8) (str_len : Nat)
    (env : LogEnv) : LogResult :=
  let call1 := writeTimestamp timestamp
  let w1 := log.fsWrite call1 env.behind env.timestamp
  if w1.2 < 0 then { log := w1.1, ret := w1.2, calls := [call1] }
  else
    let call2 := { buffer := msg, size := str_len }
    let w2 := w1.1.fsWrite call2 env.behind env.message
    if w2.2 < 0 then { log := w2.1, ret := w2.2, calls := [call1, call2] }
    else
      let call3 := { buffer := text "\n", size := 1 }
      let w3 := w2.1.fsWrite call3 env.behind env.newline
      if w3.2 < 0 then { log := w3.1, ret := w3.2, calls := [call1, call2, call3] }
      else { log := w3.1, ret := 0, calls := [call1, call2, call3] }

/-- The bytes before the terminating zero. -/
def cstring (msg : List UInt8) : List UInt8 := msg.takeWhile (· != 0)

/-- `Write(timestamp, msg)`, which writes the uptime for the timestamp. The length goes through an
`int` and is the same 32-bit `size_t` again. -/
def CFlightLog.write (log : CFlightLog) (_timestamp : Int64) (msg : List UInt8) (env : LogEnv) :
    LogResult :=
  let str_len := (cstring msg).length
  log.writeLen env.k_uptime_get msg str_len env

/-- `Write(msg, str_len)`. -/
def CFlightLog.writeNow (log : CFlightLog) (msg : List UInt8) (str_len : Nat) (env : LogEnv) :
    LogResult :=
  log.writeLen env.k_uptime_get msg str_len env

/-- `LogSourceEvent`, with a flight log; the arguments are the names in the tables. -/
def logSourceEvent (flight_log : CFlightLog) (event source : List UInt8) (env : LogEnv) :
    LogResult :=
  let printed := snprintf eventBufSize (padRight 10 event ++ text " from " ++ source)
  flight_log.writeNow printed.1 (sizeT printed.2) env

/-- `LogEventConfirmed`, with a flight log. -/
def logEventConfirmed (flight_log : CFlightLog) (event : List UInt8) (currentState : Bool)
    (env : LogEnv) : LogResult :=
  let printed := snprintf eventBufSize (padRight 10 event ++ text " confirmed" ++
    if currentState then text " but already happened. Not dispatching" else [])
  flight_log.writeNow printed.1 (sizeT printed.2) env

/-! ## The timestamp -/

theorem length_timestampText (timestamp : Int64) :
    (timestampText timestamp).length = max 9 (decimal timestamp.toInt).length + 2 := by
  unfold timestampText
  rw [List.length_append, length_padLeft]
  rfl

/-- At most nine characters: the text and its zero fit the buffer. -/
def FitsBuffer (timestamp : Int64) : Prop :=
  -10 ^ 8 < timestamp.toInt ∧ timestamp.toInt < 10 ^ 9

/-- At most ten characters: the text alone fits it. -/
def FitsWithoutZero (timestamp : Int64) : Prop :=
  -10 ^ 9 < timestamp.toInt ∧ timestamp.toInt < 10 ^ 10

theorem fitsBuffer_iff (timestamp : Int64) :
    FitsBuffer timestamp ↔ (timestampText timestamp).length < timestampBufSize := by
  have hlen := length_decimal_le_iff (v := timestamp.toInt) (k := 7)
  rw [length_timestampText, timestampBufSize, FitsBuffer, ← hlen]
  omega

theorem fitsWithoutZero_iff (timestamp : Int64) :
    FitsWithoutZero timestamp ↔ (timestampText timestamp).length ≤ timestampBufSize := by
  have hlen := length_decimal_le_iff (v := timestamp.toInt) (k := 8)
  rw [length_timestampText, timestampBufSize, FitsWithoutZero, ← hlen]
  omega

/-- **`fs_write` of the timestamp** stays in the buffer iff ten characters hold the number. -/
theorem inBounds_writeTimestamp_iff (timestamp : Int64) :
    (writeTimestamp timestamp).InBounds ↔ FitsWithoutZero timestamp := by
  unfold FsWriteCall.InBounds writeTimestamp
  simp only
  rw [length_snprintf (by decide), sizeT_snprintf_le_iff _ (by decide), fitsWithoutZero_iff]

theorem timestampText_ne_nil (timestamp : Int64) : timestampText timestamp ≠ [] := by
  unfold timestampText
  exact List.append_ne_nil_of_right_ne_nil _ (by decide)

/-- The characters of a timestamp are no zero bytes. -/
theorem zero_not_mem_timestampText (timestamp : Int64) : 0 ∉ timestampText timestamp := by
  intro hmem
  rcases List.mem_append.mp hmem with hmem | hmem
  · exact absurd (mem_padLeft_decimal hmem).1 (by decide)
  · exact absurd hmem (by decide)

/-- What `fs_write` reads of the timestamp, in bounds. -/
theorem data_writeTimestamp {timestamp : Int64} (h : FitsWithoutZero timestamp)
    (behind : Nat → UInt8) : (writeTimestamp timestamp).data behind =
      (snprintf timestampBufSize (timestampText timestamp)).1.take
        (timestampText timestamp).length := by
  have hle := (fitsWithoutZero_iff timestamp).mp h
  have hmax : (timestampText timestamp).length ≤ INT_MAX := Nat.le_trans hle (by decide)
  unfold FsWriteCall.data writeTimestamp
  simp only
  rw [length_snprintf (by decide), sizeT_snprintf hmax, Nat.sub_eq_zero_of_le hle,
    List.range_zero, List.map_nil, List.append_nil]

theorem length_data_writeTimestamp {timestamp : Int64} (h : FitsWithoutZero timestamp)
    (behind : Nat → UInt8) :
    ((writeTimestamp timestamp).data behind).length = (timestampText timestamp).length := by
  rw [data_writeTimestamp h, List.length_take, length_snprintf (by decide)]
  exact Nat.min_eq_left ((fitsWithoutZero_iff timestamp).mp h)

/-- **The timestamp that is written**, where the read is in bounds, is the text iff nine characters
hold the number. -/
theorem data_writeTimestamp_iff {timestamp : Int64} (h : FitsWithoutZero timestamp)
    (behind : Nat → UInt8) :
    (writeTimestamp timestamp).data behind = timestampText timestamp ↔ FitsBuffer timestamp := by
  have hle := (fitsWithoutZero_iff timestamp).mp h
  rw [data_writeTimestamp h, fitsBuffer_iff]
  constructor
  · intro heq
    by_contra hfull
    have hsize : timestampBufSize = (timestampText timestamp).length := by omega
    rw [hsize, snprintf_cut (timestampText_ne_nil timestamp)] at heq
    have hzero := zero_not_mem_timestampText timestamp
    rw [← heq, List.take_of_length_le] at hzero
    · exact hzero (List.mem_append_right _ (List.mem_singleton_self 0))
    · rw [List.length_append, List.length_dropLast, List.length_singleton, ← hsize]
      decide
  · exact snprintf_fits

/-- Its first eleven bytes are those of the text either way. -/
theorem take_data_writeTimestamp {timestamp : Int64} (h : FitsWithoutZero timestamp)
    (behind : Nat → UInt8) :
    ((writeTimestamp timestamp).data behind).take 11 = (timestampText timestamp).take 11 := by
  have hle := (fitsWithoutZero_iff timestamp).mp h
  have hlen := length_timestampText timestamp
  rw [data_writeTimestamp h, List.take_take, Nat.min_eq_left (by omega)]
  unfold snprintf timestampBufSize
  simp only [Nat.reduceSub]
  rw [List.take_append_of_le_length, List.take_take, Nat.min_self]
  rw [List.length_take]
  omega

/-- **Eleven bytes tell timestamps apart**, if one of them has at most ten characters: they hold the
number and the colon behind it. -/
theorem timestamp_eq_of_take {t u : Int64} (h : FitsWithoutZero t)
    (heq : (timestampText t).take 11 = (timestampText u).take 11) : t = u := by
  have hnumber : ∀ v : Int64, ((timestampText v).take 11).takeWhile (· != 0x3A) =
      (padLeft 9 (decimal v.toInt)).take 11 := by
    intro v
    have hcolon : ∀ n, ((text ": ").take n).takeWhile (· != 0x3A) = [] := by
      intro n
      cases n <;> rfl
    unfold timestampText
    rw [List.take_append, List.takeWhile_append_of_pos, hcolon, List.append_nil]
    intro b hb
    have hle := (mem_padLeft_decimal (List.mem_of_mem_take hb)).2
    simp only [bne_iff_ne, ne_eq]
    rintro rfl
    exact absurd hle (by decide)
  have hpadded := congrArg (List.takeWhile (· != 0x3A)) heq
  rw [hnumber, hnumber] at hpadded
  have hle := (fitsWithoutZero_iff t).mp h
  have hlen := congrArg List.length hpadded
  rw [length_timestampText, timestampBufSize] at hle
  rw [List.length_take, List.length_take, length_padLeft, length_padLeft] at hlen
  rw [List.take_of_length_le (by rw [length_padLeft]; omega),
    List.take_of_length_le (by rw [length_padLeft]; omega)] at hpadded
  exact Int64.toInt_inj.mp (padLeft_decimal_injective hpadded)

/-! ## A line -/

/-- All three calls of `fs_write` succeed. -/
def LogEnv.Succeeds (env : LogEnv) : Prop :=
  ∃ a b c, env.timestamp = .ok a ∧ env.message = .ok b ∧ env.newline = .ok c

/-- And they store all bytes: eleven of the timestamp, and those of the message. -/
def LogEnv.StoresAll (env : LogEnv) (str_len : Nat) : Prop :=
  ∃ a b c, env.timestamp = .ok a ∧ env.message = .ok b ∧ env.newline = .ok c ∧
    11 ≤ a ∧ str_len ≤ b ∧ 1 ≤ c

/-- The line of a timestamp and a message. -/
def line (timestamp : Int64) (message : List UInt8) : List UInt8 :=
  timestampText timestamp ++ message ++ text "\n"

/-- **A call does what it should**: if it succeeds the line was appended, without a zero byte that
is not the message's, and no `fs_write` read outside its buffer. -/
structure LogResult.Exact (r : LogResult) (before : CFlightLog) (timestamp : Int64)
    (message : List UInt8) : Prop where
  appended : r.ret = 0 → r.log.file.content = before.file.content ++ line timestamp message
  noZero : r.ret = 0 → 0 ∉ message →
    0 ∉ r.log.file.content.drop before.file.content.length
  inBounds : ∀ c ∈ r.calls, c.InBounds

variable (log : CFlightLog) (env : LogEnv)

/-- `fs_write` to an appending file. -/
theorem appendCall_ok (c : FsWriteCall) (behind : Nat → UInt8) (n : Nat) :
    (log.fsWrite c behind (.ok n)).1.file.content =
        log.file.content ++ (c.data behind).take n ∧
      ¬ (log.fsWrite c behind (.ok n)).2 < 0 := by
  unfold CFlightLog.fsWrite FsFile.write
  simp only [log.append, if_true]
  rw [overwrite_end]
  exact ⟨rfl, Int.not_lt.mpr (Int.natCast_nonneg _)⟩

/-- A call that succeeds has appended what the three calls of `fs_write` stored. -/
theorem writeLen_of_ok (timestamp : Int64) (msg : List UInt8) (str_len : Nat) {a b c : Nat}
    (ha : env.timestamp = .ok a) (hb : env.message = .ok b) (hc : env.newline = .ok c) :
    (log.writeLen timestamp msg str_len env).ret = 0 ∧
      (log.writeLen timestamp msg str_len env).log.file.content = log.file.content ++
        ((((writeTimestamp timestamp).data env.behind).take a ++
          (FsWriteCall.data env.behind { buffer := msg, size := str_len }).take b) ++
            (text "\n").take c) := by
  unfold CFlightLog.writeLen
  simp only [ha, hb, hc]
  rw [if_neg (appendCall_ok log _ _ a).2, if_neg (appendCall_ok _ _ _ b).2,
    if_neg (appendCall_ok _ _ _ c).2]
  refine ⟨rfl, ?_⟩
  simp only [appendCall_ok, List.append_assoc]
  rfl

theorem appendCall_error (c : FsWriteCall) (behind : Nat → UInt8) (e : Errno) :
    (log.fsWrite c behind (.error e)).2 < 0 := e.2

/-- **A call succeeds** iff its three calls do. -/
theorem writeLen_ret_eq_zero_iff (timestamp : Int64) (msg : List UInt8) (str_len : Nat) :
    (log.writeLen timestamp msg str_len env).ret = 0 ↔ env.Succeeds := by
  constructor
  · intro h
    unfold CFlightLog.writeLen at h
    cases ha : env.timestamp with
    | error e =>
      simp only [ha, appendCall_error, if_true] at h
      exact absurd h e.2.ne
    | ok a =>
      cases hb : env.message with
      | error e =>
        simp only [ha, hb, appendCall_error, if_true] at h
        rw [if_neg (appendCall_ok log _ _ a).2] at h
        exact absurd h e.2.ne
      | ok b =>
        cases hc : env.newline with
        | error e =>
          simp only [ha, hb, hc, appendCall_error, if_true] at h
          rw [if_neg (appendCall_ok log _ _ a).2, if_neg (appendCall_ok _ _ _ b).2] at h
          exact absurd h e.2.ne
        | ok c => exact ⟨a, b, c, ha, hb, hc⟩
  · rintro ⟨a, b, c, ha, hb, hc⟩
    exact (writeLen_of_ok log env timestamp msg str_len ha hb hc).1

/-- **The reads of a call**: that of the timestamp, and those of message and newline after it was
written. -/
theorem inBounds_writeLen_iff (timestamp : Int64) (msg : List UInt8) (str_len : Nat) :
    (∀ c ∈ (log.writeLen timestamp msg str_len env).calls, c.InBounds) ↔
      FitsWithoutZero timestamp ∧ ((∃ a, env.timestamp = .ok a) → str_len ≤ msg.length) := by
  have hnewline : ({ buffer := text "\n", size := 1 } : FsWriteCall).InBounds := Nat.le_refl 1
  rw [← inBounds_writeTimestamp_iff]
  unfold CFlightLog.writeLen
  cases ha : env.timestamp with
  | error e =>
    simp only [appendCall_error, if_true, List.mem_singleton, forall_eq, reduceCtorEq, exists_false,
      false_implies, and_true]
  | ok a =>
    have hmessage : ∀ calls : List FsWriteCall,
        calls = [] ∨ calls = [{ buffer := text "\n", size := 1 }] →
        ((∀ c ∈ writeTimestamp timestamp :: { buffer := msg, size := str_len } :: calls,
            c.InBounds) ↔ (writeTimestamp timestamp).InBounds ∧
          ((∃ b, (Except.ok a : Except Errno Nat) = .ok b) → str_len ≤ msg.length)) := by
      intro calls hcalls
      have hrest : ∀ c ∈ calls, c.InBounds := by
        intro c hc
        rcases hcalls with rfl | rfl
        · exact absurd hc List.not_mem_nil
        · rw [List.mem_singleton.mp hc]
          exact hnewline
      rw [List.forall_mem_cons, List.forall_mem_cons]
      constructor
      · rintro ⟨hstamp, hmsg, -⟩
        exact ⟨hstamp, fun _ => hmsg⟩
      · rintro ⟨hstamp, hmsg⟩
        exact ⟨hstamp, hmsg ⟨a, rfl⟩, hrest⟩
    simp only
    rw [if_neg (appendCall_ok log _ _ a).2]
    split
    · exact hmessage [] (.inl rfl)
    · split
      · exact hmessage _ (.inr rfl)
      · exact hmessage _ (.inr rfl)

end Backplane.Os
