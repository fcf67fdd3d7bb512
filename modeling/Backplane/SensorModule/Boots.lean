import Mathlib.Data.Nat.Find
import Backplane.General.Run
import Backplane.Os.DataLogger
import Backplane.Os.FlightLog
import Backplane.SensorModule.Readings

/-!
# The flight logs of many boots

Model of what `CSensorModule` writes to its file system (`app/backplane/sensor_module/src/
c_sensor_module.cpp`, `include/c_sensor_module.h`), boot after boot: the flight log that it opens
under the path of `generateFlightLogPath` (`lib/f_core/os/flight_log.cpp`), with the lines of the
controller; the data log of its data logger; and `/lfs/tree`, which the TFTP server writes for a
client that asks for the tree (`lib/f_core/net/application/c_tftp_server_tenant.cpp`). What
`fs_stat` and `fs_open` answer in place of the truth is an input of the boot, and so is what each
`fs_write` stores for good.

Results:
* `generateFlightLogPath_eq`: the first name whose `fs_stat` does not say that it is there.
* `session_append`: what a boot writes to its log does not depend on what the file holds.
* `flight_logs_kept`: no boot loses a byte of a flight log, whatever goes wrong.
* `flight_log_of_boot`: the first hundred boots have a file each, all others share the last one.
-/

namespace Backplane.SensorModule

open Backplane.Os
open Backplane.Run
open Backplane.Utils

def ENOENT : Int := 2

/-- A path, without its zero. -/
abbrev Path := List UInt8

/-- The files by their paths. -/
abbrev Files := Path → Option (List UInt8)

def MAX_FLIGHT_LOG_PATH_SIZE : Nat := 32

/-- A number with leading zeros, as in `%02d`. -/
def padZero (width : Nat) (s : List UInt8) : List UInt8 :=
  List.replicate (width - s.length) 0x30 ++ s

/-- `"/lfs/flight_log%02d.txt"`. -/
def flightLogText (i : Nat) : List UInt8 :=
  text "/lfs/flight_log" ++ padZero 2 (decimal i) ++ text ".txt"

/-- `flightLogPath` for `i`. -/
def flightLogPath (i : Nat) : List UInt8 :=
  (snprintf MAX_FLIGHT_LOG_PATH_SIZE (flightLogText i)).1

/-- The loop of `generateFlightLogPath` over these numbers, with what the buffer holds. -/
def tryPaths (fs_stat : Path → Int) : List Nat → List UInt8 → List UInt8
  | [], buffer => buffer
  | i :: rest, _ =>
    let ret := fs_stat (cstring (flightLogPath i))
    if ret = -ENOENT then flightLogPath i
    else if ret ≠ 0 then flightLogPath i
    else tryPaths fs_stat rest (flightLogPath i)

/-- `generateFlightLogPath`. -/
def generateFlightLogPath (fs_stat : Path → Int) : Path :=
  cstring (tryPaths fs_stat (List.range 100) (List.replicate MAX_FLIGHT_LOG_PATH_SIZE 0))

/-- A line that the controller logs. -/
inductive LogCall
  | sourceEvent (event source : List UInt8) (env : LogEnv)
  | eventConfirmed (event : List UInt8) (currentState : Bool) (env : LogEnv)

def LogCall.log (log : CFlightLog) : LogCall → CFlightLog
  | .sourceEvent event source env => (logSourceEvent log event source env).log
  | .eventConfirmed event currentState env => (logEventConfirmed log event currentState env).log

/-- A call of `generateTree`: whether `fs_open` fails, and what `fs_write` answers. -/
structure TreeCall where
  fs_open : Option Errno
  fs_write : Except Errno Nat

/-- A boot, until the power is cut. For the flight log: what `fs_stat` answers in place of the
truth, whether `fs_open` fails, the two opening lines and what the controller logs. For the data
log: whether `fs_open` fails, and the records that are written. Then the calls of `generateTree`. -/
structure Boot where
  fs_stat : Path → Option Errno
  fs_open : Option Errno
  opened : LogEnv
  initialized : LogEnv
  calls : List LogCall
  dataOpen : Option Errno
  records : List (Vector UInt8 sizeofSensorData × FsAnswers)
  trees : List TreeCall

/-- `fs_stat`. -/
def fsStat (fs : Files) (trouble : Path → Option Errno) (path : Path) : Int :=
  match trouble path with
  | some e => e
  | none => if (fs path).isSome then 0 else -ENOENT

/-- The log of a boot: the line of `CFlightLog`'s constructor, that of `CPhaseController`'s, then
what the controller logs. -/
def Boot.session (b : Boot) (log : CFlightLog) : CFlightLog :=
  let log := (log.write 0 (text "flight log opened" ++ [0]) b.opened).log
  let log := (log.write 0 (text "CPhaseController initialized" ++ [0]) b.initialized).log
  b.calls.foldl LogCall.log log

/-- The path that a boot logs to. -/
def Boot.path (b : Boot) (fs : Files) : Path := generateFlightLogPath (fsStat fs b.fs_stat)

/-- The flight log. To a log that could not be opened nothing is written. -/
def Boot.logFlight (b : Boot) (fs : Files) : Files :=
  match b.fs_open with
  | some _ => fs
  | none =>
    let path := b.path fs
    Function.update fs path
      (some (b.session (CFlightLog.open ((fs path).getD []))).file.content)

/-- The file of `dataLoggerTenant`. -/
def dataLogPath : Path := text "/lfs/sensor_module_data.bin"

/-- The data log, which is written over from its start. -/
def Boot.logData (b : Boot) (fs : Files) : Files :=
  match b.dataOpen with
  | some _ => fs
  | none =>
    let logger := Datalogger.new ((fs dataLogPath).getD []) .Growing 0
    Function.update fs dataLogPath
      (some (b.records.foldl (fun d r => (d.write r.1.toList r.2).1) logger).file.content)

def treePath : Path := text "/lfs/tree"

/-- `generateTree`. -/
def generateTree (fs : Files) (a : TreeCall) : Files :=
  match a.fs_open with
  | some _ => fs
  | none =>
    let file := FsFile.open ((fs treePath).getD []) (FS_O_WRITE ||| FS_O_CREATE)
    Function.update fs treePath (some (file.write (text "reee") a.fs_write).1.content)

/-- A boot. -/
def Boot.run (fs : Files) (b : Boot) : Files :=
  b.trees.foldl generateTree (b.logData (b.logFlight fs))

/-! ## The path -/

/-- The name of the log with number `i`. -/
def logName (i : Nat) : Path := cstring (flightLogPath i)

/-- It is the text that is formatted into the buffer. -/
theorem logName_eq : ∀ i < 100, logName i = flightLogText i := by decide +kernel

/-- The number in the name. -/
def logNumber (path : Path) : Nat :=
  ((path.drop 15).take 2).foldl (fun n b => 10 * n + (b.toNat - 48)) 0

theorem logNumber_logName : ∀ i < 100, logNumber (logName i) = i := by decide +kernel

theorem logName_injective {i j : Nat} (hi : i < 100) (hj : j < 100)
    (h : logName i = logName j) : i = j := by
  rw [← logNumber_logName i hi, ← logNumber_logName j hj, h]

theorem tryPaths_range' {fs_stat : Path → Int} {start len n : Nat} (hstart : start ≤ n)
    (hend : n < start + len) (hbefore : ∀ i, start ≤ i → i < n → fs_stat (logName i) = 0)
    (hhere : fs_stat (logName n) ≠ 0 ∨ n + 1 = start + len) (buffer : List UInt8) :
    tryPaths fs_stat (List.range' start len) buffer = flightLogPath n := by
  induction len generalizing start buffer with
  | zero => omega
  | succ len ih =>
    rw [List.range'_succ, tryPaths]
    show (if fs_stat (logName start) = -ENOENT then flightLogPath start
      else if fs_stat (logName start) ≠ 0 then flightLogPath start
      else tryPaths fs_stat (List.range' (start + 1) len) (flightLogPath start)) = _
    rcases Nat.eq_or_lt_of_le hstart with rfl | hlt
    · by_cases hstat : fs_stat (logName start) = 0
      · -- the last name is kept, though it is taken
        have hlen : len = 0 := by
          have := hhere.resolve_left (absurd hstat)
          omega
        subst hlen
        rw [hstat, if_neg (by decide), if_neg (by simp)]
        rfl
      · split
        · rfl
        · rfl
    · rw [hbefore start (Nat.le_refl start) hlt, if_neg (by decide), if_neg (by simp)]
      exact ih hlt (by omega) (fun i hi => hbefore i (by omega))
        (hhere.imp_right fun h => by omega) _

/-- **The path**: the first name whose `fs_stat` does not say that it is there, or the last one. -/
theorem generateFlightLogPath_eq {fs_stat : Path → Int} {n : Nat} (hn : n < 100)
    (hbefore : ∀ i < n, fs_stat (logName i) = 0) (hhere : fs_stat (logName n) ≠ 0 ∨ n = 99) :
    generateFlightLogPath fs_stat = logName n := by
  unfold generateFlightLogPath logName
  rw [List.range_eq_range', tryPaths_range' (Nat.zero_le n) (by omega) (fun i _ => hbefore i)
    (hhere.imp_right fun h => by omega)]

/-- It is the name of a log. -/
theorem exists_logName (fs_stat : Path → Int) :
    ∃ n < 100, generateFlightLogPath fs_stat = logName n := by
  have hex : ∃ n, fs_stat (logName n) ≠ 0 ∨ n = 99 := ⟨99, .inr rfl⟩
  have hle : Nat.find hex ≤ 99 := Nat.find_min' hex (.inr rfl)
  refine ⟨Nat.find hex, by omega, generateFlightLogPath_eq (by omega) (fun i hi => ?_)
    (Nat.find_spec hex)⟩
  by_contra hne
  exact Nat.find_min hex hi (.inl hne)

/-! ## A boot -/

/-- What `f` does to a log is to append bytes that do not depend on it. -/
def Appends (f : CFlightLog → CFlightLog) : Prop :=
  ∃ bytes, ∀ log, (f log).file.content = log.file.content ++ bytes

theorem Appends.comp {f g : CFlightLog → CFlightLog} (hf : Appends f) (hg : Appends g) :
    Appends fun log => g (f log) := by
  obtain ⟨first, hfirst⟩ := hf
  obtain ⟨rest, hrest⟩ := hg
  exact ⟨first ++ rest, fun log => by rw [hrest, hfirst, List.append_assoc]⟩

theorem fsWrite_append (c : FsWriteCall) (behind : Nat → UInt8) (answer : Except Errno Nat) :
    ∃ bytes ret, ∀ log : CFlightLog, (log.fsWrite c behind answer).1.file.content =
      log.file.content ++ bytes ∧ (log.fsWrite c behind answer).2 = ret := by
  cases answer with
  | error e => exact ⟨[], e, fun log => ⟨(List.append_nil _).symm, rfl⟩⟩
  | ok n =>
    exact ⟨(c.data behind).take n, ((c.data behind).take n).length, fun log =>
      ⟨(appendCall_ok log c behind n).1, rfl⟩⟩

theorem writeLen_append (timestamp : Int64) (msg : List UInt8) (str_len : Nat) (env : LogEnv) :
    Appends fun log => (log.writeLen timestamp msg str_len env).log := by
  obtain ⟨stamp, ret₁, h₁⟩ := fsWrite_append (writeTimestamp timestamp) env.behind env.timestamp
  obtain ⟨message, ret₂, h₂⟩ :=
    fsWrite_append { buffer := msg, size := str_len } env.behind env.message
  obtain ⟨newline, ret₃, h₃⟩ :=
    fsWrite_append { buffer := text "\n", size := 1 } env.behind env.newline
  refine ⟨stamp ++ if ret₁ < 0 then [] else message ++ if ret₂ < 0 then [] else newline,
    fun log => ?_⟩
  unfold CFlightLog.writeLen
  simp only [h₁, h₂, h₃]
  by_cases hstamp : ret₁ < 0
  · rw [if_pos hstamp, if_pos hstamp, List.append_nil]
    exact (h₁ log).1
  · rw [if_neg hstamp, if_neg hstamp]
    by_cases hmessage : ret₂ < 0
    · rw [if_pos hmessage, if_pos hmessage, List.append_nil, (h₂ _).1, (h₁ log).1,
        List.append_assoc]
    · rw [if_neg hmessage, if_neg hmessage]
      split <;> rw [(h₃ _).1, (h₂ _).1, (h₁ log).1, List.append_assoc, List.append_assoc]

theorem logCall_append (call : LogCall) : Appends fun log => call.log log := by
  cases call with
  | sourceEvent event source env => exact writeLen_append _ _ _ env
  | eventConfirmed event currentState env => exact writeLen_append _ _ _ env

/-- **What a boot writes to its log** does not depend on what the file holds. -/
theorem session_append (b : Boot) : Appends b.session := by
  have hcalls : ∀ calls : List LogCall, Appends fun log => calls.foldl LogCall.log log := by
    intro calls
    induction calls with
    | nil => exact ⟨[], fun log => (List.append_nil _).symm⟩
    | cons call calls ih => exact (logCall_append call).comp ih
  have hline : ∀ (msg : List UInt8) (env : LogEnv), Appends fun log => (log.write 0 msg env).log :=
    fun msg env => writeLen_append env.k_uptime_get msg (cstring msg).length env
  exact ((hline _ b.opened).comp (hline _ b.initialized)).comp (hcalls b.calls)

/-- What a boot writes to its flight log. -/
def Boot.written (b : Boot) : List UInt8 := (b.session (CFlightLog.open [])).file.content

theorem session_eq (b : Boot) (content : List UInt8) :
    (b.session (CFlightLog.open content)).file.content = content ++ b.written := by
  obtain ⟨bytes, hbytes⟩ := session_append b
  rw [Boot.written, hbytes, hbytes]
  rfl

/-- **A boot appends to one flight log**, or to none. -/
theorem logFlight_cases (fs : Files) (b : Boot) :
    (b.fs_open ≠ none ∧ b.logFlight fs = fs) ∨ (b.fs_open = none ∧
      b.logFlight fs =
        Function.update fs (b.path fs) (some ((fs (b.path fs)).getD [] ++ b.written))) := by
  unfold Boot.logFlight
  cases hopen : b.fs_open with
  | some e => exact .inl ⟨by simp, rfl⟩
  | none =>
    refine .inr ⟨rfl, ?_⟩
    simp only
    rw [session_eq]

theorem logData_other (fs : Files) (b : Boot) {path : Path} (hpath : path ≠ dataLogPath) :
    b.logData fs path = fs path := by
  unfold Boot.logData
  cases b.dataOpen with
  | some e => rfl
  | none => exact Function.update_of_ne hpath _ _

theorem generateTree_other (fs : Files) (a : TreeCall) {path : Path} (hpath : path ≠ treePath) :
    generateTree fs a path = fs path := by
  unfold generateTree
  cases a.fs_open with
  | some e => rfl
  | none => exact Function.update_of_ne hpath _ _

/-- **A boot leaves all paths alone** but that of its flight log, the data log and the tree. -/
theorem run_other (fs : Files) (b : Boot) {path : Path} (hdata : path ≠ dataLogPath)
    (htree : path ≠ treePath) : b.run fs path = b.logFlight fs path := by
  have htrees : ∀ (trees : List TreeCall) (fs : Files),
      trees.foldl generateTree fs path = fs path := by
    intro trees
    induction trees with
    | nil => exact fun _ => rfl
    | cons a trees ih => exact fun fs => (ih _).trans (generateTree_other fs a htree)
  unfold Boot.run
  rw [htrees, logData_other _ b hdata]

theorem logName_ne : ∀ i < 100, logName i ≠ dataLogPath ∧ logName i ≠ treePath := by
  decide +kernel

theorem run_logName (fs : Files) (b : Boot) {i : Nat} (hi : i < 100) :
    b.run fs (logName i) = b.logFlight fs (logName i) :=
  run_other fs b (logName_ne i hi).1 (logName_ne i hi).2

/-! ## Many boots -/

/-- A file is still there, with nothing before or between what it held. -/
def Kept (before after : Files) (path : Path) : Prop :=
  ∀ content, before path = some content → ∃ more, after path = some (content ++ more)

theorem Kept.refl (fs : Files) (path : Path) : Kept fs fs path :=
  fun content h => ⟨[], by rw [h, List.append_nil]⟩

theorem Kept.trans {fs fs' fs'' : Files} {path : Path} (h : Kept fs fs' path)
    (h' : Kept fs' fs'' path) : Kept fs fs'' path := by
  intro content hcontent
  obtain ⟨more, hmore⟩ := h content hcontent
  obtain ⟨rest, hrest⟩ := h' _ hmore
  exact ⟨more ++ rest, by rw [hrest, List.append_assoc]⟩

/-- A boot keeps what a flight log holds. -/
theorem logFlight_kept (fs : Files) (b : Boot) (path : Path) : Kept fs (b.logFlight fs) path := by
  rcases logFlight_cases fs b with ⟨-, hsame⟩ | ⟨-, hrun⟩
  · rw [hsame]
    exact .refl fs path
  · rw [hrun]
    intro content hcontent
    by_cases hpath : path = b.path fs
    · subst hpath
      exact ⟨b.written, by rw [Function.update_self, hcontent, Option.getD_some]⟩
    · exact ⟨[], by rw [Function.update_of_ne hpath, hcontent, List.append_nil]⟩

theorem logFlight_other (fs : Files) (b : Boot) {path : Path}
    (hname : ∀ i < 100, path ≠ logName i) : b.logFlight fs path = fs path := by
  rcases logFlight_cases fs b with ⟨-, hsame⟩ | ⟨-, hrun⟩
  · rw [hsame]
  · obtain ⟨n, hn, heq⟩ := exists_logName (fsStat fs b.fs_stat)
    have hpath : path ≠ b.path fs := fun h => hname n hn (h.trans heq)
    rw [hrun, Function.update_of_ne hpath]

/-- **No boot loses a byte of a flight log**: whatever `fs_stat`, `fs_open` and `fs_write` answer, a
flight log that was there is still there after any number of boots, with nothing before or between
what it held. Nothing has changed but the flight logs, the data log and the tree. -/
theorem flight_logs_kept (fs : Files) (boots : List Boot) :
    (∀ i < 100, Kept fs (run Boot.run fs boots) (logName i)) ∧
      ∀ path, path ≠ dataLogPath → path ≠ treePath → (∀ i < 100, path ≠ logName i) →
        run Boot.run fs boots path = fs path := by
  refine run_induction (motive := fun _ (after : Files) =>
    (∀ i < 100, Kept fs after (logName i)) ∧
      ∀ path, path ≠ dataLogPath → path ≠ treePath → (∀ i < 100, path ≠ logName i) →
        after path = fs path) ?_ ?_ boots
  · exact ⟨fun i _ => .refl fs _, fun _ _ _ _ => rfl⟩
  · rintro boots b ⟨hkept, hother⟩
    constructor
    · intro i hi
      refine (hkept i hi).trans fun content hcontent => ?_
      rw [run_logName _ b hi]
      exact logFlight_kept _ b _ content hcontent
    · intro path hdata htree hname
      rw [run_other _ b hdata htree, logFlight_other _ b hname]
      exact hother path hdata htree hname

/-- Nothing goes wrong in `fs_stat`, and in `fs_open` of the flight log. -/
structure Boot.Calm (b : Boot) : Prop where
  fs_stat : ∀ path, b.fs_stat path = none
  fs_open : b.fs_open = none

/-- What the last file holds after these boots. -/
def lastLog (boots : List Boot) : Option (List UInt8) :=
  if boots.length ≤ 99 then none else some ((boots.drop 99).map Boot.written).flatten

/-- A file for every boot, and the last one for all that come late. -/
structure OwnFiles (boots : List Boot) (fs : Files) : Prop where
  own : ∀ i < 99, fs (logName i) = boots[i]?.map Boot.written
  last : fs (logName 99) = lastLog boots

theorem OwnFiles.path {boots : List Boot} {fs : Files} (h : OwnFiles boots fs) {b : Boot}
    (hb : b.Calm) : b.path fs = logName (min boots.length 99) := by
  have hstat : ∀ path, fsStat fs b.fs_stat path = if (fs path).isSome then 0 else -ENOENT := by
    intro path
    unfold fsStat
    rw [hb.fs_stat]
  refine generateFlightLogPath_eq (by omega) (fun i hi => ?_) ?_
  · rw [hstat, h.own i (by omega), List.getElem?_eq_getElem (by omega)]
    rfl
  · rcases Nat.lt_or_ge boots.length 99 with hlt | hge
    · rw [Nat.min_eq_left hlt.le, hstat, h.own _ hlt, List.getElem?_eq_none (Nat.le_refl _)]
      exact .inl (by decide)
    · exact .inr (Nat.min_eq_right hge)

/-- What a boot writes to its flight log finds its place. -/
theorem OwnFiles.logFlight {boots : List Boot} {fs : Files} (h : OwnFiles boots fs) {b : Boot}
    (hb : b.Calm) : OwnFiles (boots ++ [b]) (b.logFlight fs) := by
  rcases logFlight_cases fs b with ⟨hopen, -⟩ | ⟨-, hrun⟩
  · exact absurd hb.fs_open hopen
  rw [h.path hb] at hrun
  rw [hrun]
  have hmin : min boots.length 99 < 100 := by omega
  have hother : ∀ i < 100, i ≠ min boots.length 99 →
      ∀ v, Function.update fs (logName (min boots.length 99)) v (logName i) = fs (logName i) := by
    intro i hi hne v
    have hname : logName i ≠ logName (min boots.length 99) :=
      fun heq => hne (logName_injective hi hmin heq)
    rw [Function.update_of_ne hname]
  rcases Nat.lt_or_ge boots.length 99 with hlt | hge
  · rw [Nat.min_eq_left hlt.le] at hother ⊢
    constructor
    · intro i hi
      rcases Nat.lt_trichotomy i boots.length with hbefore | rfl | hafter
      · rw [hother i (by omega) hbefore.ne, h.own i hi, List.getElem?_append_left hbefore]
      · rw [Function.update_self, h.own _ hi, List.getElem?_eq_none (Nat.le_refl _),
          List.getElem?_concat_length]
        rfl
      · rw [hother i (by omega) hafter.ne', h.own i hi, List.getElem?_eq_none hafter.le,
          List.getElem?_eq_none (by rw [List.length_append]; exact hafter)]
    · have hlength : (boots ++ [b]).length ≤ 99 := by
        rw [List.length_append, List.length_singleton]
        omega
      rw [hother 99 (by decide) hlt.ne', h.last, lastLog, lastLog, if_pos hlt.le, if_pos hlength]
  · rw [Nat.min_eq_right hge] at hother ⊢
    constructor
    · intro i hi
      rw [hother i (by omega) hi.ne, h.own i hi, List.getElem?_append_left (by omega)]
    · have hlength : ¬ (boots ++ [b]).length ≤ 99 := by
        rw [List.length_append, List.length_singleton]
        omega
      rw [Function.update_self, h.last, lastLog, lastLog, if_neg hlength,
        List.drop_append_of_le_length hge, List.map_append, List.flatten_append]
      have hwritten : ([b].map Boot.written).flatten = b.written := List.flatten_singleton
      rw [hwritten]
      split
      · have hall : boots.drop 99 = [] := List.drop_eq_nil_of_le ‹_›
        rw [hall]
        rfl
      · rfl

theorem OwnFiles.step {boots : List Boot} {fs : Files} (h : OwnFiles boots fs) {b : Boot}
    (hb : b.Calm) : OwnFiles (boots ++ [b]) (b.run fs) := by
  have hlogged := h.logFlight hb
  constructor
  · intro i hi
    rw [run_logName fs b (by omega)]
    exact hlogged.own i hi
  · rw [run_logName fs b (by decide)]
    exact hlogged.last

/-- **A file for every boot.** On a file system without flight logs where nothing goes wrong, what
the first 99 boots log stands in a file each. The hundredth and all that come after it share the
last one, in order. -/
theorem flight_log_of_boot {fs : Files} (hfresh : ∀ i < 100, fs (logName i) = none)
    (boots : List Boot) (hcalm : ∀ b ∈ boots, b.Calm) :
    (∀ i < 99, run Boot.run fs boots (logName i) = boots[i]?.map Boot.written) ∧
      run Boot.run fs boots (logName 99) = lastLog boots := by
  have hown : OwnFiles boots (run Boot.run fs boots) := by
    refine run_prefix (motive := OwnFiles) ?_ (fun pre b hpre h => ?_) List.prefix_rfl
    · exact ⟨fun i hi => hfresh i (by omega), hfresh 99 (by decide)⟩
    · exact h.step (hcalm b (hpre.subset (List.mem_append_right _ (List.mem_singleton_self b))))
  exact ⟨hown.own, hown.last⟩

/-- A call at this time, without trouble. -/
def logAt (uptime : Int64) : LogEnv where
  k_uptime_get := uptime
  behind _ := 0
  timestamp := .ok 100
  message := .ok 100
  newline := .ok 100

/-- A boot without trouble, in which one accelerometer reports a boost. -/
def boostBoot : Boot where
  fs_stat _ := none
  fs_open := none
  opened := logAt 7
  initialized := logAt 8
  calls :=
    [.sourceEvent (text "Boost") (text "HighGIMU (ADXL375)") (logAt 9000),
      .eventConfirmed (text "Boost") false (logAt 9001)]
  dataOpen := none
  records := [(Vector.replicate _ 0, FsAnswers.full sizeofSensorData)]
  trees := []

theorem flight_log_of_boot_twice :
    run Boot.run (fun _ => none) [boostBoot, boostBoot] (logName 1) =
      some (text ("        7: flight log opened\n" ++
        "        8: CPhaseController initialized\n" ++
        "     9000: Boost      from HighGIMU (ADXL375)\n" ++
        "     9001: Boost      confirmed\n")) := by
  rw [(flight_log_of_boot (fun _ _ => rfl) [boostBoot, boostBoot]
    (by simp only [List.forall_mem_cons]
        exact ⟨⟨fun _ => rfl, rfl⟩, ⟨fun _ => rfl, rfl⟩, List.forall_mem_nil _⟩)).1 1 (by decide)]
  show some boostBoot.written = _
  exact congrArg some (by decide +kernel)

end Backplane.SensorModule
