import Backplane.General.Threads
import Backplane.Radio.Types

/-!
# The GNSS tenant

Model of `app/backplane/radio_module/src/c_gnss_tenant.cpp` and `lib/f_core/utils/n_gnss_utils.cpp`:
the callback of the GNSS driver, the tenant's `Run` and its transmit timer
(`include/f_core/utils/c_soft_timer.h`), which share three statics without a lock. A move is one
statement; `PopulateGnssStruct` and the `memcpy` of the log record are one each. Of the coordinates
a `memcpy` copies a byte in a move, from the first on. Any interleaving is a run.

The statics are followed by the fixes that the driver has reported, the expiries of the timer, and
what was sent to the two ports; whether a port still has room is not the tenant's concern.

Results:
* `fixes_logged_once`: if no copy is made while a fix is being written, fixes are logged whole, in
  order and at most once.
* `last_fix_logged`: if, besides, no fix arrives between copy and reset, the last one is logged or
  flagged.
* `broadcast_rate`: there are no more broadcasts than expiries of the timer, and what they carry is
  torn only if both copies of the coordinates are under way at a time.
-/

namespace Backplane.Radio

open Backplane.Run
open Backplane.Threads
open Backplane.Utils

/-! ## Data -/

/-- `navigation_data`: nanodegrees and millimeters. -/
structure NavigationData where
  latitude : Int
  longitude : Int
  altitude : Int

/-- `NGnssUtils::GnssCoordinates`. -/
structure GnssCoordinates (F : Type) where
  latitude : F
  longitude : F
  altitude : F

/-- `NGnssUtils::GnssTime`. -/
structure GnssTime where
  time : UInt32
  date : UInt32

/-- `NGnssUtils::GnssInfo`. -/
structure GnssInfo where
  satelliteId : UInt8
  elevation : UInt8
  azimuth : UInt16
  snr : UInt8

/-- `NGnssUtils::GnssData`. -/
structure GnssData (F : Type) where
  coordinates : GnssCoordinates F
  time : GnssTime
  info : GnssInfo

/-- `NTypes::GnssLoggingData`. -/
structure GnssLoggingData (F : Type) where
  systemTime : UInt32
  gnssData : GnssData F

section Populate

variable {F : Type} [Div F] [IntCast F] [OfScientific F]

/-- `PopulateGnssNavigationData`. -/
def populateGnssNavigationData (data : NavigationData) : GnssCoordinates F where
  -- Convert nanodegrees to degrees
  latitude := (data.latitude : F) / 1000000000.0
  longitude := (data.longitude : F) / 1000000000.0
  -- Convert millimeters to meters
  altitude := (data.altitude : F) / 1000.0

/-- `PopulateGnssStruct`, which leaves the time and the satellites alone. -/
def populateGnssStruct (data : NavigationData) (gnssData : GnssData F) : GnssData F :=
  { gnssData with coordinates := populateGnssNavigationData data }

end Populate

/-! ## Threads -/

variable {F : Type}

abbrev sizeofGnssCoordinates : Nat := 12

/-- The statics of `c_gnss_tenant.cpp`, the coordinates as bytes, and the timer's status, which
counts its expiries since it was last read; then the fixes reported, the expiries, and what was
sent. -/
structure GnssStatics (F : Type) where
  gnssLogData : GnssLoggingData F
  coordinates : Vector UInt8 sizeofGnssCoordinates
  gnssUpdated : Bool
  status : Nat
  fixes : List (GnssLoggingData F)
  expiries : Nat
  logSent : List (GnssLoggingData F)
  broadcastSent : List RadioBroadcastData

/-- The driver's thread, the GNSS task and the timer. -/
inductive GnssThread
  | driver | task | timer
  deriving DecidableEq

/-- The next statement of `gnssCallback`, or the next byte of its copy. -/
inductive GnssCallback
  | idle
  | populate (data : NavigationData)
  | setUpdated
  | copyCoordinates (i : Fin sizeofGnssCoordinates)

/-- The next statement of `Run`, or the next byte of its copy into `data`. -/
inductive GnssRun (F : Type)
  | checkUpdated
  | copyLog
  | sendLog (logData : GnssLoggingData F)
  | checkTimer
  | copyCoordinates (i : Fin sizeofGnssCoordinates) (data : Vector UInt8 sizeofGnssCoordinates)
  | sendBroadcast (broadcastData : RadioBroadcastData)
  | clearUpdated

abbrev GnssLocal (F : Type) : GnssThread → Type
  | .driver => GnssCallback
  | .task => GnssRun F
  | .timer => Unit

/-- A fix arrives at an uptime. -/
abbrev GnssInput : GnssThread → Type
  | .driver => Nat × NavigationData
  | .task => Unit
  | .timer => Unit

section Defs

variable [Div F] [IntCast F] [OfScientific F] (floatBytes : F → Vector UInt8 4)

/-- The byte behind byte `i`. -/
def nextByte (i : Fin sizeofGnssCoordinates) : Option (Fin sizeofGnssCoordinates) :=
  if h : i.val + 1 < sizeofGnssCoordinates then some ⟨i.val + 1, h⟩ else none

/-- The coordinates in memory. -/
def GnssCoordinates.image (c : GnssCoordinates F) : Vector UInt8 sizeofGnssCoordinates :=
  floatBytes c.latitude ++ floatBytes c.longitude ++ floatBytes c.altitude

/-- `gnssCallback`. -/
def callbackMove (a : Nat × NavigationData) (s : GnssStatics F) :
    GnssCallback → GnssStatics F × GnssCallback
  | .idle =>
    ({ s with
        gnssLogData := { s.gnssLogData with systemTime := UInt32.ofNat a.1 }
        fixes := s.fixes ++ [{
          systemTime := UInt32.ofNat a.1
          gnssData := populateGnssStruct a.2 s.gnssLogData.gnssData }] }, .populate a.2)
  | .populate data =>
    ({ s with gnssLogData :=
        { s.gnssLogData with gnssData := populateGnssStruct data s.gnssLogData.gnssData } },
      .setUpdated)
  | .setUpdated => ({ s with gnssUpdated := true }, .copyCoordinates 0)
  | .copyCoordinates i =>
    ({ s with coordinates :=
        s.coordinates.set i (s.gnssLogData.gnssData.coordinates.image floatBytes)[i] },
      match nextByte i with
      | some i => .copyCoordinates i
      | none => .idle)

/-- `broadcastData`, with `sizeof(GnssBroadcastData) = 13` and `updated = 1`. -/
def gnssBroadcastData (coordinates : Vector UInt8 sizeofGnssCoordinates) : RadioBroadcastData :=
  { port := RADIO_MODULE_GNSS_DATA_PORT, size := 13
    data := zeroed 254 (coordinates.toList ++ [1]) }

/-- `CGnssTenant::Run`. -/
def gnssRunMove (s : GnssStatics F) : GnssRun F → GnssStatics F × GnssRun F
  | .checkUpdated => (s, if s.gnssUpdated then .copyLog else .checkUpdated)
  | .copyLog => (s, .sendLog s.gnssLogData)
  | .sendLog logData => ({ s with logSent := s.logSent ++ [logData] }, .checkTimer)
  | .checkTimer =>
    ({ s with status := 0 },
      if s.status ≠ 0 then .copyCoordinates 0 (Vector.replicate _ 0) else .clearUpdated)
  | .copyCoordinates i data =>
    let data := data.set i s.coordinates[i]
    (s,
      match nextByte i with
      | some i => .copyCoordinates i data
      | none => .sendBroadcast (gnssBroadcastData data))
  | .sendBroadcast broadcastData =>
    ({ s with broadcastSent := s.broadcastSent ++ [broadcastData] }, .clearUpdated)
  | .clearUpdated => ({ s with gnssUpdated := false }, .checkUpdated)

/-- `transmitTimer` expires, every five seconds once `Startup` has started it. -/
def timerMove (s : GnssStatics F) : GnssStatics F :=
  { s with status := s.status + 1, expiries := s.expiries + 1 }

def gnssThreads : Program GnssThread (GnssStatics F) (GnssLocal F) GnssInput where
  move
    | .driver, a, s, l => some (callbackMove floatBytes a s l)
    | .task, _, s, l => some (gnssRunMove s l)
    | .timer, _, s, l => some (timerMove s, l)

end Defs

/-- The statics are zeroed. -/
def gnssStart (zero : F) : World (GnssStatics F) (GnssLocal F) where
  shared :=
    { gnssLogData :=
        { systemTime := 0
          gnssData := { coordinates := ⟨zero, zero, zero⟩, time := ⟨0, 0⟩, info := ⟨0, 0, 0, 0⟩ } }
      coordinates := Vector.replicate _ 0
      gnssUpdated := false
      status := 0
      fixes := []
      expiries := 0
      logSent := []
      broadcastSent := [] }
  locals
    | .driver => .idle
    | .task => .checkUpdated
    | .timer => ()

/-! ## Logging -/

/-- The callback has begun to write a fix, and has not flagged it. -/
def GnssCallback.writing : GnssCallback → Bool
  | .populate _ | .setUpdated => true
  | .idle | .copyCoordinates _ => false

/-- The record that has been copied and is still to be sent. -/
def GnssRun.pending : GnssRun F → List (GnssLoggingData F)
  | .sendLog logData => [logData]
  | _ => []

/-- `Run` has copied the record and not yet reset the flag. -/
def GnssRun.copied : GnssRun F → Bool
  | .checkUpdated | .copyLog => false
  | _ => true

/-- What `Run` has logged, or is about to. -/
def loggedBy (s : GnssStatics F) (r : GnssRun F) : List (GnssLoggingData F) :=
  s.logSent ++ r.pending

/-- What the statics hold of the last fix, by the statement the callback is at. -/
def Written [Div F] [IntCast F] [OfScientific F] (s : GnssStatics F) : GnssCallback → Prop
  | .populate data => s.fixes.getLast? = some
      { systemTime := s.gnssLogData.systemTime
        gnssData := populateGnssStruct data s.gnssLogData.gnssData }
  | .setUpdated => s.fixes.getLast? = some s.gnssLogData
  | .idle | .copyCoordinates _ => ∀ fix ∈ s.fixes.getLast?, fix = s.gnssLogData

/-- The law of the log: what was logged are fixes in order, the last of them only once it is
complete; while the flag is up in front of a copy, the last fix is not among them. -/
structure Tracked [Div F] [IntCast F] [OfScientific F] (s : GnssStatics F) (c : GnssCallback)
    (r : GnssRun F) : Prop where
  written : Written s c
  logged : (loggedBy s r).Sublist s.fixes
  fresh : c.writing = true → (loggedBy s r).Sublist s.fixes.dropLast
  flagged : r.copied = false → s.gnssUpdated = true →
    s.fixes ≠ [] ∧ (loggedBy s r).Sublist s.fixes.dropLast
  raised : r ≠ .checkUpdated → s.gnssUpdated = true

section Logging

variable [Div F] [IntCast F] [OfScientific F] {floatBytes : F → Vector UInt8 4}

theorem tracked_callback {s : GnssStatics F} {c : GnssCallback} {r : GnssRun F}
    (h : Tracked s c r) (a : Nat × NavigationData) :
    Tracked (callbackMove floatBytes a s c).1 (callbackMove floatBytes a s c).2 r := by
  cases c with
  | idle =>
    have hlogged : (loggedBy s r).Sublist (s.fixes ++ [{
        systemTime := UInt32.ofNat a.1
        gnssData := populateGnssStruct a.2 s.gnssLogData.gnssData }]) :=
      h.logged.trans (List.sublist_append_left _ _)
    refine ⟨List.getLast?_concat, hlogged, fun _ => ?_, fun _ _ => ⟨?_, ?_⟩, h.raised⟩
    · exact h.logged.trans (by rw [callbackMove, List.dropLast_concat])
    · exact List.append_ne_nil_of_right_ne_nil _ (List.cons_ne_nil _ _)
    · exact h.logged.trans (by rw [callbackMove, List.dropLast_concat])
  | populate data => exact ⟨h.written, h.logged, fun _ => h.fresh rfl, h.flagged, h.raised⟩
  | setUpdated =>
    have hne : s.fixes ≠ [] := by
      intro hnil
      have hwritten : s.fixes.getLast? = some s.gnssLogData := h.written
      rw [hnil] at hwritten
      cases hwritten
    refine ⟨fun fix hfix => ?_, h.logged, fun hw => absurd hw Bool.false_ne_true,
      fun _ _ => ⟨hne, h.fresh rfl⟩, fun _ => rfl⟩
    have hwritten : s.fixes.getLast? = some s.gnssLogData := h.written
    exact Option.some.inj (hfix.symm.trans hwritten)
  | copyCoordinates i =>
    rw [callbackMove]
    split <;>
      exact ⟨h.written, h.logged, fun hw => absurd hw Bool.false_ne_true, h.flagged, h.raised⟩

/-- The last fix, when it is complete. -/
theorem Tracked.last {s : GnssStatics F} {c : GnssCallback} {r : GnssRun F} (h : Tracked s c r)
    (hc : c.writing = false) (hne : s.fixes ≠ []) :
    s.fixes = s.fixes.dropLast ++ [s.gnssLogData] := by
  have hwritten : ∀ fix ∈ s.fixes.getLast?, fix = s.gnssLogData := by
    cases c with
    | idle => exact h.written
    | copyCoordinates i => exact h.written
    | populate data => cases hc
    | setUpdated => cases hc
  have hlast := hwritten _ (List.getLast?_eq_some_getLast hne)
  rw [← hlast, List.dropLast_append_getLast]

/-- A copy is of a complete fix. -/
def CopiesWhole (w : World (GnssStatics F) (GnssLocal F)) (x : Σ t, GnssInput t) : Prop :=
  x.1 = .task → w.locals .task = .copyLog → (w.locals .driver).writing = false

theorem tracked_run {s : GnssStatics F} {c : GnssCallback} {r : GnssRun F} (h : Tracked s c r)
    (hcopy : r = .copyLog → c.writing = false) :
    Tracked (gnssRunMove s r).1 c (gnssRunMove s r).2 := by
  cases r with
  | checkUpdated =>
    rw [gnssRunMove]
    simp only
    split
    · rename_i hflag
      exact ⟨h.written, h.logged, h.fresh, fun _ _ => h.flagged rfl hflag, fun _ => hflag⟩
    · exact h
  | copyLog =>
    have hflag := h.raised (by simp)
    obtain ⟨hne, hbefore⟩ := h.flagged rfl hflag
    have hc := hcopy rfl
    refine ⟨h.written, ?_, fun hw => absurd (hw.symm.trans hc) (by simp), fun hr => ?_,
      fun _ => hflag⟩
    · show (s.logSent ++ [s.gnssLogData]).Sublist s.fixes
      rw [h.last hc hne]
      have hlogSent : loggedBy s (.copyLog : GnssRun F) = s.logSent := List.append_nil _
      rw [hlogSent] at hbefore
      exact hbefore.append (List.Sublist.refl _)
    · cases hr
  | sendLog logData =>
    have hsame : loggedBy (gnssRunMove s (.sendLog logData)).1 .checkTimer =
        loggedBy s (.sendLog logData) := List.append_nil _
    refine ⟨h.written, hsame ▸ h.logged, fun hw => hsame ▸ h.fresh hw, fun hr => ?_,
      fun _ => h.raised (by simp)⟩
    cases hr
  | checkTimer =>
    rw [gnssRunMove]
    simp only
    split
    · exact ⟨h.written, h.logged, h.fresh, fun hr => absurd hr.symm Bool.false_ne_true,
        fun _ => h.raised (by simp)⟩
    · exact ⟨h.written, h.logged, h.fresh, fun hr => absurd hr.symm Bool.false_ne_true,
        fun _ => h.raised (by simp)⟩
  | copyCoordinates i data =>
    rw [gnssRunMove]
    simp only
    split
    · exact ⟨h.written, h.logged, h.fresh, fun hr => absurd hr.symm Bool.false_ne_true,
        fun _ => h.raised (by simp)⟩
    · exact ⟨h.written, h.logged, h.fresh, fun hr => absurd hr.symm Bool.false_ne_true,
        fun _ => h.raised (by simp)⟩
  | sendBroadcast broadcastData =>
    exact ⟨h.written, h.logged, h.fresh, fun hr => absurd hr.symm Bool.false_ne_true,
      fun _ => h.raised (by simp)⟩
  | clearUpdated =>
    exact ⟨h.written, h.logged, h.fresh, fun _ hflag => absurd hflag Bool.false_ne_true,
      fun hr => absurd rfl hr⟩

theorem tracked_start (zero : F) : Tracked (gnssStart zero).shared .idle (.checkUpdated) where
  written := fun fix hfix => by cases hfix
  logged := List.Sublist.refl _
  fresh := fun _ => List.Sublist.refl _
  flagged := fun _ hflag => absurd hflag Bool.false_ne_true
  raised := fun hr => absurd rfl hr

theorem tracked_step {w : World (GnssStatics F) (GnssLocal F)}
    (h : Tracked w.shared (w.locals .driver) (w.locals .task)) (x : Σ t, GnssInput t)
    (hx : CopiesWhole w x) :
    let w' := (gnssThreads floatBytes).step w x
    Tracked w'.shared (w'.locals .driver) (w'.locals .task) := by
  obtain ⟨t, a⟩ := x
  cases t with
  | driver => exact tracked_callback h a
  | task => exact tracked_run h (hx rfl)
  | timer => exact ⟨h.written, h.logged, h.fresh, h.flagged, h.raised⟩

/-- **Fixes are logged whole, in order and at most once**, if no copy is made while the callback is
writing one. -/
theorem fixes_logged_once (zero : F) (turns : List (Σ t, GnssInput t))
    (hwhole : ∀ pre x, pre ++ [x] <+: turns →
      CopiesWhole (run (gnssThreads floatBytes).step (gnssStart zero) pre) x) :
    let w := run (gnssThreads floatBytes).step (gnssStart zero) turns
    (loggedBy w.shared (w.locals .task)).Sublist w.shared.fixes := by
  intro w
  have htracked : Tracked w.shared (w.locals .driver) (w.locals .task) := by
    refine run_prefix (motive := fun _ (w : World (GnssStatics F) (GnssLocal F)) =>
      Tracked w.shared (w.locals .driver) (w.locals .task)) (tracked_start zero)
      (fun pre x hpre h => ?_) List.prefix_rfl
    exact tracked_step h x (hwhole pre x hpre)
  exact htracked.logged

/-- A fix, and a `Run` after it. -/
def oneFix : List (Σ t, GnssInput t) :=
  List.replicate 15 ⟨.driver, (1000, ⟨43000000000, -77000000000, 150000⟩)⟩ ++
    List.replicate 5 ⟨.task, ()⟩

theorem oneFix_copiesWhole : ∀ pre x, pre ++ [x] <+: oneFix →
    CopiesWhole (run (gnssThreads fun _ => Vector.replicate 4 0).step (gnssStart (0 : Rat)) pre)
      x := by
  unfold oneFix
  simp only [List.replicate, List.cons_append, List.nil_append]
  iterate 20 rw [forall_step_cons]
  iterate 15 refine ⟨(fun h => by cases h), ?_⟩
  exact ⟨fun _ _ => rfl, fun _ _ => rfl, fun _ _ => rfl, fun _ _ => rfl, fun _ _ => rfl,
    forall_step_nil⟩

theorem fixes_logged_once_oneFix :
    let w := run (gnssThreads fun _ => Vector.replicate 4 0).step (gnssStart (0 : Rat)) oneFix
    w.shared.logSent.length = 1 ∧ (loggedBy w.shared (w.locals .task)).Sublist w.shared.fixes :=
  ⟨rfl, fixes_logged_once 0 oneFix oneFix_copiesWhole⟩

/-- No fix is flagged between the copy of another and the reset. -/
def FlagsKept (w : World (GnssStatics F) (GnssLocal F)) (x : Σ t, GnssInput t) : Prop :=
  x.1 = .driver → w.locals .driver = .setUpdated → (w.locals .task).copied = false

/-- Once `Run` has copied a record, and until a fix is flagged again, the last fix is logged. -/
def LastKept (s : GnssStatics F) (c : GnssCallback) (r : GnssRun F) : Prop :=
  c.writing = false → (r.copied = true ∨ s.gnssUpdated = false) →
    (loggedBy s r).getLast? = s.fixes.getLast?

theorem kept_callback {s : GnssStatics F} {c : GnssCallback} {r : GnssRun F} (h : LastKept s c r)
    (a : Nat × NavigationData) (hflag : c = .setUpdated → r.copied = false) :
    LastKept (callbackMove floatBytes a s c).1 (callbackMove floatBytes a s c).2 r := by
  cases c with
  | idle => exact fun hw => absurd hw.symm Bool.false_ne_true
  | populate data => exact fun hw => absurd hw.symm Bool.false_ne_true
  | setUpdated =>
    intro _ hor
    rcases hor with hcopied | hdown
    · exact absurd (hcopied.symm.trans (hflag rfl)) (by simp)
    · exact absurd hdown.symm Bool.false_ne_true
  | copyCoordinates i =>
    rw [callbackMove]
    split <;> exact h

theorem kept_run {s : GnssStatics F} {c : GnssCallback} {r : GnssRun F} (ht : Tracked s c r)
    (h : LastKept s c r) :
    LastKept (gnssRunMove s r).1 c (gnssRunMove s r).2 := by
  cases r with
  | checkUpdated =>
    rw [gnssRunMove]
    simp only
    split
    · rename_i hup
      intro _ hor
      rcases hor with hcopied | hdown
      · exact absurd hcopied Bool.false_ne_true
      · exact absurd (hup.symm.trans hdown) (by simp)
    · exact h
  | copyLog =>
    intro hw _
    obtain ⟨hne, -⟩ := ht.flagged rfl (ht.raised (by simp))
    show (s.logSent ++ [s.gnssLogData]).getLast? = s.fixes.getLast?
    rw [ht.last hw hne, List.getLast?_concat, List.getLast?_concat]
  | sendLog logData =>
    intro hw _
    have hlast := h hw (.inl rfl)
    have hsame : loggedBy (gnssRunMove s (.sendLog logData)).1 .checkTimer =
        loggedBy s (.sendLog logData) := List.append_nil _
    exact hsame ▸ hlast
  | checkTimer =>
    intro hw _
    have hlast := h hw (.inl rfl)
    rw [gnssRunMove]
    simp only
    split <;> exact hlast
  | copyCoordinates i data =>
    intro hw _
    have hlast := h hw (.inl rfl)
    rw [gnssRunMove]
    simp only
    split <;> exact hlast
  | sendBroadcast broadcastData => exact fun hw _ => h hw (.inl rfl)
  | clearUpdated => exact fun hw _ => h hw (.inl rfl)

/-- **The last fix is logged or flagged**, if no fix arrives between the copy of another and the
reset of the flag. -/
theorem last_fix_logged (zero : F) (turns : List (Σ t, GnssInput t))
    (hcalm : ∀ pre x, pre ++ [x] <+: turns →
      CopiesWhole (run (gnssThreads floatBytes).step (gnssStart zero) pre) x ∧
        FlagsKept (run (gnssThreads floatBytes).step (gnssStart zero) pre) x) :
    let w := run (gnssThreads floatBytes).step (gnssStart zero) turns
    w.locals .driver = .idle → w.locals .task = .checkUpdated → w.shared.gnssUpdated = false →
      w.shared.logSent.getLast? = w.shared.fixes.getLast? := by
  intro w hdriver htask hdown
  have hrun : Tracked w.shared (w.locals .driver) (w.locals .task) ∧
      LastKept w.shared (w.locals .driver) (w.locals .task) := by
    refine run_prefix (motive := fun _ (w : World (GnssStatics F) (GnssLocal F)) =>
      Tracked w.shared (w.locals .driver) (w.locals .task) ∧
        LastKept w.shared (w.locals .driver) (w.locals .task)) ⟨tracked_start zero, fun _ _ => rfl⟩
      ?_ List.prefix_rfl
    rintro pre x hpre ⟨htracked, hkept⟩
    obtain ⟨hwhole, hflags⟩ := hcalm pre x hpre
    refine ⟨tracked_step htracked x hwhole, ?_⟩
    obtain ⟨t, a⟩ := x
    cases t with
    | driver => exact kept_callback hkept a (hflags rfl)
    | task => exact kept_run htracked hkept
    | timer => exact hkept
  have hlast := hrun.2 (by rw [hdriver]; rfl) (.inr hdown)
  rw [htask] at hlast
  have hlogged : loggedBy w.shared (.checkUpdated : GnssRun F) = w.shared.logSent :=
    List.append_nil _
  rwa [hlogged] at hlast

theorem last_fix_logged_oneFix :
    let w := run (gnssThreads fun _ => Vector.replicate 4 0).step (gnssStart (0 : Rat)) oneFix
    w.shared.fixes.length = 1 ∧ w.shared.logSent.getLast? = w.shared.fixes.getLast? := by
  have hkept : ∀ pre x, pre ++ [x] <+: oneFix →
      FlagsKept (run (gnssThreads fun _ => Vector.replicate 4 0).step (gnssStart (0 : Rat)) pre)
        x := by
    unfold oneFix
    simp only [List.replicate, List.cons_append, List.nil_append]
    iterate 20 rw [forall_step_cons]
    iterate 15 refine ⟨fun _ _ => rfl, ?_⟩
    iterate 5 refine ⟨(fun h => by cases h), ?_⟩
    exact forall_step_nil
  exact ⟨rfl, last_fix_logged 0 oneFix
    (fun pre x hpre => ⟨oneFix_copiesWhole pre x hpre, hkept pre x hpre⟩) rfl rfl rfl⟩

end Logging

/-! ## Broadcasting -/

/-- `Run` has logged, and may still broadcast. -/
def GnssRun.mayBroadcast : GnssRun F → Nat
  | .checkTimer | .copyCoordinates _ _ | .sendBroadcast _ => 1
  | _ => 0

/-- `Run` has read the timer, and will broadcast. -/
def GnssRun.willBroadcast : GnssRun F → Nat
  | .copyCoordinates _ _ | .sendBroadcast _ => 1
  | _ => 0

/-- The broadcast that has been built and is still to be sent. -/
def GnssRun.built : GnssRun F → List RadioBroadcastData
  | .sendBroadcast broadcastData => [broadcastData]
  | _ => []

/-- The law of the broadcasts' number. An expiry allows one, and expiries that go unread allow one
together. -/
structure Rated (s : GnssStatics F) (r : GnssRun F) : Prop where
  timed : s.broadcastSent.length + r.willBroadcast + min s.status 1 ≤ s.expiries
  logged : s.broadcastSent.length + r.mayBroadcast ≤ s.logSent.length

theorem rated_run {s : GnssStatics F} {r : GnssRun F} (h : Rated s r) :
    Rated (gnssRunMove s r).1 (gnssRunMove s r).2 := by
  have htimed := h.timed
  have hlogged := h.logged
  cases r with
  | checkUpdated =>
    rw [gnssRunMove]
    simp only
    split <;> exact ⟨h.timed, h.logged⟩
  | copyLog => exact ⟨h.timed, h.logged⟩
  | sendLog logData =>
    refine ⟨h.timed, ?_⟩
    show s.broadcastSent.length + 1 ≤ (s.logSent ++ [logData]).length
    rw [List.length_append]
    exact Nat.add_le_add_right hlogged 1
  | checkTimer =>
    rw [gnssRunMove]
    simp only
    split
    · rename_i hexpired
      refine ⟨?_, h.logged⟩
      rw [Nat.min_eq_right (Nat.one_le_iff_ne_zero.mpr hexpired)] at htimed
      exact htimed
    · exact ⟨le_of_add_le_left htimed, le_of_add_le_left hlogged⟩
  | copyCoordinates i data =>
    rw [gnssRunMove]
    simp only
    split <;> exact ⟨h.timed, h.logged⟩
  | sendBroadcast broadcastData =>
    have hlength : (s.broadcastSent ++ [broadcastData]).length = s.broadcastSent.length + 1 :=
      List.length_append
    exact ⟨(congrArg (· + 0 + min s.status 1) hlength).trans_le htimed, hlength.trans_le hlogged⟩
  | clearUpdated => exact ⟨h.timed, h.logged⟩

theorem rated_timer {s : GnssStatics F} {r : GnssRun F} (h : Rated s r) :
    Rated (timerMove s) r := by
  refine ⟨?_, h.logged⟩
  have htimed := h.timed
  show s.broadcastSent.length + r.willBroadcast + min (s.status + 1) 1 ≤ s.expiries + 1
  omega

/-! ## What the broadcasts carry -/

/-- The bytes that a copy has still to copy are behind these. -/
theorem nextByte_eq_some {i j : Fin sizeofGnssCoordinates} (h : nextByte j = some i) :
    i.val = j.val + 1 := by
  unfold nextByte at h
  split at h
  · cases h
    rfl
  · cases h

theorem nextByte_eq_none {j : Fin sizeofGnssCoordinates} (h : nextByte j = none) :
    ∀ k : Fin sizeofGnssCoordinates, k.val < j.val + 1 := by
  unfold nextByte at h
  split at h
  · cases h
  · exact fun k => Nat.lt_of_lt_of_le k.isLt (by omega)

/-- The coordinates of a fix that was reported, or the zeros that the statics start with. -/
def Reported (floatBytes : F → Vector UInt8 4) (fixes : List (GnssLoggingData F))
    (data : Vector UInt8 sizeofGnssCoordinates) : Prop :=
  data = Vector.replicate _ 0 ∨ ∃ fix ∈ fixes, data = fix.gnssData.coordinates.image floatBytes

/-- Every byte is the one that some fix has at this place, or a zero; not all need be of one fix. -/
def Mixed (floatBytes : F → Vector UInt8 4) (fixes : List (GnssLoggingData F))
    (data : Vector UInt8 sizeofGnssCoordinates) : Prop :=
  ∀ i : Fin sizeofGnssCoordinates, ∃ whole, Reported floatBytes fixes whole ∧ data[i] = whole[i]

/-- Source and destination agree up to byte `i`. -/
def Copied (i : Fin sizeofGnssCoordinates) (source data : Vector UInt8 sizeofGnssCoordinates) :
    Prop :=
  ∀ j : Fin sizeofGnssCoordinates, j < i → data[j] = source[j]

/-- What was broadcast, and what is about to be. -/
def outgoing (s : GnssStatics F) (r : GnssRun F) : List RadioBroadcastData :=
  s.broadcastSent ++ r.built

/-- All broadcasts carry data that meet `P`. -/
def BroadcastsOf (P : Vector UInt8 sizeofGnssCoordinates → Prop) (bs : List RadioBroadcastData) :
    Prop :=
  ∀ b ∈ bs, ∃ data, P data ∧ b = gnssBroadcastData data

/-- The callback has coordinates of a fix that was reported. -/
def Populates [Div F] [IntCast F] [OfScientific F] (fixes : List (GnssLoggingData F))
    (logData : GnssLoggingData F) : GnssCallback → Prop
  | .idle => True
  | .populate data => ∃ fix ∈ fixes, fix.gnssData.coordinates = populateGnssNavigationData data
  | .setUpdated | .copyCoordinates _ =>
    ∃ fix ∈ fixes, fix.gnssData.coordinates = logData.gnssData.coordinates

/-- The callback copies the coordinates. -/
def GnssCallback.copies : GnssCallback → Bool
  | .copyCoordinates _ => true
  | _ => false

/-- `Run` copies the coordinates. -/
def GnssRun.copies : GnssRun F → Bool
  | .copyCoordinates _ _ => true
  | _ => false

section Copies

variable {floatBytes : F → Vector UInt8 4} {fixes fixes' : List (GnssLoggingData F)}
  {data source : Vector UInt8 sizeofGnssCoordinates}

theorem Reported.mono (h : Reported floatBytes fixes data) (hfixes : fixes ⊆ fixes') :
    Reported floatBytes fixes' data :=
  h.imp_right fun ⟨fix, hfix, heq⟩ => ⟨fix, hfixes hfix, heq⟩

theorem Mixed.mono (h : Mixed floatBytes fixes data) (hfixes : fixes ⊆ fixes') :
    Mixed floatBytes fixes' data :=
  fun i => (h i).imp fun _ hi => ⟨hi.1.mono hfixes, hi.2⟩

theorem Reported.mixed (h : Reported floatBytes fixes data) : Mixed floatBytes fixes data :=
  fun _ => ⟨data, h, rfl⟩

theorem BroadcastsOf.mono {P Q : Vector UInt8 sizeofGnssCoordinates → Prop}
    {bs : List RadioBroadcastData} (h : BroadcastsOf P bs) (hPQ : ∀ data, P data → Q data) :
    BroadcastsOf Q bs :=
  fun b hb => (h b hb).imp fun data hdata => ⟨hPQ data hdata.1, hdata.2⟩

theorem BroadcastsOf.concat {P : Vector UInt8 sizeofGnssCoordinates → Prop}
    {bs : List RadioBroadcastData} (h : BroadcastsOf P bs) (hdata : P data) :
    BroadcastsOf P (bs ++ [gnssBroadcastData data]) := by
  intro b hb
  rcases List.mem_append.mp hb with hold | hnew
  · exact h b hold
  · exact ⟨data, hdata, List.mem_singleton.mp hnew⟩

/-- A byte is copied. -/
theorem set_get (i j : Fin sizeofGnssCoordinates) :
    (data.set i source[i])[j] = if i = j then source[j] else data[j] := by
  rw [Fin.getElem_fin, Vector.getElem_set]
  by_cases hij : i = j
  · subst hij
    rw [if_pos rfl, if_pos rfl]
  · rw [if_neg fun h => hij (Fin.ext h), if_neg hij]
    rfl

theorem Mixed.set (h : Mixed floatBytes fixes data) (hsource : Mixed floatBytes fixes source)
    (i : Fin sizeofGnssCoordinates) : Mixed floatBytes fixes (data.set i source[i]) := by
  intro j
  rw [set_get]
  split
  · exact hsource j
  · exact h j

theorem Copied.zero : Copied 0 source data := fun j hj => absurd hj (Nat.not_lt_zero j)

/-- The bytes before `i`, and byte `i`. -/
theorem Copied.set {i : Fin sizeofGnssCoordinates} (h : Copied i source data)
    {j : Fin sizeofGnssCoordinates} (hj : j.val < i.val + 1) :
    (data.set i source[i])[j] = source[j] := by
  rw [set_get]
  split
  · rfl
  · rename_i hij
    exact h j (Fin.lt_def.mpr (Nat.lt_of_le_of_ne (Nat.le_of_lt_succ hj) fun heq =>
      hij (Fin.ext heq.symm)))

theorem Copied.next {i i' : Fin sizeofGnssCoordinates} (h : Copied i source data)
    (hnext : nextByte i = some i') : Copied i' source (data.set i source[i]) := by
  intro j hj
  have hval := nextByte_eq_some hnext
  exact h.set (by rw [← hval]; exact hj)

theorem Copied.last {i : Fin sizeofGnssCoordinates} (h : Copied i source data)
    (hnext : nextByte i = none) : data.set i source[i] = source :=
  Vector.ext fun j hj => h.set (nextByte_eq_none hnext ⟨j, hj⟩)

end Copies

section Broadcasting

variable {s : GnssStatics F} {c : GnssCallback} {r : GnssRun F}

/-- **What a move of `Run` can do** to the statics that it reads. -/
theorem run_frame (s : GnssStatics F) (r : GnssRun F) :
    (gnssRunMove s r).1.fixes = s.fixes ∧ (gnssRunMove s r).1.coordinates = s.coordinates ∧
      (gnssRunMove s r).1.gnssLogData = s.gnssLogData := by
  cases r <;> exact ⟨rfl, rfl, rfl⟩

/-- **What a move of `Run` adds to the broadcasts**: one when the copy is complete. -/
theorem outgoing_run (s : GnssStatics F) (r : GnssRun F) :
    outgoing (gnssRunMove s r).1 (gnssRunMove s r).2 = outgoing s r ∨
      ∃ i data, r = .copyCoordinates i data ∧ nextByte i = none ∧
        outgoing (gnssRunMove s r).1 (gnssRunMove s r).2 =
          outgoing s r ++ [gnssBroadcastData (data.set i s.coordinates[i])] := by
  cases r with
  | checkUpdated =>
    left
    rw [gnssRunMove]
    simp only
    split <;> rfl
  | copyLog => exact .inl rfl
  | sendLog logData => exact .inl rfl
  | checkTimer =>
    left
    rw [gnssRunMove]
    simp only
    split <;> rfl
  | copyCoordinates i data =>
    rw [gnssRunMove]
    simp only
    cases hnext : nextByte i with
    | some i' => exact .inl rfl
    | none => exact .inr ⟨i, data, rfl, hnext, congrArg (· ++ _) (List.append_nil _).symm⟩
  | sendBroadcast broadcastData => exact .inl (List.append_nil _)
  | clearUpdated => exact .inl rfl

/-- **How `Run` comes to a byte of its copy.** -/
theorem copies_run {i : Fin sizeofGnssCoordinates} {data : Vector UInt8 sizeofGnssCoordinates}
    (h : (gnssRunMove s r).2 = .copyCoordinates i data) :
    (i = 0 ∧ data = Vector.replicate _ 0) ∨ ∃ j before, r = .copyCoordinates j before ∧
      nextByte j = some i ∧ data = before.set j s.coordinates[j] := by
  cases r with
  | checkUpdated =>
    rw [gnssRunMove] at h
    simp only at h
    split at h <;> cases h
  | checkTimer =>
    rw [gnssRunMove] at h
    simp only at h
    split at h
    · cases h
      exact .inl ⟨rfl, rfl⟩
    · cases h
  | copyCoordinates j before =>
    rw [gnssRunMove] at h
    simp only at h
    cases hnext : nextByte j with
    | some j' =>
      rw [hnext] at h
      cases h
      exact .inr ⟨j, before, rfl, hnext, rfl⟩
    | none =>
      rw [hnext] at h
      cases h
  | copyLog => cases h
  | sendLog logData => cases h
  | sendBroadcast broadcastData => cases h
  | clearUpdated => cases h

variable [Div F] [IntCast F] [OfScientific F] {floatBytes : F → Vector UInt8 4}

theorem rated_callback (h : Rated s r) (a : Nat × NavigationData) :
    Rated (callbackMove floatBytes a s c).1 r := by
  cases c <;> exact ⟨h.timed, h.logged⟩

/-- Nothing is copied but bytes of fixes. -/
structure Mixes (floatBytes : F → Vector UInt8 4) (s : GnssStatics F) (c : GnssCallback)
    (r : GnssRun F) : Prop where
  populates : Populates s.fixes s.gnssLogData c
  coordinates : Mixed floatBytes s.fixes s.coordinates
  copied : ∀ i data, r = .copyCoordinates i data → Mixed floatBytes s.fixes data
  sent : BroadcastsOf (Mixed floatBytes s.fixes) (outgoing s r)

theorem mixes_callback (h : Mixes floatBytes s c r) (a : Nat × NavigationData) :
    Mixes floatBytes (callbackMove floatBytes a s c).1 (callbackMove floatBytes a s c).2 r := by
  cases c with
  | idle =>
    have hfixes : s.fixes ⊆ (callbackMove floatBytes a s .idle).1.fixes :=
      List.subset_append_left _ _
    exact ⟨⟨_, List.mem_concat_self, rfl⟩, h.coordinates.mono hfixes,
      fun i data hr => (h.copied i data hr).mono hfixes,
      h.sent.mono fun data hdata => hdata.mono hfixes⟩
  | populate data => exact ⟨h.populates, h.coordinates, h.copied, h.sent⟩
  | setUpdated => exact ⟨h.populates, h.coordinates, h.copied, h.sent⟩
  | copyCoordinates i =>
    obtain ⟨fix, hfix, heq⟩ := h.populates
    have hsource : Reported floatBytes s.fixes
        (s.gnssLogData.gnssData.coordinates.image floatBytes) := .inr ⟨fix, hfix, by rw [heq]⟩
    refine ⟨?_, h.coordinates.set hsource.mixed i, h.copied, h.sent⟩
    rw [callbackMove]
    cases nextByte i with
    | some i' => exact ⟨fix, hfix, heq⟩
    | none => trivial

theorem mixes_run (h : Mixes floatBytes s c r) :
    Mixes floatBytes (gnssRunMove s r).1 c (gnssRunMove s r).2 := by
  obtain ⟨hfixes, hcoordinates, hlogData⟩ := run_frame s r
  constructor
  · rw [hfixes, hlogData]
    exact h.populates
  · rw [hfixes, hcoordinates]
    exact h.coordinates
  · intro i data hr
    rw [hfixes]
    rcases copies_run hr with ⟨-, rfl⟩ | ⟨j, before, rfl, -, rfl⟩
    · exact Reported.mixed (.inl rfl)
    · exact (h.copied j before rfl).set h.coordinates j
  · rw [hfixes]
    rcases outgoing_run s r with hsame | ⟨i, data, rfl, -, hnew⟩
    · rw [hsame]
      exact h.sent
    · rw [hnew]
      exact h.sent.concat ((h.copied i data rfl).set h.coordinates i)

/-- While no two copies are under way at a time, coordinates are of one fix. -/
structure Wholes (floatBytes : F → Vector UInt8 4) (s : GnssStatics F) (c : GnssCallback)
    (r : GnssRun F) : Prop where
  populates : Populates s.fixes s.gnssLogData c
  coordinates : c.copies = false → Reported floatBytes s.fixes s.coordinates
  writing : ∀ i, c = .copyCoordinates i →
    Copied i (s.gnssLogData.gnssData.coordinates.image floatBytes) s.coordinates
  reading : ∀ i data, r = .copyCoordinates i data → Copied i s.coordinates data
  sent : BroadcastsOf (Reported floatBytes s.fixes) (outgoing s r)

theorem wholes_callback (h : Wholes floatBytes s c r) (a : Nat × NavigationData)
    (hapart : c.copies = true → r.copies = false) :
    Wholes floatBytes (callbackMove floatBytes a s c).1 (callbackMove floatBytes a s c).2 r := by
  cases c with
  | idle =>
    have hfixes : s.fixes ⊆ (callbackMove floatBytes a s .idle).1.fixes :=
      List.subset_append_left _ _
    exact ⟨⟨_, List.mem_concat_self, rfl⟩, fun _ => (h.coordinates rfl).mono hfixes,
      fun i hi => (by cases hi), h.reading, h.sent.mono fun data hdata => hdata.mono hfixes⟩
  | populate data =>
    exact ⟨h.populates, fun _ => h.coordinates rfl, fun i hi => (by cases hi), h.reading, h.sent⟩
  | setUpdated =>
    refine ⟨h.populates, fun hc => absurd hc.symm Bool.false_ne_true, fun i hi => ?_, h.reading,
      h.sent⟩
    cases hi
    exact .zero
  | copyCoordinates i =>
    have hcopied := h.writing i rfl
    have hreading : ∀ k data, r = .copyCoordinates k data → Copied k
        (callbackMove floatBytes a s (.copyCoordinates i)).1.coordinates data := by
      rintro k data rfl
      exact absurd (hapart rfl).symm Bool.false_ne_true
    rw [callbackMove] at hreading ⊢
    cases hnext : nextByte i with
    | some i' =>
      refine ⟨h.populates, fun hc => absurd hc.symm Bool.false_ne_true, fun k hk => ?_, hreading,
        h.sent⟩
      cases hk
      exact hcopied.next hnext
    | none =>
      obtain ⟨fix, hfix, heq⟩ := h.populates
      refine ⟨trivial, fun _ => .inr ⟨fix, hfix, ?_⟩, fun k hk => (by cases hk), hreading, h.sent⟩
      rw [heq]
      exact hcopied.last hnext

theorem wholes_run (h : Wholes floatBytes s c r) (hapart : r.copies = true → c.copies = false) :
    Wholes floatBytes (gnssRunMove s r).1 c (gnssRunMove s r).2 := by
  obtain ⟨hfixes, hcoordinates, hlogData⟩ := run_frame s r
  constructor
  · rw [hfixes, hlogData]
    exact h.populates
  · rw [hfixes, hcoordinates]
    exact h.coordinates
  · rw [hcoordinates, hlogData]
    exact h.writing
  · intro i data hr
    rw [hcoordinates]
    rcases copies_run hr with ⟨rfl, -⟩ | ⟨j, before, rfl, hnext, rfl⟩
    · exact .zero
    · exact (h.reading j before rfl).next hnext
  · rw [hfixes]
    rcases outgoing_run s r with hsame | ⟨i, data, rfl, hnext, hnew⟩
    · rw [hsame]
      exact h.sent
    · rw [hnew, (h.reading i data rfl).last hnext]
      exact h.sent.concat (h.coordinates (hapart rfl))

/-- The callback and `Run` do not both copy the coordinates. -/
def CopiesApart (w : World (GnssStatics F) (GnssLocal F)) : Prop :=
  ¬ ((w.locals .driver).copies = true ∧ (w.locals .task).copies = true)

theorem rated_turns (zero : F) (turns : List (Σ t, GnssInput t)) :
    let w := run (gnssThreads floatBytes).step (gnssStart zero) turns
    Rated w.shared (w.locals .task) := by
  refine run_preserves (P := fun w : World (GnssStatics F) (GnssLocal F) =>
    Rated w.shared (w.locals .task)) ?_ turns ⟨Nat.le_refl 0, Nat.le_refl 0⟩
  rintro w ⟨t, a⟩ h
  cases t with
  | driver => exact rated_callback h a
  | task => exact rated_run h
  | timer => exact rated_timer h

theorem mixes_turns (zero : F) (turns : List (Σ t, GnssInput t)) :
    let w := run (gnssThreads floatBytes).step (gnssStart zero) turns
    Mixes floatBytes w.shared (w.locals .driver) (w.locals .task) := by
  have hstart : Mixes floatBytes (gnssStart zero).shared .idle .checkUpdated :=
    ⟨trivial, Reported.mixed (.inl rfl), fun i data hr => (by cases hr), List.forall_mem_nil _⟩
  refine run_preserves (P := fun w : World (GnssStatics F) (GnssLocal F) =>
    Mixes floatBytes w.shared (w.locals .driver) (w.locals .task)) ?_ turns hstart
  rintro w ⟨t, a⟩ h
  cases t with
  | driver => exact mixes_callback h a
  | task => exact mixes_run h
  | timer => exact ⟨h.populates, h.coordinates, h.copied, h.sent⟩

theorem wholes_turns (zero : F) (turns : List (Σ t, GnssInput t))
    (hapart : ∀ pre, pre <+: turns →
      CopiesApart (run (gnssThreads floatBytes).step (gnssStart zero) pre)) :
    let w := run (gnssThreads floatBytes).step (gnssStart zero) turns
    Wholes floatBytes w.shared (w.locals .driver) (w.locals .task) := by
  have hstart : Wholes floatBytes (gnssStart zero).shared .idle .checkUpdated :=
    ⟨trivial, fun _ => .inl rfl, fun i hi => (by cases hi), fun i data hr => (by cases hr),
      List.forall_mem_nil _⟩
  refine run_prefix (motive := fun _ (w : World (GnssStatics F) (GnssLocal F)) =>
    Wholes floatBytes w.shared (w.locals .driver) (w.locals .task)) hstart ?_ List.prefix_rfl
  rintro pre ⟨t, a⟩ hpre h
  have hnot := hapart pre ((List.prefix_append pre _).trans hpre)
  cases t with
  | driver =>
    exact wholes_callback h a fun hc => Bool.eq_false_of_not_eq_true fun hr => hnot ⟨hc, hr⟩
  | task => exact wholes_run h fun hr => Bool.eq_false_of_not_eq_true fun hc => hnot ⟨hc, hr⟩
  | timer => exact ⟨h.populates, h.coordinates, h.writing, h.reading, h.sent⟩

/-- **There are no more broadcasts than expiries**, nor than records logged. Every byte of their
coordinates is one that a fix had at its place, or a zero; and if the copies of the coordinates are
never both under way, the coordinates are those of one fix, or zeros. -/
theorem broadcast_rate (zero : F) (turns : List (Σ t, GnssInput t)) :
    let after := run (gnssThreads floatBytes).step (gnssStart zero)
    let s := (after turns).shared
    s.broadcastSent.length ≤ s.expiries ∧ s.broadcastSent.length ≤ s.logSent.length ∧
      BroadcastsOf (Mixed floatBytes s.fixes) s.broadcastSent ∧
      ((∀ pre, pre <+: turns → CopiesApart (after pre)) →
        BroadcastsOf (Reported floatBytes s.fixes) s.broadcastSent) := by
  intro after s
  have hrated : Rated s ((after turns).locals .task) := rated_turns zero turns
  have hmixes : Mixes floatBytes s ((after turns).locals .driver) ((after turns).locals .task) :=
    mixes_turns zero turns
  refine ⟨le_of_add_le_left (le_of_add_le_left hrated.timed), le_of_add_le_left hrated.logged,
    fun b hb => hmixes.sent b (List.mem_append_left _ hb), fun hapart b hb => ?_⟩
  have hwholes : Wholes floatBytes s ((after turns).locals .driver)
    ((after turns).locals .task) := wholes_turns zero turns hapart
  exact hwholes.sent b (List.mem_append_left _ hb)

-- The flag is raised before the coordinates are copied.
example :
    let w := run (gnssThreads fun _ => Vector.replicate 4 0).step (gnssStart (0 : Rat))
      (⟨.timer, ()⟩ :: List.replicate 3 ⟨.driver, (1000, ⟨43000000000, -77000000000, 150000⟩)⟩ ++
        List.replicate 16 ⟨.task, ()⟩)
    w.shared.fixes.length = 1 ∧
      w.locals .task = .sendBroadcast (gnssBroadcastData (Vector.replicate _ 0)) := ⟨rfl, rfl⟩

end Broadcasting

end Backplane.Radio
