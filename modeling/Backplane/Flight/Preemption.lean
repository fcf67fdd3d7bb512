import Backplane.Flight.Dispatch
import Backplane.General.Threads
import Backplane.Samples.PhaseDetection

/-!
# `SubmitEvent` under preemption

`SubmitEvent` takes no lock, and threads and timer interrupts call it. Here its calls are executed
access by access, in any interleaving: the write of the source state, the copy of the source states
for the decider (passed by value, entry by entry), the read of the event state, its write, the post
to the `k_event`, the start of every timer slot and the two log lines. Interrupts that cannot be
preempted by threads, and copies of several entries at once, are special cases.

Results:
* `call_uninterrupted`: a call that is not interrupted is one step of the controller.
* `Knows`: what a call knows of the controller at each point, whatever the others do.
* `Consistent`: what holds between the controller and all calls, under way or not; kept by every
  access (`Consistent.moved`).
* `preempted_same_outcome`: no report is lost. When no call is under way, the outcome is that of
  the same calls one after another in any order.
* `preempted_log`: an event can be dispatched more than once; the log says how often.
-/

namespace Backplane.Flight

open Backplane.Run
open Backplane.Threads

variable {EventID SourceID : Type} [DecidableEq EventID] [DecidableEq SourceID]
  {num_events num_timers : Nat} [CEnum EventID num_events]

/-- The entries of a `SourceStates`, in index order. -/
structure SourceIndex (SourceID : Type) where
  entries : List SourceID
  complete : ∀ s, s ∈ entries

/-- Who calls `SubmitEvent`: a thread, or the expiry function of a timer slot. -/
inductive Caller (EventID SourceID : Type) (num_timers : Nat)
  | thread (source : SourceID) (event : EventID)
  | timer (i : Fin num_timers)
  deriving DecidableEq

def Caller.source (cfg : Config EventID SourceID num_timers) :
    Caller EventID SourceID num_timers → SourceID
  | .thread source _ => source
  | .timer i => (cfg.timerEvents i).source

def Caller.event (cfg : Config EventID SourceID num_timers) :
    Caller EventID SourceID num_timers → EventID
  | .thread _ event => event
  | .timer i => (cfg.timerEvents i).event

/-- How far a call has come: what it does next. -/
inductive Progress (SourceID : Type) (num_timers : Nat)
  | idle
  /-- `sourceStates[event][source] = true`. -/
  | write
  /-- The decider's argument is copied. -/
  | copy (copied : SourceID → Bool) (rest : List SourceID)
  /-- `last_state = eventStates[event]`. -/
  | readLast
  /-- `eventStates[event] = true`. -/
  | setState
  /-- `k_event_post`. -/
  | post
  /-- The loop over the timers. -/
  | startTimers (rest : List (Fin num_timers))
  /-- `LogSourceEvent`; `decided` holds `last_state` if the decider accepted. -/
  | logSource (decided : Option Bool)
  /-- `LogEventConfirmed`. -/
  | logConfirmed (last_state : Bool)
  | done

/-- The call has returned. -/
def Progress.returned : Progress SourceID num_timers → Bool
  | .done => true
  | _ => false

section Defs

variable (cfg : Config EventID SourceID num_timers) (sources : SourceIndex SourceID)

/-- One access of a call of `caller`, at uptime `now`. -/
def callMove (caller : Caller EventID SourceID num_timers) (now : Nat)
    (c : CPhaseController EventID SourceID num_timers) :
    Progress SourceID num_timers →
      Option (CPhaseController EventID SourceID num_timers × Progress SourceID num_timers)
  | .idle =>
    match caller with
    | .thread _ _ => some (c, .write)
    -- an expiry function is called when its timer has run out
    | .timer i => if expires cfg c now i then some (stopTimer c i, .write) else none
  | .write =>
    let states := Function.update (c.sourceStates (caller.event cfg)) (caller.source cfg) true
    some ({ c with sourceStates := Function.update c.sourceStates (caller.event cfg) states },
      .copy (fun _ => false) sources.entries)
  | .copy copied (s :: rest) =>
    some (c, .copy (Function.update copied s (c.sourceStates (caller.event cfg) s)) rest)
  | .copy copied [] =>
    some (c, if cfg.deciders (caller.event cfg) copied then .readLast else .logSource none)
  | .readLast =>
    some (c, if c.eventStates (caller.event cfg) then .logSource (some true) else .setState)
  | .setState =>
    some ({ c with eventStates := Function.update c.eventStates (caller.event cfg) true }, .post)
  | .post =>
    some ({ c with osEvents := c.osEvents ||| eventBit (caller.event cfg) },
      .startTimers (List.finRange num_timers))
  | .startTimers (i :: rest) =>
    some (if (cfg.timerEvents i).start = caller.event cfg then
        { c with timers := Function.update c.timers i ((c.timers i).start now) }
      else c, .startTimers rest)
  | .startTimers [] => some (c, .logSource (some false))
  | .logSource none => some (logSourceEvent cfg c (caller.event cfg) (caller.source cfg), .done)
  | .logSource (some last_state) =>
    some (logSourceEvent cfg c (caller.event cfg) (caller.source cfg), .logConfirmed last_state)
  | .logConfirmed last_state =>
    some (logEventConfirmed cfg c (caller.event cfg) last_state, .done)
  | .done => none

variable {ι : Type}

/-- The calls `ι`, each by its caller. -/
def calls (callers : ι → Caller EventID SourceID num_timers) :
    Program ι (CPhaseController EventID SourceID num_timers)
      (fun _ => Progress SourceID num_timers) (fun _ => Nat) where
  move i now c l := callMove cfg sources (callers i) now c l

/-- The controller is constructed and nobody has called yet. -/
def callsStart : World (CPhaseController EventID SourceID num_timers)
    (fun _ : ι => Progress SourceID num_timers) :=
  { shared := cfg.construct, locals := fun _ => .idle }

/-- The calls that have returned, and no call is under way. -/
def Settled (w : World (CPhaseController EventID SourceID num_timers)
    (fun _ : ι => Progress SourceID num_timers)) : Prop :=
  ∀ i, w.locals i = .idle ∨ w.locals i = .done

end Defs

variable {cfg : Config EventID SourceID num_timers} {sources : SourceIndex SourceID}
  {caller : Caller EventID SourceID num_timers} {now : Nat}
  {c : CPhaseController EventID SourceID num_timers} {l : Progress SourceID num_timers}
  {y : CPhaseController EventID SourceID num_timers × Progress SourceID num_timers}

/-! ## What an access changes -/

omit [DecidableEq EventID] [DecidableEq SourceID] in
/-- A log line changes the log only. -/
@[simp] theorem writeLog_fields (line : LogLine EventID SourceID) :
    (writeLog cfg c line).sourceStates = c.sourceStates ∧
      (writeLog cfg c line).eventStates = c.eventStates ∧
      (writeLog cfg c line).osEvents = c.osEvents ∧ (writeLog cfg c line).timers = c.timers :=
  ⟨rfl, rfl, rfl, rfl⟩

/-- The call has written its source state. -/
def Progress.written : Progress SourceID num_timers → Prop
  | .idle | .write => False
  | _ => True

theorem callMove_sourceStates (h : callMove cfg sources caller now c l = some y) :
    (l = .write ∧ y.2 = .copy (fun _ => false) sources.entries ∧
      y.1.sourceStates = Function.update c.sourceStates (caller.event cfg)
        (Function.update (c.sourceStates (caller.event cfg)) (caller.source cfg) true)) ∨
    (l ≠ .write ∧ y.1.sourceStates = c.sourceStates ∧ (y.2.written ↔ l.written)) := by
  revert h
  fun_cases callMove cfg sources caller now c l <;> intro h <;> cases h
  case case4 => exact .inl ⟨rfl, rfl, rfl⟩
  all_goals refine .inr ⟨by simp, ?_, ?_⟩
  all_goals (try split) <;>
    simp [Progress.written, stopTimer, logSourceEvent, logEventConfirmed]

theorem callMove_eventStates (h : callMove cfg sources caller now c l = some y) :
    (l = .setState ∧ y.2 = .post ∧
      y.1.eventStates = Function.update c.eventStates (caller.event cfg) true) ∨
    (l ≠ .setState ∧ y.2 ≠ .post ∧ y.1.eventStates = c.eventStates) := by
  revert h
  fun_cases callMove cfg sources caller now c l <;> intro h <;> cases h
  case case8 => exact .inl ⟨rfl, rfl, rfl⟩
  all_goals refine .inr ⟨by simp, ?_, ?_⟩
  all_goals (try split) <;> simp [stopTimer, logSourceEvent, logEventConfirmed]

theorem callMove_osEvents (h : callMove cfg sources caller now c l = some y) :
    (l = .post ∧ y.2 = .startTimers (List.finRange num_timers) ∧
      y.1.osEvents = c.osEvents ||| eventBit (caller.event cfg)) ∨
    (l ≠ .post ∧ y.1.osEvents = c.osEvents) := by
  revert h
  fun_cases callMove cfg sources caller now c l <;> intro h <;> cases h
  case case9 => exact .inl ⟨rfl, rfl, rfl⟩
  all_goals refine .inr ⟨by simp, ?_⟩
  all_goals (try split) <;> simp [stopTimer, logSourceEvent, logEventConfirmed]

/-- Starts are made in the loop, slot by slot. -/
theorem callMove_starts (h : callMove cfg sources caller now c l = some y) :
    (∃ i rest, l = .startTimers (i :: rest) ∧ y.2 = .startTimers rest ∧
      ∀ t, (y.1.timers t).starts = (c.timers t).starts +
        if t = i ∧ (cfg.timerEvents t).start = caller.event cfg then 1 else 0) ∨
    ((∀ i rest, l ≠ .startTimers (i :: rest)) ∧
      ∀ t, (y.1.timers t).starts = (c.timers t).starts) := by
  revert h
  fun_cases callMove cfg sources caller now c l <;> intro h <;> cases h
  case case10 i rest =>
    refine .inl ⟨i, rest, rfl, rfl, fun t => ?_⟩
    by_cases ht : t = i
    · subst ht
      by_cases hs : (cfg.timerEvents t).start = caller.event cfg <;> simp [hs, KTimer.start]
    · split <;> simp [ht]
  all_goals refine .inr ⟨by simp, fun t => ?_⟩
  all_goals simp [stopTimer_starts, logSourceEvent, logEventConfirmed]

theorem callMove_le_sourceStates (h : callMove cfg sources caller now c l = some y)
    (e : EventID) : c.sourceStates e ≤ y.1.sourceStates e := by
  rcases callMove_sourceStates h with ⟨-, -, heq⟩ | ⟨-, heq, -⟩
  · rw [heq]
    by_cases he : e = caller.event cfg
    · subst he
      rw [Function.update_self]
      exact LatchBank.le_update_true _ _
    · rw [Function.update_of_ne he]
  · rw [heq]

theorem callMove_occured (h : callMove cfg sources caller now c l = some y) {e : EventID}
    (he : c.eventStates e = true) : y.1.eventStates e = true := by
  rcases callMove_eventStates h with ⟨-, -, heq⟩ | ⟨-, -, heq⟩
  · rw [heq]
    by_cases hee : e = caller.event cfg
    · rw [hee, Function.update_self]
    · rwa [Function.update_of_ne hee]
  · rwa [heq]

/-! ## A call that is not interrupted -/

/-- The accesses of a call in a row, at one uptime. -/
abbrev Alone (cfg : Config EventID SourceID num_timers) (sources : SourceIndex SourceID)
    (caller : Caller EventID SourceID num_timers) (now : Nat) :=
  Relation.ReflTransGen
    fun x y : CPhaseController EventID SourceID num_timers × Progress SourceID num_timers =>
      callMove cfg sources caller now x.1 x.2 = some y

theorem copy_alone {rest : List SourceID} {copied final : SourceID → Bool}
    (hin : ∀ s ∈ rest, final s = c.sourceStates (caller.event cfg) s)
    (hout : ∀ s, s ∉ rest → final s = copied s) :
    Alone cfg sources caller now (c, .copy copied rest) (c, .copy final []) := by
  induction rest generalizing copied with
  | nil =>
    have heq : final = copied := funext fun s => hout s List.not_mem_nil
    rw [heq]
  | cons s rest ih =>
    refine .head (b := (c, .copy
      (Function.update copied s (c.sourceStates (caller.event cfg) s)) rest)) rfl (ih ?_ ?_)
    · exact fun s' hs' => hin s' (List.mem_cons_of_mem s hs')
    · intro s' hs'
      by_cases hs : s' = s
      · rw [hs, Function.update_self]
        exact hin s List.mem_cons_self
      · rw [Function.update_of_ne hs]
        exact hout s' (by simp [hs, hs'])

theorem startTimers_alone {rest : List (Fin num_timers)} (hnodup : rest.Nodup)
    {final : Fin num_timers → KTimer}
    (hin : ∀ t ∈ rest, final t = startTimers cfg c.timers (caller.event cfg) now t)
    (hout : ∀ t, t ∉ rest → final t = c.timers t) :
    Alone cfg sources caller now (c, .startTimers rest)
      ({ c with timers := final }, .startTimers []) := by
  induction rest generalizing c with
  | nil =>
    have heq : final = c.timers := funext fun t => hout t List.not_mem_nil
    rw [heq]
  | cons i rest ih =>
    obtain ⟨hi, hrest⟩ := List.nodup_cons.mp hnodup
    refine .head (b := ({ c with timers := Function.update c.timers i (final i) },
      .startTimers rest)) ?_ ?_
    · have hfi := hin i List.mem_cons_self
      unfold startTimers at hfi
      simp only [callMove]
      split
      · rename_i he
        rw [if_pos he] at hfi
        rw [hfi]
      · rename_i he
        rw [if_neg he] at hfi
        rw [hfi, Function.update_eq_self]
    · refine ih (c := { c with timers := Function.update c.timers i (final i) }) hrest ?_ ?_
      · intro t ht
        have hti : t ≠ i := fun h => hi (h ▸ ht)
        have := hin t (List.mem_cons_of_mem i ht)
        unfold startTimers at this ⊢
        simpa [hti] using this
      · intro t ht
        show final t = Function.update c.timers i (final i) t
        by_cases hti : t = i
        · rw [hti, Function.update_self]
        · rw [Function.update_of_ne hti]
          exact hout t (by simp [hti, ht])

/-- The two log lines of a decided call. -/
theorem log_alone (last_state : Bool) :
    Alone cfg sources caller now (c, .logSource (some last_state))
      (logEventConfirmed cfg (logSourceEvent cfg c (caller.event cfg) (caller.source cfg))
        (caller.event cfg) last_state, .done) :=
  .head (b := (logSourceEvent cfg c (caller.event cfg) (caller.source cfg),
    .logConfirmed last_state)) rfl (.single rfl)

/-- **From its first access on, a call that is not interrupted is `submitEvent`.** -/
theorem submit_alone (c : CPhaseController EventID SourceID num_timers) :
    Alone cfg sources caller now (c, .write)
      (submitEvent cfg c now (caller.source cfg) (caller.event cfg), .done) := by
  set e := caller.event cfg with he
  set states := Function.update (c.sourceStates e) (caller.source cfg) true with hstates
  set c₁ := { c with sourceStates := Function.update c.sourceStates e states } with hc₁
  have hread : ∀ s ∈ sources.entries, states s = c₁.sourceStates e s := by
    intro s _
    rw [hc₁]
    simp only
    rw [Function.update_self]
  have hcopy : Alone cfg sources caller now (c, .write) (c₁, .copy states []) :=
    .head (b := (c₁, .copy (fun _ => false) sources.entries)) rfl
      (copy_alone hread fun s hs => absurd (sources.complete s) hs)
  refine hcopy.trans ?_
  unfold submitEvent
  simp only [← hstates, ← hc₁]
  by_cases hdec : cfg.deciders e states = true
  · rw [if_pos hdec]
    have haccept : callMove cfg sources caller now c₁ (.copy states []) = some (c₁, .readLast) := by
      simp only [callMove, ← he, hdec, if_true]
    refine .head (b := (c₁, .readLast)) haccept ?_
    cases hlast : c.eventStates e with
    | true =>
      have hread : callMove cfg sources caller now c₁ .readLast =
          some (c₁, .logSource (some true)) := by
        simp only [callMove, ← he, hc₁, hlast, if_true]
      exact .head (b := (c₁, .logSource (some true))) hread (log_alone true)
    | false =>
      have hread : callMove cfg sources caller now c₁ .readLast = some (c₁, .setState) := by
        simp only [callMove, ← he, hc₁, hlast, Bool.false_eq_true, if_false]
      set c₂ := { c₁ with
        eventStates := Function.update c.eventStates e true
        osEvents := c.osEvents ||| eventBit e } with hc₂
      refine .head (b := (c₁, .setState)) hread (.head (b := _) rfl (.head (b := (c₂, _)) rfl ?_))
      have hloop : Alone cfg sources caller now (c₂, .startTimers (List.finRange num_timers))
          ({ c₂ with timers := startTimers cfg c.timers e now }, .startTimers []) :=
        startTimers_alone (List.nodup_finRange num_timers) (fun t _ => rfl)
          fun t ht => absurd (List.mem_finRange t) ht
      exact hloop.trans (.head (b := (_, .logSource (some false))) rfl (log_alone false))
  · rw [if_neg hdec]
    have hreject : callMove cfg sources caller now c₁ (.copy states []) =
        some (c₁, .logSource none) := by
      simp only [callMove, ← he, hdec, Bool.false_eq_true, if_false]
    exact .head (b := (c₁, .logSource none)) hreject (.single rfl)

/-! ## What a call knows -/

/-- What a call knows of the controller, at each point. -/
def Knows (cfg : Config EventID SourceID num_timers) (caller : Caller EventID SourceID num_timers)
    (c : CPhaseController EventID SourceID num_timers) : Progress SourceID num_timers → Prop
  | .copy copied _ => copied ≤ c.sourceStates (caller.event cfg)
  | .readLast | .setState =>
    cfg.deciders (caller.event cfg) (c.sourceStates (caller.event cfg)) = true
  | .post | .logSource (some _) | .logConfirmed _ => c.eventStates (caller.event cfg) = true
  | .startTimers rest => c.eventStates (caller.event cfg) = true ∧ rest.Nodup
  | .idle | .write | .logSource none | .done => True

/-- What a call's accesses guarantee to the others: source and event states are only ever set. -/
structure Grows (c c' : CPhaseController EventID SourceID num_timers) : Prop where
  sourceStates : ∀ e, c.sourceStates e ≤ c'.sourceStates e
  eventStates : ∀ e, c.eventStates e = true → c'.eventStates e = true

omit [DecidableEq EventID] [DecidableEq SourceID] in
theorem Knows.stable (hm : MonotoneDeciders cfg.deciders)
    {c' : CPhaseController EventID SourceID num_timers} (hg : Grows c c')
    (h : Knows cfg caller c l) : Knows cfg caller c' l := by
  have hdec : ∀ e, cfg.deciders e (c.sourceStates e) = true →
      cfg.deciders e (c'.sourceStates e) = true := fun e =>
    Bool.le_iff_imp.mp (hm.monotone e (hg.sourceStates e))
  cases l with
  | copy copied rest => exact le_trans h (hg.sourceStates _)
  | readLast => exact hdec _ h
  | setState => exact hdec _ h
  | post => exact hg.eventStates _ h
  | startTimers rest => exact ⟨hg.eventStates _ h.1, h.2⟩
  | logSource decided =>
    cases decided with
    | none => exact trivial
    | some last_state => exact hg.eventStates _ h
  | logConfirmed last_state => exact hg.eventStates _ h
  | idle => exact trivial
  | write => exact trivial
  | done => exact trivial

/-- A call keeps what it knows up to date. -/
theorem callMove_knows (hm : MonotoneDeciders cfg.deciders) (h : Knows cfg caller c l)
    (hy : callMove cfg sources caller now c l = some y) : Knows cfg caller y.1 y.2 := by
  revert hy
  fun_cases callMove cfg sources caller now c l <;> intro hy <;> cases hy
  case case4 =>
    intro s
    exact Bool.false_le _
  case case5 copied s rest =>
    intro s'
    by_cases hs : s' = s
    · rw [hs, Function.update_self]
    · rw [Function.update_of_ne hs]
      exact h s'
  case case6 copied =>
    simp only
    split
    · rename_i hdec
      exact Bool.le_iff_imp.mp (hm.monotone _ h) hdec
    · exact trivial
  case case7 =>
    simp only
    split
    · assumption
    · exact h
  case case8 =>
    show Function.update c.eventStates _ true _ = true
    rw [Function.update_self]
  case case9 => exact ⟨h, List.nodup_finRange _⟩
  case case10 i rest =>
    refine ⟨?_, (List.nodup_cons.mp h.2).2⟩
    simp only
    split <;> exact h.1
  case case11 => exact h.1
  case case13 => exact h
  all_goals exact trivial

/-- The proof outline of the calls. -/
def callsOutline {ι : Type} [DecidableEq ι] (hm : MonotoneDeciders cfg.deciders)
    (sources : SourceIndex SourceID) (callers : ι → Caller EventID SourceID num_timers) :
    Outline (calls cfg sources callers) where
  inv _ := True
  own i c l := Knows cfg (callers i) c l
  guar _ c c' := Grows c c'
  move _ hown hy := ⟨trivial, callMove_knows hm hown hy,
    ⟨callMove_le_sourceStates hy, fun _ => callMove_occured hy⟩⟩
  stable _ hg hown := hown.stable hm hg

/-! ## Invariants of the interleavings -/

section Worlds

variable {ι : Type} [DecidableEq ι] {callers : ι → Caller EventID SourceID num_timers}

/-- A world of calls. -/
abbrev CallsWorld (ι EventID SourceID : Type) (num_timers : Nat) :=
  World (CPhaseController EventID SourceID num_timers) (fun _ : ι => Progress SourceID num_timers)

/-- The call as one step of the controller. -/
def Caller.call (now : Nat) :
    Caller EventID SourceID num_timers → Call EventID SourceID num_timers
  | .thread source event => .submit now source event
  | .timer i => .expiry now i

/-- **A call that is not interrupted is one step of the controller.** -/
theorem call_uninterrupted (w : CallsWorld ι EventID SourceID num_timers) {i : ι}
    (hidle : w.locals i = .idle) (now : Nat) :
    ∃ n l, run (calls cfg sources callers).step w (List.replicate n ⟨i, now⟩) =
      w.moved i (step cfg w.shared ((callers i).call now), l) := by
  have hself : w.moved i (w.shared, .idle) = w := by rw [← hidle, moved_self]
  -- the first move, and the rest alone
  have hrun : ∀ c, callMove cfg sources (callers i) now w.shared .idle = some (c, .write) →
      ∃ n l, run (calls cfg sources callers).step w (List.replicate n ⟨i, now⟩) =
        w.moved i (submitEvent cfg c now ((callers i).source cfg) ((callers i).event cfg), l) := by
    intro c hfirst
    have halone : Alone cfg sources (callers i) now (w.shared, .idle)
        (submitEvent cfg c now ((callers i).source cfg) ((callers i).event cfg), .done) :=
      .head (b := (c, .write)) hfirst (submit_alone c)
    obtain ⟨n, hn⟩ := run_alone (p := calls cfg sources callers) (w := w) (a := now) halone
    rw [hself] at hn
    exact ⟨n, .done, hn⟩
  cases hc : callers i with
  | thread source event =>
    rw [hc] at hrun
    exact hrun w.shared rfl
  | timer t =>
    rw [hc] at hrun
    simp only [Caller.call, step, timerExpiry]
    split
    · rename_i hexp
      exact hrun (stopTimer w.shared t) (by simp only [callMove, hexp, if_true])
    · exact ⟨0, .idle, hself.symm⟩

/-- The call will still see every report that is there now, and set the event state. -/
def Pending (states : SourceID → Bool) : Progress SourceID num_timers → Prop
  | .copy copied rest => ∀ s, s ∉ rest → copied s = states s
  | .readLast | .setState => True
  | _ => False

/-- The call will still start slot `t`. -/
def Starting (t : Fin num_timers) : Progress SourceID num_timers → Prop
  | .post => True
  | .startTimers rest => t ∈ rest
  | _ => False

/-- What holds between the controller and the calls. -/
structure Consistent (cfg : Config EventID SourceID num_timers)
    (callers : ι → Caller EventID SourceID num_timers)
    (w : CallsWorld ι EventID SourceID num_timers) : Prop where
  knows : ∀ i, Knows cfg (callers i) w.shared (w.locals i)
  recorded : ∀ e s, w.shared.sourceStates e s = true ↔
    ∃ i, (callers i).event cfg = e ∧ (callers i).source cfg = s ∧ (w.locals i).written
  decided : ∀ e, w.shared.eventStates e = true →
    cfg.deciders e (w.shared.sourceStates e) = true
  pending : ∀ e, cfg.deciders e (w.shared.sourceStates e) = true →
    w.shared.eventStates e = true ∨
      ∃ i, (callers i).event cfg = e ∧ Pending (w.shared.sourceStates e) (w.locals i)
  bits : ∀ j, w.shared.osEvents.getLsbD j = true →
    ∃ e : EventID, (CEnum.toFin e).val = j ∧ w.shared.eventStates e = true
  posting : ∀ e, w.shared.eventStates e = true →
    w.shared.osEvents.getLsbD (CEnum.toFin e).val = true ∨
      ∃ i, (callers i).event cfg = e ∧ w.locals i = .post
  started : ∀ t, 0 < (w.shared.timers t).starts →
    w.shared.eventStates (cfg.timerEvents t).start = true
  starting : ∀ t, w.shared.eventStates (cfg.timerEvents t).start = true →
    0 < (w.shared.timers t).starts ∨
      ∃ i, (callers i).event cfg = (cfg.timerEvents t).start ∧ Starting t (w.locals i)

omit [DecidableEq ι] [DecidableEq EventID] [DecidableEq SourceID] in
theorem callsStart_consistent (hm : MonotoneDeciders cfg.deciders) :
    Consistent cfg callers (callsStart cfg) where
  knows _ := trivial
  recorded e s := by simp [callsStart, Config.construct, Progress.written]
  decided e h := absurd h (by simp [callsStart, Config.construct])
  pending e h := absurd ((hm.bot e).symm.trans h) Bool.false_ne_true
  bits j h := absurd h (by simp [callsStart, Config.construct])
  posting e h := absurd h (by simp [callsStart, Config.construct])
  started t h := absurd h (Nat.lt_irrefl 0)
  starting t h := absurd h (by simp [callsStart, Config.construct])

/-- A pending call goes on until the event has occured. -/
theorem callMove_pending {e : EventID} (he : caller.event cfg = e)
    (hp : Pending (c.sourceStates e) l) (hdec : cfg.deciders e (c.sourceStates e) = true)
    (hy : callMove cfg sources caller now c l = some y) :
    y.1.eventStates e = true ∨ Pending (c.sourceStates e) y.2 := by
  subst he
  cases l with
  | copy copied rest =>
    cases rest with
    | nil =>
      cases hy
      have hall : copied = c.sourceStates (caller.event cfg) :=
        funext fun s => hp s List.not_mem_nil
      right
      simp only [hall, hdec, if_true]
      exact trivial
    | cons s rest =>
      cases hy
      refine .inr fun s' hs' => ?_
      by_cases hs : s' = s
      · rw [hs, Function.update_self]
      · rw [Function.update_of_ne hs]
        exact hp s' (by simp [hs, hs'])
  | readLast =>
    cases hy
    simp only
    split
    · exact .inl ‹_›
    · exact .inr trivial
  | setState =>
    cases hy
    exact .inl (Function.update_self ..)
  | _ => exact absurd hp id

variable {w : CallsWorld ι EventID SourceID num_timers} {i : ι}

theorem Consistent.recorded_moved (h : Consistent cfg callers w)
    (hy : callMove cfg sources (callers i) now w.shared (w.locals i) = some y) (e : EventID)
    (s : SourceID) : y.1.sourceStates e s = true ↔ ∃ j, (callers j).event cfg = e ∧
      (callers j).source cfg = s ∧ ((w.moved i y).locals j).written := by
  have hother : ∀ j, j ≠ i → (((w.moved i y).locals j).written ↔ (w.locals j).written) :=
    fun j hj => by rw [moved_locals_other w y hj]
  rcases callMove_sourceStates hy with ⟨hl, hy2, heq⟩ | ⟨-, heq, hwr⟩
  · have hself : ((w.moved i y).locals i).written := by
      rw [moved_locals_self, hy2]
      exact trivial
    have hbefore : ¬ (w.locals i).written := by
      rw [hl]
      exact id
    have hset : y.1.sourceStates e s = true ↔ w.shared.sourceStates e s = true ∨
        ((callers i).event cfg = e ∧ (callers i).source cfg = s) := by
      rw [heq]
      by_cases he : e = (callers i).event cfg
      · subst he
        rw [Function.update_self]
        by_cases hs : s = (callers i).source cfg
        · simp [hs]
        · simp [Function.update_of_ne hs, Ne.symm hs]
      · simp [Function.update_of_ne he, Ne.symm he]
    rw [hset, h.recorded]
    constructor
    · rintro (⟨j, hje, hjs, hw⟩ | ⟨he, hs⟩)
      · have hj : j ≠ i := fun hji => hbefore (hji ▸ hw)
        exact ⟨j, hje, hjs, (hother j hj).mpr hw⟩
      · exact ⟨i, he, hs, hself⟩
    · rintro ⟨j, hje, hjs, hw⟩
      by_cases hj : j = i
      · subst hj
        exact .inr ⟨hje, hjs⟩
      · exact .inl ⟨j, hje, hjs, (hother j hj).mp hw⟩
  · rw [heq, h.recorded]
    refine exists_congr fun j => and_congr_right fun _ => and_congr_right fun _ => ?_
    by_cases hj : j = i
    · subst hj
      rw [moved_locals_self, hwr]
    · exact (hother j hj).symm

theorem Consistent.pending_moved (h : Consistent cfg callers w)
    (hy : callMove cfg sources (callers i) now w.shared (w.locals i) = some y) {e : EventID}
    (hdec : cfg.deciders e (y.1.sourceStates e) = true) :
    y.1.eventStates e = true ∨ ∃ j, (callers j).event cfg = e ∧
      Pending (y.1.sourceStates e) ((w.moved i y).locals j) := by
  -- unless the move writes for `e`, the source states of `e` stay
  have hkept : y.1.sourceStates e = w.shared.sourceStates e →
      y.1.eventStates e = true ∨ ∃ j, (callers j).event cfg = e ∧
        Pending (y.1.sourceStates e) ((w.moved i y).locals j) := by
    intro heq
    rw [heq] at hdec ⊢
    rcases h.pending e hdec with ho | hex
    · exact .inl (callMove_occured hy ho)
    · refine exists_moved (R := fun j l => (callers j).event cfg = e ∧
        Pending (w.shared.sourceStates e) l) hex fun hj => ?_
      exact (callMove_pending hj.1 hj.2 hdec hy).imp_right fun hp => ⟨hj.1, hp⟩
  rcases callMove_sourceStates hy with ⟨-, hy2, heq⟩ | ⟨-, heq, -⟩
  · by_cases he : e = (callers i).event cfg
    · refine .inr ⟨i, he.symm, ?_⟩
      rw [moved_locals_self, hy2]
      exact fun s hs => absurd (sources.complete s) hs
    · exact hkept (by rw [heq, Function.update_of_ne he])
  · exact hkept (by rw [heq])

/-- An event that occured with this move: the move set it, and posts next. -/
theorem callMove_newly {e : EventID} (hy : callMove cfg sources caller now c l = some y)
    (ha : y.1.eventStates e = true) :
    c.eventStates e = true ∨ (caller.event cfg = e ∧ l = .setState ∧ y.2 = .post) := by
  rcases callMove_eventStates hy with ⟨hl, hy2, heq⟩ | ⟨-, -, heq⟩
  · by_cases he : e = caller.event cfg
    · exact .inr ⟨he.symm, hl, hy2⟩
    · rw [heq, Function.update_of_ne he] at ha
      exact .inl ha
  · rw [heq] at ha
    exact .inl ha

theorem callMove_bit (hy : callMove cfg sources caller now c l = some y) (j : Nat) :
    y.1.osEvents.getLsbD j = true ↔ c.osEvents.getLsbD j = true ∨
      (l = .post ∧ j = (CEnum.toFin (caller.event cfg)).val) := by
  rcases callMove_osEvents hy with ⟨hl, -, heq⟩ | ⟨hl, heq⟩
  · rw [heq, BitVec.getLsbD_or, eventBit_getLsbD cfg.num_events_le, Bool.or_eq_true,
      decide_eq_true_eq]
    simp [hl]
  · simp [heq, hl]

theorem Consistent.posting_moved (h : Consistent cfg callers w)
    (hy : callMove cfg sources (callers i) now w.shared (w.locals i) = some y) {e : EventID}
    (ha : y.1.eventStates e = true) :
    y.1.osEvents.getLsbD (CEnum.toFin e).val = true ∨
      ∃ j, (callers j).event cfg = e ∧ (w.moved i y).locals j = .post := by
  rcases callMove_newly hy ha with ho | ⟨he, -, hpost⟩
  · rcases h.posting e ho with hbit | hex
    · exact .inl ((callMove_bit hy _).mpr (.inl hbit))
    · refine exists_moved (R := fun j l => (callers j).event cfg = e ∧ l = Progress.post) hex ?_
      rintro ⟨hje, hjl⟩
      exact .inl ((callMove_bit hy _).mpr (.inr ⟨hjl, by rw [hje]⟩))
  · exact .inr ⟨i, he, by rw [moved_locals_self, hpost]⟩

theorem Consistent.starting_moved (h : Consistent cfg callers w)
    (hy : callMove cfg sources (callers i) now w.shared (w.locals i) = some y)
    {t : Fin num_timers} (ha : y.1.eventStates (cfg.timerEvents t).start = true) :
    0 < (y.1.timers t).starts ∨ ∃ j, (callers j).event cfg = (cfg.timerEvents t).start ∧
      Starting t ((w.moved i y).locals j) := by
  rcases callMove_newly hy ha with ho | ⟨he, -, hpost⟩
  · rcases h.starting t ho with hpos | hex
    · refine .inl (Nat.lt_of_lt_of_le hpos ?_)
      rcases callMove_starts hy with ⟨_, _, -, -, heq⟩ | ⟨-, heq⟩
      · rw [heq]
        exact Nat.le_add_right _ _
      · rw [heq]
    · refine exists_moved (R := fun j l => (callers j).event cfg = (cfg.timerEvents t).start ∧
        Starting t l) hex ?_
      rintro ⟨hje, hjl⟩
      cases hl : w.locals i with
      | post =>
        rw [hl] at hy
        cases hy
        exact .inr ⟨hje, List.mem_finRange t⟩
      | startTimers rest =>
        rw [hl] at hjl hy
        cases rest with
        | nil => exact absurd hjl List.not_mem_nil
        | cons j rest =>
          rcases List.mem_cons.mp hjl with rfl | hrest
          · cases hy
            left
            simp [hje, KTimer.start]
          · cases hy
            exact .inr ⟨hje, hrest⟩
      | _ =>
        rw [hl] at hjl
        exact absurd hjl id
  · refine .inr ⟨i, he, ?_⟩
    rw [moved_locals_self, hpost]
    exact trivial

/-- **An access of one call keeps the controller consistent with all calls.** -/
theorem Consistent.moved (hm : MonotoneDeciders cfg.deciders) (h : Consistent cfg callers w)
    (hy : (calls cfg sources callers).move i now w.shared (w.locals i) = some y) :
    Consistent cfg callers (w.moved i y) where
  knows := (Outline.Holds.moved (o := callsOutline hm sources callers) ⟨trivial, h.knows⟩ hy).own
  recorded := h.recorded_moved hy
  decided e ha := by
    have hle := Bool.le_iff_imp.mp (hm.monotone e (callMove_le_sourceStates hy e))
    rcases callMove_newly hy ha with ho | ⟨rfl, hl, -⟩
    · exact hle (h.decided e ho)
    · have hknows := h.knows i
      rw [hl] at hknows
      exact hle hknows
  pending e hdec := h.pending_moved hy hdec
  bits j hj := by
    rcases (callMove_bit hy j).mp hj with hj | ⟨hl, rfl⟩
    · obtain ⟨e, he, ho⟩ := h.bits j hj
      exact ⟨e, he, callMove_occured hy ho⟩
    · have hknows := h.knows i
      rw [hl] at hknows
      exact ⟨_, rfl, callMove_occured hy hknows⟩
  posting e ha := h.posting_moved hy ha
  started t ht := by
    rw [moved_shared] at ht ⊢
    rcases callMove_starts hy with ⟨j, rest, hl, -, heq⟩ | ⟨-, heq⟩
    · rw [heq] at ht
      by_cases hstart : t = j ∧ (cfg.timerEvents t).start = (callers i).event cfg
      · have hknows := h.knows i
        rw [hl] at hknows
        rw [hstart.2]
        exact callMove_occured hy hknows.1
      · rw [if_neg hstart] at ht
        exact callMove_occured hy (h.started t ht)
    · rw [heq] at ht
      exact callMove_occured hy (h.started t ht)
  starting t ha := h.starting_moved hy ha

theorem run_consistent (hm : MonotoneDeciders cfg.deciders) (turns : List (Σ _ : ι, Nat)) :
    Consistent cfg callers (run (calls cfg sources callers).step (callsStart cfg) turns) :=
  world_induction (callsStart_consistent hm) (fun _ _ _ _ h hy => h.moved hm hy) turns

/-! ## When no call is under way -/

omit [DecidableEq ι] [CEnum EventID num_events] [DecidableEq EventID] [DecidableEq SourceID] in
theorem Settled.written_iff (hs : Settled w) (i : ι) :
    (w.locals i).written ↔ w.locals i = .done := by
  rcases hs i with h | h <;> rw [h] <;> simp [Progress.written]

omit [DecidableEq ι] [DecidableEq EventID] [DecidableEq SourceID] in
/-- No call is under way: the controller is coherent, up to repeated starts. -/
theorem Consistent.settled (h : Consistent cfg callers w) (hs : Settled w) :
    (∀ e s, w.shared.sourceStates e s = true ↔ ∃ i, w.locals i = .done ∧
      (callers i).source cfg = s ∧ (callers i).event cfg = e) ∧
    (∀ e, w.shared.eventStates e = cfg.deciders e (w.shared.sourceStates e)) ∧
    (∀ j, w.shared.osEvents.getLsbD j = true ↔
      ∃ e : EventID, (CEnum.toFin e).val = j ∧ w.shared.eventStates e = true) ∧
    ∀ t, 0 < (w.shared.timers t).starts ↔
      w.shared.eventStates (cfg.timerEvents t).start = true := by
  -- a call that has returned has nothing left to do
  have hidle : ∀ (P : Progress SourceID num_timers → Prop), ¬ P .idle → ¬ P .done →
      ∀ i, ¬ P (w.locals i) := by
    intro P hi hd i
    rcases hs i with hl | hl <;> rwa [hl]
  refine ⟨fun e s => ?_, fun e => ?_, fun j => ⟨h.bits j, ?_⟩, fun t => ⟨h.started t, ?_⟩⟩
  · rw [h.recorded]
    refine exists_congr fun i => ?_
    rw [hs.written_iff]
    tauto
  · refine Bool.eq_iff_iff.mpr ⟨h.decided e, fun hdec => (h.pending e hdec).resolve_right ?_⟩
    rintro ⟨i, -, hp⟩
    exact hidle (Pending _) id id i hp
  · rintro ⟨e, rfl, ho⟩
    refine (h.posting e ho).resolve_right ?_
    rintro ⟨i, -, hp⟩
    exact hidle (· = .post) (by simp) (by simp) i hp
  · intro ho
    refine (h.starting t ho).resolve_right ?_
    rintro ⟨i, -, hp⟩
    exact hidle (Starting t) id id i hp

/-- Two controllers with the same states and event bits that have started the same timers, if not
equally often. -/
structure SameDispatches (c c' : CPhaseController EventID SourceID num_timers) : Prop where
  sourceStates : c.sourceStates = c'.sourceStates
  eventStates : c.eventStates = c'.eventStates
  osEvents : c.osEvents = c'.osEvents
  started : ∀ t, 0 < (c.timers t).starts ↔ 0 < (c'.timers t).starts

/-- **No report is lost to preemption.** Calls of `SubmitEvent`, by threads and by timers, are
interleaved access by access. When none is under way, the source states, the event states, the
event bits and the set of started timers are those of the returned calls made one after another, in
any order and at any times. -/
theorem preempted_same_outcome (hm : MonotoneDeciders cfg.deciders)
    (sources : SourceIndex SourceID) (callers : ι → Caller EventID SourceID num_timers)
    (turns : List (Σ _ : ι, Nat)) (order : List (Nat × SourceID × EventID)) :
    let w := run (calls cfg sources callers).step (callsStart cfg) turns
    Settled w → (∀ s e, (s, e) ∈ order.map Prod.snd ↔ ∃ i, w.locals i = .done ∧
      (callers i).source cfg = s ∧ (callers i).event cfg = e) →
    SameDispatches w.shared (run (step cfg) cfg.construct (submitAll order)) := by
  intro w hs horder
  obtain ⟨hrec, hdec, hbits, hstarts⟩ := (run_consistent hm turns).settled hs
  have hco := run_coherent cfg (submitAll order)
  have hsources : w.shared.sourceStates =
      (run (step cfg) cfg.construct (submitAll order)).sourceStates := by
    funext e s
    rw [Bool.eq_iff_iff, hrec, ← horder, sourceStates_run, submissions_submitAll]
    unfold LatchBank.heard
    rw [decide_eq_true_eq]
  have hevents : w.shared.eventStates =
      (run (step cfg) cfg.construct (submitAll order)).eventStates := by
    funext e
    rw [hdec, hsources]
    exact (hasEventOccured_eq_decider hm _ e).symm
  refine ⟨hsources, hevents, ?_, fun t => ?_⟩
  · apply BitVec.eq_of_getLsbD_eq
    intro j _
    rw [Bool.eq_iff_iff, hbits, hco.bits, hevents]
  · rw [hstarts, hco.starts, hevents]
    split <;> simp_all

/-- Two calls for the boost of the sample, from both of its sensors. -/
def bothBoost : Bool → Caller PhaseDetection.Events PhaseDetection.Sources
    PhaseDetection.numTimerEvents
  | false => .thread .imu1 .boost
  | true => .thread .barom1 .boost

/-- The sample's sources in index order. -/
def sampleSources : SourceIndex PhaseDetection.Sources where
  entries := [.imu1, .barom1, .noseoverLockout, .boost2CoastTimer, .noseover2MainTimer,
    .fullFlightTimer, .extraCameraTimer]
  complete s := by cases s <;> decide

/-- The two take turns, access by access. -/
def inTurn : List (Σ _ : Bool, Nat) := (List.range 42).map fun k => ⟨k % 2 == 1, 251⟩

/-- The world they leave. -/
abbrev bothBoostWorld : CallsWorld Bool PhaseDetection.Events PhaseDetection.Sources
    PhaseDetection.numTimerEvents :=
  run (calls PhaseDetection.config sampleSources bothBoost).step
    (callsStart PhaseDetection.config) inTurn

theorem bothBoost_done (i : Bool) : bothBoostWorld.locals i = .done := by
  cases i <;> rfl

/-- Both calls in turn, as one after the other. -/
theorem preempted_bothBoost :
    SameDispatches bothBoostWorld.shared
      (run (step PhaseDetection.config) PhaseDetection.config.construct
        (submitAll [(251, .barom1, .boost), (251, .imu1, .boost)])) := by
  refine preempted_same_outcome PhaseDetection.monotoneDeciders sampleSources bothBoost inTurn _
    (fun i => .inr (bothBoost_done i)) fun s e => ?_
  simp only [bothBoost_done, true_and, Bool.exists_bool, bothBoost, Caller.source, Caller.event]
  grind

/-! ## What the log says -/

/-- The call has started slot `t` and will confirm the dispatch. -/
def startWeight (cfg : Config EventID SourceID num_timers) (t : Fin num_timers)
    (caller : Caller EventID SourceID num_timers) : Progress SourceID num_timers → ℕ
  | .startTimers rest => if caller.event cfg = (cfg.timerEvents t).start ∧ t ∉ rest then 1 else 0
  | .logSource (some false) | .logConfirmed false =>
    if caller.event cfg = (cfg.timerEvents t).start then 1 else 0
  | _ => 0

/-- The call has logged its source line. -/
def lineWeight (cfg : Config EventID SourceID num_timers) (e : EventID) (s : SourceID)
    (caller : Caller EventID SourceID num_timers) : Progress SourceID num_timers → ℕ
  | .logConfirmed _ | .done => if caller.event cfg = e ∧ caller.source cfg = s then 1 else 0
  | _ => 0

/-- A start is counted by the call until its confirmation is in the log. -/
theorem callMove_startWeight (hlog : cfg.flight_log = true) (t : Fin num_timers)
    (hk : Knows cfg caller c l) (hy : callMove cfg sources caller now c l = some y) :
    (y.1.timers t).starts +
        c.flightLog.count (.eventConfirmed (cfg.timerEvents t).start false) +
        startWeight cfg t caller l =
      (c.timers t).starts +
        y.1.flightLog.count (.eventConfirmed (cfg.timerEvents t).start false) +
        startWeight cfg t caller y.2 := by
  revert hy
  fun_cases callMove cfg sources caller now c l <;> intro hy <;> cases hy
  case case10 i rest =>
    have hnot : i ∉ rest := (List.nodup_cons.mp hk.2).1
    by_cases ht : t = i
    · subst ht
      by_cases he : (cfg.timerEvents t).start = caller.event cfg
      · simp [startWeight, he, hnot, KTimer.start]
        omega
      · simp [startWeight, he, Ne.symm he]
    · have hmem : t ∈ i :: rest ↔ t ∈ rest := by simp [ht]
      by_cases he : (cfg.timerEvents i).start = caller.event cfg <;>
        simp [startWeight, he, hmem, ht]
  case case14 last_state =>
    cases last_state with
    | false =>
      simp [startWeight, logEventConfirmed, writeLog, hlog, List.count_singleton]
      grind
    | true => simp [startWeight, logEventConfirmed, writeLog, hlog]
  case case13 last_state =>
    cases last_state <;> simp [startWeight, logSourceEvent, writeLog, hlog]
  case case2 =>
    simp [startWeight, stopTimer_starts]
    rfl
  all_goals (try split) <;>
    simp [startWeight, logSourceEvent, writeLog, hlog]

theorem callMove_lineWeight (hlog : cfg.flight_log = true) (e : EventID) (s : SourceID)
    (hy : callMove cfg sources caller now c l = some y) :
    y.1.flightLog.count (.sourceEvent e s) + lineWeight cfg e s caller l =
      c.flightLog.count (.sourceEvent e s) + lineWeight cfg e s caller y.2 := by
  revert hy
  fun_cases callMove cfg sources caller now c l <;> intro hy <;> cases hy
  case case10 i rest => split <;> simp [lineWeight]
  all_goals (try split) <;>
    simp [lineWeight, stopTimer, logSourceEvent, logEventConfirmed, writeLog, hlog,
      List.count_singleton]

/-- **How often an event was dispatched is in the log.** With a log: when no call is under way,
every timer was started as often as its start event was confirmed and not yet reported as occured,
and every returned call has its source line, once. -/
theorem preempted_log [Fintype ι] (hm : MonotoneDeciders cfg.deciders)
    (hlog : cfg.flight_log = true) (sources : SourceIndex SourceID)
    (callers : ι → Caller EventID SourceID num_timers) (turns : List (Σ _ : ι, Nat)) :
    let w := run (calls cfg sources callers).step (callsStart cfg) turns
    Settled w →
    (∀ t, (w.shared.timers t).starts =
      w.shared.flightLog.count (.eventConfirmed (cfg.timerEvents t).start false)) ∧
    ∀ e s, w.shared.flightLog.count (.sourceEvent e s) =
      (Finset.univ.filter fun i => (w.locals i).returned ∧ (callers i).event cfg = e ∧
        (callers i).source cfg = s).card := by
  intro w hs
  constructor
  · intro t
    have hbal : Tallied (fun c => (c.timers t).starts)
        (fun c => c.flightLog.count (.eventConfirmed (cfg.timerEvents t).start false))
        (fun i => startWeight cfg t (callers i)) w := by
      refine balance_run (P := Consistent cfg callers)
        (step_preserves fun w i a y h hy => h.moved hm hy)
        (fun w i a y h hy => callMove_startWeight hlog t (h.knows i) hy)
        (callsStart_consistent hm) ?_ turns
      simp [Tallied, callsStart, Config.construct, hlog, startWeight]
    refine hbal.of_settled fun i => ?_
    rcases hs i with hl | hl <;> rw [hl] <;> rfl
  · intro e s
    have hbal : Tallied (fun c => c.flightLog.count (.sourceEvent e s)) (fun _ => 0)
        (fun i => lineWeight cfg e s (callers i)) w := by
      refine balance_run (P := fun _ => True) (fun _ _ _ => trivial)
        (fun w i a y _ hy => callMove_lineWeight hlog e s hy) trivial ?_ turns
      simp [Tallied, callsStart, Config.construct, hlog, lineWeight]
    refine hbal.trans ?_
    rw [Nat.zero_add, Finset.card_filter]
    refine Finset.sum_congr rfl fun i _ => ?_
    rcases hs i with hl | hl <;> rw [hl] <;> simp [lineWeight, Progress.returned]

/-- Taking turns, both calls find the event not yet dispatched, and start its timers. -/
theorem preempted_log_twice :
    (bothBoostWorld.shared.timers 0).starts =
      bothBoostWorld.shared.flightLog.count (.eventConfirmed .boost false) ∧
    (bothBoostWorld.shared.timers 0).starts = 2 :=
  ⟨(preempted_log PhaseDetection.monotoneDeciders rfl sampleSources bothBoost inTurn
    fun i => .inr (bothBoost_done i)).1 0, by rfl⟩

end Worlds

end Backplane.Flight
