import Backplane.Flight.PhaseController

/-!
# Runs of the phase controller

A run is any list of calls, each a `SubmitEvent` or the expiry of a running timer, executed one
after another from construction (`Backplane.Flight.step`).

Results:
* `submitEvent_bank`, `bank_run`: the controller is the bank of latches run over its submissions.
* `Coherent`: the event bits and the timer starts follow the event states; kept by every call
  (`step_coherent`), so true after every run.
* `dispatch_invariant`: the latch, the `k_event` word and the timer starts, together, for runs of
  any length and any chain of timers.
* `submitAll_perm`: for monotone deciders that reject the empty set of reports, permuted
  submissions leave the same states, event bits and started timers.
-/

namespace Backplane.Flight

open Backplane.Run
open Backplane.LatchBank

variable {EventID SourceID : Type} [DecidableEq EventID] [DecidableEq SourceID]
  {num_events num_timers : Nat} [CEnum EventID num_events]

/-! ## The controller is a bank of latches -/

/-- **`SubmitEvent` is a report.** -/
theorem submitEvent_bank (cfg : Config EventID SourceID num_timers)
    (c : CPhaseController EventID SourceID num_timers) (now : Nat) (source : SourceID)
    (event : EventID) :
    (submitEvent cfg c now source event).bank = report cfg.deciders c.bank (source, event) := by
  ext e a
  · show (submitEvent cfg c now source event).sourceStates e a = _
    rw [submitEvent_sourceStates]
    rfl
  · show (submitEvent cfg c now source event).eventStates e = _
    rw [submitEvent_eventStates]
    by_cases he : e = event
    · subst he
      rw [report_latched_self]
      unfold dispatches CPhaseController.bank
      cases cfg.deciders e (Function.update (c.sourceStates e) source true) <;>
        cases hs : c.eventStates e <;> simp [hs]
    · rw [report_latched_other _ _ he]
      split
      · rw [Function.update_of_ne he]
        rfl
      · rfl

omit [DecidableEq EventID] [DecidableEq SourceID] [CEnum EventID num_events] in
theorem stopTimer_starts (c : CPhaseController EventID SourceID num_timers)
    (i j : Fin num_timers) : ((stopTimer c i).timers j).starts = (c.timers j).starts := by
  unfold stopTimer
  by_cases h : j = i
  · subst h; simp
  · simp [h]

/-- **What a call can do**: nothing, or one submission, made after at most a timer has stopped. -/
theorem step_cases (cfg : Config EventID SourceID num_timers)
    (c : CPhaseController EventID SourceID num_timers) (call : Call EventID SourceID num_timers) :
    (submission cfg c call = none ∧ step cfg c call = c) ∨
    ∃ timers now s e, (∀ i, (timers i).starts = (c.timers i).starts) ∧
      submission cfg c call = some (s, e) ∧
      step cfg c call = submitEvent cfg { c with timers := timers } now s e := by
  cases call with
  | submit now source event =>
    exact Or.inr ⟨c.timers, now, source, event, fun _ => rfl, rfl, rfl⟩
  | expiry now i =>
    unfold step timerExpiry submission
    simp only
    split
    · exact Or.inr ⟨(stopTimer c i).timers, now, _, _, stopTimer_starts c i, rfl, rfl⟩
    · exact Or.inl ⟨rfl, rfl⟩

theorem step_bank (cfg : Config EventID SourceID num_timers)
    (c : CPhaseController EventID SourceID num_timers) (call : Call EventID SourceID num_timers) :
    (step cfg c call).bank = run (report cfg.deciders) c.bank (submission cfg c call).toList := by
  rcases step_cases cfg c call with ⟨hsub, hstep⟩ | ⟨timers, now, s, e, -, hsub, hstep⟩
  · rw [hsub, hstep]
    rfl
  · rw [hsub, hstep, submitEvent_bank]
    rfl

theorem submissions_append (cfg : Config EventID SourceID num_timers)
    (c : CPhaseController EventID SourceID num_timers)
    (l l' : List (Call EventID SourceID num_timers)) :
    submissions cfg c (l ++ l') =
      submissions cfg c l ++ submissions cfg (run (step cfg) c l) l' := by
  induction l generalizing c with
  | nil => rfl
  | cons call l ih =>
    simp only [List.cons_append, submissions]
    rw [ih, List.append_assoc, run_cons]

/-- **A run of the controller is the run of its bank** over the submissions made. -/
theorem bank_run (cfg : Config EventID SourceID num_timers)
    (c : CPhaseController EventID SourceID num_timers)
    (calls : List (Call EventID SourceID num_timers)) :
    (run (step cfg) c calls).bank = run (report cfg.deciders) c.bank (submissions cfg c calls) := by
  induction calls generalizing c with
  | nil => rfl
  | cons call calls ih =>
    simp only [run_cons, submissions]
    rw [ih, step_bank, run_append]

omit [DecidableEq EventID] [DecidableEq SourceID] in
theorem construct_bank (cfg : Config EventID SourceID num_timers) :
    cfg.construct.bank = Bank.empty := rfl

theorem sourceStates_run (cfg : Config EventID SourceID num_timers)
    (calls : List (Call EventID SourceID num_timers)) :
    (run (step cfg) cfg.construct calls).sourceStates =
      heard (submissions cfg cfg.construct calls) := by
  show (run (step cfg) cfg.construct calls).bank.reported = _
  rw [bank_run, construct_bank, reported_run]

theorem eventStates_run (cfg : Config EventID SourceID num_timers)
    (calls : List (Call EventID SourceID num_timers)) :
    (run (step cfg) cfg.construct calls).eventStates =
      (run (report cfg.deciders) Bank.empty (submissions cfg cfg.construct calls)).latched := by
  show (run (step cfg) cfg.construct calls).bank.latched = _
  rw [bank_run, construct_bank]

/-- An event that occured has occured for good. -/
theorem eventStates_step (cfg : Config EventID SourceID num_timers)
    (c : CPhaseController EventID SourceID num_timers) (call : Call EventID SourceID num_timers)
    {e : EventID} (h : c.eventStates e = true) : (step cfg c call).eventStates e = true := by
  show (step cfg c call).bank.latched e = true
  rw [step_bank]
  exact run_preserves (P := fun b : Bank EventID SourceID => b.latched e = true)
    (fun b x hb => latched_report b x hb) _ h

/-- The submissions of a run are those its calls make, each in the state it finds. -/
theorem mem_submissions_iff {cfg : Config EventID SourceID num_timers}
    {calls : List (Call EventID SourceID num_timers)} {x : SourceID × EventID} :
    x ∈ submissions cfg cfg.construct calls ↔ ∃ k call, calls[k]? = some call ∧
      submission cfg (stateAt (step cfg) cfg.construct calls k) call = some x := by
  suffices h : ∀ c, x ∈ submissions cfg c calls ↔ ∃ k call, calls[k]? = some call ∧
      submission cfg (stateAt (step cfg) c calls k) call = some x from h cfg.construct
  induction calls with
  | nil => intro c; simp [submissions]
  | cons call calls ih =>
    intro c
    simp only [submissions, List.mem_append, Option.mem_toList]
    rw [ih]
    constructor
    · rintro (h | ⟨k, call', hk, h⟩)
      · exact ⟨0, call, rfl, h⟩
      · exact ⟨k + 1, call', hk, h⟩
    · rintro ⟨k, call', hk, h⟩
      cases k with
      | zero =>
        cases hk
        exact Or.inl h
      | succ k => exact Or.inr ⟨k, call', hk, h⟩

/-- The flight log names a source for an event only if it submitted it. -/
theorem mem_submissions_of_mem_flightLog {cfg : Config EventID SourceID num_timers}
    (calls : List (Call EventID SourceID num_timers)) {e : EventID} {s : SourceID}
    (h : .sourceEvent e s ∈ (run (step cfg) cfg.construct calls).flightLog) :
    (s, e) ∈ submissions cfg cfg.construct calls := by
  induction calls using List.reverseRecOn with
  | nil =>
    unfold run Config.construct at h
    simp only [List.foldl_nil] at h
    split at h <;> simp at h
  | append_singleton calls call ih =>
    rw [run_snoc] at h
    rw [submissions_append, List.mem_append]
    simp only [submissions, List.append_nil, Option.mem_toList]
    rcases step_cases cfg (run (step cfg) cfg.construct calls) call with
      ⟨-, hstep⟩ | ⟨timers, now, s', e', -, hsub, hstep⟩
    · rw [hstep] at h
      exact Or.inl (ih h)
    · rw [hstep, submitEvent_flightLog] at h
      split at h
      · rw [List.mem_append, List.mem_cons] at h
        rcases h with h | h | h
        · exact Or.inl (ih h)
        · cases h
          exact Or.inr hsub
        · split at h <;> simp at h
      · exact Or.inl (ih h)

/-! ## Event bits and timer starts follow the event states -/

/-- The `k_event` word and the timer starts agree with the event states. -/
structure Coherent (cfg : Config EventID SourceID num_timers)
    (c : CPhaseController EventID SourceID num_timers) : Prop where
  bits : ∀ j, c.osEvents.getLsbD j = true ↔
    ∃ e : EventID, (CEnum.toFin e).val = j ∧ c.eventStates e = true
  starts : ∀ i, (c.timers i).starts = if c.eventStates (cfg.timerEvents i).start then 1 else 0

omit [DecidableEq EventID] [DecidableEq SourceID] in
theorem Coherent.bit {cfg : Config EventID SourceID num_timers}
    {c : CPhaseController EventID SourceID num_timers} (h : Coherent cfg c) (e : EventID) :
    c.osEvents.getLsbD (CEnum.toFin e).val = c.eventStates e := by
  rw [Bool.eq_iff_iff, h.bits]
  constructor
  · rintro ⟨e', he, hs⟩
    rwa [← CEnum.toFin_injective (Fin.ext he)]
  · exact fun hs => ⟨e, rfl, hs⟩

omit [DecidableEq EventID] in
theorem eventBit_getLsbD (hle : num_events ≤ 32) (event : EventID) (j : Nat) :
    (eventBit event).getLsbD j = decide (j = (CEnum.toFin event).val) := by
  have hlt : (CEnum.toFin event).val < 32 := Nat.lt_of_lt_of_le (CEnum.toFin event).isLt hle
  unfold eventBit
  rw [BitVec.getLsbD_shiftLeft, BitVec.getLsbD_one, Bool.eq_iff_iff]
  simp only [Bool.and_eq_true, decide_eq_true_eq, Bool.not_eq_true', decide_eq_false_iff_not]
  omega

omit [DecidableEq EventID] [DecidableEq SourceID] in
theorem construct_coherent (cfg : Config EventID SourceID num_timers) :
    Coherent cfg cfg.construct :=
  ⟨fun _ => by simp [Config.construct], fun _ => rfl⟩

omit [DecidableEq EventID] in
theorem not_occured_of_dispatches {cfg : Config EventID SourceID num_timers}
    {c : CPhaseController EventID SourceID num_timers} {source : SourceID} {event : EventID}
    (h : dispatches cfg c source event = true) : c.eventStates event = false := by
  unfold dispatches at h
  simp only [Bool.and_eq_true, Bool.not_eq_true'] at h
  exact h.2

theorem submitEvent_coherent {cfg : Config EventID SourceID num_timers}
    {c : CPhaseController EventID SourceID num_timers} (h : Coherent cfg c) (now : Nat)
    (source : SourceID) (event : EventID) :
    Coherent cfg (submitEvent cfg c now source event) := by
  cases hd : dispatches cfg c source event with
  | false =>
    constructor
    · intro j
      rw [submitEvent_osEvents, submitEvent_eventStates, hd]
      exact h.bits j
    · intro i
      rw [submitEvent_timers, submitEvent_eventStates, hd]
      exact h.starts i
  | true =>
    constructor
    · intro j
      rw [submitEvent_osEvents, submitEvent_eventStates, hd, if_pos rfl, if_pos rfl,
        BitVec.getLsbD_or, eventBit_getLsbD cfg.num_events_le, Bool.or_eq_true, h.bits]
      constructor
      · rintro (⟨e, he, hs⟩ | hj)
        · refine ⟨e, he, ?_⟩
          by_cases hee : e = event
          · subst hee; rw [Function.update_self]
          · rwa [Function.update_of_ne hee]
        · exact ⟨event, (of_decide_eq_true hj).symm, Function.update_self ..⟩
      · rintro ⟨e, he, hs⟩
        by_cases hee : e = event
        · subst hee
          exact Or.inr (decide_eq_true he.symm)
        · rw [Function.update_of_ne hee] at hs
          exact Or.inl ⟨e, he, hs⟩
    · intro i
      rw [submitEvent_timers, submitEvent_eventStates, hd, if_pos rfl, if_pos rfl]
      unfold startTimers KTimer.start
      by_cases hi : (cfg.timerEvents i).start = event
      · -- the event had not occured, so its timers had not been started
        have h0 := h.starts i
        rw [hi, not_occured_of_dispatches hd] at h0
        rw [if_pos hi, hi, Function.update_self, if_pos rfl]
        simpa using h0
      · rw [if_neg hi, Function.update_of_ne hi]
        exact h.starts i

/-- **Every call keeps the event bits and the timer starts in step with the event states.** -/
theorem step_coherent {cfg : Config EventID SourceID num_timers}
    {c : CPhaseController EventID SourceID num_timers} (h : Coherent cfg c)
    (call : Call EventID SourceID num_timers) : Coherent cfg (step cfg c call) := by
  rcases step_cases cfg c call with ⟨-, hstep⟩ | ⟨timers, now, s, e, hstarts, -, hstep⟩
  · rw [hstep]
    exact h
  · have h' : Coherent cfg { c with timers := timers } :=
      ⟨h.bits, fun i => (hstarts i).trans (h.starts i)⟩
    rw [hstep]
    exact submitEvent_coherent h' now s e

theorem run_coherent (cfg : Config EventID SourceID num_timers)
    (calls : List (Call EventID SourceID num_timers)) :
    Coherent cfg (run (step cfg) cfg.construct calls) :=
  run_preserves (P := Coherent cfg) (fun _ call h => step_coherent h call) calls
    (construct_coherent cfg)

/-! ## The dispatch invariant -/

/-- **The latch, the event bits and the timer starts move together.** After every run: the source
states are the submissions made; an event has occured iff its decider accepted the submissions
up to and including one of those made for it; it then has occured for good; its bit is set iff it
has occured; and each timer it starts was started once if it has, never if not. -/
theorem dispatch_invariant (cfg : Config EventID SourceID num_timers)
    (calls : List (Call EventID SourceID num_timers)) (e : EventID) :
    let c := run (step cfg) cfg.construct calls
    let subs := submissions cfg cfg.construct calls
    c.sourceStates e = heard subs e ∧
    (c.hasEventOccured e = true ↔ ∃ pre s, pre ++ [(s, e)] <+: subs ∧
      cfg.deciders e (heard (pre ++ [(s, e)]) e) = true) ∧
    (c.hasEventOccured e = true →
      ∀ calls', (run (step cfg) c calls').hasEventOccured e = true) ∧
    c.osEvents.getLsbD (CEnum.toFin e).val = c.hasEventOccured e ∧
    ∀ i, (cfg.timerEvents i).start = e →
      (c.timers i).starts = if c.hasEventOccured e then 1 else 0 := by
  have hco := run_coherent cfg calls
  refine ⟨by rw [sourceStates_run], ?_, fun h calls' => ?_, hco.bit e, fun i hi => ?_⟩
  · unfold CPhaseController.hasEventOccured
    rw [eventStates_run, latched_run_iff]
  · exact run_preserves
      (P := fun c : CPhaseController EventID SourceID num_timers => c.eventStates e = true)
      (fun c call h => eventStates_step cfg c call h) calls' h
  · rw [hco.starts i, hi]
    rfl

/-! ## Monotone deciders -/

/-- Monotone decision functions that are false when no source has reported. -/
structure MonotoneDeciders (deciders : EventID → (SourceID → Bool) → Bool) : Prop where
  monotone : ∀ e, Monotone (deciders e)
  bot : ∀ e, deciders e (fun _ => false) = false

/-- **With monotone deciders an event has occured iff its decider accepts the states now.** -/
theorem hasEventOccured_eq_decider {cfg : Config EventID SourceID num_timers}
    (hm : MonotoneDeciders cfg.deciders) (calls : List (Call EventID SourceID num_timers))
    (e : EventID) :
    (run (step cfg) cfg.construct calls).hasEventOccured e =
      cfg.deciders e ((run (step cfg) cfg.construct calls).sourceStates e) := by
  unfold CPhaseController.hasEventOccured
  rw [eventStates_run, sourceStates_run, latched_run_of_monotone hm.monotone hm.bot]

/-- Timed `SubmitEvent` calls, as a run. -/
def submitAll (l : List (Nat × SourceID × EventID)) : List (Call EventID SourceID num_timers) :=
  l.map fun x => .submit x.1 x.2.1 x.2.2

theorem submissions_submitAll (cfg : Config EventID SourceID num_timers)
    (c : CPhaseController EventID SourceID num_timers) (l : List (Nat × SourceID × EventID)) :
    submissions cfg c (submitAll l) = l.map Prod.snd := by
  induction l generalizing c with
  | nil => rfl
  | cons x l ih =>
    show _ :: submissions cfg _ (submitAll l) = _
    rw [ih]
    rfl

/-- Two controllers with the same states, event bits and started timers. -/
structure SameOutcome (c c' : CPhaseController EventID SourceID num_timers) : Prop where
  sourceStates : c.sourceStates = c'.sourceStates
  eventStates : c.eventStates = c'.eventStates
  osEvents : c.osEvents = c'.osEvents
  started : ∀ i, (c.timers i).starts = (c'.timers i).starts

/-- **Permuted submissions**, at whatever times they are made, have the same outcome. -/
theorem submitAll_perm {cfg : Config EventID SourceID num_timers}
    (hm : MonotoneDeciders cfg.deciders) {l l' : List (Nat × SourceID × EventID)}
    (h : (l.map Prod.snd).Perm (l'.map Prod.snd)) :
    SameOutcome (run (step cfg) cfg.construct (submitAll l))
      (run (step cfg) cfg.construct (submitAll l')) := by
  set c := run (step cfg) cfg.construct (submitAll l)
  set c' := run (step cfg) cfg.construct (submitAll l')
  have hco := run_coherent cfg (submitAll l)
  have hco' := run_coherent cfg (submitAll l')
  have hbank : c.bank = c'.bank := by
    show (run (step cfg) cfg.construct (submitAll l)).bank =
      (run (step cfg) cfg.construct (submitAll l')).bank
    rw [bank_run, bank_run, construct_bank, submissions_submitAll, submissions_submitAll]
    exact run_report_perm hm.monotone hm.bot h
  have hstates : c.eventStates = c'.eventStates := congrArg Bank.latched hbank
  refine ⟨congrArg Bank.reported hbank, hstates, ?_, fun i => ?_⟩
  · apply BitVec.eq_of_getLsbD_eq
    intro j _
    rw [Bool.eq_iff_iff, hco.bits, hco'.bits]
    show (∃ e : EventID, _ ∧ c.eventStates e = true) ↔ ∃ e : EventID, _ ∧ c'.eventStates e = true
    rw [hstates]
  · rw [hco.starts i, hco'.starts i]
    show (if c.eventStates _ = true then 1 else 0) = if c'.eventStates _ = true then 1 else 0
    rw [hstates]

end Backplane.Flight
