import Backplane.Flight.Dispatch

/-!
# Submissions made at one time

A caller that submits several events in one go: `Submits cfg now P c c'` says that `c'` comes from
`c` by `SubmitEvent` calls at uptime `now`, each of which meets `P`.

Results:
* `Submits.trans`, `Submits.submitIf`: how a caller's submissions are put together.
* `Submits.recorded`, `Submits.running`: what they record and which timers they start.
* `Submits.exists_dispatcher`: an event that occured meanwhile was dispatched by one of them, and
  the flight log says by which (`DispatchedBy`).
* `Submits.reachable`: runs of the caller are runs of the controller.
-/

namespace Backplane.Flight

open Backplane.Run
open Backplane.LatchBank

variable {EventID SourceID : Type} [DecidableEq EventID] [DecidableEq SourceID]
  {num_events num_timers : Nat} [CEnum EventID num_events]

/-- Some run of calls from construction ends in `c`. -/
def Reachable (cfg : Config EventID SourceID num_timers)
    (c : CPhaseController EventID SourceID num_timers) : Prop :=
  ∃ calls, c = run (step cfg) cfg.construct calls

/-- The submission of `source` dispatched `event` between `c` and `c'`: the log has it, followed
by a confirmation of an event that had not occured. -/
def DispatchedBy (c c' : CPhaseController EventID SourceID num_timers) (source : SourceID)
    (event : EventID) : Prop :=
  ∃ mid rest, c'.flightLog =
    c.flightLog ++ mid ++ .sourceEvent event source :: .eventConfirmed event false :: rest

/-- `c'` is `c` after submissions at `now` that all meet `P`. -/
def Submits (cfg : Config EventID SourceID num_timers) (now : Nat)
    (P : SourceID × EventID → Prop) (c c' : CPhaseController EventID SourceID num_timers) : Prop :=
  ∃ subs : List (SourceID × EventID), (∀ x ∈ subs, P x) ∧
    c' = run (step cfg) c (submitAll (subs.map (Prod.mk now)))

variable {cfg : Config EventID SourceID num_timers} {now : Nat}
  {P Q : SourceID × EventID → Prop} {c c' c'' : CPhaseController EventID SourceID num_timers}

/-! ## Putting submissions together -/

theorem Submits.refl : Submits cfg now P c c := ⟨[], by simp, rfl⟩

theorem Submits.mono (h : Submits cfg now P c c') (hPQ : ∀ x, P x → Q x) :
    Submits cfg now Q c c' := by
  obtain ⟨subs, hP, rfl⟩ := h
  exact ⟨subs, fun x hx => hPQ x (hP x hx), rfl⟩

theorem Submits.trans (h : Submits cfg now P c c') (h' : Submits cfg now P c' c'') :
    Submits cfg now P c c'' := by
  obtain ⟨subs, hP, rfl⟩ := h
  obtain ⟨subs', hP', rfl⟩ := h'
  refine ⟨subs ++ subs', fun x hx => ?_, ?_⟩
  · exact (List.mem_append.mp hx).elim (hP x) (hP' x)
  · rw [← run_append]
    simp [submitAll]

theorem Submits.submitIf (b : Bool) (source : SourceID) (event : EventID)
    (hP : b = true → P (source, event)) :
    Submits cfg now P c (if b then submitEvent cfg c now source event else c) := by
  split
  · rename_i hb
    exact ⟨[(source, event)], by simpa using hP hb, rfl⟩
  · exact Submits.refl

/-- Submissions, seen one at a time. -/
theorem Submits.induction {motive : CPhaseController EventID SourceID num_timers → Prop}
    (h : Submits cfg now P c c') (start : motive c)
    (next : ∀ d s e, P (s, e) → motive d → motive (submitEvent cfg d now s e)) : motive c' := by
  obtain ⟨subs, hP, rfl⟩ := h
  induction subs generalizing c with
  | nil => exact start
  | cons x subs ih =>
    exact ih (next c x.1 x.2 (hP x (List.mem_cons_self ..)) start)
      (fun y hy => hP y (List.mem_cons_of_mem _ hy))

theorem Submits.reachable (h : Submits cfg now P c c') (hc : Reachable cfg c) :
    Reachable cfg c' := by
  obtain ⟨subs, -, rfl⟩ := h
  obtain ⟨calls, rfl⟩ := hc
  exact ⟨calls ++ submitAll (subs.map (Prod.mk now)), (run_append _ _).symm⟩

theorem timerExpiry_reachable (hc : Reachable cfg c) (i : Fin num_timers) :
    Reachable cfg (timerExpiry cfg c now i) := by
  obtain ⟨calls, rfl⟩ := hc
  refine ⟨calls ++ [.expiry now i], ?_⟩
  rw [run_snoc]
  rfl

/-- With monotone deciders an event of a reachable controller has occured iff it is decided. -/
theorem Reachable.decided (hc : Reachable cfg c) (hm : MonotoneDeciders cfg.deciders)
    (e : EventID) : c.eventStates e = cfg.deciders e (c.sourceStates e) := by
  obtain ⟨calls, rfl⟩ := hc
  exact hasEventOccured_eq_decider hm calls e

/-! ## What submissions change -/

/-- What is recorded after a submission: what was, and what it submits. -/
theorem submitEvent_recorded_iff {s s' : SourceID} {e e' : EventID} :
    (submitEvent cfg c now s' e').sourceStates e s = true ↔
      c.sourceStates e s = true ∨ (s, e) = (s', e') := by
  rw [submitEvent_sourceStates, Prod.mk.injEq]
  by_cases he : e = e'
  · subst he
    rw [Function.update_self]
    by_cases hs : s = s'
    · subst hs
      rw [Function.update_self]
      simp
    · rw [Function.update_of_ne hs]
      simp [hs]
  · rw [Function.update_of_ne he]
    simp [he]

/-- A source recorded afterwards was recorded before or submitted. -/
theorem Submits.recorded (h : Submits cfg now P c c') {s : SourceID} {e : EventID}
    (hs : c'.sourceStates e s = true) : c.sourceStates e s = true ∨ P (s, e) := by
  revert hs
  refine h.induction (motive := fun d => d.sourceStates e s = true →
    c.sourceStates e s = true ∨ P (s, e)) Or.inl fun d s' e' hP ih hs => ?_
  rcases submitEvent_recorded_iff.mp hs with hs | heq
  · exact ih hs
  · exact Or.inr (heq ▸ hP)

theorem submitEvent_occured (s : SourceID) {e e' : EventID} (h : c.eventStates e = true) :
    (submitEvent cfg c now s e').eventStates e = true := by
  rw [submitEvent_eventStates]
  split
  · by_cases he : e = e'
    · subst he; rw [Function.update_self]
    · rwa [Function.update_of_ne he]
  · exact h

theorem Submits.occured (h : Submits cfg now P c c') {e : EventID} (he : c.eventStates e = true) :
    c'.eventStates e = true :=
  h.induction (motive := fun d => d.eventStates e = true) he
    fun _ s _ _ hd => submitEvent_occured s hd

theorem submitEvent_newly {s : SourceID} {e e' : EventID} (hb : c.eventStates e = false)
    (ha : (submitEvent cfg c now s e').eventStates e = true) :
    e = e' ∧ dispatches cfg c s e' = true := by
  rw [submitEvent_eventStates] at ha
  split at ha
  · rename_i hd
    by_cases he : e = e'
    · exact ⟨he, hd⟩
    · rw [Function.update_of_ne he, hb] at ha
      exact absurd ha Bool.false_ne_true
  · rw [hb] at ha
    exact absurd ha Bool.false_ne_true

/-- A submission leaves the other events alone. -/
theorem submitEvent_eventStates_other {s : SourceID} {e e' : EventID} (he : e ≠ e') :
    (submitEvent cfg c now s e').eventStates e = c.eventStates e := by
  rw [submitEvent_eventStates]
  split
  · rw [Function.update_of_ne he]
  · rfl

/-- An event that nothing is submitted for is as it was. -/
theorem Submits.eventStates_of_ne (h : Submits cfg now P c c') {e : EventID}
    (he : ∀ x, P x → e ≠ x.2) : c'.eventStates e = c.eventStates e :=
  h.induction (motive := fun d => d.eventStates e = c.eventStates e) rfl
    fun _ _ _ hP hd => (submitEvent_eventStates_other (he _ hP)).trans hd

theorem submitEvent_running {s : SourceID} {e : EventID} {i : Fin num_timers} {since : Nat}
    (h : ((submitEvent cfg c now s e).timers i).running = some since) :
    (c.timers i).running = some since ∨
      (since = now ∧ c.eventStates (cfg.timerEvents i).start = false ∧
        (submitEvent cfg c now s e).eventStates (cfg.timerEvents i).start = true) := by
  rw [submitEvent_timers] at h
  split at h
  · rename_i hd
    unfold startTimers KTimer.start at h
    split at h
    · rename_i hi
      refine Or.inr ⟨(Option.some.inj h).symm, ?_, ?_⟩
      · rw [hi]
        exact not_occured_of_dispatches hd
      · rw [submitEvent_eventStates, if_pos hd, hi, Function.update_self]
    · exact Or.inl h
  · exact Or.inl h

/-- A timer runs afterwards if it ran before, or its start event occured meanwhile. -/
theorem Submits.running (h : Submits cfg now P c c') {i : Fin num_timers} {since : Nat}
    (hr : (c'.timers i).running = some since) :
    (c.timers i).running = some since ∨
      (since = now ∧ c.eventStates (cfg.timerEvents i).start = false ∧
        c'.eventStates (cfg.timerEvents i).start = true) := by
  obtain ⟨subs, hP, rfl⟩ := h
  induction subs generalizing c with
  | nil => exact Or.inl hr
  | cons x subs ih =>
    have htail : Submits cfg now P (submitEvent cfg c now x.1 x.2)
        (run (step cfg) c (submitAll ((x :: subs).map (Prod.mk now)))) :=
      ⟨subs, fun y hy => hP y (List.mem_cons_of_mem _ hy), rfl⟩
    rcases ih (fun y hy => hP y (List.mem_cons_of_mem _ hy)) hr with hrun | ⟨hnow, hb, ha⟩
    · rcases submitEvent_running hrun with hrun | ⟨hnow, hb, ha⟩
      · exact Or.inl hrun
      · exact Or.inr ⟨hnow, hb, htail.occured ha⟩
    · refine Or.inr ⟨hnow, ?_, ha⟩
      cases hocc : c.eventStates (cfg.timerEvents i).start with
      | false => rfl
      | true =>
        have hkept : (submitEvent cfg c now x.1 x.2).eventStates _ = true :=
          submitEvent_occured x.1 hocc
        exact absurd (hkept.symm.trans hb) (by simp)

/-! ## Who dispatched an event -/

theorem flightLog_submitEvent (s : SourceID) (e : EventID) :
    ∃ rest, (submitEvent cfg c now s e).flightLog = c.flightLog ++ rest := by
  rw [submitEvent_flightLog]
  split
  · exact ⟨_, rfl⟩
  · exact ⟨[], (List.append_nil _).symm⟩

theorem Submits.flightLog (h : Submits cfg now P c c') :
    ∃ rest, c'.flightLog = c.flightLog ++ rest := by
  refine h.induction (motive := fun d => ∃ rest, d.flightLog = c.flightLog ++ rest)
    ⟨[], (List.append_nil _).symm⟩ fun d s e _ ⟨rest, hd⟩ => ?_
  obtain ⟨rest', hrest'⟩ : ∃ rest', (submitEvent cfg d now s e).flightLog = d.flightLog ++ rest' :=
    flightLog_submitEvent s e
  exact ⟨rest ++ rest', by rw [hrest', hd, List.append_assoc]⟩

/-- A submission that dispatches is logged as such. -/
theorem dispatchedBy_submitEvent (hlog : cfg.flight_log = true) {s : SourceID} {e : EventID}
    (hd : dispatches cfg c s e = true) : DispatchedBy c (submitEvent cfg c now s e) s e := by
  have hfresh := not_occured_of_dispatches hd
  unfold dispatches at hd
  rw [Bool.and_eq_true] at hd
  refine ⟨[], [], ?_⟩
  rw [submitEvent_flightLog, if_pos hlog, if_pos hd.1, hfresh, List.append_nil]

omit [DecidableEq EventID] [DecidableEq SourceID] in
theorem DispatchedBy.extend {s : SourceID} {e : EventID} (h : DispatchedBy c c' s e)
    (hext : ∃ rest, c''.flightLog = c'.flightLog ++ rest) : DispatchedBy c c'' s e := by
  obtain ⟨mid, rest, h⟩ := h
  obtain ⟨rest', h'⟩ := hext
  exact ⟨mid, rest ++ rest', by rw [h', h]; simp⟩

omit [DecidableEq EventID] [DecidableEq SourceID] in
theorem DispatchedBy.after {s : SourceID} {e : EventID} (h : DispatchedBy c' c'' s e)
    (hext : ∃ mid, c'.flightLog = c.flightLog ++ mid) : DispatchedBy c c'' s e := by
  obtain ⟨mid, rest, h⟩ := h
  obtain ⟨mid', h'⟩ := hext
  exact ⟨mid' ++ mid, rest, by rw [h, h']; simp⟩

/-- **An event that occured meanwhile was dispatched by one of the submissions.** -/
theorem Submits.exists_dispatcher (h : Submits cfg now P c c') (hlog : cfg.flight_log = true)
    {e : EventID} (hb : c.eventStates e = false) (ha : c'.eventStates e = true) :
    ∃ s, P (s, e) ∧ DispatchedBy c c' s e := by
  obtain ⟨subs, hP, rfl⟩ := h
  induction subs generalizing c with
  | nil => exact absurd (hb.symm.trans ha) Bool.false_ne_true
  | cons x subs ih =>
    have hhead := hP x (List.mem_cons_self ..)
    have hrest : ∀ y ∈ subs, P y := fun y hy => hP y (List.mem_cons_of_mem _ hy)
    have htail : Submits cfg now P (submitEvent cfg c now x.1 x.2)
        (run (step cfg) c (submitAll ((x :: subs).map (Prod.mk now)))) := ⟨subs, hrest, rfl⟩
    cases hx : (submitEvent cfg c now x.1 x.2).eventStates e with
    | true =>
      obtain ⟨rfl, hd⟩ := submitEvent_newly hb hx
      exact ⟨x.1, hhead, (dispatchedBy_submitEvent hlog hd).extend htail.flightLog⟩
    | false =>
      obtain ⟨s, hs, hdisp⟩ := ih hx hrest ha
      exact ⟨s, hs, hdisp.after (flightLog_submitEvent x.1 x.2)⟩

/-- A timer's expiry that lets an event occur is its own event's, it was running long enough, and
its source dispatched it. -/
theorem timerExpiry_dispatches (hlog : cfg.flight_log = true) {e : EventID} {i : Fin num_timers}
    (hb : c.eventStates e = false) (ha : (timerExpiry cfg c now i).eventStates e = true) :
    e = (cfg.timerEvents i).event ∧
      (∃ since, (c.timers i).running = some since ∧ since + (cfg.timerEvents i).time ≤ now) ∧
      DispatchedBy c (timerExpiry cfg c now i) (cfg.timerEvents i).source e := by
  unfold timerExpiry at ha ⊢
  split at ha
  · rename_i hexp
    rw [if_pos hexp]
    obtain ⟨he, hd⟩ := submitEvent_newly (c := stopTimer c i) hb ha
    refine ⟨he, ?_, ?_⟩
    · unfold expires at hexp
      split at hexp
      · rename_i since hsince
        exact ⟨since, hsince, of_decide_eq_true hexp⟩
      · exact absurd hexp Bool.false_ne_true
    · rw [he]
      exact dispatchedBy_submitEvent (c := stopTimer c i) hlog hd
  · rw [hb] at ha
    exact absurd ha Bool.false_ne_true

/-- After an expiry a timer runs if it ran before, or its start event occured in it. -/
theorem timerExpiry_running {i j : Fin num_timers} {since : Nat}
    (hr : ((timerExpiry cfg c now i).timers j).running = some since) :
    (c.timers j).running = some since ∨
      (since = now ∧ c.eventStates (cfg.timerEvents j).start = false ∧
        (timerExpiry cfg c now i).eventStates (cfg.timerEvents j).start = true) := by
  unfold timerExpiry at hr ⊢
  split
  · rename_i hexp
    rw [if_pos hexp] at hr
    rcases submitEvent_running hr with hrun | hnew
    · left
      unfold stopTimer at hrun
      by_cases hj : j = i
      · subst hj
        simp at hrun
      · simpa [hj] using hrun
    · exact Or.inr hnew
  · rename_i hexp
    rw [if_neg hexp] at hr
    exact Or.inl hr

end Backplane.Flight
