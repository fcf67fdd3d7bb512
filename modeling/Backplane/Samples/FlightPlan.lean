import Backplane.Samples.FlightThreads
import Mathlib.Algebra.Order.Field.Rat

/-!
# The order of events in the phase detection sample

Threads and timers report events one by one; what they report, and when, follows a plan: each event
has an event that must have occured before it, and sources that may report it.

Results:
* `flight_planned`: in every interleaving events occur in the order of the plan, each through its
  own sources only, and `main` has passed only waits whose events have occured.
* `flight_lockouts`: noseover waits at least 10 s after boost, and the cameras stay on for at least
  2 s after the ground hit.
* `main_finishes_iff`: once the barometer thread has ended, `main` can still finish iff that thread
  had reported noseover. If the flight was ended by the timer before, the flight log is never
  synced.
-/

namespace Backplane.PhaseDetection

open Backplane.Run
open Backplane.Flight
open Backplane.Threads

/-- The event that must have occured before. -/
def Events.after : Events → Option Events
  | .padReady => none
  | .boost => some .padReady
  | .coast => some .boost
  | .noseover => some .boost
  | .mainChute => some .noseover
  | .groundHit => some .boost
  | .camerasOff => some .groundHit

/-- The source may report the event. -/
def Sources.reports : Sources → Events → Bool
  | .imu1, .padReady | .imu1, .boost | .imu1, .coast => true
  | .barom1, .padReady | .barom1, .boost | .barom1, .noseover | .barom1, .mainChute
  | .barom1, .groundHit => true
  | .noseoverLockout, .noseover | .boost2CoastTimer, .coast | .noseover2MainTimer, .mainChute
  | .fullFlightTimer, .groundHit | .extraCameraTimer, .camerasOff => true
  | _, _ => false

/-! ## The controller -/

/-- The controller has heard only what the plan allows. -/
structure Planned (c : Controller) : Prop where
  reported : ∀ e s, c.sourceStates e s = true →
    s.reports e = true ∧ ∀ e', e.after = some e' → c.eventStates e' = true
  running : ∀ i since, (c.timers i).running = some since →
    c.eventStates (timerEvents i).start = true

theorem construct_planned : Planned config.construct where
  reported _ _ h := absurd h (by simp [Config.construct])
  running _ _ h := absurd h (by simp [Config.construct])

theorem submit_planned {c : Controller} (h : Planned c) (now : Nat) {s : Sources} {e : Events}
    (hs : s.reports e = true) (hafter : ∀ e', e.after = some e' → c.eventStates e' = true) :
    Planned (submitEvent config c now s e) where
  reported e₁ s₁ h₁ := by
    rcases submitEvent_recorded_iff.mp h₁ with hold | heq
    · obtain ⟨hr, ha⟩ := h.reported e₁ s₁ hold
      exact ⟨hr, fun e' he' => submitEvent_occured s (ha e' he')⟩
    · cases heq
      exact ⟨hs, fun e' he' => submitEvent_occured s (hafter e' he')⟩
  running i since hr := by
    rcases submitEvent_running hr with hold | ⟨-, -, hnew⟩
    · exact submitEvent_occured s (h.running i since hold)
    · exact hnew

theorem stopTimer_planned {c : Controller} (h : Planned c) (i : Fin numTimerEvents) :
    Planned (stopTimer c i) where
  reported := h.reported
  running j since hj := by
    unfold stopTimer at hj
    by_cases hji : j = i
    · subst hji
      simp at hj
    · exact h.running j since (by simpa [hji] using hj)

/-- Each slot submits what the plan allows, after its start event. -/
theorem timerEvents_plan (i : Fin numTimerEvents) :
    (timerEvents i).source.reports (timerEvents i).event = true ∧
      (timerEvents i).event.after = some (timerEvents i).start := by
  revert i
  decide

theorem running_of_expires {c : Controller} {now : Nat} {i : Fin numTimerEvents}
    (h : expires config c now i = true) :
    ∃ since, (c.timers i).running = some since ∧ since + (timerEvents i).time ≤ now := by
  unfold expires at h
  split at h
  · exact ⟨_, ‹_›, of_decide_eq_true h⟩
  · exact absurd h Bool.false_ne_true

theorem expiry_planned {c : Controller} (h : Planned c) (now : Nat) (i : Fin numTimerEvents) :
    Planned (timerExpiry config c now i) := by
  unfold timerExpiry
  split
  · obtain ⟨since, hrun, -⟩ := running_of_expires ‹_›
    obtain ⟨hreports, hafter⟩ := timerEvents_plan i
    refine submit_planned (stopTimer_planned h i) now hreports fun e' he' => ?_
    have heq : (timerEvents i).start = e' := Option.some.inj (hafter.symm.trans he')
    exact heq ▸ h.running i since hrun
  · exact h

/-! ## The timers that must still expire -/

/-- Slot `i` runs since its start event, or has reported. -/
def Armed (c : Controller) (i : Fin numTimerEvents) : Prop :=
  c.eventStates (timerEvents i).start = true →
    (∃ since, (c.timers i).running = some since) ∨
      c.sourceStates (timerEvents i).event (timerEvents i).source = true

theorem submit_armed {c : Controller} {i : Fin numTimerEvents} (h : Armed c i) (now : Nat)
    (s : Sources) (e : Events) : Armed (submitEvent config c now s e) i := by
  intro hstart
  have hkept : c.eventStates (timerEvents i).start = true →
      (∃ since, ((submitEvent config c now s e).timers i).running = some since) ∨
        (submitEvent config c now s e).sourceStates (timerEvents i).event
          (timerEvents i).source = true := by
    intro hold
    rcases h hold with ⟨since, hrun⟩ | hrec
    · left
      rw [submitEvent_timers]
      split
      · unfold startTimers
        split
        · exact ⟨now, rfl⟩
        · exact ⟨since, hrun⟩
      · exact ⟨since, hrun⟩
    · exact .inr (submitEvent_recorded_iff.mpr (.inl hrec))
  cases hold : c.eventStates (timerEvents i).start with
  | true => exact hkept hold
  | false =>
    -- the start event occured with this submission
    obtain ⟨he, hd⟩ := submitEvent_newly hold hstart
    left
    rw [(submitEvent_of_dispatches now hd).2.2]
    refine ⟨now, ?_⟩
    unfold startTimers
    rw [if_pos (show (config.timerEvents i).start = e from he)]
    rfl

theorem expiry_armed {c : Controller} {j : Fin numTimerEvents} (h : Armed c j) (now : Nat)
    (i : Fin numTimerEvents) : Armed (timerExpiry config c now i) j := by
  unfold timerExpiry
  split
  · by_cases hji : j = i
    · subst hji
      exact fun _ => .inr (submitEvent_recorded_iff.mpr (.inr rfl))
    · refine submit_armed (fun hstart => ?_) now _ _
      refine (h hstart).imp_left fun ⟨since, hrun⟩ => ⟨since, ?_⟩
      unfold stopTimer
      simpa [hji] using hrun
  · exact h

/-! ## In the order of the plan -/

/-- What has occured was reported. -/
theorem exists_source {c : Controller} (hc : Reachable config c) {e : Events}
    (he : c.eventStates e = true) : ∃ s, c.sourceStates e s = true := by
  by_contra hnone
  have hfalse : c.sourceStates e = fun _ => false :=
    funext fun s => Bool.eq_false_iff.mpr fun hs => hnone ⟨s, hs⟩
  rw [hc.decided monotoneDeciders, hfalse] at he
  exact absurd ((monotoneDeciders.bot e).symm.trans he) Bool.false_ne_true

/-- Events have occured in the order of the plan. -/
theorem Planned.order {c : Controller} (h : Planned c) (hc : Reachable config c) {e e' : Events}
    (hafter : e.after = some e') (he : c.eventStates e = true) : c.eventStates e' = true := by
  obtain ⟨s, hs⟩ := exists_source hc he
  exact (h.reported e s hs).2 e' hafter

theorem submit_reachable {c : Controller} (hc : Reachable config c) (now : Nat) (s : Sources)
    (e : Events) : Reachable config (submitEvent config c now s e) := by
  obtain ⟨calls, rfl⟩ := hc
  refine ⟨calls ++ [.submit now s e], ?_⟩
  rw [run_snoc]
  rfl

/-! ## What the threads know -/

/-- The events that have occured when the IMU thread is here. -/
def ImuPc.knows : ImuPc → List Events
  | .submitReady | .waitReady => []
  | .checkCoast | .submitCoast => [.padReady, .boost]
  | .done => [.padReady, .groundHit]
  | _ => [.padReady]

/-- The events that have occured when the barometer thread is here. -/
def BaromPc.knows : BaromPc → List Events
  | .submitReady | .waitReady => []
  | .submitNoseover | .submitGround => [.padReady, .boost]
  | .submitMain => [.padReady, .noseover]
  | .done => [.padReady, .groundHit]
  | _ => [.padReady]

/-- The events that `main` has waited for when it is here. -/
def MainPc.knows : MainPc → List Events
  | .stopImuTimer | .stopBaromTimer | .waitPadReady => []
  | .startImuTimer | .startBaromTimer | .waitBoost => [.padReady]
  | .waitCoast => [.padReady, .boost]
  | .slowImuTimer | .waitNoseover => [.padReady, .boost, .coast]
  | .waitMainChute => [.padReady, .boost, .coast, .noseover]
  | .waitGroundHit => [.padReady, .boost, .coast, .noseover, .mainChute]
  | .endImuTimer | .endBaromTimer | .waitCamerasOff =>
    [.padReady, .boost, .coast, .noseover, .mainChute, .groundHit]
  | .sync | .done => [.padReady, .boost, .coast, .noseover, .mainChute, .groundHit, .camerasOff]

variable {D : Type}

/-- What a thread knows has occured. -/
def knows : (i : Thread) → Locals D i → List Events
  | .imu, t => t.pc.knows
  | .barom, t => t.pc.knows
  | .main, pc => pc.knows
  | .kernel, _ => []

variable [CMath D]

/-- The shared state follows the plan. -/
structure Shared.Planned (s : Shared) : Prop where
  reachable : Reachable config s.controller
  planned : PhaseDetection.Planned s.controller
  armed : ∀ i, Armed s.controller i

theorem eventPosted_iff {s : Shared} (hs : s.Planned) (e : Events) :
    s.eventPosted e = true ↔ s.controller.eventStates e = true := by
  obtain ⟨calls, hcalls⟩ := hs.reachable
  have hco := run_coherent config calls
  rw [← hcalls] at hco
  unfold Shared.eventPosted
  rw [hco.bit]

/-- Events are never taken back. -/
def Keeps (s s' : Shared) : Prop :=
  ∀ e, s.controller.eventStates e = true → s'.controller.eventStates e = true

theorem Keeps.of_eq {s s' : Shared} (h : s'.controller = s.controller) : Keeps s s' :=
  fun e he => by rwa [h]

theorem submit_keeps (s : Shared) (source : Sources) (event : Events) :
    Keeps s (s.submit source event) :=
  fun _ he => submitEvent_occured source he

/-- A thread submits what the plan allows, with what it knows. -/
theorem Shared.Planned.submit {s : Shared} (h : s.Planned) {source : Sources} {event : Events}
    (hreports : source.reports event = true)
    (hafter : ∀ e', event.after = some e' → s.controller.eventStates e' = true) :
    (s.submit source event).Planned where
  reachable := submit_reachable h.reachable s.clock source event
  planned := submit_planned h.planned s.clock hreports hafter
  armed i := submit_armed (h.armed i) s.clock source event

/-- A move that leaves the controller alone. -/
theorem Shared.Planned.same {s s' : Shared} (h : s.Planned) (heq : s'.controller = s.controller) :
    s'.Planned ∧ Keeps s s' :=
  ⟨⟨heq ▸ h.reachable, heq ▸ h.planned, heq ▸ h.armed⟩, Keeps.of_eq heq⟩

/-- What a thread's move leaves: the plan is kept, the thread knows what it should, and nothing is
taken back. -/
structure Moved (s s' : Shared) (known : List Events) : Prop where
  planned : s'.Planned
  knows : ∀ e ∈ known, s'.controller.eventStates e = true
  keeps : Keeps s s'

theorem Moved.same {s s' : Shared} (h : s.Planned) (heq : s'.controller = s.controller)
    {known : List Events} (hk : ∀ e ∈ known, s.controller.eventStates e = true) :
    Moved s s' known where
  planned := (h.same heq).1
  knows e he := heq ▸ hk e he
  keeps := (h.same heq).2

theorem Moved.submit {s : Shared} (h : s.Planned) {source : Sources} {event : Events}
    (hreports : source.reports event = true)
    (hafter : ∀ e', event.after = some e' → s.controller.eventStates e' = true)
    {known : List Events} (hk : ∀ e ∈ known, s.controller.eventStates e = true) :
    Moved s (s.submit source event) known where
  planned := h.submit hreports hafter
  knows e he := submit_keeps s source event e (hk e he)
  keeps := submit_keeps s source event

theorem imuMove_moved {s : Shared} {t : ImuThread D} {acc : D × D × D} {y : Shared × ImuThread D}
    (h : s.Planned) (hk : ∀ e ∈ t.pc.knows, s.controller.eventStates e = true)
    (hy : imuMove acc s t = some y) : Moved s y.1 y.2.pc.knows := by
  cases hpc : t.pc <;> simp only [imuMove, hpc] at hy <;>
    simp only [hpc, ImuPc.knows] at hk
  case submitReady =>
    cases hy
    exact .submit h rfl (by simp [Events.after]) (by simp [ImuPc.knows])
  case waitReady =>
    split at hy
    · rename_i hposted
      cases hy
      exact .same h rfl (by simpa [ImuPc.knows] using (eventPosted_iff h _).mp hposted)
    · cases hy
  case check =>
    cases hy
    refine .same h rfl ?_
    simp only
    split
    · rename_i hground
      unfold Shared.hasEventOccured CPhaseController.hasEventOccured at hground
      simpa [ImuPc.knows, hground] using hk
    · exact hk
  case sync =>
    split at hy
    · cases hy
      exact .same h (by rfl) hk
    · cases hy
  case read =>
    cases hy
    refine .same h rfl ?_
    exact hk
  case checkBoost =>
    split at hy
    · cases hy
      refine .same h rfl ?_
      simp only
      split <;> exact hk
    · rename_i hboost
      cases hy
      refine .same h rfl ?_
      rw [Bool.not_eq_true', Bool.not_eq_false] at hboost
      unfold Shared.hasEventOccured CPhaseController.hasEventOccured at hboost
      simpa [ImuPc.knows, hboost] using hk
  case submitBoost =>
    cases hy
    exact .submit h rfl (by simpa [Events.after] using hk) hk
  case checkCoast =>
    have hready : ∀ e ∈ [Events.padReady], s.controller.eventStates e = true :=
      fun e he => hk e (by simp_all)
    split at hy
    · cases hy
      refine .same h rfl ?_
      simp only
      split
      · exact hk
      · exact hready
    · cases hy
      refine .same h rfl ?_
      exact hready
  case submitCoast =>
    cases hy
    refine .submit h rfl (by simpa [Events.after] using hk .boost (by simp)) ?_
    exact fun e he => hk e (by simp_all [ImuPc.knows])
  case done => cases hy

theorem baromMove_moved {s : Shared} {t : BaromThread D} {press_kpa : D}
    {y : Shared × BaromThread D} (h : s.Planned)
    (hk : ∀ e ∈ t.pc.knows, s.controller.eventStates e = true)
    (hy : baromMove press_kpa s t = some y) : Moved s y.1 y.2.pc.knows := by
  cases hpc : t.pc <;> simp only [baromMove, hpc] at hy <;>
    simp only [hpc, BaromPc.knows] at hk
  case submitReady =>
    cases hy
    exact .submit h rfl (by simp [Events.after]) (by simp [BaromPc.knows])
  case waitReady =>
    split at hy
    · rename_i hposted
      cases hy
      exact .same h rfl (by simpa [BaromPc.knows] using (eventPosted_iff h _).mp hposted)
    · cases hy
  case check =>
    cases hy
    refine .same h rfl ?_
    simp only
    split
    · rename_i hground
      unfold Shared.hasEventOccured CPhaseController.hasEventOccured at hground
      simpa [BaromPc.knows, hground] using hk
    · exact hk
  case sync =>
    split at hy
    · cases hy
      exact .same h (by rfl) hk
    · cases hy
  case nosedOver =>
    cases hy
    refine .same h rfl ?_
    simp only
    split
    · rename_i hboost
      rw [Bool.and_eq_true] at hboost
      unfold Shared.hasEventOccured CPhaseController.hasEventOccured at hboost
      simpa [BaromPc.knows, hboost.1] using hk
    · exact hk
  case mainArmed =>
    cases hy
    refine .same h rfl ?_
    simp only
    split
    · rename_i hnoseover
      rw [Bool.and_eq_true] at hnoseover
      unfold Shared.hasEventOccured CPhaseController.hasEventOccured at hnoseover
      simpa [BaromPc.knows, hnoseover.1] using hk
    · exact hk
  case grounded =>
    cases hy
    refine .same h rfl ?_
    simp only
    split
    · rename_i hboost
      rw [Bool.and_eq_true] at hboost
      unfold Shared.hasEventOccured CPhaseController.hasEventOccured at hboost
      simpa [BaromPc.knows, hboost.1] using hk
    · exact hk
  case submitBoost =>
    cases hy
    exact .submit h rfl (by simpa [Events.after] using hk) hk
  case submitNoseover =>
    cases hy
    refine .submit h rfl (by simpa [Events.after] using hk .boost (by simp)) ?_
    exact fun e he => hk e (by simp_all [BaromPc.knows])
  case submitMain =>
    cases hy
    refine .submit h rfl (by simpa [Events.after] using hk .noseover (by simp)) ?_
    exact fun e he => hk e (by simp_all [BaromPc.knows])
  case submitGround =>
    cases hy
    refine .submit h rfl (by simpa [Events.after] using hk .boost (by simp)) ?_
    exact fun e he => hk e (by simp_all [BaromPc.knows])
  case done => cases hy
  -- the other moves look and feed, and know no more than before
  all_goals
    first
    | (cases hy; refine .same h rfl ?_; exact hk)
    | (split at hy <;> cases hy <;> refine .same h rfl ?_ <;>
        first | exact hk | (simp only; split <;> exact hk))

/-- Past a wait `main` knows one event more. -/
theorem MainPc.knows_next {pc : MainPc} {e : Events} (h : e ∈ pc.next.knows) :
    e ∈ pc.knows ∨ pc.awaits = some e := by
  revert h
  cases pc <;> cases e <;> decide

theorem mainMove_moved {s : Shared} {pc : MainPc} {y : Shared × MainPc} (h : s.Planned)
    (hk : ∀ e ∈ pc.knows, s.controller.eventStates e = true) (hy : mainMove s pc = some y) :
    Moved s y.1 y.2.knows := by
  unfold mainMove at hy
  split at hy
  · cases hy
  · split at hy
    · rename_i event hawaits
      split at hy
      · rename_i hposted
        cases hy
        refine .same h rfl fun e he => ?_
        rcases MainPc.knows_next he with hold | hnew
        · exact hk e hold
        · obtain rfl := Option.some.inj (hawaits.symm.trans hnew)
          exact (eventPosted_iff h event).mp hposted
      · cases hy
    · rename_i hawaits
      cases hy
      refine .same h (by cases pc <;> rfl) fun e he => hk e ?_
      exact (MainPc.knows_next he).resolve_right (by rw [hawaits]; simp)

theorem kernelMove_moved {s : Shared} (h : s.Planned) (tick : Tick) :
    Moved s (kernelMove s tick) [] := by
  cases tick with
  | expiry i =>
    refine ⟨⟨timerExpiry_reachable h.reachable i, expiry_planned h.planned s.clock i,
      fun j => expiry_armed (h.armed j) s.clock i⟩, by simp, fun e he => ?_⟩
    exact eventStates_step config s.controller (.expiry s.clock i) he
  | elapse ms => exact .same h (by rfl) (by simp)
  | imu => exact .same h (by rfl) (by simp)
  | barom => exact .same h (by rfl) (by simp)

/-- The proof outline of the sample. -/
def flightOutline : Outline (flight D) where
  inv := Shared.Planned
  own i s t := ∀ e ∈ knows i t, s.controller.eventStates e = true
  guar _ := Keeps
  move {i a s l y} hs hk hy := by
    have hmoved : Moved s y.1 (knows i y.2) := by
      cases i with
      | imu => exact imuMove_moved hs hk hy
      | barom => exact baromMove_moved hs hk hy
      | main => exact mainMove_moved hs hk hy
      | kernel =>
        cases hy
        exact kernelMove_moved hs a
    exact ⟨hmoved.planned, hmoved.knows, hmoved.keeps⟩
  stable _ hkeeps hk e he := hkeeps e (hk e he)

theorem flightStart_holds : (flightOutline (D := D)).Holds (flightStart D) where
  inv := ⟨⟨[], rfl⟩, construct_planned, fun _ h => absurd h (by simp [flightStart,
    Config.construct])⟩
  own i := by cases i <;> exact fun e he => absurd he List.not_mem_nil

/-- The flight after these turns. -/
abbrev flown (D : Type) [CMath D] (turns : List (Σ i, Reads D i)) : World Shared (Locals D) :=
  run (flight D).step (flightStart D) turns

theorem flown_holds (turns : List (Σ i, Reads D i)) : flightOutline.Holds (flown D turns) :=
  flightOutline.run flightStart_holds turns

/-- **The flight follows its plan.** In every interleaving of the threads, the timers and the
kernel, whatever the sensors read: only the sources meant for an event have reported it; an event
has occured only after the one it must follow; and `main` has passed only waits for events that
have occured. -/
theorem flight_planned (D : Type) [CMath D] (turns : List (Σ i, Reads D i)) :
    let w := flown D turns
    (∀ e s, w.shared.controller.sourceStates e s = true → s.reports e = true) ∧
    (∀ e e', e.after = some e' → w.shared.hasEventOccured e = true →
      w.shared.hasEventOccured e' = true) ∧
    ∀ e ∈ (w.locals .main).knows, w.shared.hasEventOccured e = true := by
  have h := flown_holds (D := D) turns
  exact ⟨fun e s hs => (h.inv.planned.reported e s hs).1,
    fun e e' hafter he => h.inv.planned.order h.inv.reachable hafter he, h.own .main⟩

/-! ## Lockouts -/

/-- How a move of thread `i` changes the controller. -/
inductive Change (i : Thread) (s s' : Shared) : Prop
  | none (hc : s'.controller = s.controller) (ht : s.clock ≤ s'.clock)
  | sensor (source : Sources) (event : Events)
      (hi : (i = .imu ∧ source = .imu1) ∨ (i = .barom ∧ source = .barom1))
      (hc : s'.controller = submitEvent config s.controller s.clock source event)
      (ht : s'.clock = s.clock)
  | timer (j : Fin numTimerEvents)
      (hc : s'.controller = timerExpiry config s.controller s.clock j) (ht : s'.clock = s.clock)

theorem imuMove_change {s : Shared} {t : ImuThread D} {acc : D × D × D} {y : Shared × ImuThread D}
    (hy : imuMove acc s t = some y) : Change .imu s y.1 := by
  cases hpc : t.pc <;> simp only [imuMove, hpc] at hy
  case submitReady => cases hy; exact .sensor .imu1 .padReady (.inl ⟨rfl, rfl⟩) rfl rfl
  case submitBoost => cases hy; exact .sensor .imu1 .boost (.inl ⟨rfl, rfl⟩) rfl rfl
  case submitCoast => cases hy; exact .sensor .imu1 .coast (.inl ⟨rfl, rfl⟩) rfl rfl
  case done => cases hy
  all_goals
    first
    | (cases hy; exact .none rfl le_rfl)
    | (split at hy <;> cases hy <;> exact .none rfl le_rfl)

theorem baromMove_change {s : Shared} {t : BaromThread D} {press_kpa : D}
    {y : Shared × BaromThread D} (hy : baromMove press_kpa s t = some y) : Change .barom s y.1 := by
  cases hpc : t.pc <;> simp only [baromMove, hpc] at hy
  case submitReady => cases hy; exact .sensor .barom1 .padReady (.inr ⟨rfl, rfl⟩) rfl rfl
  case submitBoost => cases hy; exact .sensor .barom1 .boost (.inr ⟨rfl, rfl⟩) rfl rfl
  case submitNoseover => cases hy; exact .sensor .barom1 .noseover (.inr ⟨rfl, rfl⟩) rfl rfl
  case submitMain => cases hy; exact .sensor .barom1 .mainChute (.inr ⟨rfl, rfl⟩) rfl rfl
  case submitGround => cases hy; exact .sensor .barom1 .groundHit (.inr ⟨rfl, rfl⟩) rfl rfl
  case done => cases hy
  all_goals
    first
    | (cases hy; exact .none rfl le_rfl)
    | (split at hy <;> cases hy <;> exact .none rfl le_rfl)

/-- `main` only waits, and starts and stops the polling timers. -/
theorem mainMove_controller {s : Shared} {pc : MainPc} {y : Shared × MainPc}
    (hy : mainMove s pc = some y) :
    y.1.controller = s.controller ∧ y.1.clock = s.clock := by
  unfold mainMove at hy
  split at hy
  · cases hy
  · split at hy
    · split at hy
      · cases hy
        exact ⟨rfl, rfl⟩
      · cases hy
    · cases hy
      cases pc <;> exact ⟨rfl, rfl⟩

/-- **How a turn changes the controller.** -/
theorem flight_change {i : Thread} {a : Reads D i} {s : Shared} {l : Locals D i}
    {y : Shared × Locals D i} (hy : (flight D).move i a s l = some y) : Change i s y.1 := by
  cases i with
  | imu => exact imuMove_change hy
  | barom => exact baromMove_change hy
  | main =>
    obtain ⟨hc, ht⟩ := mainMove_controller hy
    exact .none hc ht.ge
  | kernel =>
    cases hy
    cases a with
    | elapse ms => exact .none rfl (Nat.le_add_right _ _)
    | expiry j => exact .timer j rfl rfl
    | imu => exact .none rfl le_rfl
    | barom => exact .none rfl le_rfl

/-- The event has occured. -/
def Occured (e : Events) (w : World Shared (Locals D)) : Prop :=
  w.shared.controller.eventStates e = true

/-- The event occurs in turn `k`. -/
abbrev OccursIn (e : Events) (turns : List (Σ i, Reads D i)) (k : Nat) (x : Σ i, Reads D i) :
    Prop :=
  Onset (flight D).step (flightStart D) (Occured e) turns k x

/-- The uptime before turn `k`. -/
def clockAt (D : Type) [CMath D] (turns : List (Σ i, Reads D i)) (k : Nat) : Nat :=
  (stateAt (flight D).step (flightStart D) turns k).shared.clock

/-- The event occured at an uptime that meets `P`. -/
def OccuredAt (e : Events) (turns : List (Σ i, Reads D i)) (P : Nat → Prop) : Prop :=
  ∃ k x, OccursIn e turns k x ∧ P (clockAt D turns k)

/-- Slot `i` runs since its start event occured, and has reported only after its time. -/
structure Timed (turns : List (Σ i, Reads D i)) (s : Shared) (i : Fin numTimerEvents) : Prop where
  running : ∀ since, (s.controller.timers i).running = some since →
    OccuredAt (timerEvents i).start turns (· = since)
  reported : s.controller.sourceStates (timerEvents i).event (timerEvents i).source = true →
    OccuredAt (timerEvents i).start turns (· + (timerEvents i).time ≤ s.clock)

theorem clockAt_append {turns : List (Σ i, Reads D i)} (x : Σ i, Reads D i) {k : Nat}
    (hk : k ≤ turns.length) : clockAt D (turns ++ [x]) k = clockAt D turns k := by
  unfold clockAt
  rw [stateAt_append hk]

/-- It still did, one turn later. -/
theorem OccuredAt.snoc {turns : List (Σ i, Reads D i)} {e : Events} {P : Nat → Prop}
    (h : OccuredAt e turns P) (x : Σ i, Reads D i) : OccuredAt e (turns ++ [x]) P := by
  obtain ⟨k, y, hon, hP⟩ := h
  exact ⟨k, y, hon.append [x], by rwa [clockAt_append x hon.lt_length.le]⟩

/-- The slots have sources of their own. -/
theorem timerEvents_source (i j : Fin numTimerEvents) :
    (timerEvents i).source = (timerEvents j).source → i = j := by
  revert i j
  decide

theorem timerEvents_not_sensor (i : Fin numTimerEvents) :
    (timerEvents i).source ≠ .imu1 ∧ (timerEvents i).source ≠ .barom1 := by
  revert i
  decide

/-- **Every turn keeps the slots timed.** -/
theorem timed_snoc {turns : List (Σ i, Reads D i)} (x : Σ i, Reads D i)
    (h : ∀ i, Timed turns (flown D turns).shared i) (i : Fin numTimerEvents) :
    Timed (turns ++ [x]) ((flight D).step (flown D turns) x).shared i := by
  have hend : clockAt D (turns ++ [x]) turns.length = (flown D turns).shared.clock := by
    rw [clockAt_append x le_rfl]
    unfold clockAt
    rw [stateAt_length]
  -- a slot that starts to run does so in this turn
  have hnew : ∀ since, since = (flown D turns).shared.clock →
      (flown D turns).shared.controller.eventStates (timerEvents i).start = false →
      ((flight D).step (flown D turns) x).shared.controller.eventStates (timerEvents i).start
        = true →
      OccuredAt (timerEvents i).start (turns ++ [x]) (· = since) := by
    intro since hsince hb ha
    refine ⟨turns.length, x, onset_snoc (fun hocc => ?_) ha, hend.trans hsince.symm⟩
    exact Bool.false_ne_true (hb.symm.trans hocc)
  rcases step_cases (p := flight D) (flown D turns) x with hsame | ⟨y, hy, hstep⟩
  · rw [hsame]
    exact ⟨fun since hr => ((h i).running since hr).snoc x,
      fun hr => ((h i).reported hr).snoc x⟩
  · rw [hstep] at hnew ⊢
    rw [moved_shared] at hnew ⊢
    cases flight_change hy with
    | none hc ht =>
      constructor
      · intro since hr
        rw [hc] at hr
        exact ((h i).running since hr).snoc x
      · intro hr
        rw [hc] at hr
        obtain ⟨k, z, hon, hle⟩ := ((h i).reported hr).snoc x
        exact ⟨k, z, hon, hle.trans ht⟩
    | sensor source event hi hc ht =>
      constructor
      · intro since hr
        rw [hc] at hr
        rcases submitEvent_running hr with hold | ⟨hsince, hb, ha⟩
        · exact ((h i).running since hold).snoc x
        · exact hnew since hsince hb (hc ▸ ha)
      · intro hr
        rw [hc] at hr
        rw [ht]
        rcases submitEvent_recorded_iff.mp hr with hold | heq
        · exact ((h i).reported hold).snoc x
        · obtain ⟨himu, hbarom⟩ := timerEvents_not_sensor i
          have hsource := (Prod.mk.inj heq).1
          rcases hi with ⟨-, hs⟩ | ⟨-, hs⟩
          · exact absurd (hsource.trans hs) himu
          · exact absurd (hsource.trans hs) hbarom
    | timer j hc ht =>
      constructor
      · intro since hr
        rw [hc] at hr
        rcases timerExpiry_running hr with hold | ⟨hsince, hb, ha⟩
        · exact ((h i).running since hold).snoc x
        · exact hnew since hsince hb (hc ▸ ha)
      · intro hr
        rw [hc] at hr
        rw [ht]
        unfold timerExpiry at hr
        split at hr
        · rcases submitEvent_recorded_iff.mp hr with hold | heq
          · exact ((h i).reported hold).snoc x
          · obtain rfl := timerEvents_source i j (Prod.mk.inj heq).1
            obtain ⟨since, hrun, hle⟩ := running_of_expires ‹_›
            obtain ⟨k, z, hon, hk⟩ := ((h i).running since hrun).snoc x
            exact ⟨k, z, hon, by rw [hk]; exact hle⟩
        · exact ((h i).reported hr).snoc x

theorem flown_timed (turns : List (Σ i, Reads D i)) (i : Fin numTimerEvents) :
    Timed turns (flown D turns).shared i := by
  refine run_induction (motive := fun l w => ∀ i, Timed l (World.shared w) i) ?_ ?_ turns i
  · exact fun i => ⟨fun since h => absurd h (by simp [flightStart, Config.construct]),
      fun h => absurd h (by simp [flightStart, Config.construct])⟩
  · exact fun l x ih i => timed_snoc x ih i

/-- What has occured has occured for good. -/
theorem occured_step (e : Events) (w : World Shared (Locals D)) (x : Σ i, Reads D i)
    (h : Occured e w) : Occured e ((flight D).step w x) := by
  refine step_preserves (P := Occured e) (fun w i a y h hy => ?_) w x h
  unfold Occured at h ⊢
  rw [moved_shared]
  cases flight_change hy with
  | none hc ht => rwa [hc]
  | sensor source event hi hc ht =>
    rw [hc]
    exact submitEvent_occured source h
  | timer j hc ht =>
    rw [hc]
    exact eventStates_step config _ (.expiry w.shared.clock j) h

/-- A turn in which an event occurs takes no time. -/
theorem clock_of_occurs {w : World Shared (Locals D)} {x : Σ i, Reads D i} {e : Events}
    (hb : ¬ Occured e w) (ha : Occured e ((flight D).step w x)) :
    ((flight D).step w x).shared.clock = w.shared.clock := by
  rcases step_cases (p := flight D) w x with hsame | ⟨y, hy, hstep⟩
  · rw [hsame]
  · rw [hstep] at ha ⊢
    rw [moved_shared]
    cases flight_change hy with
    | none hc ht =>
      unfold Occured at ha hb
      rw [moved_shared, hc] at ha
      exact absurd ha hb
    | sensor source event hi hc ht => exact ht
    | timer j hc ht => exact ht

/-- An event that needs the report of its slot occurs no sooner than the slot's time after the
slot's start event. -/
theorem lockout {turns : List (Σ i, Reads D i)} {i : Fin numTimerEvents}
    (hneeds : ∀ states, deciders (timerEvents i).event states = true →
      states (timerEvents i).source = true)
    {k j : Nat} {x y : Σ i, Reads D i} (hstart : OccursIn (timerEvents i).start turns k x)
    (hevent : OccursIn (timerEvents i).event turns j y) :
    clockAt D turns k + (timerEvents i).time ≤ clockAt D turns j := by
  obtain ⟨pre, post, rfl, rfl, hb, ha⟩ := onset_iff_split.mp hevent
  have hocc : Occured (timerEvents i).event (flown D (pre ++ [y])) := by
    rw [flown, run_snoc]
    exact ha
  have hdec := (flown_holds (D := D) (pre ++ [y])).inv.reachable.decided monotoneDeciders
    (timerEvents i).event
  obtain ⟨k', z, hon, hle⟩ :=
    (flown_timed (pre ++ [y]) i).reported (hneeds _ (hdec.symm.trans hocc))
  -- the start event has one onset
  have hwhole := hon.append post
  rw [List.append_assoc, List.singleton_append] at hwhole
  obtain ⟨rfl, -⟩ := onset_unique (occured_step _) hstart hwhole
  have hk' : k ≤ pre.length := by
    have := hon.lt_length
    rw [List.length_append, List.length_singleton] at this
    omega
  have hclock : (flown D (pre ++ [y])).shared.clock = (flown D pre).shared.clock := by
    rw [flown, run_snoc]
    exact clock_of_occurs hb ha
  have hj : clockAt D (pre ++ y :: post) pre.length = (flown D pre).shared.clock := by
    unfold clockAt
    rw [stateAt_append le_rfl, stateAt_length]
  have hk : clockAt D (pre ++ y :: post) k = clockAt D (pre ++ [y]) k := by
    unfold clockAt
    rw [stateAt_append hk', stateAt_append hk']
  rw [hj, hk, ← hclock]
  exact hle

/-- **Lockouts.** In every interleaving noseover occurs no sooner than 10 s after boost, whatever
the barometer reports, and the cameras go off no sooner than 2 s after the ground hit. -/
theorem flight_lockouts (D : Type) [CMath D] (turns : List (Σ i, Reads D i)) (k j : Nat)
    (x y : Σ i, Reads D i) :
    (OccursIn .boost turns k x → OccursIn .noseover turns j y →
      clockAt D turns k + 10000 ≤ clockAt D turns j) ∧
    (OccursIn .groundHit turns k x → OccursIn .camerasOff turns j y →
      clockAt D turns k + 2000 ≤ clockAt D turns j) :=
  ⟨lockout (i := 1) fun _ h => (Bool.and_eq_true _ _ ▸ h : _ ∧ _).1, lockout (i := 4) fun _ h => h⟩

/-! ## Whether `main` finishes -/

/-- **Without a report of noseover** `main` does not get past its wait for it. -/
theorem main_stuck {w : World Shared (Locals D)} (h : flightOutline.Holds w)
    (hdone : (w.locals .barom).pc = .done)
    (hno : w.shared.controller.sourceStates .noseover .barom1 = false)
    (turns : List (Σ i, Reads D i)) :
    .noseover ∉ MainPc.knows ((run (flight D).step w turns).locals .main) := by
  -- noseover needs the report
  have hnot : ∀ w : World Shared (Locals D), flightOutline.Holds w →
      w.shared.controller.sourceStates .noseover .barom1 = false →
      ¬ w.shared.controller.eventStates .noseover = true := by
    intro w hw hno hocc
    have hdec := hw.inv.reachable.decided monotoneDeciders .noseover
    rw [hocc] at hdec
    have hand : _ ∧ w.shared.controller.sourceStates .noseover .barom1 = true :=
      Bool.and_eq_true _ _ ▸ hdec.symm
    exact Bool.false_ne_true (hno.symm.trans hand.2)
  refine local_run_const (p := flight D) (i := .main) (Q := fun pc => .noseover ∉ MainPc.knows pc)
    (R := fun w => flightOutline.Holds w ∧ (w.locals .barom).pc = .done ∧
      w.shared.controller.sourceStates .noseover .barom1 = false) ?_ ?_ ⟨h, hdone, hno⟩
    (fun hmem => hnot w h hno (h.own .main _ hmem)) turns
  · rintro w j a y ⟨hw, hd, hn⟩ - hy
    have hj : j ≠ .barom := by
      rintro rfl
      simp only [flight, baromMove, hd] at hy
      cases hy
    refine ⟨hw.moved hy, ?_, ?_⟩
    · rw [moved_locals_other w y hj.symm]
      exact hd
    · rw [moved_shared, Bool.eq_false_iff]
      intro hrec
      have hold : ¬ w.shared.controller.sourceStates .noseover .barom1 = true := by simp [hn]
      cases flight_change hy with
      | none hc ht => exact hold (hc ▸ hrec)
      | sensor source event hi hc ht =>
        rw [hc] at hrec
        rcases submitEvent_recorded_iff.mp hrec with hrec | heq
        · exact hold hrec
        · rcases hi with ⟨-, rfl⟩ | ⟨rfl, -⟩
          · cases heq
          · exact hj rfl
      | timer i hc ht =>
        rw [hc] at hrec
        unfold timerExpiry at hrec
        split at hrec
        · rcases submitEvent_recorded_iff.mp hrec with hrec | heq
          · exact hold hrec
          · exact (timerEvents_not_sensor i).2 (Prod.mk.inj heq).1.symm
        · exact hold hrec
  · rintro w a y ⟨hw, -, hn⟩ - hy hmem
    have hocc := (mainMove_moved hw.inv (hw.own .main) hy).knows .noseover hmem
    rw [(mainMove_controller hy).1] at hocc
    exact hnot w hw hn hocc

/-- Source `s` has reported `e`. -/
def Reported (e : Events) (s : Sources) (w : World Shared (Locals D)) : Prop :=
  w.shared.controller.sourceStates e s = true

theorem reported_step (e : Events) (s : Sources) (w : World Shared (Locals D))
    (x : Σ i, Reads D i) (h : Reported e s w) : Reported e s ((flight D).step w x) := by
  refine step_preserves (P := Reported e s) (fun w i a y h hy => ?_) w x h
  unfold Reported at h ⊢
  rw [moved_shared]
  cases flight_change hy with
  | none hc ht => rwa [hc]
  | sensor source event hi hc ht =>
    rw [hc]
    exact submitEvent_recorded_iff.mpr (.inl h)
  | timer j hc ht =>
    rw [hc]
    unfold timerExpiry
    split
    · exact submitEvent_recorded_iff.mpr (.inl h)
    · exact h

/-- A turn of the kernel leaves the threads where they are. -/
theorem step_kernel (w : World Shared (Locals D)) (tick : Tick) :
    (flight D).step w ⟨.kernel, tick⟩ =
      { shared := kernelMove w.shared tick, locals := w.locals } := by
  have hsame : Function.update w.locals .kernel () = w.locals := Function.update_eq_self ..
  show w.moved .kernel (kernelMove w.shared tick, ()) = _
  unfold World.moved
  rw [hsame]

/-- `w'` comes after `w`, by turns of the kernel only. -/
structure After (w w' : World Shared (Locals D)) : Prop where
  reach : ∃ turns, w' = run (flight D).step w turns
  locals : w'.locals = w.locals

theorem After.trans {w w' w'' : World Shared (Locals D)} (h : After w w') (h' : After w' w'') :
    After w w'' := by
  obtain ⟨turns, rfl⟩ := h.reach
  obtain ⟨turns', rfl⟩ := h'.reach
  exact ⟨⟨turns ++ turns', (run_append _ _).symm⟩, h'.locals.trans h.locals⟩

theorem After.holds {w w' : World Shared (Locals D)} (h : After w w')
    (hw : flightOutline.Holds w) : flightOutline.Holds w' := by
  obtain ⟨turns, rfl⟩ := h.reach
  exact flightOutline.run hw turns

theorem After.occured {w w' : World Shared (Locals D)} (h : After w w') {e : Events}
    (he : Occured e w) : Occured e w' := by
  obtain ⟨turns, rfl⟩ := h.reach
  exact run_preserves (occured_step e) turns he

theorem After.reported {w w' : World Shared (Locals D)} (h : After w w') {e : Events}
    {s : Sources} (hs : Reported e s w) : Reported e s w' := by
  obtain ⟨turns, rfl⟩ := h.reach
  exact run_preserves (reported_step e s) turns hs

/-- A slot whose start event has occured can let its time pass and report. -/
theorem exists_report {w : World Shared (Locals D)} (h : flightOutline.Holds w)
    {i : Fin numTimerEvents} (hstart : Occured (timerEvents i).start w) :
    ∃ w', After w w' ∧ Reported (timerEvents i).event (timerEvents i).source w' := by
  rcases h.inv.armed i hstart with ⟨since, hrun⟩ | hrep
  · have hexp : expires config w.shared.controller
        (w.shared.clock + (since + (timerEvents i).time)) i = true := by
      unfold expires
      rw [hrun]
      exact decide_eq_true (Nat.le_add_left _ _)
    refine ⟨_, ⟨⟨[⟨.kernel, .elapse (since + (timerEvents i).time)⟩, ⟨.kernel, .expiry i⟩], rfl⟩,
      ?_⟩, ?_⟩
    · rw [run_cons, run_cons, run_nil, step_kernel, step_kernel]
    · rw [run_cons, run_cons, run_nil, step_kernel, step_kernel]
      show (timerExpiry config w.shared.controller
        (w.shared.clock + (since + (timerEvents i).time)) i).sourceStates _ _ = true
      unfold timerExpiry
      rw [if_pos hexp]
      exact submitEvent_recorded_iff.mpr (.inr rfl)
  · exact ⟨w, ⟨⟨[], rfl⟩, rfl⟩, hrep⟩

/-- The same, for an event that its decider accepts with that report. -/
theorem exists_occurrence {w : World Shared (Locals D)} (h : flightOutline.Holds w)
    {i : Fin numTimerEvents} (hstart : Occured (timerEvents i).start w)
    (hdec : ∀ w', After w w' → Reported (timerEvents i).event (timerEvents i).source w' →
      deciders (timerEvents i).event
        (w'.shared.controller.sourceStates (timerEvents i).event) = true) :
    ∃ w', After w w' ∧ Occured (timerEvents i).event w' := by
  obtain ⟨w', hafter, hrep⟩ := exists_report h hstart
  exact ⟨w', hafter, ((hafter.holds h).inv.reachable.decided monotoneDeciders _).trans
    (hdec w' hafter hrep)⟩

/-- How many statements `main` has before it. -/
def MainPc.rank : MainPc → Nat
  | .stopImuTimer => 15
  | .stopBaromTimer => 14
  | .waitPadReady => 13
  | .startImuTimer => 12
  | .startBaromTimer => 11
  | .waitBoost => 10
  | .waitCoast => 9
  | .slowImuTimer => 8
  | .waitNoseover => 7
  | .waitMainChute => 6
  | .waitGroundHit => 5
  | .endImuTimer => 4
  | .endBaromTimer => 3
  | .waitCamerasOff => 2
  | .sync => 1
  | .done => 0

theorem MainPc.rank_next {pc : MainPc} (h : pc ≠ .done) : pc.next.rank < pc.rank := by
  revert h
  cases pc <;> decide

/-- Where every event has occured, `main` makes its next move. -/
theorem exists_mainMove {s : Shared} (hs : s.Planned)
    (hall : ∀ e, s.controller.eventStates e = true)
    {pc : MainPc} (hpc : pc ≠ .done) : ∃ s', mainMove s pc = some (s', pc.next) := by
  unfold mainMove
  rw [if_neg hpc]
  cases pc.awaits with
  | none => exact ⟨_, rfl⟩
  | some event => exact ⟨s, if_pos ((eventPosted_iff hs event).mpr (hall event))⟩

/-- Where every event has occured, `main` runs to its end. -/
theorem main_runs {w : World Shared (Locals D)} (h : flightOutline.Holds w)
    (hall : ∀ e, Occured e w) : ∃ turns, (run (flight D).step w turns).locals .main = .done := by
  induction hn : MainPc.rank (w.locals .main) using Nat.strong_induction_on generalizing w with
  | h n ih =>
    by_cases hpc : w.locals .main = .done
    · exact ⟨[], hpc⟩
    · obtain ⟨s', hmove⟩ := exists_mainMove h.inv hall hpc
      have hstep : (flight D).step w ⟨.main, ()⟩ = 
          w.moved .main (s', MainPc.next (w.locals .main)) := by
        unfold Program.step
        rw [show (flight D).move .main () w.shared (w.locals .main) = _ from hmove]
      have hlt : MainPc.rank (((flight D).step w ⟨.main, ()⟩).locals .main) < n := by
        rw [hstep, moved_locals_self, ← hn]
        exact MainPc.rank_next hpc
      obtain ⟨turns, hturns⟩ := ih _ hlt (flightOutline.run h [⟨.main, ()⟩])
        (fun e => occured_step e w _ (hall e)) rfl
      exact ⟨⟨.main, ()⟩ :: turns, hturns⟩

/-- With a report of noseover, all timers can still run out and `main` finish. -/
theorem main_can_finish {w : World Shared (Locals D)} (h : flightOutline.Holds w)
    (hdone : (w.locals .barom).pc = .done) (hrep : Reported .noseover .barom1 w) :
    ∃ turns, (run (flight D).step w turns).locals .main = .done := by
  have hboost : Occured .boost w := (h.inv.planned.reported _ _ hrep).2 .boost rfl
  have hready : Occured .padReady w := h.inv.planned.order h.inv.reachable rfl hboost
  have hground : Occured .groundHit w := h.own .barom .groundHit (by
    show _ ∈ BaromPc.knows _
    rw [hdone]
    decide)
  -- four timers, one after the other
  obtain ⟨w₀, h₀, hcoast⟩ := exists_occurrence (i := 0) h hboost
    fun w' _ hr => (Bool.or_eq_true _ _).mpr (.inl hr)
  obtain ⟨w₁, h₁, hnoseover⟩ := exists_occurrence (i := 1) (h₀.holds h) (h₀.occured hboost)
    fun w' ha hr => (Bool.and_eq_true _ _).mpr ⟨hr, (h₀.trans ha).reported hrep⟩
  have h₀₁ := h₀.trans h₁
  obtain ⟨w₂, h₂, hmain⟩ := exists_occurrence (i := 2) (h₀₁.holds h) hnoseover
    fun w' _ hr => (Bool.or_eq_true _ _).mpr (.inr hr)
  have h₀₂ := h₀₁.trans h₂
  obtain ⟨w₃, h₃, hcameras⟩ := exists_occurrence (i := 4) (h₀₂.holds h) (h₀₂.occured hground)
    fun w' _ hr => hr
  have h₀₃ := h₀₂.trans h₃
  have hall : ∀ e, Occured e w₃ := by
    intro e
    cases e with
    | padReady => exact h₀₃.occured hready
    | boost => exact h₀₃.occured hboost
    | coast => exact (h₁.trans (h₂.trans h₃)).occured hcoast
    | noseover => exact (h₂.trans h₃).occured hnoseover
    | mainChute => exact h₃.occured hmain
    | groundHit => exact h₀₃.occured hground
    | camerasOff => exact hcameras
  obtain ⟨turns, hturns⟩ := main_runs (h₀₃.holds h) hall
  obtain ⟨before, hbefore⟩ := h₀₃.reach
  exact ⟨before ++ turns, by rw [run_append, ← hbefore, hturns]⟩

/-- **Whether the flight log is ever synced.** Once the barometer thread has ended, `main` can
still come to its end, where it syncs the flight log, iff that thread had reported noseover: with a
report all it waits for can occur, by timers; without one, as when `FullFlightTimer` ends the
flight first, it waits for noseover forever. -/
theorem main_finishes_iff (D : Type) [CMath D] (turns : List (Σ i, Reads D i))
    (hdone : ((flown D turns).locals .barom).pc = .done) :
    (∃ turns', (flown D (turns ++ turns')).locals .main = .done) ↔
      (flown D turns).shared.controller.sourceStates .noseover .barom1 = true := by
  have h := flown_holds (D := D) turns
  constructor
  · rintro ⟨turns', hend⟩
    by_contra hno
    have hstuck := main_stuck h hdone (Bool.eq_false_iff.mpr hno) turns'
    rw [flown, run_append] at hend
    rw [hend] at hstuck
    exact hstuck (by decide)
  · intro hrep
    obtain ⟨turns', hend⟩ := main_can_finish h hdone hrep
    exact ⟨turns', by rw [flown, run_append, hend]⟩

/-- Rationals, for one flight: a constant 100 m/s² at sea level. -/
local instance instCMathRat : CMath ℚ where
  toBEq := instBEqOfDecidableEq
  lt := (· < ·)
  decidableLT := inferInstance
  fabs x := |x|
  pow x _ := x
  sqrt x := if x = 10000 then 100 else x

/-- The IMU reports boost after 300 ms, and nothing happens until the flight's timer runs out. -/
def timedOut : List (Σ i, Reads ℚ i) :=
  [⟨.imu, (0, 0, 0)⟩, ⟨.barom, 101.325⟩, ⟨.imu, (0, 0, 0)⟩,
    ⟨.imu, (0, 0, 0)⟩, ⟨.imu, (0, 0, 0)⟩, ⟨.imu, (100, 0, 0)⟩, ⟨.imu, (0, 0, 0)⟩,
    ⟨.kernel, .elapse 300⟩,
    ⟨.imu, (0, 0, 0)⟩, ⟨.imu, (0, 0, 0)⟩, ⟨.imu, (100, 0, 0)⟩, ⟨.imu, (0, 0, 0)⟩,
    ⟨.imu, (0, 0, 0)⟩,
    ⟨.kernel, .elapse 350000⟩, ⟨.kernel, .expiry 3⟩,
    ⟨.barom, 101.325⟩, ⟨.barom, 101.325⟩, ⟨.barom, 101.325⟩]

/-- After that flight the log is never synced. -/
theorem main_waits_forever :
    ¬ ∃ turns', (flown ℚ (timedOut ++ turns')).locals .main = .done := by
  rw [main_finishes_iff ℚ timedOut (by decide +kernel)]
  decide +kernel

end Backplane.PhaseDetection
