import Backplane.SensorModule.Phases
import Backplane.SensorModule.Telemetry

/-!
# The tasks of the sensor module do not wait for each other

Results:
* `landed_drains`: after `GroundHit` a `Run` that is on its way measures once more, and what is on
  the paths runs dry.
* `isolated`: neither what the networking task does nor what the data logging task does shows in
  the flight's detection, or on the other one's path. The sockets and the file system answer alike
  in both runs; for a file transfer that is any file but the data log.
-/

namespace Backplane.SensorModule

open Backplane.Flight
open Backplane.Messaging
open Backplane.Net
open Backplane.Os
open Backplane.Run
open Backplane.Threads

/-! ## After landing -/

theorem continueCollecting_of_landed {D : Type} {h : CDetectionHandler D}
    (hland : h.Occured .groundHit) : h.continueCollecting = false := by
  unfold CDetectionHandler.continueCollecting
  rw [Bool.not_eq_false']
  exact hland

variable {R D : Type} [CDouble D] [CFloat R D] {floatBytes : R → Vector UInt8 sizeofFloat}
variable {BROADCAST_IP : UInt32} {socket : CUdpSocket} {p : SensorPort}

/-- The reading that a `Run` has set out to take. -/
def Sensing.due : Sensing → Nat
  | .collect => 1
  | _ => 0

/-- **A turn after landing** measures what is due at most. -/
theorem landed_step (w : Module D) (x : Σ t, Input R t)
    (h : w.shared.handler.Occured .groundHit) :
    let w' := (sensorTasks floatBytes BROADCAST_IP socket).step w x
    w'.shared.handler.Occured .groundHit ∧ ∃ new, w'.shared.measured = w.shared.measured ++ new ∧
      new.length + (w'.locals .sensing).due ≤ (w.locals .sensing).due := by
  have hkeep : ∀ w' : Module D, w'.shared.handler = w.shared.handler →
      w'.shared.measured = w.shared.measured →
      (w'.locals .sensing).due ≤ (w.locals .sensing).due →
      w'.shared.handler.Occured .groundHit ∧
        ∃ new, w'.shared.measured = w.shared.measured ++ new ∧
          new.length + (w'.locals .sensing).due ≤ (w.locals .sensing).due := by
    intro w' hhandler hmeasured hdue
    refine ⟨hhandler ▸ h, [], by rw [hmeasured, List.append_nil], ?_⟩
    rwa [List.length_nil, Nat.zero_add]
  rcases step_cases (p := sensorTasks floatBytes BROADCAST_IP socket) w x with heq | ⟨y, hy, heq⟩
  · rw [heq]
    exact hkeep w rfl rfl (Nat.le_refl _)
  rw [heq]
  obtain ⟨t, a⟩ := x
  cases t with
  | sensing =>
    cases hy
    show (sensingMove floatBytes a w.shared (w.locals .sensing)).1.handler.Occured .groundHit ∧
      ∃ new, (sensingMove floatBytes a w.shared (w.locals .sensing)).1.measured =
        w.shared.measured ++ new ∧ new.length +
          (sensingMove floatBytes a w.shared (w.locals .sensing)).2.due ≤ (w.locals .sensing).due
    cases hl : w.locals .sensing with
    | run =>
      rw [sensingMove, continueCollecting_of_landed h]
      exact ⟨h, [], (List.append_nil _).symm, Nat.le_refl _⟩
    | collect =>
      have hkept := (handleData_spec w.shared.handler a.uptime a.data.toSensorData
        a.workings).submits.occured h
      exact ⟨hkept, [a.data.image floatBytes], rfl, Nat.le_refl _⟩
    | sendBroadcast data => exact ⟨h, [], (List.append_nil _).symm, Nat.le_refl _⟩
    | sendLog data => exact ⟨h, [], (List.append_nil _).symm, Nat.le_refl _⟩
  | networking =>
    cases hy
    have hmoved := netMoved BROADCAST_IP socket a w.shared (w.locals .networking)
    exact hkeep _ hmoved.handler hmoved.measured (Nat.le_refl _)
  | dataLog => exact hkeep _ (logMoved hy).handler (logMoved hy).measured (Nat.le_refl _)
  | timers =>
    cases hy
    refine ⟨eventStates_step config _ (.expiry a.1 a.2) h, [], (List.append_nil _).symm, ?_⟩
    exact Nat.le_of_eq (Nat.zero_add _)

/-- After landing a path gains nothing but the reading that is due. -/
theorem landed_flow_step (w : Module D) (x : Σ t, Input R t)
    (h : w.shared.handler.Occured .groundHit) :
    (flow p ((sensorTasks floatBytes BROADCAST_IP socket).step w x)).length +
        (((sensorTasks floatBytes BROADCAST_IP socket).step w x).locals .sensing).due ≤
      (flow p w).length + (w.locals .sensing).due := by
  obtain ⟨-, new, hmeasured, hdue⟩ :
      ((sensorTasks floatBytes BROADCAST_IP socket).step w x).shared.handler.Occured .groundHit ∧
        ∃ new, ((sensorTasks floatBytes BROADCAST_IP socket).step w x).shared.measured =
          w.shared.measured ++ new ∧ new.length +
            (((sensorTasks floatBytes BROADCAST_IP socket).step w x).locals .sensing).due ≤
              (w.locals .sensing).due := landed_step w x h
  have hflow : (flow p ((sensorTasks floatBytes BROADCAST_IP socket).step w x)).length ≤
      (flow p w).length + new.length := by
    rcases flow_step p w x with ⟨-, before, message, after, hbefore, hafter, -⟩ |
      ⟨-, gained, hgained, hmeasured'⟩
    · rw [hbefore, hafter]
      simp only [List.length_append, List.length_cons]
      omega
    · cases List.append_cancel_left (hmeasured.symm.trans hmeasured')
      rw [hgained, List.length_append]
  exact Nat.le_trans (Nat.add_le_add_right hflow _) (by omega)

omit [CDouble D] in
/-- What is on a path and not passed on: one message in each hand, and those that wait. A reading
that is due has not been sent. -/
theorem length_flow_le (w : Module D) (hwaiting : (w.shared.waiting p).length ≤ 10) :
    (flow p w).length + (w.locals .sensing).due ≤ (w.shared.passedOn p).length + 12 := by
  have hheld : (held (w.locals .networking) (w.locals .dataLog) p).length ≤ 1 := by
    cases p with
    | broadcast =>
      unfold held
      cases w.locals .networking <;> simp [Networking.held]
    | dataLog =>
      unfold held
      cases w.locals .dataLog <;> simp [Logging.held]
  have hunsent : ((w.locals .sensing).unsent p).length + (w.locals .sensing).due ≤ 1 := by
    cases w.locals .sensing <;> cases p <;> simp [Sensing.unsent, Sensing.due]
  unfold flow
  simp only [List.length_append]
  omega

/-- **After landing the paths run dry.** Once `GroundHit` has occured nothing is measured any more,
except by a `Run` that has checked `ContinueCollecting` before it; and no more than twelve messages
leave a path. -/
theorem landed_drains (dataLog : List UInt8) (pre post : List (Σ t, Input R t))
    (h : (sensorRun (D := D) floatBytes BROADCAST_IP socket dataLog
      pre).shared.handler.Occured .groundHit) :
    let w := sensorRun (D := D) floatBytes BROADCAST_IP socket dataLog pre
    let w' := sensorRun (D := D) floatBytes BROADCAST_IP socket dataLog (pre ++ post)
    (∃ new, w'.shared.measured = w.shared.measured ++ new ∧
      new.length ≤ (w.locals .sensing).due) ∧
      ∀ p, (w'.shared.passedOn p).length ≤ (w.shared.passedOn p).length + 12 := by
  intro w w'
  have hrun : w' = run (sensorTasks floatBytes BROADCAST_IP socket).step w post :=
    run_append pre post
  have hpost : w'.shared.handler.Occured .groundHit ∧
      (∃ new, w'.shared.measured = w.shared.measured ++ new ∧
        new.length + (w'.locals .sensing).due ≤ (w.locals .sensing).due) ∧
      ∀ p, (flow p w').length + (w'.locals .sensing).due ≤
        (flow p w).length + (w.locals .sensing).due := by
    rw [hrun]
    refine run_preserves (P := fun v : Module D => v.shared.handler.Occured .groundHit ∧
      (∃ new, v.shared.measured = w.shared.measured ++ new ∧
        new.length + (v.locals .sensing).due ≤ (w.locals .sensing).due) ∧
      ∀ p, (flow p v).length + (v.locals .sensing).due ≤
        (flow p w).length + (w.locals .sensing).due) ?_ post
      ⟨h, ⟨[], (List.append_nil _).symm, Nat.le_of_eq (Nat.zero_add _)⟩, fun p => Nat.le_refl _⟩
    rintro v x ⟨hland, ⟨new, hmeasured, hdue⟩, hflow⟩
    obtain ⟨hland', new', hmeasured', hdue'⟩ := landed_step v x hland
    refine ⟨hland', ⟨new ++ new', ?_, ?_⟩,
      fun p => Nat.le_trans (landed_flow_step v x hland) (hflow p)⟩
    · rw [hmeasured', hmeasured, List.append_assoc]
    · rw [List.length_append]
      omega
  obtain ⟨-, ⟨new, hmeasured, hdue⟩, hflow⟩ := hpost
  refine ⟨⟨new, hmeasured, Nat.le_trans (Nat.le_add_right _ _) hdue⟩, fun p => ?_⟩
  have hdelivers : w.shared.Delivers dataLog := delivers_run dataLog pre
  calc (w'.shared.passedOn p).length
      ≤ (flow p w').length := by
        unfold flow
        simp only [List.append_assoc]
        exact (List.prefix_append _ _).length_le
    _ ≤ (flow p w').length + (w'.locals .sensing).due := Nat.le_add_right _ _
    _ ≤ (flow p w).length + (w.locals .sensing).due := hflow p
    _ ≤ (w.shared.passedOn p).length + 12 := length_flow_le w (hdelivers.waiting p)

/-- A `Run` at sea level with this acceleration. -/
def seaLevelTurns (uptime : UInt64) (g : Rat) : List (Σ t, Input Rat t) :=
  let data : FullSensorData Rat :=
    { toSensorData := seaLevelReading g
      imuGyroscope := ⟨0, 0, 0⟩
      magnetometer := ⟨0, 0, 0⟩
      temperature := ⟨20⟩ }
  List.replicate 4 ⟨.sensing, ⟨uptime, data, allOk⟩⟩

/-- Boost, and the expiry of the timer for the whole flight. -/
def shortFlight : List (Σ t, Input Rat t) :=
  seaLevelTurns 0 60 ++ seaLevelTurns 251 60 ++ [⟨.timers, (350251, 1)⟩]

theorem landed_drains_shortFlight :
    let w := sensorRun (D := Rat) (fun _ => Vector.replicate _ 0) 0 {} [] shortFlight
    w.shared.handler.Occured .groundHit ∧
      let w' := sensorRun (D := Rat) (fun _ => Vector.replicate _ 0) 0 {} []
        (shortFlight ++ seaLevelTurns 350300 60)
      ∃ new, w'.shared.measured = w.shared.measured ++ new ∧
        new.length ≤ (w.locals .sensing).due := by
  have hland : (sensorRun (D := Rat) (fun _ => Vector.replicate _ 0) 0 {} []
      shortFlight).shared.handler.Occured .groundHit := by decide +kernel
  exact ⟨hland, (landed_drains [] shortFlight (seaLevelTurns 350300 60) hland).1⟩

/-! ## Noninterference -/

/-- The sensing task with the queue of a path: the detection, what was measured, and what waits. -/
def sourceView (p : SensorPort) (w : Module D) :
    CDetectionHandler D × List Message × List Message × Sensing :=
  (w.shared.handler, w.shared.measured, w.shared.waiting p, w.locals .sensing)

/-- What the networking task has sent, and where it stands. -/
def netView (w : Module D) : Net.Program × List Message × Networking :=
  (w.shared.net, w.shared.broadcast, w.locals .networking)

/-- What the data logging task has written, and where it stands. -/
def logView (w : Module D) : Datalogger × List Message × List UInt8 × Logging :=
  (w.shared.dataLogger, w.shared.logged, w.shared.written, w.locals .dataLog)

variable {w w' : Module D}

omit [CDouble D] in
theorem sourceView_eq_iff : sourceView p w = sourceView p w' ↔
    w.shared.handler = w'.shared.handler ∧ w.shared.measured = w'.shared.measured ∧
      w.shared.waiting p = w'.shared.waiting p ∧ w.locals .sensing = w'.locals .sensing := by
  unfold sourceView
  simp only [Prod.mk.injEq]

omit [CDouble D] in
theorem netView_eq_iff : netView w = netView w' ↔ w.shared.net = w'.shared.net ∧
    w.shared.broadcast = w'.shared.broadcast ∧
      w.locals .networking = w'.locals .networking := by
  unfold netView
  simp only [Prod.mk.injEq]

omit [CDouble D] in
theorem logView_eq_iff : logView w = logView w' ↔ w.shared.dataLogger = w'.shared.dataLogger ∧
    w.shared.logged = w'.shared.logged ∧ w.shared.written = w'.shared.written ∧
      w.locals .dataLog = w'.locals .dataLog := by
  unfold logView
  simp only [Prod.mk.injEq]

omit [CDouble D] in
theorem send_waiting_congr {s s' : Board D} (q : SensorPort) (data : Message)
    (h : s.waiting p = s'.waiting p) : (s.send q data).waiting p = (s'.send q data).waiting p := by
  rw [send_waiting, send_waiting, h]
  by_cases hq : p = q
  · subst hq
    have hroom : s.Room p ↔ s'.Room p := by
      unfold Board.Room
      rw [h]
    by_cases hr : s'.Room p
    · rw [if_pos ⟨rfl, hroom.mpr hr⟩, if_pos ⟨rfl, hr⟩]
    · rw [if_neg fun hp => hr (hroom.mp hp.2), if_neg fun hp => hr hp.2]
  · rw [if_neg fun hp => hq hp.1, if_neg fun hp => hq hp.1]

/-- A turn of the sensing task is the same for the same view. -/
theorem sourceView_sensing (a : Sample R) (h : sourceView p w = sourceView p w') :
    sourceView p ((sensorTasks floatBytes BROADCAST_IP socket).step w ⟨.sensing, a⟩) =
      sourceView p ((sensorTasks floatBytes BROADCAST_IP socket).step w' ⟨.sensing, a⟩) := by
  obtain ⟨hhandler, hmeasured, hwaiting, hsensing⟩ := sourceView_eq_iff.mp h
  have hmove : ∀ v : Module D, sourceView p
      ((sensorTasks floatBytes BROADCAST_IP socket).step v ⟨.sensing, a⟩) =
        let y := sensingMove floatBytes a v.shared (v.locals .sensing)
        (y.1.handler, y.1.measured, y.1.waiting p, y.2) := fun _ => rfl
  rw [hmove, hmove, ← hsensing]
  cases w.locals .sensing with
  | run =>
    simp only [sensingMove, hhandler]
    split
    · simp only [Prod.mk.injEq]
      exact ⟨hhandler, hmeasured, hwaiting, trivial⟩
    · simp only [Prod.mk.injEq]
      exact ⟨hhandler, hmeasured, hwaiting, trivial⟩
  | collect =>
    simp only [sensingMove, hhandler, hmeasured, Prod.mk.injEq]
    exact ⟨trivial, trivial, hwaiting, trivial⟩
  | sendBroadcast data =>
    have hsend := send_waiting_congr .broadcast data hwaiting
    simp only [sensingMove, Prod.mk.injEq]
    exact ⟨hhandler, hmeasured, hsend, trivial⟩
  | sendLog data =>
    have hsend := send_waiting_congr .dataLog data hwaiting
    simp only [sensingMove, Prod.mk.injEq]
    exact ⟨hhandler, hmeasured, hsend, trivial⟩

/-- The sensing task leaves the consumers' sides as they are. -/
theorem views_sensing (a : Sample R) :
    let v := (sensorTasks floatBytes BROADCAST_IP socket).step w ⟨.sensing, a⟩
    netView v = netView w ∧ logView v = logView w := by
  have hmoved := sensingMoved floatBytes a w.shared (w.locals .sensing)
  exact ⟨netView_eq_iff.mpr ⟨hmoved.net, hmoved.broadcast, rfl⟩,
    logView_eq_iff.mpr ⟨hmoved.dataLogger, hmoved.logged, hmoved.written, rfl⟩⟩

/-- The networking task leaves the source and the log path as they are. -/
theorem views_networking (a : NetInput) :
    let v := (sensorTasks floatBytes BROADCAST_IP socket).step w ⟨.networking, a⟩
    sourceView .dataLog v = sourceView .dataLog w ∧ logView v = logView w := by
  have hmoved := netMoved BROADCAST_IP socket a w.shared (w.locals .networking)
  exact ⟨sourceView_eq_iff.mpr ⟨hmoved.handler, hmoved.measured, hmoved.waiting, rfl⟩,
    logView_eq_iff.mpr ⟨hmoved.dataLogger, hmoved.logged, hmoved.written, rfl⟩⟩

/-- The data logging task leaves the source and the broadcast path as they are. -/
theorem views_dataLog (a : FsAnswers) :
    let v := (sensorTasks floatBytes BROADCAST_IP socket).step w ⟨.dataLog, a⟩
    sourceView .broadcast v = sourceView .broadcast w ∧ netView v = netView w := by
  rcases step_cases (p := sensorTasks floatBytes BROADCAST_IP socket) w ⟨.dataLog, a⟩ with
    heq | ⟨y, hy, heq⟩
  · rw [heq]
    exact ⟨rfl, rfl⟩
  · have hmoved := logMoved hy
    rw [heq]
    exact ⟨sourceView_eq_iff.mpr ⟨hmoved.handler, hmoved.measured, hmoved.waiting, rfl⟩,
      netView_eq_iff.mpr ⟨hmoved.net, hmoved.broadcast, rfl⟩⟩

omit [CDouble D] in
/-- A `Receive` from the same queue: the same message, and the same queue after it. -/
theorem receive_congr {s s' : Board D} (h : s.waiting p = s'.waiting p) :
    (s.receive p = none ∧ s'.receive p = none) ∨ ∃ message t t',
      s.receive p = some (message, t) ∧ s'.receive p = some (message, t') ∧
        Received p message s t ∧ Received p message s' t' ∧ t.waiting p = t'.waiting p := by
  cases hs : s.receive p with
  | none => exact .inl ⟨rfl, receive_eq_none.mpr (h ▸ receive_eq_none.mp hs)⟩
  | some result =>
    obtain ⟨message, t⟩ := result
    have hr := received_of_receive hs
    cases hs' : s'.receive p with
    | none =>
      have hnil := h.trans (receive_eq_none.mp hs')
      exact absurd (hr.waiting.symm.trans hnil) (List.cons_ne_nil _ _)
    | some result' =>
      obtain ⟨message', t'⟩ := result'
      have hr' := received_of_receive hs'
      obtain ⟨rfl, htail⟩ := List.cons.inj (hr.waiting.symm.trans (h.trans hr'.waiting))
      exact .inr ⟨message, t, t', rfl, rfl, hr, hr', htail⟩

omit [CDouble D] in
theorem tftpRun_congr {s s' : Board D} (a : NetInput) (h : s.net = s'.net) : ∃ net n,
    s.tftpRun BROADCAST_IP a = ({ s with net := net }, n) ∧
      s'.tftpRun BROADCAST_IP a = ({ s' with net := net }, n) := by
  unfold Board.tftpRun
  split
  · exact ⟨s.net, _, rfl, by rw [h]⟩
  · exact ⟨s.net, _, rfl, by rw [h]⟩
  · simp only
    split
    · exact ⟨_, _, rfl, by rw [h]; rfl⟩
    · exact ⟨s.net, _, rfl, by rw [h]⟩

/-- The broadcast path, from its source to its end. -/
def broadcastSide (w w' : Module D) : Prop :=
  sourceView .broadcast w = sourceView .broadcast w' ∧ netView w = netView w'

/-- The log path, from its source to its end. -/
def logSide (w w' : Module D) : Prop :=
  sourceView .dataLog w = sourceView .dataLog w' ∧ logView w = logView w'

theorem broadcastSide_networking (a : NetInput) (h : broadcastSide w w') :
    broadcastSide ((sensorTasks floatBytes BROADCAST_IP socket).step w ⟨.networking, a⟩)
      ((sensorTasks floatBytes BROADCAST_IP socket).step w' ⟨.networking, a⟩) := by
  obtain ⟨hhandler, hmeasured, hwaiting, hsensing⟩ := sourceView_eq_iff.mp h.1
  obtain ⟨hnet, hbroadcast, hlocal⟩ := netView_eq_iff.mp h.2
  have hmoved : ∀ y y' : Board D × Networking, y.1.handler = y'.1.handler →
      y.1.measured = y'.1.measured → y.1.waiting .broadcast = y'.1.waiting .broadcast →
      y.1.net = y'.1.net → y.1.broadcast = y'.1.broadcast → y.2 = y'.2 →
      broadcastSide (w.moved .networking y) (w'.moved .networking y') :=
    fun y y' h₁ h₂ h₃ h₄ h₅ h₆ => ⟨sourceView_eq_iff.mpr ⟨h₁, h₂, h₃, hsensing⟩,
      netView_eq_iff.mpr ⟨h₄, h₅, h₆⟩⟩
  show broadcastSide
    (w.moved .networking (networkingMove BROADCAST_IP socket a w.shared (w.locals .networking)))
    (w'.moved .networking (networkingMove BROADCAST_IP socket a w'.shared (w'.locals .networking)))
  rw [← hlocal]
  cases w.locals .networking with
  | receive =>
    rw [networkingMove, networkingMove]
    rcases receive_congr hwaiting with ⟨hnone, hnone'⟩ |
      ⟨message, t, t', hsome, hsome', hr, hr', htail⟩
    · rw [hnone, hnone']
      exact hmoved _ _ hhandler hmeasured hwaiting hnet hbroadcast rfl
    · obtain ⟨ports, rfl⟩ := hr.frame
      obtain ⟨ports', rfl⟩ := hr'.frame
      rw [hsome, hsome']
      exact hmoved _ _ hhandler hmeasured htail hnet hbroadcast rfl
  | transmit message =>
    rw [networkingMove, networkingMove, ← hnet, ← hbroadcast]
    exact hmoved _ _ hhandler hmeasured hwaiting rfl rfl rfl
  | tftp =>
    obtain ⟨net, n, hrun, hrun'⟩ : ∃ net n,
        w.shared.tftpRun BROADCAST_IP a = ({ w.shared with net := net }, n) ∧
          w'.shared.tftpRun BROADCAST_IP a = ({ w'.shared with net := net }, n) :=
      tftpRun_congr a hnet
    rw [networkingMove, networkingMove, hrun, hrun']
    exact hmoved _ _ hhandler hmeasured hwaiting rfl hbroadcast rfl
  | waitForAck session =>
    rw [networkingMove, networkingMove]
    refine hmoved _ _ hhandler hmeasured hwaiting ?_ hbroadcast rfl
    exact congrArg (fun net => transmitAll BROADCAST_IP _ net a.fcntl a.sendto _) hnet

theorem logSide_dataLog (a : FsAnswers) (h : logSide w w') :
    logSide ((sensorTasks floatBytes BROADCAST_IP socket).step w ⟨.dataLog, a⟩)
      ((sensorTasks floatBytes BROADCAST_IP socket).step w' ⟨.dataLog, a⟩) := by
  obtain ⟨hhandler, hmeasured, hwaiting, hsensing⟩ := sourceView_eq_iff.mp h.1
  obtain ⟨hlogger, hlogged, hwritten, hlocal⟩ := logView_eq_iff.mp h.2
  have hmoved : ∀ y y' : Board D × Logging, y.1.handler = y'.1.handler →
      y.1.measured = y'.1.measured → y.1.waiting .dataLog = y'.1.waiting .dataLog →
      y.1.dataLogger = y'.1.dataLogger → y.1.logged = y'.1.logged →
      y.1.written = y'.1.written → y.2 = y'.2 →
      logSide (w.moved .dataLog y) (w'.moved .dataLog y') :=
    fun y y' h₁ h₂ h₃ h₄ h₅ h₆ h₇ => ⟨sourceView_eq_iff.mpr ⟨h₁, h₂, h₃, hsensing⟩,
      logView_eq_iff.mpr ⟨h₄, h₅, h₆, h₇⟩⟩
  simp only [Threads.Program.step, sensorTasks, ← hlocal]
  cases w.locals .dataLog with
  | receive =>
    rw [dataLogMove, dataLogMove]
    rcases receive_congr hwaiting with ⟨hnone, hnone'⟩ |
      ⟨message, t, t', hsome, hsome', hr, hr', htail⟩
    · rw [hnone, hnone']
      exact h
    · obtain ⟨ports, rfl⟩ := hr.frame
      obtain ⟨ports', rfl⟩ := hr'.frame
      rw [hsome, hsome']
      exact hmoved _ _ hhandler hmeasured htail hlogger hlogged hwritten rfl
  | write message =>
    rw [dataLogMove, dataLogMove, Board.store, Board.store, ← hlogger, ← hlogged, ← hwritten]
    exact hmoved _ _ hhandler hmeasured hwaiting rfl rfl rfl rfl

theorem sourceView_timers (a : Nat × Fin numTimerEvents) :
    let v := (sensorTasks floatBytes BROADCAST_IP socket).step w ⟨.timers, a⟩
    let v' := (sensorTasks floatBytes BROADCAST_IP socket).step w' ⟨.timers, a⟩
    sourceView p w = sourceView p w' → sourceView p v = sourceView p v' := by
  intro v v' h
  obtain ⟨hhandler, hmeasured, hwaiting, hsensing⟩ := sourceView_eq_iff.mp h
  refine sourceView_eq_iff.mpr ⟨?_, hmeasured, hwaiting, hsensing⟩
  show (w.shared.expire a.1 a.2).handler = (w'.shared.expire a.1 a.2).handler
  unfold Board.expire
  rw [hhandler]

/-- **The consumers disturb nothing.** However the data logging task runs, or does not, detection
and broadcasts come out the same, and so do the transfers of files that it does not write; however
the networking task runs, detection and the data log do. -/
theorem isolated (dataLog : List UInt8) (turns : List (Σ t, Input R t)) :
    let after := sensorRun (D := D) floatBytes BROADCAST_IP socket dataLog
    broadcastSide (after turns) (after (turns.filter fun x => x.1 ≠ .dataLog)) ∧
      logSide (after turns) (after (turns.filter fun x => x.1 ≠ .networking)) := by
  constructor
  · refine run_without (p := sensorTasks floatBytes BROADCAST_IP socket) (R := broadcastSide)
      (fun w w' a h => ?_) (fun w w' x hx h => ?_) turns
      ⟨rfl, rfl⟩
    · exact ⟨(views_dataLog a).1.trans h.1, (views_dataLog a).2.trans h.2⟩
    · obtain ⟨t, a⟩ := x
      cases t with
      | sensing =>
        exact ⟨sourceView_sensing a h.1,
          (views_sensing a).1.trans (h.2.trans (views_sensing a).1.symm)⟩
      | networking => exact broadcastSide_networking a h
      | dataLog => exact absurd rfl hx
      | timers =>
        exact ⟨sourceView_timers a h.1, h.2⟩
  · refine run_without (p := sensorTasks floatBytes BROADCAST_IP socket) (R := logSide)
      (fun w w' a h => ?_) (fun w w' x hx h => ?_) turns
      ⟨rfl, rfl⟩
    · exact ⟨(views_networking a).1.trans h.1, (views_networking a).2.trans h.2⟩
    · obtain ⟨t, a⟩ := x
      cases t with
      | sensing =>
        exact ⟨sourceView_sensing a h.1,
          (views_sensing a).2.trans (h.2.trans (views_sensing a).2.symm)⟩
      | networking => exact absurd rfl hx
      | dataLog => exact logSide_dataLog a h
      | timers =>
        exact ⟨sourceView_timers a h.1, h.2⟩

end Backplane.SensorModule
