import Backplane.General.Transitions
import Backplane.Radio.Receive

/-!
# Requests for data on the pad

The flags of `padDataRequestedMap` over any order of the `PadRun`s of the two LoRa tenants and of
messages arriving on the transmit queue, from `Startup` on. A step that oopses ends the run.

`PadRun` of the transmit tenant clears a flag after `transmit`, which sends nothing for an empty
message; before the first message for a port the map holds an empty placeholder.

Results:
* `padRun_sends`: the outputs of `PadRun` are its frames, handed to `TransmitSynchronous`.
* `padRun_flags`: `PadRun` clears every flag that is set.
* `padFrame_flags`: the receive tenant clears none.
* `answered_iff`: the runs in which no request is forgotten before it is answered.
* `answered_fails`: a request before the first message.
-/

namespace Backplane.Radio

open Backplane.FoldM
open Backplane.Transitions
open Backplane.Utils

/-! ## What is handed to the modem -/

/-- The frame of a message: its port and its payload. -/
def loraFrame (m : RadioBroadcastData) : List UInt8 :=
  littleEndian m.port ++ m.data.toList.take m.size.toNat

/-- The frames that `transmit` hands to `TransmitSynchronous`, where it does not oops. -/
def transmitFrames (m : RadioBroadcastData) : List (List UInt8) :=
  if m.size = 0 then [] else [loraFrame m]

/-- `TransmitSynchronous` of one frame after another. -/
def CLora.transmitAll (lora : CLora) (env : Answers) (frames : List (List UInt8)) :
    CLora × List Output :=
  frames.foldl (fun acc frame =>
    ((acc.1.transmitSynchronous env frame).1,
      acc.2 ++ (acc.1.transmitSynchronous env frame).2)) (lora, [])

/-- The message that is stored for a port. -/
def CLoraTransmitTenant.stored (t : CLoraTransmitTenant) (port : UInt16) : RadioBroadcastData :=
  (t.portDataMap.get port).getD .zero

/-- `PadRun` up to its loop. -/
def CLoraTransmitTenant.padStored (t : CLoraTransmitTenant) : CLoraTransmitTenant :=
  let rxData := t.readTransmitQueue.2.getD .zero
  { t.readTransmitQueue.1 with
    portDataMap := (t.readTransmitQueue.1.portDataMap.set rxData.port rxData).1 }

/-- The ports and flags that the loop of `PadRun` goes through. -/
def CLoraTransmitTenant.requests (t : CLoraTransmitTenant) : List (UInt16 × Bool) :=
  t.padDataRequestedMap.map.entries.map fun e => (e.1, e.2)

/-- The frames handed over for one port of the loop. -/
def CLoraTransmitTenant.requestFrames (t : CLoraTransmitTenant) (entry : UInt16 × Bool) :
    List (List UInt8) :=
  if entry.2 ∧ entry.1 ≠ 0 then transmitFrames (t.stored entry.1) else []

/-- The frames that a `PadRun` hands to `TransmitSynchronous`. -/
def CLoraTransmitTenant.padFrames (t : CLoraTransmitTenant) : List (List UInt8) :=
  t.requests.flatMap t.padStored.requestFrames

theorem padRun_eq (t : CLoraTransmitTenant) (env : Answers) :
    t.padRun env =
      t.requests.foldlM (CLoraTransmitTenant.serveRequest env) (t.padStored, []) := rfl

theorem transmitAll_append (lora : CLora) (env : Answers) (l l' : List (List UInt8)) :
    lora.transmitAll env (l ++ l') =
      (((lora.transmitAll env l).1.transmitAll env l').1,
        (lora.transmitAll env l).2 ++ ((lora.transmitAll env l).1.transmitAll env l').2) := by
  induction l' using List.reverseRecOn with
  | nil => simp [CLora.transmitAll]
  | append_singleton l' frame ih =>
    unfold CLora.transmitAll at ih ⊢
    rw [← List.append_assoc, List.foldl_concat, List.foldl_concat, ih, List.append_assoc]

/-- **What `transmit` does**, where it does not oops. -/
theorem transmit_sends {t : CLoraTransmitTenant} {env : Answers} {data : RadioBroadcastData}
    {r : CLoraTransmitTenant × List Output} (h : t.transmit env data = .ok r) :
    r = ({ t with lora := (t.lora.transmitAll env (transmitFrames data)).1 },
      (t.lora.transmitAll env (transmitFrames data)).2) := by
  unfold CLoraTransmitTenant.transmit at h
  unfold transmitFrames
  split at h
  · cases h
  · split at h
    · rename_i hzero
      cases h
      rw [if_pos hzero]
      rfl
    · rename_i hsize
      cases h
      rw [if_neg hsize]
      rfl

/-! ## The loop of `PadRun` -/

/-- The loop over `l` leads from `acc` to `acc'`. -/
structure Served (env : Answers) (l : List (UInt16 × Bool))
    (acc acc' : CLoraTransmitTenant × List Output) : Prop where
  data : acc'.1.portDataMap = acc.1.portDataMap
  lora : acc'.1.lora = (acc.1.lora.transmitAll env (l.flatMap acc.1.requestFrames)).1
  sent : acc'.2 = acc.2 ++ (acc.1.lora.transmitAll env (l.flatMap acc.1.requestFrames)).2
  flags : ∀ p, acc'.1.padDataRequestedMap.get p =
    if p ≠ 0 ∧ (p, true) ∈ l then some false else acc.1.padDataRequestedMap.get p

theorem Served.refl (env : Answers) (acc : CLoraTransmitTenant × List Output) :
    Served env [] acc acc where
  data := rfl
  lora := rfl
  sent := (List.append_nil _).symm
  flags _ := (if_neg fun h => List.not_mem_nil h.2).symm

/-- A port that is not requested, or zero, is passed over. -/
theorem Served.skip (env : Answers) {acc : CLoraTransmitTenant × List Output}
    {entry : UInt16 × Bool} (h : ¬ (entry.2 ∧ entry.1 ≠ 0)) : Served env [entry] acc acc := by
  have hframes : [entry].flatMap acc.1.requestFrames = [] := by
    rw [List.flatMap_singleton]
    exact if_neg h
  refine ⟨rfl, ?_, ?_, fun p => ?_⟩
  · rw [hframes]
    rfl
  · rw [hframes]
    exact (List.append_nil _).symm
  · rw [if_neg]
    rintro ⟨hp, hmem⟩
    cases List.mem_singleton.mp hmem
    exact h ⟨rfl, hp⟩

/-- One port of the loop. -/
theorem serveRequest_served {env : Answers} {entry : UInt16 × Bool}
    {acc acc' : CLoraTransmitTenant × List Output}
    (h : CLoraTransmitTenant.serveRequest env acc entry = .ok acc') :
    Served env [entry] acc acc' := by
  obtain ⟨port, flag⟩ := entry
  rcases serveRequest_ok.mp h with
    ⟨hskip, rfl⟩ | ⟨⟨hflag, hport⟩, sent, requested, hsent, hassign, rfl⟩
  · exact Served.skip env hskip
  · cases hflag
    have hframes : [(port, true)].flatMap acc.1.requestFrames =
        transmitFrames (acc.1.stored port) := by
      rw [List.flatMap_singleton]
      exact if_pos ⟨rfl, hport⟩
    rw [transmit_sends hsent] at hassign ⊢
    refine ⟨rfl, ?_, ?_, fun p => ?_⟩
    · rw [hframes]
      rfl
    · rw [hframes]
      rfl
    · show requested.get p = _
      rw [get_assign hassign]
      refine if_congr ?_ rfl rfl
      constructor
      · rintro rfl
        exact ⟨hport, List.mem_singleton_self _⟩
      · rintro ⟨-, hmem⟩
        cases List.mem_singleton.mp hmem
        rfl

theorem Served.trans {env : Answers} {l l' : List (UInt16 × Bool)}
    {acc acc' acc'' : CLoraTransmitTenant × List Output} (h : Served env l acc acc')
    (h' : Served env l' acc' acc'') : Served env (l ++ l') acc acc'' := by
  have hframes : acc'.1.requestFrames = acc.1.requestFrames := by
    funext entry
    unfold CLoraTransmitTenant.requestFrames CLoraTransmitTenant.stored
    rw [h.data]
  refine ⟨h'.data.trans h.data, ?_, ?_, fun p => ?_⟩
  · rw [h'.lora, hframes, h.lora, List.flatMap_append, transmitAll_append]
  · rw [h'.sent, hframes, h.lora, h.sent, List.flatMap_append, transmitAll_append,
      List.append_assoc]
  · rw [h'.flags, h.flags]
    by_cases hp : p = 0
    · simp [hp]
    · by_cases hl : (p, true) ∈ l <;> by_cases hl' : (p, true) ∈ l' <;> simp [hp, hl, hl']

/-- **The whole loop.** -/
theorem foldlM_served {env : Answers} {l : List (UInt16 × Bool)}
    {acc acc' : CLoraTransmitTenant × List Output}
    (h : l.foldlM (CLoraTransmitTenant.serveRequest env) acc = .ok acc') :
    Served env l acc acc' := by
  induction l generalizing acc with
  | nil =>
    cases h
    exact Served.refl ..
  | cons entry l ih =>
    obtain ⟨mid, hmid, hrest⟩ := foldlM_cons_ok.mp h
    exact (serveRequest_served hmid).trans (ih hrest)

/-- **What `PadRun` sends**: its frames, handed to the modem in turn. -/
theorem padRun_sends {t : CLoraTransmitTenant} {env : Answers}
    {r : CLoraTransmitTenant × List Output} (h : t.padRun env = .ok r) :
    (r.1.lora, r.2) = t.lora.transmitAll env t.padFrames := by
  rw [padRun_eq] at h
  have hserved := foldlM_served h
  rw [hserved.lora, hserved.sent]
  rfl

theorem mem_requests {t : CLoraTransmitTenant} {port : UInt16} {requested : Bool} :
    (port, requested) ∈ t.requests ↔ t.padDataRequestedMap.get port = some requested := by
  have hlookup : Sigma.mk port requested ∈ t.padDataRequestedMap.map.entries ↔
      t.padDataRequestedMap.get port = some requested := AList.mem_lookup_iff.symm
  unfold CLoraTransmitTenant.requests
  rw [List.mem_map, ← hlookup]
  constructor
  · rintro ⟨⟨a, b⟩, hmem, heq⟩
    cases heq
    exact hmem
  · exact fun hmem => ⟨⟨port, requested⟩, hmem, rfl⟩

/-- **`PadRun` clears every flag that is set**, and leaves the others. -/
theorem padRun_flags {t : CLoraTransmitTenant} {env : Answers}
    {r : CLoraTransmitTenant × List Output} (h : t.padRun env = .ok r) (p : UInt16) :
    r.1.padDataRequestedMap.get p =
      if p ≠ 0 ∧ t.padDataRequestedMap.get p = some true then some false
      else t.padDataRequestedMap.get p := by
  rw [padRun_eq] at h
  have hflags := (foldlM_served h).flags p
  simp only [mem_requests] at hflags
  exact hflags

/-- `PadRun` keeps what it has stored. -/
theorem padRun_data {t : CLoraTransmitTenant} {env : Answers}
    {r : CLoraTransmitTenant × List Output} (h : t.padRun env = .ok r) :
    r.1.portDataMap = t.padStored.portDataMap := by
  rw [padRun_eq] at h
  exact (foldlM_served h).data

/-! ## The receive tenant -/

/-- The stored messages and the set flags of `t` are still there in `t'`. -/
structure KeepsRequests (t t' : CLoraTransmitTenant) : Prop where
  data : t'.portDataMap = t.portDataMap
  keys : t'.padDataRequestedMap.map.keys = t.padDataRequestedMap.map.keys
  flags : ∀ p, t.padDataRequestedMap.get p = some true → t'.padDataRequestedMap.get p = some true

theorem KeepsRequests.refl (t : CLoraTransmitTenant) : KeepsRequests t t := ⟨rfl, rfl, fun _ h => h⟩

theorem requestPort_flags {buffer : Vector UInt8 255} {m m' : CHashMap UInt16 Bool} {i : Nat}
    (h : requestPort buffer m i = .ok m') (p : UInt16) (hp : m.get p = some true) :
    m'.get p = some true := by
  unfold requestPort at h
  split at h
  · rw [get_assign h]
    split
    · rfl
    · exact hp
  · cases h

theorem requestPorts_flags {buffer : Vector UInt8 255} {rxSize : Nat}
    {m m' : CHashMap UInt16 Bool} (h : requestPorts buffer rxSize m = .ok m') (p : UInt16)
    (hp : m.get p = some true) : m'.get p = some true :=
  foldlM_preserves (P := fun c : CHashMap UInt16 Bool => c.get p = some true)
    (fun _ _ _ hm hs => requestPort_flags hs p hm) hp h

/-- **The receive tenant clears no flag.** -/
theorem padFrame_flags {t : CLoraReceiveTenant} {env : Answers} {rx : Received}
    {r : CLoraReceiveTenant × List Output} (h : t.padFrame env rx = .ok r) :
    KeepsRequests t.loraTransmitTenant r.1.loraTransmitTenant := by
  unfold CLoraReceiveTenant.padFrame at h
  split at h
  · cases h
    exact KeepsRequests.refl _
  split at h
  · split at h
    · simp only at h
      split at h
      · cases h
      · rename_i lt sent hsent
        cases h
        rw [(Prod.mk.inj (transmit_sends hsent)).1]
        exact ⟨rfl, rfl, fun _ hp => hp⟩
    split at h
    · split at h
      · cases h
      · rename_i m hm
        cases h
        exact ⟨rfl, requestPorts_keys hm, requestPorts_flags hm⟩
    · split at h
      · cases h
      · cases h
        exact KeepsRequests.refl _
  · cases h
    exact KeepsRequests.refl _

theorem receive_padRun_flags {t : CLoraReceiveTenant} {env : Answers}
    {r : CLoraReceiveTenant × List Output} (h : t.padRun env = .ok r) :
    KeepsRequests t.loraTransmitTenant r.1.loraTransmitTenant := by
  obtain ⟨hdata, hkeys, hflags⟩ := padFrame_flags h
  have hsame : (t.receive env).1.loraTransmitTenant =
      { t.loraTransmitTenant with
        lora := (t.loraTransmitTenant.lora.receiveSynchronous env).1 } := by
    unfold CLoraReceiveTenant.receive
    simp only
    split <;> rfl
  rw [hsame] at hdata hkeys hflags
  exact ⟨hdata, hkeys, hflags⟩

/-! ## Runs on the pad -/

/-- A step on the pad: a message is sent to the transmit queue, or one of the tenants runs. -/
inductive PadStep
  | arrives (message : RadioBroadcastData)
  | transmitRun (env : Answers)
  | receiveRun (env : Answers)

/-- The tenants, and the message most recently dequeued for each port. -/
structure PadHistory where
  tenant : CLoraReceiveTenant
  last : UInt16 → Option RadioBroadcastData

namespace PadHistory

/-- The transmit tenant. -/
def transmitTenant (h : PadHistory) : CLoraTransmitTenant := h.tenant.loraTransmitTenant

/-- The flag of a port is set. -/
def Requested (h : PadHistory) (port : UInt16) : Prop :=
  h.transmitTenant.padDataRequestedMap.get port = some true

/-- The message most recently dequeued for each port once `PadRun` has read the queue. -/
def newest (h : PadHistory) : UInt16 → Option RadioBroadcastData :=
  match h.transmitTenant.readTransmitQueue.2 with
  | some message => Function.update h.last message.port (some message)
  | none => h.last

/-- With this transmit tenant. -/
def withTransmit (h : PadHistory) (t : CLoraTransmitTenant) : PadHistory :=
  { h with tenant := { h.tenant with loraTransmitTenant := t } }

/-- One step. -/
def step (h : PadHistory) : PadStep → Except Fault PadHistory
  | .arrives message =>
    .ok (h.withTransmit { h.transmitTenant with
      loraTransmitPort := (MessagePort.send h.transmitTenant.loraTransmitPort message).1 })
  | .transmitRun env =>
    match h.transmitTenant.padRun env with
    | .error e => .error e.fault
    | .ok r => .ok { h.withTransmit r.1 with last := h.newest }
  | .receiveRun env =>
    match h.tenant.padRun env with
    | .error e => .error e.fault
    | .ok r => .ok { h with tenant := r.1 }

end PadHistory

/-- The steps that are made, of those given, from `Startup` on. -/
def padSteps (steps : List PadStep) : List (Transition PadHistory PadStep) :=
  match CLoraReceiveTenant.started with
  | .error _ => []
  | .ok t => transitions PadHistory.step { tenant := t, last := fun _ => none } steps

/-- **A request is answered before it is forgotten**: a step that clears a flag hands over a frame
with the port's newest message, and without one the flag stays. -/
structure Answered (t : Transition PadHistory PadStep) : Prop where
  handed : ∀ p, t.before.Requested p → ¬ t.after.Requested p →
    ∃ env message, t.input = .transmitRun env ∧ t.after.last p = some message ∧
      message.port = p ∧ loraFrame message ∈ t.before.transmitTenant.padFrames
  pending : ∀ p, t.before.Requested p → t.after.last p = none → t.after.Requested p

/-! ## What is stored -/

/-- What the maps hold on the pad: each listened port has its newest message, or the placeholder
before the first. -/
structure PadInv (h : PadHistory) : Prop where
  dataKeys : ∀ p, p ∈ h.transmitTenant.portDataMap.map.keys ↔ p ∈ padPorts
  requestKeys : ∀ p, p ∈ h.transmitTenant.padDataRequestedMap.map.keys ↔ p ∈ padPorts
  stored : ∀ p ∈ padPorts, h.transmitTenant.stored p = (h.last p).getD .zero
  port : ∀ p message, h.last p = some message → message.port = p

/-- A flag is set for listened ports only. -/
theorem PadInv.mem_padPorts {h : PadHistory} (hinv : PadInv h) {p : UInt16}
    (hp : h.Requested p) : p ∈ padPorts := by
  have hmem : p ∈ h.transmitTenant.padDataRequestedMap.map :=
    AList.lookup_isSome.mp (Option.isSome_iff_exists.mpr ⟨true, hp⟩)
  exact (hinv.requestKeys p).mp hmem

theorem ne_zero_of_mem_padPorts {p : UInt16} (h : p ∈ padPorts) : p ≠ 0 := by
  rintro rfl
  exact absurd h (by decide)

/-- `Insert` adds nothing but its value. -/
theorem get_insert {m : CHashMap UInt16 RadioBroadcastData} {main : Bool} {key : UInt16}
    {value : RadioBroadcastData} {r : CHashMap UInt16 RadioBroadcastData × Bool}
    (h : m.insert main key value = .ok r) {p : UInt16} {message : RadioBroadcastData}
    (hp : r.1.get p = some message) : m.get p = some message ∨ message = value := by
  have hcontains : ∀ size max, CHashMap.contains
      ({ map := m.map, size := size, maxSizeReachedAtStartup := max } : CHashMap UInt16 _) key =
        m.contains key := fun _ _ => rfl
  unfold CHashMap.insert at h
  split at h
  · cases h
  · simp only [hcontains] at h
    split at h
    · cases h
      exact Or.inl hp
    · cases h
      by_cases hk : p = key
      · subst hk
        have hself : some value = some message := (AList.lookup_insert m.map).symm.trans hp
        exact Or.inr (Option.some.inj hself).symm
      · exact Or.inl ((AList.lookup_insert_ne hk).symm.trans hp)

theorem insertAll_zero {main : Bool} {keys : List UInt16}
    {r : CHashMap UInt16 RadioBroadcastData × Bool}
    (h : insertAll main RadioBroadcastData.zero .new keys = .ok r) (p : UInt16) :
    (r.1.get p).getD .zero = RadioBroadcastData.zero := by
  have hall : ∀ p message, r.1.get p = some message → message = .zero := by
    refine foldlM_preserves (P := fun acc : CHashMap UInt16 RadioBroadcastData × Bool =>
      ∀ p message, acc.1.get p = some message → message = .zero) ?_ ?_ h
    · intro acc key acc' hacc hstep p message hp
      obtain ⟨r, hr, hstep⟩ := bind_ok.mp hstep
      cases hstep
      rcases get_insert hr hp with hold | hnew
      · exact hacc p message hold
      · exact hnew
    · intro p message hp
      cases hp
  cases hp : r.1.get p with
  | none => rfl
  | some message => exact hall p message hp

/-- **After `Startup`** every port has the placeholder. -/
theorem padInv_started {t : CLoraReceiveTenant} (h : CLoraReceiveTenant.started = .ok t) :
    PadInv { tenant := t, last := fun _ => none } := by
  unfold CLoraReceiveTenant.started at h
  obtain ⟨lt, hstart, h⟩ := bind_ok.mp h
  obtain ⟨lt', hstart', -, -, hdata, hrequests⟩ := startup_keys true
  cases hstart.symm.trans hstart'
  cases h
  refine ⟨hdata, hrequests, fun p _ => ?_, fun _ _ h => by cases h⟩
  unfold CLoraTransmitTenant.startup at hstart
  obtain ⟨data, hinsert, hstart⟩ := bind_ok.mp hstart
  obtain ⟨requested, -, hstart⟩ := bind_ok.mp hstart
  show (lt.portDataMap.get p).getD .zero = .zero
  split at hstart
  · cases hstart
  · cases hstart
    exact insertAll_zero hinsert p

/-- What the transmit tenant has stored when its loop starts. -/
theorem PadInv.padStored {h : PadHistory} (hinv : PadInv h) {p : UInt16} (hp : p ∈ padPorts) :
    h.transmitTenant.padStored.stored p = (h.newest p).getD .zero := by
  have hstored := hinv.stored p hp
  unfold CLoraTransmitTenant.stored CLoraTransmitTenant.padStored at *
  rw [get_set]
  unfold PadHistory.newest
  cases hq : h.transmitTenant.readTransmitQueue.2 with
  | none =>
    rw [if_neg fun hc => ne_zero_of_mem_padPorts hp hc.1]
    exact hstored
  | some message =>
    by_cases hport : p = message.port
    · subst hport
      rw [Option.getD_some, if_pos ⟨rfl, (hinv.dataKeys _).mpr hp⟩]
      simp only [Function.update_self]
    · simp only [Option.getD_some, Function.update_of_ne hport]
      rw [if_neg fun hc => hport hc.1]
      exact hstored

theorem PadInv.newest_port {h : PadHistory} (hinv : PadInv h) {p : UInt16}
    {message : RadioBroadcastData} (hm : h.newest p = some message) : message.port = p := by
  unfold PadHistory.newest at hm
  cases hq : h.transmitTenant.readTransmitQueue.2 with
  | none =>
    simp only [hq] at hm
    exact hinv.port p message hm
  | some dequeued =>
    simp only [hq] at hm
    by_cases hport : p = dequeued.port
    · subst hport
      rw [Function.update_self] at hm
      cases hm
      rfl
    · rw [Function.update_of_ne hport] at hm
      exact hinv.port p message hm

/-- **Every step keeps it.** -/
theorem padInv_step (h : PadHistory) (a : PadStep) (h' : PadHistory) (hinv : PadInv h)
    (hstep : h.step a = .ok h') : PadInv h' := by
  cases a with
  | arrives message =>
    cases hstep
    exact ⟨hinv.dataKeys, hinv.requestKeys, hinv.stored, hinv.port⟩
  | transmitRun env =>
    unfold PadHistory.step at hstep
    simp only at hstep
    split at hstep
    · cases hstep
    · rename_i r hr
      cases hstep
      have hkept := padRun_kept hr
      refine ⟨fun p => ?_, fun p => ?_, fun p hp => ?_, fun p message hm => hinv.newest_port hm⟩
      · show p ∈ r.1.portDataMap.map.keys ↔ _
        rw [hkept.data]
        exact hinv.dataKeys p
      · show p ∈ r.1.padDataRequestedMap.map.keys ↔ _
        rw [hkept.requested]
        exact hinv.requestKeys p
      · show (r.1.portDataMap.get p).getD .zero = _
        rw [padRun_data hr]
        exact hinv.padStored hp
  | receiveRun env =>
    unfold PadHistory.step at hstep
    simp only at hstep
    split at hstep
    · cases hstep
    · rename_i r hr
      cases hstep
      have hkeeps := receive_padRun_flags hr
      refine ⟨fun p => ?_, fun p => ?_, fun p hp => ?_, hinv.port⟩
      · show p ∈ r.1.loraTransmitTenant.portDataMap.map.keys ↔ _
        rw [hkeeps.data]
        exact hinv.dataKeys p
      · show p ∈ r.1.loraTransmitTenant.padDataRequestedMap.map.keys ↔ _
        rw [hkeeps.keys]
        exact hinv.requestKeys p
      · show (r.1.loraTransmitTenant.portDataMap.get p).getD .zero = _
        rw [hkeeps.data]
        exact hinv.stored p hp

/-! ## When requests are answered -/

/-- Every port that is requested when the transmit tenant runs has a newest message, and it is not
empty. -/
def HasData (h : PadHistory) : Prop :=
  ∀ p, h.Requested p → ∃ message, h.newest p = some message ∧ message.size ≠ 0

/-- **The frame of a requested port** is handed over exactly when its newest message is not
empty. -/
theorem frame_mem_padFrames {h : PadHistory} (hinv : PadInv h) {p : UInt16}
    {message : RadioBroadcastData} (hp : h.Requested p) (hm : h.newest p = some message) :
    loraFrame message ∈ h.transmitTenant.padFrames ↔ message.size ≠ 0 := by
  have hmem := hinv.mem_padPorts hp
  have hstored : h.transmitTenant.padStored.stored p = message := by
    rw [hinv.padStored hmem, hm]
    rfl
  constructor
  · intro hframe hzero
    obtain ⟨⟨port, requested⟩, -, hframe⟩ := List.mem_flatMap.mp hframe
    unfold CLoraTransmitTenant.requestFrames transmitFrames at hframe
    split at hframe
    · split at hframe
      · exact absurd hframe List.not_mem_nil
      · rename_i hsize
        -- a frame with a payload is longer than one without
        have hlen := congrArg List.length (List.mem_singleton.mp hframe)
        have hnat : (h.transmitTenant.padStored.stored port).size.toNat ≠ 0 :=
          fun h0 => hsize (UInt8.toNat_inj.mp h0)
        have hzeroNat : message.size.toNat = 0 := by rw [hzero]; rfl
        unfold loraFrame at hlen
        simp only [List.length_append, length_littleEndian, List.length_take,
          Vector.length_toList, hzeroNat] at hlen
        omega
    · exact absurd hframe List.not_mem_nil
  · intro hsize
    refine List.mem_flatMap.mpr ⟨(p, true), mem_requests.mpr hp, ?_⟩
    unfold CLoraTransmitTenant.requestFrames transmitFrames
    rw [if_pos ⟨rfl, ne_zero_of_mem_padPorts hmem⟩, hstored, if_neg hsize]
    exact List.mem_singleton_self _

/-- A step that is not a transmit run clears no flag. -/
theorem requested_step {h h' : PadHistory} {a : PadStep} (hstep : h.step a = .ok h')
    (ha : ∀ env, a ≠ .transmitRun env) {p : UInt16} (hp : h.Requested p) : h'.Requested p := by
  cases a with
  | arrives message =>
    cases hstep
    exact hp
  | transmitRun env => exact absurd rfl (ha env)
  | receiveRun env =>
    unfold PadHistory.step at hstep
    simp only at hstep
    split at hstep
    · cases hstep
    · rename_i r hr
      cases hstep
      exact (receive_padRun_flags hr).flags p hp

/-- **A transmit run** clears all flags, and has the newest messages. -/
theorem transmitRun_step {h h' : PadHistory} {env : Answers}
    (hstep : h.step (.transmitRun env) = .ok h') :
    h'.last = h.newest ∧ ∀ p, p ≠ 0 → ¬ h'.Requested p := by
  unfold PadHistory.step at hstep
  simp only at hstep
  split at hstep
  · cases hstep
  · rename_i r hr
    cases hstep
    refine ⟨rfl, fun p hp hreq => ?_⟩
    have hflag : r.1.padDataRequestedMap.get p = some true := hreq
    rw [padRun_flags hr] at hflag
    split at hflag
    · cases hflag
    · rename_i hnot
      exact hnot ⟨hp, hflag⟩

/-- **When a step answers.** -/
theorem answered_step_iff {t : Transition PadHistory PadStep}
    (hstep : t.before.step t.input = .ok t.after) (hinv : PadInv t.before) :
    Answered t ↔ ∀ env, t.input = .transmitRun env → HasData t.before := by
  constructor
  · intro h env henv p hp
    rw [henv] at hstep
    obtain ⟨hlast, hcleared⟩ := transmitRun_step hstep
    have hport := ne_zero_of_mem_padPorts (hinv.mem_padPorts hp)
    obtain ⟨_, message, -, hm, -, hframe⟩ := h.handed p hp (hcleared p hport)
    rw [hlast] at hm
    exact ⟨message, hm, (frame_mem_padFrames hinv hp hm).mp hframe⟩
  · intro h
    by_cases ha : ∃ env, t.input = .transmitRun env
    · obtain ⟨env, henv⟩ := ha
      have hdata := h env henv
      rw [henv] at hstep
      obtain ⟨hlast, -⟩ := transmitRun_step hstep
      refine ⟨fun p hp _ => ?_, fun p hp hnone => ?_⟩
      · obtain ⟨message, hm, hsize⟩ := hdata p hp
        exact ⟨env, message, henv, by rw [hlast, hm], hinv.newest_port hm,
          (frame_mem_padFrames hinv hp hm).mpr hsize⟩
      · obtain ⟨message, hm, -⟩ := hdata p hp
        rw [hlast, hm] at hnone
        cases hnone
    · have hkeep := fun p (hp : t.before.Requested p) =>
        requested_step hstep (fun env henv => ha ⟨env, henv⟩) hp
      exact ⟨fun p hp hnot => absurd (hkeep p hp) hnot, fun p hp _ => hkeep p hp⟩

/-- **Requests are answered before they are forgotten exactly if** each transmit run finds a
message that is not empty for every port that is requested. -/
theorem answered_iff (steps : List PadStep) :
    (∀ t ∈ padSteps steps, Answered t) ↔
      ∀ t ∈ padSteps steps, ∀ env, t.input = .transmitRun env → HasData t.before := by
  refine forall_congr' fun t => forall_congr' fun ht => ?_
  unfold padSteps at ht
  split at ht
  · exact absurd ht List.not_mem_nil
  · rename_i tenant hstarted
    obtain ⟨hstep, hinv, -⟩ :=
      transitions_invariant padInv_step (padInv_started hstarted) ht
    exact answered_step_iff hstep hinv

/-- The INA data port is requested before anything was sent for it. -/
def earlyRequest : List PadStep :=
  [.receiveRun (delivering [0xC7, 0x32, 0x2B, 0x07]), .transmitRun (delivering [])]

/-- **A request before the first message is forgotten.** -/
theorem answered_fails : ¬ ∀ steps, ∀ t ∈ padSteps steps, Answered t := by
  intro h
  have hsecond : ((padSteps earlyRequest)[1]?.map fun t =>
      (t.before.transmitTenant.padDataRequestedMap.get POWER_MODULE_INA_DATA_PORT,
        t.after.transmitTenant.padDataRequestedMap.get POWER_MODULE_INA_DATA_PORT,
        t.after.last POWER_MODULE_INA_DATA_PORT)) = some (some true, some false, none) := by
    decide +kernel
  obtain ⟨t, ht, heq⟩ := Option.map_eq_some_iff.mp hsecond
  obtain ⟨hbefore, hrest⟩ := Prod.mk.inj heq
  obtain ⟨hafter, hlast⟩ := Prod.mk.inj hrest
  have hkept := (h earlyRequest t (List.mem_of_getElem? ht)).pending _ hbefore hlast
  exact absurd (hafter.symm.trans hkept) (by decide)

end Backplane.Radio
