import Backplane.General.Run
import Backplane.Radio.Types

/-!
# The direction of the modem

Model of `CLora` (`include/f_core/radio/c_lora.h`, `lib/f_core/radio/c_lora.cpp`) next to the calls
it makes on its device. `setTxRx` skips `lora_config` when the cached direction is the one asked
for, and caches the direction before it knows what `lora_config` answers; the constructors drop the
answer. What `lora_config` would answer is an input of every operation.

Results:
* `operate_calls`: the calls an operation makes.
* `inDirection_iff`: the runs in which every transfer finds the modem in its direction.
-/

namespace Backplane.Radio

open Backplane.Run

/-- A call of the driver. -/
inductive DeviceCall
  | loraConfig (tx : Bool) (ret : Int)
  | loraSend | loraSendAsync | loraRecv | loraRecvAsync
  deriving DecidableEq

/-- The direction a transfer needs. -/
def DeviceCall.direction : DeviceCall → Option Bool
  | .loraConfig _ _ => none
  | .loraSend | .loraSendAsync => some true
  | .loraRecv | .loraRecvAsync => some false

/-- The object and the calls made on its device, oldest first. -/
structure Modem where
  lora : CLora
  calls : List DeviceCall

/-- The constructors: the cache is the default one, or the given one. -/
def Modem.new (lora : CLora) (ret : Int) : Modem :=
  { lora := lora, calls := [.loraConfig lora.tx ret] }

/-- `setTxRx`. -/
def Modem.setTxRx (m : Modem) (isTransmit : Bool) (ret : Int) : Modem × Int :=
  let r := m.lora.setTxRx isTransmit ret
  ({ lora := r.1
     calls := if isTransmit = m.lora.tx then m.calls else m.calls ++ [.loraConfig isTransmit ret] },
    r.2)

/-- What the four operations share: no transfer if `setTxRx` fails. -/
def Modem.operate (m : Modem) (isTransmit : Bool) (transfer : DeviceCall) (ret : Int) : Modem :=
  let r := m.setTxRx isTransmit ret
  if r.2 ≠ 0 then r.1 else { r.1 with calls := r.1.calls ++ [transfer] }

/-- `TransmitSynchronous`. -/
def Modem.transmitSynchronous (m : Modem) (ret : Int) : Modem := m.operate true .loraSend ret

/-- `ReceiveSynchronous`. -/
def Modem.receiveSynchronous (m : Modem) (ret : Int) : Modem := m.operate false .loraRecv ret

/-- `TransmitAsynchronous`. -/
def Modem.transmitAsynchronous (m : Modem) (ret : Int) : Modem := m.operate true .loraSendAsync ret

/-- `ReceiveAsynchronous`. -/
def Modem.receiveAsynchronous (m : Modem) (ret : Int) : Modem := m.operate false .loraRecvAsync ret

/-- The operations. -/
inductive LoraOp
  | transmitSynchronous | transmitAsynchronous | receiveSynchronous | receiveAsynchronous
  deriving DecidableEq

/-- An operation, where `lora_config` would answer `ret`. -/
def Modem.step (m : Modem) : LoraOp × Int → Modem
  | (.transmitSynchronous, ret) => m.transmitSynchronous ret
  | (.transmitAsynchronous, ret) => m.transmitAsynchronous ret
  | (.receiveSynchronous, ret) => m.receiveSynchronous ret
  | (.receiveAsynchronous, ret) => m.receiveAsynchronous ret

/-- The direction of an operation. -/
def LoraOp.isTransmit : LoraOp → Bool
  | .transmitSynchronous | .transmitAsynchronous => true
  | .receiveSynchronous | .receiveAsynchronous => false

/-- The transfer an operation is for. -/
def LoraOp.transfer : LoraOp → DeviceCall
  | .transmitSynchronous => .loraSend
  | .transmitAsynchronous => .loraSendAsync
  | .receiveSynchronous => .loraRecv
  | .receiveAsynchronous => .loraRecvAsync

theorem step_eq (m : Modem) (op : LoraOp) (ret : Int) :
    m.step (op, ret) = m.operate op.isTransmit op.transfer ret := by
  cases op <;> rfl

theorem direction_transfer (op : LoraOp) : op.transfer.direction = some op.isTransmit := by
  cases op <;> rfl

/-- The modem sends exactly when the transmit tenant's call does. -/
theorem transmitSynchronous_sends (m : Modem) (env : Answers) (data : List UInt8) :
    (m.transmitSynchronous env.configTx).lora = (m.lora.transmitSynchronous env data).1 ∧
      ((m.lora.transmitSynchronous env data).2 = [.loraSend data] ↔
        (m.lora.setTxRx true env.configTx).2 = 0) := by
  unfold Modem.transmitSynchronous Modem.operate CLora.transmitSynchronous Modem.setTxRx
  by_cases h : (m.lora.setTxRx true env.configTx).2 = 0
  · simp [h]
  · simp [h]

/-! ## What the device was told -/

/-- The direction the device was last configured for, by a call that succeeded. -/
def configured (calls : List DeviceCall) : Option Bool :=
  calls.foldl (fun tx call =>
    match call with
    | .loraConfig tx' ret => if ret = 0 then some tx' else tx
    | _ => tx) none

/-- The last `lora_config`: what it asked for and what it answered. -/
def lastConfig (calls : List DeviceCall) : Option (Bool × Int) :=
  calls.foldl (fun last call =>
    match call with
    | .loraConfig tx ret => some (tx, ret)
    | _ => last) none

/-- Every transfer finds the device configured for its direction. -/
def InDirection (calls : List DeviceCall) : Prop :=
  ∀ pre call tx, pre ++ [call] <+: calls → call.direction = some tx → configured pre = some tx

/-- The last `lora_config` asked for `tx` and failed, with the device in the other direction. -/
def Stale (calls : List DeviceCall) (tx : Bool) : Prop :=
  (∃ ret, ret ≠ 0 ∧ lastConfig calls = some (tx, ret)) ∧ configured calls ≠ some tx

theorem configured_snoc_transfer (calls : List DeviceCall) (op : LoraOp) :
    configured (calls ++ [op.transfer]) = configured calls := by
  unfold configured
  rw [List.foldl_append]
  cases op <;> rfl

theorem configured_snoc_config (calls : List DeviceCall) (tx : Bool) (ret : Int) :
    configured (calls ++ [.loraConfig tx ret]) = if ret = 0 then some tx else configured calls := by
  unfold configured
  rw [List.foldl_append]
  rfl

theorem lastConfig_snoc_transfer (calls : List DeviceCall) (op : LoraOp) :
    lastConfig (calls ++ [op.transfer]) = lastConfig calls := by
  unfold lastConfig
  rw [List.foldl_append]
  cases op <;> rfl

theorem lastConfig_snoc_config (calls : List DeviceCall) (tx : Bool) (ret : Int) :
    lastConfig (calls ++ [.loraConfig tx ret]) = some (tx, ret) := by
  unfold lastConfig
  rw [List.foldl_append]
  rfl

theorem inDirection_snoc (calls : List DeviceCall) (call : DeviceCall) :
    InDirection (calls ++ [call]) ↔
      InDirection calls ∧ ∀ tx, call.direction = some tx → configured calls = some tx := by
  have h := forall_step_snoc (l := calls) (b := call)
    (Q := fun pre c => ∀ tx, c.direction = some tx → configured pre = some tx)
  constructor
  · intro hsnoc
    obtain ⟨hcalls, hcall⟩ := h.mp fun pre c hpre tx => hsnoc pre c tx hpre
    exact ⟨fun pre c tx hpre => hcalls pre c hpre tx, hcall⟩
  · rintro ⟨hcalls, hcall⟩ pre c tx hpre
    exact h.mpr ⟨fun pre c hpre tx => hcalls pre c tx hpre, hcall⟩ pre c hpre tx

theorem inDirection_snoc_config (calls : List DeviceCall) (tx : Bool) (ret : Int) :
    InDirection (calls ++ [.loraConfig tx ret]) ↔ InDirection calls := by
  rw [inDirection_snoc]
  refine and_iff_left ?_
  intro tx' h
  cases h

theorem inDirection_snoc_transfer (calls : List DeviceCall) (op : LoraOp) :
    InDirection (calls ++ [op.transfer]) ↔
      InDirection calls ∧ configured calls = some op.isTransmit := by
  rw [inDirection_snoc, direction_transfer]
  refine and_congr_right fun _ => ⟨fun h => h _ rfl, ?_⟩
  rintro h tx htx
  rw [h, htx]

/-- **The calls of an operation**: `lora_config` on a change of direction, and the transfer unless
that fails. -/
theorem operate_calls (m : Modem) (op : LoraOp) (ret : Int) :
    (m.step (op, ret)).lora.tx = op.isTransmit ∧
    (m.step (op, ret)).calls =
      if op.isTransmit = m.lora.tx then m.calls ++ [op.transfer]
      else if ret = 0 then m.calls ++ [.loraConfig op.isTransmit ret] ++ [op.transfer]
      else m.calls ++ [.loraConfig op.isTransmit ret] := by
  rw [step_eq]
  unfold Modem.operate Modem.setTxRx CLora.setTxRx
  by_cases hsame : op.isTransmit = m.lora.tx
  · simp [hsame]
  · by_cases hret : ret = 0
    · simp [hsame, hret]
    · simp [hsame, hret]

/-- The cache is what the last `lora_config` asked for, and the device is there if it succeeded. -/
def Tracks (m : Modem) : Prop :=
  ∃ ret, lastConfig m.calls = some (m.lora.tx, ret) ∧
    (ret = 0 → configured m.calls = some m.lora.tx)

theorem tracks_new (lora : CLora) (ret : Int) : Tracks (Modem.new lora ret) := by
  refine ⟨ret, rfl, ?_⟩
  rintro rfl
  rfl

theorem tracks_step (m : Modem) (o : LoraOp × Int) (h : Tracks m) : Tracks (m.step o) := by
  obtain ⟨op, ret⟩ := o
  obtain ⟨last, hlast, hconf⟩ := h
  obtain ⟨htx, hcalls⟩ := operate_calls m op ret
  unfold Tracks
  rw [htx, hcalls]
  by_cases hsame : op.isTransmit = m.lora.tx
  · rw [if_pos hsame, lastConfig_snoc_transfer, configured_snoc_transfer, hsame]
    exact ⟨last, hlast, hconf⟩
  · rw [if_neg hsame]
    refine ⟨ret, ?_, ?_⟩
    · split
      · rw [lastConfig_snoc_transfer, lastConfig_snoc_config]
      · exact lastConfig_snoc_config _ _ _
    · intro hret
      rw [if_pos hret, configured_snoc_transfer, configured_snoc_config, if_pos hret]

/-- What one operation keeps: only a call in a direction that went stale transfers in the wrong
one. -/
theorem inDirection_step (m : Modem) (o : LoraOp × Int) (h : Tracks m) :
    InDirection (m.step o).calls ↔ InDirection m.calls ∧ ¬ Stale m.calls o.1.isTransmit := by
  obtain ⟨op, ret⟩ := o
  obtain ⟨last, hlast, hconf⟩ := h
  rw [(operate_calls m op ret).2]
  show _ ↔ _ ∧ ¬ Stale m.calls op.isTransmit
  by_cases hsame : op.isTransmit = m.lora.tx
  · rw [if_pos hsame, inDirection_snoc_transfer]
    refine and_congr_right fun _ => ⟨fun hc hstale => hstale.2 hc, fun hstale => ?_⟩
    by_contra hc
    refine hstale ⟨⟨last, fun hret => hc ?_, by rw [hlast, hsame]⟩, hc⟩
    rw [hconf hret, hsame]
  · -- a change of direction asks the device again, so nothing can be stale
    have hfresh : ¬ Stale m.calls op.isTransmit := by
      rintro ⟨⟨r, _, hr⟩, _⟩
      have heq := Option.some.inj (hlast.symm.trans hr)
      exact hsame (congrArg Prod.fst heq).symm
    rw [if_neg hsame, and_iff_left hfresh]
    split
    · rename_i hret
      rw [inDirection_snoc_transfer, inDirection_snoc_config, configured_snoc_config, if_pos hret]
      exact and_iff_left rfl
    · exact inDirection_snoc_config _ _ _

/-- **The runs in which every transfer finds the modem in its direction**: those without an
operation in a direction that went stale. -/
theorem inDirection_iff (lora : CLora) (ret : Int) (ops : List (LoraOp × Int)) :
    InDirection (run Modem.step (Modem.new lora ret) ops).calls ↔
      ∀ pre o, pre ++ [o] <+: ops →
        ¬ Stale (run Modem.step (Modem.new lora ret) pre).calls o.1.isTransmit := by
  refine run_iff (I := Tracks) (G := fun m => InDirection m.calls) tracks_step inDirection_step
    (tracks_new lora ret) ?_ ops
  exact (inDirection_snoc_config [] lora.tx ret).mpr fun pre call tx hpre => by simp at hpre

/-- The first transmission after a failed `lora_config` is refused, the second is not. -/
theorem not_inDirection_retry :
    ¬ ∀ (lora : CLora) (ret : Int) (ops : List (LoraOp × Int)),
      InDirection (run Modem.step (Modem.new lora ret) ops).calls := by
  intro h
  have hdir := h {} 0 [(.transmitSynchronous, -5), (.transmitSynchronous, 0)]
    [.loraConfig false 0, .loraConfig true (-5)] .loraSend true List.prefix_rfl rfl
  exact absurd hdir (by decide)

end Backplane.Radio
