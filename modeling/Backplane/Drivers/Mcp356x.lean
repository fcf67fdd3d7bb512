import Mathlib.Algebra.Order.Ring.Int
import Backplane.General.Run

/-!
# The MCP356x driver

Model of `drivers/adc/mcp356x/mcp356x.c`: the registers the driver caches, `channel_setup` and
`read_channel`, next to the registers of the device. What the SPI transfers answer is an input; a
register write that fails leaves the register. Each sample is kept with the registers it was read
under.

* The results of the register writes are dropped, as in the code, and the cache takes the new value
  whatever happens.
* `channel_setup` lets channel 8 through. Its entry lies behind the map, over
  `enabled_channels_bitmap`, `config0`, `config1` and `config2` (`setEntry`).

Results:
* `configure_coherent`: what the registers hold when a sample is read.
* `readLoop_coherent`: the loop over the channels, by induction on the channels that remain.
* `samples_configured`: the runs in which no sample is read under another channel's registers.
-/

namespace Backplane.Drivers

open Backplane.Run

def ENODEV : Int := 19
def ENOTSUP : Int := 134

/-- `enum adc_gain`, as far as the driver tells its values apart. -/
inductive AdcGain
  | ADC_GAIN_1_3 | ADC_GAIN_1 | ADC_GAIN_2 | ADC_GAIN_4 | ADC_GAIN_8 | ADC_GAIN_16 | ADC_GAIN_32
  | ADC_GAIN_64
  | unsupported (gain : Nat)

/-- `enum adc_reference`. -/
inductive AdcReference
  | ADC_REF_INTERNAL | ADC_REF_EXTERNAL0
  | unsupported (ref : Nat)

/-- `struct adc_channel_cfg`. -/
structure AdcChannelCfg where
  gain : AdcGain
  reference : AdcReference
  channel_id : Fin 32
  differential : Bool
  input_positive : UInt8
  input_negative : UInt8

/-- `struct adc_sequence`: whether there are options, the channels, and the size of the buffer. -/
structure AdcSequence where
  options : Bool
  channels : UInt32
  buffer_size : Nat

/-- `struct channel_map_entry`. -/
structure ChannelMapEntry where
  mux_reg : UInt8
  differential : Bool
  gain_bits : UInt8
  reference_bits : UInt8
  gain_lt : gain_bits < 8

/-- `struct mcp356x_data`. -/
structure Mcp356xData where
  channel_map : Vector ChannelMapEntry 8
  enabled_channels_bitmap : UInt8
  config0 : UInt8
  config1 : UInt8
  config2 : UInt8
  mux : UInt8

/-- The registers that `read_channel` writes. -/
structure Registers where
  config0 : UInt8
  config2 : UInt8
  mux : UInt8

/-- The driver's data and the device. -/
structure Mcp356x where
  data : Mcp356xData
  regs : Registers

/-! ## `channel_setup` -/

/-- The gain bits of `CONFIG2`. -/
def gainBits : AdcGain → Option { g : UInt8 // g < 8 }
  | .ADC_GAIN_1_3 => some ⟨0b000, by decide⟩
  | .ADC_GAIN_1 => some ⟨0b001, by decide⟩
  | .ADC_GAIN_2 => some ⟨0b010, by decide⟩
  | .ADC_GAIN_4 => some ⟨0b011, by decide⟩
  | .ADC_GAIN_8 => some ⟨0b100, by decide⟩
  | .ADC_GAIN_16 => some ⟨0b101, by decide⟩
  | .ADC_GAIN_32 => some ⟨0b110, by decide⟩
  | .ADC_GAIN_64 => some ⟨0b111, by decide⟩
  | .unsupported _ => none

/-- VREF Selection. -/
def vrefSelBits : AdcReference → Option UInt8
  | .ADC_REF_INTERNAL => some 0b1
  | .ADC_REF_EXTERNAL0 => some 0b0
  | .unsupported _ => none

/-- `data->channel_map[id] = entry`, where `id` is at most 8. -/
def Mcp356xData.setEntry (d : Mcp356xData) (id : Nat) (entry : ChannelMapEntry) : Mcp356xData :=
  if h : id < 8 then { d with channel_map := d.channel_map.set id entry }
  else
    { d with
      enabled_channels_bitmap := entry.mux_reg
      config0 := entry.differential.toUInt8
      config1 := entry.gain_bits
      config2 := entry.reference_bits }

/-- `mcp356x_channel_setup`. Inputs above `MAX_INPUT_CHANNEL` (15) are logged and used. -/
def Mcp356xData.channelSetup (d : Mcp356xData) (ready : Bool) (cfg : AdcChannelCfg) :
    Mcp356xData × Int :=
  if !ready then (d, -ENODEV)
  else if cfg.channel_id.val > 8 then (d, -ENODEV)
  else
    let mux_reg := (cfg.input_positive <<< 4) ||| cfg.input_negative
    match gainBits cfg.gain with
    | none => (d, -ENOTSUP)
    | some gain_bits =>
      match vrefSelBits cfg.reference with
      | none => (d, -ENOTSUP)
      | some vref_sel_bits =>
        let entry : ChannelMapEntry :=
          { mux_reg := mux_reg
            differential := cfg.differential
            gain_bits := gain_bits
            reference_bits := vref_sel_bits
            gain_lt := gain_bits.2 }
        (d.setEntry cfg.channel_id.val entry, 0)

/-- **What `channel_setup` can do**: refuse and change nothing, or store the entry at an index up
to 8. -/
theorem channelSetup_cases (d : Mcp356xData) (ready : Bool) (cfg : AdcChannelCfg) :
    (∃ e, e < 0 ∧ d.channelSetup ready cfg = (d, e)) ∨
    (ready = true ∧ cfg.channel_id.val ≤ 8 ∧ gainBits cfg.gain ≠ none ∧
      vrefSelBits cfg.reference ≠ none ∧ ∃ entry : ChannelMapEntry,
        entry.mux_reg = (cfg.input_positive <<< 4) ||| cfg.input_negative ∧
        d.channelSetup ready cfg = (d.setEntry cfg.channel_id.val entry, 0)) := by
  unfold Mcp356xData.channelSetup
  by_cases hready : ready = true
  · rw [if_neg (by simp [hready])]
    by_cases hid : cfg.channel_id.val > 8
    · rw [if_pos hid]
      exact .inl ⟨-ENODEV, by decide, rfl⟩
    · rw [if_neg hid]
      cases hgain : gainBits cfg.gain with
      | none => exact .inl ⟨-ENOTSUP, by decide, rfl⟩
      | some gain_bits =>
        cases href : vrefSelBits cfg.reference with
        | none => exact .inl ⟨-ENOTSUP, by decide, rfl⟩
        | some vref_sel_bits =>
          exact .inr ⟨hready, Nat.le_of_not_lt hid, Option.some_ne_none _, Option.some_ne_none _,
            _, rfl, rfl⟩
  · rw [if_pos (by simp [hready])]
    exact .inl ⟨-ENODEV, by decide, rfl⟩

/-! ## `read_channel` -/

/-- What the SPI transfers for one channel answer: `spi_write_dt` for the three registers, and
`spi_transceive_dt` with the bytes it receives. -/
structure ChannelAnswers where
  config0 : Int
  config2 : Int
  mux : Int
  transceive : Int
  reg24 : UInt8 × UInt8 × UInt8

/-- `mcp_read_reg_24`. -/
def ChannelAnswers.mcpReadReg24 (a : ChannelAnswers) : Except Int UInt32 :=
  if a.transceive < 0 then .error a.transceive
  else .ok ((a.reg24.1.toUInt32 <<< 16) ||| (a.reg24.2.1.toUInt32 <<< 8) ||| a.reg24.2.2.toUInt32)

/-- `sign_extend_24_32`. -/
def signExtend2432 (x : UInt32) : UInt32 :=
  let m : UInt32 := (1 : UInt32) <<< 23
  (x ^^^ m) - m

/-- A cached register after `value` was asked for: cache and device. -/
def writeThrough (cached device value : UInt8) (ret : Int) : UInt8 × UInt8 :=
  if value ≠ cached then (value, if ret = 0 then value else device) else (cached, device)

/-- `CONFIG2` with other gain bits. -/
def withGain (config2 gain_bits : UInt8) : UInt8 :=
  (config2 &&& (0b11000111 : UInt8)) ||| (gain_bits <<< (3 : UInt8))

/-- The gain bits of a value of `CONFIG2`. -/
def gainField (config2 : UInt8) : UInt8 := (config2 >>> (3 : UInt8)) &&& (0b111 : UInt8)

/-- What the loop of `read_channel` does before it reads channel `i`. -/
def Mcp356x.configure (s : Mcp356x) (i : Fin 8) (a : ChannelAnswers) : Mcp356x :=
  let cfg := s.data.channel_map[i]
  let config0 := writeThrough s.data.config0 s.regs.config0
    ((s.data.config0 &&& (0b01111111 : UInt8)) ||| ((1 : UInt8) <<< (7 : UInt8))) a.config0
  let config2 := writeThrough s.data.config2 s.regs.config2
    (withGain s.data.config2 cfg.gain_bits) a.config2
  let mux := writeThrough s.data.mux s.regs.mux cfg.mux_reg a.mux
  { data := { s.data with config0 := config0.1, config2 := config2.1, mux := mux.1 }
    regs := { config0 := config0.2, config2 := config2.2, mux := mux.2 } }

/-- An element of `sample_array`, with its channel and the registers it was read under. -/
structure Sample where
  channel : Fin 8
  value : UInt32
  regs : Registers

/-- Channel `i` is in the sequence. -/
def AdcSequence.requests (sequence : AdcSequence) (i : Fin 8) : Bool :=
  ((sequence.channels >>> i.val.toUInt32) &&& 0b1) ≠ 0

/-- The loop of `read_channel` over the channels that remain: the samples it stores, and what it
returns. -/
def Mcp356x.readLoop (sequence : AdcSequence) (answers : Fin 8 → ChannelAnswers) :
    List (Fin 8) → Mcp356x → Mcp356x × List Sample × Int
  | [], s => (s, [], 0)
  | i :: channels, s =>
    if sequence.requests i then
      let s := s.configure i (answers i)
      match (answers i).mcpReadReg24 with
      | .error res => (s, [], res)
      | .ok val =>
        let r := Mcp356x.readLoop sequence answers channels s
        (r.1, { channel := i, value := signExtend2432 val, regs := s.regs } :: r.2.1, r.2.2)
    else Mcp356x.readLoop sequence answers channels s

/-- `__builtin_popcount`. -/
def popcount (x : UInt32) : Nat := ((List.range 32).filter fun k => x.toNat.testBit k).length

/-- `mcp356x_read_channel`. -/
def Mcp356x.readChannel (s : Mcp356x) (sequence : AdcSequence) (answers : Fin 8 → ChannelAnswers) :
    Mcp356x × List Sample × Int :=
  if sequence.options then (s, [], -1)
  else if sequence.buffer_size < 4 * popcount sequence.channels then (s, [], -1)
  else Mcp356x.readLoop sequence answers (List.finRange 8) s

/-! ## Coherence -/

/-- The cache holds what the device holds. -/
structure Mcp356x.Coherent (s : Mcp356x) : Prop where
  config0 : s.data.config0 = s.regs.config0
  config2 : s.data.config2 = s.regs.config2
  mux : s.data.mux = s.regs.mux

/-- A register write, of a value that the cache does not hold, succeeds. -/
def WriteOk (cached value : UInt8) (ret : Int) : Prop := value ≠ cached → ret = 0

/-- The register writes made for channel `i` succeed. -/
structure Mcp356x.WritesOk (s : Mcp356x) (i : Fin 8) (a : ChannelAnswers) : Prop where
  config0 : WriteOk s.data.config0
    ((s.data.config0 &&& (0b01111111 : UInt8)) ||| ((1 : UInt8) <<< (7 : UInt8))) a.config0
  config2 : WriteOk s.data.config2
    (withGain s.data.config2 s.data.channel_map[i].gain_bits) a.config2
  mux : WriteOk s.data.mux s.data.channel_map[i].mux_reg a.mux

/-- The register writes made by the loop over these channels succeed. -/
def Mcp356x.LoopOk (sequence : AdcSequence) (answers : Fin 8 → ChannelAnswers) :
    List (Fin 8) → Mcp356x → Prop
  | [], _ => True
  | i :: channels, s =>
    if sequence.requests i then
      s.WritesOk i (answers i) ∧ ((answers i).transceive < 0 ∨
        Mcp356x.LoopOk sequence answers channels (s.configure i (answers i)))
    else Mcp356x.LoopOk sequence answers channels s

/-- The sample was read under the registers configured for its channel. -/
def Mcp356xData.Configured (d : Mcp356xData) (sample : Sample) : Prop :=
  sample.regs.mux = d.channel_map[sample.channel].mux_reg ∧
    gainField sample.regs.config2 = d.channel_map[sample.channel].gain_bits

/-- A write that succeeds, or is not needed, leaves cache and device at the value. -/
theorem writeThrough_ok {cached device value : UInt8} {ret : Int} (h : cached = device)
    (hok : WriteOk cached value ret) : writeThrough cached device value ret = (value, value) := by
  unfold writeThrough
  split
  · rename_i hne
    rw [if_pos (hok hne)]
  · rename_i heq
    rw [← h, not_not.mp heq]

theorem not_neg_of_mcpReadReg24 {a : ChannelAnswers} {val : UInt32}
    (h : a.mcpReadReg24 = .ok val) : ¬a.transceive < 0 := by
  intro hlt
  rw [ChannelAnswers.mcpReadReg24, if_pos hlt] at h
  cases h

/-- The gain bits stand in their field. -/
theorem gainField_withGain (config2 : UInt8) {gain_bits : UInt8} (h : gain_bits < 8) :
    gainField (withGain config2 gain_bits) = gain_bits := by
  have hall : ∀ n < 256, ∀ g < 8,
      gainField (withGain (UInt8.ofNat n) (UInt8.ofNat g)) = UInt8.ofNat g := by
    decide +kernel
  have hfield := hall config2.toNat config2.toNat_lt gain_bits.toNat (UInt8.lt_iff_toNat_lt.mp h)
  rwa [UInt8.ofNat_toNat, UInt8.ofNat_toNat] at hfield

variable {s : Mcp356x} {i : Fin 8} {a : ChannelAnswers}

/-- **What the registers hold when channel `i` is read**, if cache and device agree and no write
fails. -/
theorem configure_coherent (h : s.Coherent) (ha : s.WritesOk i a) :
    (s.configure i a).Coherent ∧ (s.configure i a).data.channel_map = s.data.channel_map ∧
      (s.configure i a).regs.mux = s.data.channel_map[i].mux_reg ∧
      gainField (s.configure i a).regs.config2 = s.data.channel_map[i].gain_bits := by
  have hgain := gainField_withGain s.data.config2 s.data.channel_map[i].gain_lt
  unfold Mcp356x.configure
  simp only [writeThrough_ok h.config0 ha.config0, writeThrough_ok h.config2 ha.config2,
    writeThrough_ok h.mux ha.mux]
  exact ⟨⟨rfl, rfl, rfl⟩, trivial, trivial, hgain⟩

/-- **The loop over the channels.** -/
theorem readLoop_coherent {sequence : AdcSequence} {answers : Fin 8 → ChannelAnswers}
    (channels : List (Fin 8)) (hok : s.LoopOk sequence answers channels) (h : s.Coherent) :
    (s.readLoop sequence answers channels).1.Coherent ∧
      (s.readLoop sequence answers channels).1.data.channel_map = s.data.channel_map ∧
      ∀ sample ∈ (s.readLoop sequence answers channels).2.1, s.data.Configured sample := by
  induction channels generalizing s with
  | nil => exact ⟨h, rfl, fun _ hx => absurd hx List.not_mem_nil⟩
  | cons i channels ih =>
    unfold Mcp356x.LoopOk at hok
    unfold Mcp356x.readLoop
    by_cases hi : sequence.requests i = true
    · rw [if_pos hi] at hok
      obtain ⟨hwrites, hrest⟩ := hok
      obtain ⟨hcoh, hmap, hmux, hgain⟩ := configure_coherent h hwrites
      rw [if_pos hi]
      simp only
      cases hread : (answers i).mcpReadReg24 with
      | error res => exact ⟨hcoh, hmap, fun _ hx => absurd hx List.not_mem_nil⟩
      | ok val =>
        obtain ⟨hcoh', hmap', hsamples⟩ :=
          ih (hrest.resolve_left (not_neg_of_mcpReadReg24 hread)) hcoh
        refine ⟨hcoh', hmap'.trans hmap, fun sample hx => ?_⟩
        rcases List.mem_cons.mp hx with rfl | hx
        · exact ⟨hmux, hgain⟩
        · have hconf := hsamples sample hx
          unfold Mcp356xData.Configured at hconf ⊢
          rwa [hmap] at hconf
    · rw [if_neg hi] at hok ⊢
      exact ih hok h

/-! ## Runs -/

/-- A call of the driver. -/
inductive AdcOp
  | channel_setup (ready : Bool) (cfg : AdcChannelCfg)
  | read_channel (sequence : AdcSequence) (answers : Fin 8 → ChannelAnswers)

/-- The state after a call. -/
def Mcp356x.step (s : Mcp356x) : AdcOp → Mcp356x
  | .channel_setup ready cfg => { s with data := (s.data.channelSetup ready cfg).1 }
  | .read_channel sequence answers => (s.readChannel sequence answers).1

/-- The call stays off the defects: a setup of channel 8 is turned down for its gain or its
reference, and no register write that a read makes fails. -/
def AdcOp.sound (s : Mcp356x) : AdcOp → Prop
  | .channel_setup ready cfg => cfg.channel_id.val = 8 →
    ready = false ∨ gainBits cfg.gain = none ∨ vrefSelBits cfg.reference = none
  | .read_channel sequence answers => sequence.options = false →
    4 * popcount sequence.channels ≤ sequence.buffer_size →
    s.LoopOk sequence answers (List.finRange 8)

theorem step_coherent {op : AdcOp} (h : s.Coherent) (hop : op.sound s) :
    (s.step op).Coherent := by
  cases op with
  | channel_setup ready cfg =>
    show Mcp356x.Coherent { s with data := (s.data.channelSetup ready cfg).1 }
    rcases channelSetup_cases s.data ready cfg with
      ⟨e, _, he⟩ | ⟨hready, hle, hgain, href, entry, _, hentry⟩
    · rw [he]
      exact h
    · have hid : cfg.channel_id.val < 8 := by
        refine Nat.lt_of_le_of_ne hle fun heq => ?_
        rcases hop heq with hr | hg | hv
        · rw [hready] at hr
          cases hr
        · exact hgain hg
        · exact href hv
      rw [hentry, Mcp356xData.setEntry, dif_pos hid]
      exact ⟨h.config0, h.config2, h.mux⟩
  | read_channel sequence answers =>
    unfold Mcp356x.step Mcp356x.readChannel
    simp only
    split
    · exact h
    · rename_i hoptions
      split
      · exact h
      · rename_i hsize
        have hok := hop (Bool.eq_false_of_not_eq_true hoptions) (Nat.not_lt.mp hsize)
        exact (readLoop_coherent _ hok h).1

/-- **The runs without the defects**: cache and device agree after every call, and every sample of
a read that returns 0 was read under the registers configured for its channel. -/
theorem samples_configured (h : s.Coherent) (ops : List AdcOp)
    (hsound : ∀ pre op, pre ++ [op] <+: ops → op.sound (run Mcp356x.step s pre)) :
    (∀ pre, pre <+: ops → (run Mcp356x.step s pre).Coherent) ∧
    ∀ pre sequence answers, pre ++ [.read_channel sequence answers] <+: ops →
      ((run Mcp356x.step s pre).readChannel sequence answers).2.2 = 0 →
      ∀ sample ∈ ((run Mcp356x.step s pre).readChannel sequence answers).2.1,
        (run Mcp356x.step s pre).data.Configured sample := by
  have hcoh : ∀ pre, pre <+: ops → (run Mcp356x.step s pre).Coherent := fun pre hpre =>
    run_prefix (motive := fun _ s => Mcp356x.Coherent s) h
      (fun pre op hop hs => step_coherent hs (hsound pre op hop)) hpre
  refine ⟨hcoh, fun pre sequence answers hpre _ sample hx => ?_⟩
  have hs := hcoh pre ((List.prefix_append pre [_]).trans hpre)
  unfold Mcp356x.readChannel at hx
  split at hx
  · exact absurd hx List.not_mem_nil
  · rename_i hoptions
    split at hx
    · exact absurd hx List.not_mem_nil
    · rename_i hsize
      have hok := hsound pre _ hpre (Bool.eq_false_of_not_eq_true hoptions) (Nat.not_lt.mp hsize)
      exact (readLoop_coherent _ hok hs).2.2 sample hx

/-- An entry of the zeroed map. -/
def ChannelMapEntry.zero : ChannelMapEntry :=
  { mux_reg := 0, differential := false, gain_bits := 0, reference_bits := 0
    gain_lt := by decide }

/-- A device that holds `config2` and zeros, and a cache that says so. -/
def Mcp356x.holding (config2 : UInt8) : Mcp356x where
  data :=
    { channel_map := Vector.replicate 8 ChannelMapEntry.zero
      enabled_channels_bitmap := 0, config0 := 0, config1 := 0, config2 := config2, mux := 0 }
  regs := { config0 := 0, config2 := config2, mux := 0 }

/-- A setup of channel 0 for a gain of 1, between inputs 1 and 8. -/
def setupChannel0 : AdcOp :=
  .channel_setup true
    { gain := .ADC_GAIN_1, reference := .ADC_REF_INTERNAL, channel_id := 0, differential := false
      input_positive := 1, input_negative := 8 }

/-- A sequence for channel 0 alone. -/
def channel0 : AdcSequence := { options := false, channels := 1, buffer_size := 4 }

/-- SPI transfers where the write of `CONFIG2` answers `ret` and the others succeed. -/
def answering (ret : Int) : Fin 8 → ChannelAnswers := fun _ =>
  { config0 := 0, config2 := ret, mux := 0, transceive := 0, reg24 := (1, 2, 3) }

theorem samples_configured_channel0 :
    (Mcp356x.holding 0x83).Coherent ∧ (run Mcp356x.step (Mcp356x.holding 0x83)
      [setupChannel0, .read_channel channel0 (answering 0)]).Coherent := by
  have hcoh : (Mcp356x.holding 0x83).Coherent := ⟨rfl, rfl, rfl⟩
  have hsound : ∀ pre op, pre ++ [op] <+: [setupChannel0, .read_channel channel0 (answering 0)] →
      op.sound (run Mcp356x.step (Mcp356x.holding 0x83) pre) := by
    rw [forall_step_cons, forall_step_cons]
    refine ⟨fun hid => absurd hid (by decide), fun _ _ => ?_, forall_step_nil⟩
    exact ⟨⟨fun _ => rfl, fun _ => rfl, fun _ => rfl⟩, .inr trivial⟩
  exact ⟨hcoh, (samples_configured hcoh _ hsound).1 _ List.prefix_rfl⟩

/-- The write of `CONFIG2` fails, and the sample is read under the old gain. -/
theorem not_samples_configured_failed_write :
    ¬ ∀ (s : Mcp356x) (ops : List AdcOp), s.Coherent →
      ∀ pre sequence answers, pre ++ [.read_channel sequence answers] <+: ops →
        ((run Mcp356x.step s pre).readChannel sequence answers).2.2 = 0 →
        ∀ sample ∈ ((run Mcp356x.step s pre).readChannel sequence answers).2.1,
          (run Mcp356x.step s pre).data.Configured sample := by
  intro h
  have hconf := h (Mcp356x.holding 0x83) [setupChannel0, .read_channel channel0 (answering (-5))]
    ⟨rfl, rfl, rfl⟩ [setupChannel0] channel0 (answering (-5)) List.prefix_rfl (by decide)
    { channel := 0, value := 0x010203, regs := { config0 := 0x80, config2 := 0x83, mux := 0x18 } }
    (List.mem_singleton.mpr rfl)
  exact absurd hconf.2 (by decide)

end Backplane.Drivers
