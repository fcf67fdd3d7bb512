import Backplane.Drivers.Mcp356x
import Mathlib.Logic.Function.Basic

/-!
# The setup of a channel

What `mcp356x_channel_setup` lets through. Its check of the channel is off by one, and its checks of
the two inputs log and go on.

Results:
* `channelSetup_of_taken`: the entry of a setup that is taken.
* `nibbles_iff`: the inputs that keep to their half of the mux register.
* `setsUp_iff`: the setups that are valid, or refused.
* `readChannel_frame`: a read leaves the map and what lies behind it.
* `entries_of_valid`: the map in the runs of valid setups.
-/

namespace Backplane.Drivers

open Backplane.Run

def MAX_INPUT_CHANNEL : UInt8 := 15

/-- The code takes the setup. -/
structure AdcChannelCfg.Taken (cfg : AdcChannelCfg) (ready : Bool) : Prop where
  ready : ready = true
  channel : cfg.channel_id.val ≤ 8
  gain : gainBits cfg.gain ≠ none
  reference : vrefSelBits cfg.reference ≠ none

instance instDecidableTaken (cfg : AdcChannelCfg) (ready : Bool) : Decidable (cfg.Taken ready) :=
  decidable_of_iff (ready = true ∧ cfg.channel_id.val ≤ 8 ∧ (gainBits cfg.gain).isSome = true ∧
    (vrefSelBits cfg.reference).isSome = true)
    ⟨fun ⟨h, hid, hg, hr⟩ => ⟨h, hid, Option.isSome_iff_ne_none.mp hg,
      Option.isSome_iff_ne_none.mp hr⟩,
    fun ⟨h, hid, hg, hr⟩ => ⟨h, hid, Option.isSome_iff_ne_none.mpr hg,
      Option.isSome_iff_ne_none.mpr hr⟩⟩

/-- The channel is one of the map and its inputs are inputs of the device. -/
structure AdcChannelCfg.Valid (cfg : AdcChannelCfg) : Prop where
  channel : cfg.channel_id.val < 8
  positive : cfg.input_positive ≤ MAX_INPUT_CHANNEL
  negative : cfg.input_negative ≤ MAX_INPUT_CHANNEL

/-- The mux register of the entry has the positive input in its high nibble and the negative one in
its low nibble. -/
def ChannelMapEntry.Selects (entry : ChannelMapEntry) (cfg : AdcChannelCfg) : Prop :=
  entry.mux_reg >>> 4 = cfg.input_positive ∧ entry.mux_reg &&& 0xF = cfg.input_negative

/-- **A setup is valid and changes its entry alone**, or it is refused and changes nothing. -/
structure Mcp356xData.SetsUp (d : Mcp356xData) (ready : Bool) (cfg : AdcChannelCfg) : Prop where
  accepts : (d.channelSetup ready cfg).2 = 0 →
    cfg.Valid ∧ gainBits cfg.gain ≠ none ∧ vrefSelBits cfg.reference ≠ none
  stores : (d.channelSetup ready cfg).2 = 0 → ∃ (entry : ChannelMapEntry)
    (h : cfg.channel_id.val < 8), entry.Selects cfg ∧ (d.channelSetup ready cfg).1 =
      { d with channel_map := d.channel_map.set cfg.channel_id.val entry h }
  refuses : (d.channelSetup ready cfg).2 ≠ 0 →
    (d.channelSetup ready cfg).2 < 0 ∧ (d.channelSetup ready cfg).1 = d

/-! ## One setup -/

section
variable {d : Mcp356xData} {ready : Bool} {cfg : AdcChannelCfg}

/-- **A setup that is taken** is stored. -/
theorem channelSetup_of_taken (h : cfg.Taken ready) : ∃ entry : ChannelMapEntry,
    entry.mux_reg = (cfg.input_positive <<< 4) ||| cfg.input_negative ∧
      d.channelSetup ready cfg = (d.setEntry cfg.channel_id.val entry, 0) := by
  obtain ⟨gain_bits, hgain⟩ := Option.ne_none_iff_exists'.mp h.gain
  obtain ⟨vref_sel_bits, href⟩ := Option.ne_none_iff_exists'.mp h.reference
  unfold Mcp356xData.channelSetup
  rw [if_neg (by simp [h.ready]), if_neg (Nat.not_lt.mpr h.channel), hgain, href]
  exact ⟨_, rfl, rfl⟩

/-- A setup that is not taken is refused. -/
theorem channelSetup_of_not_taken (h : ¬cfg.Taken ready) :
    (d.channelSetup ready cfg).2 < 0 ∧ (d.channelSetup ready cfg).1 = d := by
  rcases channelSetup_cases d ready cfg with ⟨e, he, heq⟩ | ⟨hready, hle, hgain, href, _⟩
  · rw [heq]
    exact ⟨he, rfl⟩
  · exact absurd ⟨hready, hle, hgain, href⟩ h

end

theorem toNat_mux_reg {p n : UInt8} (hp : p ≤ MAX_INPUT_CHANNEL) (hn : n ≤ MAX_INPUT_CHANNEL) :
    ((p <<< 4) ||| n).toNat = 16 * p.toNat + n.toNat := by
  have hp' : p.toNat ≤ 15 := UInt8.le_iff_toNat_le.mp hp
  have hn' : n.toNat < 2 ^ 4 := Nat.lt_succ_of_le (UInt8.le_iff_toNat_le.mp hn)
  rw [UInt8.toNat_or, UInt8.toNat_shiftLeft]
  show p.toNat <<< 4 % 2 ^ 8 ||| n.toNat = _
  rw [Nat.shiftLeft_eq, Nat.mod_eq_of_lt (by omega), ← Nat.shiftLeft_eq,
    ← Nat.shiftLeft_add_eq_or_of_lt hn', Nat.shiftLeft_eq]
  omega

/-- **The inputs that keep to their nibble.** -/
theorem nibbles_iff {entry : ChannelMapEntry} {cfg : AdcChannelCfg}
    (h : entry.mux_reg = (cfg.input_positive <<< 4) ||| cfg.input_negative) :
    entry.Selects cfg ↔
      cfg.input_positive ≤ MAX_INPUT_CHANNEL ∧ cfg.input_negative ≤ MAX_INPUT_CHANNEL := by
  constructor
  · rintro ⟨hhigh, hlow⟩
    constructor
    · rw [← hhigh, UInt8.le_iff_toNat_le, UInt8.toNat_shiftRight]
      show entry.mux_reg.toNat >>> 4 ≤ 15
      have hlt := entry.mux_reg.toNat_lt
      rw [Nat.shiftRight_eq_div_pow]
      omega
    · rw [← hlow, UInt8.le_iff_toNat_le, UInt8.toNat_and]
      exact Nat.and_le_right
  · rintro ⟨hp, hn⟩
    have hmux := toNat_mux_reg hp hn
    have hn' : cfg.input_negative.toNat < 16 := Nat.lt_succ_of_le (UInt8.le_iff_toNat_le.mp hn)
    rw [← h] at hmux
    constructor
    · rw [← UInt8.toNat_inj, UInt8.toNat_shiftRight]
      show entry.mux_reg.toNat >>> 4 = _
      rw [Nat.shiftRight_eq_div_pow]
      omega
    · rw [← UInt8.toNat_inj, UInt8.toNat_and]
      show entry.mux_reg.toNat &&& (2 ^ 4 - 1) = _
      rw [Nat.and_two_pow_sub_one_eq_mod]
      omega

theorem setEntry_of_lt (d : Mcp356xData) {id : Nat} (h : id < 8) (entry : ChannelMapEntry) :
    d.setEntry id entry = { d with channel_map := d.channel_map.set id entry h } := dif_pos h

/-- The setups that slip through the checks. -/
def AdcChannelCfg.SlipsThrough (cfg : AdcChannelCfg) (ready : Bool) : Prop :=
  cfg.Taken ready ∧ (cfg.channel_id.val = 8 ∨ MAX_INPUT_CHANNEL < cfg.input_positive ∨
    MAX_INPUT_CHANNEL < cfg.input_negative)

theorem valid_iff_of_taken {cfg : AdcChannelCfg} {ready : Bool} (h : cfg.Taken ready) :
    cfg.Valid ↔ ¬cfg.SlipsThrough ready := by
  constructor
  · rintro hvalid ⟨-, hid | hp | hn⟩
    · exact absurd hvalid.channel (by omega)
    · exact absurd hvalid.positive (UInt8.not_le.mpr hp)
    · exact absurd hvalid.negative (UInt8.not_le.mpr hn)
  · intro hslip
    obtain ⟨hid, hinputs⟩ := not_or.mp fun hor => hslip ⟨h, hor⟩
    obtain ⟨hp, hn⟩ := not_or.mp hinputs
    exact ⟨Nat.lt_of_le_of_ne h.channel hid, UInt8.not_lt.mp hp, UInt8.not_lt.mp hn⟩

/-- **The setups that are right**: all but those that slip through. -/
theorem setsUp_iff (d : Mcp356xData) (ready : Bool) (cfg : AdcChannelCfg) :
    d.SetsUp ready cfg ↔ ¬cfg.SlipsThrough ready := by
  by_cases htaken : cfg.Taken ready
  · obtain ⟨entry, hmux, hcall⟩ := channelSetup_of_taken (d := d) htaken
    rw [← valid_iff_of_taken htaken]
    constructor
    · intro h
      exact (h.accepts (by rw [hcall])).1
    · intro hvalid
      refine ⟨fun _ => ⟨hvalid, htaken.gain, htaken.reference⟩, fun _ => ?_, ?_⟩
      · have hnibbles := (nibbles_iff hmux).mpr ⟨hvalid.positive, hvalid.negative⟩
        refine ⟨entry, hvalid.channel, hnibbles, ?_⟩
        rw [hcall, setEntry_of_lt d hvalid.channel]
      · rw [hcall]
        exact fun h0 => absurd rfl h0
  · have hcall := channelSetup_of_not_taken (d := d) htaken
    have hne : (d.channelSetup ready cfg).2 ≠ 0 := Int.ne_of_lt hcall.1
    exact ⟨fun _ hslip => htaken hslip.1,
      fun _ => ⟨fun h0 => absurd h0 hne, fun h0 => absurd h0 hne, fun _ => hcall⟩⟩

/-! ## Runs -/

/-- What lies behind the channel map, as far as only a setup could change it. -/
def Mcp356xData.behind (d : Mcp356xData) : UInt8 × UInt8 :=
  (d.enabled_channels_bitmap, d.config1)

/-- **A read** leaves the map and what lies behind it. -/
theorem readLoop_frame (sequence : AdcSequence) (answers : Fin 8 → ChannelAnswers)
    (channels : List (Fin 8)) (s : Mcp356x) :
    (s.readLoop sequence answers channels).1.data.channel_map = s.data.channel_map ∧
      (s.readLoop sequence answers channels).1.data.behind = s.data.behind := by
  induction channels generalizing s with
  | nil => exact ⟨rfl, rfl⟩
  | cons i channels ih =>
    unfold Mcp356x.readLoop
    by_cases hi : sequence.requests i = true
    · rw [if_pos hi]
      simp only
      cases (answers i).mcpReadReg24 with
      | error res => exact ⟨rfl, rfl⟩
      | ok val => exact ih (s.configure i (answers i))
    · rw [if_neg hi]
      exact ih s

theorem readChannel_frame (sequence : AdcSequence) (answers : Fin 8 → ChannelAnswers)
    (s : Mcp356x) :
    (s.readChannel sequence answers).1.data.channel_map = s.data.channel_map ∧
      (s.readChannel sequence answers).1.data.behind = s.data.behind := by
  unfold Mcp356x.readChannel
  by_cases hoptions : sequence.options = true
  · simp [hoptions]
  · by_cases hsize : sequence.buffer_size < 4 * popcount sequence.channels
    · simp [hsize]
    · rw [if_neg hoptions, if_neg hsize]
      exact readLoop_frame sequence answers _ s

/-- The last setup of every channel that was taken, after a call. -/
def lastSetup (last : Nat → Option AdcChannelCfg) :
    AdcOp → Nat → Option AdcChannelCfg
  | .channel_setup ready cfg =>
    if cfg.Taken ready then Function.update last cfg.channel_id.val (some cfg) else last
  | .read_channel _ _ => last

/-- Every entry is the one it was at first, or selects the inputs of the last setup of its channel,
which are inputs of the device. Nothing was written behind the map. -/
structure Mcp356x.SetUpBy (s₀ s : Mcp356x) (last : Nat → Option AdcChannelCfg) : Prop where
  untouched : ∀ i : Fin 8, last i = none → s.data.channel_map.get i = s₀.data.channel_map.get i
  selects : ∀ (i : Fin 8) cfg, last i = some cfg →
    cfg.Valid ∧ (s.data.channel_map.get i).Selects cfg
  behind : s.data.behind = s₀.data.behind

theorem step_setUpBy {s₀ s : Mcp356x} {last : Nat → Option AdcChannelCfg} {op : AdcOp}
    (h : s₀.SetUpBy s last) (hop : ∀ ready cfg, op = .channel_setup ready cfg →
      ¬cfg.SlipsThrough ready) : s₀.SetUpBy (s.step op) (lastSetup last op) := by
  cases op with
  | read_channel sequence answers =>
    obtain ⟨hmap, hbehind⟩ := readChannel_frame sequence answers s
    unfold Mcp356x.step lastSetup
    refine ⟨?_, ?_, hbehind.trans h.behind⟩
    · rw [hmap]
      exact h.untouched
    · rw [hmap]
      exact h.selects
  | channel_setup ready cfg =>
    have hsets := (setsUp_iff s.data ready cfg).mpr (hop ready cfg rfl)
    unfold Mcp356x.step lastSetup
    by_cases htaken : cfg.Taken ready
    · have hret : (s.data.channelSetup ready cfg).2 = 0 := by
        obtain ⟨entry, _, hcall⟩ := channelSetup_of_taken (d := s.data) htaken
        rw [hcall]
      obtain ⟨entry, hid, hselects, hdata⟩ := hsets.stores hret
      have hvalid := (hsets.accepts hret).1
      simp only [if_pos htaken, hdata]
      have hget : ∀ i : Fin 8, (s.data.channel_map.set cfg.channel_id.val entry hid).get i =
          if cfg.channel_id.val = i then entry else s.data.channel_map.get i := fun i => by
        have hset := s.data.channel_map.getElem_set (x := entry) hid i.isLt
        exact hset
      refine ⟨fun i hi => ?_, fun i cfg' hi => ?_, h.behind⟩
      · have hne : (i : Nat) ≠ cfg.channel_id.val := by
          intro heq
          rw [heq, Function.update_self] at hi
          cases hi
        rw [Function.update_of_ne hne] at hi
        rw [hget, if_neg hne.symm]
        exact h.untouched i hi
      · rw [hget]
        by_cases heq : (i : Nat) = cfg.channel_id.val
        · rw [heq, Function.update_self] at hi
          cases hi
          rw [if_pos heq.symm]
          exact ⟨hvalid, hselects⟩
        · rw [Function.update_of_ne heq] at hi
          rw [if_neg (Ne.symm heq)]
          exact h.selects i cfg' hi
    · simp only [if_neg htaken, (channelSetup_of_not_taken (d := s.data) htaken).2]
      exact h

/-- **The setups**: which of them are right, and what `read_channel` finds in the map where all of
them are. -/
theorem entries_of_valid (s : Mcp356x) (ops : List AdcOp) :
    (∀ d ready cfg, Mcp356xData.SetsUp d ready cfg ↔ ¬cfg.SlipsThrough ready) ∧
    ((∀ ready cfg, .channel_setup ready cfg ∈ ops → ¬cfg.SlipsThrough ready) →
      ∀ pre, pre <+: ops →
        s.SetUpBy (run Mcp356x.step s pre) (run lastSetup (fun _ => none) pre)) := by
  refine ⟨setsUp_iff, fun hops pre hpre => ?_⟩
  have hstart : s.SetUpBy s fun _ => none :=
    ⟨fun _ _ => rfl, fun _ _ hi => absurd hi (Option.some_ne_none _).symm, rfl⟩
  refine run_prefix (motive := fun pre t => s.SetUpBy t (run lastSetup (fun _ => none) pre)) hstart
    (fun pre op hop ht => ?_) hpre
  rw [run_snoc]
  refine step_setUpBy ht ?_
  rintro ready cfg rfl
  exact hops ready cfg (hop.subset (List.mem_append_right _ List.mem_cons_self))

/-- A run of one setup. -/
theorem entries_of_valid_channel0 :
    (Mcp356x.holding 0x83).SetUpBy (run Mcp356x.step (Mcp356x.holding 0x83) [setupChannel0])
      (run lastSetup (fun _ => none) [setupChannel0]) := by
  refine (entries_of_valid (Mcp356x.holding 0x83) [setupChannel0]).2 ?_ _ List.prefix_rfl
  intro ready cfg hmem
  cases List.mem_singleton.mp hmem
  rintro ⟨-, hid | hp | hn⟩
  · cases hid
  · exact absurd hp (by decide)
  · exact absurd hn (by decide)

/-- **Channel 8 is taken**, and its entry goes over the configuration behind the map. -/
theorem not_setsUp_channel8 :
    ¬ ∀ (d : Mcp356xData) (ready : Bool) (cfg : AdcChannelCfg), d.SetsUp ready cfg := by
  intro h
  have hvalid := ((h (Mcp356x.holding 0x83).data true
    { gain := .ADC_GAIN_1, reference := .ADC_REF_INTERNAL, channel_id := 8, differential := false
      input_positive := 1, input_negative := 8 }).accepts rfl).1
  exact absurd hvalid.channel (by decide)

end Backplane.Drivers
