import Backplane.Drivers.Mcp356x
import Backplane.General.Bits
import Backplane.General.Word
import Mathlib.Logic.Function.Basic

/-!
# The samples of a sequence

What `mcp356x_read_channel` leaves in `sequence->buffer`, which is an array of words here. The
channels are counted over the 32 bits of `sequence->channels`, and visited up to `MAX_CHANNELS`, so
that a channel from 8 on is paid for, never read, and not reported.

Results:
* `signExtend_mcpReadReg24`: the word that is stored for the three bytes of a code.
* `readLoop_cases`: the loop over the channels, by induction on the channels that remain.
* `delivers_iff`: the calls that deliver every channel they were asked for, or report an error.
-/

namespace Backplane.Drivers

open Backplane.Word

/-- The channels whose bits are set, in ascending order. -/
def AdcSequence.channelIds (sequence : AdcSequence) : List Nat :=
  (List.range 32).filter fun k => sequence.channels.toNat.testBit k

/-- `sample_array[sample_index] = signed_value; sample_index++` for every sample. -/
def storeSamples (sample_array : Nat → UInt32) (sample_index : Nat) : List Sample → Nat → UInt32
  | [] => sample_array
  | sample :: samples =>
    storeSamples (Function.update sample_array sample_index sample.value) (sample_index + 1) samples

/-- The words of the buffer after `mcp356x_read_channel`. -/
def Mcp356x.bufferAfter (s : Mcp356x) (sequence : AdcSequence)
    (answers : Fin 8 → ChannelAnswers) (buffer : Nat → UInt32) : Nat → UInt32 :=
  storeSamples buffer 0 (s.readChannel sequence answers).2.1

/-- The number whose two's complement is the big-endian code of 24 bits that was received. -/
def ChannelAnswers.code (a : ChannelAnswers) : Int :=
  (a.reg24.1.toNat * 2 ^ 16 + a.reg24.2.1.toNat * 2 ^ 8 + a.reg24.2.2.toNat : Int).bmod (2 ^ 24)

/-- **Every requested channel is delivered**, or the call returns an error. -/
structure Mcp356x.Delivers (s : Mcp356x) (sequence : AdcSequence)
    (answers : Fin 8 → ChannelAnswers) (buffer : Nat → UInt32) : Prop where
  samples : (s.readChannel sequence answers).2.2 = 0 →
    ∀ (k channel : Nat), sequence.channelIds[k]? = some channel →
      ∃ i : Fin 8, i.val = channel ∧
        (s.bufferAfter sequence answers buffer k).toInt32.toInt = (answers i).code
  fails : (s.readChannel sequence answers).2.2 ≠ 0 → (s.readChannel sequence answers).2.2 < 0
  frame : ∀ k, popcount sequence.channels ≤ k → s.bufferAfter sequence answers buffer k = buffer k

/-! ## One code -/

/-- The three bytes of a code, put together. -/
theorem toNat_bytes24 (b1 b2 b3 : UInt8) :
    ((b1.toUInt32 <<< 16) ||| (b2.toUInt32 <<< 8) ||| b3.toUInt32).toNat =
      b1.toNat * 2 ^ 16 + b2.toNat * 2 ^ 8 + b3.toNat := by
  have h1 := b1.toNat_lt
  have h2 := b2.toNat_lt
  have h3 := b3.toNat_lt
  rw [UInt32.toNat_or, UInt32.toNat_or, UInt32.toNat_shiftLeft, UInt32.toNat_shiftLeft,
    UInt8.toNat_toUInt32, UInt8.toNat_toUInt32, UInt8.toNat_toUInt32]
  show b1.toNat <<< 16 % 2 ^ 32 ||| b2.toNat <<< 8 % 2 ^ 32 ||| b3.toNat = _
  rw [Nat.shiftLeft_eq, Nat.shiftLeft_eq, Nat.mod_eq_of_lt (by omega), Nat.mod_eq_of_lt (by omega),
    Nat.or_assoc, ← Nat.shiftLeft_eq b2.toNat, ← Nat.shiftLeft_add_eq_or_of_lt h3,
    ← Nat.shiftLeft_eq b1.toNat,
    ← Nat.shiftLeft_add_eq_or_of_lt (by rw [Nat.shiftLeft_eq]; omega), Nat.shiftLeft_eq,
    Nat.shiftLeft_eq]
  omega

theorem toInt_signExtend2432 {x : UInt32} (h : x.toNat < 2 ^ 24) :
    (signExtend2432 x).toInt32.toInt = (x.toNat : Int).bmod (2 ^ 24) := by
  have hsign := xor_sub_sign (n := 23) h
  have hlt : x.toNat ^^^ 2 ^ 23 < 2 ^ 24 := Nat.xor_lt_two_pow h (by decide)
  rw [toInt_toInt32_word, signExtend2432, UInt32.toNat_sub, UInt32.toNat_xor,
    show ((1 : UInt32) <<< 23).toNat = 2 ^ 23 from rfl, ← hsign]
  generalize x.toNat ^^^ 2 ^ 23 = y at hlt ⊢
  rw [bmod_congr (y := (y : Int) - (2 ^ 23 : Nat)) (by omega)]
  exact Int.bmod_eq_of_le (by omega) (by omega)

/-- **The word that is stored** is the code that was received. -/
theorem signExtend_mcpReadReg24 {a : ChannelAnswers} {val : UInt32}
    (h : a.mcpReadReg24 = .ok val) : (signExtend2432 val).toInt32.toInt = a.code := by
  have h1 := a.reg24.1.toNat_lt
  have h2 := a.reg24.2.1.toNat_lt
  have h3 := a.reg24.2.2.toNat_lt
  unfold ChannelAnswers.mcpReadReg24 at h
  split at h
  · cases h
  · have hval := toNat_bytes24 a.reg24.1 a.reg24.2.1 a.reg24.2.2
    rw [Except.ok.inj h] at hval
    rw [toInt_signExtend2432 (by omega), hval]
    unfold ChannelAnswers.code
    push_cast
    rfl

/-! ## The loop -/

theorem mcpReadReg24_error {a : ChannelAnswers} {res : Int}
    (h : a.mcpReadReg24 = .error res) : a.transceive < 0 ∧ res < 0 := by
  unfold ChannelAnswers.mcpReadReg24 at h
  by_cases hlt : a.transceive < 0
  · rw [if_pos hlt] at h
    cases h
    exact ⟨hlt, hlt⟩
  · rw [if_neg hlt] at h
    cases h

/-- **What the loop does**: a transfer fails, or every requested channel has its sample. -/
theorem readLoop_cases (sequence : AdcSequence) (answers : Fin 8 → ChannelAnswers)
    (channels : List (Fin 8)) (s : Mcp356x) :
    ((∃ i ∈ channels, sequence.requests i = true ∧ (answers i).transceive < 0) ∧
      (s.readLoop sequence answers channels).2.2 < 0 ∧
      (s.readLoop sequence answers channels).2.1.length ≤
        (channels.filter sequence.requests).length) ∨
    ((∀ i ∈ channels, sequence.requests i = true → ¬(answers i).transceive < 0) ∧
      (s.readLoop sequence answers channels).2.2 = 0 ∧
      List.Forall₂ (fun i sample => sample.value.toInt32.toInt = (answers i).code)
        (channels.filter sequence.requests) (s.readLoop sequence answers channels).2.1) := by
  induction channels generalizing s with
  | nil => simp [Mcp356x.readLoop]
  | cons i channels ih =>
    unfold Mcp356x.readLoop
    by_cases hi : sequence.requests i = true
    · rw [if_pos hi, List.filter_cons_of_pos hi]
      simp only
      cases hread : (answers i).mcpReadReg24 with
      | error res =>
        obtain ⟨hfail, hneg⟩ := mcpReadReg24_error hread
        exact .inl ⟨⟨i, List.mem_cons_self, hi, hfail⟩, hneg, Nat.zero_le _⟩
      | ok val =>
        have hok := not_neg_of_mcpReadReg24 hread
        rcases ih (s.configure i (answers i)) with ⟨⟨j, hj, hfail⟩, hret, hlen⟩ | ⟨hall, hret, hval⟩
        · exact .inl ⟨⟨j, List.mem_cons_of_mem i hj, hfail⟩, hret, Nat.succ_le_succ hlen⟩
        · refine .inr ⟨?_, hret, .cons (signExtend_mcpReadReg24 hread) hval⟩
          intro j hj
          rcases List.mem_cons.mp hj with rfl | hj
          · exact fun _ => hok
          · exact hall j hj
    · rw [if_neg hi, List.filter_cons_of_neg hi]
      rcases ih s with ⟨⟨j, hj, hfail⟩, hret⟩ | ⟨hall, hret⟩
      · exact .inl ⟨⟨j, List.mem_cons_of_mem i hj, hfail⟩, hret⟩
      · refine .inr ⟨?_, hret⟩
        intro j hj hreq
        rcases List.mem_cons.mp hj with rfl | hj
        · exact absurd hreq hi
        · exact hall j hj hreq

/-! ## The buffer -/

/-- A word of the buffer: a sample, or what was there. -/
theorem storeSamples_apply (samples : List Sample) (sample_array : Nat → UInt32)
    (sample_index k : Nat) :
    storeSamples sample_array sample_index samples (sample_index + k) =
      (samples[k]?.map Sample.value).getD (sample_array (sample_index + k)) ∧
    (k < sample_index → storeSamples sample_array sample_index samples k = sample_array k) := by
  induction samples generalizing sample_array sample_index k with
  | nil => simp [storeSamples]
  | cons sample samples ih =>
    unfold storeSamples
    constructor
    · cases k with
      | zero =>
        rw [(ih _ (sample_index + 1) (sample_index + 0)).2 (Nat.lt_succ_self _)]
        simp
      | succ k =>
        have hstep := (ih (Function.update sample_array sample_index sample.value)
          (sample_index + 1) k).1
        rw [show sample_index + (k + 1) = sample_index + 1 + k by omega, hstep]
        simp [Function.update_of_ne, show sample_index + 1 + k ≠ sample_index by omega]
    · intro hk
      rw [(ih _ (sample_index + 1) k).2 (by omega), Function.update_of_ne (by omega)]

theorem storeSamples_zero (samples : List Sample) (sample_array : Nat → UInt32) (k : Nat) :
    storeSamples sample_array 0 samples k =
      (samples[k]?.map Sample.value).getD (sample_array k) := by
  have h := (storeSamples_apply samples sample_array 0 k).1
  rwa [Nat.zero_add] at h

/-! ## The bits of the sequence -/

/-- The loop asks for the bits that are counted. -/
theorem requests_eq (sequence : AdcSequence) (i : Fin 8) :
    sequence.requests i = sequence.channels.toNat.testBit i := by
  have hi : i.val.toUInt32.toNat = i.val := Nat.mod_eq_of_lt (by omega)
  have hand : ((sequence.channels >>> i.val.toUInt32) &&& 0b1).toNat =
      (sequence.channels.toNat.testBit i).toNat := by
    rw [UInt32.toNat_and, UInt32.toNat_shiftRight, hi, Nat.mod_eq_of_lt (by omega)]
    exact Bits.shiftRight_and_one _ _
  rw [AdcSequence.requests, Bool.eq_iff_iff, decide_eq_true_iff, Ne, ← UInt32.toNat_inj, hand]
  cases sequence.channels.toNat.testBit i <;> decide

/-- The channels up to `MAX_CHANNELS` come first among those that are counted. -/
theorem channelIds_eq (sequence : AdcSequence) :
    sequence.channelIds = ((List.finRange 8).filter sequence.requests).map Fin.val ++
      ((List.range 24).map (8 + ·)).filter fun k => sequence.channels.toNat.testBit k := by
  have hvisited : ((List.finRange 8).filter sequence.requests).map Fin.val =
      (List.range 8).filter fun k => sequence.channels.toNat.testBit k := by
    rw [show List.range 8 = (List.finRange 8).map Fin.val from rfl, List.filter_map]
    congr 1
    apply List.filter_congr
    intro i _
    exact requests_eq sequence i
  rw [AdcSequence.channelIds, show 32 = 8 + 24 from rfl, List.range_add, List.filter_append,
    hvisited]

theorem length_visited_le (sequence : AdcSequence) :
    ((List.finRange 8).filter sequence.requests).length ≤ popcount sequence.channels := by
  have hlen := congrArg List.length (channelIds_eq sequence)
  rw [List.length_append, List.length_map] at hlen
  rw [popcount]
  exact Nat.le.intro hlen.symm

/-- Without a bit from 8 on, the channels that are counted are the ones that are visited. -/
theorem channelIds_of_lt {sequence : AdcSequence} (h : sequence.channels < 256) :
    sequence.channelIds = ((List.finRange 8).filter sequence.requests).map Fin.val := by
  have hlt : sequence.channels.toNat < 2 ^ 8 := UInt32.lt_iff_toNat_lt.mp h
  rw [channelIds_eq, List.filter_map, List.append_right_eq_self, List.map_eq_nil_iff,
    List.filter_eq_nil_iff]
  intro k _
  simp [Nat.testBit_lt_two_pow (Nat.lt_of_lt_of_le hlt (Nat.pow_le_pow_right Nat.two_pos
    (Nat.le_add_right 8 k)))]

/-- A bit from 8 on is counted. -/
theorem exists_channelId_of_le {sequence : AdcSequence} (h : ¬sequence.channels < 256) :
    ∃ k channel : Nat, sequence.channelIds[k]? = some channel ∧ 8 ≤ channel := by
  have hbit : ∃ channel, 8 ≤ channel ∧ sequence.channels.toNat.testBit channel = true := by
    by_contra hnone
    refine h (UInt32.lt_iff_toNat_lt.mpr (Nat.lt_pow_two_of_testBit (n := 8) _ ?_))
    intro channel hle
    by_contra hset
    exact hnone ⟨channel, hle, by simpa using hset⟩
  obtain ⟨channel, hle, hset⟩ := hbit
  have hlt : channel < 32 := by
    by_contra hge
    have hpow := Nat.pow_le_pow_right Nat.two_pos (Nat.le_of_not_lt hge)
    rw [Nat.testBit_lt_two_pow (Nat.lt_of_lt_of_le (UInt32.toNat_lt _) hpow)] at hset
    cases hset
  have hmem : channel ∈ sequence.channelIds :=
    List.mem_filter.mpr ⟨List.mem_range.mpr hlt, hset⟩
  obtain ⟨k, hk⟩ := List.mem_iff_getElem?.mp hmem
  exact ⟨k, channel, hk, hle⟩

/-! ## The calls that deliver -/

section
variable {s : Mcp356x} {sequence : AdcSequence} {answers : Fin 8 → ChannelAnswers}
  {buffer : Nat → UInt32}

/-- No word is written past the samples. -/
theorem frame_of_length
    (h : (s.readChannel sequence answers).2.1.length ≤ popcount sequence.channels) (k : Nat)
    (hk : popcount sequence.channels ≤ k) : s.bufferAfter sequence answers buffer k = buffer k := by
  rw [Mcp356x.bufferAfter, storeSamples_zero, List.getElem?_eq_none (Nat.le_trans h hk)]
  rfl

/-- A call that fails before it has a sample for every requested channel. -/
theorem delivers_of_neg (h : (s.readChannel sequence answers).2.2 < 0)
    (hlen : (s.readChannel sequence answers).2.1.length ≤ popcount sequence.channels) :
    s.Delivers sequence answers buffer where
  samples hret := absurd hret (Int.ne_of_lt h)
  fails _ := h
  frame := frame_of_length hlen

/-- A call that returns with a sample for every channel it visited, where these are all. -/
theorem delivers_of_lt (hlt : sequence.channels < 256)
    (hret : (s.readChannel sequence answers).2.2 = 0)
    (hval : List.Forall₂ (fun i sample => sample.value.toInt32.toInt = (answers i).code)
      ((List.finRange 8).filter sequence.requests) (s.readChannel sequence answers).2.1) :
    s.Delivers sequence answers buffer where
  samples _ k channel hk := by
    rw [channelIds_of_lt hlt, List.getElem?_map, Option.map_eq_some_iff] at hk
    obtain ⟨i, hi, rfl⟩ := hk
    obtain ⟨hk', rfl⟩ := List.getElem?_eq_some_iff.mp hi
    have hk'' := hval.length_eq ▸ hk'
    refine ⟨_, rfl, ?_⟩
    rw [Mcp356x.bufferAfter, storeSamples_zero, List.getElem?_eq_getElem hk'']
    exact hval.get hk' hk''
  fails h := absurd hret h
  frame := frame_of_length (hval.length_eq ▸ length_visited_le sequence)

/-- A call that is refused before the loop. -/
theorem readChannel_refused (h : sequence.options = true ∨
    sequence.buffer_size < 4 * popcount sequence.channels) :
    s.readChannel sequence answers = (s, [], -1) := by
  unfold Mcp356x.readChannel
  rcases h with hoptions | hsize
  · rw [if_pos hoptions]
  · rw [if_pos hsize, ite_self]

end

/-- The call reports an error: it is refused, or a code cannot be read. -/
def AdcSequence.Refused (sequence : AdcSequence) (answers : Fin 8 → ChannelAnswers) : Prop :=
  sequence.options = true ∨ sequence.buffer_size < 4 * popcount sequence.channels ∨
    ∃ i, sequence.requests i = true ∧ (answers i).transceive < 0

/-- **The calls that deliver** every channel they were asked for, or report an error: no bit from 8
on is set, or the call fails for another reason. -/
theorem delivers_iff (s : Mcp356x) (sequence : AdcSequence) (answers : Fin 8 → ChannelAnswers)
    (buffer : Nat → UInt32) :
    s.Delivers sequence answers buffer ↔
      sequence.channels < 256 ∨ sequence.Refused answers := by
  by_cases hrefused : sequence.options = true ∨
      sequence.buffer_size < 4 * popcount sequence.channels
  · have hcall := @readChannel_refused s sequence answers hrefused
    refine ⟨fun _ => .inr (hrefused.imp_right .inl), fun _ => delivers_of_neg ?_ ?_⟩
    · rw [hcall]
      exact Int.negSucc_lt_zero 0
    · rw [hcall]
      exact Nat.zero_le _
  · obtain ⟨hoptions, hsize⟩ := not_or.mp hrefused
    have hcall : s.readChannel sequence answers =
        s.readLoop sequence answers (List.finRange 8) := by
      rw [Mcp356x.readChannel, if_neg hoptions, if_neg hsize]
    rcases readLoop_cases sequence answers (List.finRange 8) s with
      ⟨⟨i, _, hfail⟩, hret, hlen⟩ | ⟨hok, hret, hval⟩
    · rw [← hcall] at hret hlen
      exact ⟨fun _ => .inr (.inr (.inr ⟨i, hfail⟩)),
        fun _ => delivers_of_neg hret (Nat.le_trans hlen (length_visited_le sequence))⟩
    · rw [← hcall] at hret hval
      constructor
      · intro h
        by_contra hcond
        obtain ⟨k, channel, hk, hle⟩ := exists_channelId_of_le (not_or.mp hcond).1
        obtain ⟨i, rfl, _⟩ := h.samples hret k channel hk
        exact absurd i.isLt (Nat.not_lt.mpr hle)
      · rintro (hlt | hoptions' | hsize' | ⟨i, hreq, hfail⟩)
        · exact delivers_of_lt hlt hret hval
        · exact absurd hoptions' hoptions
        · exact absurd hsize' hsize
        · exact absurd hfail (hok i (List.mem_finRange i) hreq)

/-- **Channel 8 is asked for**, paid for with four bytes, and not read: the call returns 0 and
leaves the buffer as it was. -/
theorem not_delivers_channel8 :
    ¬ ∀ (s : Mcp356x) (sequence : AdcSequence) (answers : Fin 8 → ChannelAnswers)
      (buffer : Nat → UInt32), s.Delivers sequence answers buffer := by
  intro h
  have hcall := (h (Mcp356x.holding 0x83) { options := false, channels := 256, buffer_size := 4 }
    (answering 0) fun _ => 0).samples (by decide) 0 8 (by decide)
  obtain ⟨i, hi, _⟩ := hcall
  exact absurd i.isLt (by omega)

end Backplane.Drivers
