import Backplane.Horus.Layer2

/-!
# Decoding a Horus packet

What `horus_l2_decode_rx_packet` makes of a buffer with errors, once scrambler and interleaver are
undone in it. The bits of a codeword stand in two places of the packet, its payload bits before all
parity bits.

Results, for payloads of 32 bytes:
* `Decoder.run_codewords`: the decoder over whole codewords, by induction.
* `existsUnique_codewordBits`: which bits of a packet are in a codeword.
* `decode_codeword`: a codeword with at most three errors is decoded.
* `horus_l2_decode_corrects`: the payload comes back if that is so of every codeword.
-/

namespace Backplane.Horus

open Backplane.Bits

/-! ## What the decoder reads -/

/-- Parity bits are read below what is there. -/
theorem readParity_eq (bytes : List UInt8) (start n : Nat) (bits : List Bool) :
    readParity bytes (2 * value bits) (readerAt bytes start n) =
      (value (bits ++ slice (bytesBits bytes) (8 * start + n) 11),
        readerAt bytes start (n + 11)) := by
  have hpartial : ∀ k ≤ 10, (List.range k).foldl (fun s i =>
      let ingolay := s.1 ||| s.2.bit
      (if i ≠ 10 then ingolay <<< 1 else ingolay, s.2.next bytes))
        (2 * value bits, readerAt bytes start n) =
      (2 * value (bits ++ slice (bytesBits bytes) (8 * start + n) k),
        readerAt bytes start (n + k)) := by
    -- before the last bit every bit is followed by a shift
    intro k hk
    induction k with
    | zero => simp [slice]
    | succ k ih =>
      have hshift : k ≠ 10 := by omega
      rw [List.range_succ, List.foldl_append, ih (by omega), List.foldl_cons, List.foldl_nil]
      simp only [if_pos hshift, bit_readerAt, next_readerAt, or_shiftLeft_one]
      rw [slice_succ, ← List.append_assoc, Nat.add_assoc n, Nat.add_assoc (8 * start)]
  rw [readParity, show 11 = 10 + 1 from rfl, List.range_succ, List.foldl_append,
    hpartial 10 (Nat.le_refl _), List.foldl_cons, List.foldl_nil]
  simp only [ne_eq, not_true_eq_false, if_false, bit_readerAt, next_readerAt, two_mul_or]
  rw [slice_succ _ _ 10, ← List.append_assoc, value_snoc, Nat.add_assoc n,
    Nat.add_assoc (8 * start)]

/-- The decoder over bits. -/
def Decoder.run (rx : List UInt8) (s : Decoder) (bits : List Bool) : Decoder :=
  bits.foldl (fun s bit => s.step rx bit.toNat) s

theorem Decoder.run_append (rx : List UInt8) (s : Decoder) (a b : List Bool) :
    s.run rx (a ++ b) = (s.run rx a).run rx b :=
  List.foldl_append

theorem Decoder.run_singleton (rx : List UInt8) (s : Decoder) (bit : Bool) :
    s.run rx [bit] = s.step rx bit.toNat := rfl

/-- Bits that fill no codeword are collected. -/
theorem Decoder.run_partial (rx : List UInt8) {n : Nat} (hn : n % 12 = 0) (r : BitReader)
    (w : BitWriter) {bits : List Bool} (h : bits.length < 12) :
    Decoder.run rx { ingolay := 0, ningolay := n, reader := r, writer := w } bits =
      { ingolay := 2 * value bits, ningolay := n + bits.length, reader := r, writer := w } := by
  induction bits using List.reverseRecOn with
  | nil => rfl
  | append_singleton bits bit ih =>
    rw [List.length_append, List.length_singleton] at h
    have hmore : (n + bits.length + 1) % 12 ≠ 0 := by omega
    rw [Decoder.run_append, ih (by omega), Decoder.run_singleton, Decoder.step]
    simp only [or_shiftLeft_one, if_neg hmore]
    rw [List.length_append, List.length_singleton, Nat.add_assoc]

/-- The data and parity bits of a packet that make codeword `c`. -/
def wordBits (bits : List Bool) (c : Nat) : List Bool :=
  messageBits (slice bits 16 256) c ++ slice bits (272 + 11 * c) 11

/-- The payload bits that the decoder writes for codeword `c`. -/
def decodedBits (bits : List Bool) (c : Nat) : List Bool :=
  digits 12 (golay23Decode (value (wordBits bits c)) >>> 11)

/-- Twelve bits and eleven parity bits are decoded. -/
theorem Decoder.run_full (rx : List UInt8) {n : Nat} (hn : n % 12 = 0) (k : Nat) (w : BitWriter)
    (bits : List Bool) (start : Nat) :
    Decoder.run rx { ingolay := 0, ningolay := n, reader := readerAt rx 34 k, writer := w }
        (slice bits start 12) =
      { ingolay := 0, ningolay := n + 12, reader := readerAt rx 34 (k + 11)
        writer := (digits 12 (golay23Decode (value
          (slice bits start 12 ++ slice (bytesBits rx) (272 + k) 11)) >>> 11)).foldl
            (fun w bit => w.put bit.toNat) w } := by
  have hlen := length_slice bits start 11
  have hfull : (n + 11 + 1) % 12 = 0 := by omega
  rw [slice_succ, Decoder.run_append, Decoder.run_partial rx hn _ w (by omega),
    Decoder.run_singleton, Decoder.step]
  simp only [or_shiftLeft_one, hlen, hfull, if_true, readParity_eq, Nat.reduceMul]
  rw [← foldl_put_digits]

/-- The locals before the first bit. -/
def Decoder.init (rx : List UInt8) : Decoder :=
  { ingolay := 0, ningolay := 0, reader := readerAt rx 34 0, writer := BitWriter.init }

/-- The decoder after whole codewords. -/
theorem Decoder.run_codewords (rx : List UInt8) {m : Nat} (hm : m ≤ 21) :
    Decoder.run rx (Decoder.init rx) (slice (slice (bytesBits rx) 16 256) 0 (12 * m)) =
      { ingolay := 0, ningolay := 12 * m, reader := readerAt rx 34 (11 * m)
        writer := ((List.range m).flatMap (decodedBits (bytesBits rx))).foldl
          (fun w bit => w.put bit.toNat) BitWriter.init } := by
  induction m with
  | zero => rfl
  | succ m ih =>
    rw [Nat.mul_succ, slice_add, Decoder.run_append, ih (by omega), Nat.zero_add,
      Decoder.run_full rx (by omega), List.range_succ, List.flatMap_append, List.foldl_append,
      List.flatMap_singleton, decodedBits, wordBits, messageBits_full _ hm, Nat.mul_succ]

/-- The payload bits of the codewords that have twelve. -/
def decodedCodewords (bits : List Bool) : List Bool := (List.range 21).flatMap (decodedBits bits)

theorem length_decodedCodewords (bits : List Bool) : (decodedCodewords bits).length = 252 := by
  rw [decodedCodewords, List.length_flatMap]
  simp [decodedBits]

/-- The last bits come from above the zero below them. -/
theorem foldl_put_last (v : Nat) (w : BitWriter) :
    (List.range 4).foldl (fun w i => w.put ((v >>> 11 >>> (4 - i)) &&& 1)) w =
      (digits 4 (v >>> 12)).foldl (fun w bit => w.put bit.toNat) w := by
  rw [← foldl_put_digits]
  simp only [List.range_succ, List.range_zero, List.nil_append, List.foldl_append, List.foldl_cons,
    List.foldl_nil, ← Nat.shiftRight_add]

/-- The decoder after all payload bits. -/
theorem Decoder.run_payload (rx : List UInt8) :
    Decoder.run rx (Decoder.init rx) (slice (bytesBits rx) 16 256) =
      { ingolay := 2 * value (slice (slice (bytesBits rx) 16 256) 252 4), ningolay := 256
        reader := readerAt rx 34 231
        writer := (decodedCodewords (bytesBits rx)).foldl
          (fun w bit => w.put bit.toNat) BitWriter.init } := by
  have hself := slice_self (length_slice (bytesBits rx) 16 256)
  have hsplit := slice_add (slice (bytesBits rx) 16 256) 0 252 4
  rw [← hself, hsplit, Decoder.run_append]
  have hcodewords := Decoder.run_codewords rx (Nat.le_refl 21)
  simp only [Nat.reduceMul] at hcodewords
  rw [hcodewords, Decoder.run_partial rx (by decide) _ _ (by simp), length_slice, ← hsplit, hself]
  rfl

/-- **What the decoder writes.** -/
theorem Decoder.bytesBits_last (rx : List UInt8) :
    bytesBits ((Decoder.run rx (Decoder.init rx) (slice (bytesBits rx) 16 256)).last rx 256).out =
      decodedCodewords (bytesBits rx) ++
        digits 4 (golay23Decode (value (wordBits (bytesBits rx) 21)) >>> 12) := by
  have hholds := BitWriter.Holds.init.putAll (decodedCodewords (bytesBits rx))
  rw [List.nil_append] at hholds
  -- 21 codewords took 231 parity bits
  have hparity := readParity_eq rx 34 231 []
  have hword : (2 * value (slice (slice (bytesBits rx) 16 256) 252 4)) >>> 1 <<< 12 +
      value (slice (bytesBits rx) 503 11) = value (wordBits (bytesBits rx) 21) := by
    rw [wordBits, value_append, value_messageBits_last, length_slice, Nat.shiftRight_eq_div_pow,
      Nat.shiftLeft_eq, show 272 + 11 * 21 = 503 from rfl]
    omega
  have hlast := hholds.putAll
    (digits 4 (golay23Decode (value (wordBits (bytesBits rx) 21)) >>> 12))
  rw [Decoder.run_payload, Decoder.last, if_pos (show 256 % 12 ≠ 0 by decide)]
  simp only [value_nil, Nat.mul_zero, List.nil_append, Nat.reduceMul, Nat.reduceAdd] at hparity
  simp only [hparity, hword, hholds.nbits, length_decodedCodewords, Nat.reduceSub]
  rw [foldl_put_last]
  refine hlast.out ?_
  rw [List.length_append, length_decodedCodewords, length_digits]

/-! ## Correction -/

/-- The bits of a packet that make codeword `c`: its payload bits, twelve or four, and its parity
bits. -/
def codewordBits (c : Nat) : List Nat :=
  List.range' (16 + 12 * c) (min 12 (256 - 12 * c)) ++ List.range' (272 + 11 * c) 11

/-- **The codewords share no bit**, and leave out the sync bytes and the six padding bits only. -/
theorem existsUnique_codewordBits (k : Nat) :
    (∃! c, c < 22 ∧ k ∈ codewordBits c) ↔ 16 ≤ k ∧ k < 514 := by
  simp only [codewordBits, List.mem_append, List.mem_range'_1]
  constructor
  · rintro ⟨c, ⟨hc, hk⟩, -⟩
    omega
  · rintro ⟨hlow, hhigh⟩
    rcases Nat.lt_or_ge k 272 with hpayload | hparity
    · refine ⟨(k - 16) / 12, ⟨by omega, .inl (by omega)⟩, ?_⟩
      rintro c ⟨hc, hk⟩
      omega
    · refine ⟨(k - 272) / 11, ⟨by omega, .inr (by omega)⟩, ?_⟩
      rintro c ⟨hc, hk⟩
      omega

/-- How many bits of codeword `c` differ. -/
def errors (sent received : List UInt8) (c : Nat) : Nat :=
  (codewordBits c).countP fun k => bitAt sent k ≠ bitAt received k

theorem count_slice (sent received : List UInt8) (start n : Nat) :
    (List.zipWith xor (slice (bytesBits sent) start n) (slice (bytesBits received) start n)).count
      true = (List.range' start n).countP fun k => bitAt sent k ≠ bitAt received k := by
  have hbit : ∀ a b : Bool, ((a ^^ b) == true) = decide (a.toNat ≠ b.toNat) := by decide
  rw [zipWith_slice, List.range'_eq_map_range, List.count, List.countP_map, List.countP_map]
  apply List.countP_congr
  intro k _
  simp only [Function.comp_apply, hbit, bitAt_eq]

/-- The errors of a codeword are the places where what was received of it differs. -/
theorem count_wordBits (sent received : List UInt8) {c : Nat} (hc : c < 22) :
    (List.zipWith xor (wordBits (bytesBits sent) c) (wordBits (bytesBits received) c)).count true =
      errors sent received c := by
  unfold wordBits messageBits errors codewordBits
  rw [List.countP_append, ← count_slice, ← count_slice]
  split
  · rename_i hfull
    have hslice (bits : List Bool) :
        slice (slice bits 16 256) (12 * c) 12 = slice bits (16 + 12 * c) 12 :=
      slice_slice bits (by omega)
    rw [List.zipWith_append (by simp), List.count_append, hslice, hslice,
      show min 12 (256 - 12 * c) = 12 by omega]
  · rename_i hlast
    obtain rfl : c = 21 := by omega
    have hslice (bits : List Bool) : slice (slice bits 16 256) 252 4 = slice bits 268 4 :=
      slice_slice bits (by decide)
    rw [List.zipWith_append (by simp), List.zipWith_append (by simp), List.count_append,
      List.count_append, hslice, hslice]
    rfl

variable {payload : List UInt8}

theorem slice_frame_payload (h : payload.length = 32) :
    slice (bytesBits (frame payload)) 16 256 = bytesBits payload := by
  have hlen : (bytesBits payload).length = 256 := by rw [length_bytesBits, h]
  rw [bytesBits_frame h, List.append_assoc]
  refine (slice_append_right (bytesBits uw) _ 0 256).trans ?_
  rw [slice_append_left (by rw [hlen]), slice_self hlen]

theorem slice_frame_parity (h : payload.length = 32) {c : Nat} (hc : c < 22) :
    slice (bytesBits (frame payload)) (272 + 11 * c) 11 = parityBits (bytesBits payload) c := by
  have hlen : (bytesBits uw ++ bytesBits payload).length = 272 := by
    rw [List.length_append, length_bytesBits, length_bytesBits, h]
    rfl
  have hright := slice_append_right (bytesBits uw ++ bytesBits payload)
    (paritiesOf (bytesBits payload) 22 ++ List.replicate 6 false) (11 * c) 11
  rw [hlen] at hright
  rw [bytesBits_frame h, hright, slice_append_left (by rw [length_paritiesOf]; omega), paritiesOf,
    slice_flatMap (parityBits (bytesBits payload)) (fun _ => length_digits 11 _) hc]

/-- The codewords of the encoder are codewords. -/
theorem value_wordBits_frame (h : payload.length = 32) {c : Nat} (hc : c < 22) :
    value (wordBits (bytesBits (frame payload)) c) =
      codeword (value (messageBits (bytesBits payload) c)) := by
  have hmessage := value_messageBits_lt (bytesBits payload) c
  rw [wordBits, slice_frame_payload h, slice_frame_parity h hc, value_append, parityBits,
    value_digits (parity_lt hmessage), length_digits, codeword_eq hmessage]

theorem length_wordBits (bits bits' : List Bool) (c : Nat) :
    (wordBits bits c).length = (wordBits bits' c).length ∧ (wordBits bits c).length ≤ 23 := by
  unfold wordBits messageBits
  split <;> simp

/-- **A codeword with at most three errors is decoded.** -/
theorem decode_codeword (h : payload.length = 32) {rx : List UInt8} {c : Nat} (hc : c < 22)
    (hfew : errors (frame payload) rx c ≤ 3) :
    golay23Decode (value (wordBits (bytesBits rx) c)) =
      codeword (value (messageBits (bytesBits payload) c)) := by
  obtain ⟨hlen, hmax⟩ := length_wordBits (bytesBits rx) (bytesBits (frame payload)) c
  have hreceived : value (wordBits (bytesBits rx) c) < 2 ^ 23 :=
    Nat.lt_of_lt_of_le (value_lt _) (Nat.pow_le_pow_right (by omega) hmax)
  refine golay23Decode_corrects (value_messageBits_lt _ c) hreceived ?_
  rw [← value_wordBits_frame h hc, ← value_zipWith_xor hlen.symm, length_bitIndices_value,
    count_wordBits _ _ hc]
  exact hfew

/-- **The payload comes back** if every codeword has at most three errors. -/
theorem decode_payload (h : payload.length = 32) {rx : List UInt8}
    (hfew : ∀ c < 22, errors (frame payload) rx c ≤ 3) :
    ((Decoder.run rx (Decoder.init rx) (slice (bytesBits rx) 16 256)).last rx 256).out =
      payload := by
  have hlen : (bytesBits payload).length = 252 + 4 := by rw [length_bytesBits, h]
  have hfull : decodedCodewords (bytesBits rx) = slice (bytesBits payload) 0 252 := by
    rw [decodedCodewords, show 252 = 12 * 21 from rfl, ← flatMap_slice]
    apply List.flatMap_congr
    intro c hc
    have hlt := List.mem_range.mp hc
    rw [decodedBits, decode_codeword h (by omega) (hfew c (by omega)),
      codeword_shiftRight (value_messageBits_lt _ c), messageBits_full _ hlt, digits_value_slice]
  have hlast : digits 4 (golay23Decode (value (wordBits (bytesBits rx) 21)) >>> 12) =
      slice (bytesBits payload) 252 4 := by
    rw [decode_codeword h (by omega) (hfew 21 (by omega)), Nat.shiftRight_add _ 11 1,
      codeword_shiftRight (value_messageBits_lt _ 21), value_messageBits_last,
      Nat.shiftRight_eq_div_pow, Nat.pow_one, Nat.mul_div_cancel_left _ (by decide),
      digits_value_slice]
  have hself := slice_self hlen
  rw [slice_add] at hself
  apply bytesBits_injective
  rw [Decoder.bytesBits_last, hfull, hlast]
  exact hself

/-- **`horus_l2_decode_rx_packet`** gives the payload back. -/
theorem horus_l2_decode_corrects (h : payload.length = 32) {received : List UInt8}
    (hfew : ∀ c < 22,
      errors (undo (horusL2EncodeTxPacket payload) 65) (undo received 65) c ≤ 3) :
    (horusL2DecodeRxPacket received 32).1 = payload := by
  rw [undo_encode h] at hfew
  have hbits := foldl_bitAt (Decoder.step (undo received 65)) (undo received 65) 16 256
    (Decoder.init (undo received 65))
  unfold horusL2DecodeRxPacket
  simp only [num_tx_data_bytes]
  rw [← decode_payload h hfew, Decoder.run, ← hbits]
  rfl

end Backplane.Horus
