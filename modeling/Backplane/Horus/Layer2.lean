import Backplane.Horus.BitStream
import Backplane.Horus.Golay
import Backplane.Horus.Interleaver

/-!
# Horus telemetry, layer 2

Model of `horus_l2_encode_tx_packet` and `horus_l2_decode_rx_packet`
(`lib/f_core/radio/protocols/horus/horus.c`) with the interleaver and the scrambler configured. The
encoder takes the payload twelve bits at a time and writes the parity bits of each Golay codeword
behind it; the last codeword may have fewer payload bits. The decoder undoes scrambler and
interleaver in the buffer it was given, so it returns the buffer too.

Results, for payloads of 32 bytes:
* `Encoder.run_codewords`: the encoder over whole codewords, by induction.
* `bytesBits_frame`: the bits of a packet before interleaver and scrambler.
* `undo_encode`: the decoder gets this packet back.
-/

namespace Backplane.Horus

open Backplane.Bits

/-- `{'$', '$'}` -/
def uw : List UInt8 := [0x24, 0x24]

def horusL2GetNumTxDataBytes (num_payload_data_bytes : Nat) : Nat :=
  let num_payload_data_bits := num_payload_data_bytes * 8
  let num_golay_codewords :=
    if num_payload_data_bits % 12 ≠ 0 then num_payload_data_bits / 12 + 1
    else num_payload_data_bits / 12
  let num_tx_data_bits := uw.length * 8 + num_payload_data_bits + num_golay_codewords * 11
  if num_tx_data_bits % 8 ≠ 0 then num_tx_data_bits / 8 + 1 else num_tx_data_bits / 8

/-- What a payload of 32 bytes is sent in. -/
theorem num_tx_data_bytes : horusL2GetNumTxDataBytes 32 = 65 := by decide

/-! ## The encoder -/

/-- The locals of the encoder; `parity` is `paritybyte`, `nparitybits` and what `pout` wrote. -/
structure Encoder where
  ingolay : Nat
  ningolay : Nat
  parity : BitWriter

def Encoder.init : Encoder := { ingolay := 0, ningolay := 0, parity := BitWriter.init }

/-- Write parity bits to output data. -/
def writeParity (golayparity : Nat) (w : BitWriter) : BitWriter :=
  (List.range 11).foldl (fun w i => w.put ((golayparity >>> (10 - i)) &&& 1)) w

/-- One input bit. -/
def Encoder.step (s : Encoder) (inbit : Nat) : Encoder :=
  let ingolay := s.ingolay ||| inbit
  let ningolay := s.ningolay + 1
  if ningolay % 12 ≠ 0 then { s with ingolay := ingolay <<< 1, ningolay := ningolay }
  else
    { ingolay := 0, ningolay := ningolay
      parity := writeParity (getSyndrome (ingolay <<< 11)) s.parity }

/-- Complete the final Golay encode. -/
def Encoder.last (s : Encoder) : BitWriter :=
  if s.ningolay % 12 ≠ 0 then writeParity (getSyndrome ((s.ingolay >>> 1) <<< 12)) s.parity
  else s.parity

/-- The packet before interleaver and scrambler. -/
def frame (input_payload_data : List UInt8) : List UInt8 :=
  let s := (List.range (input_payload_data.length * 8)).foldl
    (fun s ninbit => s.step (bitAt input_payload_data ninbit)) Encoder.init
  uw ++ input_payload_data ++ s.last.finish

/-- `horus_l2_encode_tx_packet`: what it writes to `output_tx_data`. -/
def horusL2EncodeTxPacket (input_payload_data : List UInt8) : List UInt8 :=
  let num_tx_data_bytes := horusL2GetNumTxDataBytes input_payload_data.length
  let output_tx_data := frame input_payload_data
  let interleaved :=
    interleave (output_tx_data.drop uw.length) (num_tx_data_bytes - 2) 0
  output_tx_data.take uw.length ++ scramble interleaved (num_tx_data_bytes - 2)

/-! ## The decoder -/

/-- The locals of the decoder; `reader` is `paritybyte`, `nparitybits` and `pin`, `writer` is
`outbyte`, `noutbits` and what `pout` wrote. -/
structure Decoder where
  ingolay : Nat
  ningolay : Nat
  reader : BitReader
  writer : BitWriter

/-- Eleven parity bits below what is there, and no shift after the last one. -/
def readParity (input_rx_data : List UInt8) (ingolay : Nat) (r : BitReader) : Nat × BitReader :=
  (List.range 11).foldl (fun s i =>
    let ingolay := s.1 ||| s.2.bit
    (if i ≠ 10 then ingolay <<< 1 else ingolay, s.2.next input_rx_data)) (ingolay, r)

/-- One input bit. -/
def Decoder.step (input_rx_data : List UInt8) (s : Decoder) (inbit : Nat) : Decoder :=
  let ingolay := (s.ingolay ||| inbit) <<< 1
  let ningolay := s.ningolay + 1
  if ningolay % 12 = 0 then
    let read := readParity input_rx_data ingolay s.reader
    let outdata := golay23Decode read.1 >>> 11
    { ingolay := 0, ningolay := ningolay, reader := read.2
      writer := (List.range 12).foldl (fun w i => w.put ((outdata >>> (11 - i)) &&& 1)) s.writer }
  else { s with ingolay := ingolay, ningolay := ningolay }

/-- Complete the final Golay decode, and write the final byte. -/
def Decoder.last (input_rx_data : List UInt8) (num_payload_data_bits : Nat) (s : Decoder) :
    BitWriter :=
  if s.ningolay % 12 ≠ 0 then
    let golayparity := (readParity input_rx_data 0 s.reader).1
    let codeword := ((s.ingolay >>> 1) <<< 12) + golayparity
    let outdata := golay23Decode codeword >>> 11
    let ntogo := num_payload_data_bits - s.writer.nbits
    (List.range ntogo).foldl (fun w i => w.put ((outdata >>> (ntogo - i)) &&& 1)) s.writer
  else s.writer

/-- The buffer once scrambler and interleaver are undone in it. -/
def undo (input_rx_data : List UInt8) (num_tx_data_bytes : Nat) : List UInt8 :=
  let scrambled := scramble (input_rx_data.drop uw.length) (num_tx_data_bytes - 2)
  input_rx_data.take uw.length ++ interleave scrambled (num_tx_data_bytes - 2) 1

/-- `horus_l2_decode_rx_packet`: what it writes to `output_payload_data`, and `input_rx_data`
afterwards. -/
def horusL2DecodeRxPacket (input_rx_data : List UInt8) (num_payload_data_bytes : Nat) :
    List UInt8 × List UInt8 :=
  let num_tx_data_bytes := horusL2GetNumTxDataBytes num_payload_data_bytes
  let rx := undo input_rx_data num_tx_data_bytes
  let pin := uw.length + num_payload_data_bytes
  let init : Decoder :=
    { ingolay := 0, ningolay := 0, writer := BitWriter.init
      reader := { byte := (rx.getD pin 0).toNat, nbits := 0, pin := pin + 1 } }
  let s := (List.range (num_payload_data_bytes * 8)).foldl
    (fun s ninbit => s.step rx (bitAt rx (uw.length * 8 + ninbit))) init
  ((s.last rx (num_payload_data_bytes * 8)).out, rx)

/-! ## Codewords of a packet -/

/-- The payload bits of codeword `c`, as the high bits of the Golay codeword: the last one has only
four, and a zero below them. -/
def messageBits (payload : List Bool) (c : Nat) : List Bool :=
  if c < 21 then slice payload (12 * c) 12 else slice payload 252 4 ++ [false]

theorem messageBits_full (payload : List Bool) {c : Nat} (hc : c < 21) :
    messageBits payload c = slice payload (12 * c) 12 := if_pos hc

theorem value_messageBits_last (payload : List Bool) :
    value (messageBits payload 21) = 2 * value (slice payload 252 4) :=
  value_snoc _ false

/-- The parity bits of codeword `c`. -/
def parityBits (payload : List Bool) (c : Nat) : List Bool :=
  digits 11 (getSyndrome (value (messageBits payload c) <<< 11))

theorem value_messageBits_lt (payload : List Bool) (c : Nat) :
    value (messageBits payload c) < 2 ^ 12 := by
  have hlt := value_lt (messageBits payload c)
  have hlen : (messageBits payload c).length ≤ 12 := by
    unfold messageBits
    split
    · rw [length_slice]
    · rw [List.length_append, length_slice]
      decide
  exact Nat.lt_of_lt_of_le hlt (Nat.pow_le_pow_right (by omega) hlen)

/-! ## What the encoder writes -/

theorem writeParity_eq (golayparity : Nat) (w : BitWriter) : writeParity golayparity w =
    (digits 11 golayparity).foldl (fun w bit => w.put bit.toNat) w :=
  foldl_put_digits 11 golayparity w

/-- The encoder over bits. -/
def Encoder.run (s : Encoder) (bits : List Bool) : Encoder :=
  bits.foldl (fun s bit => s.step bit.toNat) s

theorem Encoder.run_append (s : Encoder) (a b : List Bool) : s.run (a ++ b) = (s.run a).run b :=
  List.foldl_append

theorem Encoder.run_singleton (s : Encoder) (bit : Bool) : s.run [bit] = s.step bit.toNat := rfl

/-- Bits that fill no codeword are collected. -/
theorem Encoder.run_partial {n : Nat} (hn : n % 12 = 0) (w : BitWriter) {bits : List Bool}
    (h : bits.length < 12) :
    Encoder.run { ingolay := 0, ningolay := n, parity := w } bits =
      { ingolay := 2 * value bits, ningolay := n + bits.length, parity := w } := by
  induction bits using List.reverseRecOn with
  | nil => rfl
  | append_singleton bits bit ih =>
    rw [List.length_append, List.length_singleton] at h
    have hmore : (n + bits.length + 1) % 12 ≠ 0 := by omega
    rw [Encoder.run_append, ih (by omega), Encoder.run_singleton, Encoder.step]
    simp only [or_shiftLeft_one, hmore, ne_eq, not_false_eq_true, if_true]
    rw [List.length_append, List.length_singleton, Nat.add_assoc]

/-- Twelve bits make a codeword. -/
theorem Encoder.run_full {n : Nat} (hn : n % 12 = 0) (w : BitWriter) (bits : List Bool)
    (start : Nat) :
    Encoder.run { ingolay := 0, ningolay := n, parity := w } (slice bits start 12) =
      { ingolay := 0, ningolay := n + 12
        parity := (digits 11 (getSyndrome (value (slice bits start 12) <<< 11))).foldl
          (fun w bit => w.put bit.toNat) w } := by
  have hlen := length_slice bits start 11
  have hfull : (n + 11 + 1) % 12 = 0 := by omega
  rw [slice_succ, Encoder.run_append, Encoder.run_partial hn w (by omega), Encoder.run_singleton,
    Encoder.step]
  simp only [two_mul_or, hlen, hfull, ne_eq, not_true_eq_false, if_false]
  rw [writeParity_eq, value_snoc]

/-- The parity bits of the first codewords. -/
def paritiesOf (payload : List Bool) (m : Nat) : List Bool :=
  (List.range m).flatMap (parityBits payload)

theorem paritiesOf_succ (payload : List Bool) (m : Nat) :
    paritiesOf payload (m + 1) = paritiesOf payload m ++ parityBits payload m := by
  rw [paritiesOf, List.range_succ, List.flatMap_append, List.flatMap_singleton]
  rfl

theorem length_paritiesOf (payload : List Bool) (m : Nat) :
    (paritiesOf payload m).length = 11 * m := by
  rw [paritiesOf, List.length_flatMap]
  simp [parityBits, Nat.mul_comm]

/-- The encoder after whole codewords. -/
theorem Encoder.run_codewords (payload : List Bool) {m : Nat} (hm : m ≤ 21) :
    Encoder.init.run (slice payload 0 (12 * m)) =
      { ingolay := 0, ningolay := 12 * m
        parity := (paritiesOf payload m).foldl (fun w bit => w.put bit.toNat) BitWriter.init } := by
  induction m with
  | zero => rfl
  | succ m ih =>
    rw [Nat.mul_succ, slice_add, Encoder.run_append, ih (by omega), Nat.zero_add,
      Encoder.run_full (by omega), paritiesOf_succ, List.foldl_append, parityBits,
      messageBits_full payload hm]

/-- **The parity bits of a payload**, and zeros up to the last byte. -/
theorem Encoder.bytesBits_last (payload : List Bool) :
    bytesBits (Encoder.init.run (slice payload 0 256)).last.finish =
      paritiesOf payload 22 ++ List.replicate 6 false := by
  have hsyndrome : (2 * value (slice payload 252 4)) >>> 1 <<< 12 =
      value (messageBits payload 21) <<< 11 := by
    rw [value_messageBits_last, Nat.shiftRight_eq_div_pow, Nat.shiftLeft_eq, Nat.shiftLeft_eq]
    omega
  have hlast : (Encoder.init.run (slice payload 0 256)).last =
      (paritiesOf payload 22).foldl (fun w bit => w.put bit.toNat) BitWriter.init := by
    rw [show 256 = 12 * 21 + 4 from rfl, slice_add, Encoder.run_append,
      Encoder.run_codewords payload (Nat.le_refl 21), Encoder.run_partial (by decide) _ (by simp),
      Encoder.last, if_pos (by simp), writeParity_eq]
    simp only [Nat.zero_add, Nat.reduceMul]
    rw [hsyndrome, ← parityBits, ← List.foldl_append, ← paritiesOf_succ]
  have hholds := BitWriter.Holds.init.putAll (paritiesOf payload 22)
  rw [hlast, hholds.finish, List.nil_append, length_paritiesOf]

/-- **The bits of a packet** before interleaver and scrambler. -/
theorem bytesBits_frame {payload : List UInt8} (h : payload.length = 32) :
    bytesBits (frame payload) = bytesBits uw ++ bytesBits payload ++
      (paritiesOf (bytesBits payload) 22 ++ List.replicate 6 false) := by
  have hrun : (List.range (payload.length * 8)).foldl
      (fun s ninbit => s.step (bitAt payload ninbit)) Encoder.init =
        Encoder.init.run (slice (bytesBits payload) 0 256) := by
    have hbits := foldl_bitAt Encoder.step payload 0 256 Encoder.init
    simp only [Nat.zero_add] at hbits
    rw [h]
    exact hbits
  rw [frame, hrun, bytesBits_append, bytesBits_append, Encoder.bytesBits_last]

theorem length_frame {payload : List UInt8} (h : payload.length = 32) :
    (frame payload).length = 65 := by
  have hlen := congrArg List.length (bytesBits_frame h)
  simp only [List.length_append, length_bytesBits, length_paritiesOf, List.length_replicate, h,
    uw, List.length_cons, List.length_nil] at hlen
  omega

/-! ## Interleaver and scrambler undone -/

/-- **The decoder gets the packet back** that the encoder made. -/
theorem undo_encode {payload : List UInt8} (h : payload.length = 32) :
    undo (horusL2EncodeTxPacket payload) 65 = frame payload := by
  have hdrop : ((frame payload).drop uw.length).length = 63 := by
    rw [List.length_drop, length_frame h]
    rfl
  have htake : ((frame payload).take uw.length).length = uw.length := by
    rw [List.length_take, length_frame h]
    rfl
  unfold undo horusL2EncodeTxPacket
  simp only [h, num_tx_data_bytes, Nat.reduceSub]
  rw [List.take_left' htake, List.drop_left' htake, scramble_scramble (length_interleave _ _ _),
    interleave_interleave hdrop, List.take_append_drop]

theorem length_encode {payload : List UInt8} (h : payload.length = 32) :
    (horusL2EncodeTxPacket payload).length = 65 := by
  unfold horusL2EncodeTxPacket
  simp only [h, num_tx_data_bytes, Nat.reduceSub]
  rw [List.length_append, length_scramble (length_interleave _ _ _), List.length_take,
    length_frame h]
  rfl

end Backplane.Horus
