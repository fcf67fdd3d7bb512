import Backplane.General.Bits

/-!
# Bits in and out of bytes

The bit-by-bit reads and writes that `horus_l2_encode_tx_packet` and `horus_l2_decode_rx_packet`
(`lib/f_core/radio/protocols/horus/horus.c`) share: a bit of a packed array (`bitAt`), the byte
that is filled and written when it has eight bits (`paritybyte`, `nparitybits` and `*pout` of the
encoder, `outbyte`, `noutbits` and `*pout` of the decoder), and the byte that is read ahead
(`paritybyte`, `nparitybits` and `*pin` of the decoder). Bits stand highest first.

Results:
* `Holds.put`: a writer holds the bits that were put.
* `Holds.finish`: the bytes of a writer are its bits and zeros up to the next byte.
* `bit_readerAt`, `next_readerAt`: a reader gives the bits of the array in order.
-/

namespace Backplane.Horus

open Backplane.Bits

/-- `(bytes[k / 8] >> (7 - k % 8)) & 0x1` -/
def bitAt (bytes : List UInt8) (k : Nat) : Nat :=
  ((bytes.getD (k / 8) 0).toNat >>> (7 - k % 8)) &&& 1

theorem bitAt_eq (bytes : List UInt8) (k : Nat) :
    bitAt bytes k = ((bytesBits bytes).getD k false).toNat := by
  unfold bitAt
  rw [shiftRight_and_one, List.getD_eq_getElem?_getD, List.getD_eq_getElem?_getD,
    getElem?_bytesBits]
  cases bytes[k / 8]? with
  | none => simp
  | some b => rfl

/-! ## Writing -/

/-- A byte being filled, how many bits were put, and the bytes written so far. -/
structure BitWriter where
  byte : Nat
  nbits : Nat
  out : List UInt8

def BitWriter.init : BitWriter := { byte := 0, nbits := 0, out := [] }

/-- One more bit; the byte is written when it is full. -/
def BitWriter.put (w : BitWriter) (bit : Nat) : BitWriter :=
  let byte := w.byte ||| bit
  let nbits := w.nbits + 1
  if nbits % 8 ≠ 0 then { w with byte := byte <<< 1, nbits := nbits }
  else { byte := 0, nbits := nbits, out := w.out ++ [UInt8.ofNat byte] }

/-- The bytes once the last, partially complete one is written, MS bits first. -/
def BitWriter.finish (w : BitWriter) : List UInt8 :=
  if w.nbits % 8 ≠ 0 then w.out ++ [UInt8.ofNat (w.byte <<< (7 - w.nbits % 8))] else w.out

/-- The writer was given `bits`: the byte has those that fill no byte yet, shifted for the next. -/
structure BitWriter.Holds (w : BitWriter) (bits : List Bool) : Prop where
  nbits : w.nbits = bits.length
  bytes : ∃ rest, rest.length < 8 ∧ w.byte = 2 * value rest ∧ bytesBits w.out ++ rest = bits

namespace BitWriter

theorem Holds.init : BitWriter.init.Holds [] where
  nbits := rfl
  bytes := ⟨[], by decide, rfl, rfl⟩

/-- The bits that fill no byte are those behind the last full byte. -/
theorem Holds.rest {w : BitWriter} {bits rest : List Bool} (h : w.Holds bits)
    (hlt : rest.length < 8) (hrest : bytesBits w.out ++ rest = bits) :
    rest.length = w.nbits % 8 := by
  have hlen := congrArg List.length hrest
  rw [List.length_append, length_bytesBits, ← h.nbits] at hlen
  omega

/-- **One more bit.** -/
theorem Holds.put {w : BitWriter} {bits : List Bool} (h : w.Holds bits) (bit : Bool) :
    (w.put bit.toNat).Holds (bits ++ [bit]) := by
  obtain ⟨rest, hlt, hbyte, hrest⟩ := h.bytes
  have hlen := h.rest hlt hrest
  have hvalue : w.byte ||| bit.toNat = value (rest ++ [bit]) := by
    rw [hbyte, two_mul_or, value_snoc]
  unfold BitWriter.put
  simp only [hvalue]
  split
  · rename_i hmore
    constructor
    · rw [List.length_append, ← h.nbits]
      rfl
    · refine ⟨rest ++ [bit], ?_, ?_, ?_⟩
      · rw [List.length_append, List.length_singleton]
        omega
      · rw [Nat.shiftLeft_eq, Nat.pow_one, Nat.mul_comm]
      · rw [← List.append_assoc, hrest]
  · rename_i hfull
    have height : (rest ++ [bit]).length = 8 := by
      rw [List.length_append, List.length_singleton]
      omega
    constructor
    · rw [List.length_append, ← h.nbits]
      rfl
    · refine ⟨[], by decide, rfl, ?_⟩
      rw [bytesBits_append, bytesBits_singleton, byteBits_value height, List.append_nil,
        ← List.append_assoc, hrest]

/-- Many more bits. -/
theorem Holds.putAll {w : BitWriter} {bits : List Bool} (h : w.Holds bits) (more : List Bool) :
    (more.foldl (fun w bit => w.put bit.toNat) w).Holds (bits ++ more) := by
  induction more generalizing w bits with
  | nil => rwa [List.append_nil]
  | cons bit more ih =>
    rw [List.foldl_cons, List.append_cons]
    exact ih (h.put bit)

/-- **The bytes of a writer** are its bits, and zeros up to the next byte. -/
theorem Holds.finish {w : BitWriter} {bits : List Bool} (h : w.Holds bits) :
    bytesBits w.finish = bits ++ List.replicate ((8 - bits.length % 8) % 8) false := by
  obtain ⟨rest, hlt, hbyte, hrest⟩ := h.bytes
  have hlen := h.rest hlt hrest
  rw [← h.nbits, ← hrest]
  unfold BitWriter.finish
  split
  · rename_i hpartial
    have hpad : (8 - w.nbits % 8) % 8 = 8 - w.nbits % 8 := by omega
    have hvalue : w.byte <<< (7 - w.nbits % 8) =
        value (rest ++ List.replicate (8 - w.nbits % 8) false) := by
      rw [value_append, value_zeros, List.length_replicate, hbyte, Nat.shiftLeft_eq, Nat.add_zero,
        show 8 - w.nbits % 8 = 7 - w.nbits % 8 + 1 by omega, Nat.pow_succ, Nat.mul_comm 2,
        Nat.mul_assoc, Nat.mul_comm 2]
    rw [hvalue, hpad, bytesBits_append, bytesBits_singleton, byteBits_value, List.append_assoc]
    rw [List.length_append, List.length_replicate]
    omega
  · rename_i hfull
    have hnil : rest = [] := List.length_eq_zero_iff.mp (by omega)
    rw [hnil, show (8 - w.nbits % 8) % 8 = 0 by omega]
    simp

/-- The bytes of a writer that was given full bytes. -/
theorem Holds.out {w : BitWriter} {bits : List Bool} (h : w.Holds bits)
    (hfull : bits.length % 8 = 0) : bytesBits w.out = bits := by
  have hfinish := h.finish
  rw [hfull] at hfinish
  unfold BitWriter.finish at hfinish
  rw [h.nbits, hfull, if_neg (by decide)] at hfinish
  simpa using hfinish

end BitWriter

/-- Bits put one after the other from a number, from bit `n - 1` down. -/
theorem foldl_put_digits (n v : Nat) (w : BitWriter) :
    (List.range n).foldl (fun w i => w.put ((v >>> (n - 1 - i)) &&& 1)) w =
      (digits n v).foldl (fun w bit => w.put bit.toNat) w := by
  rw [digits, List.foldl_map]
  simp only [shiftRight_and_one]

/-! ## Reading -/

/-- The byte read ahead, how many bits were taken, and where the next byte is. -/
structure BitReader where
  byte : Nat
  nbits : Nat
  pin : Nat

/-- The next bit. -/
def BitReader.bit (r : BitReader) : Nat := (r.byte >>> (7 - r.nbits % 8)) &&& 1

/-- The reader once the bit is taken; a new byte is grabbed after eight. -/
def BitReader.next (r : BitReader) (bytes : List UInt8) : BitReader :=
  let nbits := r.nbits + 1
  if nbits % 8 = 0 then
    { byte := (bytes.getD r.pin 0).toNat, nbits := nbits, pin := r.pin + 1 }
  else { r with nbits := nbits }

/-- The reader that started at byte `start`, once `n` bits were taken. -/
def readerAt (bytes : List UInt8) (start n : Nat) : BitReader :=
  { byte := (bytes.getD (start + n / 8) 0).toNat, nbits := n, pin := start + n / 8 + 1 }

theorem bit_readerAt (bytes : List UInt8) (start n : Nat) :
    (readerAt bytes start n).bit = ((bytesBits bytes).getD (8 * start + n) false).toNat := by
  rw [← bitAt_eq, bitAt, show (8 * start + n) / 8 = start + n / 8 by omega,
    show (8 * start + n) % 8 = n % 8 by omega]
  rfl

theorem next_readerAt (bytes : List UInt8) (start n : Nat) :
    (readerAt bytes start n).next bytes = readerAt bytes start (n + 1) := by
  unfold BitReader.next readerAt
  simp only
  split
  · rename_i hbyte
    rw [show start + (n + 1) / 8 = start + n / 8 + 1 by omega]
  · rename_i hbyte
    rw [show (n + 1) / 8 = n / 8 by omega]

/-- A loop over the bits of an array. -/
theorem foldl_bitAt {σ : Type*} (step : σ → Nat → σ) (bytes : List UInt8) (start n : Nat) (s : σ) :
    (List.range n).foldl (fun s k => step s (bitAt bytes (start + k))) s =
      (slice (bytesBits bytes) start n).foldl (fun s bit => step s bit.toNat) s := by
  rw [slice, List.foldl_map]
  simp only [bitAt_eq]

end Backplane.Horus
