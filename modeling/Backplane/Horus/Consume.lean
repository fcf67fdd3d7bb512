import Backplane.Horus.Packet

/-!
# The buffer of a decoded packet

`horusv2_decode` declares its input `const` and casts that away: `horus_l2_decode_rx_packet` undoes
scrambler and interleaver in the caller's buffer. `bufferAfter` is that buffer when the call
returns.

* `lsb_bufferAfter`: where every bit of it comes from.
* `bufferAfter_ne`: no buffer comes back as it was. The interleaver leaves bit 378 in its place, and
  the scrambler flips it.
-/

namespace Backplane.Horus

/-- The bytes behind the sync bytes. -/
def behindSync (buffer : Vector UInt8 65) : List UInt8 := buffer.toList.drop uw.length

theorem length_behindSync (buffer : Vector UInt8 65) : (behindSync buffer).length = 63 := by
  unfold behindSync
  rw [List.length_drop, Vector.length_toList]
  rfl

theorem decoded_buffer (buffer : Vector UInt8 65) : (horusv2Decode buffer).2 =
    buffer.toList.take uw.length ++ interleave (scramble (behindSync buffer) 63) 63 1 := by
  unfold horusv2Decode horusL2DecodeRxPacket
  simp only [num_tx_data_bytes]
  rfl

theorem length_take_uw (buffer : Vector UInt8 65) :
    (buffer.toList.take uw.length).length = uw.length := by
  rw [List.length_take, Vector.length_toList]
  rfl

theorem length_decoded_buffer (buffer : Vector UInt8 65) :
    (horusv2Decode buffer).2.length = 65 := by
  rw [decoded_buffer, List.length_append, length_interleave, length_take_uw]
  rfl

/-- The caller's buffer after `horusv2_decode`. -/
def bufferAfter (buffer : Vector UInt8 65) : Vector UInt8 65 :=
  ⟨(horusv2Decode buffer).2.toArray, by rw [List.size_toArray, length_decoded_buffer]⟩

theorem behindSync_bufferAfter (buffer : Vector UInt8 65) :
    behindSync (bufferAfter buffer) = interleave (scramble (behindSync buffer) 63) 63 1 := by
  have hlist : (bufferAfter buffer).toList = (horusv2Decode buffer).2 := by
    unfold bufferAfter
    rfl
  rw [behindSync, hlist, decoded_buffer, List.drop_left' (length_take_uw buffer)]

/-- **The bits of the buffer afterwards.** -/
theorem lsb_bufferAfter (buffer : Vector UInt8 65) {k : Nat} (hk : k < 504) :
    lsb (behindSync (bufferAfter buffer)) k =
      (lsb (behindSync buffer) (389 * k % 504) ^^ scramblerBit (389 * k % 504)) := by
  have hmod : 389 * k % 504 < 8 * 63 := Nat.mod_lt _ (by decide)
  rw [behindSync_bufferAfter, lsb_interleave_one _ hk, lsb_scramble (length_behindSync buffer) hmod]

/-- **No buffer survives its decoding**: bit 378 stays in its place, flipped. -/
theorem bufferAfter_ne (buffer : Vector UInt8 65) : bufferAfter buffer ≠ buffer := by
  intro hsame
  have hbit := lsb_bufferAfter buffer (show 378 < 504 by decide)
  have hflip : scramblerBit 378 = true := by decide +kernel
  rw [hsame, show 389 * 378 % 504 = 378 from rfl, hflip] at hbit
  revert hbit
  cases lsb (behindSync buffer) 378 <;> decide

/-- The buffer of the sample is another one afterwards. -/
theorem bufferAfter_sample_ne : bufferAfter sampleReceived ≠ sampleReceived := by
  intro hsame
  have hbit := lsb_bufferAfter sampleReceived (show 378 < 504 by decide)
  rw [hsame] at hbit
  exact absurd hbit (by decide +kernel)

end Backplane.Horus
