import Backplane.Horus.Decode
import Backplane.Utils.Bytes

/-!
# Horus V2 packets

Model of `horus_packet_v2` (`include/f_core/radio/protocols/horus/horus.h`) and of `gen_crc16`,
`horusv2_encode`, `horusv2_decode` and `horusv2_checksum_verify`
(`lib/f_core/radio/protocols/horus/horus.c`). The struct is packed and the machine little-endian. A
`float` is its four bytes, which the code only copies.

Results:
* `ofImage_image`: a packet is its 32 bytes.
* `round_trip`: a packet comes back from a buffer with at most three errors in each codeword.
-/

namespace Backplane.Horus

open Backplane.Bits
open Backplane.Utils

/-- `horus_packet_v2`. -/
structure HorusPacketV2 where
  payload_id : UInt16
  counter : UInt16
  hours : UInt8
  minutes : UInt8
  seconds : UInt8
  latitude : Vector UInt8 4
  longitude : Vector UInt8 4
  altitude : UInt16
  speed : UInt8
  sats : UInt8
  temp : Int8
  battery_voltage : UInt8
  custom_data : Vector UInt8 9
  checksum : UInt16
  deriving DecidableEq

/-- The packet before its checksum, in memory. -/
def HorusPacketV2.checked (p : HorusPacketV2) : List UInt8 :=
  littleEndian p.payload_id ++ littleEndian p.counter ++ [p.hours, p.minutes, p.seconds] ++
    p.latitude.toList ++ p.longitude.toList ++ littleEndian p.altitude ++
    [p.speed, p.sats, p.temp.toUInt8, p.battery_voltage] ++ p.custom_data.toList

/-- The packet in memory. -/
def HorusPacketV2.image (p : HorusPacketV2) : List UInt8 := p.checked ++ littleEndian p.checksum

/-- The packet that 32 bytes in memory are. -/
def HorusPacketV2.ofImage (bytes : List UInt8) : HorusPacketV2 :=
  let byte (i : Nat) : UInt8 := bytes.getD i 0
  { payload_id := word (byte 1) (byte 0)
    counter := word (byte 3) (byte 2)
    hours := byte 4
    minutes := byte 5
    seconds := byte 6
    latitude := #v[byte 7, byte 8, byte 9, byte 10]
    longitude := #v[byte 11, byte 12, byte 13, byte 14]
    altitude := word (byte 16) (byte 15)
    speed := byte 17
    sats := byte 18
    temp := (byte 19).toInt8
    battery_voltage := byte 20
    custom_data :=
      #v[byte 21, byte 22, byte 23, byte 24, byte 25, byte 26, byte 27, byte 28, byte 29]
    checksum := word (byte 31) (byte 30) }

/-- `gen_crc16`. -/
def genCrc16 (data : List UInt8) : UInt16 :=
  data.foldl (fun crc byte =>
    let x : UInt8 := (crc >>> 8).toUInt8 ^^^ byte
    let x := x ^^^ (x >>> 4)
    (crc <<< 8) ^^^ (x.toUInt16 <<< 12) ^^^ (x.toUInt16 <<< 5) ^^^ x.toUInt16) 0xFFFF

/-- `horusv2_encode`: the packet afterwards, and what is written to the buffer. -/
def horusv2Encode (input_packet : HorusPacketV2) : HorusPacketV2 × List UInt8 :=
  let packet := { input_packet with checksum := genCrc16 (input_packet.image.take (32 - 2)) }
  (packet, horusL2EncodeTxPacket packet.image)

/-- `horusv2_decode`: the packet, and the buffer afterwards. -/
def horusv2Decode (input_buffer : Vector UInt8 65) : HorusPacketV2 × List UInt8 :=
  let decoded := horusL2DecodeRxPacket input_buffer.toList 32
  (HorusPacketV2.ofImage decoded.1, decoded.2)

/-- `horusv2_checksum_verify`. -/
def horusv2ChecksumVerify (input_packet : HorusPacketV2) : Bool :=
  genCrc16 (input_packet.image.take (32 - 2)) == input_packet.checksum

theorem length_checked (p : HorusPacketV2) : p.checked.length = 30 := by
  simp [HorusPacketV2.checked]

theorem length_image (p : HorusPacketV2) : p.image.length = 32 := by
  rw [HorusPacketV2.image, List.length_append, length_checked]
  rfl

/-- The checksum is over the bytes before it. -/
theorem take_image (p : HorusPacketV2) : p.image.take (32 - 2) = p.checked :=
  List.take_left' (length_checked p)

theorem checked_checksum (p : HorusPacketV2) (checksum : UInt16) :
    ({ p with checksum := checksum } : HorusPacketV2).checked = p.checked := rfl

/-- **A packet is its 32 bytes.** -/
theorem ofImage_image (p : HorusPacketV2) : HorusPacketV2.ofImage p.image = p := by
  obtain ⟨payload_id, counter, hours, minutes, seconds, ⟨⟨latitude⟩, hlat⟩, ⟨⟨longitude⟩, hlon⟩,
    altitude, speed, sats, temp, battery_voltage, ⟨⟨custom_data⟩, hcustom⟩, checksum⟩ := p
  match latitude, hlat, longitude, hlon, custom_data, hcustom with
  | [_, _, _, _], _, [_, _, _, _], _, [_, _, _, _, _, _, _, _, _], _ =>
    simp [HorusPacketV2.ofImage, HorusPacketV2.image, HorusPacketV2.checked, littleEndian,
      word_bytes]

theorem undo_horusv2Encode (p : HorusPacketV2) :
    undo (horusv2Encode p).2 65 = frame (horusv2Encode p).1.image :=
  undo_encode (length_image _)

/-- **The round trip**: encoding sets the checksum alone and writes 65 bytes, and a buffer with at
most three errors in each of the 22 codewords gives the packet back, which is then verified. -/
theorem round_trip (p : HorusPacketV2) :
    (horusv2Encode p).1 = { p with checksum := genCrc16 p.checked } ∧
      (horusv2Encode p).2.length = 65 ∧
      ∀ received : Vector UInt8 65,
        (∀ c < 22, errors (undo (horusv2Encode p).2 65) (undo received.toList 65) c ≤ 3) →
          (horusv2Decode received).1 = (horusv2Encode p).1 ∧
            horusv2ChecksumVerify (horusv2Decode received).1 = true := by
  have hchecksum : (horusv2Encode p).1 = { p with checksum := genCrc16 p.checked } := by
    unfold horusv2Encode
    rw [take_image]
  refine ⟨hchecksum, length_encode (length_image _), fun received hfew => ?_⟩
  have hdecode : (horusv2Decode received).1 = (horusv2Encode p).1 := by
    have hpayload := horus_l2_decode_corrects (length_image _) hfew
    unfold horusv2Decode
    simp only [hpayload]
    exact ofImage_image _
  refine ⟨hdecode, ?_⟩
  rw [hdecode, hchecksum, horusv2ChecksumVerify, take_image, checked_checksum, beq_iff_eq]

/-- The packet of `app/samples/horus/src/main.c`. -/
def samplePacket : HorusPacketV2 :=
  { payload_id := 5, counter := 0, hours := 0, minutes := 0, seconds := 0
    latitude := Vector.replicate 4 0, longitude := Vector.replicate 4 0, altitude := 12345
    speed := 0, sats := 0, temp := 0, battery_voltage := 0, custom_data := Vector.replicate 9 0
    checksum := 0 }

/-- Its buffer with the first five and the last five bytes cleared, as the sample does. -/
def sampleReceived : Vector UInt8 65 :=
  #v[0, 0, 0, 0, 0, 0x24, 0x0C, 0x1D, 0x87, 0xC9, 0x97, 0x16, 0xE5, 0xEE, 0xCD, 0xD4, 0x55, 0xAE,
    0x7F, 0x7C, 0x20, 0x11, 0xC8, 0x8E, 0x7A, 0x85, 0xBB, 0x23, 0x23, 0x59, 0xC3, 0xFA, 0xD2,
    0x43, 0x1E, 0x31, 0x4D, 0xD4, 0x52, 0xDE, 0xFE, 0xFB, 0x20, 0x18, 0x98, 0x3B, 0x3A, 0x93,
    0x5F, 0x2D, 0xF8, 0x1D, 0x82, 0x89, 0xA1, 0xA6, 0xF8, 0x6A, 0x40, 0xA3, 0, 0, 0, 0, 0]

theorem round_trip_sample : (horusv2Decode sampleReceived).1 = (horusv2Encode samplePacket).1 ∧
    horusv2ChecksumVerify (horusv2Decode sampleReceived).1 = true := by
  refine (round_trip samplePacket).2.2 sampleReceived ?_
  rw [undo_horusv2Encode]
  decide +kernel

end Backplane.Horus
