import SensorFirmware.FeedbackRegister
import SensorFirmware.FrameCodec

/-!
# Corrupted frames

The checksum of a frame is a feedback register that takes in the bits of its
bytes, most significant bit first.  A frame with its checksum leaves the
register empty, so that a frame that is damaged in a burst of sixteen bits or
in two bits is not accepted.
-/

namespace SensorFirmware

open FeedbackRegister

def crc16Poly : BitVec 16 := 0x1021#16

def byteBits (b : Byte) : List Bool :=
  (List.range 8).map fun i => b.getMsbD i

def frameBits (data : List Byte) : List Bool := data.flatMap byteBits

@[simp] theorem length_byteBits (b : Byte) : (byteBits b).length = 8 := by
  simp [byteBits]

@[simp] theorem length_frameBits (data : List Byte) :
    (frameBits data).length = 8 * data.length := by
  induction data with
  | nil => rfl
  | cons b data ih =>
      rw [frameBits, List.flatMap_cons, List.length_append, ← frameBits, ih,
        length_byteBits, List.length_cons]
      omega

theorem frameBits_append (data rest : List Byte) :
    frameBits (data ++ rest) = frameBits data ++ frameBits rest :=
  List.flatMap_append

theorem getElem?_byteBits (b : Byte) {i : ℕ} (hi : i < 8) :
    (byteBits b)[i]? = some (b.getMsbD i) := by
  simp [byteBits, hi]

/-! ## The checksum is a feedback register -/

theorem crc16Bit_eq_shift (crc : BitVec 16) :
    crc16Bit crc = shift crc16Poly crc := by
  have hmask : crc &&& 0x8000#16 ≠ 0 ↔ crc.msb = true := by
    have htop : 0x8000#16 = BitVec.twoPow 16 15 := by decide
    rw [htop, BitVec.and_twoPow, BitVec.msb_eq_getLsbD_last]
    cases crc.getLsbD 15 <;> decide
  unfold crc16Bit shift
  simp only [hmask, crc16Poly]

theorem placed_byteBits (b : Byte) :
    placed (byteBits b) = (b.setWidth 16 <<< 8 : BitVec 16) := by
  apply BitVec.eq_of_getLsbD_eq
  intro i hi
  rw [getLsbD_placed _ hi, BitVec.getLsbD_shiftLeft, BitVec.getLsbD_setWidth]
  by_cases hlow : i < 8
  · rw [List.getElem?_eq_none (by simp; omega)]
    simp [hlow]
  · rw [getElem?_byteBits b (by omega), BitVec.getMsbD]
    have hindex : 8 - 1 - (16 - 1 - i) = i - 8 := by omega
    have hplace : 16 - 1 - i < 8 := by omega
    have hhigh : i - 8 < 16 := by omega
    simp [hi, hlow, hindex, hplace, hhigh]

theorem crc16Byte_eq_feedAll (crc : BitVec 16) (b : Byte) :
    crc16Byte crc b = feedAll crc16Poly crc (byteBits b) := by
  have hstep : crc16Bit = shift crc16Poly := funext crc16Bit_eq_shift
  rw [feedAll_placed _ _ (by simp), placed_byteBits, length_byteBits,
    crc16Byte, hstep]

theorem calculateCRC16_eq_feedAll (data : List Byte) :
    calculateCRC16 data =
      feedAll crc16Poly 0xFFFF#16 (frameBits data) := by
  have hall (crc : BitVec 16) : data.foldl crc16Byte crc =
      feedAll crc16Poly crc (frameBits data) := by
    induction data generalizing crc with
    | nil => rfl
    | cons b data ih =>
        rw [List.foldl_cons, ih, crc16Byte_eq_feedAll, ← feedAll_append]
        rfl
  exact hall _

theorem getLsbD_byteBits (b : Byte) {i : ℕ} (hi : i < 8) :
    (byteBits b)[7 - i]? = some (b.getLsbD i) := by
  have hindex : 8 - 1 - (7 - i) = i := by omega
  have hplace : 7 - i < 8 := by omega
  rw [getElem?_byteBits b hplace, BitVec.getMsbD, hindex]
  simp [hplace]

/-- The two bytes of a checksum are the checksum, high bit first. -/
theorem placed_be16Bytes (crc : BitVec 16) :
    placed (frameBits (be16Bytes crc.toNat)) = crc := by
  have hbits : frameBits (be16Bytes crc.toNat) =
      byteBits (BitVec.ofNat 8 (crc.toNat / 2 ^ 8)) ++
        byteBits (BitVec.ofNat 8 crc.toNat) := by
    simp [frameBits, be16Bytes]
  apply BitVec.eq_of_getLsbD_eq
  intro i hi
  rw [getLsbD_placed _ hi, hbits]
  by_cases hlow : i < 8
  · have hindex : 16 - 1 - i - 8 = 7 - i := by omega
    rw [List.getElem?_append_right (by simp; omega), length_byteBits, hindex,
      getLsbD_byteBits _ hlow, BitVec.getLsbD_ofNat, BitVec.testBit_toNat]
    simp [hlow]
  · have hindex : 16 - 1 - i = 7 - (i - 8) := by omega
    have hhigh : i - 8 < 8 := by omega
    have hbit : 8 + (i - 8) = i := by omega
    rw [List.getElem?_append_left (by simp; omega), hindex,
      getLsbD_byteBits _ hhigh, BitVec.getLsbD_ofNat,
      Nat.testBit_div_two_pow, Nat.add_comm, hbit, BitVec.testBit_toNat]
    simp [hhigh]

variable {code : Byte} {payload data frame : List Byte} {seqNum : ℕ}
  {message : ReceivedMessage}

theorem feedAll_frame
    (hbuild : buildFrameByte code payload seqNum = some frame) :
    feedAll crc16Poly 0xFFFF#16 (frameBits frame) = 0#16 := by
  rw [(buildFrameByte_eq_some_iff.mp hbuild).2, frameBits_append,
    feedAll_append, ← calculateCRC16_eq_feedAll]
  exact feedAll_own _ (by simp [be16Bytes]) (placed_be16Bytes _)

theorem feedAll_of_parseFrame (hparse : parseFrame data = some message) :
    feedAll crc16Poly 0xFFFF#16 (frameBits data) = 0#16 :=
  feedAll_frame
    (framed_iff_buildFrameByte.mp (framed_of_parseFrame hparse)).2

theorem length_of_buildFrameByte
    (hbuild : buildFrameByte code payload seqNum = some frame) :
    frame.length ≤ Protocol.headerSize + Protocol.maxPayloadSize +
      Protocol.crcSize := by
  have hframe := buildFrameByte_eq_some_iff.mp hbuild
  rw [hframe.2, List.length_append, length_frameContent]
  simp only [be16Bytes, Protocol.crcSize, List.length_cons, List.length_nil]
  omega

/-- A bit comes back only after more shifts than the longest frame has bits. -/
theorem crc16_period {distance : ℕ} (hpos : 0 < distance)
    (hwithin : distance ≤ 4071) :
    (shift crc16Poly)^[distance] (top 16) ≠ top 16 := by
  have haway : neverBack crc16Poly (top 16) 4071 (top 16) = true := by
    decide +kernel
  exact iterate_ne_of_neverBack haway hpos hwithin

/-! ## Damage -/

/-- What damages a frame without changing its length: a burst within sixteen
consecutive bits, or two flipped bits. -/
def Damaged (frame data : List Byte) : Prop :=
  data.length = frame.length ∧
    (Burst 16 (frameBits frame) (frameBits data) ∨
      TwoFlips (frameBits frame) (frameBits data))

/-- No frame that `buildFrame` made is accepted after such damage. -/
theorem parseFrame_of_damaged
    (hbuild : buildFrameByte code payload seqNum = some frame)
    (hdamaged : Damaged frame data) : parseFrame data = none := by
  cases hparse : parseFrame data with
  | none => rfl
  | some message =>
      exfalso
      have hsame : feedAll crc16Poly 0xFFFF#16 (frameBits frame) =
          feedAll crc16Poly 0xFFFF#16 (frameBits data) := by
        rw [feedAll_frame hbuild, feedAll_of_parseFrame hparse]
      have hodd : crc16Poly.getLsbD 0 = true := by decide
      have hlength : (frameBits frame).length = (frameBits data).length := by
        rw [length_frameBits, length_frameBits, hdamaged.1]
      rcases hdamaged.2 with hburst | hflips
      · exact feedAll_ne_of_burst hodd hlength hburst _ hsame
      · apply feedAll_ne_of_twoFlips hodd _ hlength hflips _ hsame
        intro distance hpos hwithin
        have hframe := length_of_buildFrameByte hbuild
        simp only [Protocol.headerSize, Protocol.maxPayloadSize,
          Protocol.crcSize] at hframe
        rw [length_frameBits] at hwithin
        exact crc16_period hpos (by omega)

/-- A ping whose header was overwritten in two neighbouring bytes. -/
theorem parseFrame_of_damaged_ping :
    parseFrame [0xA5#8, 0x15#8, 0x81#8, 0x00#8, 0x01#8, 0x00#8, 0x00#8,
      0x93#8, 0x06#8] = none := by
  have hbuild : buildFrameByte MessageType.ping.code [] 1 =
      some [0xA5#8, 0x05#8, 0x01#8, 0x00#8, 0x01#8, 0x00#8, 0x00#8, 0x93#8,
        0x06#8] := by
    decide +kernel
  apply parseFrame_of_damaged hbuild
  refine ⟨rfl, Or.inl ?_⟩
  -- The first eight bits and all from the twenty-fourth on are the same.
  have hbefore : (frameBits [0xA5#8, 0x05#8, 0x01#8, 0x00#8, 0x01#8, 0x00#8,
        0x00#8, 0x93#8, 0x06#8]).take 8 =
      (frameBits [0xA5#8, 0x15#8, 0x81#8, 0x00#8, 0x01#8, 0x00#8, 0x00#8,
        0x93#8, 0x06#8]).take 8 := rfl
  exact Burst.of_agree (by decide) hbefore rfl

end SensorFirmware
