import SensorFirmware.ProtocolDispatch

/-!
# Building and parsing frames

`buildFrame` and `parseFrame` are inverse to each other: a frame is parsed back
into what it was built from, and nothing else is accepted.
-/

namespace SensorFirmware

/-- `buildFrame` at any value of the type byte, which is what the parameter of
type `MessageType` can hold. -/
def buildFrameByte (code : Byte) (payload : List Byte) (seqNum : ℕ) :
    Option (List Byte) :=
  if Protocol.maxPayloadSize < payload.length then none
  else
    let content := [Protocol.sof, code, Protocol.version] ++
      be16Bytes seqNum ++ be16Bytes payload.length ++ payload
    let crc := calculateCRC16 content
    some (content ++ be16Bytes crc.toNat)

theorem buildFrame_eq_byte (type : MessageType) (payload : List Byte)
    (seqNum : ℕ) :
    buildFrame type payload seqNum =
      buildFrameByte type.code payload seqNum := rfl

/-- What the checksum of a frame is taken over. -/
def frameContent (code : Byte) (payload : List Byte) (seqNum : ℕ) :
    List Byte :=
  [Protocol.sof, code, Protocol.version] ++ be16Bytes seqNum ++
    be16Bytes payload.length ++ payload

variable {code : Byte} {payload data frame : List Byte} {seqNum : ℕ}
  {message : ReceivedMessage}

theorem buildFrameByte_eq_some_iff :
    buildFrameByte code payload seqNum = some frame ↔
      payload.length ≤ Protocol.maxPayloadSize ∧
      frame = frameContent code payload seqNum ++
        be16Bytes (calculateCRC16 (frameContent code payload seqNum)).toNat := by
  unfold buildFrameByte
  split
  case isTrue hlong =>
      constructor
      · intro hnone
        cases hnone
      · intro hfits
        omega
  case isFalse hfits =>
      constructor
      · intro hbuild
        exact ⟨Nat.le_of_not_lt hfits, (Option.some.inj hbuild).symm⟩
      · intro hframe
        rw [hframe.2]
        rfl

@[simp] theorem length_frameContent :
    (frameContent code payload seqNum).length =
      Protocol.headerSize + payload.length := by
  simp [frameContent, be16Bytes, Protocol.headerSize]
  omega

/-! ## Words of two bytes -/

theorem be16_lt (high low : Byte) : be16 high low < 2 ^ 16 := by
  have hhigh := high.isLt
  have hlow := low.isLt
  unfold be16
  omega

theorem be16Bytes_be16 (high low : Byte) :
    be16Bytes (be16 high low) = [high, low] := by
  have hlow := low.isLt
  have hdiv : (high.toNat * 256 + low.toNat) / 256 = high.toNat := by
    omega
  have hmod : BitVec.ofNat 8 (high.toNat * 256 + low.toNat) = low := by
    apply BitVec.eq_of_toNat_eq
    rw [BitVec.toNat_ofNat]
    omega
  simp only [be16Bytes, be16, hdiv, hmod, BitVec.ofNat_toNat,
    BitVec.setWidth_eq]

/-! ## Parsing -/

/-- All that `parseFrame` asks of the bytes it accepts. -/
structure Framed (data : List Byte) (message : ReceivedMessage) : Prop where
  fits : message.payload.length ≤ Protocol.maxPayloadSize
  numbered : message.seqNum < 2 ^ 16
  bytes : data =
    frameContent message.msgType message.payload message.seqNum ++
      be16Bytes (calculateCRC16 (frameContent message.msgType message.payload
        message.seqNum)).toNat

theorem framed_of_parseFrame (hparse : parseFrame data = some message) :
    Framed data message := by
  unfold parseFrame at hparse
  split at hparse
  next sof msgType version seqHigh seqLow lenHigh lenLow rest =>
    simp only at hparse
    split_ifs at hparse with hshort hsof hheader
    split at hparse
    next crcHigh crcLow hrest =>
      split_ifs at hparse with hcrc
      rw [ne_eq, not_not] at hsof hcrc
      rw [not_or, ne_eq, not_not, Nat.not_lt] at hheader
      -- Two bytes follow the payload, so that its length is the one announced.
      have hlength : (rest.take (be16 lenHigh lenLow)).length =
          be16 lenHigh lenLow := by
        have hlonger := congrArg List.length hrest
        rw [List.length_drop, List.length_cons, List.length_singleton]
          at hlonger
        rw [List.length_take]
        omega
      have hsplit :
          rest = rest.take (be16 lenHigh lenLow) ++ [crcHigh, crcLow] := by
        rw [← hrest, List.take_append_drop]
      generalize rest.take (be16 lenHigh lenLow) = payload
        at hparse hlength hsplit
      subst hsplit
      have hcontent :
          sof :: msgType :: version :: seqHigh :: seqLow :: lenHigh ::
              lenLow :: (payload ++ [crcHigh, crcLow]) =
            frameContent msgType payload (be16 seqHigh seqLow) ++
              [crcHigh, crcLow] := by
        simp only [frameContent, hlength, be16Bytes_be16, hsof, hheader.1,
          List.cons_append, List.nil_append]
      rw [hcontent, List.take_left' (by simp [Protocol.crcSize])] at hcrc
      cases hparse
      constructor
      · simpa only [hlength] using hheader.2
      · exact be16_lt seqHigh seqLow
      · rw [hcontent, ← hcrc, be16Bytes_be16]
    · cases hparse
  · cases hparse

theorem Framed.parseFrame (hframed : Framed data message) :
    SensorFirmware.parseFrame data = some message := by
  obtain ⟨msgType, seqNum, payload⟩ := message
  obtain ⟨hfits, hnumbered, hbytes⟩ := hframed
  simp only [Protocol.maxPayloadSize] at hfits hnumbered hbytes
  have hseq := be16_of_word hnumbered
  have hlen : be16 (BitVec.ofNat 8 (payload.length / 256))
      (BitVec.ofNat 8 payload.length) = payload.length :=
    be16_of_word (by omega)
  have hcrc := be16_of_word
    (calculateCRC16 (frameContent msgType payload seqNum)).isLt
  have hlength : data.length = 9 + payload.length := by
    rw [hbytes]
    simp [be16Bytes, Protocol.headerSize]
    omega
  have hchecked : data.take (data.length - Protocol.crcSize) =
      frameContent msgType payload seqNum := by
    rw [hlength, hbytes]
    apply List.take_left'
    simp [Protocol.headerSize, Protocol.crcSize]
    omega
  generalize hsum : calculateCRC16 (frameContent msgType payload seqNum) = crc
    at hbytes hcrc
  have hshape : data = Protocol.sof :: msgType :: Protocol.version ::
      BitVec.ofNat 8 (seqNum / 256) :: BitVec.ofNat 8 seqNum ::
      BitVec.ofNat 8 (payload.length / 256) ::
      BitVec.ofNat 8 payload.length ::
      (payload ++ be16Bytes crc.toNat) := by
    rw [hbytes]
    simp only [frameContent, be16Bytes, List.cons_append, List.nil_append]
  unfold SensorFirmware.parseFrame
  rw [hshape] at hlength hchecked ⊢
  have hlong : ¬ 9 + payload.length < Protocol.minFrameSize := by
    simp [Protocol.minFrameSize, Protocol.headerSize, Protocol.crcSize]
  have hshort : ¬ Protocol.maxPayloadSize < payload.length :=
    Nat.not_lt.mpr hfits
  rw [hlength] at hchecked
  simp only [hlen, hseq, List.drop_left, List.take_left, hlength, hchecked]
  simp only [be16Bytes, hlong, hshort, hsum, hcrc, ne_eq, not_true_eq_false,
    or_self, if_false]

theorem framed_iff_buildFrameByte :
    Framed data message ↔
      message.seqNum < 2 ^ 16 ∧
      buildFrameByte message.msgType message.payload message.seqNum =
        some data := by
  rw [buildFrameByte_eq_some_iff]
  constructor
  · intro hframed
    exact ⟨hframed.numbered, hframed.fits, hframed.bytes⟩
  · intro hbuild
    exact ⟨hbuild.2.1, hbuild.1, hbuild.2.2⟩

/-! ## The codec -/

/-- `parseFrame` undoes `buildFrame`, and accepts the frames it builds and no
other bytes. -/
theorem frame_codec :
    (∀ (type : MessageType) (payload : List Byte) (seqNum : ℕ),
      seqNum < 2 ^ 16 → payload.length ≤ Protocol.maxPayloadSize →
      ∃ frame, buildFrame type payload seqNum = some frame ∧
        parseFrame frame = some ⟨type.code, seqNum, payload⟩) ∧
    (∀ (code : Byte) (payload : List Byte) (seqNum : ℕ),
      seqNum < 2 ^ 16 → payload.length ≤ Protocol.maxPayloadSize →
      ∃ frame, buildFrameByte code payload seqNum = some frame ∧
        parseFrame frame = some ⟨code, seqNum, payload⟩) ∧
    (∀ (data : List Byte) (message : ReceivedMessage),
      parseFrame data = some message →
      buildFrameByte message.msgType message.payload message.seqNum =
        some data) ∧
    (∀ data : List Byte, (parseFrame data).isSome ↔
      ∃ code payload seqNum, seqNum < 2 ^ 16 ∧
        buildFrameByte code payload seqNum = some data) := by
  have hbuilt : ∀ (code : Byte) (payload : List Byte) (seqNum : ℕ),
      seqNum < 2 ^ 16 → payload.length ≤ Protocol.maxPayloadSize →
      ∃ frame, buildFrameByte code payload seqNum = some frame ∧
        parseFrame frame = some ⟨code, seqNum, payload⟩ := by
    intro code payload seqNum hseq hfits
    have hframed : Framed (frameContent code payload seqNum ++ be16Bytes
        (calculateCRC16 (frameContent code payload seqNum)).toNat)
        ⟨code, seqNum, payload⟩ := ⟨hfits, hseq, rfl⟩
    exact ⟨_, (framed_iff_buildFrameByte.mp hframed).2, hframed.parseFrame⟩
  constructor
  · intro type payload seqNum
    rw [buildFrame_eq_byte]
    exact hbuilt type.code payload seqNum
  constructor
  · exact hbuilt
  constructor
  · intro data message hparse
    exact (framed_iff_buildFrameByte.mp (framed_of_parseFrame hparse)).2
  · intro data
    constructor
    · intro haccepted
      obtain ⟨message, hparse⟩ := Option.isSome_iff_exists.mp haccepted
      have hbuild := framed_iff_buildFrameByte.mp (framed_of_parseFrame hparse)
      exact ⟨_, _, _, hbuild⟩
    · rintro ⟨code, payload, seqNum, hbuild⟩
      have hframed : Framed data ⟨code, seqNum, payload⟩ :=
        framed_iff_buildFrameByte.mpr hbuild
      rw [hframed.parseFrame]
      rfl

end SensorFirmware
