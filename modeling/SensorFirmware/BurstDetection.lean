import SensorFirmware.ConfigRecord
import SensorFirmware.FeedbackRegister
import SensorFirmware.HistoryState
import SensorFirmware.WindowAgreement

/-!
# Bursts in persisted records

A reflected code is a feedback register that takes in the bits of each byte
from the lowest on, so that it tells messages apart that differ in a burst no
longer than the register.  The three records that carry a CRC-32 are refused
after such damage to the bytes that it is over.
-/

namespace FeedbackRegister

/-- Two messages with front parts of one length differ in those or behind. -/
theorem differ_append {front front' rest rest' : List Bool}
    (hfront : front.length = front'.length) {i : ℕ}
    (hdiffer : (front ++ rest)[i]? ≠ (front' ++ rest')[i]?) :
    i < front.length ∧ front[i]? ≠ front'[i]? ∨
      front.length ≤ i ∧
        rest[i - front.length]? ≠ rest'[i - front.length]? := by
  by_cases hi : i < front.length
  · rw [List.getElem?_append_left hi,
      List.getElem?_append_left (hfront ▸ hi)] at hdiffer
    exact Or.inl ⟨hi, hdiffer⟩
  · have hle := not_lt.mp hi
    rw [List.getElem?_append_right hle,
      List.getElem?_append_right (hfront ▸ hle), ← hfront] at hdiffer
    exact Or.inr ⟨hle, hdiffer⟩

/-- Damage around a part that is no shorter than the span lies before it or
behind it. -/
theorem Burst.of_surrounding {span : ℕ} {front front' middle rest rest' :
    List Bool} (hfront : front.length = front'.length)
    (hspan : span ≤ middle.length)
    (hburst : Burst span (front ++ middle ++ rest)
      (front' ++ middle ++ rest')) :
    Burst span (front ++ rest) (front' ++ rest') := by
  obtain ⟨hne, start, hwithin⟩ := hburst
  have hearly : ∀ i, i < front.length → front[i]? ≠ front'[i]? →
      start ≤ i ∧ i < start + span := by
    intro i hi hdiffer
    apply hwithin i
    rw [List.append_assoc, List.append_assoc,
      List.getElem?_append_left hi, List.getElem?_append_left (hfront ▸ hi)]
    exact hdiffer
  have hlate : ∀ i, rest[i]? ≠ rest'[i]? →
      start ≤ front.length + middle.length + i ∧
        front.length + middle.length + i < start + span := by
    intro i hdiffer
    have hplace : (front ++ middle).length = front.length + middle.length :=
      List.length_append
    have hplace' : (front' ++ middle).length =
        front.length + middle.length := by
      rw [List.length_append, hfront]
    apply hwithin
    rw [List.getElem?_append_right (by omega),
      List.getElem?_append_right (by omega), hplace, hplace',
      Nat.add_sub_cancel_left]
    exact hdiffer
  refine ⟨?_, ?_⟩
  · intro hsame
    obtain ⟨hfronts, hrests⟩ := List.append_inj hsame hfront
    exact hne (by rw [hfronts, hrests])
  · by_cases hdamaged : ∃ i, i < front.length ∧ front[i]? ≠ front'[i]?
    · obtain ⟨first, hfirst, hdiffers⟩ := hdamaged
      have hbounds := hearly first hfirst hdiffers
      use start
      intro i hdiffer
      obtain ⟨hi, hhere⟩ | ⟨hi, hhere⟩ := differ_append hfront hdiffer
      · exact hearly i hi hhere
      · have hend := (hlate _ hhere).2
        omega
    · use start - middle.length
      intro i hdiffer
      obtain ⟨hi, hhere⟩ | ⟨hi, hhere⟩ := differ_append hfront hdiffer
      · exact absurd ⟨i, hi, hhere⟩ hdamaged
      · have hbounds := hlate _ hhere
        omega

end FeedbackRegister

namespace CyclicRedundancy

open FeedbackRegister

variable {width n : ℕ}

/-- The bits of a message in the order in which a reflected code reads them. -/
def messageBits (message : List (BitVec n)) : List Bool := message.flatMap bits

@[simp] theorem length_messageBits (message : List (BitVec n)) :
    (messageBits message).length = n * message.length := by
  induction message with
  | nil => rfl
  | cons word message ih =>
      have hword : (bits word).length = n := by simp [bits]
      rw [messageBits, List.flatMap_cons, List.length_append, ← messageBits,
        ih, hword, List.length_cons, Nat.mul_succ, Nat.add_comm]

theorem messageBits_append (message rest : List (BitVec n)) :
    messageBits (message ++ rest) = messageBits message ++ messageBits rest :=
  List.flatMap_append

/-- Adding the bit at the upper end is feeding it to the register. -/
theorem shiftIn_eq_feed (hwidth : 0 < width) (poly register : BitVec width)
    (bit : Bool) : shiftIn poly register bit = feed poly register bit := by
  have hmsb : (register ^^^ enter bit).msb = (register.msb ^^ bit) := by
    have htop : (top width).msb = true := by
      rw [top, BitVec.msb_twoPow]
      simp [hwidth]
    cases bit <;> simp [enter, htop]
  have hout : (register ^^^ enter bit) <<< 1 = register <<< 1 := by
    have hlost : (top width) <<< 1 = (0 : BitVec width) := by
      apply BitVec.eq_of_getLsbD_eq
      intro i hi
      rw [BitVec.getLsbD_shiftLeft, top, BitVec.getLsbD_twoPow]
      simp
      omega
    rw [BitVec.shiftLeft_xor_distrib]
    cases bit <;> simp [enter, hlost]
  unfold shiftIn feed shift
  rw [hmsb, hout]

/-- A code with an odd polynomial tells messages of one length apart that differ
in a burst within its width. -/
theorem reflectedCode_ne_of_burst (hwidth : 0 < width)
    {poly : BitVec width} (hodd : poly.getLsbD 0 = true)
    (init final : BitVec width) {message other : List (BitVec n)}
    (hlength : message.length = other.length)
    (hburst : Burst width (messageBits message) (messageBits other)) :
    reflectedCode poly init final message ≠
      reflectedCode poly init final other := by
  have hfold : ∀ message : List (BitVec n),
      (message.flatMap bits).foldl (shiftIn poly) init =
        feedAll poly init (messageBits message) := by
    intro message
    have hstep : shiftIn poly = feed poly := by
      funext register bit
      exact shiftIn_eq_feed hwidth poly register bit
    rw [hstep]
    rfl
  have hbits : (messageBits message).length = (messageBits other).length := by
    rw [length_messageBits, length_messageBits, hlength]
  intro hsame
  have hreversed := (BitVec.xor_left_inj final).mp hsame
  rw [hfold, hfold] at hreversed
  apply feedAll_ne_of_burst hodd hbits hburst init
  have hback := congrArg BitVec.reverse hreversed
  rw [BitVec.reverse_reverse_eq, BitVec.reverse_reverse_eq] at hback
  exact hback

end CyclicRedundancy

namespace SensorFirmware

open CyclicRedundancy FeedbackRegister

theorem calculateCRC32_ne_of_burst {data other : List Byte}
    (hlength : data.length = other.length)
    (hburst : Burst 32 (messageBits data) (messageBits other)) :
    calculateCRC32 data ≠ calculateCRC32 other := by
  rw [calculateCRC32_eq, calculateCRC32_eq]
  exact reflectedCode_ne_of_burst (by decide) (by decide) _ _ hlength hburst

/-- The same for damage in front of bytes that keep their place, or around
them. -/
theorem calculateCRC32_ne_of_surrounding {front front' middle rest rest' :
    List Byte} (hfront : front.length = front'.length)
    (hrest : rest.length = rest'.length) (hmiddle : 4 ≤ middle.length)
    (hburst : Burst 32 (messageBits (front ++ middle ++ rest))
      (messageBits (front' ++ middle ++ rest'))) :
    calculateCRC32 (front ++ rest) ≠ calculateCRC32 (front' ++ rest') := by
  apply calculateCRC32_ne_of_burst
  · rw [List.length_append, List.length_append, hfront, hrest]
  · rw [messageBits_append, messageBits_append, messageBits_append,
      messageBits_append] at hburst
    rw [messageBits_append, messageBits_append]
    apply Burst.of_surrounding _ _ hburst
    · rw [length_messageBits, length_messageBits, hfront]
    · rw [length_messageBits]
      omega

/-! ## The configuration record -/

theorem UserConfig.crcData_ofBytes {bytes : List Byte}
    (hlength : bytes.length = 16) :
    (UserConfig.ofBytes bytes).crcData = bytes.take 12 := by
  have hfield : ∀ offset width, offset + width ≤ 16 →
      leBytes width (leNat ((bytes.drop offset).take width)) =
        (bytes.drop offset).take width := by
    intro offset width hend
    have hwidth : width ≤ (bytes.drop offset).length := by
      rw [List.length_drop, hlength]
      omega
    exact (take_of_leNat_take hwidth rfl).symm
  have hsplit : ∀ offset width,
      bytes.take (offset + width) =
        bytes.take offset ++ (bytes.drop offset).take width :=
    fun offset width => List.take_add
  have hfirst := hfield 0 1 (by decide)
  rw [List.drop_zero] at hfirst
  unfold crcData ofBytes
  dsimp only
  rw [hsplit 8 4, hsplit 4 4, hsplit 3 1, hsplit 2 1, hsplit 1 1, hfirst,
    hfield 1 1 (by decide), hfield 2 1 (by decide), hfield 3 1 (by decide),
    hfield 4 4 (by decide), hfield 8 4 (by decide)]

/-- The blob has the length of a record and the checksum of its fields. -/
def IntactBlob (bytes : List Byte) : Prop :=
  bytes.length = 16 ∧
    (UserConfig.ofBytes bytes).calculateConfigCrc =
      (UserConfig.ofBytes bytes).crc32

theorem readFromNvs_of_burst {bytes damaged : List Byte}
    (hintact : IntactBlob bytes) (hlength : damaged.length = 16)
    (hcrc : damaged.drop 12 = bytes.drop 12)
    (hburst : Burst 32 (messageBits bytes) (messageBits damaged))
    (service : ConfigService) (env : ConfigBootEnv) :
    service.readFromNvs (some damaged) env =
      (service, some damaged, false) := by
  have hstored : (UserConfig.ofBytes damaged).crc32 =
      (UserConfig.ofBytes bytes).crc32 := by
    unfold UserConfig.ofBytes
    dsimp only
    rw [hcrc]
  have hdiffer : calculateCRC32 (bytes.take 12) ≠
      calculateCRC32 (damaged.take 12) := by
    have haround := @calculateCRC32_ne_of_surrounding (bytes.take 12)
      (damaged.take 12) (bytes.drop 12) [] []
    rw [List.append_nil, List.append_nil, List.append_nil, List.append_nil,
      List.take_append_drop, ← hcrc, List.take_append_drop] at haround
    apply haround _ rfl _ hburst
    · rw [List.length_take, List.length_take, hintact.1, hlength]
    · rw [List.length_drop, hlength]
  have hrefused : ((UserConfig.ofBytes damaged).calculateConfigCrc !=
      (UserConfig.ofBytes damaged).crc32) = true := by
    rw [bne_iff_ne, hstored, ← hintact.2, UserConfig.calculateConfigCrc,
      UserConfig.calculateConfigCrc, UserConfig.crcData_ofBytes hlength,
      UserConfig.crcData_ofBytes hintact.1]
    exact hdiffer.symm
  unfold ConfigService.readFromNvs
  dsimp only
  by_cases hread : (!env.readOk || damaged.length != 16) = true
  · rw [if_pos hread]
  · rw [if_neg hread, if_pos hrefused]

/-! ## The event buffer -/

def RTCState.bufferBytes {cfg : HistoryConfig} (state : RTCState cfg) :
    List Byte :=
  state.buffer.toList.flatMap DetectionEvent.toBytes

theorem RTCState.length_bufferBytes {cfg : HistoryConfig}
    (state : RTCState cfg) :
    state.bufferBytes.length = 24 * cfg.bufferSize := by
  have hall : ∀ events : List DetectionEvent,
      (events.flatMap DetectionEvent.toBytes).length = 24 * events.length := by
    intro events
    induction events with
    | nil => rfl
    | cons event events ih =>
        rw [List.flatMap_cons, List.length_append, ih, event.length_toBytes,
          List.length_cons]
        omega
  rw [bufferBytes, hall, Vector.length_toList]

theorem validateState_of_burst {cfg : HistoryConfig}
    {state damaged : RTCState cfg} (hvalid : state.validateState = true)
    (hcrc : damaged.crc32 = state.crc32)
    (hburst : Burst 32 (messageBits state.bufferBytes)
      (messageBits damaged.bufferBytes)) :
    damaged.validateState = false := by
  have hlength : state.bufferBytes.length = damaged.bufferBytes.length := by
    rw [state.length_bufferBytes, damaged.length_bufferBytes]
  have hdiffer := calculateCRC32_ne_of_burst hlength hburst
  obtain ⟨-, hstored⟩ := Bool.and_eq_true_iff.mp hvalid
  have hsame : state.calculateBufferCRC = state.crc32 :=
    beq_iff_eq.mp hstored
  have hrefused : (damaged.calculateBufferCRC == damaged.crc32) = false := by
    rw [beq_eq_false_iff_ne, hcrc, ← hsame]
    exact hdiffer.symm
  rw [RTCState.validateState, hrefused, Bool.and_false]

/-! ## Sample windows -/

namespace SampleWindow

variable {size : ℕ}

/-- The two ranges that the checksum is over. -/
def coveredBytes (window : SampleWindow size) : List Byte :=
  PackedFields.pack window.header.checkedFields ++ window.sampleBytes

theorem isValid_of_crc_ne {cfg : MLConfig}
    {window damaged : SampleWindow cfg.windowSize}
    (hvalid : window.isValid cfg = true)
    (hcrc : damaged.header.crc32 = window.header.crc32)
    (hdiffer : calculateCRC32 window.coveredBytes ≠
      calculateCRC32 damaged.coveredBytes) :
    damaged.isValid cfg = false := by
  have hstored : window.header.crc32 = window.calculateCRC := by
    by_contra hwrong
    simp [isValid, hwrong] at hvalid
  have hrefused : damaged.header.crc32 ≠ damaged.calculateCRC := by
    rw [hcrc, hstored, calculateCRC_eq, calculateCRC_eq]
    intro hsame
    exact hdiffer (UInt32.ofBitVec.inj hsame)
  simp [isValid, hrefused]

/-- Damage within the covered ranges, one after the other. -/
theorem isValid_of_burst {cfg : MLConfig}
    {window damaged : SampleWindow cfg.windowSize}
    (hvalid : window.isValid cfg = true)
    (hcrc : damaged.header.crc32 = window.header.crc32)
    (hburst : Burst 32 (messageBits window.coveredBytes)
      (messageBits damaged.coveredBytes)) :
    damaged.isValid cfg = false := by
  apply isValid_of_crc_ne hvalid hcrc
  apply calculateCRC32_ne_of_burst _ hburst
  simp [coveredBytes]

/-- Damage within the record. -/
theorem isValid_of_burst_toBytes {cfg : MLConfig}
    {window damaged : SampleWindow cfg.windowSize}
    (hvalid : window.isValid cfg = true)
    (hcrc : damaged.header.crc32 = window.header.crc32)
    (hburst : Burst 32 (messageBits window.toBytes)
      (messageBits damaged.toBytes)) :
    damaged.isValid cfg = false := by
  apply isValid_of_crc_ne hvalid hcrc
  rw [toBytes, toBytes, WindowHeader.toBytes_eq, WindowHeader.toBytes_eq,
    hcrc] at hburst
  exact calculateCRC32_ne_of_surrounding (by simp) (by simp) (by simp) hburst

end SampleWindow

/-- The checksum tells strings of one length apart that differ in a burst of 32
bits, and such damage to the bytes under the checksum of a record is refused by
the record's own check. -/
theorem bursts_detected :
    (∀ data other : List Byte, data.length = other.length →
        Burst 32 (messageBits data) (messageBits other) →
          calculateCRC32 data ≠ calculateCRC32 other) ∧
      (∀ bytes damaged : List Byte, IntactBlob bytes →
        damaged.length = 16 → damaged.drop 12 = bytes.drop 12 →
        Burst 32 (messageBits bytes) (messageBits damaged) →
          ∀ (service : ConfigService) (env : ConfigBootEnv),
            service.readFromNvs (some damaged) env =
              (service, some damaged, false)) ∧
      (∀ (cfg : HistoryConfig) (state damaged : RTCState cfg),
        state.validateState = true → damaged.crc32 = state.crc32 →
        Burst 32 (messageBits state.bufferBytes)
            (messageBits damaged.bufferBytes) →
          damaged.validateState = false) ∧
      ∀ (cfg : MLConfig) (window damaged : SampleWindow cfg.windowSize),
        window.isValid cfg = true →
        damaged.header.crc32 = window.header.crc32 →
        Burst 32 (messageBits window.coveredBytes)
              (messageBits damaged.coveredBytes) ∨
            Burst 32 (messageBits window.toBytes)
              (messageBits damaged.toBytes) →
          damaged.isValid cfg = false := by
  refine ⟨?_, ?_, ?_, ?_⟩
  · intro data other hlength hburst
    exact calculateCRC32_ne_of_burst hlength hburst
  · intro bytes damaged hintact hlength hcrc hburst service env
    exact readFromNvs_of_burst hintact hlength hcrc hburst service env
  · intro cfg state damaged hvalid hcrc hburst
    exact validateState_of_burst hvalid hcrc hburst
  · rintro cfg window damaged hvalid hcrc (hburst | hburst)
    · exact SampleWindow.isValid_of_burst hvalid hcrc hburst
    · exact SampleWindow.isValid_of_burst_toBytes hvalid hcrc hburst

/-- A stored record, and the same with another sensitivity. -/
def storedSettings : List Byte := (UserConfig.initDefaults 7).sealed.toBytes

def damagedSettings : List Byte := storedSettings.set 1 0x33#8

theorem bursts_detected_storedSettings :
    IntactBlob storedSettings ∧ damagedSettings ≠ storedSettings ∧
      ∀ (service : ConfigService) (env : ConfigBootEnv),
        service.readFromNvs (some damagedSettings) env =
          (service, some damagedSettings, false) := by
  have hintact : IntactBlob storedSettings :=
    ⟨by decide +kernel, by decide +kernel⟩
  have hburst : Burst 32 (messageBits storedSettings)
      (messageBits damagedSettings) := by
    have hbefore : (messageBits storedSettings).take 8 =
        (messageBits damagedSettings).take 8 := by decide +kernel
    exact Burst.of_agree (by decide +kernel) hbefore (by decide +kernel)
  exact ⟨hintact, by decide +kernel,
    bursts_detected.2.1 storedSettings damagedSettings hintact
      (by decide +kernel) (by decide +kernel) hburst⟩

end SensorFirmware
