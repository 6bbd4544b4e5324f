import SensorFirmware.CyclicRedundancy
import SensorFirmware.WindowExtraction

/-!
# The two readers of a record

The device reads a record through its packed struct, and the tool through the
format string.  Both make the same checks on the same bytes, with the checksum
that is standard CRC-32.
-/

namespace SensorFirmware

open PackedFields

/-! ## The checksum -/

/-- CRC-32: the polynomial `0x04C11DB7`, reflected, with all ones at both ends. -/
def standardCRC32 (data : List Byte) : BitVec 32 :=
  CyclicRedundancy.reflectedCode 0x04C11DB7#32 0xFFFFFFFF#32 0xFFFFFFFF#32 data

theorem crc32Bit_eq (crc : BitVec 32) :
    crc32Bit crc =
      CyclicRedundancy.shiftOut (0x04C11DB7#32).reverse crc false := by
  have hpoly : (0x04C11DB7#32).reverse = 0xEDB88320#32 := by
    decide +kernel
  have hlow : crc &&& 1#32 = (BitVec.ofBool (crc.getLsbD 0)).setWidth 32 :=
    BitVec.and_one_eq_setWidth_ofBool_getLsbD
  rw [crc32Bit, CyclicRedundancy.shiftOut, hpoly, hlow, Bool.xor_false]
  cases crc.getLsbD 0
  · exact BitVec.xor_zero
  · rfl

theorem crc32Byte_eq :
    crc32Byte = CyclicRedundancy.shiftWord (0x04C11DB7#32).reverse := by
  funext crc b
  exact congrArg (fun step => step^[8] (crc ^^^ b.setWidth 32))
    (funext crc32Bit_eq)

theorem calculateCRC32_eq (data : List Byte) :
    calculateCRC32 data = standardCRC32 data := by
  have hones : (0xFFFFFFFF#32).reverse = 0xFFFFFFFF#32 := by
    decide +kernel
  have hcode := CyclicRedundancy.foldl_shiftWord (by decide : 8 ≤ 32)
    0x04C11DB7#32 0xFFFFFFFF#32 data
  rw [hones, ← crc32Byte_eq] at hcode
  rw [calculateCRC32, updateCRC32, hcode, standardCRC32,
    CyclicRedundancy.reflectedCode]
  exact (BitVec.xor_allOnes).symm

/-! ## The packed struct of a record -/

def SampleRecord.widths : List ℕ := [2, 2]

def SampleRecord.ofBytes (bytes : List Byte) : SampleRecord :=
  let fields := unpack widths bytes
  { proximity := UInt16.ofNat (fields.getD 0 0)
    dtMs := UInt16.ofNat (fields.getD 1 0) }

def WindowHeader.widths : List ℕ :=
  [2, 1, 1, 2, 2, 1, 1, 4, 4, 2, 2, 2, 1, 1, 1, 1, 4]

def WindowHeader.ofBytes (bytes : List Byte) : WindowHeader :=
  let fields := unpack widths bytes
  { magic := UInt16.ofNat (fields.getD 0 0)
    version := UInt8.ofNat (fields.getD 1 0)
    sampleCount := UInt8.ofNat (fields.getD 2 0)
    sessionId := UInt16.ofNat (fields.getD 3 0)
    windowId := UInt16.ofNat (fields.getD 4 0)
    label := UInt8.ofNat (fields.getD 5 0)
    reserved0 := UInt8.ofNat (fields.getD 6 0)
    startUptimeMs := UInt32.ofNat (fields.getD 7 0)
    startEpoch := UInt32.ofNat (fields.getD 8 0)
    wakeThreshold := UInt16.ofNat (fields.getD 9 0)
    detectionThreshold := UInt16.ofNat (fields.getD 10 0)
    criticalDetectionThreshold := UInt16.ofNat (fields.getD 11 0)
    sensitivity := UInt8.ofNat (fields.getD 12 0)
    flags := UInt8.ofNat (fields.getD 13 0)
    bootCount := UInt8.ofNat (fields.getD 14 0)
    reserved1 := UInt8.ofNat (fields.getD 15 0)
    crc32 := UInt32.ofNat (fields.getD 16 0) }

def SampleWindow.ofBytes (size : ℕ) (bytes : List Byte) : SampleWindow size where
  header := .ofBytes bytes
  samples := Vector.ofFn fun i => .ofBytes ((bytes.drop 32).drop (4 * i.val))

theorem SampleRecord.toBytes_ofBytes {bytes : List Byte}
    (hlong : 4 ≤ bytes.length) :
    (ofBytes bytes).toBytes = bytes.take 4 := by
  have hproximity := getD_unpack_lt widths bytes 0
  have hdt := getD_unpack_lt widths bytes 1
  have hfields :
      (ofBytes bytes).fields = widths.zip (unpack widths bytes) := by
    simp only [fields, ofBytes, UInt16.toNat_ofNat_of_lt' hproximity,
      UInt16.toNat_ofNat_of_lt' hdt]
    rfl
  rw [toBytes, hfields]
  exact pack_unpack widths bytes hlong

theorem WindowHeader.toBytes_ofBytes {bytes : List Byte}
    (hlong : 32 ≤ bytes.length) :
    (ofBytes bytes).toBytes = bytes.take 32 := by
  have hfits := getD_unpack_lt widths bytes
  have hfields :
      (ofBytes bytes).fields = widths.zip (unpack widths bytes) := by
    simp only [fields, checkedFields, ofBytes,
      UInt16.toNat_ofNat_of_lt' (hfits 0), UInt8.toNat_ofNat_of_lt' (hfits 1),
      UInt8.toNat_ofNat_of_lt' (hfits 2), UInt16.toNat_ofNat_of_lt' (hfits 3),
      UInt16.toNat_ofNat_of_lt' (hfits 4), UInt8.toNat_ofNat_of_lt' (hfits 5),
      UInt8.toNat_ofNat_of_lt' (hfits 6), UInt32.toNat_ofNat_of_lt' (hfits 7),
      UInt32.toNat_ofNat_of_lt' (hfits 8), UInt16.toNat_ofNat_of_lt' (hfits 9),
      UInt16.toNat_ofNat_of_lt' (hfits 10),
      UInt16.toNat_ofNat_of_lt' (hfits 11),
      UInt8.toNat_ofNat_of_lt' (hfits 12), UInt8.toNat_ofNat_of_lt' (hfits 13),
      UInt8.toNat_ofNat_of_lt' (hfits 14), UInt8.toNat_ofNat_of_lt' (hfits 15),
      UInt32.toNat_ofNat_of_lt' (hfits 16)]
    simp [widths, unpack]
  rw [toBytes, hfields]
  exact pack_unpack widths bytes hlong

theorem flatMap_ofBytes (size : ℕ) {bytes : List Byte}
    (hlength : bytes.length = 4 * size) :
    (List.ofFn fun i : Fin size =>
      SampleRecord.ofBytes (bytes.drop (4 * i.val))).flatMap
        SampleRecord.toBytes = bytes := by
  induction size generalizing bytes with
  | zero => exact (List.length_eq_zero_iff.mp hlength).symm
  | succ size ih =>
      have hrest : (bytes.drop 4).length = 4 * size := by
        rw [List.length_drop]
        omega
      have hnext (i : Fin size) :
          bytes.drop (4 * i.succ.val) = (bytes.drop 4).drop (4 * i.val) := by
        rw [List.drop_drop, Fin.val_succ, Nat.mul_succ, Nat.add_comm]
      rw [List.ofFn_succ, List.flatMap_cons]
      simp only [hnext]
      rw [ih hrest, Fin.val_zero, Nat.mul_zero, List.drop_zero,
        SampleRecord.toBytes_ofBytes (by omega), List.take_append_drop]

theorem SampleWindow.toBytes_ofBytes {size : ℕ} {bytes : List Byte}
    (hlength : bytes.length = serializedSize size) :
    (ofBytes size bytes).toBytes = bytes := by
  unfold serializedSize at hlength
  have hsamples : (bytes.drop 32).length = 4 * size := by
    rw [List.length_drop]
    omega
  have hheader : (ofBytes size bytes).header.toBytes = bytes.take 32 :=
    WindowHeader.toBytes_ofBytes (by omega)
  have hbody : (ofBytes size bytes).sampleBytes = bytes.drop 32 := by
    rw [sampleBytes, ofBytes, Vector.toList_ofFn]
    exact flatMap_ofBytes size hsamples
  rw [toBytes, hheader, hbody, List.take_append_drop]

/-! ## Agreement -/

open ExtractWindows

variable {stride depth period : ℕ}

theorem finalised_publishWindow
    (logger : DataLoggerService (toolConfig stride depth period))
    {env : SampleEnv} (hlock : env.inferenceLock = true) :
    (logger.publishWindow env).inferenceWindow.Finalised := by
  rw [DataLoggerService.publishWindow, if_pos hlock]
  exact
    { magic := rfl
      version := rfl
      sampleCount := rfl
      reserved1 := rfl
      crc := (SampleWindow.calculateCRC_withCRC _).symm }

/-- The header and the samples that the tool reads are those of the struct, also
of a record that neither side accepts. -/
theorem parse_ofBytes {size : ℕ} {raw : List Byte}
    (hlength : raw.length = SampleWindow.serializedSize size) :
    parseHeader (raw.take windowHeaderSize) =
        some (SampleWindow.ofBytes size raw).header.extracted ∧
      ∀ count, parseSamples (raw.drop windowHeaderSize) count =
        ((SampleWindow.ofBytes size raw).samples.toList.take count).map
          SampleRecord.extracted := by
  have hbytes := SampleWindow.toBytes_ofBytes hlength
  have hheader : raw.take windowHeaderSize =
      (SampleWindow.ofBytes size raw).header.toBytes := by
    rw [← congrArg (List.take windowHeaderSize) hbytes]
    exact List.take_left' (WindowHeader.length_toBytes _)
  have hsamples : raw.drop windowHeaderSize =
      (SampleWindow.ofBytes size raw).sampleBytes := by
    rw [← congrArg (List.drop windowHeaderSize) hbytes]
    exact List.drop_left' (WindowHeader.length_toBytes _)
  rw [hheader, hsamples]
  exact ⟨parseHeader_toBytes _, parseSamples_flatMap _⟩

theorem accepts_of_finalised
    {window : SampleWindow (toolConfig stride depth period).windowSize}
    (hfinal : window.Finalised) :
    validateWindow window.toBytes = some window.extracted ∧
      window.isValid (toolConfig stride depth period) = true :=
  ⟨validateWindow_toBytes hfinal, hfinal.isValid⟩

/-- Of any record of the size of the struct, the tool accepts what the device
accepts and reads the header fields and samples that the struct holds; both
accept every window that the logger writes or publishes. -/
theorem validators_agree (stride depth period : ℕ)
    (raw : Vector Byte sampleWindowSize) :
    let cfg := toolConfig stride depth period
    let window := SampleWindow.ofBytes cfg.windowSize raw.toList
    (validateWindow raw.toList).isSome = window.isValid cfg ∧
      validateWindow raw.toList =
        (if window.isValid cfg then some window.decoded else none) ∧
      parseHeader (raw.toList.take windowHeaderSize) =
        some window.header.extracted ∧
      (∀ count, parseSamples (raw.toList.drop windowHeaderSize) count =
        (window.samples.toList.take count).map SampleRecord.extracted) ∧
      (∀ data, ExtractWindows.crc32 data = (standardCRC32 data).toNat) ∧
      ∀ logger : DataLoggerService cfg,
        (∀ env, validateWindow (logger.writeWindow env).toBytes =
            some (logger.writeWindow env).extracted ∧
          (logger.writeWindow env).isValid cfg = true) ∧
        ∀ env : SampleEnv,
          let published :=
            (logger.publishWindow { env with inferenceLock := true })
              |>.inferenceWindow
          validateWindow published.toBytes = some published.extracted ∧
            published.isValid cfg = true := by
  intro cfg window
  have hlength : raw.toList.length = SampleWindow.serializedSize 40 :=
    raw.length_toList
  have hvalidate : validateWindow raw.toList =
      if window.isValid cfg then some window.decoded else none := by
    have hbytes : window.toBytes = raw.toList :=
      SampleWindow.toBytes_ofBytes hlength
    rw [← hbytes]
    exact validateWindow_toBytes_eq window
  obtain ⟨hheader, hsamples⟩ := parse_ofBytes hlength
  refine ⟨?_, hvalidate, hheader, hsamples, ?_, ?_⟩
  · rw [hvalidate]
    cases window.isValid cfg <;> rfl
  · intro data
    rw [ExtractWindows.crc32, calculateCRC32_eq]
  · intro logger
    constructor
    · intro env
      exact accepts_of_finalised (logger.finalised_writeWindow env)
    · intro env
      exact accepts_of_finalised (finalised_publishWindow logger rfl)

end SensorFirmware
