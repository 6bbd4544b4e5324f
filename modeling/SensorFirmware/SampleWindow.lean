import SensorFirmware.PackedFields

/-!
# Sample windows

The packed records of `SampleWindow.h`, their bytes, and the checksum and the
checks of `DataLoggerService.cpp`.  The window length, the magic and the version
are the constants of `MLConfig`.
-/

namespace SensorFirmware

open PackedFields

structure MLConfig where
  windowSize : ℕ
  windowStride : ℕ
  windowMagic : UInt16
  windowVersion : UInt8
  loggerQueueDepth : ℕ
  samplingPeriodMs : ℕ
  deriving DecidableEq, Repr

inductive GestureLabel where
  | idle
  | approach
  | hover
  | quickPass
  | coverHold
  | confirmedEvent
  | surfaceReflection
  | noise
  | unknown
  | unlabeled
  | invalid
  deriving DecidableEq, Repr

def GestureLabel.toByte : GestureLabel → UInt8
  | idle => 0
  | approach => 1
  | hover => 2
  | quickPass => 3
  | coverHold => 4
  | confirmedEvent => 5
  | surfaceReflection => 6
  | noise => 7
  | unknown => 8
  | unlabeled => 254
  | invalid => 255

structure SampleRecord where
  proximity : UInt16
  dtMs : UInt16
  deriving DecidableEq, Repr

structure WindowHeader where
  magic : UInt16
  version : UInt8
  sampleCount : UInt8
  sessionId : UInt16
  windowId : UInt16
  label : UInt8
  reserved0 : UInt8
  startUptimeMs : UInt32
  startEpoch : UInt32
  wakeThreshold : UInt16
  detectionThreshold : UInt16
  criticalDetectionThreshold : UInt16
  sensitivity : UInt8
  flags : UInt8
  bootCount : UInt8
  reserved1 : UInt8
  crc32 : UInt32
  deriving DecidableEq, Repr

structure SampleWindow (size : ℕ) where
  header : WindowHeader
  samples : Vector SampleRecord size
  deriving DecidableEq, Repr

namespace SampleRecord

def fields (sample : SampleRecord) : List (ℕ × ℕ) :=
  [(2, sample.proximity.toNat), (2, sample.dtMs.toNat)]

def toBytes (sample : SampleRecord) : List Byte :=
  pack sample.fields

@[simp] theorem length_toBytes (sample : SampleRecord) :
    sample.toBytes.length = 4 := by
  rw [toBytes, length_pack]
  rfl

theorem fits (sample : SampleRecord) :
    ∀ field ∈ sample.fields, field.2 < 256 ^ field.1 := by
  have hproximity := sample.proximity.toNat_lt
  have hdt := sample.dtMs.toNat_lt
  simp [fields, hproximity, hdt]

end SampleRecord

namespace WindowHeader

/-- The fields before the checksum. -/
def checkedFields (header : WindowHeader) : List (ℕ × ℕ) :=
  [(2, header.magic.toNat), (1, header.version.toNat),
    (1, header.sampleCount.toNat), (2, header.sessionId.toNat),
    (2, header.windowId.toNat), (1, header.label.toNat),
    (1, header.reserved0.toNat), (4, header.startUptimeMs.toNat),
    (4, header.startEpoch.toNat), (2, header.wakeThreshold.toNat),
    (2, header.detectionThreshold.toNat),
    (2, header.criticalDetectionThreshold.toNat),
    (1, header.sensitivity.toNat), (1, header.flags.toNat),
    (1, header.bootCount.toNat), (1, header.reserved1.toNat)]

def fields (header : WindowHeader) : List (ℕ × ℕ) :=
  header.checkedFields ++ [(4, header.crc32.toNat)]

def toBytes (header : WindowHeader) : List Byte :=
  pack header.fields

@[simp] theorem length_pack_checkedFields (header : WindowHeader) :
    (pack header.checkedFields).length = 28 := by
  simp [checkedFields]

@[simp] theorem length_toBytes (header : WindowHeader) :
    header.toBytes.length = 32 := by
  simp [toBytes, fields, checkedFields]

theorem fits (header : WindowHeader) :
    ∀ field ∈ header.fields, field.2 < 256 ^ field.1 := by
  have hbyte (n : UInt8) : n.toNat < 256 := n.toNat_lt
  have hhalf (n : UInt16) : n.toNat < 65536 := n.toNat_lt
  have hword (n : UInt32) : n.toNat < 4294967296 := n.toNat_lt
  simp [fields, checkedFields, hbyte, hhalf, hword]

theorem toBytes_eq (header : WindowHeader) :
    header.toBytes =
      pack header.checkedFields ++ leBytes 4 header.crc32.toNat := by
  simp [toBytes, fields, pack]

/-- The checksum is over all fields before it, so setting it changes nothing
that it is over. -/
theorem take_toBytes (header : WindowHeader) :
    header.toBytes.take 28 = pack header.checkedFields := by
  rw [toBytes_eq, List.take_left' header.length_pack_checkedFields]

end WindowHeader

namespace SampleWindow

variable {size : ℕ}

/-- `sizeof(SampleWindow)`. -/
def serializedSize (size : ℕ) : ℕ := 32 + 4 * size

def sampleBytes (window : SampleWindow size) : List Byte :=
  window.samples.toList.flatMap SampleRecord.toBytes

def toBytes (window : SampleWindow size) : List Byte :=
  window.header.toBytes ++ window.sampleBytes

def calculateCRC (window : SampleWindow size) : UInt32 :=
  let crc := updateCRC32 0xFFFFFFFF#32 (window.header.toBytes.take 28)
  UInt32.ofBitVec (~~~updateCRC32 crc window.sampleBytes)

def isValid (cfg : MLConfig) (window : SampleWindow cfg.windowSize) : Bool :=
  if window.header.magic ≠ cfg.windowMagic then false
  else if window.header.version ≠ cfg.windowVersion then false
  else if cfg.windowSize < window.header.sampleCount.toNat then false
  else if window.header.crc32 ≠ window.calculateCRC then false
  else true

theorem length_flatMap_toBytes (samples : List SampleRecord) :
    (samples.flatMap SampleRecord.toBytes).length = 4 * samples.length := by
  induction samples with
  | nil => rfl
  | cons sample samples ih =>
      rw [List.flatMap_cons, List.length_append, ih, sample.length_toBytes,
        List.length_cons]
      omega

@[simp] theorem length_sampleBytes (window : SampleWindow size) :
    window.sampleBytes.length = 4 * size := by
  rw [sampleBytes, length_flatMap_toBytes, Vector.length_toList]

@[simp] theorem length_toBytes (window : SampleWindow size) :
    window.toBytes.length = serializedSize size := by
  simp [toBytes, serializedSize]

/-- The checksum of the two ranges is that of the record without its checksum
field. -/
theorem calculateCRC_eq (window : SampleWindow size) :
    window.calculateCRC = UInt32.ofBitVec (calculateCRC32
      (pack window.header.checkedFields ++ window.sampleBytes)) := by
  rw [calculateCRC, calculateCRC32, updateCRC32_append,
    window.header.take_toBytes]

/-- The last store of both callers of `fillWindowHeader`. -/
def withCRC (window : SampleWindow size) : SampleWindow size :=
  { window with
    header := { window.header with crc32 := window.calculateCRC } }

theorem calculateCRC_withCRC (window : SampleWindow size) :
    window.withCRC.calculateCRC = window.calculateCRC := by
  rw [calculateCRC_eq, calculateCRC_eq]
  rfl

/-- A window as the logger makes it. -/
structure Finalised {cfg : MLConfig} (window : SampleWindow cfg.windowSize) :
    Prop where
  magic : window.header.magic = cfg.windowMagic
  version : window.header.version = cfg.windowVersion
  sampleCount : window.header.sampleCount = UInt8.ofNat cfg.windowSize
  reserved1 : window.header.reserved1 = 0
  crc : window.header.crc32 = window.calculateCRC

end SampleWindow

end SensorFirmware
