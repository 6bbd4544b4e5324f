import SensorFirmware.RecordCodec
import SensorFirmware.SampleWindow

/-!
# Personal calibration

`PersonalizationService` averages captured feature windows into one prototype
a class and keeps them in one record of the flash.  A float is its 32 bits, and
the arithmetic on floats and doubles is a parameter, as are the constants of
`PersonalizationConfig`.
-/

namespace SensorFirmware

abbrev FloatBits := UInt32

structure PersonalizationConfig where
  calibrationVersion : UInt8
  numClasses : UInt8
  numFeatures : UInt8
  minCalibrationWindows : UInt16
  maxCalibrationWindows : UInt16
  deriving DecidableEq, Repr

abbrev PersonalizationConfig.classes (cfg : PersonalizationConfig) : ℕ :=
  cfg.numClasses.toNat

abbrev PersonalizationConfig.features (cfg : PersonalizationConfig) : ℕ :=
  cfg.numFeatures.toNat

abbrev FeatureVector (cfg : PersonalizationConfig) :=
  Vector FloatBits cfg.features

/-- The double arithmetic of the sums. -/
structure FloatArithmetic (Sum : Type) where
  zero : Sum
  add : Sum → FloatBits → Sum
  divide : Sum → ℕ → FloatBits

/-- The packed record without its checksum. -/
structure CalibrationFields (cfg : PersonalizationConfig) where
  version : UInt8
  numCalibratedClasses : UInt8
  reserved : Vector UInt8 2
  baselineMean : FloatBits
  baselineSigma : FloatBits
  dynamicRange : FloatBits
  prototypes : Vector (FeatureVector cfg) cfg.classes
  biasOffsets : Vector FloatBits cfg.classes
  sampleCounts : Vector UInt8 cfg.classes
  reserved2 : Vector UInt8 3
  deriving DecidableEq, Repr

structure MLCalibrationData (cfg : PersonalizationConfig) where
  fields : CalibrationFields cfg
  crc32 : UInt32
  deriving DecidableEq, Repr

/-! ## The bytes of the record -/

namespace CalibrationFields

variable {cfg : PersonalizationConfig}

/-- The fields in the order in which they are packed. -/
def layout (cfg : PersonalizationConfig) :
    CalibrationFields cfg ≃
      UInt8 × UInt8 × Vector UInt8 2 × FloatBits × FloatBits × FloatBits ×
        Vector (FeatureVector cfg) cfg.classes ×
        Vector FloatBits cfg.classes × Vector UInt8 cfg.classes ×
        Vector UInt8 3 where
  toFun d := (d.version, d.numCalibratedClasses, d.reserved, d.baselineMean,
    d.baselineSigma, d.dynamicRange, d.prototypes, d.biasOffsets,
    d.sampleCounts, d.reserved2)
  invFun := fun (version, calibrated, reserved, mean, sigma, range, prototypes,
      offsets, counts, reserved2) =>
    ⟨version, calibrated, reserved, mean, sigma, range, prototypes, offsets,
      counts, reserved2⟩
  left_inv _ := rfl
  right_inv _ := rfl

open RecordCodec in
def codec (cfg : PersonalizationConfig) : RecordCodec (CalibrationFields cfg) :=
  (uint8.pair <| uint8.pair <| (uint8.vector 2).pair <| uint32.pair <|
    uint32.pair <| uint32.pair <|
    ((uint32.vector cfg.features).vector cfg.classes).pair <|
    (uint32.vector cfg.classes).pair <| (uint8.vector cfg.classes).pair <|
    uint8.vector 3).ofEquiv (layout cfg)

/-- `memset` to zero, and the version. -/
def defaults (cfg : PersonalizationConfig) : CalibrationFields cfg where
  version := cfg.calibrationVersion
  numCalibratedClasses := 0
  reserved := Vector.replicate _ 0
  baselineMean := 0
  baselineSigma := 0
  dynamicRange := 0
  prototypes := Vector.replicate _ (Vector.replicate _ 0)
  biasOffsets := Vector.replicate _ 0
  sampleCounts := Vector.replicate _ 0
  reserved2 := Vector.replicate _ 0

end CalibrationFields

namespace MLCalibrationData

variable {cfg : PersonalizationConfig}

def codec (cfg : PersonalizationConfig) : RecordCodec (MLCalibrationData cfg) :=
  ((CalibrationFields.codec cfg).pair RecordCodec.uint32).ofEquiv
    ⟨fun d => (d.fields, d.crc32), fun (fields, crc32) => ⟨fields, crc32⟩,
      fun _ => rfl, fun _ => rfl⟩

def defaults (cfg : PersonalizationConfig) : MLCalibrationData cfg :=
  ⟨.defaults cfg, 0⟩

/-- The checksum of all bytes before the last four. -/
def calculateCrc (d : MLCalibrationData cfg) : UInt32 :=
  UInt32.ofBitVec (calculateCRC32
    (((codec cfg).encode d).take ((codec cfg).size - 4)))

end MLCalibrationData

/-! ## The service -/

structure CaptureAccum (cfg : PersonalizationConfig) (Sum : Type) where
  featureSum : Vector Sum cfg.features
  count : UInt16
  label : GestureLabel
  deriving DecidableEq

/-- `timerActive` and `saveNotified` are the timer and the notification that
lead to a save, and `workerAlive` is the task behind the handle. -/
structure PersonalizationService (cfg : PersonalizationConfig) (Sum : Type)
    where
  data : MLCalibrationData cfg
  snapshot : MLCalibrationData cfg
  initialized : Bool
  dirty : Bool
  calibrating : Bool
  captureAccum : CaptureAccum cfg Sum
  workerRunning : Bool
  workerTask : Bool
  workerAlive : Bool
  timerActive : Bool
  saveNotified : Bool
  deriving DecidableEq

/-- The blob under the key of the service. -/
abbrev CalibrationBlob := Option (List Byte)

/-- How `prefs.begin` and `prefs.putBytes` end. -/
inductive NvsPut where
  | openFailed
  | failed (stored : Bool)
  | written
  deriving DecidableEq, Repr

/-- What `init` meets outside the service. -/
structure CalibrationBoot where
  mutexOk : Bool
  timerOk : Bool
  readOk : Bool
  taskOk : Bool
  deriving DecidableEq, Repr

section Service

variable {cfg : PersonalizationConfig} {Sum : Type}

def CaptureAccum.empty (ops : FloatArithmetic Sum) : CaptureAccum cfg Sum where
  featureSum := Vector.replicate _ ops.zero
  count := 0
  label := .invalid

namespace PersonalizationService

def construct (ops : FloatArithmetic Sum) : PersonalizationService cfg Sum where
  data := .defaults cfg
  snapshot := .defaults cfg
  initialized := false
  dirty := false
  calibrating := false
  captureAccum := .empty ops
  workerRunning := false
  workerTask := false
  workerAlive := false
  timerActive := false
  saveNotified := false

def publishSnapshot (service : PersonalizationService cfg Sum) :
    PersonalizationService cfg Sum :=
  { service with snapshot := service.data }

/-! ### The flash -/

def readFromNvs (cfg : PersonalizationConfig) (blob : CalibrationBlob)
    (readOk : Bool) : Option (MLCalibrationData cfg) :=
  match blob with
  | none => none
  | some bytes =>
      let temp := (MLCalibrationData.codec cfg).decode bytes
      if !readOk then none
      else if bytes.length ≠ (MLCalibrationData.codec cfg).size then none
      else if temp.fields.version ≠ cfg.calibrationVersion then none
      else if temp.crc32 ≠ temp.calculateCrc then none
      else some temp

/-- The record in RAM gets its checksum before the flash is opened. -/
def writeToNvs (service : PersonalizationService cfg Sum)
    (blob : CalibrationBlob) (put : NvsPut) :
    PersonalizationService cfg Sum × CalibrationBlob × Bool :=
  let data := { service.data with crc32 := service.data.calculateCrc }
  let service := { service with data := data }
  let bytes := (MLCalibrationData.codec cfg).encode data
  match put with
  | .openFailed => (service, blob, false)
  | .failed stored => (service, if stored then some bytes else blob, false)
  | .written => ({ service with dirty := false }, some bytes, true)

def init (service : PersonalizationService cfg Sum) (blob : CalibrationBlob)
    (env : CalibrationBoot) : PersonalizationService cfg Sum × Bool :=
  if service.initialized then (service, true)
  else if !env.mutexOk then (service, false)
  else if !env.timerOk then (service, false)
  else
    let loaded :=
      match readFromNvs cfg blob env.readOk with
      | some data => { service with data := data }.publishSnapshot
      | none => service
    if !env.taskOk then ({ loaded with workerRunning := false }, false)
    else
      ({ loaded with
          workerRunning := true
          workerTask := true
          workerAlive := true
          initialized := true }, true)

def forceFlush (service : PersonalizationService cfg Sum)
    (blob : CalibrationBlob) (locked : Bool) (put : NvsPut) :
    PersonalizationService cfg Sum × CalibrationBlob × Bool :=
  if !service.initialized || !service.dirty then (service, blob, true)
  else
    let service := { service with timerActive := false }
    if locked then service.writeToNvs blob put else (service, blob, false)

/-- The worker is told to stop, and its handle forgotten. -/
def shutdown (service : PersonalizationService cfg Sum)
    (blob : CalibrationBlob) (locked : Bool) (put : NvsPut) :
    PersonalizationService cfg Sum × CalibrationBlob :=
  if !service.initialized then (service, blob)
  else
    let flushed :=
      if service.dirty then service.forceFlush blob locked put
      else (service, blob, true)
    ({ flushed.1 with
        workerRunning := false
        workerTask := false
        initialized := false }, flushed.2.1)

/-! ### Capture and commit -/

def startCalibration (ops : FloatArithmetic Sum)
    (service : PersonalizationService cfg Sum) :
    PersonalizationService cfg Sum × Bool :=
  if !service.initialized then (service, false)
  else
    ({ service with captureAccum := .empty ops, calibrating := true }, true)

/-- The features are a pointer, which may be null. -/
def captureWindow (ops : FloatArithmetic Sum)
    (service : PersonalizationService cfg Sum)
    (features : Option (FeatureVector cfg)) (label : GestureLabel) :
    PersonalizationService cfg Sum × Bool :=
  match features with
  | none => (service, false)
  | some features =>
      if !service.calibrating then (service, false)
      else if label = .invalid ∨ label = .unlabeled then (service, false)
      else if cfg.numClasses ≤ label.toByte then (service, false)
      else
        let accum :=
          if service.captureAccum.label ≠ label then
            ⟨Vector.replicate _ ops.zero, 0, label⟩
          else service.captureAccum
        if cfg.maxCalibrationWindows ≤ accum.count then
          ({ service with captureAccum := accum }, false)
        else
          ({ service with captureAccum :=
              { accum with
                featureSum := accum.featureSum.zipWith ops.add features
                count := accum.count + 1 } }, true)

/-- The loop over `sampleCounts`. -/
def calibratedCount (counts : Vector UInt8 cfg.classes) : UInt8 :=
  UInt8.ofNat (counts.toList.countP fun count => 0 < count)

/-- The class gets the mean of the sums as its prototype. -/
def storePrototype (ops : FloatArithmetic Sum) (accum : CaptureAccum cfg Sum)
    (fields : CalibrationFields cfg) : CalibrationFields cfg :=
  let classIdx := accum.label.toByte.toNat
  let counts := fields.sampleCounts.setIfInBounds classIdx
    (if 255 < accum.count then 255 else accum.count.toUInt8)
  { fields with
    prototypes := fields.prototypes.setIfInBounds classIdx
      (accum.featureSum.map fun sum => ops.divide sum accum.count.toNat)
    sampleCounts := counts
    numCalibratedClasses := calibratedCount counts }

/-- `queued` says whether the timer service took the reset. -/
def commitCalibration (ops : FloatArithmetic Sum)
    (service : PersonalizationService cfg Sum) (locked queued : Bool) :
    PersonalizationService cfg Sum × Bool :=
  if !service.initialized || !service.calibrating then (service, false)
  else if service.captureAccum.count < cfg.minCalibrationWindows then
    (service, false)
  else if cfg.numClasses ≤ service.captureAccum.label.toByte then
    (service, false)
  else if !locked then (service, false)
  else
    ({ { service with
          data := { service.data with
            fields := storePrototype ops service.captureAccum
              service.data.fields }
          dirty := true }.publishSnapshot with
        timerActive := service.timerActive || queued
        captureAccum := .empty ops }, true)

/-- What the flush returns is not looked at. -/
def resetCalibration (service : PersonalizationService cfg Sum)
    (blob : CalibrationBlob) (locked flushLocked : Bool) (put : NvsPut) :
    PersonalizationService cfg Sum × CalibrationBlob × Bool :=
  if !service.initialized then (service, blob, false)
  else if !locked then (service, blob, false)
  else
    let reset := { service with
      data := .defaults cfg
      dirty := true
      calibrating := false }.publishSnapshot
    let flushed := reset.forceFlush blob flushLocked put
    (flushed.1, flushed.2.1, true)

def updateSensorBaseline (service : PersonalizationService cfg Sum)
    (locked queued : Bool) (mean sigma dynamicRange : FloatBits) :
    PersonalizationService cfg Sum :=
  if !service.initialized then service
  else if !locked then service
  else
    { { service with
        data := { service.data with fields := { service.data.fields with
          baselineMean := mean
          baselineSigma := sigma
          dynamicRange := dynamicRange } }
        dirty := true }.publishSnapshot with
      timerActive := service.timerActive || queued }

/-! ### The timer and the worker -/

def commitTimerCallback (service : PersonalizationService cfg Sum) :
    PersonalizationService cfg Sum :=
  if service.timerActive then
    { service with
      timerActive := false
      saveNotified := service.saveNotified || service.workerTask }
  else service

/-- The worker takes a notification: it writes whether or not anything has
changed. -/
def workerSave (service : PersonalizationService cfg Sum)
    (blob : CalibrationBlob) (locked : Bool) (put : NvsPut) :
    PersonalizationService cfg Sum × CalibrationBlob :=
  if service.workerAlive && service.saveNotified then
    let taken := { service with saveNotified := false }
    if locked then
      ((taken.writeToNvs blob put).1, (taken.writeToNvs blob put).2.1)
    else (taken, blob)
  else (service, blob)

def workerExit (service : PersonalizationService cfg Sum) :
    PersonalizationService cfg Sum :=
  if service.workerRunning then service
  else { service with workerAlive := false, saveNotified := false }

/-! ### What the others read -/

def isCalibrated (service : PersonalizationService cfg Sum) : Bool :=
  decide (0 < service.snapshot.fields.numCalibratedClasses)

def getPrototype (service : PersonalizationService cfg Sum)
    (classIdx : UInt8) : Option (FeatureVector cfg) :=
  if cfg.numClasses ≤ classIdx then none
  else if service.snapshot.fields.sampleCounts.toList.getD classIdx.toNat 0 = 0
  then none
  else service.snapshot.fields.prototypes.toList[classIdx.toNat]?

def getBaselineParams (service : PersonalizationService cfg Sum) :
    FloatBits × FloatBits × FloatBits :=
  (service.snapshot.fields.baselineMean, service.snapshot.fields.baselineSigma,
    service.snapshot.fields.dynamicRange)

end PersonalizationService

end Service

end SensorFirmware
