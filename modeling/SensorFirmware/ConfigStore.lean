import SensorFirmware.Checksum
import SensorFirmware.SystemClock

/-!
# The configuration store

`ConfigService` keeps one 16-byte record in RAM and its image as a blob in
flash.  Besides the settings the record holds the last known epoch, from which
`init` sets the system clock.
-/

namespace SensorFirmware

structure UserConfig where
  version : ℕ
  sensitivity : ℕ
  ledBrightness : ℕ
  reserved : ℕ
  signature : ℕ
  lastKnownEpoch : ℕ
  crc32 : BitVec 32
  deriving DecidableEq, Repr

namespace UserConfig

/-- `UserConfigDefaults::VERSION`. -/
def currentVersion : ℕ := 3

/-- The bytes before the checksum, `CRC_DATA_SIZE` of them. -/
def crcData (config : UserConfig) : List Byte :=
  leBytes 1 config.version ++ leBytes 1 config.sensitivity ++
    leBytes 1 config.ledBrightness ++ leBytes 1 config.reserved ++
    leBytes 4 config.signature ++ leBytes 4 config.lastKnownEpoch

def toBytes (config : UserConfig) : List Byte :=
  config.crcData ++ leBytes 4 config.crc32.toNat

def ofBytes (bytes : List Byte) : UserConfig where
  version := leNat (bytes.take 1)
  sensitivity := leNat ((bytes.drop 1).take 1)
  ledBrightness := leNat ((bytes.drop 2).take 1)
  reserved := leNat ((bytes.drop 3).take 1)
  signature := leNat ((bytes.drop 4).take 4)
  lastKnownEpoch := leNat ((bytes.drop 8).take 4)
  crc32 := BitVec.ofNat 32 (leNat ((bytes.drop 12).take 4))

/-- `initUserConfigDefaults`; the signature is random. -/
def initDefaults (random : ℕ) : UserConfig where
  version := currentVersion
  sensitivity := 50
  ledBrightness := 128
  reserved := 0
  signature := random
  lastKnownEpoch := 0
  crc32 := 0#32

def calculateConfigCrc (config : UserConfig) : BitVec 32 :=
  calculateCRC32 config.crcData

/-- The migration steps, from version 1 and from version 2. -/
def migrate (config : UserConfig) (random : ℕ) : UserConfig :=
  let config :=
    if config.version = 1 then
      { config with version := 2, reserved := 0, signature := random }
    else config
  if config.version = 2 then
    { config with version := currentVersion, lastKnownEpoch := 0 }
  else config

end UserConfig

/-- How far a write of the blob gets.  After a failed commit the blob may or
may not be in flash. -/
inductive ConfigWrite where
  | lockTimeout
  | openFailed
  | setFailed
  | commitFailed (stored : Bool)
  | written
  deriving DecidableEq, Repr

/-- The blob under the key `data` of the namespace `userconfig`. -/
abbrev ConfigBlob := Option (List Byte)

structure ConfigService where
  config : UserConfig
  initialized : Bool
  dirty : Bool
  commitTimerActive : Bool
  configWorkerRunning : Bool
  deriving DecidableEq

/-- What `init` meets outside the service. -/
structure ConfigBootEnv where
  timerOk : Bool
  taskOk : Bool
  readOk : Bool
  write : ConfigWrite
  random : ℕ

namespace ConfigService

def construct (random : ℕ) : ConfigService where
  config := .initDefaults random
  initialized := false
  dirty := false
  commitTimerActive := false
  configWorkerRunning := false

/-- The record in RAM gets its checksum before the flash is opened. -/
def writeToNvs (service : ConfigService) (blob : ConfigBlob) :
    ConfigWrite → ConfigService × ConfigBlob × Bool
  | .lockTimeout => (service, blob, false)
  | write =>
      let config := { service.config with
        crc32 := service.config.calculateConfigCrc }
      let service := { service with config := config }
      match write with
      | .written => ({ service with dirty := false }, some config.toBytes, true)
      | .commitFailed true => (service, some config.toBytes, false)
      | _ => (service, blob, false)

/-- Returns whether a record was loaded. -/
def readFromNvs (service : ConfigService) (blob : ConfigBlob)
    (env : ConfigBootEnv) : ConfigService × ConfigBlob × Bool :=
  match blob with
  | none => (service, blob, false)
  | some bytes =>
      let temp := UserConfig.ofBytes bytes
      if !env.readOk || bytes.length != 16 then (service, blob, false)
      else if temp.calculateConfigCrc != temp.crc32 then
        (service, blob, false)
      else if temp.version != UserConfig.currentVersion then
        let migrated := temp.migrate env.random
        if migrated.version == UserConfig.currentVersion then
          let loaded := { service with config :=
            { migrated with crc32 := migrated.calculateConfigCrc } }
          let stored := loaded.writeToNvs blob env.write
          (stored.1, stored.2.1, true)
        else (service, blob, false)
      else if 100 < temp.sensitivity then (service, blob, false)
      else ({ service with config := temp }, blob, true)

/-- The clock that a loaded record sets: its epoch plus one second. -/
def forwardChain (config : UserConfig) : Option ClockMicros :=
  if 0 < config.lastKnownEpoch then
    some (ClockMicros.settimeofday (u32 (config.lastKnownEpoch + 1)) 0)
  else none

/-- Besides the service and the blob, the clock that was set, if any, and the
returned flag. -/
def init (service : ConfigService) (blob : ConfigBlob)
    (env : ConfigBootEnv) :
    ConfigService × ConfigBlob × Option ClockMicros × Bool :=
  if service.initialized then (service, blob, none, true)
  else if !env.timerOk then (service, blob, none, false)
  else if !env.taskOk then
    ({ service with configWorkerRunning := false }, blob, none, false)
  else
    let service := { service with configWorkerRunning := true }
    let read := service.readFromNvs blob env
    if read.2.2 then
      ({ read.1 with initialized := true, dirty := false }, read.2.1,
        forwardChain read.1.config, true)
    else
      let fresh := UserConfig.initDefaults env.random
      let reset := { read.1 with config :=
        { fresh with crc32 := fresh.calculateConfigCrc } }
      let stored := reset.writeToNvs read.2.1 env.write
      ({ stored.1 with initialized := true, dirty := false }, stored.2.1,
        none, true)

def updateLastKnownEpoch (service : ConfigService) (locked : Bool)
    (epochSeconds : ℕ) : ConfigService :=
  if epochSeconds ≤ service.config.lastKnownEpoch then service
  else if !locked then service
  else
    { service with
      config := { service.config with lastKnownEpoch := epochSeconds }
      dirty := true
      commitTimerActive := true }

/-- The worker writes only when there is something to write. -/
def saveIfDirty (service : ConfigService) (blob : ConfigBlob)
    (write : ConfigWrite) : ConfigService × ConfigBlob :=
  if service.dirty then
    ((service.writeToNvs blob write).1, (service.writeToNvs blob write).2.1)
  else (service, blob)

def forceFlush (service : ConfigService) (blob : ConfigBlob)
    (write : ConfigWrite) : ConfigService × ConfigBlob × Bool :=
  let service := { service with commitTimerActive := false }
  if service.dirty then service.writeToNvs blob write
  else (service, blob, true)

/-! ## Settings -/

def validateSensitivity (sensitivity : ℕ) : ℕ :=
  if 100 < sensitivity then 100 else sensitivity

/-- The second result is what `applySensitivityToHal` hands to the sensor. -/
def setSensitivity (service : ConfigService) (locked : Bool)
    (sensitivity : ℕ) : ConfigService × Option ℕ :=
  let sensitivity := validateSensitivity sensitivity
  if !locked then (service, none)
  else if service.config.sensitivity = sensitivity then (service, none)
  else
    ({ service with
      config := { service.config with sensitivity := sensitivity }
      dirty := true
      commitTimerActive := true }, some sensitivity)

def setLedBrightness (service : ConfigService) (locked : Bool)
    (brightness : ℕ) : ConfigService :=
  if !locked then service
  else if service.config.ledBrightness = brightness then service
  else
    { service with
      config := { service.config with ledBrightness := brightness }
      dirty := true
      commitTimerActive := true }

/-- The dirty flag is left to the write. -/
def factoryReset (service : ConfigService) (blob : ConfigBlob)
    (locked : Bool) (random : ℕ) (write : ConfigWrite) :
    ConfigService × ConfigBlob × Bool :=
  if !locked then (service, blob, false)
  else
    let fresh := UserConfig.initDefaults random
    let service := { service with
      commitTimerActive := false
      config := { fresh with crc32 := fresh.calculateConfigCrc } }
    service.writeToNvs blob write

end ConfigService

end SensorFirmware
