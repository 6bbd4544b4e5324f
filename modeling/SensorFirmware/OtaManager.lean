import SensorFirmware.Checksum
import SensorFirmware.GuardedRun
import SensorFirmware.ProtocolFrame
import SensorFirmware.UpdateLibrary

/-!
# The update manager of the application

`OTAManager` receives an image chunk by chunk over BLE and hands it to the
`Update` library.  `Config.h` is not in the repository, so its constants are a
parameter.  The trace has what is asked of the library, newest event first.
-/

namespace SensorFirmware

structure OtaConfig where
  firmwareMajor : ℕ
  firmwareMinor : ℕ
  firmwarePatch : ℕ
  firmwareBuildType : ℕ
  minBatteryPercent : ℕ
  chunkTimeoutMs : ℕ

inductive OtaState where
  | idle
  | receiving
  | validating
  | committing
  | rebooting
  | failed
  deriving DecidableEq, Repr

inductive OtaError where
  | none
  | lowBattery
  | noPartition
  | tooLarge
  | beginFailed
  | writeFailed
  | sizeMismatch
  | crcMismatch
  | commitFailed
  | timeout
  | invalidState
  | chunkOutOfOrder
  | selfTestFailed
  | versionRejected
  deriving DecidableEq, Repr

def OtaError.code : OtaError → Byte
  | none => 0x00#8
  | lowBattery => 0x01#8
  | noPartition => 0x02#8
  | tooLarge => 0x03#8
  | beginFailed => 0x04#8
  | writeFailed => 0x05#8
  | sizeMismatch => 0x06#8
  | crcMismatch => 0x07#8
  | commitFailed => 0x08#8
  | timeout => 0x09#8
  | invalidState => 0x0A#8
  | chunkOutOfOrder => 0x0B#8
  | selfTestFailed => 0x0C#8
  | versionRejected => 0x0D#8

/-- `OtaStartPayload`, packed and little-endian. -/
structure OtaStart where
  totalSize : ℕ
  expectedCrc : BitVec 32
  newMajor : ℕ
  newMinor : ℕ
  newPatch : ℕ
  totalChunks : ℕ
  deriving DecidableEq, Repr

def OtaStart.byteSize : ℕ := 14

def bytesAt (payload : List Byte) (offset count : ℕ) : ℕ :=
  leNat ((payload.drop offset).take count)

def OtaStart.ofBytes (payload : List Byte) : OtaStart where
  totalSize := bytesAt payload 0 4
  expectedCrc := BitVec.ofNat 32 (bytesAt payload 4 4)
  newMajor := bytesAt payload 8 1
  newMinor := bytesAt payload 9 1
  newPatch := bytesAt payload 10 1
  totalChunks := bytesAt payload 11 2

structure OtaManager where
  state : OtaState
  lastError : OtaError
  initialized : Bool
  expectedSize : ℕ
  receivedSize : ℕ
  expectedCrc : BitVec 32
  runningCrc : BitVec 32
  expectedChunks : ℕ
  receivedChunks : ℕ
  newMajor : ℕ
  newMinor : ℕ
  newPatch : ℕ
  lastChunkTime : ℕ
  startTime : ℕ
  deriving DecidableEq, Repr

namespace OtaManager

def new : OtaManager where
  state := .idle
  lastError := .none
  initialized := false
  expectedSize := 0
  receivedSize := 0
  expectedCrc := 0
  runningCrc := 0xFFFFFFFF#32
  expectedChunks := 0
  receivedChunks := 0
  newMajor := 0
  newMinor := 0
  newPatch := 0
  lastChunkTime := 0
  startTime := 0

/-- The protocol handler is set together with `_initialized`. -/
def init (manager : OtaManager) : OtaManager :=
  { manager with initialized := true }

/-- The fields that `handleStart` takes over before it checks them. -/
def announce (manager : OtaManager) (start : OtaStart) : OtaManager :=
  { manager with
    expectedSize := start.totalSize
    expectedCrc := start.expectedCrc
    newMajor := start.newMajor
    newMinor := start.newMinor
    newPatch := start.newPatch
    expectedChunks := start.totalChunks }

/-- The library has begun the image. -/
def beginSession (manager : OtaManager) (ms : ℕ) : OtaManager :=
  { manager with
    state := .receiving
    receivedSize := 0
    receivedChunks := 0
    runningCrc := 0xFFFFFFFF#32
    startTime := ms
    lastChunkTime := ms
    lastError := .none }

/-- The library has written the chunk. -/
def accept (manager : OtaManager) (payload : List Byte) (ms : ℕ) :
    OtaManager :=
  { manager with
    runningCrc := updateCRC32 manager.runningCrc payload
    receivedSize := u32 (manager.receivedSize + payload.length)
    receivedChunks := u16 (manager.receivedChunks + 1)
    lastChunkTime := ms }

def fail (manager : OtaManager) (error : OtaError) : OtaManager :=
  { manager with state := .failed, lastError := error }

end OtaManager

/-- A message that the manager asks the protocol handler to send. -/
structure OtaReply where
  type : MessageType
  payload : List Byte
  deriving DecidableEq, Repr

namespace OtaManager

def sendStatus (manager : OtaManager) (status : Byte) (error : OtaError) :
    List OtaReply :=
  if manager.initialized then
    [⟨.otaStatus, [status, error.code] ++ be16Bytes manager.receivedChunks⟩]
  else []

def sendChunkAck (manager : OtaManager) (chunkIndex : ℕ) (success : Bool) :
    List OtaReply :=
  if manager.initialized then
    [⟨.otaDataAck, be16Bytes chunkIndex ++
      [if success then 0x00#8 else 0x01#8]⟩]
  else []

/-- The battery is taken to be full. -/
def checkBatteryLevel (cfg : OtaConfig) : Bool :=
  cfg.minBatteryPercent ≤ 100

def versionWord (major minor patch : ℕ) : ℕ :=
  (major <<< 16) ||| (minor <<< 8) ||| patch

def validateVersion (cfg : OtaConfig) (start : OtaStart) : Bool :=
  cfg.firmwareBuildType == 2 ||
    versionWord cfg.firmwareMajor cfg.firmwareMinor cfg.firmwarePatch ≤
      versionWord start.newMajor start.newMinor start.newPatch

def checkTimeout (cfg : OtaConfig) (manager : OtaManager) (ms : ℕ) : Bool :=
  manager.state == .receiving &&
    cfg.chunkTimeoutMs < sub32 ms manager.lastChunkTime

end OtaManager

/-! ## The manager and the library -/

inductive OtaEvent where
  | begin (totalSize : ℕ) (expectedCrc : BitVec 32) (ok : Bool)
  | accept (chunkIndex : ℕ) (payload : List Byte)
  | finish (flash : List Byte)
  | abort
  deriving DecidableEq, Repr

structure Ota (σ : Type*) where
  manager : OtaManager
  updater : σ
  restarted : Bool
  trace : List OtaEvent

/-- What a handler leaves, returns and sends. -/
structure OtaResult (σ : Type*) where
  ota : Ota σ
  ok : Bool
  replies : List OtaReply

namespace Ota

variable {σ : Type*} (cfg : OtaConfig) (lib : UpdateLibrary σ Byte)

@[simp] def note (ota : Ota σ) (event : OtaEvent) : Ota σ :=
  { ota with trace := event :: ota.trace }

def refuse (ota : Ota σ) (error : OtaError) : OtaResult σ where
  ota := { ota with manager := { ota.manager with lastError := error } }
  ok := false
  replies := ota.manager.sendStatus 0x01#8 error

def updateAbort (ota : Ota σ) : Ota σ :=
  { ota with updater := lib.abort ota.updater }.note .abort

def handleStart (ota : Ota σ) (payload : List Byte)
    (partitionSize : Option ℕ) (ms : ℕ) : OtaResult σ :=
  if ota.manager.state ≠ .idle then ota.refuse .invalidState
  else if payload.length < OtaStart.byteSize then ota.refuse .invalidState
  else
    let start := OtaStart.ofBytes payload
    let ota := { ota with manager := ota.manager.announce start }
    if !OtaManager.checkBatteryLevel cfg then ota.refuse .lowBattery
    else if !OtaManager.validateVersion cfg start then
      ota.refuse .versionRejected
    else
      match partitionSize with
      | none => ota.refuse .noPartition
      | some size =>
          if size < start.totalSize then ota.refuse .tooLarge
          else
            let begun := lib.start ota.updater start.totalSize
            let ota := { ota with updater := begun.1 }.note
              (.begin start.totalSize start.expectedCrc begun.2)
            if !begun.2 then ota.refuse .beginFailed
            else
              { ota := { ota with manager := ota.manager.beginSession ms }
                ok := true
                replies := (ota.manager.beginSession ms).sendStatus 0x00#8 .none }

def handleData (ota : Ota σ) (chunkIndex : ℕ) (payload : List Byte)
    (ms : ℕ) : OtaResult σ :=
  if ota.manager.state ≠ .receiving then
    { ota := ota
      ok := false
      replies := ota.manager.sendChunkAck chunkIndex false }
  else if chunkIndex ≠ ota.manager.receivedChunks then
    { ota := { ota with
        manager := { ota.manager with lastError := .chunkOutOfOrder } }
      ok := false
      replies := ota.manager.sendChunkAck ota.manager.receivedChunks false }
  else
    let written := lib.write ota.updater payload
    let ota := { ota with updater := written.1 }
    if written.2 ≠ payload.length then
      { ota := { ota with
          manager := { ota.manager with lastError := .writeFailed } }
        ok := false
        replies := ota.manager.sendChunkAck chunkIndex false }
    else
      { ota := { ota with manager := ota.manager.accept payload ms }.note
          (.accept chunkIndex payload)
        ok := true
        replies := ota.manager.sendChunkAck chunkIndex true }

def failCommit (ota : Ota σ) (error : OtaError) : OtaResult σ where
  ota := { ota with manager := ota.manager.fail error }
  ok := false
  replies := ota.manager.sendStatus 0x01#8 error

/-- After `Update.end(true)` has succeeded the device restarts. -/
def handleCommit (ota : Ota σ) : OtaResult σ :=
  if ota.manager.state ≠ .receiving then ota.refuse .invalidState
  else
    let manager := { ota.manager with state := .validating }
    let ota := { ota with manager := manager }
    if manager.receivedSize ≠ manager.expectedSize then
      (ota.updateAbort lib).failCommit .sizeMismatch
    else if ~~~manager.runningCrc ≠ manager.expectedCrc then
      (ota.updateAbort lib).failCommit .crcMismatch
    else
      let ota := { ota with
        manager := { manager with state := .committing } }.note
          (.finish (lib.flash ota.updater))
      let finished := lib.finish ota.updater
      let ota := { ota with updater := finished.1 }
      if !finished.2 then ota.failCommit .commitFailed
      else
        { ota := { ota with
            manager := { ota.manager with state := .rebooting }
            restarted := true }
          ok := true
          replies := ota.manager.sendStatus 0x00#8 .none }

def handleAbort (ota : Ota σ) : OtaResult σ :=
  if ota.manager.state = .idle then ⟨ota, true, []⟩
  else
    let ota := ota.updateAbort lib
    let manager := { ota.manager with
      state := .idle
      receivedSize := 0
      receivedChunks := 0
      lastError := .none }
    { ota := { ota with manager := manager }
      ok := true
      replies := manager.sendStatus 0x00#8 .none }

def update (ota : Ota σ) (ms : ℕ) : OtaResult σ :=
  if !ota.manager.initialized then ⟨ota, true, []⟩
  else if ota.manager.checkTimeout cfg ms then
    let result := ota.handleAbort lib
    { result with ota := { result.ota with
      manager := { result.ota.manager with lastError := .timeout } } }
  else ⟨ota, true, []⟩

/-! ## Calls -/

inductive Call where
  | start (payload : List Byte) (partitionSize : Option ℕ) (ms : ℕ)
  | data (chunkIndex : ℕ) (payload : List Byte) (ms : ℕ)
  | commit
  | abort
  | update (ms : ℕ)
  deriving DecidableEq, Repr

def call (ota : Ota σ) : Call → OtaResult σ
  | .start payload partitionSize ms =>
      ota.handleStart cfg lib payload partitionSize ms
  | .data chunkIndex payload ms => ota.handleData lib chunkIndex payload ms
  | .commit => ota.handleCommit lib
  | .abort => ota.handleAbort lib
  | .update ms => ota.update cfg lib ms

/-- After a restart nothing is called any more. -/
def step (ota : Ota σ) (call : Call) : Ota σ :=
  if ota.restarted then ota else (ota.call cfg lib call).ota

/-- A constructed manager that `init` was called for, or not. -/
def fresh (initialized : Bool) (updater : σ) : Ota σ where
  manager := { OtaManager.new with initialized := initialized }
  updater := updater
  restarted := false
  trace := []

end Ota

end SensorFirmware
