import SensorFirmware.CyclicBuffer
import SensorFirmware.DetectionEvent
import SensorFirmware.SystemClock

/-!
# State of the history service

The RTC-retained ring of detection events, the RAM fields of `HistoryService`
and the storage queue.  `Config.h` is not in the repository, so its constants
are a parameter; the indices are 16-bit words and `getCapacity` returns the
buffer size in one, which bounds that constant.
-/

namespace SensorFirmware

structure HistoryConfig where
  bufferSize : ℕ
  rtcMagicNumber : ℕ
  nvsFlushThreshold : ℕ
  storageQueueDepth : ℕ
  two_le_bufferSize : 2 ≤ bufferSize
  bufferSize_lt : bufferSize < 2 ^ 16

theorem HistoryConfig.bufferSize_pos (cfg : HistoryConfig) :
    0 < cfg.bufferSize :=
  lt_of_lt_of_le Nat.zero_lt_two cfg.two_le_bufferSize

/-- A small ring for concrete runs. -/
def HistoryConfig.fourSlots : HistoryConfig where
  bufferSize := 4
  rtcMagicNumber := 0xA5A5A5A5
  nvsFlushThreshold := 3
  storageQueueDepth := 4
  two_le_bufferSize := by decide
  bufferSize_lt := by decide

/-- The firmware's own threshold for a believable wall clock. -/
def minValidEpoch : ℕ := 1577836800

inductive StorageCmd where
  | saveHit
  | forceFlush
  | restore
  | clearNvs
  deriving DecidableEq, Repr

structure StorageMessage where
  cmd : StorageCmd
  eventId : ℕ
  deriving DecidableEq, Repr

/-- `RTCState`: survives deep sleep, lost on power loss. -/
structure RTCState (cfg : HistoryConfig) where
  magicNumber : ℕ
  crc32 : BitVec 32
  bootCount : ℕ
  head : ℕ
  tail : ℕ
  globalEventId : ℕ
  buffer : Vector DetectionEvent cfg.bufferSize
  deriving DecidableEq

structure HistoryService (cfg : HistoryConfig) where
  state : RTCState cfg
  storageQueue : List StorageMessage
  initialized : Bool
  storageWorkerRunning : Bool
  lastNvsFlushId : ℕ
  eventsSinceFlush : ℕ
  timeSyncReceivedThisBoot : Bool
  flushPending : Bool
  bleConnected : Bool
  connectionStartTime : ℕ
  deriving DecidableEq

variable {cfg : HistoryConfig}

namespace RTCState

def calculateBufferCRC (state : RTCState cfg) : BitVec 32 :=
  calculateCRC32 (state.buffer.toList.flatMap DetectionEvent.toBytes)

def updateCRC (state : RTCState cfg) : RTCState cfg :=
  { state with crc32 := state.calculateBufferCRC }

def validateState (state : RTCState cfg) : Bool :=
  state.magicNumber == cfg.rtcMagicNumber &&
    state.calculateBufferCRC == state.crc32

def resetState (cfg : HistoryConfig) : RTCState cfg :=
  updateCRC {
    magicNumber := cfg.rtcMagicNumber
    crc32 := 0#32
    bootCount := 0
    head := 0
    tail := 0
    globalEventId := 0
    buffer := Vector.replicate cfg.bufferSize DetectionEvent.zero }

/-- The result is a 16-bit word, also for indices that are out of range. -/
def getEventCount (state : RTCState cfg) : ℕ :=
  if state.tail ≤ state.head then u16 (state.head - state.tail)
  else u16 (cfg.bufferSize + (2 ^ 16 - u16 state.tail) + state.head)

def ringWindow (state : RTCState cfg) : List DetectionEvent :=
  CyclicBuffer.window state.buffer state.tail state.head

/-- Indices in range, and no live identifier above the counter. -/
structure Safe (state : RTCState cfg) : Prop where
  head_lt : state.head < cfg.bufferSize
  tail_lt : state.tail < cfg.bufferSize
  id_le : ∀ event ∈ state.ringWindow, event.id ≤ state.globalEventId

@[simp] theorem head_updateCRC (state : RTCState cfg) :
    state.updateCRC.head = state.head := rfl

@[simp] theorem tail_updateCRC (state : RTCState cfg) :
    state.updateCRC.tail = state.tail := rfl

@[simp] theorem globalEventId_updateCRC (state : RTCState cfg) :
    state.updateCRC.globalEventId = state.globalEventId := rfl

@[simp] theorem bootCount_updateCRC (state : RTCState cfg) :
    state.updateCRC.bootCount = state.bootCount := rfl

@[simp] theorem buffer_updateCRC (state : RTCState cfg) :
    state.updateCRC.buffer = state.buffer := rfl

@[simp] theorem magicNumber_updateCRC (state : RTCState cfg) :
    state.updateCRC.magicNumber = state.magicNumber := rfl

@[simp] theorem ringWindow_updateCRC (state : RTCState cfg) :
    state.updateCRC.ringWindow = state.ringWindow := rfl

theorem validateState_updateCRC {state : RTCState cfg}
    (hmagic : state.magicNumber = cfg.rtcMagicNumber) :
    state.updateCRC.validateState = true := by
  simp [validateState, hmagic, updateCRC, calculateBufferCRC]

theorem safe_updateCRC_iff (state : RTCState cfg) :
    state.updateCRC.Safe ↔ state.Safe := by
  constructor
  · intro hsafe
    exact ⟨hsafe.head_lt, hsafe.tail_lt, hsafe.id_le⟩
  · intro hsafe
    exact ⟨hsafe.head_lt, hsafe.tail_lt, hsafe.id_le⟩

/-- In range, the 16-bit count is the number of live slots. -/
theorem getEventCount_eq {state : RTCState cfg}
    (hhead : state.head < cfg.bufferSize)
    (htail : state.tail < cfg.bufferSize) :
    state.getEventCount = state.ringWindow.length := by
  have hsize := cfg.bufferSize_lt
  have hlen : state.ringWindow.length =
      CyclicBuffer.used cfg.bufferSize state.tail state.head :=
    CyclicBuffer.length_window state.buffer htail
  rw [hlen]
  unfold getEventCount CyclicBuffer.used u16
  split <;> omega

theorem ringWindow_resetState : (resetState cfg).ringWindow = [] := by
  simp [ringWindow, resetState, updateCRC, CyclicBuffer.window]

theorem safe_resetState : (resetState cfg).Safe := by
  constructor
  · simp only [resetState, head_updateCRC]
    exact cfg.bufferSize_pos
  · simp only [resetState, tail_updateCRC]
    exact cfg.bufferSize_pos
  · simp [ringWindow_resetState]

end RTCState

namespace HistoryService

def construct (state : RTCState cfg) : HistoryService cfg where
  state := state
  storageQueue := []
  initialized := false
  storageWorkerRunning := false
  lastNvsFlushId := 0
  eventsSinceFlush := 0
  timeSyncReceivedThisBoot := false
  flushPending := false
  bleConnected := false
  connectionStartTime := 0

def needsNvsFlush (service : HistoryService cfg) : Bool :=
  cfg.nvsFlushThreshold ≤ service.eventsSinceFlush

/-- Returns whether the bounded queue took the message. -/
def queueStorageCommand (service : HistoryService cfg) (cmd : StorageCmd)
    (eventId : ℕ) : HistoryService cfg × Bool :=
  if service.storageQueue.length < cfg.storageQueueDepth then
    ({ service with
        storageQueue := service.storageQueue ++ [⟨cmd, eventId⟩] }, true)
  else (service, false)

/-- `_flushPending = true`, taken back when the queue is full. -/
def queueFlush (service : HistoryService cfg) (eventId : ℕ) :
    HistoryService cfg :=
  let queued := { service with flushPending := true }.queueStorageCommand
    .saveHit eventId
  { queued.1 with flushPending := queued.2 }

@[simp] theorem state_queueStorageCommand (service : HistoryService cfg)
    (cmd : StorageCmd) (eventId : ℕ) :
    (service.queueStorageCommand cmd eventId).1.state = service.state := by
  unfold queueStorageCommand
  split <;> rfl

@[simp] theorem initialized_queueStorageCommand
    (service : HistoryService cfg) (cmd : StorageCmd) (eventId : ℕ) :
    (service.queueStorageCommand cmd eventId).1.initialized =
      service.initialized := by
  unfold queueStorageCommand
  split <;> rfl

@[simp] theorem timeSync_queueStorageCommand
    (service : HistoryService cfg) (cmd : StorageCmd) (eventId : ℕ) :
    (service.queueStorageCommand cmd eventId).1.timeSyncReceivedThisBoot =
      service.timeSyncReceivedThisBoot := by
  unfold queueStorageCommand
  split <;> rfl

@[simp] theorem state_queueFlush (service : HistoryService cfg)
    (eventId : ℕ) :
    (service.queueFlush eventId).state = service.state := by
  simp [queueFlush]

@[simp] theorem initialized_queueFlush (service : HistoryService cfg)
    (eventId : ℕ) :
    (service.queueFlush eventId).initialized = service.initialized := by
  simp [queueFlush]

end HistoryService

end SensorFirmware
