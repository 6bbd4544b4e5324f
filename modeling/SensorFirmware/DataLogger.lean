import Mathlib.Data.Vector.Basic
import SensorFirmware.GuardedRun
import SensorFirmware.SampleWindow
import SensorFirmware.TextNumbers

/-!
# The data logger

`DataLoggerService`: the sensor task fills a buffer that slides over the
samples, and queues a finalised window each time the buffer is full; the logger
task takes the windows from the queue and appends each to its session's file.
The manifest of sessions, which nothing reads, is left out.
-/

namespace SensorFirmware

open GuardedRun

inductive LoggerState where
  | idle
  | armed
  | recording
  | error
  deriving DecidableEq, Repr

/-- The files, in directory order. -/
abbrev Spiffs := List (String × List Byte)

namespace Spiffs

/-- What reading the file gives; a file that does not exist has no bytes. -/
def contents (files : Spiffs) (path : String) : List Byte :=
  (files.lookup path).getD []

/-- `FILE_APPEND`, which creates the file if there is none. -/
def append : Spiffs → String → List Byte → Spiffs
  | [], path, bytes => [(path, bytes)]
  | (name, old) :: files, path, bytes =>
      if path = name then (name, old ++ bytes) :: files
      else (name, old) :: append files path bytes

@[simp] theorem contents_nil (path : String) :
    contents [] path = [] := rfl

theorem contents_cons (file : String × List Byte) (files : Spiffs)
    (path : String) :
    contents (file :: files) path =
      if path = file.1 then file.2 else contents files path := by
  by_cases hpath : path = file.1
  · rw [if_pos hpath, contents, List.lookup_cons, hpath, beq_self_eq_true]
    rfl
  · have hbeq : (path == file.1) = false := beq_eq_false_iff_ne.mpr hpath
    rw [if_neg hpath, contents, List.lookup_cons, hbeq]
    rfl

/-- Removing the files that `removed` names. -/
def remove (files : Spiffs) (removed : String → Bool) : Spiffs :=
  files.filter fun file => !removed file.1

theorem contents_append (files : Spiffs) (path other : String)
    (bytes : List Byte) :
    (append files path bytes).contents other =
      files.contents other ++ if path = other then bytes else [] := by
  induction files with
  | nil =>
      rw [append, contents_cons]
      by_cases hother : path = other <;> simp [hother, eq_comm]
  | cons file files ih =>
      obtain ⟨name, old⟩ := file
      by_cases hname : path = name
      · subst hname
        by_cases hother : path = other <;>
          simp [append, contents_cons, hother, eq_comm]
      · by_cases hfile : other = name
        · subst hfile
          simp [append, contents_cons, hname]
        · simp [append, contents_cons, hname, hfile, ih]

theorem contents_remove (files : Spiffs) (removed : String → Bool)
    (path : String) :
    (files.remove removed).contents path =
      if removed path then [] else files.contents path := by
  induction files with
  | nil => exact (ite_self []).symm
  | cons file files ih =>
      obtain ⟨name, bytes⟩ := file
      unfold remove at ih ⊢
      by_cases hname : removed name
      · by_cases hpath : path = name
        · subst hpath
          simp [hname, ih]
        · simp [contents_cons, hname, hpath, ih]
      · by_cases hpath : path = name
        · subst hpath
          simp [contents_cons, hname]
        · simp [contents_cons, hname, hpath, ih]

/-- The file is in the directory. -/
theorem mem_of_contents_ne {files : Spiffs} {path : String}
    (hcontents : files.contents path ≠ []) :
    ∃ file ∈ files, file.1 = path := by
  induction files with
  | nil => exact absurd rfl hcontents
  | cons file files ih =>
      rw [contents_cons] at hcontents
      by_cases hpath : path = file.1
      · exact ⟨file, .head files, hpath.symm⟩
      · rw [if_neg hpath] at hcontents
        obtain ⟨other, hother, hname⟩ := ih hcontents
        exact ⟨other, .tail file hother, hname⟩

end Spiffs

structure SensorThresholds where
  wake : UInt16
  detection : UInt16
  criticalDetection : UInt16
  deriving DecidableEq, Repr

/-- What `fillWindowHeader` reads outside the service: the uptime, the clock, and
the two singletons if they exist. -/
structure HeaderEnv where
  currentUptime : UInt32
  tvSec : ℕ
  sensor : Option SensorThresholds
  sensitivity : Option UInt8
  deriving DecidableEq, Repr

/-- What one call of `appendSample` reads outside the service. -/
structure SampleEnv where
  startUptime : UInt32
  inferenceLock : Bool
  inference : HeaderEnv
  record : HeaderEnv
  deriving DecidableEq, Repr

/-- How writing one window ends.  An open file takes the bytes that there is
room for. -/
inductive WriteOutcome where
  | openFailed
  | opened (room : ℕ)
  deriving DecidableEq, Repr

structure DataLoggerService (cfg : MLConfig) where
  state : LoggerState
  currentSessionId : UInt16
  currentWindowId : UInt16
  windowsWritten : UInt16
  currentLabel : GestureLabel
  dropCount : UInt32
  totalWindowsWritten : UInt32
  sampleBuf : Vector SampleRecord cfg.windowSize
  sampleIndex : ℕ
  windowStartUptime : UInt32
  cachedBootCount : UInt8
  cachedFlags : UInt8
  inferenceWindow : SampleWindow cfg.windowSize
  loggerQueue : List (SampleWindow cfg.windowSize)
  spiffsMounted : Bool
  nextSessionId : UInt16
  spiffs : Spiffs
  deriving DecidableEq, Repr

def WindowHeader.zero : WindowHeader where
  magic := 0
  version := 0
  sampleCount := 0
  sessionId := 0
  windowId := 0
  label := 0
  reserved0 := 0
  startUptimeMs := 0
  startEpoch := 0
  wakeThreshold := 0
  detectionThreshold := 0
  criticalDetectionThreshold := 0
  sensitivity := 0
  flags := 0
  bootCount := 0
  reserved1 := 0
  crc32 := 0

/-- `"/ml_s%04u.bin"`. -/
def buildSessionPath (sessionId : UInt16) : String :=
  "/ml_s" ++ String.ofList
    ((Nat.toDigits 10 sessionId.toNat).leftpad 4 '0') ++ ".bin"

/-- The number that a file name says, where it is one of a session. -/
def fileSessionId (name : String) : Option UInt16 :=
  if "/ml_s".toList.isPrefixOf name.toList then
    some (UInt16.ofNat (toUnsigned (strtol (name.toList.drop 5))))
  else none

def higherId (maxId : UInt16) (name : String) : UInt16 :=
  match fileSessionId name with
  | none => maxId
  | some id => if maxId < id then id else maxId

def maxSessionId (files : Spiffs) : UInt16 :=
  files.foldl (fun maxId file => higherId maxId file.1) 0

def rebuildNextSessionId (mounted rootOpens : Bool) (files : Spiffs) : UInt16 :=
  if !mounted then 1
  else if !rootOpens then 1
  else maxSessionId files + 1

namespace DataLoggerService

variable {cfg : MLConfig}

/-- The service after its constructor and a boot that mounted the file system or
did not. -/
def boot (cfg : MLConfig) (mounted : Bool) (nextSessionId : UInt16)
    (bootCount : UInt8) (files : Spiffs) : DataLoggerService cfg where
  state := .idle
  currentSessionId := 0
  currentWindowId := 0
  windowsWritten := 0
  currentLabel := .unlabeled
  dropCount := 0
  totalWindowsWritten := 0
  sampleBuf := Vector.replicate _ ⟨0, 0⟩
  sampleIndex := 0
  windowStartUptime := 0
  cachedBootCount := bootCount
  cachedFlags := 0
  inferenceWindow := ⟨.zero, Vector.replicate _ ⟨0, 0⟩⟩
  loggerQueue := []
  spiffsMounted := mounted
  nextSessionId := nextSessionId
  spiffs := files

def startEpoch (logger : DataLoggerService cfg) (env : HeaderEnv) : UInt32 :=
  if 1577836800 < env.tvSec ∧
      logger.windowStartUptime ≤ env.currentUptime then
    UInt32.ofNat env.tvSec -
      (env.currentUptime - logger.windowStartUptime) / 1000
  else 0

def fillWindowHeader (logger : DataLoggerService cfg) (env : HeaderEnv)
    (header : WindowHeader) : WindowHeader :=
  { header with
    magic := cfg.windowMagic
    version := cfg.windowVersion
    sampleCount := UInt8.ofNat cfg.windowSize
    sessionId := logger.currentSessionId
    windowId := logger.currentWindowId
    startUptimeMs := logger.windowStartUptime
    startEpoch := logger.startEpoch env
    wakeThreshold := (env.sensor.map (·.wake)).getD 0
    detectionThreshold := (env.sensor.map (·.detection)).getD 0
    criticalDetectionThreshold :=
      (env.sensor.map (·.criticalDetection)).getD 0
    sensitivity := env.sensitivity.getD 50
    bootCount := logger.cachedBootCount
    reserved0 := 0
    reserved1 := 0
    flags := logger.cachedFlags
    crc32 := 0 }

/-! ## The sensor task -/

def storeSample (logger : DataLoggerService cfg) (sample : SampleRecord)
    (env : SampleEnv) : DataLoggerService cfg :=
  { logger with
    windowStartUptime :=
      if logger.sampleIndex = 0 then env.startUptime
      else logger.windowStartUptime
    sampleBuf := logger.sampleBuf.setIfInBounds logger.sampleIndex sample
    sampleIndex := u8 (logger.sampleIndex + 1) }

def publishWindow (logger : DataLoggerService cfg) (env : SampleEnv) :
    DataLoggerService cfg :=
  if env.inferenceLock then
    let header :=
      { logger.fillWindowHeader env.inference logger.inferenceWindow.header with
        label := GestureLabel.unlabeled.toByte }
    { logger with
      inferenceWindow := SampleWindow.withCRC ⟨header, logger.sampleBuf⟩ }
  else logger

/-- The window that a recording session queues.  The local variable starts
uninitialised; every field of it is set. -/
def writeWindow (logger : DataLoggerService cfg) (env : HeaderEnv) :
    SampleWindow cfg.windowSize :=
  let header :=
    { logger.fillWindowHeader env .zero with
      label := logger.currentLabel.toByte
      sessionId := logger.currentSessionId
      windowId := logger.currentWindowId }
  SampleWindow.withCRC ⟨header, logger.sampleBuf⟩

theorem finalised_writeWindow (logger : DataLoggerService cfg)
    (env : HeaderEnv) : (logger.writeWindow env).Finalised where
  magic := rfl
  version := rfl
  sampleCount := rfl
  reserved1 := rfl
  crc := (SampleWindow.calculateCRC_withCRC _).symm

def queueWindow (logger : DataLoggerService cfg) (env : HeaderEnv) :
    DataLoggerService cfg :=
  if logger.state = .recording then
    if logger.loggerQueue.length < cfg.loggerQueueDepth then
      { logger with
        loggerQueue := logger.loggerQueue ++ [logger.writeWindow env]
        currentWindowId := logger.currentWindowId + 1 }
    else { logger with dropCount := logger.dropCount + 1 }
  else logger

/-- The `memmove` to the front of the buffer. -/
def slideWindow (logger : DataLoggerService cfg) : DataLoggerService cfg :=
  if cfg.windowStride < cfg.windowSize then
    { logger with
      sampleBuf := Vector.ofFn fun i =>
        (logger.sampleBuf[i.val + cfg.windowStride]?).getD
          (logger.sampleBuf.get i)
      sampleIndex := u8 (cfg.windowSize - cfg.windowStride)
      windowStartUptime := logger.windowStartUptime +
        UInt32.ofNat (cfg.windowStride * cfg.samplingPeriodMs) }
  else { logger with sampleIndex := 0 }

def appendSample (logger : DataLoggerService cfg) (sample : SampleRecord)
    (env : SampleEnv) : DataLoggerService cfg :=
  let logger := logger.storeSample sample env
  if cfg.windowSize ≤ logger.sampleIndex then
    ((logger.publishWindow env).queueWindow env.record).slideWindow
  else logger

/-! ## Sessions -/

def startSession (logger : DataLoggerService cfg) (label : GestureLabel) :
    DataLoggerService cfg × Bool :=
  if logger.state = .recording ∨ logger.state = .armed then
    (logger, decide (logger.state = .recording ∧ logger.currentLabel = label))
  else if !logger.spiffsMounted then
    ({ logger with state := .error }, false)
  else if label = .invalid then
    (logger, false)
  else
    ({ logger with
      currentSessionId := logger.nextSessionId
      nextSessionId := logger.nextSessionId + 1
      currentWindowId := 0
      windowsWritten := 0
      currentLabel := label
      sampleIndex := 0
      state := .recording }, true)

def stopSession (logger : DataLoggerService cfg) : DataLoggerService cfg :=
  if logger.state ≠ .recording ∧ logger.state ≠ .armed then logger
  else { logger with state := .idle }

/-- The names that `deleteAll` takes out, but for those that the file system does
not remove. -/
def deletes (failing : List String) (name : String) : Bool :=
  "/ml_".toList.isPrefixOf name.toList && !failing.contains name

def deleteAll (logger : DataLoggerService cfg) (rootOpens : Bool)
    (failing : List String) : DataLoggerService cfg × Bool :=
  let logger :=
    if logger.state = .recording ∨ logger.state = .armed then
      logger.stopSession
    else logger
  if !logger.spiffsMounted then (logger, false)
  else if !rootOpens then (logger, false)
  else
    ({ logger with
      spiffs := logger.spiffs.remove (deletes failing)
      nextSessionId := 1
      totalWindowsWritten := 0
      dropCount := 0 }, true)

def setRuntimeFlags (logger : DataLoggerService cfg) (flags : UInt8) :
    DataLoggerService cfg :=
  { logger with cachedFlags := flags }

/-! ## The logger task -/

def processWrite (logger : DataLoggerService cfg)
    (window : SampleWindow cfg.windowSize) (outcome : WriteOutcome) :
    DataLoggerService cfg :=
  if !logger.spiffsMounted then { logger with state := .error }
  else
    match outcome with
    | .openFailed => { logger with state := .error }
    | .opened room =>
        let written := min room (SampleWindow.serializedSize cfg.windowSize)
        let logger :=
          { logger with
            spiffs := logger.spiffs.append
              (buildSessionPath window.header.sessionId)
              (window.toBytes.take written) }
        if written ≠ SampleWindow.serializedSize cfg.windowSize then
          { logger with state := .error }
        else
          { logger with
            windowsWritten := logger.windowsWritten + 1
            totalWindowsWritten := logger.totalWindowsWritten + 1 }

/-- One turn of the logger task's loop; waiting for an empty queue times
out. -/
def loggerTask (logger : DataLoggerService cfg) (outcome : WriteOutcome) :
    DataLoggerService cfg :=
  match logger.loggerQueue with
  | [] => logger
  | window :: queue =>
      processWrite { logger with loggerQueue := queue } window outcome

/-! ## What the sensor task changes -/

theorem publishWindow_eq (logger : DataLoggerService cfg) (env : SampleEnv) :
    logger.publishWindow env =
      { logger with
        inferenceWindow := (logger.publishWindow env).inferenceWindow } := by
  unfold publishWindow
  split <;> rfl

theorem queueWindow_eq (logger : DataLoggerService cfg) (env : HeaderEnv) :
    logger.queueWindow env =
      { logger with
        loggerQueue := (logger.queueWindow env).loggerQueue
        currentWindowId := (logger.queueWindow env).currentWindowId
        dropCount := (logger.queueWindow env).dropCount } := by
  unfold queueWindow
  split_ifs <;> rfl

theorem slideWindow_eq (logger : DataLoggerService cfg) :
    logger.slideWindow =
      { logger with
        sampleBuf := logger.slideWindow.sampleBuf
        sampleIndex := logger.slideWindow.sampleIndex
        windowStartUptime := logger.slideWindow.windowStartUptime } := by
  unfold slideWindow
  split <;> rfl

theorem loggerQueue_queueWindow (logger : DataLoggerService cfg)
    (env : HeaderEnv) :
    (logger.queueWindow env).loggerQueue =
      logger.loggerQueue ++
        if logger.state = .recording ∧
            logger.loggerQueue.length < cfg.loggerQueueDepth then
          [logger.writeWindow env]
        else [] := by
  unfold queueWindow
  by_cases hrecording : logger.state = .recording
  · by_cases hroom : logger.loggerQueue.length < cfg.loggerQueueDepth <;>
      simp [hrecording, hroom]
  · simp [hrecording]

theorem sampleIndex_slideWindow (logger : DataLoggerService cfg) :
    logger.slideWindow.sampleIndex =
      if cfg.windowStride < cfg.windowSize then
        u8 (cfg.windowSize - cfg.windowStride)
      else 0 := by
  unfold slideWindow
  split <;> rfl

/-- The service with the sample that fills the buffer, as it makes the window
from it. -/
def filled (logger : DataLoggerService cfg) (sample : SampleRecord)
    (env : SampleEnv) : DataLoggerService cfg :=
  (logger.storeSample sample env).publishWindow env

theorem filled_eq (logger : DataLoggerService cfg) (sample : SampleRecord)
    (env : SampleEnv) :
    logger.filled sample env =
      { logger.storeSample sample env with
        inferenceWindow := (logger.filled sample env).inferenceWindow } :=
  publishWindow_eq _ env

theorem appendSample_of_lt {logger : DataLoggerService cfg}
    (hindex : u8 (logger.sampleIndex + 1) < cfg.windowSize)
    (sample : SampleRecord) (env : SampleEnv) :
    logger.appendSample sample env = logger.storeSample sample env :=
  if_neg (not_le.mpr hindex)

theorem appendSample_of_le {logger : DataLoggerService cfg}
    (hindex : cfg.windowSize ≤ u8 (logger.sampleIndex + 1))
    (sample : SampleRecord) (env : SampleEnv) :
    logger.appendSample sample env =
      ((logger.filled sample env).queueWindow env.record).slideWindow :=
  if_pos hindex

/-- Everything else stays as it is. -/
theorem appendSample_frame (logger : DataLoggerService cfg)
    (sample : SampleRecord) (env : SampleEnv) :
    ∃ sampleBuf sampleIndex uptime window queue windowId drops,
      logger.appendSample sample env =
        { logger with
          sampleBuf := sampleBuf
          sampleIndex := sampleIndex
          windowStartUptime := uptime
          inferenceWindow := window
          loggerQueue := queue
          currentWindowId := windowId
          dropCount := drops } := by
  by_cases hindex : cfg.windowSize ≤ u8 (logger.sampleIndex + 1)
  · rw [appendSample_of_le hindex, slideWindow_eq, queueWindow_eq, filled_eq]
    exact ⟨_, _, _, _, _, _, _, rfl⟩
  · rw [appendSample_of_lt (not_le.mp hindex)]
    exact ⟨_, _, _, logger.inferenceWindow, logger.loggerQueue,
      logger.currentWindowId, logger.dropCount, rfl⟩

theorem appendSample_kept (logger : DataLoggerService cfg)
    (sample : SampleRecord) (env : SampleEnv) :
    (logger.appendSample sample env).state = logger.state ∧
      (logger.appendSample sample env).currentSessionId =
        logger.currentSessionId ∧
      (logger.appendSample sample env).nextSessionId =
        logger.nextSessionId ∧
      (logger.appendSample sample env).spiffsMounted =
        logger.spiffsMounted ∧
      (logger.appendSample sample env).spiffs = logger.spiffs := by
  obtain ⟨_, _, _, _, _, _, _, hframe⟩ := logger.appendSample_frame sample env
  rw [hframe]
  exact ⟨rfl, rfl, rfl, rfl, rfl⟩

theorem sampleIndex_appendSample (logger : DataLoggerService cfg)
    (sample : SampleRecord) (env : SampleEnv) :
    (logger.appendSample sample env).sampleIndex =
      if cfg.windowSize ≤ u8 (logger.sampleIndex + 1) then
        if cfg.windowStride < cfg.windowSize then
          u8 (cfg.windowSize - cfg.windowStride)
        else 0
      else u8 (logger.sampleIndex + 1) := by
  by_cases hindex : cfg.windowSize ≤ u8 (logger.sampleIndex + 1)
  · rw [appendSample_of_le hindex, sampleIndex_slideWindow, if_pos hindex]
  · rw [appendSample_of_lt (not_le.mp hindex), if_neg hindex]
    rfl

theorem loggerQueue_appendSample (logger : DataLoggerService cfg)
    (sample : SampleRecord) (env : SampleEnv) :
    (logger.appendSample sample env).loggerQueue =
      logger.loggerQueue ++
        if cfg.windowSize ≤ u8 (logger.sampleIndex + 1) ∧
            logger.state = .recording ∧
            logger.loggerQueue.length < cfg.loggerQueueDepth then
          [(logger.filled sample env).writeWindow env.record]
        else [] := by
  by_cases hindex : cfg.windowSize ≤ u8 (logger.sampleIndex + 1)
  · have hqueue : (logger.filled sample env).loggerQueue =
        logger.loggerQueue := by
      rw [filled_eq]
      rfl
    have hstate : (logger.filled sample env).state = logger.state := by
      rw [filled_eq]
      rfl
    rw [appendSample_of_le hindex, slideWindow_eq]
    dsimp only
    rw [loggerQueue_queueWindow, hqueue, hstate]
    simp [hindex]
  · rw [appendSample_of_lt (not_le.mp hindex)]
    simp [storeSample, hindex]

theorem loggerQueue_startSession (logger : DataLoggerService cfg)
    (label : GestureLabel) :
    (logger.startSession label).1.loggerQueue = logger.loggerQueue ∧
      (logger.startSession label).1.spiffs = logger.spiffs ∧
      (logger.startSession label).1.sampleBuf = logger.sampleBuf := by
  unfold startSession
  split_ifs <;> exact ⟨rfl, rfl, rfl⟩

theorem stopSession_eq (logger : DataLoggerService cfg) :
    logger.stopSession =
      { logger with state := logger.stopSession.state } := by
  unfold stopSession
  split <;> rfl

theorem deleteAll_eq (logger : DataLoggerService cfg) (rootOpens : Bool)
    (failing : List String) :
    ∃ state, state ≠ .recording ∧
      (logger.deleteAll rootOpens failing).1 =
        if logger.spiffsMounted ∧ rootOpens then
          { logger with
            state
            spiffs := logger.spiffs.remove (deletes failing)
            nextSessionId := 1
            totalWindowsWritten := 0
            dropCount := 0 }
        else { logger with state } := by
  have hstop : ∃ state, state ≠ .recording ∧
      (if logger.state = .recording ∨ logger.state = .armed then
        logger.stopSession else logger) = { logger with state } := by
    by_cases hbusy : logger.state = .recording ∨ logger.state = .armed
    · have hnot : ¬(logger.state ≠ .recording ∧ logger.state ≠ .armed) := by
        tauto
      rw [if_pos hbusy, stopSession, if_neg hnot]
      exact ⟨.idle, nofun, rfl⟩
    · rw [if_neg hbusy]
      exact ⟨logger.state, (not_or.mp hbusy).1, rfl⟩
  obtain ⟨state, hstate, hlogger⟩ := hstop
  refine ⟨state, hstate, ?_⟩
  unfold deleteAll
  rw [hlogger]
  cases hmounted : logger.spiffsMounted <;> cases rootOpens <;> simp

theorem processWrite_eq (logger : DataLoggerService cfg)
    (window : SampleWindow cfg.windowSize) (outcome : WriteOutcome) :
    logger.processWrite window outcome =
      { logger with
        state := (logger.processWrite window outcome).state
        spiffs := (logger.processWrite window outcome).spiffs
        windowsWritten := (logger.processWrite window outcome).windowsWritten
        totalWindowsWritten :=
          (logger.processWrite window outcome).totalWindowsWritten } := by
  unfold processWrite
  cases outcome <;> dsimp only <;> split_ifs <;> rfl

end DataLoggerService

inductive LoggerEvent where
  | appendSample (sample : SampleRecord) (env : SampleEnv)
  | startSession (label : GestureLabel)
  | stopSession
  | setRuntimeFlags (flags : UInt8)
  | write (outcome : WriteOutcome)
  deriving DecidableEq, Repr

def DataLoggerService.step {cfg : MLConfig} (logger : DataLoggerService cfg) :
    LoggerEvent → DataLoggerService cfg
  | .appendSample sample env => logger.appendSample sample env
  | .startSession label => (logger.startSession label).1
  | .stopSession => logger.stopSession
  | .setRuntimeFlags flags => logger.setRuntimeFlags flags
  | .write outcome => logger.loggerTask outcome

end SensorFirmware
