import SensorFirmware.Checksum

/-!
# State of the recovery flasher

The globals of `FlasherService.cpp`, the `Update` library as a source of
results, and a ghost trace of everything that is done to the flash, the phase
and the pending action.  `Config.h` is not in the repository, so its constants
are a parameter.
-/

namespace SensorFirmware

structure FlasherConfig where
  maxChunkSize : ℕ
  idleTimeoutMs : ℕ
  progressTimeoutMs : ℕ
  chunkReceiveTimeoutMs : ℕ
  chunkWriteTimeoutMs : ℕ
  minVoltageLoadMv : ℕ

inductive FlasherPhase where
  | init
  | batteryCheck
  | wifiStart
  | ready
  | erasing
  | receiving
  | verifying
  | complete
  | success
  | error
  deriving DecidableEq, Repr

inductive FlasherAction where
  | none
  | abortReset
  | startSession
  | rebootSuccess
  deriving DecidableEq, Repr

/-- `FlasherConfig::Error`. -/
inductive FlasherError where
  | none
  | noContentLength
  | sizeTooLarge
  | flashBeginFailed
  | flashWriteFailed
  | flashEndFailed
  | sessionMismatch
  | invalidChunk
  | userAbort
  | timeoutIdle
  | timeoutProgress
  | lowBatteryLoad
  deriving DecidableEq, Repr

inductive ChunkBufferState where
  | idle
  | receiving
  | queued
  | writing
  | error
  deriving DecidableEq, Repr

/-- `flasherPhaseToString`; the switch has no case for `RECEIVING`. -/
def FlasherPhase.toText : FlasherPhase → String
  | init => "INIT"
  | batteryCheck => "BATTERY_CHECK"
  | wifiStart => "WIFI_START"
  | ready => "READY"
  | erasing => "ERASING"
  | verifying => "VERIFYING"
  | complete => "COMPLETE"
  | success => "SUCCESS"
  | error => "ERROR"
  | receiving => "UNKNOWN"

def ChunkBufferState.toText : ChunkBufferState → String
  | idle => "IDLE"
  | receiving => "RECEIVING"
  | queued => "QUEUED"
  | writing => "WRITING"
  | error => "ERROR"

/-- `g_state`. -/
structure FlasherState where
  phase : FlasherPhase
  sessionId : ℕ
  written : ℕ
  total : ℕ
  lastChunkIndex : ℤ
  lastActivityMs : ℕ
  lastProgressMs : ℕ
  httpCode : ℕ
  error : FlasherError
  message : String
  vIdle : ℕ
  vLoad : ℕ
  uploadStarted : Bool
  deriving DecidableEq, Repr

/-- `g_pendingChunk`; `data` holds the bytes received so far, so its length is
`receivedSize`. -/
structure PendingChunk where
  state : ChunkBufferState
  sessionId : ℕ
  chunkIndex : ℤ
  totalChunks : ℤ
  expectedSize : ℕ
  data : List Byte
  startMs : ℕ
  deriving DecidableEq, Repr

def PendingChunk.receivedSize (chunk : PendingChunk) : ℕ :=
  chunk.data.length

/-- `resetPendingChunk`. -/
def PendingChunk.idle : PendingChunk where
  state := .idle
  sessionId := 0
  chunkIndex := -1
  totalChunks := 0
  expectedSize := 0
  data := []
  startMs := 0

/-- Ghost: the chunk that a client sent, as its headers and body give it. -/
structure SentChunk where
  sessionId : ℕ
  index : ℤ
  total : ℤ
  payload : List Byte
  deriving DecidableEq, Repr

/-- Which of the two upload protocols calls the library. -/
inductive UploadPath where
  | chunks
  | legacy
  deriving DecidableEq, Repr

inductive FlasherEvent where
  | announce (sessionId size : ℕ)
  | begin (path : UploadPath) (size : ℕ) (ok : Bool)
  | write (data : List Byte) (sent : Option SentChunk)
  | finish (path : UploadPath) (ok : Bool)
  | abort
  | phase (phase : FlasherPhase)
  | schedule (action : FlasherAction)
  | execute (action : FlasherAction)
  deriving DecidableEq, Repr

def FlasherEvent.isBegin : FlasherEvent → Bool
  | .begin _ _ _ => true
  | _ => false

def updateBegun (trace : List FlasherEvent) : Bool :=
  trace.any FlasherEvent.isBegin

/-- `Update.end(true)` returned true after the most recent `Update.begin`, and
there was no `Update.begin` and no `Update.abort` since. -/
def imageFinished : List FlasherEvent → Bool
  | [] => false
  | .begin _ _ _ :: _ => false
  | .abort :: _ => false
  | .finish _ true :: past => updateBegun past
  | _ :: past => imageFinished past

/-- All globals, whether the device has restarted, and the trace with the
newest event first. -/
structure Flasher where
  state : FlasherState
  chunk : PendingChunk
  sent : Option SentChunk
  action : FlasherAction
  pendingSessionId : ℕ
  pendingTotalSize : ℕ
  chunkResponse : ℕ × String
  lastBattCheck : ℕ
  restarted : Bool
  trace : List FlasherEvent
  deriving DecidableEq, Repr

namespace Flasher

@[simp] def note (f : Flasher) (event : FlasherEvent) : Flasher :=
  { f with trace := event :: f.trace }

@[simp] def setPhase (f : Flasher) (phase : FlasherPhase) : Flasher :=
  { f with
    state := { f.state with phase := phase }
    trace := .phase phase :: f.trace }

@[simp] def setMessage (f : Flasher) (message : String) : Flasher :=
  { f with state := { f.state with message := message } }

@[simp] def setChunkResponse (f : Flasher) (httpCode : ℕ) (message : String) :
    Flasher :=
  { f with chunkResponse := (httpCode, message) }

@[simp] def resetPendingChunk (f : Flasher) : Flasher :=
  { f with chunk := .idle, sent := none }

@[simp] def schedule (f : Flasher) (action : FlasherAction) : Flasher :=
  { f with action := action, trace := .schedule action :: f.trace }

def isTransitionAllowed (current next : FlasherPhase) : Bool :=
  next == .error ||
    match current with
    | .init => next == .batteryCheck
    | .batteryCheck => next == .wifiStart
    | .wifiStart => next == .ready
    | .ready => next == .erasing
    | .erasing => next == .receiving
    | .receiving => next == .verifying || next == .complete
    | .verifying => next == .complete
    | .complete => false
    | .success => false
    | .error => false

/-- A refused transition leaves everything as it is. -/
def transitionPhase (f : Flasher) (next : FlasherPhase) : Flasher :=
  if f.state.phase = next then f
  else if isTransitionAllowed f.state.phase next then f.setPhase next
  else f

@[simp] def setErrorState (f : Flasher) (error : FlasherError) (message : String)
    (httpCode : ℕ) : Flasher :=
  { f with state := { f.state with
      httpCode := httpCode
      error := error
      message := message } }.setPhase .error

@[simp] def updateAbort (f : Flasher) : Flasher :=
  f.note .abort

/-- Besides `setErrorState` the watchdogs and the write path give up the
update. -/
def failUpdate (f : Flasher) (error : FlasherError) (message : String)
    (httpCode : ℕ) : Flasher :=
  (f.setErrorState error message httpCode).updateAbort

/-- `resetFlasherState` at time `ms`. -/
def resetFlasherState (f : Flasher) (isRunning : Bool) (ms : ℕ) : Flasher :=
  let f := if isRunning then f.updateAbort else f
  let f := f.setPhase .ready
  let f := { f with state := { f.state with
    sessionId := 0
    written := 0
    total := 0
    lastChunkIndex := -1
    lastActivityMs := ms
    lastProgressMs := 0
    httpCode := 200
    error := .none
    message := "Ready"
    uploadStarted := false } }
  let f := (f.resetPendingChunk).setChunkResponse 200 "Ready"
  { f with
    action := .none
    pendingSessionId := 0
    pendingTotalSize := 0 }

/-- The state in which `run` enters its loop, the battery checks passed. -/
def ready (vIdle vLoad ms : ℕ) : Flasher :=
  resetFlasherState
    { state :=
        { phase := .wifiStart
          sessionId := 0
          written := 0
          total := 0
          lastChunkIndex := -1
          lastActivityMs := ms
          lastProgressMs := 0
          httpCode := 200
          error := .none
          message := ""
          vIdle := vIdle
          vLoad := vLoad
          uploadStarted := false }
      chunk := .idle
      sent := none
      action := .none
      pendingSessionId := 0
      pendingTotalSize := 0
      chunkResponse := (200, "Chunk queued")
      lastBattCheck := 0
      restarted := false
      trace := [] } false ms

end Flasher

end SensorFirmware
