import SensorFirmware.FlasherServer

/-!
# The run loop of the recovery flasher

One iteration serves at most one request, executes the pending action, writes
the queued chunk and then looks at the watchdogs.
-/

namespace SensorFirmware

/-- What one iteration meets besides its request.  Times are the values of
`millis` where the source reads it. -/
structure LoopEnv where
  actionMs : ℕ
  erasedMs : ℕ
  writeMs : ℕ
  now : ℕ
  currentBatt : ℕ
  written : ℕ
  update : UpdateResults
  deriving DecidableEq, Repr

structure Iteration where
  request : Option (ℕ × FlasherRequest)
  env : LoopEnv
  deriving DecidableEq, Repr

namespace Flasher

def startSession (f : Flasher) (env : LoopEnv) : Flasher :=
  let f := (f.transitionPhase .erasing).setMessage "Erasing flash..."
  let f := { f with state := { f.state with
    sessionId := f.pendingSessionId
    total := f.pendingTotalSize
    written := 0
    lastChunkIndex := -1
    lastActivityMs := env.actionMs
    lastProgressMs := 0 } }.resetPendingChunk
  let f := { f with pendingSessionId := 0, pendingTotalSize := 0 }
  let f := f.note (.begin .chunks f.state.total env.update.beginOk)
  if env.update.beginOk then
    let f := f.transitionPhase .receiving
    { f with state := { f.state with
      uploadStarted := true
      message := "Ready for chunks"
      lastProgressMs := env.erasedMs } }
  else
    let f := f.setErrorState .flashBeginFailed
      ("Erase failed: " ++ toString env.update.getError) 500
    { f with state := { f.state with sessionId := 0, total := 0 } }

/-- The slot is emptied before the action is executed. -/
def executeAction (f : Flasher) (env : LoopEnv) : Flasher :=
  match f.action with
  | .none => f
  | .abortReset =>
      ({ f with action := .none }.note (.execute .abortReset)).resetFlasherState
        env.update.isRunning env.actionMs
  | .startSession =>
      ({ f with action := .none }.note (.execute .startSession)).startSession
        env
  | .rebootSuccess =>
      { { f with action := .none }.note (.execute .rebootSuccess) with
        restarted := true }

/-- The last chunk was written: `Update.end(true)`. -/
def commitUpdate (f : Flasher) (endOk : Bool) : Flasher :=
  let f := (f.transitionPhase .verifying).note (.finish .chunks endOk)
  if endOk then
    ((f.setMessage "Success. Rebooting.").transitionPhase .complete).schedule
      .rebootSuccess
  else f.setErrorState .flashEndFailed "Verify failed" 500

def isFinalChunk (chunk : PendingChunk) : Bool :=
  0 < chunk.totalChunks && chunk.chunkIndex == chunk.totalChunks - 1

/-- `Update.write` of the queued chunk. -/
def writeChunk (f : Flasher) : Flasher :=
  { f with chunk := { f.chunk with state := .writing } }.note
    (.write f.chunk.data f.sent)

def advanceSession (f : Flasher) (env : LoopEnv) : Flasher :=
  { f with state := { f.state with
    written := u32 (f.state.written + env.written)
    lastChunkIndex := f.chunk.chunkIndex
    lastProgressMs := env.writeMs } }

def processPendingChunk (f : Flasher) (env : LoopEnv) : Flasher :=
  if f.chunk.state ≠ .queued then f
  else if f.state.phase ≠ .receiving then f.resetPendingChunk
  else
    let f := f.writeChunk
    if env.written ≠ f.chunk.receivedSize then
      let f := f.failUpdate .flashWriteFailed "Flash write failed" 500
      { f with chunk := { f.chunk with state := .error } }
    else
      let f := f.advanceSession env
      let f := if isFinalChunk f.chunk then f.commitUpdate env.update.endOk
        else f
      f.resetPendingChunk

def watchdog (f : Flasher) (fires : Bool) (error : FlasherError)
    (message : String) : Flasher :=
  if fires then (f.failUpdate error message 408).resetPendingChunk else f

def idleWatch (f : Flasher) (now : ℕ) : Flasher :=
  f.watchdog
    ((f.state.phase == .receiving || f.state.phase == .erasing) &&
      30000 < sub32 now f.state.lastActivityMs)
    .timeoutIdle "Session timed out"

def progressWatch (cfg : FlasherConfig) (f : Flasher) (now : ℕ) : Flasher :=
  f.watchdog
    (f.state.phase == .receiving && f.state.uploadStarted &&
      0 < f.state.lastProgressMs &&
      cfg.progressTimeoutMs < sub32 now f.state.lastProgressMs)
    .timeoutProgress "Upload stalled"

/-- The chunk slot has been in this state for too long. -/
def chunkWatch (f : Flasher) (state : ChunkBufferState) (now timeoutMs : ℕ)
    (message : String) : Flasher :=
  f.watchdog
    (f.state.phase == .receiving && f.chunk.state == state &&
      0 < f.chunk.startMs && timeoutMs < sub32 now f.chunk.startMs)
    .timeoutProgress message

def batteryWatch (cfg : FlasherConfig) (f : Flasher) (env : LoopEnv) :
    Flasher :=
  if 10000 < sub32 env.now f.lastBattCheck then
    let f := { f with lastBattCheck := env.now }
    if f.state.uploadStarted && f.state.phase == .receiving &&
        env.currentBatt < cfg.minVoltageLoadMv then
      f.updateAbort.setErrorState .lowBatteryLoad
        ("Battery dropped: " ++ toString env.currentBatt ++ "mV") 500
    else f
  else f

def watchdogs (cfg : FlasherConfig) (f : Flasher) (env : LoopEnv) :
    Flasher :=
  let f := f.idleWatch env.now
  if f.state.phase == .ready &&
      cfg.idleTimeoutMs < sub32 env.now f.state.lastActivityMs then
    { f with restarted := true }
  else
    let f := f.progressWatch cfg env.now
    let f := f.chunkWatch .receiving env.now cfg.chunkReceiveTimeoutMs
      "Chunk receive timeout"
    let f := f.chunkWatch .queued env.now cfg.chunkWriteTimeoutMs
      "Chunk write timeout"
    f.batteryWatch cfg env

/-- `g_server->handleClient()`. -/
def serve (cfg : FlasherConfig) (f : Flasher)
    (request : Option (ℕ × FlasherRequest)) :
    Flasher × Option FlasherResponse :=
  match request with
  | none => (f, none)
  | some (ms, request) => f.handleRequest cfg ms request

/-- The first half of an iteration. -/
def serveAndAct (cfg : FlasherConfig) (f : Flasher)
    (iteration : Iteration) : Flasher :=
  (f.serve cfg iteration.request).1.executeAction iteration.env

/-- One iteration; after a restart nothing runs any more. -/
def iterate (cfg : FlasherConfig) (f : Flasher) (iteration : Iteration) :
    Flasher :=
  if f.restarted then f
  else
    let f := f.serveAndAct cfg iteration
    if f.restarted then f
    else (f.processPendingChunk iteration.env).watchdogs cfg iteration.env

/-! ## A bench client -/

def benchConfig : FlasherConfig where
  maxChunkSize := 4096
  idleTimeoutMs := 300000
  progressTimeoutMs := 60000
  chunkReceiveTimeoutMs := 15000
  chunkWriteTimeoutMs := 15000
  minVoltageLoadMv := 3300

/-- A library that does whatever it is asked, writing `written` bytes. -/
def benchEnv (ms written : ℕ) : LoopEnv where
  actionMs := ms
  erasedMs := ms
  writeMs := ms
  now := ms
  currentBatt := 4000
  written := written
  update := ⟨false, true, true, 0⟩

def noHeaders : FlasherHeaders where
  contentLength := []
  sessionId := []
  chunkIndex := []
  totalChunks := []
  totalSize := []
  chunkSize := []

def postStart (ms : ℕ) (sessionId totalSize : List Char) : Iteration where
  request := some (ms, .start
    { noHeaders with sessionId := sessionId, totalSize := totalSize }
    (some 1310720))
  env := benchEnv ms 0

def postChunk (ms : ℕ) (sessionId chunkIndex totalChunks : List Char)
    (payload : List Byte) : Iteration where
  request := some (ms, .updateChunk
    { noHeaders with
      sessionId := sessionId
      chunkIndex := chunkIndex
      totalChunks := totalChunks
      chunkSize := (toString payload.length).toList }
    { parts := [⟨[⟨payload, payload.length⟩], ⟨true, true, true, 0⟩⟩]
      lost := none
      parsed := true
      hasError := false })
  env := benchEnv ms payload.length

end Flasher

end SensorFirmware
