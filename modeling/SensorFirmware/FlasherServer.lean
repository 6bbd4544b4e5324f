import SensorFirmware.FlasherState
import SensorFirmware.TextNumbers

/-!
# The HTTP endpoints of the recovery flasher

The web server calls the upload handler synchronously while it reads a
request, once for the start of a part, once for each buffer and once for its
end or for a lost connection, and then the request handler, which answers.
The results of the `Update` library come with the request.
-/

namespace SensorFirmware

/-! ## Requests -/

/-- The collected headers; a missing header reads as the empty string. -/
structure FlasherHeaders where
  contentLength : List Char
  sessionId : List Char
  chunkIndex : List Char
  totalChunks : List Char
  totalSize : List Char
  chunkSize : List Char
  deriving DecidableEq, Repr

/-- What the library answers during one part. -/
structure UpdateResults where
  isRunning : Bool
  beginOk : Bool
  endOk : Bool
  getError : ℕ
  deriving DecidableEq, Repr

/-- One buffer of a part, and how much of it `Update.write` would take. -/
structure UploadBuffer where
  buf : List Byte
  written : ℕ
  deriving DecidableEq, Repr

structure UploadPart where
  buffers : List UploadBuffer
  update : UpdateResults
  deriving DecidableEq, Repr

def UploadPart.payload (part : UploadPart) : List Byte :=
  part.buffers.flatMap UploadBuffer.buf

/-- The parts that arrive whole, and at most one that the connection loses.
The request handler runs only if the whole body was parsed. -/
structure Upload where
  parts : List UploadPart
  lost : Option UploadPart
  parsed : Bool
  hasError : Bool
  deriving DecidableEq, Repr

def Upload.answered (upload : Upload) : Bool :=
  upload.parsed && upload.lost.isNone

def Upload.hasPart (upload : Upload) : Bool :=
  !upload.parts.isEmpty || upload.lost.isSome

inductive FlasherRequest where
  | status (currentBatt : ℕ)
  | start (headers : FlasherHeaders) (partitionSize : Option ℕ)
  | abort
  | root
  | updateChunk (headers : FlasherHeaders) (upload : Upload)
  | update (headers : FlasherHeaders) (partitionSize : Option ℕ)
      (upload : Upload)
  | notFound
  deriving DecidableEq, Repr

structure FlasherStatus where
  session : ℕ
  phase : String
  written : ℕ
  total : ℕ
  code : ℕ
  err : FlasherError
  msg : String
  vBatt : ℕ
  vIdle : ℕ
  vLoad : ℕ
  idle : ℕ
  lastChunk : ℤ
  chunkState : String
  pendingChunk : ℤ
  pendingSize : ℕ
  deriving DecidableEq, Repr

inductive FlasherResponse where
  | text (code : ℕ) (message : String)
  | json (status : FlasherStatus)
  deriving DecidableEq, Repr

def usageText : String :=
  "OTA Server (Explicit Erase)\n" ++
  "1. POST /start with X-Session-ID, X-Total-Size headers\n" ++
  "2. Poll /status until phase=RECEIVING\n" ++
  "3. POST chunks to /update_chunk\n" ++
  "POST /abort to cancel\n\n" ++
  "Chunk Headers: X-Session-ID, X-Chunk-Index, X-Total-Chunks"

namespace Flasher

@[simp] def touch (f : Flasher) (ms : ℕ) : Flasher :=
  { f with state := { f.state with lastActivityMs := ms } }

/-! ## The session endpoints -/

def handleStatus (f : Flasher) (ms currentBatt : ℕ) :
    Flasher × FlasherResponse :=
  (f.touch ms, .json {
    session := f.state.sessionId
    phase := f.state.phase.toText
    written := f.state.written
    total := f.state.total
    code := f.state.httpCode
    err := f.state.error
    msg := f.state.message
    vBatt := currentBatt
    vIdle := f.state.vIdle
    vLoad := f.state.vLoad
    idle := sub32 ms f.state.lastActivityMs / 1000
    lastChunk := f.state.lastChunkIndex
    chunkState := f.chunk.state.toText
    pendingChunk := f.chunk.chunkIndex
    pendingSize := f.chunk.receivedSize })

def handleStart (f : Flasher) (ms : ℕ) (headers : FlasherHeaders)
    (partitionSize : Option ℕ) : Flasher × FlasherResponse :=
  let f := f.touch ms
  let reqSessionId := strtoul headers.sessionId
  let reqTotalSize := strtoul headers.totalSize
  if f.state.phase ≠ .ready then
    if f.state.phase = .erasing then
      (f, .text 409 "Erase in progress - poll /status")
    else if f.state.phase = .receiving then
      (f, .text 409 "Session active - send chunks or /abort")
    else (f, .text 409 "Device busy")
  else if headers.sessionId.isEmpty || headers.totalSize.isEmpty then
    (f, .text 400 "Missing X-Session-ID or X-Total-Size headers")
  else if reqSessionId = 0 then
    (f, .text 400 "Invalid X-Session-ID (cannot be 0)")
  else if reqTotalSize < 1024 then
    (f, .text 400 "X-Total-Size too small (< 1KB)")
  else
    match partitionSize with
    | none => (f, .text 500 "No OTA partition available")
    | some size =>
        if size < reqTotalSize then
          (f, .text 413 ("Firmware too large (" ++ toString reqTotalSize ++
            " > " ++ toString size ++ " bytes)"))
        else
          (({ f with
              pendingSessionId := reqSessionId
              pendingTotalSize := reqTotalSize }.note
                (.announce reqSessionId reqTotalSize)).schedule
                  .startSession,
            .text 200 "Session started - erasing flash...")

def handleAbort (f : Flasher) : Flasher × FlasherResponse :=
  (f.schedule .abortReset, .text 200 "ABORTED")

/-! ## Chunk upload -/

/-- A rejection that also fails the session. -/
@[simp] def rejectChunk (f : Flasher) (error : FlasherError) (message : String)
    (httpCode : ℕ) : Flasher :=
  let f := (f.setErrorState error message httpCode).setChunkResponse
    httpCode message
  { f with chunk := { f.chunk with state := .error } }

def chunkExpectedSize (headers : FlasherHeaders) : ℕ :=
  if !headers.chunkSize.isEmpty then toUnsigned (strtol headers.chunkSize)
  else if !headers.contentLength.isEmpty then
    toUnsigned (strtol headers.contentLength)
  else 0

def chunkStart (cfg : FlasherConfig) (f : Flasher) (ms : ℕ)
    (headers : FlasherHeaders) : Flasher :=
  let f := (f.touch ms).setChunkResponse 202 "Chunk queued"
  let reqSessionId := strtoul headers.sessionId
  let chunkIndex := strtol headers.chunkIndex
  let totalChunks := strtol headers.totalChunks
  let expectedSize := chunkExpectedSize headers
  if f.state.phase ≠ .receiving then
    f.setChunkResponse 409 "Not ready for chunks"
  else if f.chunk.state ≠ .idle then
    f.setChunkResponse 409 "Chunk buffer busy"
  else if headers.sessionId.isEmpty || headers.chunkIndex.isEmpty ||
      headers.totalChunks.isEmpty then
    f.rejectChunk .noContentLength "Missing headers" 400
  else if f.state.sessionId ≠ reqSessionId then
    f.rejectChunk .sessionMismatch "Session mismatch" 409
  else if chunkIndex ≤ f.state.lastChunkIndex then
    f.setChunkResponse 200 "Duplicate chunk"
  else if expectedSize = 0 ∨ cfg.maxChunkSize < expectedSize then
    f.rejectChunk .invalidChunk "Invalid chunk size" 413
  else
    { f with chunk := {
        state := .receiving
        sessionId := reqSessionId
        chunkIndex := chunkIndex
        totalChunks := totalChunks
        expectedSize := expectedSize
        data := []
        startMs := ms } }

def chunkWrite (cfg : FlasherConfig) (f : Flasher) (buf : List Byte) :
    Flasher :=
  let nextSize := f.chunk.receivedSize + buf.length
  if f.chunk.state ≠ .receiving then f
  else if buf.length = 0 then f
  else if f.chunk.expectedSize < nextSize ∨ cfg.maxChunkSize < nextSize then
    f.rejectChunk .invalidChunk "Chunk overflow" 400
  else { f with chunk := { f.chunk with data := f.chunk.data ++ buf } }

/-- The ghost record takes the body as the client sent it. -/
def chunkEnd (f : Flasher) (ms : ℕ) (payload : List Byte) : Flasher :=
  if f.chunk.state ≠ .receiving then f
  else if f.chunk.receivedSize ≠ f.chunk.expectedSize then
    f.rejectChunk .invalidChunk "Chunk size mismatch" 400
  else
    { f with
      chunk := { f.chunk with state := .queued, startMs := ms }
      sent := some {
        sessionId := f.chunk.sessionId
        index := f.chunk.chunkIndex
        total := f.chunk.totalChunks
        payload := payload } }.setMessage "Chunk queued"

def chunkAborted (f : Flasher) : Flasher :=
  (f.setChunkResponse 499 "Client aborted").resetPendingChunk

def chunkBuffers (cfg : FlasherConfig) (f : Flasher) (part : UploadPart) :
    Flasher :=
  part.buffers.foldl (fun f buffer => f.chunkWrite cfg buffer.buf) f

def chunkPart (cfg : FlasherConfig) (ms : ℕ) (headers : FlasherHeaders)
    (f : Flasher) (part : UploadPart) : Flasher :=
  ((f.chunkStart cfg ms headers).chunkBuffers cfg part).chunkEnd ms
    part.payload

def chunkLost (cfg : FlasherConfig) (ms : ℕ) (headers : FlasherHeaders)
    (f : Flasher) (part : UploadPart) : Flasher :=
  ((f.chunkStart cfg ms headers).chunkBuffers cfg part).chunkAborted

def answerChunk (f : Flasher) (ms : ℕ) : Flasher × FlasherResponse :=
  let f := f.touch ms
  if f.state.phase = .error then
    (f, .text (if 400 ≤ f.state.httpCode then f.state.httpCode else 500)
      f.state.message)
  else (f, .text f.chunkResponse.1 f.chunkResponse.2)

def handleUpdateChunk (cfg : FlasherConfig) (f : Flasher) (ms : ℕ)
    (headers : FlasherHeaders) (upload : Upload) :
    Flasher × Option FlasherResponse :=
  let f := upload.parts.foldl (chunkPart cfg ms headers) f
  let f := upload.lost.elim f (chunkLost cfg ms headers f)
  if upload.answered then
    ((f.answerChunk ms).1, some (f.answerChunk ms).2)
  else (f, none)

/-! ## Legacy upload -/

/-- An error of the legacy path, which leaves the library alone. -/
@[simp] def legacyFail (f : Flasher) (error : FlasherError) (message : String)
    (httpCode : ℕ) : Flasher :=
  f.setErrorState error message httpCode

/-- A session in another phase than `READY` is given up first. -/
def legacyTakeOver (f : Flasher) (isRunning : Bool) : Flasher :=
  if f.state.phase ≠ .ready then
    let f := if isRunning then f.updateAbort else f
    { f with state := { f.state with
      written := 0
      total := 0
      error := .none
      httpCode := 200 } }
  else f

def legacyStart (f : Flasher) (ms : ℕ) (headers : FlasherHeaders)
    (partitionSize : Option ℕ) (update : UpdateResults) : Flasher :=
  let f := ((f.touch ms).legacyTakeOver update.isRunning).setPhase
    .receiving
  if headers.contentLength.isEmpty then
    f.legacyFail .noContentLength "Missing Content-Length" 411
  else
    let total := toUnsigned (strtol headers.contentLength)
    let f := { f with state := { f.state with total := total } }
    if partitionSize.elim true (· < total) then
      f.legacyFail .sizeTooLarge "Firmware too large" 413
    else
      let f := f.note (.begin .legacy total update.beginOk)
      if !update.beginOk then
        f.legacyFail .flashBeginFailed
          ("Begin failed: " ++ toString update.getError) 500
      else
        { f with state := { f.state with
          written := 0
          lastProgressMs := ms
          uploadStarted := true
          sessionId := ms } }

def legacyWrite (ms : ℕ) (update : UpdateResults) (f : Flasher)
    (buffer : UploadBuffer) : Flasher :=
  let f := f.touch ms
  if f.state.phase = .error then f
  else if buffer.buf.length = 0 then f
  else
    let f := f.note (.write buffer.buf none)
    if buffer.written ≠ buffer.buf.length then
      (f.legacyFail .flashWriteFailed
        ("Write failed: " ++ toString update.getError) 500).updateAbort
    else
      { f with state := { f.state with
        written := u32 (f.state.written + buffer.written)
        lastProgressMs := ms } }

def legacyEnd (f : Flasher) (ms : ℕ) (update : UpdateResults) : Flasher :=
  let f := f.touch ms
  if f.state.phase = .error then f
  else
    let f := f.setPhase .verifying
    if f.state.written ≠ f.state.total then
      (f.legacyFail .sizeTooLarge
        ("Incomplete: " ++ toString f.state.written ++ "/" ++
          toString f.state.total) 400).updateAbort
    else
      let f := f.note (.finish .legacy update.endOk)
      if !update.endOk then
        f.legacyFail .flashEndFailed
          ("Commit failed: " ++ toString update.getError) 500
      else f.setMessage "Verified"

def legacyAborted (f : Flasher) (ms : ℕ) : Flasher :=
  ((f.touch ms).legacyFail .userAbort "Client aborted" 499).updateAbort

def legacyBuffers (f : Flasher) (ms : ℕ) (part : UploadPart) : Flasher :=
  part.buffers.foldl (legacyWrite ms part.update) f

def legacyPart (ms : ℕ) (headers : FlasherHeaders)
    (partitionSize : Option ℕ) (f : Flasher) (part : UploadPart) :
    Flasher :=
  ((f.legacyStart ms headers partitionSize part.update).legacyBuffers ms
    part).legacyEnd ms part.update

def legacyLost (ms : ℕ) (headers : FlasherHeaders)
    (partitionSize : Option ℕ) (f : Flasher) (part : UploadPart) :
    Flasher :=
  ((f.legacyStart ms headers partitionSize part.update).legacyBuffers ms
    part).legacyAborted ms

/-- The request handler asks neither whether a part arrived nor which phase it
is called in. -/
def answerUpdate (f : Flasher) (hasError : Bool) :
    Flasher × FlasherResponse :=
  if hasError || decide (f.state.phase = .error) then
    (f, .text (if 400 ≤ f.state.httpCode then f.state.httpCode else 500)
      f.state.message)
  else
    (((f.setPhase .complete).setMessage "Success. Rebooting.").schedule
      .rebootSuccess, .text 200 "OK - Rebooting...")

def handleUpdate (f : Flasher) (ms : ℕ) (headers : FlasherHeaders)
    (partitionSize : Option ℕ) (upload : Upload) :
    Flasher × Option FlasherResponse :=
  let f := upload.parts.foldl (legacyPart ms headers partitionSize) f
  let f := upload.lost.elim f (legacyLost ms headers partitionSize f)
  if upload.answered then
    ((f.answerUpdate upload.hasError).1,
      some (f.answerUpdate upload.hasError).2)
  else (f, none)

def handleRequest (cfg : FlasherConfig) (f : Flasher) (ms : ℕ) :
    FlasherRequest → Flasher × Option FlasherResponse
  | .status currentBatt =>
      ((f.handleStatus ms currentBatt).1,
        some (f.handleStatus ms currentBatt).2)
  | .start headers partitionSize =>
      ((f.handleStart ms headers partitionSize).1,
        some (f.handleStart ms headers partitionSize).2)
  | .abort => (f.handleAbort.1, some f.handleAbort.2)
  | .root => (f, some (.text 200 usageText))
  | .updateChunk headers upload => f.handleUpdateChunk cfg ms headers upload
  | .update headers partitionSize upload =>
      f.handleUpdate ms headers partitionSize upload
  | .notFound => (f, some (.text 404 "Not Found"))

end Flasher

end SensorFirmware
