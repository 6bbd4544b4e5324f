import SensorFirmware.FlasherIteration

/-!
# The memory of the chunk buffer

`g_pendingChunk.data` is a fixed array that a reset does not erase.  Here the
buffer is that array, `receivedSize` says how much of it is in use, and the
copy is `memcpy` at that offset with 32 bit arithmetic.  Every other function
keeps the received bytes or empties the chunk.
-/

namespace SensorFirmware

/-- Ghost: what happens to the buffer, and its sizes after each function. -/
inductive BufferEvent where
  | sizes (receivedSize expectedSize : ℕ)
  | copy (offset length : ℕ)
  | handed (chunk : SentChunk)
  deriving DecidableEq, Repr

/-- The list in the chunk of `flasher` is not part of the device; the buffer
is. -/
structure BufferedFlasher where
  flasher : Flasher
  data : List Byte
  receivedSize : ℕ
  log : List BufferEvent
  deriving DecidableEq, Repr

/-- The copy does not ask for the size of the array; one that leaves it makes
the list longer. -/
def memcpy (memory : List Byte) (offset : ℕ) (buf : List Byte) :
    List Byte :=
  memory.take offset ++ buf ++ memory.drop (offset + buf.length)

theorem length_memcpy {memory buf : List Byte} {offset : ℕ}
    (hinside : offset + buf.length ≤ memory.length) :
    (memcpy memory offset buf).length = memory.length := by
  simp only [memcpy, List.length_append, List.length_take, List.length_drop]
  omega

theorem take_memcpy {memory buf : List Byte} {offset : ℕ}
    (hinside : offset + buf.length ≤ memory.length) :
    (memcpy memory offset buf).take (offset + buf.length) =
      memory.take offset ++ buf := by
  have hlength : (memory.take offset ++ buf).length =
      offset + buf.length := by
    rw [List.length_append, List.length_take]
    omega
  exact List.take_left' hlength

namespace BufferedFlasher

/-- The bytes in use, as the chunk. -/
def view (s : BufferedFlasher) : Flasher :=
  { s.flasher with chunk :=
    { s.flasher.chunk with data := s.data.take s.receivedSize } }

def note (s : BufferedFlasher) (event : BufferEvent) : BufferedFlasher :=
  { s with log := event :: s.log }

def noteSizes (s : BufferedFlasher) : BufferedFlasher :=
  s.note (.sizes s.receivedSize s.flasher.chunk.expectedSize)

/-- A function that leaves the buffer alone may still reset `receivedSize`. -/
def become (s : BufferedFlasher) (next : Flasher) : BufferedFlasher :=
  { s with
    flasher := next
    receivedSize := next.chunk.receivedSize }.noteSizes

/-! ## The upload callbacks -/

def chunkStart (cfg : FlasherConfig) (s : BufferedFlasher) (ms : ℕ)
    (headers : FlasherHeaders) : BufferedFlasher :=
  s.become (s.view.chunkStart cfg ms headers)

def chunkWrite (cfg : FlasherConfig) (s : BufferedFlasher)
    (buf : List Byte) : BufferedFlasher :=
  let nextSize := u32 (s.receivedSize + buf.length)
  if s.flasher.chunk.state ≠ .receiving then s
  else if buf.length = 0 then s
  else if s.flasher.chunk.expectedSize < nextSize ∨
      cfg.maxChunkSize < nextSize then
    s.become (s.view.rejectChunk .invalidChunk "Chunk overflow" 400)
  else
    ({ s with
      data := memcpy s.data s.receivedSize buf
      receivedSize := nextSize }.note
        (.copy s.receivedSize buf.length)).noteSizes

def chunkEnd (s : BufferedFlasher) (ms : ℕ) (payload : List Byte) :
    BufferedFlasher :=
  s.become (s.view.chunkEnd ms payload)

def chunkAborted (s : BufferedFlasher) : BufferedFlasher :=
  s.become s.view.chunkAborted

def chunkBuffers (cfg : FlasherConfig) (s : BufferedFlasher)
    (part : UploadPart) : BufferedFlasher :=
  part.buffers.foldl (fun s buffer => s.chunkWrite cfg buffer.buf) s

def chunkPart (cfg : FlasherConfig) (ms : ℕ) (headers : FlasherHeaders)
    (s : BufferedFlasher) (part : UploadPart) : BufferedFlasher :=
  ((s.chunkStart cfg ms headers).chunkBuffers cfg part).chunkEnd ms
    part.payload

def chunkLost (cfg : FlasherConfig) (ms : ℕ) (headers : FlasherHeaders)
    (s : BufferedFlasher) (part : UploadPart) : BufferedFlasher :=
  ((s.chunkStart cfg ms headers).chunkBuffers cfg part).chunkAborted

def handleUpdateChunk (cfg : FlasherConfig) (s : BufferedFlasher) (ms : ℕ)
    (headers : FlasherHeaders) (upload : Upload) :
    BufferedFlasher × Option FlasherResponse :=
  let s := upload.parts.foldl (chunkPart cfg ms headers) s
  let s := upload.lost.elim s (chunkLost cfg ms headers s)
  if upload.answered then
    (s.become (s.view.answerChunk ms).1, some (s.view.answerChunk ms).2)
  else (s, none)

/-! ## The run loop -/

def serve (cfg : FlasherConfig) (s : BufferedFlasher) :
    Option (ℕ × FlasherRequest) → BufferedFlasher × Option FlasherResponse
  | some (ms, .updateChunk headers upload) =>
      s.handleUpdateChunk cfg ms headers upload
  | request =>
      (s.become (s.view.serve cfg request).1, (s.view.serve cfg request).2)

def serveAndAct (cfg : FlasherConfig) (s : BufferedFlasher)
    (iteration : Iteration) : BufferedFlasher :=
  let s := (s.serve cfg iteration.request).1
  s.become (s.view.executeAction iteration.env)

/-- What `Update.write` is called with, as a chunk of its session. -/
def pending (s : BufferedFlasher) : SentChunk where
  sessionId := s.flasher.chunk.sessionId
  index := s.flasher.chunk.chunkIndex
  total := s.flasher.chunk.totalChunks
  payload := s.data.take s.receivedSize

/-- `Update.write` is called. -/
def Hands (f : Flasher) : Prop :=
  f.chunk.state = .queued ∧ f.state.phase = .receiving

instance (f : Flasher) : Decidable (Hands f) :=
  inferInstanceAs (Decidable (_ ∧ _))

def processPendingChunk (s : BufferedFlasher) (env : LoopEnv) :
    BufferedFlasher :=
  let s := if Hands s.flasher then s.note (.handed s.pending) else s
  s.become (s.view.processPendingChunk env)

def finish (cfg : FlasherConfig) (s : BufferedFlasher) (env : LoopEnv) :
    BufferedFlasher :=
  let s := s.processPendingChunk env
  s.become (s.view.watchdogs cfg env)

def iterate (cfg : FlasherConfig) (s : BufferedFlasher)
    (iteration : Iteration) : BufferedFlasher :=
  if s.flasher.restarted then s
  else
    let s := s.serveAndAct cfg iteration
    if s.flasher.restarted then s else s.finish cfg iteration.env

/-- The loop is entered with the array as the program was loaded. -/
def ready (cfg : FlasherConfig) (vIdle vLoad ms : ℕ) : BufferedFlasher where
  flasher := Flasher.ready vIdle vLoad ms
  data := List.replicate cfg.maxChunkSize 0
  receivedSize := 0
  log := []

end BufferedFlasher

def Upload.allParts (upload : Upload) : List UploadPart :=
  upload.parts ++ upload.lost.toList

/-- The buffers with which the web server calls the upload handler of
`/update_chunk`. -/
def Iteration.fragments (iteration : Iteration) : List UploadBuffer :=
  match iteration.request with
  | some (_, .updateChunk _ upload) =>
      upload.allParts.flatMap UploadPart.buffers
  | _ => []

def Iteration.FragmentsFit (uploadBuflen : ℕ) (iteration : Iteration) :
    Prop :=
  ∀ buffer ∈ iteration.fragments, buffer.buf.length ≤ uploadBuflen

instance (uploadBuflen : ℕ) (iteration : Iteration) :
    Decidable (iteration.FragmentsFit uploadBuflen) :=
  inferInstanceAs (Decidable (∀ buffer ∈ _, _))

/-! ## Functions that leave the buffer alone -/

namespace Flasher

/-- The received bytes and their announced number are kept, or the chunk is
emptied. -/
def KeepsBuffer (cfg : FlasherConfig) (f next : Flasher) : Prop :=
  next.chunk.data = f.chunk.data ∧
      next.chunk.expectedSize = f.chunk.expectedSize ∨
    next.chunk.data = [] ∧ next.chunk.expectedSize ≤ cfg.maxChunkSize

variable {cfg : FlasherConfig}

theorem KeepsBuffer.of_chunk {f next : Flasher}
    (hchunk : next.chunk = f.chunk) : KeepsBuffer cfg f next := by
  rw [KeepsBuffer, hchunk]
  exact .inl ⟨rfl, rfl⟩

theorem KeepsBuffer.of_idle (f : Flasher) {next : Flasher}
    (hidle : next.chunk = .idle) : KeepsBuffer cfg f next := by
  rw [KeepsBuffer, hidle]
  exact .inr ⟨rfl, Nat.zero_le _⟩

theorem KeepsBuffer.trans {first second third : Flasher}
    (hfirst : KeepsBuffer cfg first second)
    (hsecond : KeepsBuffer cfg second third) :
    KeepsBuffer cfg first third := by
  rcases hsecond with ⟨hdata, hsize⟩ | hempty
  · rw [KeepsBuffer, hdata, hsize]
    exact hfirst
  · exact .inr hempty

theorem keepsBuffer_chunkStart (f : Flasher) (ms : ℕ)
    (headers : FlasherHeaders) :
    KeepsBuffer cfg f (f.chunkStart cfg ms headers) := by
  unfold chunkStart
  dsimp only
  split_ifs with _ _ _ _ _ hsize
  · exact .inl ⟨rfl, rfl⟩
  · exact .inl ⟨rfl, rfl⟩
  · exact .inl ⟨rfl, rfl⟩
  · exact .inl ⟨rfl, rfl⟩
  · exact .inl ⟨rfl, rfl⟩
  · exact .inl ⟨rfl, rfl⟩
  · exact .inr ⟨rfl, not_lt.mp (not_or.mp hsize).2⟩

theorem keepsBuffer_chunkEnd (f : Flasher) (ms : ℕ) (payload : List Byte) :
    KeepsBuffer cfg f (f.chunkEnd ms payload) := by
  unfold chunkEnd
  split_ifs
  · exact .inl ⟨rfl, rfl⟩
  · exact .inl ⟨rfl, rfl⟩
  · exact .inl ⟨rfl, rfl⟩

theorem keepsBuffer_answerChunk (f : Flasher) (ms : ℕ) :
    KeepsBuffer cfg f (f.answerChunk ms).1 := by
  unfold answerChunk
  dsimp only
  split <;> exact .of_chunk rfl

theorem chunk_handleUpdate (f : Flasher) (ms : ℕ)
    (headers : FlasherHeaders) (partitionSize : Option ℕ)
    (upload : Upload) :
    (f.handleUpdate ms headers partitionSize upload).1.chunk =
      f.chunk := by
  have hanswer (g : Flasher) :
      (g.answerUpdate upload.hasError).1.chunk = g.chunk := by
    unfold answerUpdate
    split <;> rfl
  have hupload : (f.legacyUploaded ms headers partitionSize
      upload).chunk = f.chunk := by
    cases hpart : upload.hasPart with
    | true =>
        exact (legacyUploaded_of_hasPart f ms headers partitionSize
          hpart).step.chunk
    | false =>
        rw [legacyUploaded_of_not_hasPart f ms headers partitionSize hpart]
  rw [handleUpdate_eq]
  split
  · exact (hanswer _).trans hupload
  · exact hupload

theorem chunk_startSession (f : Flasher) (env : LoopEnv) :
    (f.startSession env).chunk = .idle := by
  have htransition (g : Flasher) (next : FlasherPhase) :
      (g.transitionPhase next).chunk = g.chunk := by
    unfold transitionPhase
    split_ifs <;> rfl
  unfold startSession
  dsimp only
  split
  · exact htransition _ _
  · rfl

theorem chunk_executeAction (f : Flasher) (env : LoopEnv) :
    (f.executeAction env).chunk = f.chunk ∨
      (f.executeAction env).chunk = .idle := by
  cases haction : f.action with
  | none => exact .inl (by rw [executeAction_none haction])
  | abortReset => exact .inr (executeAction_abort haction env).2.2.1
  | startSession =>
      rw [executeAction, haction]
      exact .inr (chunk_startSession _ env)
  | rebootSuccess =>
      rw [executeAction, haction]
      exact .inl rfl

theorem keepsBuffer_executeAction (f : Flasher) (env : LoopEnv) :
    KeepsBuffer cfg f (f.executeAction env) := by
  rcases chunk_executeAction f env with hsame | hidle
  · exact .of_chunk hsame
  · exact .of_idle f hidle

theorem keepsBuffer_processPendingChunk (f : Flasher) (env : LoopEnv) :
    KeepsBuffer cfg f (f.processPendingChunk env) := by
  unfold processPendingChunk
  dsimp only
  split_ifs
  · exact .of_chunk rfl
  · exact .of_idle f rfl
  · exact .inl ⟨rfl, rfl⟩
  · exact .of_idle f rfl
  · exact .of_idle f rfl

theorem keepsBuffer_watchdog (f : Flasher) (fires : Bool)
    (error : FlasherError) (message : String) :
    KeepsBuffer cfg f (f.watchdog fires error message) := by
  unfold watchdog
  split
  · exact .of_idle f rfl
  · exact .of_chunk rfl

theorem keepsBuffer_batteryWatch (f : Flasher) (env : LoopEnv) :
    KeepsBuffer cfg f (f.batteryWatch cfg env) := by
  unfold batteryWatch
  dsimp only
  split_ifs <;> exact .of_chunk rfl

theorem keepsBuffer_chunkWatch (f : Flasher) (state : ChunkBufferState)
    (now timeoutMs : ℕ) (message : String) :
    KeepsBuffer cfg f (f.chunkWatch state now timeoutMs message) :=
  keepsBuffer_watchdog f _ _ _

theorem keepsBuffer_watchdogs (f : Flasher) (env : LoopEnv) :
    KeepsBuffer cfg f (f.watchdogs cfg env) := by
  have hidle : KeepsBuffer cfg f (f.idleWatch env.now) :=
    keepsBuffer_watchdog f _ _ _
  unfold watchdogs
  dsimp only
  split
  · exact hidle.trans (.of_chunk rfl)
  · have hprogress : KeepsBuffer cfg f
        ((f.idleWatch env.now).progressWatch cfg env.now) :=
      hidle.trans (keepsBuffer_watchdog _ _ _ _)
    have hreceive := hprogress.trans (keepsBuffer_chunkWatch _ .receiving
      env.now cfg.chunkReceiveTimeoutMs "Chunk receive timeout")
    have hwrite := hreceive.trans (keepsBuffer_chunkWatch _ .queued
      env.now cfg.chunkWriteTimeoutMs "Chunk write timeout")
    exact hwrite.trans (keepsBuffer_batteryWatch _ env)

/-- Only a chunk upload changes the chunk. -/
theorem chunk_serve (cfg : FlasherConfig) (f : Flasher)
    {request : Option (ℕ × FlasherRequest)}
    (hother : ∀ ms headers upload,
      request ≠ some (ms, .updateChunk headers upload)) :
    (f.serve cfg request).1.chunk = f.chunk := by
  match request with
  | none => rfl
  | some (ms, .status currentBatt) => rfl
  | some (ms, .start headers partitionSize) =>
      change (f.handleStart ms headers partitionSize).1.chunk = f.chunk
      rcases handleStart_cases f ms headers partitionSize with
        hrefused | ⟨-, hstarted⟩
      · rw [hrefused]
        rfl
      · rw [hstarted]
        rfl
  | some (ms, .abort) => rfl
  | some (ms, .root) => rfl
  | some (ms, .updateChunk headers upload) =>
      exact absurd rfl (hother ms headers upload)
  | some (ms, .update headers partitionSize upload) =>
      exact chunk_handleUpdate f ms headers partitionSize upload
  | some (ms, .notFound) => rfl

end Flasher

end SensorFirmware
