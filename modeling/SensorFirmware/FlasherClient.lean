import SensorFirmware.FlasherChunkCommit

/-!
# The documented client of the flasher

A client starts a session, polls `/status` until the flasher reports that it
receives, and then posts one chunk after the other, each after the one before
it is reported as written.  A schedule says in which iterations of the loop
its next request is served.  The phase `RECEIVING` has no text of its own, so
the client polls for ever.
-/

namespace SensorFirmware

open EventTrace

structure UploadJob where
  sessionId : ℕ
  chunks : List (List Byte)

def UploadJob.image (job : UploadJob) : List Byte := job.chunks.flatten

inductive UploadClient where
  | starting
  | polling
  | posting (index : ℕ)
  | confirming (index : ℕ)
  | done
  | refused
  deriving DecidableEq, Repr

/-- One iteration of the loop; the client's request is served if it is due. -/
structure ClientTick where
  due : Bool
  ms : ℕ
  currentBatt : ℕ
  partitionSize : ℕ
  env : LoopEnv

def decimalText (n : ℕ) : List Char := (toString n).toList

namespace UploadJob

def chunkHeaders (job : UploadJob) (index : ℕ) (payload : List Byte) :
    FlasherHeaders :=
  { Flasher.noHeaders with
    sessionId := decimalText job.sessionId
    chunkIndex := decimalText index
    totalChunks := decimalText job.chunks.length
    chunkSize := decimalText payload.length }

def chunkUpload (payload : List Byte) (update : UpdateResults) : Upload where
  parts := [⟨[⟨payload, payload.length⟩], update⟩]
  lost := none
  parsed := true
  hasError := false

def request (job : UploadJob) (tick : ClientTick) :
    UploadClient → Option FlasherRequest
  | .starting => some (.start
      { Flasher.noHeaders with
        sessionId := decimalText job.sessionId
        totalSize := decimalText job.image.length }
      (some tick.partitionSize))
  | .polling => some (.status tick.currentBatt)
  | .posting index => job.chunks[index]?.map fun payload =>
      .updateChunk (job.chunkHeaders index payload)
        (chunkUpload payload tick.env.update)
  | .confirming _ => some (.status tick.currentBatt)
  | .done => none
  | .refused => none

def afterChunk (job : UploadJob) (index : ℕ) : UploadClient :=
  if index + 1 < job.chunks.length then .posting (index + 1) else .done

/-- What the client makes of a response.  It posts its first chunk when the
reported phase is `awaited`. -/
def receive (job : UploadJob) (awaited : String) :
    UploadClient → FlasherResponse → UploadClient
  | .starting, .text code _ => if code = 200 then .polling else .refused
  | .polling, .json status =>
      if status.phase = awaited then .posting 0 else .polling
  | .posting index, .text code _ =>
      if code = 202 ∨ code = 200 then .confirming index else .posting index
  | .confirming index, .json status =>
      if index ≤ status.lastChunk then job.afterChunk index
      else .confirming index
  | client, _ => client

end UploadJob

/-- The phase that `/status` is polled for. -/
def documentedPhase : String := "RECEIVING"

structure UploadSession where
  flasher : Flasher
  client : UploadClient

namespace UploadSession

def iteration (job : UploadJob) (session : UploadSession)
    (tick : ClientTick) : Iteration where
  request := if tick.due then
      (job.request tick session.client).map fun request =>
        (tick.ms, request)
    else none
  env := tick.env

/-- After a restart nobody answers. -/
def response (cfg : FlasherConfig) (job : UploadJob)
    (session : UploadSession) (tick : ClientTick) :
    Option FlasherResponse :=
  if session.flasher.restarted then none
  else (session.flasher.serve cfg
    (session.iteration job tick).request).2

def step (cfg : FlasherConfig) (job : UploadJob) (awaited : String)
    (session : UploadSession) (tick : ClientTick) : UploadSession where
  flasher := session.flasher.iterate cfg (session.iteration job tick)
  client := (session.response cfg job tick).elim session.client
    (job.receive awaited session.client)

def start (flasher : Flasher) : UploadSession where
  flasher := flasher
  client := .starting

/-- The session after the first `n` ticks of a schedule. -/
def stateAt (cfg : FlasherConfig) (job : UploadJob) (awaited : String)
    (flasher : Flasher) (schedule : ℕ → ClientTick) : ℕ → UploadSession
  | 0 => start flasher
  | n + 1 => (stateAt cfg job awaited flasher schedule n).step cfg job
      awaited (schedule n)

/-- The bytes written since `Update.begin`, oldest first. -/
def flashed (session : UploadSession) : List Byte :=
  (writesSinceBegin session.flasher.trace).reverse.flatMap Prod.fst

structure Completed (job : UploadJob) (session : UploadSession) : Prop where
  phase : session.flasher.state.phase = .complete
  image : session.flashed = job.image
  written : session.flasher.state.written = job.image.length

instance (job : UploadJob) (session : UploadSession) :
    Decidable (session.Completed job) :=
  decidable_of_iff
    (session.flasher.state.phase = .complete ∧
      session.flashed = job.image ∧
        session.flasher.state.written = job.image.length)
    ⟨fun h => ⟨h.1, h.2.1, h.2.2⟩, fun h => ⟨h.phase, h.image, h.written⟩⟩

end UploadSession

/-! ## A flasher that is only started and polled -/

namespace Flasher

/-- No chunk waits to be written and no image is finished. -/
structure Unfed (f : Flasher) : Prop where
  slot : f.chunk.state ≠ .queued
  action : f.action = .none ∨ f.action = .startSession
  phase : f.state.phase ≠ .complete

theorem Unfed.handleStart {f : Flasher} (hf : f.Unfed) (ms : ℕ)
    (headers : FlasherHeaders) (partitionSize : Option ℕ) :
    (f.handleStart ms headers partitionSize).1.Unfed := by
  rcases handleStart_cases f ms headers partitionSize with
    hrefused | ⟨-, hstarted⟩
  · rw [hrefused]
    exact ⟨hf.slot, hf.action, hf.phase⟩
  · rw [hstarted]
    exact ⟨hf.slot, .inr rfl, hf.phase⟩

theorem phase_transitionPhase (f : Flasher) (next : FlasherPhase) :
    (f.transitionPhase next).state.phase = f.state.phase ∨
      (f.transitionPhase next).state.phase = next := by
  unfold transitionPhase
  split_ifs
  · exact .inl rfl
  · exact .inr rfl
  · exact .inl rfl

theorem transitionPhase_ne {f : Flasher} {phase next : FlasherPhase}
    (hphase : f.state.phase ≠ phase) (hnext : next ≠ phase) :
    (f.transitionPhase next).state.phase ≠ phase := by
  rcases phase_transitionPhase f next with hsame | hmoved
  · rw [hsame]
    exact hphase
  · rw [hmoved]
    exact hnext

theorem Unfed.startSession {f : Flasher} (haction : f.action = .none)
    (hphase : f.state.phase ≠ .complete) (env : LoopEnv) :
    (f.startSession env).Unfed := by
  refine ⟨?_, .inl ?_, ?_⟩
  · unfold Flasher.startSession transitionPhase
    dsimp only
    split_ifs <;> simp [PendingChunk.idle]
  · unfold Flasher.startSession transitionPhase
    dsimp only
    split_ifs <;> exact haction
  · have herasing : (f.transitionPhase .erasing).state.phase ≠ .complete :=
      transitionPhase_ne hphase (by simp)
    unfold Flasher.startSession
    dsimp only
    split
    · exact transitionPhase_ne herasing (by simp)
    · simp

theorem Unfed.executeAction {f : Flasher} (hf : f.Unfed) (env : LoopEnv) :
    (f.executeAction env).Unfed := by
  rcases hf.action with hnone | hstart
  · rw [executeAction_none hnone]
    exact hf
  · rw [Flasher.executeAction, hstart]
    apply Unfed.startSession
    · rfl
    · exact hf.phase

theorem Unfed.finish (cfg : FlasherConfig) {f : Flasher} (hf : f.Unfed)
    (env : LoopEnv) : (f.finish cfg env).Unfed := by
  have hprocess : f.processPendingChunk env = f := by
    unfold processPendingChunk
    exact if_pos hf.slot
  have hwatch := watchStep_watchdogs cfg f env
  unfold Flasher.finish
  rw [hprocess]
  refine ⟨?_, ?_, ?_⟩
  · rcases hwatch.chunk with hsame | hidle
    · rw [hsame]
      exact hf.slot
    · simp [hidle]
  · rw [hwatch.action]
    exact hf.action
  · rcases hwatch.outcome with ⟨hstate, -⟩ | ⟨-, herror, -⟩
    · rw [hstate]
      exact hf.phase
    · simp [herror]

theorem Unfed.iterate (cfg : FlasherConfig) {f : Flasher} (hf : f.Unfed)
    {iteration : Iteration}
    (hserved : (f.serve cfg iteration.request).1.Unfed) :
    (f.iterate cfg iteration).Unfed := by
  have hacted : (f.serveAndAct cfg iteration).Unfed :=
    hserved.executeAction iteration.env
  rw [iterate_eq]
  split_ifs
  · exact hf
  · exact hacted
  · exact hacted.finish cfg iteration.env

theorem unfed_ready (vIdle vLoad ms : ℕ) :
    (ready vIdle vLoad ms).Unfed := by
  refine ⟨?_, .inl rfl, ?_⟩
  · simp [ready, resetFlasherState, PendingChunk.idle]
  · simp [ready, resetFlasherState]

end Flasher

/-- The phase that the client waits for is never reported. -/
theorem FlasherPhase.toText_ne_documented (phase : FlasherPhase) :
    phase.toText ≠ documentedPhase := by
  cases phase <;> decide

namespace UploadSession

/-- The client has not posted a chunk, and the flasher has none. -/
structure Stalled (session : UploadSession) : Prop where
  flasher : session.flasher.Unfed
  client : session.client = .starting ∨ session.client = .polling ∨
    session.client = .refused

theorem Stalled.serve {session : UploadSession} (hs : session.Stalled)
    (cfg : FlasherConfig) (job : UploadJob) (tick : ClientTick) :
    (session.flasher.serve cfg
      (session.iteration job tick).request).1.Unfed := by
  obtain ⟨hf, hclient⟩ := hs
  unfold iteration
  dsimp only
  split
  · rcases hclient with hstarting | hpolling | hrefused
    · rw [hstarting]
      exact hf.handleStart _ _ _
    · rw [hpolling]
      exact ⟨hf.slot, hf.action, hf.phase⟩
    · rw [hrefused]
      exact hf
  · exact hf

theorem receive_starting (job : UploadJob) (awaited : String)
    (response : FlasherResponse) :
    job.receive awaited .starting response = .starting ∨
      job.receive awaited .starting response = .polling ∨
      job.receive awaited .starting response = .refused := by
  cases response with
  | json status => exact .inl rfl
  | text code message =>
      simp only [UploadJob.receive]
      split
      · exact .inr (.inl rfl)
      · exact .inr (.inr rfl)

/-- Whatever phase the flasher is in, its status keeps the client polling. -/
theorem receive_polling (cfg : FlasherConfig) (job : UploadJob)
    {session : UploadSession} (hpolling : session.client = .polling)
    (tick : ClientTick) :
    (session.step cfg job documentedPhase tick).client = .polling := by
  unfold step response iteration
  dsimp only
  split_ifs
  · exact hpolling
  · have htext := session.flasher.state.phase.toText_ne_documented
    simp [hpolling, UploadJob.request, Flasher.serve, Flasher.handleRequest,
      Flasher.handleStatus, UploadJob.receive, htext]
  · exact hpolling

theorem Stalled.receive {session : UploadSession} (hs : session.Stalled)
    (cfg : FlasherConfig) (job : UploadJob) (tick : ClientTick) :
    (session.step cfg job documentedPhase tick).client = .starting ∨
      (session.step cfg job documentedPhase tick).client = .polling ∨
      (session.step cfg job documentedPhase tick).client = .refused := by
  rcases hs.client with hstarting | hpolling | hrefused
  · unfold UploadSession.step
    rw [hstarting]
    cases session.response cfg job tick with
    | none => exact .inl rfl
    | some response => exact receive_starting job documentedPhase response
  · exact .inr (.inl (receive_polling cfg job hpolling tick))
  · unfold UploadSession.step
    rw [hrefused]
    cases session.response cfg job tick with
    | none => exact .inr (.inr rfl)
    | some response => exact .inr (.inr rfl)

theorem Stalled.step {session : UploadSession} (hs : session.Stalled)
    (cfg : FlasherConfig) (job : UploadJob) (tick : ClientTick) :
    (session.step cfg job documentedPhase tick).Stalled :=
  ⟨hs.flasher.iterate cfg (hs.serve cfg job tick), hs.receive cfg job tick⟩

theorem stalled_stateAt (cfg : FlasherConfig) (job : UploadJob)
    (vIdle vLoad ms : ℕ) (schedule : ℕ → ClientTick) (n : ℕ) :
    (stateAt cfg job documentedPhase (Flasher.ready vIdle vLoad ms) schedule
      n).Stalled := by
  induction n with
  | zero => exact ⟨Flasher.unfed_ready vIdle vLoad ms, .inl rfl⟩
  | succ n ih => exact ih.step cfg job (schedule n)

/-- For no image, no chunking of it and no schedule does the documented client
complete its upload. -/
theorem documented_client_never_completes (cfg : FlasherConfig)
    (job : UploadJob) (vIdle vLoad ms : ℕ) (schedule : ℕ → ClientTick) :
    ¬∃ n, (stateAt cfg job documentedPhase (Flasher.ready vIdle vLoad ms)
      schedule n).Completed job := by
  rintro ⟨n, hcompleted⟩
  have hstalled := stalled_stateAt cfg job vIdle vLoad ms schedule n
  exact hstalled.flasher.phase hcompleted.phase

def halves : UploadJob where
  sessionId := 7
  chunks := [List.replicate 512 0xE9, List.replicate 512 0]

/-- One request every 100 ms, with a library that always succeeds. -/
def steadySchedule (n : ℕ) : ClientTick where
  due := true
  ms := 1000 + 100 * n
  currentBatt := 4000
  partitionSize := 1310720
  env := Flasher.benchEnv (1000 + 100 * n) 512

/-- The session is open after one tick, and the client polls for ever. -/
theorem halves_poll_for_ever :
    (stateAt Flasher.benchConfig halves documentedPhase
        (Flasher.ready 4100 4000 500) steadySchedule
          1).flasher.state.phase = .receiving ∧
      ¬∃ n, (stateAt Flasher.benchConfig halves documentedPhase
        (Flasher.ready 4100 4000 500) steadySchedule n).Completed
          halves := by
  refine ⟨by decide +kernel, ?_⟩
  rintro ⟨n, hcompleted⟩
  have hstalled := stalled_stateAt Flasher.benchConfig halves 4100 4000 500
    steadySchedule n
  exact hstalled.flasher.phase hcompleted.phase

/-- A client that takes the default text for `RECEIVING` does complete. -/
example :
    (stateAt Flasher.benchConfig halves "UNKNOWN"
      (Flasher.ready 4100 4000 500) steadySchedule 5).Completed
        halves := by
  decide +kernel

end UploadSession

end SensorFirmware
