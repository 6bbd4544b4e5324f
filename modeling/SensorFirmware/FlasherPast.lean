import SensorFirmware.FlasherIteration

/-!
# The flasher does not read its trace

The trace is a ghost: with another past, every function does the same and adds
the same events.
-/

namespace SensorFirmware

namespace Flasher

/-- The same device with events before those of its trace. -/
def resume (past : List FlasherEvent) (f : Flasher) : Flasher :=
  { f with trace := f.trace ++ past }

variable (past : List FlasherEvent) (f : Flasher)

/-! ## Requests -/

theorem handleStart_resume (ms : ℕ) (headers : FlasherHeaders)
    (partitionSize : Option ℕ) :
    (f.resume past).handleStart ms headers partitionSize =
      ((f.handleStart ms headers partitionSize).1.resume past,
        (f.handleStart ms headers partitionSize).2) := by
  unfold handleStart
  dsimp only [resume, touch]
  split_ifs
  · rfl
  · rfl
  · rfl
  · rfl
  · rfl
  · rfl
  · cases partitionSize with
    | none => rfl
    | some size =>
        dsimp only
        split_ifs <;> rfl

theorem chunkStart_resume (cfg : FlasherConfig) (ms : ℕ)
    (headers : FlasherHeaders) :
    (f.resume past).chunkStart cfg ms headers =
      (f.chunkStart cfg ms headers).resume past := by
  unfold chunkStart
  dsimp only
  simp only [apply_ite (resume past)]
  rfl

theorem chunkWrite_resume (cfg : FlasherConfig) (buf : List Byte) :
    (f.resume past).chunkWrite cfg buf =
      (f.chunkWrite cfg buf).resume past := by
  unfold chunkWrite
  dsimp only
  simp only [apply_ite (resume past)]
  rfl

theorem chunkEnd_resume (ms : ℕ) (payload : List Byte) :
    (f.resume past).chunkEnd ms payload =
      (f.chunkEnd ms payload).resume past := by
  unfold chunkEnd
  dsimp only
  simp only [apply_ite (resume past)]
  rfl

theorem chunkBuffers_resume (cfg : FlasherConfig) (part : UploadPart) :
    (f.resume past).chunkBuffers cfg part =
      (f.chunkBuffers cfg part).resume past := by
  unfold chunkBuffers
  exact List.foldl_hom (resume past) fun g buffer =>
    chunkWrite_resume past g cfg buffer.buf

theorem chunkPart_resume (cfg : FlasherConfig) (ms : ℕ)
    (headers : FlasherHeaders) (part : UploadPart) :
    chunkPart cfg ms headers (f.resume past) part =
      (chunkPart cfg ms headers f part).resume past := by
  unfold chunkPart
  rw [chunkStart_resume, chunkBuffers_resume, chunkEnd_resume]

theorem chunkLost_resume (cfg : FlasherConfig) (ms : ℕ)
    (headers : FlasherHeaders) (part : UploadPart) :
    chunkLost cfg ms headers (f.resume past) part =
      (chunkLost cfg ms headers f part).resume past := by
  unfold chunkLost
  rw [chunkStart_resume, chunkBuffers_resume]
  rfl

theorem answerChunk_resume (ms : ℕ) :
    (f.resume past).answerChunk ms =
      ((f.answerChunk ms).1.resume past, (f.answerChunk ms).2) := by
  unfold answerChunk
  dsimp only [resume, touch]
  split_ifs <;> rfl

theorem handleUpdateChunk_resume (cfg : FlasherConfig) (ms : ℕ)
    (headers : FlasherHeaders) (upload : Upload) :
    (f.resume past).handleUpdateChunk cfg ms headers upload =
      ((f.handleUpdateChunk cfg ms headers upload).1.resume past,
        (f.handleUpdateChunk cfg ms headers upload).2) := by
  have hparts : upload.parts.foldl (chunkPart cfg ms headers)
      (f.resume past) =
        (upload.parts.foldl (chunkPart cfg ms headers) f).resume past :=
    List.foldl_hom (resume past) fun g part =>
      chunkPart_resume past g cfg ms headers part
  unfold handleUpdateChunk
  rw [hparts]
  cases upload.lost with
  | none =>
      dsimp only [Option.elim_none]
      rw [answerChunk_resume]
      split <;> rfl
  | some part =>
      dsimp only [Option.elim_some]
      rw [chunkLost_resume, answerChunk_resume]
      split <;> rfl

theorem legacyTakeOver_resume (isRunning : Bool) :
    (f.resume past).legacyTakeOver isRunning =
      (f.legacyTakeOver isRunning).resume past := by
  unfold legacyTakeOver
  cases isRunning with
  | false =>
      simp only [apply_ite (resume past)]
      rfl
  | true =>
      simp only [apply_ite (resume past)]
      rfl

theorem legacyStart_resume (ms : ℕ) (headers : FlasherHeaders)
    (partitionSize : Option ℕ) (update : UpdateResults) :
    (f.resume past).legacyStart ms headers partitionSize update =
      (f.legacyStart ms headers partitionSize update).resume past := by
  have htake : ((f.resume past).touch ms).legacyTakeOver
      update.isRunning =
        ((f.touch ms).legacyTakeOver update.isRunning).resume past :=
    legacyTakeOver_resume past (f.touch ms) update.isRunning
  unfold legacyStart
  rw [htake]
  generalize (f.touch ms).legacyTakeOver update.isRunning = g
  dsimp only
  simp only [apply_ite (resume past)]
  rfl

theorem legacyWrite_resume (ms : ℕ) (update : UpdateResults)
    (buffer : UploadBuffer) :
    legacyWrite ms update (f.resume past) buffer =
      (legacyWrite ms update f buffer).resume past := by
  unfold legacyWrite
  dsimp only
  simp only [apply_ite (resume past)]
  rfl

theorem legacyEnd_resume (ms : ℕ) (update : UpdateResults) :
    (f.resume past).legacyEnd ms update =
      (f.legacyEnd ms update).resume past := by
  unfold legacyEnd
  dsimp only
  simp only [apply_ite (resume past)]
  rfl

theorem legacyBuffers_resume (ms : ℕ) (part : UploadPart) :
    (f.resume past).legacyBuffers ms part =
      (f.legacyBuffers ms part).resume past := by
  unfold legacyBuffers
  exact List.foldl_hom (resume past) fun g buffer =>
    legacyWrite_resume past g ms part.update buffer

theorem legacyPart_resume (ms : ℕ) (headers : FlasherHeaders)
    (partitionSize : Option ℕ) (part : UploadPart) :
    legacyPart ms headers partitionSize (f.resume past) part =
      (legacyPart ms headers partitionSize f part).resume past := by
  unfold legacyPart
  rw [legacyStart_resume, legacyBuffers_resume, legacyEnd_resume]

theorem legacyLost_resume (ms : ℕ) (headers : FlasherHeaders)
    (partitionSize : Option ℕ) (part : UploadPart) :
    legacyLost ms headers partitionSize (f.resume past) part =
      (legacyLost ms headers partitionSize f part).resume past := by
  unfold legacyLost
  rw [legacyStart_resume, legacyBuffers_resume]
  rfl

theorem legacyUploaded_resume (ms : ℕ) (headers : FlasherHeaders)
    (partitionSize : Option ℕ) (upload : Upload) :
    (f.resume past).legacyUploaded ms headers partitionSize upload =
      (f.legacyUploaded ms headers partitionSize upload).resume past := by
  have hparts : upload.parts.foldl (legacyPart ms headers partitionSize)
      (f.resume past) =
        (upload.parts.foldl (legacyPart ms headers partitionSize) f).resume
          past :=
    List.foldl_hom (resume past) fun g part =>
      legacyPart_resume past g ms headers partitionSize part
  unfold legacyUploaded
  rw [hparts]
  cases upload.lost with
  | none => rfl
  | some part => exact legacyLost_resume past _ ms headers partitionSize part

theorem answerUpdate_resume (hasError : Bool) :
    (f.resume past).answerUpdate hasError =
      ((f.answerUpdate hasError).1.resume past,
        (f.answerUpdate hasError).2) := by
  have hstate : (f.resume past).state = f.state := rfl
  unfold answerUpdate
  rw [hstate]
  split_ifs <;> rfl

theorem handleUpdate_resume (ms : ℕ) (headers : FlasherHeaders)
    (partitionSize : Option ℕ) (upload : Upload) :
    (f.resume past).handleUpdate ms headers partitionSize upload =
      ((f.handleUpdate ms headers partitionSize upload).1.resume past,
        (f.handleUpdate ms headers partitionSize upload).2) := by
  have huploaded :=
    legacyUploaded_resume past f ms headers partitionSize upload
  unfold legacyUploaded at huploaded
  unfold handleUpdate
  dsimp only at huploaded ⊢
  rw [huploaded, answerUpdate_resume]
  split <;> rfl

theorem serve_resume (cfg : FlasherConfig)
    (request : Option (ℕ × FlasherRequest)) :
    (f.resume past).serve cfg request =
      ((f.serve cfg request).1.resume past, (f.serve cfg request).2) := by
  match request with
  | none => rfl
  | some (ms, .status currentBatt) => rfl
  | some (ms, .start headers partitionSize) =>
      simp only [serve, handleRequest, handleStart_resume]
  | some (ms, .abort) => rfl
  | some (ms, .root) => rfl
  | some (ms, .updateChunk headers upload) =>
      exact handleUpdateChunk_resume past f cfg ms headers upload
  | some (ms, .update headers partitionSize upload) =>
      exact handleUpdate_resume past f ms headers partitionSize upload
  | some (ms, .notFound) => rfl

/-! ## The run loop -/

theorem transitionPhase_resume (next : FlasherPhase) :
    (f.resume past).transitionPhase next =
      (f.transitionPhase next).resume past := by
  unfold transitionPhase
  simp only [apply_ite (resume past)]
  rfl

theorem resetFlasherState_resume (isRunning : Bool) (ms : ℕ) :
    (f.resume past).resetFlasherState isRunning ms =
      (f.resetFlasherState isRunning ms).resume past := by
  cases isRunning <;> rfl

theorem startSession_resume (env : LoopEnv) :
    (f.resume past).startSession env =
      (f.startSession env).resume past := by
  unfold startSession
  rw [transitionPhase_resume]
  generalize f.transitionPhase .erasing = g
  cases hbegin : env.update.beginOk with
  | false => rfl
  | true =>
      by_cases hsame : g.state.phase = .receiving
      · simp [transitionPhase, hsame, resume]
      · by_cases hallowed : isTransitionAllowed g.state.phase .receiving
        · simp [transitionPhase, hsame, hallowed, resume]
        · simp [transitionPhase, hsame, hallowed, resume]

theorem executeAction_resume (env : LoopEnv) :
    (f.resume past).executeAction env =
      (f.executeAction env).resume past := by
  have hexecuted (action : FlasherAction) :
      ({ f.resume past with action := .none } : Flasher).note
          (.execute action) =
        (({ f with action := .none } : Flasher).note
          (.execute action)).resume past := rfl
  have haction : (f.resume past).action = f.action := rfl
  unfold executeAction
  rw [haction]
  cases f.action with
  | none => rfl
  | abortReset =>
      dsimp only
      rw [hexecuted, resetFlasherState_resume]
  | startSession =>
      dsimp only
      rw [hexecuted, startSession_resume]
  | rebootSuccess => rfl

theorem commitUpdate_resume (endOk : Bool) :
    (f.resume past).commitUpdate endOk =
      (f.commitUpdate endOk).resume past := by
  unfold commitUpdate
  rw [transitionPhase_resume]
  generalize f.transitionPhase .verifying = g
  cases endOk with
  | false => rfl
  | true =>
      have hcomplete := transitionPhase_resume past
        ((g.note (.finish .chunks true)).setMessage "Success. Rebooting.")
        .complete
      exact congrArg (fun h => h.schedule .rebootSuccess) hcomplete

theorem processPendingChunk_resume (env : LoopEnv) :
    (f.resume past).processPendingChunk env =
      (f.processPendingChunk env).resume past := by
  have hwrite : (f.resume past).writeChunk = f.writeChunk.resume past := rfl
  have hadvance (g : Flasher) : (g.resume past).advanceSession env =
      (g.advanceSession env).resume past := rfl
  have hchunk (g : Flasher) : (g.resume past).chunk = g.chunk := rfl
  unfold processPendingChunk
  dsimp only
  rw [hwrite, hadvance, commitUpdate_resume, hchunk, hchunk, hchunk]
  by_cases hfinal : isFinalChunk (f.writeChunk.advanceSession env).chunk
  · simp only [hfinal, if_true, apply_ite (resume past)]
    rfl
  · simp only [hfinal, apply_ite (resume past)]
    rfl

theorem watchdog_resume (fires : Bool) (error : FlasherError)
    (message : String) :
    (f.resume past).watchdog fires error message =
      (f.watchdog fires error message).resume past := by
  cases fires <;> rfl

theorem batteryWatch_resume (cfg : FlasherConfig) (env : LoopEnv) :
    (f.resume past).batteryWatch cfg env =
      (f.batteryWatch cfg env).resume past := by
  unfold batteryWatch
  dsimp only
  simp only [apply_ite (resume past)]
  rfl

theorem watchdogs_resume (cfg : FlasherConfig) (env : LoopEnv) :
    (f.resume past).watchdogs cfg env =
      (f.watchdogs cfg env).resume past := by
  have hidle : (f.resume past).idleWatch env.now =
      (f.idleWatch env.now).resume past := watchdog_resume past f _ _ _
  have hprogress (g : Flasher) : (g.resume past).progressWatch cfg env.now =
      (g.progressWatch cfg env.now).resume past :=
    watchdog_resume past g _ _ _
  have hchunk (g : Flasher) (state : ChunkBufferState) (timeoutMs : ℕ)
      (message : String) :
      (g.resume past).chunkWatch state env.now timeoutMs message =
        (g.chunkWatch state env.now timeoutMs message).resume past :=
    watchdog_resume past g _ _ _
  unfold watchdogs
  dsimp only
  rw [hidle, hprogress, hchunk, hchunk, batteryWatch_resume]
  simp only [apply_ite (resume past)]
  rfl

theorem finish_resume (cfg : FlasherConfig) (env : LoopEnv) :
    (f.resume past).finish cfg env = (f.finish cfg env).resume past := by
  unfold finish
  rw [processPendingChunk_resume, watchdogs_resume]

theorem iterate_resume (cfg : FlasherConfig) (iteration : Iteration) :
    (f.resume past).iterate cfg iteration =
      (f.iterate cfg iteration).resume past := by
  have hacted : (f.resume past).serveAndAct cfg iteration =
      (f.serveAndAct cfg iteration).resume past := by
    unfold serveAndAct
    rw [serve_resume, executeAction_resume]
  rw [iterate_eq, iterate_eq, hacted, finish_resume]
  simp only [apply_ite (resume past)]
  rfl

end Flasher

end SensorFirmware
