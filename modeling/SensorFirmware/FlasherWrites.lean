import SensorFirmware.ChunkBounds

/-!
# Where the written bytes come from

Everything that an iteration hands to `Update.write` is the body of a part
that its own request has brought.
-/

namespace SensorFirmware

open EventTrace

/-- What one call of `Update.write` may be given. -/
def Iteration.bodies (iteration : Iteration) : List (List Byte) :=
  match iteration.request with
  | some (_, .updateChunk _ upload) => upload.parts.map UploadPart.payload
  | some (_, .update _ _ upload) =>
      upload.allParts.flatMap fun part =>
        part.buffers.map UploadBuffer.buf
  | _ => []

def FlasherEvent.written? : FlasherEvent → Option (List Byte)
  | .write data _ => some data
  | _ => none

/-- The calls of `Update.write`, the newest first. -/
def updateWrites (trace : List FlasherEvent) : List (List Byte) :=
  trace.filterMap FlasherEvent.written?

theorem updateWrites_of_extends {allowed : FlasherEvent → Prop}
    {older newer : List FlasherEvent} (hext : Extends allowed older newer)
    (hquiet : ∀ event, allowed event → event.written? = none) :
    updateWrites newer = updateWrites older := by
  obtain ⟨events, rfl, hall⟩ := hext
  have hnone : updateWrites events = [] := by
    apply List.filterMap_eq_nil_iff.mpr
    exact fun event hmem => hquiet event (hall event hmem)
  rw [updateWrites, List.filterMap_append]
  exact congrArg (· ++ updateWrites older) hnone

namespace Flasher

/-- Nothing but `sources` was written in between. -/
def WritesOnly (sources : List (List Byte)) (f next : Flasher) : Prop :=
  Extends (· ∈ sources) (updateWrites f.trace) (updateWrites next.trace)

variable {sources : List (List Byte)}

theorem WritesOnly.of_eq {f next : Flasher}
    (hsame : updateWrites next.trace = updateWrites f.trace) :
    WritesOnly sources f next :=
  Extends.of_eq hsame

theorem WritesOnly.trans {first second third : Flasher}
    (hfirst : WritesOnly sources first second)
    (hsecond : WritesOnly sources second third) :
    WritesOnly sources first third :=
  Extends.trans hfirst hsecond

theorem ChunkStep.writesOnly {f next : Flasher} (hstep : ChunkStep f next) :
    WritesOnly sources f next := by
  rcases hstep.outcome with ⟨-, htrace⟩ | ⟨-, -, hext⟩
  · exact .of_eq (by rw [htrace])
  · exact .of_eq (updateWrites_of_extends hext (by rintro _ rfl; rfl))

/-! ## Legacy uploads -/

theorem updateWrites_legacyTakeOver (f : Flasher) (isRunning : Bool) :
    updateWrites (f.legacyTakeOver isRunning).trace = updateWrites f.trace := by
  unfold legacyTakeOver
  cases isRunning <;> split <;> rfl

theorem updateWrites_legacyStart (f : Flasher) (ms : ℕ)
    (headers : FlasherHeaders) (partitionSize : Option ℕ)
    (update : UpdateResults) :
    updateWrites (f.legacyStart ms headers partitionSize update).trace =
      updateWrites f.trace := by
  have htake := updateWrites_legacyTakeOver (f.touch ms) update.isRunning
  unfold legacyStart
  generalize (f.touch ms).legacyTakeOver update.isRunning = g at htake ⊢
  dsimp only
  split_ifs <;> exact htake

theorem legacyWrite_writesOnly (ms : ℕ) (update : UpdateResults)
    (f : Flasher) {buffer : UploadBuffer} (hbuf : buffer.buf ∈ sources) :
    WritesOnly sources f (legacyWrite ms update f buffer) := by
  have hwrite : Extends (· ∈ sources) (updateWrites f.trace)
      (buffer.buf :: updateWrites f.trace) :=
    (Extends.refl _).cons hbuf
  unfold legacyWrite
  dsimp only
  split_ifs
  · exact .of_eq rfl
  · exact .of_eq rfl
  · exact hwrite
  · exact hwrite

theorem updateWrites_legacyEnd (f : Flasher) (ms : ℕ) (update : UpdateResults) :
    updateWrites (f.legacyEnd ms update).trace = updateWrites f.trace := by
  unfold legacyEnd
  dsimp only
  split_ifs <;> rfl

theorem legacyBuffers_writesOnly (f : Flasher) (ms : ℕ)
    {part : UploadPart}
    (hpart : ∀ buffer ∈ part.buffers, buffer.buf ∈ sources) :
    WritesOnly sources f (f.legacyBuffers ms part) := by
  unfold legacyBuffers
  generalize part.update = update
  generalize part.buffers = buffers at hpart ⊢
  induction buffers generalizing f with
  | nil => exact .of_eq rfl
  | cons buffer buffers ih =>
      have hhere := legacyWrite_writesOnly ms update f
        (hpart buffer (.head buffers))
      exact hhere.trans (ih _ fun other hother => hpart other (.tail _ hother))

theorem legacyPart_writesOnly (ms : ℕ) (headers : FlasherHeaders)
    (partitionSize : Option ℕ) (f : Flasher) {part : UploadPart}
    (hpart : ∀ buffer ∈ part.buffers, buffer.buf ∈ sources) :
    WritesOnly sources f (legacyPart ms headers partitionSize f part) :=
  ((WritesOnly.of_eq (updateWrites_legacyStart f ms headers partitionSize
    part.update)).trans (legacyBuffers_writesOnly _ ms hpart)).trans
      (.of_eq (updateWrites_legacyEnd _ ms part.update))

theorem legacyLost_writesOnly (ms : ℕ) (headers : FlasherHeaders)
    (partitionSize : Option ℕ) (f : Flasher) {part : UploadPart}
    (hpart : ∀ buffer ∈ part.buffers, buffer.buf ∈ sources) :
    WritesOnly sources f (legacyLost ms headers partitionSize f part) :=
  ((WritesOnly.of_eq (updateWrites_legacyStart f ms headers partitionSize
    part.update)).trans (legacyBuffers_writesOnly _ ms hpart)).trans
      (.of_eq rfl)

theorem legacyUploaded_writesOnly (f : Flasher) (ms : ℕ)
    (headers : FlasherHeaders) (partitionSize : Option ℕ)
    {upload : Upload}
    (hparts : ∀ part ∈ upload.allParts, ∀ buffer ∈ part.buffers,
      buffer.buf ∈ sources) :
    WritesOnly sources f
      (f.legacyUploaded ms headers partitionSize upload) := by
  have hwhole (parts : List UploadPart) (hsub : parts ⊆ upload.allParts) :
      ∀ g : Flasher, WritesOnly sources g
        (parts.foldl (legacyPart ms headers partitionSize) g) := by
    induction parts with
    | nil => exact fun g => .of_eq rfl
    | cons part parts ih =>
        intro g
        have hhere := legacyPart_writesOnly ms headers partitionSize g
          (hparts part (hsub (.head parts)))
        exact hhere.trans
          (ih (fun other hother => hsub (.tail _ hother)) _)
  have hfirst := hwhole upload.parts (List.subset_append_left _ _) f
  unfold legacyUploaded
  dsimp only
  cases hcut : upload.lost with
  | none => exact hfirst
  | some part =>
      have hmem : part ∈ upload.allParts := by
        simp [Upload.allParts, hcut]
      exact hfirst.trans (legacyLost_writesOnly ms headers partitionSize _
        (hparts part hmem))

theorem updateWrites_answerUpdate (f : Flasher) (hasError : Bool) :
    updateWrites (f.answerUpdate hasError).1.trace = updateWrites f.trace := by
  unfold answerUpdate
  split <;> rfl

/-! ## An iteration -/

theorem handleUpdate_writesOnly (f : Flasher) (ms : ℕ)
    (headers : FlasherHeaders) (partitionSize : Option ℕ)
    {upload : Upload}
    (hparts : ∀ part ∈ upload.allParts, ∀ buffer ∈ part.buffers,
      buffer.buf ∈ sources) :
    WritesOnly sources f
      (f.handleUpdate ms headers partitionSize upload).1 := by
  have hupload := legacyUploaded_writesOnly f ms headers partitionSize hparts
  rw [handleUpdate_eq]
  split
  · exact hupload.trans (.of_eq (updateWrites_answerUpdate _ _))
  · exact hupload

/-- A legacy upload writes its own buffers; no other request writes. -/
theorem serve_writesOnly (cfg : FlasherConfig) {f : Flasher}
    (hslot : f.SlotOk) (iteration : Iteration) :
    WritesOnly iteration.bodies f (f.serve cfg iteration.request).1 := by
  obtain ⟨request, env⟩ := iteration
  match request with
  | none => exact .of_eq rfl
  | some (ms, .status currentBatt) => exact .of_eq rfl
  | some (ms, .start headers partitionSize) =>
      change WritesOnly _ f (f.handleStart ms headers partitionSize).1
      rcases handleStart_cases f ms headers partitionSize with
        hrefused | ⟨-, hstarted⟩
      · rw [hrefused]
        exact .of_eq rfl
      · rw [hstarted]
        exact .of_eq rfl
  | some (ms, .abort) => exact .of_eq rfl
  | some (ms, .root) => exact .of_eq rfl
  | some (ms, .updateChunk headers upload) =>
      exact (handleUpdateChunk_spec cfg hslot ms headers
        upload).1.writesOnly
  | some (ms, .update headers partitionSize upload) =>
      apply handleUpdate_writesOnly f ms headers partitionSize
      intro part hmem buffer hbuffer
      exact List.mem_flatMap.mpr
        ⟨part, hmem, List.mem_map_of_mem hbuffer⟩
  | some (ms, .notFound) => exact .of_eq rfl

theorem updateWrites_transitionPhase (f : Flasher) (next : FlasherPhase) :
    updateWrites (f.transitionPhase next).trace = updateWrites f.trace := by
  unfold transitionPhase
  split_ifs <;> rfl

theorem updateWrites_startSession (f : Flasher) (env : LoopEnv) :
    updateWrites (f.startSession env).trace = updateWrites f.trace := by
  unfold startSession
  dsimp only
  split
  · exact (updateWrites_transitionPhase _ _).trans
      (updateWrites_transitionPhase f .erasing)
  · exact updateWrites_transitionPhase f .erasing

theorem updateWrites_executeAction (f : Flasher) (env : LoopEnv) :
    updateWrites (f.executeAction env).trace = updateWrites f.trace := by
  cases haction : f.action with
  | none => rw [executeAction_none haction]
  | abortReset =>
      rw [executeAction, haction]
      cases env.update.isRunning <;> rfl
  | startSession =>
      rw [executeAction, haction]
      exact updateWrites_startSession _ env
  | rebootSuccess =>
      rw [executeAction, haction]
      rfl

theorem updateWrites_commitUpdate (f : Flasher) (endOk : Bool) :
    updateWrites (f.commitUpdate endOk).trace = updateWrites f.trace := by
  have hverify := updateWrites_transitionPhase f .verifying
  unfold commitUpdate
  cases endOk with
  | false => exact hverify
  | true => exact (updateWrites_transitionPhase _ _).trans hverify

theorem processPendingChunk_writesOnly {f : Flasher} (env : LoopEnv)
    (hqueued : f.chunk.state = .queued → f.chunk.data ∈ sources) :
    WritesOnly sources f (f.processPendingChunk env) := by
  unfold processPendingChunk
  by_cases hstate : f.chunk.state = .queued
  · have hwrite : WritesOnly sources f (f.writeChunk.advanceSession env) :=
      (Extends.refl _).cons (hqueued hstate)
    rw [if_neg (not_not.mpr hstate)]
    dsimp only
    split_ifs
    · exact .of_eq rfl
    · exact hwrite
    · exact hwrite.trans (.of_eq (updateWrites_commitUpdate _ _))
    · exact hwrite
  · rw [if_pos hstate]
    exact .of_eq rfl

theorem WatchStep.writesOnly {f next : Flasher} (hstep : WatchStep f next) :
    WritesOnly sources f next := by
  rcases hstep.outcome with ⟨-, htrace⟩ | ⟨-, -, hext⟩
  · exact .of_eq (by rw [htrace])
  · exact .of_eq (updateWrites_of_extends hext (by rintro _ (rfl | rfl) <;> rfl))

theorem announced_payload (iteration : Iteration) {chunk : SentChunk}
    (hmem : chunk ∈ iteration.announced) :
    chunk.payload ∈ iteration.bodies := by
  obtain ⟨request, env⟩ := iteration
  unfold Iteration.announced Iteration.bodies at *
  dsimp only at hmem ⊢
  split at hmem
  · obtain ⟨part, hpart, rfl⟩ := List.mem_map.mp hmem
    exact List.mem_map_of_mem hpart
  · cases hmem

theorem Coherent.iterate_writesOnly (cfg : FlasherConfig) {f : Flasher}
    (hcoherent : f.Coherent) (iteration : Iteration) :
    WritesOnly iteration.bodies f (f.iterate cfg iteration) := by
  by_cases hrestarted : f.restarted = true
  · rw [iterate_eq, if_pos hrestarted]
    exact .of_eq rfl
  · have hlive : f.restarted = false := by simpa using hrestarted
    obtain ⟨hreceiving, hqueued⟩ := hcoherent.slot hlive
    have hserved := serve_writesOnly cfg (hcoherent.slotOk hlive) iteration
    have hacted : WritesOnly iteration.bodies f
        (f.serveAndAct cfg iteration) :=
      hserved.trans (.of_eq (updateWrites_executeAction _ iteration.env))
    have hfrom := (slotFrom_serve cfg hreceiving hqueued
      iteration).executeAction iteration.env
    rcases iterate_cases cfg hlive iteration with
      ⟨-, hiterate⟩ | ⟨-, hiterate⟩
    · rw [hiterate]
      exact hacted
    · have hprocessed : WritesOnly iteration.bodies
          (f.serveAndAct cfg iteration)
          ((f.serveAndAct cfg iteration).processPendingChunk
            iteration.env) :=
        processPendingChunk_writesOnly iteration.env
          fun hstate => announced_payload iteration (hfrom hstate)
      have hwatched := watchStep_watchdogs cfg
        ((f.serveAndAct cfg iteration).processPendingChunk iteration.env)
        iteration.env
      rw [hiterate]
      exact (hacted.trans hprocessed).trans hwatched.writesOnly

end Flasher

end SensorFirmware
