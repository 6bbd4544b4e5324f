import SensorFirmware.FlasherIteration
import SensorFirmware.GuardedRun

/-!
# Rejected chunks

While a session is being received the chunk slot is empty between two
iterations.  A chunk that the handler rejects for its headers, its size or its
body fails the whole session; only a part that the connection loses, after
headers that were accepted, leaves the session as it was.
-/

namespace SensorFirmware

open EventTrace GuardedRun

/-! ## The slot of a session being received -/

namespace Flasher

def SlotEmpty (f : Flasher) : Prop :=
  f.chunk = .idle ∧ f.sent = none

/-- In phase `RECEIVING` nothing is left of an earlier chunk. -/
def SlotClean (f : Flasher) : Prop :=
  f.state.phase = .receiving →
    f.SlotEmpty ∨ f.chunk.state = .receiving ∨ f.chunk.state = .queued

theorem SlotClean.of_phase {f : Flasher} (hphase : f.state.phase ≠ .receiving) :
    f.SlotClean :=
  fun hreceiving => absurd hreceiving hphase

theorem SlotEmpty.clean {f : Flasher} (hempty : f.SlotEmpty) : f.SlotClean :=
  fun _ => .inl hempty

theorem slotClean_chunkStart (cfg : FlasherConfig) {f : Flasher}
    (hclean : f.SlotClean) (ms : ℕ) (headers : FlasherHeaders) :
    (f.chunkStart cfg ms headers).SlotClean := by
  unfold chunkStart
  dsimp only
  split_ifs
  · exact hclean
  · exact hclean
  · exact .of_phase (by simp)
  · exact .of_phase (by simp)
  · exact hclean
  · exact .of_phase (by simp)
  · exact fun _ => .inr (.inl rfl)

theorem slotClean_chunkWrite (cfg : FlasherConfig) {f : Flasher}
    (hclean : f.SlotClean) (buf : List Byte) :
    (f.chunkWrite cfg buf).SlotClean := by
  unfold chunkWrite
  dsimp only
  split_ifs with hstate hempty hover
  · exact hclean
  · exact hclean
  · exact .of_phase (by simp)
  · exact fun _ => .inr (.inl (not_not.mp hstate))

theorem slotClean_chunkBuffers (cfg : FlasherConfig) {f : Flasher}
    (hclean : f.SlotClean) (part : UploadPart) :
    (f.chunkBuffers cfg part).SlotClean := by
  unfold chunkBuffers
  induction part.buffers generalizing f with
  | nil => exact hclean
  | cons buffer buffers ih => exact ih (slotClean_chunkWrite cfg hclean _)

theorem slotClean_chunkEnd {f : Flasher} (hclean : f.SlotClean) (ms : ℕ)
    (payload : List Byte) : (f.chunkEnd ms payload).SlotClean := by
  unfold chunkEnd
  split_ifs
  · exact hclean
  · exact .of_phase (by simp)
  · exact fun _ => .inr (.inr rfl)

theorem slotEmpty_chunkAborted (f : Flasher) : f.chunkAborted.SlotEmpty :=
  ⟨rfl, rfl⟩

theorem slotClean_handleUpdateChunk (cfg : FlasherConfig) {f : Flasher}
    (hclean : f.SlotClean) (ms : ℕ) (headers : FlasherHeaders)
    (upload : Upload) :
    (f.handleUpdateChunk cfg ms headers upload).1.SlotClean := by
  have hparts : (upload.parts.foldl (chunkPart cfg ms headers) f).SlotClean := by
    induction upload.parts generalizing f with
    | nil => exact hclean
    | cons part parts ih =>
        apply ih
        have hstart := slotClean_chunkStart cfg hclean ms headers
        have hbuffers := slotClean_chunkBuffers cfg hstart part
        exact slotClean_chunkEnd hbuffers ms part.payload
  have hlost : ∀ g : Flasher, g.SlotClean →
      (upload.lost.elim g (chunkLost cfg ms headers g)).SlotClean := by
    intro g hg
    cases upload.lost with
    | none => exact hg
    | some part => exact (slotEmpty_chunkAborted _).clean
  have hlast := hlost _ hparts
  unfold handleUpdateChunk answerChunk
  dsimp only
  split
  · split
    · exact hlast
    · exact hlast
  · exact hlast

theorem slotClean_answerUpdate {f : Flasher} (hclean : f.SlotClean)
    (hasError : Bool) : (f.answerUpdate hasError).1.SlotClean := by
  rcases answerUpdate_spec f hasError with ⟨-, hsame⟩ | ⟨-, hreport⟩
  · rw [hsame]
    exact hclean
  · exact .of_phase (by simp [hreport.phase])

theorem Settled.slotClean {f : Flasher} (hsettled : f.Settled) :
    f.SlotClean := by
  rcases hsettled with herror | ⟨hverifying, -⟩
  · exact .of_phase (by simp [herror])
  · exact .of_phase (by simp [hverifying])

theorem slotClean_handleUpdate {f : Flasher} (hclean : f.SlotClean) (ms : ℕ)
    (headers : FlasherHeaders) (partitionSize : Option ℕ)
    (upload : Upload) :
    (f.handleUpdate ms headers partitionSize upload).1.SlotClean := by
  have huploaded :
      (f.legacyUploaded ms headers partitionSize upload).SlotClean := by
    cases hpart : upload.hasPart with
    | false =>
        rw [legacyUploaded_of_not_hasPart f ms headers partitionSize hpart]
        exact hclean
    | true =>
        exact (legacyUploaded_of_hasPart f ms headers partitionSize
          hpart).settled.slotClean
  rw [handleUpdate_eq]
  split
  · exact slotClean_answerUpdate huploaded upload.hasError
  · exact huploaded

theorem slotClean_serve (cfg : FlasherConfig) {f : Flasher}
    (hclean : f.SlotClean) (request : Option (ℕ × FlasherRequest)) :
    (f.serve cfg request).1.SlotClean := by
  match request with
  | none => exact hclean
  | some (ms, .status _) => exact hclean
  | some (ms, .start headers partitionSize) =>
      show (f.handleStart ms headers partitionSize).1.SlotClean
      rcases handleStart_cases f ms headers partitionSize with
        hrefused | ⟨-, hstarted⟩
      · rw [hrefused]
        exact hclean
      · rw [hstarted]
        exact hclean
  | some (ms, .abort) => exact hclean
  | some (ms, .root) => exact hclean
  | some (ms, .updateChunk headers upload) =>
      exact slotClean_handleUpdateChunk cfg hclean ms headers upload
  | some (ms, .update headers partitionSize upload) =>
      exact slotClean_handleUpdate hclean ms headers partitionSize upload
  | some (ms, .notFound) => exact hclean

theorem slotClean_startSession (f : Flasher) (env : LoopEnv) :
    (f.startSession env).SlotClean := by
  apply SlotEmpty.clean
  unfold startSession transitionPhase
  dsimp only
  split_ifs <;> exact ⟨rfl, rfl⟩

theorem slotClean_executeAction {f : Flasher} (hclean : f.SlotClean)
    (env : LoopEnv) : (f.executeAction env).SlotClean := by
  cases haction : f.action with
  | none =>
      rw [executeAction_none haction]
      exact hclean
  | abortReset =>
      obtain ⟨-, -, -, hphase, -⟩ := executeAction_abort haction env
      exact .of_phase (by simp [hphase])
  | startSession =>
      rw [executeAction, haction]
      exact slotClean_startSession _ env
  | rebootSuccess =>
      rw [executeAction, haction]
      exact hclean

/-- `QUEUED` never survives the write, so what is left is an empty slot or a
failed session. -/
theorem slotClean_processPendingChunk {f : Flasher} (hclean : f.SlotClean)
    (env : LoopEnv) : (f.processPendingChunk env).SlotClean := by
  unfold processPendingChunk
  dsimp only
  split_ifs
  · exact hclean
  · exact SlotEmpty.clean ⟨rfl, rfl⟩
  · exact .of_phase (by simp [failUpdate])
  · exact SlotEmpty.clean ⟨rfl, rfl⟩
  · exact SlotEmpty.clean ⟨rfl, rfl⟩

theorem slotClean_watchdog {f : Flasher} (hclean : f.SlotClean)
    (fires : Bool) (error : FlasherError) (message : String) :
    (f.watchdog fires error message).SlotClean := by
  unfold watchdog
  split
  · exact SlotEmpty.clean ⟨rfl, rfl⟩
  · exact hclean

theorem slotClean_batteryWatch (cfg : FlasherConfig) {f : Flasher}
    (hclean : f.SlotClean) (env : LoopEnv) :
    (f.batteryWatch cfg env).SlotClean := by
  unfold batteryWatch
  dsimp only
  split_ifs
  · exact .of_phase (by simp)
  · exact hclean
  · exact hclean

theorem slotClean_watchdogs (cfg : FlasherConfig) {f : Flasher}
    (hclean : f.SlotClean) (env : LoopEnv) :
    (f.watchdogs cfg env).SlotClean := by
  have hidle : (f.idleWatch env.now).SlotClean :=
    slotClean_watchdog hclean _ _ _
  unfold watchdogs
  dsimp only
  split
  · exact hidle
  · have hprogress := slotClean_watchdog hidle
      ((f.idleWatch env.now).state.phase == .receiving &&
        (f.idleWatch env.now).state.uploadStarted &&
        0 < (f.idleWatch env.now).state.lastProgressMs &&
        cfg.progressTimeoutMs <
          sub32 env.now (f.idleWatch env.now).state.lastProgressMs)
      .timeoutProgress "Upload stalled"
    apply slotClean_batteryWatch
    apply slotClean_watchdog
    apply slotClean_watchdog
    exact hprogress

/-- What holds between two iterations. -/
structure Settable (f : Flasher) : Prop where
  coherent : f.Coherent
  clean : f.SlotClean

theorem Settable.iterate (cfg : FlasherConfig) {f : Flasher}
    (hf : f.Settable) (iteration : Iteration) :
    (f.iterate cfg iteration).Settable := by
  refine ⟨hf.coherent.iterate cfg iteration, ?_⟩
  have hacted : (f.serveAndAct cfg iteration).SlotClean :=
    slotClean_executeAction
      (slotClean_serve cfg hf.clean iteration.request) iteration.env
  rw [iterate_eq]
  split_ifs
  · exact hf.clean
  · exact hacted
  · have hprocessed :=
      slotClean_processPendingChunk hacted iteration.env
    exact slotClean_watchdogs cfg hprocessed iteration.env

theorem settable_run (cfg : FlasherConfig) (vIdle vLoad ms : ℕ)
    (iterations : List Iteration) :
    (run (iterate cfg) (ready vIdle vLoad ms) iterations).Settable := by
  have hinit : (ready vIdle vLoad ms).Settable :=
    ⟨coherent_ready vIdle vLoad ms,
      .of_phase (by simp [ready, resetFlasherState])⟩
  exact invariant_run' (fun _ iteration hf => hf.iterate cfg iteration)
    iterations hinit

theorem Settable.slotEmpty {f : Flasher} (hf : f.Settable)
    (hlive : f.restarted = false) (hphase : f.state.phase = .receiving) :
    f.SlotEmpty := by
  obtain ⟨hreceiving, hqueued⟩ := hf.coherent.slot hlive
  rcases hf.clean hphase with hempty | hstate | hstate
  · exact hempty
  · exact absurd hstate hreceiving
  · exact absurd hstate hqueued

theorem Settable.action {f : Flasher} (hf : f.Settable)
    (hlive : f.restarted = false) (hphase : f.state.phase = .receiving) :
    f.action = .none := by
  rcases hf.coherent.live hlive with hresting | hsucceeded
  · exact hresting.action
  · have hcomplete := hsucceeded.phase
    rw [hphase] at hcomplete
    cases hcomplete

/-! ## The checks of a chunk -/

def missingHeaders (headers : FlasherHeaders) : Bool :=
  headers.sessionId.isEmpty || headers.chunkIndex.isEmpty ||
    headers.totalChunks.isEmpty

def ValidSize (cfg : FlasherConfig) (headers : FlasherHeaders) : Prop :=
  0 < chunkExpectedSize headers ∧
    chunkExpectedSize headers ≤ cfg.maxChunkSize

/-- The headers are of a new chunk of the session, with a size that fits. -/
structure Admits (cfg : FlasherConfig) (f : Flasher)
    (headers : FlasherHeaders) : Prop where
  present : missingHeaders headers = false
  session : strtoul headers.sessionId = f.state.sessionId
  newer : f.state.lastChunkIndex < strtol headers.chunkIndex
  size : ValidSize cfg headers

/-- The part is rejected: headers are missing, or the session is another one,
or the chunk is new but its size is invalid or not that of the body. -/
def Rejected (cfg : FlasherConfig) (f : Flasher)
    (headers : FlasherHeaders) (part : UploadPart) : Prop :=
  missingHeaders headers = true ∨
    strtoul headers.sessionId ≠ f.state.sessionId ∨
    f.state.lastChunkIndex < strtol headers.chunkIndex ∧
      (¬ValidSize cfg headers ∨
        part.payload.length ≠ chunkExpectedSize headers)

def firstPart (upload : Upload) : Option UploadPart :=
  upload.parts.head?.or upload.lost

/-- The connection is lost in the only part, after headers that were accepted
and no more bytes than they announced. -/
structure CutShort (cfg : FlasherConfig) (f : Flasher)
    (headers : FlasherHeaders) (upload : Upload) (part : UploadPart) :
    Prop where
  lost : upload.parts = []
  admits : f.Admits cfg headers
  fits : part.payload.length ≤ chunkExpectedSize headers

/-- The slot as the headers set it up. -/
def openSlot (f : Flasher) (ms : ℕ) (headers : FlasherHeaders) : Flasher :=
  { (f.touch ms).setChunkResponse 202 "Chunk queued" with chunk := {
      state := .receiving
      sessionId := strtoul headers.sessionId
      chunkIndex := strtol headers.chunkIndex
      totalChunks := strtol headers.totalChunks
      expectedSize := chunkExpectedSize headers
      data := []
      startMs := ms } }

theorem chunkStart_admitted {cfg : FlasherConfig} {f : Flasher}
    {headers : FlasherHeaders} (hempty : f.SlotEmpty)
    (hphase : f.state.phase = .receiving) (hadmits : f.Admits cfg headers)
    (ms : ℕ) : f.chunkStart cfg ms headers = f.openSlot ms headers := by
  have hidle : f.chunk.state = .idle := by
    rw [hempty.1]
    rfl
  have hpresent : (headers.sessionId.isEmpty || headers.chunkIndex.isEmpty ||
      headers.totalChunks.isEmpty) = false := hadmits.present
  have hsession : f.state.sessionId = strtoul headers.sessionId :=
    hadmits.session.symm
  have hnewer : ¬strtol headers.chunkIndex ≤ f.state.lastChunkIndex :=
    not_le.mpr hadmits.newer
  have hsize : ¬(chunkExpectedSize headers = 0 ∨
      cfg.maxChunkSize < chunkExpectedSize headers) := by
    have := hadmits.size
    unfold ValidSize at this
    omega
  simp [chunkStart, openSlot, hphase, hidle, hpresent, hsession, hnewer,
    hsize]

theorem chunkStart_refused {cfg : FlasherConfig} {f : Flasher}
    {headers : FlasherHeaders} {part : UploadPart} (hempty : f.SlotEmpty)
    (hphase : f.state.phase = .receiving)
    (hrejected : f.Rejected cfg headers part)
    (hadmits : ¬f.Admits cfg headers) (ms : ℕ) :
    (f.chunkStart cfg ms headers).state.phase = .error := by
  have hidle : f.chunk.state = .idle := by
    rw [hempty.1]
    rfl
  cases hmissing : missingHeaders headers with
  | true =>
      have hpresent : (headers.sessionId.isEmpty ||
          headers.chunkIndex.isEmpty || headers.totalChunks.isEmpty) =
            true := hmissing
      simp only [chunkStart, touch, setChunkResponse, hphase, hidle, hpresent]
      simp
  | false =>
      have hpresent : (headers.sessionId.isEmpty ||
          headers.chunkIndex.isEmpty || headers.totalChunks.isEmpty) =
            false := hmissing
      by_cases hsession : strtoul headers.sessionId = f.state.sessionId
      · obtain ⟨hnewer, hsize⟩ : f.state.lastChunkIndex <
            strtol headers.chunkIndex ∧ ¬ValidSize cfg headers := by
          rcases hrejected with htrue | hother | ⟨hnewer, -⟩
          · rw [hmissing] at htrue
            cases htrue
          · exact absurd hsession hother
          · exact ⟨hnewer, fun hsize =>
              hadmits ⟨hmissing, hsession, hnewer, hsize⟩⟩
        have hinvalid : chunkExpectedSize headers = 0 ∨
            cfg.maxChunkSize < chunkExpectedSize headers := by
          unfold ValidSize at hsize
          omega
        have hfresh : ¬strtol headers.chunkIndex ≤ f.state.lastChunkIndex :=
          not_le.mpr hnewer
        simp [chunkStart, hphase, hidle, hpresent, hsession, hfresh,
          hinvalid]
      · have hother : f.state.sessionId ≠ strtoul headers.sessionId :=
          fun hsame => hsession hsame.symm
        simp [chunkStart, hphase, hidle, hpresent, hother]

theorem chunkWrite_fits {cfg : FlasherConfig} {f : Flasher}
    (hstate : f.chunk.state = .receiving)
    (hmax : f.chunk.expectedSize ≤ cfg.maxChunkSize) {buf : List Byte}
    (hfits : f.chunk.receivedSize + buf.length ≤ f.chunk.expectedSize) :
    f.chunkWrite cfg buf =
      { f with chunk := { f.chunk with data := f.chunk.data ++ buf } } := by
  unfold chunkWrite
  by_cases hnil : buf = []
  · rw [if_neg (not_not.mpr hstate)]
    simp [hnil]
  · have hlength : buf.length ≠ 0 := by simpa using hnil
    have hover : ¬(f.chunk.expectedSize <
        f.chunk.receivedSize + buf.length ∨
          cfg.maxChunkSize < f.chunk.receivedSize + buf.length) := by
      omega
    simp only [hstate, hlength, hover, not_true, if_false, ne_eq]

theorem chunkBuffers_fits {cfg : FlasherConfig} {f : Flasher}
    (hstate : f.chunk.state = .receiving)
    (hmax : f.chunk.expectedSize ≤ cfg.maxChunkSize) {part : UploadPart}
    (hfits : f.chunk.receivedSize + part.payload.length ≤
      f.chunk.expectedSize) :
    f.chunkBuffers cfg part =
      { f with chunk :=
        { f.chunk with data := f.chunk.data ++ part.payload } } := by
  obtain ⟨buffers, update⟩ := part
  simp only [chunkBuffers, UploadPart.payload] at hfits ⊢
  induction buffers generalizing f with
  | nil => simp
  | cons buffer buffers ih =>
      simp only [List.flatMap_cons, List.length_append] at hfits
      have hwrite : f.chunkWrite cfg buffer.buf =
          { f with chunk :=
            { f.chunk with data := f.chunk.data ++ buffer.buf } } :=
        chunkWrite_fits hstate hmax (by omega)
      rw [List.foldl_cons, hwrite, ih]
      · simp
      · exact hstate
      · exact hmax
      · simp only [PendingChunk.receivedSize, List.length_append] at hfits ⊢
        omega

theorem chunkWrite_error (cfg : FlasherConfig) {f : Flasher}
    (herror : f.state.phase = .error) (buf : List Byte) :
    (f.chunkWrite cfg buf).state.phase = .error := by
  unfold chunkWrite
  dsimp only
  split_ifs <;> simp [herror]

theorem chunkBuffers_error (cfg : FlasherConfig) {f : Flasher}
    (herror : f.state.phase = .error) (part : UploadPart) :
    (f.chunkBuffers cfg part).state.phase = .error := by
  unfold chunkBuffers
  induction part.buffers generalizing f with
  | nil => exact herror
  | cons buffer buffers ih => exact ih (chunkWrite_error cfg herror _)

theorem chunkEnd_error {f : Flasher} (herror : f.state.phase = .error)
    (ms : ℕ) (payload : List Byte) :
    (f.chunkEnd ms payload).state.phase = .error := by
  unfold chunkEnd
  split_ifs <;> simp [herror]

theorem chunkBuffers_overflow {cfg : FlasherConfig} {f : Flasher}
    (hstate : f.chunk.state = .receiving)
    (hmax : f.chunk.expectedSize ≤ cfg.maxChunkSize) {part : UploadPart}
    (hfits : f.chunk.receivedSize ≤ f.chunk.expectedSize)
    (hover : f.chunk.expectedSize <
      f.chunk.receivedSize + part.payload.length) :
    (f.chunkBuffers cfg part).state.phase = .error := by
  obtain ⟨buffers, update⟩ := part
  simp only [chunkBuffers, UploadPart.payload] at hover ⊢
  induction buffers generalizing f with
  | nil =>
      simp only [List.flatMap_nil, List.length_nil] at hover
      omega
  | cons buffer buffers ih =>
      simp only [List.flatMap_cons, List.length_append] at hover
      rw [List.foldl_cons]
      by_cases hhere : f.chunk.expectedSize <
          f.chunk.receivedSize + buffer.buf.length
      · have hlength : buffer.buf.length ≠ 0 := by omega
        have hrejected : (f.chunkWrite cfg buffer.buf).state.phase =
            .error := by
          simp [chunkWrite, hstate, hhere,
            List.length_eq_zero_iff.not.mp hlength]
        exact chunkBuffers_error cfg hrejected ⟨buffers, update⟩
      · have hwrite : f.chunkWrite cfg buffer.buf =
            { f with chunk :=
              { f.chunk with data := f.chunk.data ++ buffer.buf } } :=
          chunkWrite_fits hstate hmax (not_lt.mp hhere)
        rw [hwrite]
        apply ih
        · exact hstate
        · exact hmax
        · simp only [PendingChunk.receivedSize, List.length_append] at *
          omega
        · simp only [PendingChunk.receivedSize, List.length_append] at *
          omega

/-! ## The rejected request -/

/-- The buffers of an admitted part, with the body not longer than the size
that was announced. -/
theorem chunkBuffers_admitted {cfg : FlasherConfig} {f : Flasher}
    {headers : FlasherHeaders} {part : UploadPart} (hempty : f.SlotEmpty)
    (hphase : f.state.phase = .receiving) (hadmits : f.Admits cfg headers)
    (hfits : part.payload.length ≤ chunkExpectedSize headers) (ms : ℕ) :
    (f.chunkStart cfg ms headers).chunkBuffers cfg part =
      { f.openSlot ms headers with chunk :=
        { (f.openSlot ms headers).chunk with data := part.payload } } := by
  rw [chunkStart_admitted hempty hphase hadmits]
  have hroom : (f.openSlot ms headers).chunk.receivedSize +
      part.payload.length ≤
        (f.openSlot ms headers).chunk.expectedSize := by
    simpa [openSlot, PendingChunk.receivedSize] using hfits
  exact chunkBuffers_fits rfl hadmits.size.2 hroom

theorem chunkBuffers_tooLong {cfg : FlasherConfig} {f : Flasher}
    {headers : FlasherHeaders} {part : UploadPart} (hempty : f.SlotEmpty)
    (hphase : f.state.phase = .receiving) (hadmits : f.Admits cfg headers)
    (hlong : chunkExpectedSize headers < part.payload.length) (ms : ℕ) :
    ((f.chunkStart cfg ms headers).chunkBuffers cfg part).state.phase =
      .error := by
  rw [chunkStart_admitted hempty hphase hadmits]
  apply chunkBuffers_overflow rfl hadmits.size.2
  · simp [openSlot, PendingChunk.receivedSize]
  · simpa [openSlot, PendingChunk.receivedSize] using hlong

/-- The callbacks up to the end of a rejected part have failed the session,
or the part is merely too short. -/
theorem chunkBuffers_rejected {cfg : FlasherConfig} {f : Flasher}
    {headers : FlasherHeaders} {part : UploadPart} (hempty : f.SlotEmpty)
    (hphase : f.state.phase = .receiving)
    (hrejected : f.Rejected cfg headers part)
    (hcut : ¬(f.Admits cfg headers ∧
      part.payload.length ≤ chunkExpectedSize headers)) (ms : ℕ) :
    ((f.chunkStart cfg ms headers).chunkBuffers cfg part).state.phase =
      .error := by
  by_cases hadmits : f.Admits cfg headers
  · have hlong : chunkExpectedSize headers < part.payload.length :=
      not_le.mp fun hfits => hcut ⟨hadmits, hfits⟩
    exact chunkBuffers_tooLong hempty hphase hadmits hlong ms
  · have hstart := chunkStart_refused hempty hphase hrejected hadmits ms
    exact chunkBuffers_error cfg hstart part

theorem Rejected.length_ne {cfg : FlasherConfig} {f : Flasher}
    {headers : FlasherHeaders} {part : UploadPart}
    (hrejected : f.Rejected cfg headers part)
    (hadmits : f.Admits cfg headers) :
    part.payload.length ≠ chunkExpectedSize headers := by
  rcases hrejected with hmissing | hother | ⟨-, hsize | hlength⟩
  · rw [hadmits.present] at hmissing
    cases hmissing
  · exact absurd hadmits.session hother
  · exact absurd hadmits.size hsize
  · exact hlength

/-- A rejected part that arrives whole fails the session. -/
theorem chunkPart_rejected {cfg : FlasherConfig} {f : Flasher}
    {headers : FlasherHeaders} {part : UploadPart} (hempty : f.SlotEmpty)
    (hphase : f.state.phase = .receiving)
    (hrejected : f.Rejected cfg headers part) (ms : ℕ) :
    (chunkPart cfg ms headers f part).state.phase = .error := by
  unfold chunkPart
  by_cases hshort : f.Admits cfg headers ∧
      part.payload.length ≤ chunkExpectedSize headers
  · obtain ⟨hadmits, hfits⟩ := hshort
    rw [chunkBuffers_admitted hempty hphase hadmits hfits]
    have hlength := hrejected.length_ne hadmits
    simp [chunkEnd, openSlot, PendingChunk.receivedSize, hlength]
  · have herror := chunkBuffers_rejected hempty hphase hrejected hshort ms
    exact chunkEnd_error herror ms part.payload

theorem chunkLost_rejected {cfg : FlasherConfig} {f : Flasher}
    {headers : FlasherHeaders} {part : UploadPart} (hempty : f.SlotEmpty)
    (hphase : f.state.phase = .receiving)
    (hrejected : f.Rejected cfg headers part)
    (hcut : ¬(f.Admits cfg headers ∧
      part.payload.length ≤ chunkExpectedSize headers)) (ms : ℕ) :
    (chunkLost cfg ms headers f part).state.phase = .error :=
  chunkBuffers_rejected hempty hphase hrejected hcut ms

theorem chunkLost_cutShort {cfg : FlasherConfig} {f : Flasher}
    {headers : FlasherHeaders} {part : UploadPart} (hempty : f.SlotEmpty)
    (hphase : f.state.phase = .receiving) (hadmits : f.Admits cfg headers)
    (hfits : part.payload.length ≤ chunkExpectedSize headers) (ms : ℕ) :
    chunkLost cfg ms headers f part =
      (f.touch ms).setChunkResponse 499 "Client aborted" := by
  unfold chunkLost
  rw [chunkBuffers_admitted hempty hphase hadmits hfits]
  obtain ⟨hchunk, hsent⟩ := hempty
  simp [chunkAborted, openSlot, ← hchunk, ← hsent]

theorem ChunkStep.error {f next : Flasher} (hstep : ChunkStep f next)
    (herror : f.state.phase = .error) : next.state.phase = .error := by
  rcases hstep.outcome with ⟨hphase, -⟩ | ⟨-, hphase, -⟩
  · rw [hphase, herror]
  · exact hphase

def wholeUpload (part : UploadPart) (hasError : Bool) : Upload where
  parts := [part]
  lost := none
  parsed := true
  hasError := hasError

/-- The session is as before, nothing was asked of the `Update` library, and
later chunks are received, answered and written as if nothing had happened. -/
structure SessionLeft (cfg : FlasherConfig) (f next : Flasher) : Prop where
  phase : next.state.phase = .receiving
  session : next.session = f.session
  update : next.trace = f.trace
  later : ∀ ms headers upload, upload.hasPart = true →
    next.serve cfg (some (ms, .updateChunk headers upload)) =
      f.serve cfg (some (ms, .updateChunk headers upload))
  accepted : ∀ ms headers part hasError, f.Admits cfg headers →
    part.payload.length = chunkExpectedSize headers →
    (next.serve cfg (some (ms, .updateChunk headers
      (wholeUpload part hasError)))).2 =
        some (.text 202 "Chunk queued")
  written : ∀ ms headers part hasError env, f.Admits cfg headers →
    part.payload.length = chunkExpectedSize headers →
    ∃ sent : SentChunk, sent.payload = part.payload ∧
      .write part.payload (some sent) ∈
        (next.iterate cfg ⟨some (ms, .updateChunk headers
          (wholeUpload part hasError)), env⟩).trace

theorem handleUpdateChunk_touched (cfg : FlasherConfig) (f : Flasher)
    (ms touched httpCode : ℕ) (message : String)
    (headers : FlasherHeaders) {upload : Upload}
    (hpart : upload.hasPart = true) :
    ((f.touch touched).setChunkResponse httpCode message).handleUpdateChunk
        cfg ms headers upload =
      f.handleUpdateChunk cfg ms headers upload := by
  obtain ⟨parts, lost, parsed, hasError⟩ := upload
  cases parts with
  | cons part parts => rfl
  | nil =>
      cases lost with
      | some part => rfl
      | none => simp [Upload.hasPart] at hpart

/-- The state in which an admitted chunk waits for the write. -/
theorem handleUpdateChunk_accepted {cfg : FlasherConfig} {f : Flasher}
    {headers : FlasherHeaders} {part : UploadPart} (hempty : f.SlotEmpty)
    (hphase : f.state.phase = .receiving) (hadmits : f.Admits cfg headers)
    (hwhole : part.payload.length = chunkExpectedSize headers) (ms : ℕ)
    (hasError : Bool) :
    ∃ sent : SentChunk, sent.payload = part.payload ∧
      f.handleUpdateChunk cfg ms headers (wholeUpload part hasError) =
        (({ f.openSlot ms headers with
            chunk := { (f.openSlot ms headers).chunk with
              state := .queued
              data := part.payload }
            sent := some sent }.setMessage "Chunk queued"),
          some (.text 202 "Chunk queued")) := by
  have hbuffers := chunkBuffers_admitted hempty hphase hadmits hwhole.le ms
  refine ⟨⟨strtoul headers.sessionId, strtol headers.chunkIndex,
    strtol headers.totalChunks, part.payload⟩, rfl, ?_⟩
  have hpart : chunkPart cfg ms headers f part =
      { f.openSlot ms headers with
        chunk := { (f.openSlot ms headers).chunk with
          state := .queued
          data := part.payload }
        sent := some ⟨strtoul headers.sessionId, strtol headers.chunkIndex,
          strtol headers.totalChunks, part.payload⟩ }.setMessage
            "Chunk queued" := by
    unfold chunkPart
    rw [hbuffers]
    simp [chunkEnd, openSlot, PendingChunk.receivedSize, hwhole]
  simp only [handleUpdateChunk, wholeUpload, List.foldl_cons, List.foldl_nil,
    Option.elim_none, hpart, Upload.answered]
  simp [answerChunk, openSlot, hphase]

theorem mem_processPendingChunk {f : Flasher}
    (hqueued : f.chunk.state = .queued)
    (hphase : f.state.phase = .receiving) (env : LoopEnv) :
    .write f.chunk.data f.sent ∈ (f.processPendingChunk env).trace := by
  unfold processPendingChunk
  rw [if_neg (not_not.mpr hqueued), if_neg (not_not.mpr hphase)]
  have hadvanced : (f.writeChunk.advanceSession env).state.phase =
      .receiving := hphase
  have hwritten : .write f.chunk.data f.sent ∈
      (f.writeChunk.advanceSession env).trace := List.mem_cons_self
  dsimp only
  split_ifs
  · simp [failUpdate, writeChunk]
  · show _ ∈ ((f.writeChunk.advanceSession env).commitUpdate
      env.update.endOk).trace
    cases env.update.endOk with
    | true =>
        obtain ⟨-, -, htrace⟩ := commitUpdate_true hadvanced
        rw [htrace]
        simp [hwritten]
    | false =>
        obtain ⟨-, -, htrace⟩ := commitUpdate_false hadvanced
        rw [htrace]
        simp [hwritten]
  · exact hwritten

/-- An iteration that serves an admitted chunk writes it. -/
theorem mem_iterate_accepted {cfg : FlasherConfig} {f : Flasher}
    (iteration : Iteration) {served : Flasher}
    {response : Option FlasherResponse} {payload : List Byte}
    {sent : SentChunk} (hlive : f.restarted = false)
    (hserve : f.serve cfg iteration.request = (served, response))
    (haction : served.action = .none) (hserved : served.restarted = false)
    (hphase : served.state.phase = .receiving)
    (hqueued : served.chunk.state = .queued)
    (hdata : served.chunk.data = payload) (hsent : served.sent = some sent) :
    .write payload (some sent) ∈ (f.iterate cfg iteration).trace := by
  have hact : f.serveAndAct cfg iteration = served := by
    unfold serveAndAct
    rw [hserve, executeAction_none haction]
  have hwrite := mem_processPendingChunk hqueued hphase iteration.env
  rw [hdata, hsent] at hwrite
  have hwatch := watchStep_watchdogs cfg
    (served.processPendingChunk iteration.env) iteration.env
  rw [iterate_eq, hact, hlive, hserved]
  exact hwatch.ordinary.mem_of_mem hwrite

theorem sessionLeft_cutShort {cfg : FlasherConfig} {f : Flasher}
    {headers : FlasherHeaders} {upload : Upload} {part : UploadPart}
    (hf : f.Settable) (hlive : f.restarted = false)
    (hphase : f.state.phase = .receiving)
    (hfirst : firstPart upload = some part)
    (hcut : f.CutShort cfg headers upload part) (ms : ℕ) :
    f.SessionLeft cfg (f.handleUpdateChunk cfg ms headers upload).1 := by
  have hempty := hf.slotEmpty hlive hphase
  have hlost : upload.lost = some part := by
    simpa [firstPart, hcut.lost] using hfirst
  have hnext : (f.handleUpdateChunk cfg ms headers upload).1 =
      (f.touch ms).setChunkResponse 499 "Client aborted" := by
    have hpart := chunkLost_cutShort hempty hphase hcut.admits hcut.fits ms
    simp [handleUpdateChunk, hcut.lost, hlost, hpart, Upload.answered]
  rw [hnext]
  have hlater : ∀ ms' headers upload, upload.hasPart = true →
      ((f.touch ms).setChunkResponse 499 "Client aborted").serve cfg
          (some (ms', .updateChunk headers upload)) =
        f.serve cfg (some (ms', .updateChunk headers upload)) :=
    fun ms' headers upload hpart =>
      handleUpdateChunk_touched cfg f ms' ms 499 "Client aborted" headers
        hpart
  refine ⟨hphase, rfl, rfl, hlater, ?_, ?_⟩
  · intro ms' headers part hasError hadmits hwhole
    rw [hlater ms' headers (wholeUpload part hasError) rfl]
    obtain ⟨sent, -, haccepted⟩ := handleUpdateChunk_accepted hempty hphase
      hadmits hwhole ms' hasError
    exact congrArg Prod.snd haccepted
  · intro ms' headers part hasError env hadmits hwhole
    obtain ⟨sent, hsent, haccepted⟩ := handleUpdateChunk_accepted hempty
      hphase hadmits hwhole ms' hasError
    refine ⟨sent, hsent, ?_⟩
    have hserve := (hlater ms' headers (wholeUpload part hasError) rfl).trans
      haccepted
    have haction := hf.action hlive hphase
    exact mem_iterate_accepted ⟨some (ms', _), env⟩ hlive hserve
      haction hlive hphase rfl rfl rfl

theorem phase_answerChunk (f : Flasher) (ms : ℕ) :
    (f.answerChunk ms).1.state.phase = f.state.phase := by
  unfold answerChunk
  dsimp only
  split <;> rfl

/-- A request whose first part is rejected and not merely cut short fails the
session. -/
theorem handleUpdateChunk_rejected {cfg : FlasherConfig} {f : Flasher}
    {headers : FlasherHeaders} {upload : Upload} {part : UploadPart}
    (hf : f.Settable) (hlive : f.restarted = false)
    (hphase : f.state.phase = .receiving)
    (hfirst : firstPart upload = some part)
    (hrejected : f.Rejected cfg headers part)
    (hcut : ¬f.CutShort cfg headers upload part) (ms : ℕ) :
    (f.handleUpdateChunk cfg ms headers upload).1.state.phase = .error := by
  have hempty := hf.slotEmpty hlive hphase
  have hslot := hf.coherent.slotOk hlive
  suffices herror : (upload.lost.elim
      (upload.parts.foldl (chunkPart cfg ms headers) f)
      (chunkLost cfg ms headers
        (upload.parts.foldl (chunkPart cfg ms headers) f))).state.phase =
          .error by
    unfold handleUpdateChunk
    dsimp only
    split
    · rw [phase_answerChunk]
      exact herror
    · exact herror
  cases hparts : upload.parts with
  | nil =>
      have hlost : upload.lost = some part := by
        simpa [firstPart, hparts] using hfirst
      rw [hlost]
      exact chunkLost_rejected hempty hphase hrejected
        (fun hshort => hcut ⟨hparts, hshort.1, hshort.2⟩) ms
  | cons first parts =>
      obtain rfl : first = part := by
        simpa [firstPart, hparts] using hfirst
      have hpart := chunkPart_rejected hempty hphase hrejected ms
      have hpartSlot := (chunkPart_spec cfg ms headers hslot first).2
      obtain ⟨hrest, hrestSlot⟩ :=
        chunkParts_spec cfg ms headers hpartSlot parts
      have hparts := hrest.error hpart
      rw [List.foldl_cons]
      cases upload.lost with
      | none => exact hparts
      | some lost =>
          exact (chunkLost_spec cfg ms headers hrestSlot lost).1.error
            hparts

/-- In every reachable state that receives a session, a chunk request whose
first part is rejected leaves the session as it was exactly if it was cut
short. -/
theorem rejected_chunk_harmless_iff (cfg : FlasherConfig)
    (vIdle vLoad startMs : ℕ) (iterations : List Iteration) (f : Flasher)
    (hreach : run (iterate cfg) (ready vIdle vLoad startMs) iterations = f)
    (hlive : f.restarted = false) (hphase : f.state.phase = .receiving)
    (ms : ℕ) (headers : FlasherHeaders) (upload : Upload)
    (part : UploadPart) (hfirst : firstPart upload = some part)
    (hrejected : f.Rejected cfg headers part) :
    f.SessionLeft cfg
        (f.handleRequest cfg ms (.updateChunk headers upload)).1 ↔
      f.CutShort cfg headers upload part := by
  have hf : f.Settable := by
    rw [← hreach]
    exact settable_run cfg vIdle vLoad startMs iterations
  constructor
  · intro hleft
    by_contra hcut
    have herror := handleUpdateChunk_rejected hf hlive hphase hfirst
      hrejected hcut ms
    have hreceiving : (f.handleUpdateChunk cfg ms headers
        upload).1.state.phase = .receiving := hleft.phase
    rw [herror] at hreceiving
    cases hreceiving
  · intro hcut
    exact sessionLeft_cutShort hf hlive hphase hfirst hcut ms

/-- A session of 1024 bytes that waits for its first chunk. -/
def openSession : Flasher :=
  run (iterate benchConfig) (ready 4100 4000 500)
    [postStart 1000 ['7'] ['1', '0', '2', '4']]

def chunkHeaders (sessionId : List Char) : FlasherHeaders where
  contentLength := []
  sessionId := sessionId
  chunkIndex := ['0']
  totalChunks := ['2']
  totalSize := []
  chunkSize := ['5', '1', '2']

def threeBytes : UploadPart where
  buffers := [⟨[1, 2, 3], 3⟩]
  update := ⟨true, true, true, 0⟩

theorem lost_connection_harmless :
    openSession.SessionLeft benchConfig
      (openSession.handleRequest benchConfig 2000 (.updateChunk
        (chunkHeaders ['7']) ⟨[], some threeBytes, false, false⟩)).1 :=
  (rejected_chunk_harmless_iff benchConfig 4100 4000 500
    [postStart 1000 ['7'] ['1', '0', '2', '4']] openSession rfl
    (by decide +kernel) (by decide +kernel) 2000 (chunkHeaders ['7'])
    ⟨[], some threeBytes, false, false⟩ threeBytes rfl
    (.inr (.inr ⟨by decide +kernel, .inr (by decide +kernel)⟩))).mpr
      ⟨rfl, ⟨rfl, by decide +kernel, by decide +kernel,
        ⟨by decide +kernel, by decide +kernel⟩⟩, by decide +kernel⟩

/-- A chunk of another session fails the one being received. -/
theorem wrong_session_fails :
    openSession.Rejected benchConfig (chunkHeaders ['8']) threeBytes ∧
      ¬openSession.SessionLeft benchConfig
        (openSession.handleRequest benchConfig 2000 (.updateChunk
          (chunkHeaders ['8']) (wholeUpload threeBytes false))).1 := by
  refine ⟨.inr (.inl (by decide +kernel)), fun hleft => ?_⟩
  exact absurd hleft.phase (by decide +kernel)

end Flasher

end SensorFirmware
