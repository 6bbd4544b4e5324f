import SensorFirmware.EventTrace
import SensorFirmware.FlasherLoop

/-!
# What a chunk upload can do

A request to `/update_chunk` fills the chunk slot or fails the session; it
calls nothing of the `Update` library and leaves the session and the pending
action alone.
-/

namespace SensorFirmware

open EventTrace

/-- The part of the state that no upload callback of the chunk protocol
changes. -/
structure SessionView where
  sessionId : ℕ
  total : ℕ
  written : ℕ
  lastChunkIndex : ℤ
  action : FlasherAction
  pendingSessionId : ℕ
  pendingTotalSize : ℕ
  restarted : Bool

namespace Flasher

def session (f : Flasher) : SessionView where
  sessionId := f.state.sessionId
  total := f.state.total
  written := f.state.written
  lastChunkIndex := f.state.lastChunkIndex
  action := f.action
  pendingSessionId := f.pendingSessionId
  pendingTotalSize := f.pendingTotalSize
  restarted := f.restarted

/-- The session is as before, or it was being received and has failed. -/
structure ChunkStep (f next : Flasher) : Prop where
  session : next.session = f.session
  outcome :
    next.state.phase = f.state.phase ∧ next.trace = f.trace ∨
      f.state.phase = .receiving ∧ next.state.phase = .error ∧
        Extends (· = .phase .error) f.trace next.trace

theorem ChunkStep.refl (f : Flasher) : ChunkStep f f :=
  ⟨rfl, .inl ⟨rfl, rfl⟩⟩

theorem ChunkStep.trans {first second third : Flasher}
    (hfirst : ChunkStep first second) (hsecond : ChunkStep second third) :
    ChunkStep first third := by
  refine ⟨hsecond.session.trans hfirst.session, ?_⟩
  rcases hfirst.outcome with ⟨hphase, htrace⟩ | ⟨hphase, herror, hext⟩
  · rcases hsecond.outcome with hsame | hfailed
    · exact .inl ⟨hsame.1.trans hphase, hsame.2.trans htrace⟩
    · rw [hphase, htrace] at hfailed
      exact .inr hfailed
  · rcases hsecond.outcome with hsame | hfailed
    · exact .inr ⟨hphase, hsame.1.trans herror,
        hext.trans (.of_eq hsame.2)⟩
    · rw [herror] at hfailed
      cases hfailed.1

/-- A chunk being received belongs to the session, and it holds `prefix`. -/
def Receiving (sofar : List Byte) (f : Flasher) : Prop :=
  f.chunk.state = .receiving →
    f.state.phase = .receiving ∧
      f.chunk.sessionId = f.state.sessionId ∧ f.chunk.data = sofar

/-- A queued chunk belongs to the session and is what a client sent. -/
def Queued (f : Flasher) : Prop :=
  f.chunk.state = .queued →
    f.chunk.sessionId = f.state.sessionId ∧
      f.sent = some {
        sessionId := f.chunk.sessionId
        index := f.chunk.chunkIndex
        total := f.chunk.totalChunks
        payload := f.chunk.data }

theorem chunkStep_rejectChunk {f : Flasher}
    (hphase : f.state.phase = .receiving) (error : FlasherError)
    (message : String) (httpCode : ℕ) :
    ChunkStep f (f.rejectChunk error message httpCode) := by
  refine ⟨rfl, .inr ⟨hphase, rfl, ?_⟩⟩
  exact (Extends.refl f.trace).cons rfl

/-! ## One part -/

theorem chunkStep_chunkStart (cfg : FlasherConfig) (f : Flasher) (ms : ℕ)
    (headers : FlasherHeaders) :
    ChunkStep f (f.chunkStart cfg ms headers) := by
  unfold chunkStart
  by_cases hphase : f.state.phase = .receiving
  · have hreject (error : FlasherError) (message : String) (code : ℕ) :
        ChunkStep f
          (((f.touch ms).setChunkResponse 202 "Chunk queued").rejectChunk
            error message code) :=
      ⟨rfl, .inr ⟨hphase, rfl, (Extends.refl f.trace).cons rfl⟩⟩
    dsimp only
    split_ifs
    · exact ⟨rfl, .inl ⟨rfl, rfl⟩⟩
    · exact ⟨rfl, .inl ⟨rfl, rfl⟩⟩
    · exact hreject _ _ _
    · exact hreject _ _ _
    · exact ⟨rfl, .inl ⟨rfl, rfl⟩⟩
    · exact hreject _ _ _
    · exact ⟨rfl, .inl ⟨rfl, rfl⟩⟩
  · have hother : ((f.touch ms).setChunkResponse 202
        "Chunk queued").state.phase ≠ .receiving := hphase
    rw [if_pos hother]
    exact ⟨rfl, .inl ⟨rfl, rfl⟩⟩

theorem receiving_chunkStart (cfg : FlasherConfig) {f : Flasher} (ms : ℕ)
    (headers : FlasherHeaders) (hrest : f.chunk.state ≠ .receiving) :
    (f.chunkStart cfg ms headers).Receiving [] := by
  unfold Receiving chunkStart
  dsimp only
  split_ifs <;> simp_all

theorem queued_chunkStart (cfg : FlasherConfig) {f : Flasher} (ms : ℕ)
    (headers : FlasherHeaders) (hqueued : f.Queued) :
    (f.chunkStart cfg ms headers).Queued := by
  unfold Queued chunkStart at *
  dsimp only
  split_ifs <;> simp_all

theorem chunkStep_chunkWrite (cfg : FlasherConfig) {f : Flasher}
    {sofar : List Byte} (hreceiving : f.Receiving sofar)
    (buf : List Byte) :
    ChunkStep f (f.chunkWrite cfg buf) := by
  unfold chunkWrite
  dsimp only
  split_ifs with hstate hempty hover
  · exact ChunkStep.refl f
  · exact ChunkStep.refl f
  · have hphase := (hreceiving (not_not.mp hstate)).1
    exact chunkStep_rejectChunk hphase _ _ _
  · exact ⟨rfl, .inl ⟨rfl, rfl⟩⟩

theorem receiving_chunkWrite (cfg : FlasherConfig) {f : Flasher}
    {sofar : List Byte} (hreceiving : f.Receiving sofar)
    (buf : List Byte) :
    (f.chunkWrite cfg buf).Receiving (sofar ++ buf) := by
  unfold Receiving chunkWrite at *
  dsimp only
  split_ifs <;> simp_all

theorem queued_chunkWrite (cfg : FlasherConfig) {f : Flasher}
    (hqueued : f.Queued) (buf : List Byte) :
    (f.chunkWrite cfg buf).Queued := by
  unfold Queued chunkWrite at *
  dsimp only
  split_ifs <;> simp_all

structure PartStep (sofar : List Byte) (f next : Flasher) : Prop where
  step : ChunkStep f next
  receiving : next.Receiving sofar
  queued : next.Queued

theorem partStep_chunkBuffers (cfg : FlasherConfig) {f next : Flasher}
    {sofar : List Byte} (hpart : PartStep sofar f next)
    (part : UploadPart) :
    PartStep (sofar ++ part.payload) f (next.chunkBuffers cfg part) := by
  unfold chunkBuffers UploadPart.payload
  induction part.buffers generalizing sofar next with
  | nil => simpa using hpart
  | cons buffer buffers ih =>
      have hwrite : PartStep (sofar ++ buffer.buf) f
          (next.chunkWrite cfg buffer.buf) :=
        ⟨hpart.step.trans (chunkStep_chunkWrite cfg hpart.receiving _),
          receiving_chunkWrite cfg hpart.receiving _,
          queued_chunkWrite cfg hpart.queued _⟩
      have hrest := ih hwrite
      rw [List.append_assoc] at hrest
      exact hrest

/-- The state of the slot between parts and between requests. -/
structure SlotOk (f : Flasher) : Prop where
  notReceiving : f.chunk.state ≠ .receiving
  queued : f.Queued

theorem chunkEnd_spec {f next : Flasher} (ms : ℕ) {payload : List Byte}
    (hpart : PartStep payload f next) :
    ChunkStep f (next.chunkEnd ms payload) ∧
      (next.chunkEnd ms payload).SlotOk := by
  unfold chunkEnd
  by_cases hstate : next.chunk.state = .receiving
  · obtain ⟨hphase, hsession, hdata⟩ := hpart.receiving hstate
    rw [if_neg (not_not.mpr hstate)]
    split_ifs
    · refine ⟨hpart.step.trans (chunkStep_rejectChunk hphase _ _ _), ?_, ?_⟩
      · simp
      · simp [Queued]
    · refine ⟨hpart.step.trans ⟨rfl, .inl ⟨rfl, rfl⟩⟩, ?_, ?_⟩
      · simp
      · simp [Queued, hsession, hdata]
  · rw [if_pos hstate]
    exact ⟨hpart.step, hstate, hpart.queued⟩

theorem partStep_chunkStart (cfg : FlasherConfig) {f : Flasher} (ms : ℕ)
    (headers : FlasherHeaders) (hslot : f.SlotOk) :
    PartStep [] f (f.chunkStart cfg ms headers) :=
  ⟨chunkStep_chunkStart cfg f ms headers,
    receiving_chunkStart cfg ms headers hslot.notReceiving,
    queued_chunkStart cfg ms headers hslot.queued⟩

theorem chunkPart_spec (cfg : FlasherConfig) (ms : ℕ)
    (headers : FlasherHeaders) {f : Flasher} (hslot : f.SlotOk)
    (part : UploadPart) :
    ChunkStep f (chunkPart cfg ms headers f part) ∧
      (chunkPart cfg ms headers f part).SlotOk := by
  have hstart := partStep_chunkStart cfg ms headers hslot
  have hbuffers := partStep_chunkBuffers cfg hstart part
  exact chunkEnd_spec ms hbuffers

theorem chunkLost_spec (cfg : FlasherConfig) (ms : ℕ)
    (headers : FlasherHeaders) {f : Flasher} (hslot : f.SlotOk)
    (part : UploadPart) :
    ChunkStep f (chunkLost cfg ms headers f part) ∧
      (chunkLost cfg ms headers f part).SlotOk := by
  have hstart := partStep_chunkStart cfg ms headers hslot
  have hbuffers := partStep_chunkBuffers cfg hstart part
  refine ⟨hbuffers.step.trans ⟨rfl, .inl ⟨rfl, rfl⟩⟩, ?_, ?_⟩
  · simp [chunkLost, chunkAborted, PendingChunk.idle]
  · simp [Queued, chunkLost, chunkAborted, PendingChunk.idle]

/-! ## The request -/

theorem chunkParts_spec (cfg : FlasherConfig) (ms : ℕ)
    (headers : FlasherHeaders) {f : Flasher} (hslot : f.SlotOk)
    (parts : List UploadPart) :
    ChunkStep f (parts.foldl (chunkPart cfg ms headers) f) ∧
      (parts.foldl (chunkPart cfg ms headers) f).SlotOk := by
  induction parts generalizing f with
  | nil => exact ⟨ChunkStep.refl f, hslot⟩
  | cons part parts ih =>
      obtain ⟨hstep, hnext⟩ := chunkPart_spec cfg ms headers hslot part
      obtain ⟨hrest, hlast⟩ := ih hnext
      exact ⟨hstep.trans hrest, hlast⟩

theorem answerChunk_spec {f : Flasher} (hslot : f.SlotOk) (ms : ℕ) :
    ChunkStep f (f.answerChunk ms).1 ∧ (f.answerChunk ms).1.SlotOk := by
  unfold answerChunk
  dsimp only
  split
  · exact ⟨⟨rfl, .inl ⟨rfl, rfl⟩⟩, hslot.notReceiving, hslot.queued⟩
  · exact ⟨⟨rfl, .inl ⟨rfl, rfl⟩⟩, hslot.notReceiving, hslot.queued⟩

theorem handleUpdateChunk_spec (cfg : FlasherConfig) {f : Flasher}
    (hslot : f.SlotOk) (ms : ℕ) (headers : FlasherHeaders)
    (upload : Upload) :
    ChunkStep f (f.handleUpdateChunk cfg ms headers upload).1 ∧
      (f.handleUpdateChunk cfg ms headers upload).1.SlotOk := by
  obtain ⟨hparts, hslots⟩ :=
    chunkParts_spec cfg ms headers hslot upload.parts
  have hlost : ∀ g : Flasher, g.SlotOk →
      ChunkStep g (upload.lost.elim g (chunkLost cfg ms headers g)) ∧
        (upload.lost.elim g (chunkLost cfg ms headers g)).SlotOk := by
    intro g hg
    cases upload.lost with
    | none => exact ⟨ChunkStep.refl g, hg⟩
    | some part => exact chunkLost_spec cfg ms headers hg part
  obtain ⟨hstep, hslot'⟩ := hlost _ hslots
  unfold handleUpdateChunk
  dsimp only
  split
  · obtain ⟨hanswer, hlast⟩ := answerChunk_spec hslot' ms
    exact ⟨(hparts.trans hstep).trans hanswer, hlast⟩
  · exact ⟨hparts.trans hstep, hslot'⟩

end Flasher

end SensorFirmware
