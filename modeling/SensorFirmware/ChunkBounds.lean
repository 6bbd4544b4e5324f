import SensorFirmware.ChunkRefinement
import SensorFirmware.GuardedRun

/-!
# The bounds of the chunk buffer

A chunk that the loop writes was queued by a part of the request before it.
The slot is taken by the first part whose headers are accepted, and until the
loop has emptied it every other part leaves it alone, so the bytes that reach
`Update.write` are the fragments of that one part.
-/

namespace SensorFirmware

open GuardedRun

/-- What the headers announce, and the fragments of the part in their order. -/
def announcedChunk (headers : FlasherHeaders) (part : UploadPart) :
    SentChunk where
  sessionId := strtoul headers.sessionId
  index := strtol headers.chunkIndex
  total := strtol headers.totalChunks
  payload := part.payload

/-- The parts of `/update_chunk` that arrive whole. -/
def Iteration.announced (iteration : Iteration) : List SentChunk :=
  match iteration.request with
  | some (_, .updateChunk headers upload) =>
      upload.parts.map (announcedChunk headers)
  | _ => []

/-! ## The chunk of the slot -/

namespace Flasher

/-- A chunk being received has the headers of its part and the fragments
`sofar`. -/
def Filling (headers : FlasherHeaders) (sofar : List Byte) (f : Flasher) :
    Prop :=
  f.chunk.state = .receiving →
    f.chunk.sessionId = strtoul headers.sessionId ∧
      f.chunk.chunkIndex = strtol headers.chunkIndex ∧
        f.chunk.totalChunks = strtol headers.totalChunks ∧
          f.chunk.data = sofar

def slotChunk (f : Flasher) : SentChunk where
  sessionId := f.chunk.sessionId
  index := f.chunk.chunkIndex
  total := f.chunk.totalChunks
  payload := f.chunk.data

/-- A queued chunk is one of `sources`. -/
def QueuedFrom (sources : List SentChunk) (f : Flasher) : Prop :=
  f.chunk.state = .queued → f.slotChunk ∈ sources

theorem QueuedFrom.of_not_queued {f : Flasher}
    (hqueued : f.chunk.state ≠ .queued) (sources : List SentChunk) :
    f.QueuedFrom sources :=
  fun hstate => absurd hstate hqueued

theorem QueuedFrom.of_chunk {f next : Flasher} {sources : List SentChunk}
    (hfrom : f.QueuedFrom sources) (hchunk : next.chunk = f.chunk) :
    next.QueuedFrom sources := by
  unfold QueuedFrom slotChunk
  rw [hchunk]
  exact hfrom

theorem filling_chunkStart (cfg : FlasherConfig) {f : Flasher} (ms : ℕ)
    (headers : FlasherHeaders) (hrest : f.chunk.state ≠ .receiving) :
    (f.chunkStart cfg ms headers).Filling headers [] := by
  unfold Filling chunkStart
  dsimp only
  split_ifs <;> simp_all

theorem queuedFrom_chunkStart (cfg : FlasherConfig) {f : Flasher} (ms : ℕ)
    (headers : FlasherHeaders) {sources : List SentChunk}
    (hfrom : f.QueuedFrom sources) :
    (f.chunkStart cfg ms headers).QueuedFrom sources := by
  unfold QueuedFrom slotChunk chunkStart at *
  dsimp only
  split_ifs <;> simp_all

theorem filling_chunkWrite (cfg : FlasherConfig) {f : Flasher}
    {headers : FlasherHeaders} {sofar : List Byte}
    (hfilling : f.Filling headers sofar) (buf : List Byte) :
    (f.chunkWrite cfg buf).Filling headers (sofar ++ buf) := by
  unfold Filling chunkWrite at *
  dsimp only
  split_ifs <;> simp_all

theorem queuedFrom_chunkWrite (cfg : FlasherConfig) {f : Flasher}
    {sources : List SentChunk} (hfrom : f.QueuedFrom sources)
    (buf : List Byte) : (f.chunkWrite cfg buf).QueuedFrom sources := by
  unfold QueuedFrom slotChunk chunkWrite at *
  dsimp only
  split_ifs <;> simp_all

/-- Between the callbacks of a part. -/
structure Fills (headers : FlasherHeaders) (sofar : List Byte)
    (sources : List SentChunk) (f : Flasher) : Prop where
  filling : f.Filling headers sofar
  queued : f.QueuedFrom sources

theorem fills_chunkBuffers (cfg : FlasherConfig) {f : Flasher}
    {headers : FlasherHeaders} {sofar : List Byte}
    {sources : List SentChunk} (hfills : f.Fills headers sofar sources)
    (part : UploadPart) :
    (f.chunkBuffers cfg part).Fills headers (sofar ++ part.payload)
      sources := by
  unfold chunkBuffers UploadPart.payload
  induction part.buffers generalizing sofar f with
  | nil => simpa using hfills
  | cons buffer buffers ih =>
      have hwrite : (f.chunkWrite cfg buffer.buf).Fills headers
          (sofar ++ buffer.buf) sources :=
        ⟨filling_chunkWrite cfg hfills.filling _,
          queuedFrom_chunkWrite cfg hfills.queued _⟩
      have hrest := ih hwrite
      rw [List.append_assoc] at hrest
      exact hrest

/-- Between two parts. -/
structure SlotFrom (sources : List SentChunk) (f : Flasher) : Prop where
  notReceiving : f.chunk.state ≠ .receiving
  queued : f.QueuedFrom sources

theorem SlotFrom.mono {f : Flasher} {sources more : List SentChunk}
    (hslot : f.SlotFrom sources) (hsub : sources ⊆ more) :
    f.SlotFrom more :=
  ⟨hslot.notReceiving, fun hstate => hsub (hslot.queued hstate)⟩

theorem slotFrom_chunkEnd {f : Flasher} (ms : ℕ)
    {headers : FlasherHeaders} {part : UploadPart}
    {sources : List SentChunk}
    (hfills : f.Fills headers part.payload sources) :
    (f.chunkEnd ms part.payload).SlotFrom
      (announcedChunk headers part :: sources) := by
  unfold chunkEnd
  split_ifs with hstate hsize
  · exact ⟨hstate, fun hqueued =>
      List.mem_cons_of_mem _ (hfills.queued hqueued)⟩
  · exact ⟨by simp, .of_not_queued (by simp) _⟩
  · obtain ⟨hsession, hindex, htotal, hdata⟩ :=
      hfills.filling (not_not.mp hstate)
    refine ⟨by simp, fun _ => ?_⟩
    simp [slotChunk, announcedChunk, hsession, hindex, htotal, hdata]

theorem slotFrom_chunkPart (cfg : FlasherConfig) (ms : ℕ)
    (headers : FlasherHeaders) {f : Flasher} {sources : List SentChunk}
    (hslot : f.SlotFrom sources) (part : UploadPart) :
    (chunkPart cfg ms headers f part).SlotFrom
      (announcedChunk headers part :: sources) := by
  have hstart : (f.chunkStart cfg ms headers).Fills headers [] sources :=
    ⟨filling_chunkStart cfg ms headers hslot.notReceiving,
      queuedFrom_chunkStart cfg ms headers hslot.queued⟩
  exact slotFrom_chunkEnd ms (fills_chunkBuffers cfg hstart part)

theorem slotFrom_chunkParts (cfg : FlasherConfig) (ms : ℕ)
    (headers : FlasherHeaders) {f : Flasher} {sources : List SentChunk}
    (parts : List UploadPart) (hslot : f.SlotFrom sources)
    (hparts : ∀ part ∈ parts, announcedChunk headers part ∈ sources) :
    (parts.foldl (chunkPart cfg ms headers) f).SlotFrom sources := by
  induction parts generalizing f with
  | nil => exact hslot
  | cons part parts ih =>
      have hpart := slotFrom_chunkPart cfg ms headers hslot part
      have hknown : announcedChunk headers part :: sources ⊆ sources :=
        List.cons_subset.mpr ⟨hparts part (.head parts), fun _ h => h⟩
      exact ih (hpart.mono hknown) fun other hother =>
        hparts other (.tail _ hother)

theorem slotFrom_handleUpdateChunk (cfg : FlasherConfig) {f : Flasher}
    {sources : List SentChunk} (hslot : f.SlotFrom sources) (ms : ℕ)
    (headers : FlasherHeaders) (upload : Upload)
    (hparts : ∀ part ∈ upload.parts,
      announcedChunk headers part ∈ sources) :
    (f.handleUpdateChunk cfg ms headers upload).1.SlotFrom sources := by
  have hwhole := slotFrom_chunkParts cfg ms headers upload.parts hslot hparts
  have hlost (g : Flasher) (hg : g.SlotFrom sources) :
      (upload.lost.elim g (chunkLost cfg ms headers g)).SlotFrom
        sources := by
    cases upload.lost with
    | none => exact hg
    | some part =>
        have hidle : (chunkLost cfg ms headers g part).chunk = .idle := rfl
        refine ⟨?_, .of_not_queued ?_ _⟩ <;>
          simp [hidle, PendingChunk.idle]
  have hanswer (g : Flasher) (hg : g.SlotFrom sources) :
      (g.answerChunk ms).1.SlotFrom sources := by
    unfold answerChunk
    dsimp only
    split <;> exact ⟨hg.notReceiving, hg.queued⟩
  unfold handleUpdateChunk
  dsimp only
  split
  · exact hanswer _ (hlost _ hwhole)
  · exact hlost _ hwhole

theorem slotFrom_serve (cfg : FlasherConfig) {f : Flasher}
    (hreceiving : f.chunk.state ≠ .receiving)
    (hqueued : f.chunk.state ≠ .queued) (iteration : Iteration) :
    (f.serve cfg iteration.request).1.SlotFrom iteration.announced := by
  by_cases hchunk : ∃ ms headers upload,
      iteration.request = some (ms, .updateChunk headers upload)
  · obtain ⟨ms, headers, upload, hrequest⟩ := hchunk
    have hannounced : iteration.announced =
        upload.parts.map (announcedChunk headers) := by
      simp only [Iteration.announced, hrequest]
    rw [hrequest, hannounced]
    refine slotFrom_handleUpdateChunk cfg ⟨hreceiving, ?_⟩ ms headers upload
      fun part hmem => List.mem_map_of_mem hmem
    exact .of_not_queued hqueued _
  · have hsame := chunk_serve cfg f
      fun ms headers upload hrequest =>
        hchunk ⟨ms, headers, upload, hrequest⟩
    rw [← hsame] at hreceiving hqueued
    exact ⟨hreceiving, .of_not_queued hqueued _⟩

/-- The pending action empties the slot or leaves it alone. -/
theorem SlotFrom.executeAction {f : Flasher} {sources : List SentChunk}
    (hslot : f.SlotFrom sources) (env : LoopEnv) :
    (f.executeAction env).QueuedFrom sources := by
  rcases chunk_executeAction f env with hsame | hidle
  · exact hslot.queued.of_chunk hsame
  · exact .of_not_queued (by simp [hidle, PendingChunk.idle]) _

end Flasher

namespace BufferedFlasher

/-- What `Update.write` was called with for chunks, the newest first. -/
def handed (s : BufferedFlasher) : List SentChunk :=
  s.log.filterMap fun event =>
    match event with
    | .handed chunk => some chunk
    | _ => none

@[simp] theorem handed_become (s : BufferedFlasher) (next : Flasher) :
    (s.become next).handed = s.handed := rfl

@[simp] theorem handed_chunkWrite (cfg : FlasherConfig)
    (s : BufferedFlasher) (buf : List Byte) :
    (s.chunkWrite cfg buf).handed = s.handed := by
  unfold chunkWrite
  dsimp only
  split_ifs <;> rfl

@[simp] theorem handed_chunkBuffers (cfg : FlasherConfig)
    (s : BufferedFlasher) (part : UploadPart) :
    (s.chunkBuffers cfg part).handed = s.handed := by
  unfold chunkBuffers
  induction part.buffers generalizing s with
  | nil => rfl
  | cons buffer buffers ih => exact (ih _).trans (handed_chunkWrite cfg s _)

@[simp] theorem handed_chunkStart (cfg : FlasherConfig)
    (s : BufferedFlasher) (ms : ℕ) (headers : FlasherHeaders) :
    (s.chunkStart cfg ms headers).handed = s.handed := rfl

theorem handed_chunkParts (cfg : FlasherConfig) (ms : ℕ)
    (headers : FlasherHeaders) (s : BufferedFlasher)
    (parts : List UploadPart) :
    (parts.foldl (chunkPart cfg ms headers) s).handed = s.handed := by
  induction parts generalizing s with
  | nil => rfl
  | cons part parts ih =>
      rw [List.foldl_cons, ih]
      simp [chunkPart, chunkEnd]

theorem handed_handleUpdateChunk (cfg : FlasherConfig)
    (s : BufferedFlasher) (ms : ℕ) (headers : FlasherHeaders)
    (upload : Upload) :
    (s.handleUpdateChunk cfg ms headers upload).1.handed = s.handed := by
  have hwhole := handed_chunkParts cfg ms headers s upload.parts
  unfold handleUpdateChunk
  cases upload.lost with
  | none => dsimp only; split <;> simp [hwhole]
  | some part =>
      dsimp only
      split <;> simp [chunkLost, chunkAborted, hwhole]

theorem handed_serveAndAct (cfg : FlasherConfig) (s : BufferedFlasher)
    (iteration : Iteration) :
    (s.serveAndAct cfg iteration).handed = s.handed := by
  unfold serveAndAct serve
  dsimp only
  rw [handed_become]
  split
  · exact handed_handleUpdateChunk cfg s _ _ _
  · exact handed_become s _

theorem handed_finish (cfg : FlasherConfig) (s : BufferedFlasher)
    (env : LoopEnv) :
    (s.finish cfg env).handed =
      if Hands s.flasher then s.pending :: s.handed else s.handed := by
  unfold finish processPendingChunk
  dsimp only
  rw [handed_become, handed_become]
  split <;> rfl

variable {cfg : FlasherConfig}

theorem Refines.pending {s : BufferedFlasher} {f : Flasher}
    (hs : Refines cfg s f) : s.pending = f.slotChunk := by
  rw [← hs.view]
  rfl

theorem Refines.hands_iff {s : BufferedFlasher} {f : Flasher}
    (hs : Refines cfg s f) : Hands s.flasher ↔ Hands f := by
  rw [← hs.view]
  exact Iff.rfl

/-- An iteration hands over the chunk that is queued when its request has been
served. -/
theorem Refines.handed_live {uploadBuflen : ℕ}
    (hfits : cfg.maxChunkSize + uploadBuflen < 2 ^ 32)
    {s : BufferedFlasher} {f : Flasher} (hs : Refines cfg s f)
    (hlive : f.restarted = false) {iteration : Iteration}
    (hfragments : iteration.FragmentsFit uploadBuflen) :
    (s.iterate cfg iteration).handed =
      if (f.serveAndAct cfg iteration).restarted = false ∧
          Hands (f.serveAndAct cfg iteration) then
        (f.serveAndAct cfg iteration).slotChunk :: s.handed
      else s.handed := by
  have hacted := hs.serveAndAct hfits hfragments
  have hsame := handed_serveAndAct cfg s iteration
  have hiterate : s.iterate cfg iteration =
      if (f.serveAndAct cfg iteration).restarted then
        s.serveAndAct cfg iteration
      else (s.serveAndAct cfg iteration).finish cfg iteration.env := by
    simp [BufferedFlasher.iterate, hs.restarted, hlive, hacted.restarted]
  rw [hiterate]
  cases hrestarted : (f.serveAndAct cfg iteration).restarted with
  | true => simpa using hsame
  | false =>
      simp only [Bool.false_eq_true, if_false, true_and]
      rw [handed_finish, hsame, hacted.pending]
      exact if_congr hacted.hands_iff rfl rfl

/-- An iteration hands over at most one chunk, one of its own request. -/
theorem handed_iterate {uploadBuflen : ℕ}
    (hfits : cfg.maxChunkSize + uploadBuflen < 2 ^ 32)
    {s : BufferedFlasher} {f : Flasher} (hs : Refines cfg s f)
    (hcoherent : f.Coherent) {iteration : Iteration}
    (hfragments : iteration.FragmentsFit uploadBuflen) :
    ∃ newer, (s.iterate cfg iteration).handed = newer ++ s.handed ∧
      newer.Sublist iteration.announced ∧ newer.length ≤ 1 := by
  by_cases hrestarted : f.restarted = true
  · refine ⟨[], ?_, List.nil_sublist _, Nat.zero_le _⟩
    simp [iterate, hs.restarted, hrestarted]
  · have hlive : f.restarted = false := by simpa using hrestarted
    obtain ⟨hreceiving, hqueued⟩ := hcoherent.slot hlive
    have hfrom : (f.serveAndAct cfg iteration).QueuedFrom
        iteration.announced :=
      (Flasher.slotFrom_serve cfg hreceiving hqueued
        iteration).executeAction iteration.env
    rw [hs.handed_live hfits hlive hfragments]
    split
    · rename_i hhands
      exact ⟨[_], rfl, List.singleton_sublist.mpr (hfrom hhands.2.1),
        le_refl _⟩
    · exact ⟨[], rfl, List.nil_sublist _, Nat.zero_le _⟩

/-- Every chunk that a run hands over is a part of its own, in the order of
the parts. -/
theorem handed_run {uploadBuflen : ℕ}
    (hfits : cfg.maxChunkSize + uploadBuflen < 2 ^ 32)
    {s : BufferedFlasher} {f : Flasher} (hs : Refines cfg s f)
    (hcoherent : f.Coherent) (iterations : List Iteration)
    (hfragments : ∀ iteration ∈ iterations,
      iteration.FragmentsFit uploadBuflen) :
    Refines cfg (run (iterate cfg) s iterations)
        (run (Flasher.iterate cfg) f iterations) ∧
      ∃ newer, (run (iterate cfg) s iterations).handed =
          newer ++ s.handed ∧
        newer.reverse.Sublist
          (iterations.flatMap Iteration.announced) := by
  induction iterations generalizing s f with
  | nil => exact ⟨hs, [], rfl, List.nil_sublist _⟩
  | cons iteration iterations ih =>
      have hhere := hfragments iteration (.head iterations)
      obtain ⟨first, hfirst, hsource, hone⟩ :=
        handed_iterate hfits hs hcoherent hhere
      obtain ⟨hrun, later, hlater, hrest⟩ :=
        ih (hs.iterate hfits hhere) (hcoherent.iterate cfg iteration)
          fun other hother => hfragments other (.tail _ hother)
      refine ⟨hrun, later ++ first, ?_, ?_⟩
      · rw [run_cons, hlater, hfirst, List.append_assoc]
      · have hreversed : first.reverse = first := by
          match first, hone with
          | [], _ => rfl
          | [_], _ => rfl
        rw [List.reverse_append, hreversed, List.flatMap_cons]
        exact hsource.append hrest

/-- What the buffer promises after a run. -/
structure BufferIntact (cfg : FlasherConfig) (s : BufferedFlasher)
    (iterations : List Iteration) : Prop where
  sound : s.Sound cfg
  handed : s.handed.reverse.Sublist
    (iterations.flatMap Iteration.announced)

/-- In every run, with any requests, the received size never exceeds the
announced one and the announced one never the array, no copy leaves the array,
and what is handed to `Update.write` for a chunk are the fragments of one part,
a different one for each chunk. -/
theorem chunk_buffer_bounds (cfg : FlasherConfig) (uploadBuflen : ℕ)
    (hfits : cfg.maxChunkSize + uploadBuflen < 2 ^ 32)
    (vIdle vLoad ms : ℕ) (iterations : List Iteration)
    (hfragments : ∀ iteration ∈ iterations,
      iteration.FragmentsFit uploadBuflen) :
    BufferIntact cfg
      (run (iterate cfg) (ready cfg vIdle vLoad ms) iterations)
      iterations := by
  obtain ⟨hrun, newer, hnewer, hsources⟩ := handed_run hfits
    (refines_ready cfg vIdle vLoad ms)
    (Flasher.coherent_ready vIdle vLoad ms) iterations hfragments
  refine ⟨hrun.sound, ?_⟩
  have hnone : (ready cfg vIdle vLoad ms).handed = [] := rfl
  rw [hnewer, hnone, List.append_nil]
  exact hsources

/-- A session, a chunk, a chunk that announces fewer bytes than it brings, and
the chunk after it. -/
def overflowingUploads : List Iteration :=
  [Flasher.postStart 1000 ['7'] ['1', '0', '2', '4'],
    Flasher.postChunk 2000 ['7'] ['0'] ['3'] [0xE9, 0x03, 0x02],
    { request := some (3000, .updateChunk
        { Flasher.noHeaders with
          sessionId := ['7']
          chunkIndex := ['1']
          totalChunks := ['3']
          chunkSize := ['3'] }
        { parts := [⟨[⟨[1, 2], 2⟩, ⟨[3, 4], 2⟩], ⟨true, true, true, 0⟩⟩]
          lost := none
          parsed := true
          hasError := false })
      env := Flasher.benchEnv 3000 0 },
    Flasher.postChunk 4000 ['7'] ['1'] ['3'] [5]]

theorem overflowing_uploads_intact :
    BufferIntact Flasher.benchConfig
        (run (iterate Flasher.benchConfig)
          (ready Flasher.benchConfig 4100 4000 500) overflowingUploads)
        overflowingUploads ∧
      (run (iterate Flasher.benchConfig)
          (ready Flasher.benchConfig 4100 4000 500)
          overflowingUploads).handed.map SentChunk.payload =
        [[0xE9, 0x03, 0x02]] :=
  ⟨chunk_buffer_bounds Flasher.benchConfig 1436 (by decide) 4100 4000 500
    overflowingUploads (by decide), by decide +kernel⟩

end BufferedFlasher

end SensorFirmware
