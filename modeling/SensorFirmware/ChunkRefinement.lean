import SensorFirmware.ChunkBuffer

/-!
# The array of the chunk buffer behaves like a list

With fragments of the size that the web server has a buffer for, the sum that
the copy is checked with cannot wrap.  So no copy leaves the array, and the
device with the array is in every iteration the device whose chunk is a list.
-/

namespace SensorFirmware

def BufferEvent.InBounds (cfg : FlasherConfig) : BufferEvent → Prop
  | .sizes receivedSize expectedSize =>
      receivedSize ≤ expectedSize ∧ expectedSize ≤ cfg.maxChunkSize
  | .copy offset length => offset + length ≤ cfg.maxChunkSize
  | .handed _ => True

namespace BufferedFlasher

open Flasher (KeepsBuffer)

variable {cfg : FlasherConfig}

structure Sound (cfg : FlasherConfig) (s : BufferedFlasher) : Prop where
  array : s.data.length = cfg.maxChunkSize
  sizes : (BufferEvent.sizes s.receivedSize
    s.flasher.chunk.expectedSize).InBounds cfg
  log : ∀ event ∈ s.log, event.InBounds cfg

/-- The bounds hold, and the bytes in use are those of the list. -/
structure Refines (cfg : FlasherConfig) (s : BufferedFlasher)
    (f : Flasher) : Prop where
  sound : s.Sound cfg
  view : s.view = f

theorem Sound.receivedSize_view {s : BufferedFlasher} (hs : s.Sound cfg) :
    s.view.chunk.receivedSize = s.receivedSize := by
  have hsizes : s.receivedSize ≤ s.flasher.chunk.expectedSize ∧
      s.flasher.chunk.expectedSize ≤ cfg.maxChunkSize := hs.sizes
  have harray := hs.array
  simp only [view, PendingChunk.receivedSize, List.length_take]
  omega

theorem Sound.noteSizes {s : BufferedFlasher} (hs : s.Sound cfg) :
    s.noteSizes.Sound cfg := by
  refine ⟨hs.array, hs.sizes, ?_⟩
  intro event hmem
  rcases List.mem_cons.mp hmem with rfl | hold
  · exact hs.sizes
  · exact hs.log event hold

theorem Refines.become {s : BufferedFlasher} {f next : Flasher}
    (hs : Refines cfg s f) (hkeeps : KeepsBuffer cfg f next) :
    Refines cfg (s.become next) next := by
  have hsizes : s.receivedSize ≤ s.flasher.chunk.expectedSize ∧
      s.flasher.chunk.expectedSize ≤ cfg.maxChunkSize := hs.sound.sizes
  have hreceived := hs.sound.receivedSize_view
  rw [hs.view] at hreceived
  have hdata : f.chunk.data = s.data.take s.receivedSize := by
    rw [← hs.view]
    rfl
  have hexpected : f.chunk.expectedSize =
      s.flasher.chunk.expectedSize := by
    rw [← hs.view]
    rfl
  have hnext : s.data.take next.chunk.receivedSize = next.chunk.data ∧
      next.chunk.receivedSize ≤ next.chunk.expectedSize ∧
        next.chunk.expectedSize ≤ cfg.maxChunkSize := by
    unfold PendingChunk.receivedSize at *
    rcases hkeeps with ⟨hsame, hsize⟩ | ⟨hempty, hsize⟩
    · rw [hsame, hsize, hexpected, hreceived, hdata]
      exact ⟨rfl, hsizes⟩
    · rw [hempty]
      exact ⟨rfl, Nat.zero_le _, hsize⟩
  obtain ⟨htake, hbounds⟩ := hnext
  have hsound : ({ s with
      flasher := next
      receivedSize := next.chunk.receivedSize } :
        BufferedFlasher).Sound cfg :=
    ⟨hs.sound.array, hbounds, hs.sound.log⟩
  refine ⟨hsound.noteSizes, ?_⟩
  change ({ next with chunk := { next.chunk with
    data := s.data.take next.chunk.receivedSize } } : Flasher) = next
  rw [htake]

theorem Refines.chunkStart {s : BufferedFlasher} {f : Flasher}
    (hs : Refines cfg s f) (ms : ℕ) (headers : FlasherHeaders) :
    Refines cfg (s.chunkStart cfg ms headers)
      (f.chunkStart cfg ms headers) := by
  have hnext := hs.become (Flasher.keepsBuffer_chunkStart f ms headers)
  rw [BufferedFlasher.chunkStart, hs.view]
  exact hnext

theorem Refines.chunkEnd {s : BufferedFlasher} {f : Flasher}
    (hs : Refines cfg s f) (ms : ℕ) (payload : List Byte) :
    Refines cfg (s.chunkEnd ms payload) (f.chunkEnd ms payload) := by
  have hnext := hs.become (Flasher.keepsBuffer_chunkEnd f ms payload)
  rw [BufferedFlasher.chunkEnd, hs.view]
  exact hnext

theorem Refines.chunkAborted {s : BufferedFlasher} {f : Flasher}
    (hs : Refines cfg s f) :
    Refines cfg s.chunkAborted f.chunkAborted := by
  have hnext : Refines cfg (s.become f.chunkAborted) f.chunkAborted :=
    hs.become (.of_idle f rfl)
  rw [BufferedFlasher.chunkAborted, hs.view]
  exact hnext

section Fragments

variable {uploadBuflen : ℕ}
  (hfits : cfg.maxChunkSize + uploadBuflen < 2 ^ 32)

include hfits

/-- The array takes the fragment exactly if the list does. -/
theorem Refines.chunkWrite {s : BufferedFlasher} {f : Flasher}
    (hs : Refines cfg s f) {buf : List Byte}
    (hbuf : buf.length ≤ uploadBuflen) :
    Refines cfg (s.chunkWrite cfg buf) (f.chunkWrite cfg buf) := by
  obtain ⟨hsound, rfl⟩ := hs
  have hsizes : s.receivedSize ≤ s.flasher.chunk.expectedSize ∧
      s.flasher.chunk.expectedSize ≤ cfg.maxChunkSize := hsound.sizes
  have harray := hsound.array
  have hsize : u32 (s.receivedSize + buf.length) =
      s.receivedSize + buf.length :=
    u32_of_lt (by omega)
  unfold BufferedFlasher.chunkWrite Flasher.chunkWrite
  rw [hsize, hsound.receivedSize_view]
  have hstate : s.view.chunk.state = s.flasher.chunk.state := rfl
  have hexpected : s.view.chunk.expectedSize =
      s.flasher.chunk.expectedSize := rfl
  dsimp only
  rw [hstate, hexpected]
  split_ifs with hother hempty hover
  · exact ⟨hsound, rfl⟩
  · exact ⟨hsound, rfl⟩
  · exact Refines.become ⟨hsound, rfl⟩ (.inl ⟨rfl, rfl⟩)
  · have hinside : s.receivedSize + buf.length ≤ s.data.length := by omega
    have hgrown : Sound cfg ({ s with
        data := memcpy s.data s.receivedSize buf
        receivedSize := s.receivedSize + buf.length }.note
          (.copy s.receivedSize buf.length)) := by
      refine ⟨(length_memcpy hinside).trans harray, ?_, ?_⟩
      · exact ⟨not_lt.mp (not_or.mp hover).1, hsizes.2⟩
      · intro event hmem
        rcases List.mem_cons.mp hmem with rfl | hold
        · exact not_lt.mp (not_or.mp hover).2
        · exact hsound.log event hold
    refine ⟨hgrown.noteSizes, ?_⟩
    simp only [BufferedFlasher.noteSizes, note, BufferedFlasher.view,
      take_memcpy hinside]

/-! ## A request and an iteration -/

theorem Refines.chunkBuffers {s : BufferedFlasher} {f : Flasher}
    (hs : Refines cfg s f) {part : UploadPart}
    (hpart : ∀ buffer ∈ part.buffers,
      buffer.buf.length ≤ uploadBuflen) :
    Refines cfg (s.chunkBuffers cfg part) (f.chunkBuffers cfg part) := by
  unfold BufferedFlasher.chunkBuffers Flasher.chunkBuffers
  generalize part.buffers = buffers at hpart ⊢
  induction buffers generalizing s f with
  | nil => exact hs
  | cons buffer buffers ih =>
      have hwrite := hs.chunkWrite hfits (hpart buffer (.head buffers))
      exact ih hwrite fun other hother => hpart other (.tail _ hother)

theorem Refines.chunkPart (ms : ℕ) (headers : FlasherHeaders)
    {s : BufferedFlasher} {f : Flasher} (hs : Refines cfg s f)
    {part : UploadPart}
    (hpart : ∀ buffer ∈ part.buffers,
      buffer.buf.length ≤ uploadBuflen) :
    Refines cfg (chunkPart cfg ms headers s part)
      (Flasher.chunkPart cfg ms headers f part) :=
  ((hs.chunkStart ms headers).chunkBuffers hfits hpart).chunkEnd ms
    part.payload

theorem Refines.chunkParts (ms : ℕ) (headers : FlasherHeaders)
    {s : BufferedFlasher} {f : Flasher} (hs : Refines cfg s f)
    {parts : List UploadPart}
    (hparts : ∀ part ∈ parts, ∀ buffer ∈ part.buffers,
      buffer.buf.length ≤ uploadBuflen) :
    Refines cfg (parts.foldl (BufferedFlasher.chunkPart cfg ms headers) s)
      (parts.foldl (Flasher.chunkPart cfg ms headers) f) := by
  induction parts generalizing s f with
  | nil => exact hs
  | cons part parts ih =>
      have hnext := hs.chunkPart hfits ms headers
        (hparts part (.head parts))
      exact ih hnext fun other hother => hparts other (.tail _ hother)

theorem Refines.handleUpdateChunk (ms : ℕ) (headers : FlasherHeaders)
    {s : BufferedFlasher} {f : Flasher} (hs : Refines cfg s f)
    {upload : Upload}
    (hparts : ∀ part ∈ upload.allParts, ∀ buffer ∈ part.buffers,
      buffer.buf.length ≤ uploadBuflen) :
    Refines cfg (s.handleUpdateChunk cfg ms headers upload).1
        (f.handleUpdateChunk cfg ms headers upload).1 ∧
      (s.handleUpdateChunk cfg ms headers upload).2 =
        (f.handleUpdateChunk cfg ms headers upload).2 := by
  have hfirst : ∀ part ∈ upload.parts, ∀ buffer ∈ part.buffers,
      buffer.buf.length ≤ uploadBuflen :=
    fun part hmem => hparts part (List.mem_append_left _ hmem)
  have hwhole := hs.chunkParts hfits ms headers hfirst
  unfold BufferedFlasher.handleUpdateChunk Flasher.handleUpdateChunk
  generalize upload.parts.foldl (BufferedFlasher.chunkPart cfg ms headers) s
    = t at hwhole ⊢
  generalize upload.parts.foldl (Flasher.chunkPart cfg ms headers) f
    = g at hwhole ⊢
  have hlost : Refines cfg
      (upload.lost.elim t (BufferedFlasher.chunkLost cfg ms headers t))
      (upload.lost.elim g (Flasher.chunkLost cfg ms headers g)) := by
    cases hcut : upload.lost with
    | none => exact hwhole
    | some part =>
        have hmem : part ∈ upload.allParts := by
          simp [Upload.allParts, hcut]
        exact ((hwhole.chunkStart ms headers).chunkBuffers hfits
          (hparts part hmem)).chunkAborted
  dsimp only
  generalize upload.lost.elim t (BufferedFlasher.chunkLost cfg ms headers t)
    = t at hlost ⊢
  generalize upload.lost.elim g (Flasher.chunkLost cfg ms headers g)
    = g at hlost ⊢
  split
  · rw [hlost.view]
    exact ⟨hlost.become (Flasher.keepsBuffer_answerChunk g ms), rfl⟩
  · exact ⟨hlost, rfl⟩

theorem Refines.serve {s : BufferedFlasher} {f : Flasher}
    (hs : Refines cfg s f) {iteration : Iteration}
    (hfragments : iteration.FragmentsFit uploadBuflen) :
    Refines cfg (s.serve cfg iteration.request).1
        (f.serve cfg iteration.request).1 ∧
      (s.serve cfg iteration.request).2 =
        (f.serve cfg iteration.request).2 := by
  unfold BufferedFlasher.serve
  split
  · rename_i ms headers upload hrequest
    have hparts : ∀ part ∈ upload.allParts, ∀ buffer ∈ part.buffers,
        buffer.buf.length ≤ uploadBuflen := by
      intro part hmem buffer hbuffer
      apply hfragments
      simp only [Iteration.fragments, hrequest]
      exact List.mem_flatMap.mpr ⟨part, hmem, hbuffer⟩
    rw [hrequest]
    exact hs.handleUpdateChunk hfits ms headers hparts
  · rename_i hother
    rw [hs.view]
    exact ⟨hs.become (.of_chunk (Flasher.chunk_serve cfg f hother)), rfl⟩

theorem Refines.serveAndAct {s : BufferedFlasher} {f : Flasher}
    (hs : Refines cfg s f) {iteration : Iteration}
    (hfragments : iteration.FragmentsFit uploadBuflen) :
    Refines cfg (s.serveAndAct cfg iteration)
      (f.serveAndAct cfg iteration) := by
  have hserved := (hs.serve hfits hfragments).1
  have hacted := hserved.become
    (Flasher.keepsBuffer_executeAction _ iteration.env)
  unfold BufferedFlasher.serveAndAct Flasher.serveAndAct
  dsimp only
  rw [hserved.view]
  exact hacted

end Fragments

theorem Sound.note_handed {s : BufferedFlasher} (hs : s.Sound cfg)
    (chunk : SentChunk) : (s.note (.handed chunk)).Sound cfg := by
  refine ⟨hs.array, hs.sizes, ?_⟩
  intro event hmem
  rcases List.mem_cons.mp hmem with rfl | hold
  · trivial
  · exact hs.log event hold

theorem Refines.processPendingChunk {s : BufferedFlasher} {f : Flasher}
    (hs : Refines cfg s f) (env : LoopEnv) :
    Refines cfg (s.processPendingChunk env) (f.processPendingChunk env) := by
  have hnoted : Refines cfg
      (if Hands s.flasher then s.note (.handed s.pending) else s) f := by
    split
    · exact ⟨hs.sound.note_handed _, hs.view⟩
    · exact hs
  unfold BufferedFlasher.processPendingChunk
  dsimp only
  rw [hnoted.view]
  exact hnoted.become (Flasher.keepsBuffer_processPendingChunk f env)

theorem Refines.finish {s : BufferedFlasher} {f : Flasher}
    (hs : Refines cfg s f) (env : LoopEnv) :
    Refines cfg (s.finish cfg env) (f.finish cfg env) := by
  have hprocessed := hs.processPendingChunk env
  unfold BufferedFlasher.finish
  dsimp only
  rw [hprocessed.view]
  exact hprocessed.become (Flasher.keepsBuffer_watchdogs _ env)

theorem Refines.restarted {s : BufferedFlasher} {f : Flasher}
    (hs : Refines cfg s f) : s.flasher.restarted = f.restarted := by
  rw [← hs.view]
  rfl

/-- One iteration over the array is one over the list. -/
theorem Refines.iterate {uploadBuflen : ℕ}
    (hfits : cfg.maxChunkSize + uploadBuflen < 2 ^ 32)
    {s : BufferedFlasher} {f : Flasher} (hs : Refines cfg s f)
    {iteration : Iteration}
    (hfragments : iteration.FragmentsFit uploadBuflen) :
    Refines cfg (s.iterate cfg iteration) (f.iterate cfg iteration) := by
  have hacted := hs.serveAndAct hfits hfragments
  rw [Flasher.iterate_eq]
  unfold BufferedFlasher.iterate
  dsimp only
  rw [hs.restarted, hacted.restarted]
  split
  · exact hs
  · split
    · exact hacted
    · exact hacted.finish iteration.env

theorem refines_ready (cfg : FlasherConfig) (vIdle vLoad ms : ℕ) :
    Refines cfg (ready cfg vIdle vLoad ms)
      (Flasher.ready vIdle vLoad ms) := by
  refine ⟨⟨?_, ?_, ?_⟩, ?_⟩
  · exact List.length_replicate
  · exact ⟨Nat.zero_le _, Nat.zero_le _⟩
  · simp [ready]
  · simp [ready, view, Flasher.ready, Flasher.resetFlasherState,
      PendingChunk.idle]

end BufferedFlasher

end SensorFirmware
