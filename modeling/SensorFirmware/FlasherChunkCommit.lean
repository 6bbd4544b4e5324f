import SensorFirmware.FlasherIteration
import SensorFirmware.GuardedRun

/-!
# What a committed chunk session has written

The code accepts any chunk index above the last one, takes the total count
from the chunk at hand and never compares the bytes written with the size that
`/start` announced, although the legacy path does.  If every accepted chunk is
the next one of a session with one total count, and the last one reaches the
announced size, then every commit is of a whole image.
-/

namespace SensorFirmware

open EventTrace GuardedRun

/-- The calls of `Update.write` since the last `Update.begin`, newest first. -/
def writesSinceBegin : List FlasherEvent → List (List Byte × Option SentChunk)
  | [] => []
  | .begin _ _ _ :: _ => []
  | .write data sent :: past => (data, sent) :: writesSinceBegin past
  | _ :: past => writesSinceBegin past

/-- Session and size of the last accepted `/start`. -/
def lastAnnounced : List FlasherEvent → Option (ℕ × ℕ)
  | [] => none
  | .announce sessionId size :: _ => some (sessionId, size)
  | _ :: past => lastAnnounced past

/-- Each write is the payload of a chunk of the session, whose index is the
number of writes before it. -/
def InOrder (sessionId : ℕ) (total : ℤ) :
    List (List Byte × Option SentChunk) → Prop
  | [] => True
  | (data, sent) :: older =>
      sent = some {
        sessionId := sessionId
        index := older.length
        total := total
        payload := data } ∧ InOrder sessionId total older

instance decidableInOrder (sessionId : ℕ) (total : ℤ) :
    ∀ writes, Decidable (InOrder sessionId total writes)
  | [] => isTrue trivial
  | (_, _) :: older =>
      have : Decidable (InOrder sessionId total older) :=
        decidableInOrder sessionId total older
      inferInstanceAs (Decidable (_ ∧ _))

def writtenSize (writes : List (List Byte × Option SentChunk)) : ℕ :=
  (writes.map fun write => write.1.length).sum

/-- The writes are the chunks `0, …, T - 1` of the announced session, `T` being
their total count, and together they have the announced size. -/
def WholeImage (past : List FlasherEvent) : Prop :=
  ∃ session ∈ lastAnnounced past,
    InOrder session.1 (writesSinceBegin past).length
        (writesSinceBegin past) ∧
      writtenSize (writesSinceBegin past) = session.2

instance (past : List FlasherEvent) : Decidable (WholeImage past) :=
  inferInstanceAs (Decidable (∃ session ∈ lastAnnounced past, _))

/-- What `Update.end(true)` on the chunk path may commit. -/
def CommitsWhole (past : List FlasherEvent) (event : FlasherEvent) : Prop :=
  event = .finish .chunks true → WholeImage past

instance (past : List FlasherEvent) (event : FlasherEvent) :
    Decidable (CommitsWhole past event) :=
  inferInstanceAs (Decidable (_ → _))

namespace Flasher

/-- Every commit so far was of a whole image. -/
structure CommitsIntact (f : Flasher) : Prop where
  commits : Always CommitsWhole f.trace

instance (f : Flasher) : Decidable f.CommitsIntact :=
  decidable_of_iff (Always CommitsWhole f.trace)
    ⟨CommitsIntact.mk, CommitsIntact.commits⟩

/-- The queued chunk is the next one of its session, has the total count of
the chunks before it, and reaches the announced size if and only if it is the
last one. -/
def NextInSession (f : Flasher) : Prop :=
  f.chunk.chunkIndex = f.state.lastChunkIndex + 1 ∧
    (∀ write ∈ writesSinceBegin f.trace, ∀ sent ∈ write.2,
      sent.total = f.chunk.totalChunks) ∧
    f.state.written + f.chunk.receivedSize ≤ f.state.total ∧
    (isFinalChunk f.chunk = true →
      f.state.written + f.chunk.receivedSize = f.state.total)

instance (f : Flasher) : Decidable f.NextInSession :=
  inferInstanceAs (Decidable (_ ∧ _ ∧ _ ∧ _))

/-- A chunk that this iteration is about to write is the next one. -/
def WritesNext (cfg : FlasherConfig) (f : Flasher) (iteration : Iteration) :
    Prop :=
  f.restarted = false →
    (f.serveAndAct cfg iteration).restarted = false →
      (f.serveAndAct cfg iteration).chunk.state = .queued →
        (f.serveAndAct cfg iteration).state.phase = .receiving →
          (f.serveAndAct cfg iteration).NextInSession

instance (cfg : FlasherConfig) (f : Flasher) (iteration : Iteration) :
    Decidable (f.WritesNext cfg iteration) :=
  inferInstanceAs (Decidable (_ → _ → _ → _ → _))

/-- What the trace of a session being received looks like. -/
structure SessionInOrder (f : Flasher) : Prop where
  announced : lastAnnounced f.trace =
    some (f.state.sessionId, f.state.total)
  inOrder : ∃ total,
    InOrder f.state.sessionId total (writesSinceBegin f.trace)
  lastIndex : f.state.lastChunkIndex =
    (writesSinceBegin f.trace).length - 1
  written : f.state.written = writtenSize (writesSinceBegin f.trace)
  sizeFits : f.state.total < 2 ^ 32

structure InSession (f : Flasher) : Prop where
  coherent : f.Coherent
  session : f.restarted = false → f.state.phase = .receiving →
    f.SessionInOrder
  commits : Always CommitsWhole f.trace

theorem always_commitsWhole_iff {older newer : List FlasherEvent}
    (hext : Extends FlasherEvent.Ordinary older newer) :
    Always CommitsWhole newer ↔ Always CommitsWhole older := by
  apply hext.always_iff
  intro event hordinary past hfinish
  exact absurd hfinish hordinary.2.2

/-- Chunks of one session with one total are in order under any total, as long
as there are none. -/
theorem inOrder_total {sessionId : ℕ} {total next : ℤ}
    {writes : List (List Byte × Option SentChunk)}
    (hinOrder : InOrder sessionId total writes)
    (hsame : ∀ write ∈ writes, ∀ sent ∈ write.2, sent.total = next) :
    InOrder sessionId next writes := by
  induction writes with
  | nil => trivial
  | cons write older ih =>
      obtain ⟨hsent, holder⟩ := hinOrder
      have htotal : total = next :=
        hsame write List.mem_cons_self _ (by rw [hsent]; rfl)
      refine ⟨by rw [hsent, htotal], ih holder ?_⟩
      intro other hother
      exact hsame other (List.mem_cons_of_mem _ hother)

theorem Fresh.sessionInOrder {f next : Flasher} (hfresh : Fresh f next) :
    next.SessionInOrder := by
  refine ⟨?_, ⟨0, ?_⟩, ?_, ?_, hfresh.fits⟩
  · simp [hfresh.trace, lastAnnounced]
  · simp [hfresh.trace, writesSinceBegin, InOrder]
  · simp [hfresh.trace, writesSinceBegin, hfresh.lastChunkIndex]
  · simp [hfresh.trace, writesSinceBegin, writtenSize, hfresh.written]

theorem SessionInOrder.queued {f : Flasher} (hsession : f.SessionInOrder)
    (hslot : f.SlotOk) (hqueued : f.chunk.state = .queued)
    (hnext : f.NextInSession) :
    InOrder f.state.sessionId f.chunk.totalChunks
        ((f.chunk.data, f.sent) :: writesSinceBegin f.trace) ∧
      f.chunk.chunkIndex = (writesSinceBegin f.trace).length := by
  obtain ⟨total, hinOrder⟩ := hsession.inOrder
  obtain ⟨hindex, hsame, -, -⟩ := hnext
  obtain ⟨hsessionId, hsent⟩ := hslot.queued hqueued
  have hposition : f.chunk.chunkIndex =
      (writesSinceBegin f.trace).length := by
    rw [hindex, hsession.lastIndex]
    omega
  refine ⟨⟨?_, inOrder_total hinOrder hsame⟩, hposition⟩
  rw [hsent, hsessionId, hposition]

theorem SessionInOrder.written_queued {f : Flasher}
    (hsession : f.SessionInOrder) :
    writtenSize ((f.chunk.data, f.sent) :: writesSinceBegin f.trace) =
      f.state.written + f.chunk.receivedSize := by
  rw [hsession.written]
  simp [writtenSize, PendingChunk.receivedSize, Nat.add_comm]

theorem SessionInOrder.congr {f next : Flasher}
    (hsession : f.SessionInOrder)
    (hsessionId : next.state.sessionId = f.state.sessionId)
    (htotal : next.state.total = f.state.total)
    (hwritten : next.state.written = f.state.written)
    (hlast : next.state.lastChunkIndex = f.state.lastChunkIndex)
    (htrace : next.trace = f.trace) : next.SessionInOrder := by
  constructor
  · rw [hsessionId, htotal, htrace]
    exact hsession.announced
  · rw [hsessionId, htrace]
    exact hsession.inOrder
  · rw [hlast, htrace]
    exact hsession.lastIndex
  · rw [hwritten, htrace]
    exact hsession.written
  · rw [htotal]
    exact hsession.sizeFits

theorem SessionInOrder.of_state_eq {f next : Flasher}
    (hsession : f.SessionInOrder) (hstate : next.state = f.state)
    (htrace : next.trace = f.trace) : next.SessionInOrder := by
  apply hsession.congr <;> simp [hstate, htrace]

theorem ChunkWritten.sessionInOrder {f next : Flasher}
    (hwritten : ChunkWritten f next) (hsession : f.SessionInOrder)
    (hslot : f.SlotOk) (hnext : f.NextInSession) :
    next.SessionInOrder := by
  obtain ⟨hinOrder, hindex⟩ := hsession.queued hslot hwritten.queued hnext
  have hwrites : writesSinceBegin next.trace =
      (f.chunk.data, f.sent) :: writesSinceBegin f.trace := by
    rw [hwritten.trace]
    rfl
  constructor
  · rw [hwritten.trace, hwritten.sessionId, hwritten.total]
    exact hsession.announced
  · rw [hwrites, hwritten.sessionId]
    exact ⟨f.chunk.totalChunks, hinOrder⟩
  · rw [hwrites, hwritten.lastChunkIndex, hindex]
    simp
  · have hsmall : f.state.written + f.chunk.receivedSize < 2 ^ 32 :=
      Nat.lt_of_le_of_lt hnext.2.2.1 hsession.sizeFits
    rw [hwrites, hwritten.written, hsession.written_queued]
    exact u32_of_lt hsmall
  · rw [hwritten.total]
    exact hsession.sizeFits

theorem Committed.wholeImage {f next : Flasher}
    (hcommit : Committed f next) (hsession : f.SessionInOrder)
    (hslot : f.SlotOk) (hnext : f.NextInSession) :
    WholeImage (.phase .verifying :: .write f.chunk.data f.sent ::
      f.trace) := by
  obtain ⟨hinOrder, hindex⟩ := hsession.queued hslot hcommit.queued hnext
  have htotal : f.chunk.totalChunks =
      ((f.chunk.data, f.sent) :: writesSinceBegin f.trace).length := by
    have hfinal := hcommit.final
    simp only [isFinalChunk, Bool.and_eq_true, decide_eq_true_eq,
      beq_iff_eq] at hfinal
    rw [List.length_cons]
    push_cast
    omega
  refine ⟨_, hsession.announced, ?_, ?_⟩
  · rw [htotal] at hinOrder
    exact hinOrder
  · exact hsession.written_queued.trans (hnext.2.2.2 hcommit.final)

theorem finish_inSession (cfg : FlasherConfig) {f : Flasher}
    (hslot : f.SlotOk)
    (hsession : f.state.phase = .receiving → f.SessionInOrder)
    (hnext : f.chunk.state = .queued → f.state.phase = .receiving →
      f.NextInSession)
    (hcommits : Always CommitsWhole f.trace) (env : LoopEnv) :
    Always CommitsWhole (f.finish cfg env).trace ∧
      ((f.finish cfg env).state.phase = .receiving →
        (f.finish cfg env).SessionInOrder) := by
  have hwatch := watchStep_watchdogs cfg (f.processPendingChunk env) env
  have hprocess := processPendingChunk_spec f env
  unfold finish
  generalize f.processPendingChunk env = processed at hwatch hprocess ⊢
  have hprocessed : Always CommitsWhole processed.trace ∧
      (processed.state.phase = .receiving → processed.SessionInOrder) := by
    cases hprocess with
    | unchanged state action trace =>
        rw [state, trace]
        exact ⟨hcommits, fun hphase => (hsession hphase).of_state_eq state trace⟩
    | written action chunk =>
        have hsessionHere := hsession chunk.phase.1
        have hnextHere := hnext chunk.queued chunk.phase.1
        refine ⟨?_, fun _ =>
          chunk.sessionInOrder hsessionHere hslot hnextHere⟩
        rw [chunk.trace]
        exact ⟨by simp [CommitsWhole], hcommits⟩
    | committed commit =>
        have hwhole := commit.wholeImage (hsession commit.before) hslot
          (hnext commit.queued commit.before)
        refine ⟨?_, by simp [commit.phase]⟩
        rw [commit.trace]
        exact ⟨by simp [CommitsWhole], by simp [CommitsWhole],
          fun _ => hwhole, by simp [CommitsWhole], by simp [CommitsWhole],
          hcommits⟩
    | failed action phase trace =>
        exact ⟨(always_commitsWhole_iff trace).mpr hcommits,
          by simp [phase]⟩
  refine ⟨(always_commitsWhole_iff hwatch.ordinary).mpr hprocessed.1, ?_⟩
  intro hphase
  rcases hwatch.outcome with ⟨hstate, htrace⟩ | ⟨-, herror, -⟩
  · rw [hstate] at hphase
    exact (hprocessed.2 hphase).of_state_eq hstate htrace
  · rw [herror] at hphase
    cases hphase

theorem ActOutcome.inSession {f next : Flasher}
    {request : Option (ℕ × FlasherRequest)}
    (hact : ActOutcome f request next)
    (hsession : f.state.phase = .receiving → f.SessionInOrder)
    (hcommits : Always CommitsWhole f.trace) :
    Always CommitsWhole next.trace ∧
      (next.restarted = false → next.state.phase = .receiving →
        next.SessionInOrder) := by
  cases hact with
  | ordinary _ trace _ _ _ receiving =>
      refine ⟨(always_commitsWhole_iff trace).mpr hcommits, ?_⟩
      intro hlive hphase
      rcases receiving hlive hphase with ⟨hbefore, hkept, htrace⟩ | hfresh
      · exact (hsession hbefore).congr
          (congrArg SessionView.sessionId hkept)
          (congrArg SessionView.total hkept)
          (congrArg SessionView.written hkept)
          (congrArg SessionView.lastChunkIndex hkept) htrace
      · exact hfresh.sessionInOrder
  | reported before restarted trace origin =>
      have hbefore : Always CommitsWhole before.trace := by
        rcases origin with ⟨-, -, rfl⟩ | ⟨-, -, upload, -⟩
        · exact hcommits
        · exact (always_commitsWhole_iff (upload.step.trace.mono
            fun _ hlegacy => hlegacy.ordinary)).mpr hcommits
      refine ⟨?_, by simp [restarted]⟩
      rw [trace]
      simp [CommitsWhole, hbefore]

theorem InSession.iterate (cfg : FlasherConfig) {f : Flasher}
    (hf : f.InSession) (iteration : Iteration)
    (hnext : f.WritesNext cfg iteration) :
    (f.iterate cfg iteration).InSession := by
  have hcoherent := hf.coherent.iterate cfg iteration
  by_cases hrestarted : f.restarted = true
  · rw [iterate_eq, if_pos hrestarted]
    exact hf
  · have hlive : f.restarted = false := by simpa using hrestarted
    have hspec := hf.coherent.serveAndAct_spec cfg hlive iteration
    obtain ⟨hcommits, hsession⟩ :=
      hspec.inSession (hf.session hlive) hf.commits
    rcases iterate_cases cfg hlive iteration with
      ⟨hacted, hiterate⟩ | ⟨hacted, hiterate⟩
    · rw [hiterate] at hcoherent ⊢
      exact ⟨hcoherent, by simp [hacted], hcommits⟩
    · have hslot := hspec.slotOk hacted
      obtain ⟨hfinal, hstill⟩ := finish_inSession cfg hslot
        (hsession hacted) (hnext hlive hacted) hcommits iteration.env
      rw [hiterate] at hcoherent ⊢
      exact ⟨hcoherent, fun _ => hstill, hfinal⟩

theorem inSession_ready (vIdle vLoad ms : ℕ) :
    (ready vIdle vLoad ms).InSession := by
  refine ⟨coherent_ready vIdle vLoad ms, ?_, ?_⟩
  · simp [ready, resetFlasherState]
  · simp [ready, resetFlasherState, CommitsWhole]

/-- In every run of the flasher in which each chunk that gets written is the
next one of its session, every commit is of a whole image. -/
theorem commits_whole_images (cfg : FlasherConfig) (vIdle vLoad ms : ℕ)
    (iterations : List Iteration)
    (hguard : Guarded (iterate cfg) (WritesNext cfg)
      (ready vIdle vLoad ms) iterations) :
    (run (iterate cfg) (ready vIdle vLoad ms)
      iterations).CommitsIntact := by
  have hstep : ∀ (f : Flasher) iteration, f.InSession →
      f.WritesNext cfg iteration → (f.iterate cfg iteration).InSession :=
    fun _ iteration hf hnext => hf.iterate cfg iteration hnext
  have hrun := invariant_run hstep (inSession_ready vIdle vLoad ms) hguard
  exact ⟨hrun.commits⟩

def halfChunk (ms : ℕ) (index : Char) : Iteration :=
  postChunk ms ['7'] [index] ['2'] (List.replicate 512 0)

def twoChunks : List Iteration :=
  [postStart 1000 ['7'] ['1', '0', '2', '4'], halfChunk 2000 '0',
    halfChunk 3000 '1']

theorem commits_two_chunks :
    (run (iterate benchConfig) (ready 4100 4000 500)
      twoChunks).CommitsIntact :=
  commits_whole_images benchConfig 4100 4000 500 twoChunks
    (by decide +kernel)

/-- A session of 1024 bytes that ends after one byte. -/
def oneByteImage : List Iteration :=
  [postStart 1000 ['7'] ['1', '0', '2', '4'],
    postChunk 2000 ['7'] ['0'] ['1'] [0xE9]]

theorem commits_one_byte :
    ¬(run (iterate benchConfig) (ready 4100 4000 500)
      oneByteImage).CommitsIntact := by
  decide +kernel

end Flasher

end SensorFirmware
