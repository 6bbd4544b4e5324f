import SensorFirmware.FlasherChunkUpload
import SensorFirmware.FlasherLegacyUpload

/-!
# What one iteration can do

Between two iterations the device rests in a phase without a pending action,
or an image is finished and the reboot is pending.  Each half of an iteration
has one lemma that says everything it can do to the phase, the pending action
and the trace.
-/

namespace SensorFirmware

open EventTrace

/-- Any event but a success and the commit that leads to one. -/
def FlasherEvent.Ordinary (event : FlasherEvent) : Prop :=
  event ≠ .phase .complete ∧ event ≠ .schedule .rebootSuccess ∧
    event ≠ .finish .chunks true

theorem FlasherEvent.IsLegacy.ordinary {event : FlasherEvent}
    (hlegacy : event.IsLegacy) : event.Ordinary := by
  refine ⟨?_, ?_, ?_⟩ <;> rintro rfl <;>
    simp [FlasherEvent.IsLegacy] at hlegacy

/-- A legacy part arrives, or the session is aborted. -/
def disturbs : Option (ℕ × FlasherRequest) → Bool
  | some (_, .abort) => true
  | some (_, .update _ _ upload) => upload.hasPart
  | _ => false

namespace Flasher

/-- The request handler of `/update` is called without a part and finds no
error. -/
def partlessSuccess (f : Flasher) : Option (ℕ × FlasherRequest) → Bool
  | some (_, .update _ _ upload) =>
      !upload.hasPart && upload.answered && !upload.hasError &&
        f.state.phase != .error
  | _ => false

/-! ## Requests -/

structure Announced (f next : Flasher) (sessionId size : ℕ) : Prop where
  before : f.state.phase = .ready
  phase : next.state.phase = .ready
  action : next.action = .startSession
  pending : next.pendingSessionId = sessionId ∧
    next.pendingTotalSize = size
  fits : size < 2 ^ 32
  restarted : next.restarted = f.restarted
  trace : next.trace = .schedule .startSession ::
    .announce sessionId size :: f.trace

structure Aborting (f next : Flasher) : Prop where
  action : next.action = .abortReset
  restarted : next.restarted = f.restarted
  trace : next.trace = .schedule .abortReset :: f.trace

/-- The request handler of `/update` reports success. -/
structure Reported (f next : Flasher) : Prop where
  action : next.action = .rebootSuccess
  trace : next.trace =
    .schedule .rebootSuccess :: .phase .complete :: f.trace
  phase : next.state.phase = .complete

inductive ServeOutcome (f : Flasher)
    (request : Option (ℕ × FlasherRequest)) (next : Flasher) : Prop where
  | chunk (calm : disturbs request = false)
      (parted : f.partlessSuccess request = false)
      (step : ChunkStep f next) (slot : next.SlotOk)
  | announced (calm : disturbs request = false)
      (parted : f.partlessSuccess request = false)
      (sessionId size : ℕ) (start : Announced f next sessionId size)
  | aborting (disturbed : disturbs request = true)
      (parted : f.partlessSuccess request = false)
      (abort : Aborting f next)
  | legacy (disturbed : disturbs request = true)
      (parted : f.partlessSuccess request = false)
      (upload : LegacyUpload f next)
  | verified (disturbed : disturbs request = true)
      (parted : f.partlessSuccess request = false)
      (uploaded : Flasher) (upload : LegacyUpload f uploaded)
      (finished : imageFinished uploaded.trace = true)
      (report : Reported uploaded next)
  | partless (calm : disturbs request = false)
      (partless : f.partlessSuccess request = true)
      (report : Reported f next)

/-- `/start` is refused, or it schedules the session. -/
theorem handleStart_cases (f : Flasher) (ms : ℕ) (headers : FlasherHeaders)
    (partitionSize : Option ℕ) :
    (f.handleStart ms headers partitionSize).1 = f.touch ms ∨
      f.state.phase = .ready ∧
        (f.handleStart ms headers partitionSize).1 =
          ({ f.touch ms with
              pendingSessionId := strtoul headers.sessionId
              pendingTotalSize := strtoul headers.totalSize }.note
            (.announce (strtoul headers.sessionId)
              (strtoul headers.totalSize))).schedule .startSession := by
  unfold handleStart
  dsimp only
  by_cases hphase : f.state.phase = .ready
  · rw [if_neg (not_not.mpr (show (f.touch ms).state.phase = .ready
      from hphase))]
    split_ifs
    · exact .inl rfl
    · exact .inl rfl
    · exact .inl rfl
    · cases partitionSize with
      | none => exact .inl rfl
      | some size =>
          dsimp only
          split_ifs
          · exact .inl rfl
          · exact .inr ⟨hphase, rfl⟩
  · rw [if_pos (show (f.touch ms).state.phase ≠ .ready from hphase)]
    split_ifs
    · exact .inl rfl
    · exact .inl rfl
    · exact .inl rfl

theorem handleStart_spec {f : Flasher} (hslot : f.SlotOk) (ms : ℕ)
    (headers : FlasherHeaders) (partitionSize : Option ℕ) :
    ChunkStep f (f.handleStart ms headers partitionSize).1 ∧
        (f.handleStart ms headers partitionSize).1.SlotOk ∨
      ∃ sessionId size, Announced f
        (f.handleStart ms headers partitionSize).1 sessionId size := by
  rcases handleStart_cases f ms headers partitionSize with
    hrefused | ⟨hphase, hstarted⟩
  · rw [hrefused]
    exact .inl ⟨⟨rfl, .inl ⟨rfl, rfl⟩⟩, hslot.notReceiving, hslot.queued⟩
  · rw [hstarted]
    exact .inr ⟨_, _, hphase, hphase, rfl, ⟨rfl, rfl⟩, strtoul_lt _, rfl,
      rfl⟩

theorem answerUpdate_spec (f : Flasher) (hasError : Bool) :
    (hasError = true ∨ f.state.phase = .error) ∧
        (f.answerUpdate hasError).1 = f ∨
      (hasError = false ∧ f.state.phase ≠ .error) ∧
        Reported f (f.answerUpdate hasError).1 := by
  unfold answerUpdate
  by_cases herror : (hasError || decide (f.state.phase = .error)) = true
  · rw [if_pos herror]
    exact .inl ⟨by simpa using herror, rfl⟩
  · rw [if_neg herror]
    exact .inr ⟨by simpa using herror, ⟨rfl, rfl, rfl⟩⟩

theorem handleUpdate_eq (f : Flasher) (ms : ℕ) (headers : FlasherHeaders)
    (partitionSize : Option ℕ) (upload : Upload) :
    (f.handleUpdate ms headers partitionSize upload).1 =
      if upload.answered then
        ((f.legacyUploaded ms headers partitionSize upload).answerUpdate
          upload.hasError).1
      else f.legacyUploaded ms headers partitionSize upload := by
  unfold handleUpdate legacyUploaded
  split <;> simp_all

theorem handleUpdate_spec {f : Flasher} (hslot : f.SlotOk) (ms : ℕ)
    (headers : FlasherHeaders) (partitionSize : Option ℕ)
    (upload : Upload) :
    ServeOutcome f (some (ms, .update headers partitionSize upload))
      (f.handleUpdate ms headers partitionSize upload).1 := by
  rw [handleUpdate_eq]
  by_cases hpart : upload.hasPart = true
  · have hdisturbs : disturbs
        (some (ms, .update headers partitionSize upload)) = true := hpart
    have hparted : f.partlessSuccess
        (some (ms, .update headers partitionSize upload)) = false := by
      simp [partlessSuccess, hpart]
    have hupload :=
      legacyUploaded_of_hasPart f ms headers partitionSize hpart
    generalize f.legacyUploaded ms headers partitionSize upload = uploaded
      at hupload ⊢
    split_ifs with hanswered
    · rcases answerUpdate_spec uploaded upload.hasError with
        ⟨-, hsame⟩ | ⟨⟨-, hphase⟩, hreport⟩
      · rw [hsame]
        exact .legacy hdisturbs hparted hupload
      · rcases hupload.settled with herror | ⟨-, hfinished⟩
        · exact absurd herror hphase
        · exact .verified hdisturbs hparted uploaded hupload hfinished
            hreport
    · exact .legacy hdisturbs hparted hupload
  · have hnone : upload.hasPart = false := by simpa using hpart
    have hcalm : disturbs
        (some (ms, .update headers partitionSize upload)) = false := hnone
    rw [legacyUploaded_of_not_hasPart f ms headers partitionSize hnone]
    split_ifs with hanswered
    · rcases answerUpdate_spec f upload.hasError with
        ⟨herror, hsame⟩ | ⟨⟨hok, hphase⟩, hreport⟩
      · rw [hsame]
        refine .chunk hcalm ?_ (ChunkStep.refl f) hslot
        rcases herror with herror | herror <;>
          simp [partlessSuccess, herror]
      · refine .partless hcalm ?_ hreport
        simp [partlessSuccess, hnone, hanswered, hok, hphase]
    · refine .chunk hcalm ?_ (ChunkStep.refl f) hslot
      simp [partlessSuccess, hanswered]

theorem serve_spec (cfg : FlasherConfig) {f : Flasher} (hslot : f.SlotOk)
    (request : Option (ℕ × FlasherRequest)) :
    ServeOutcome f request (f.serve cfg request).1 := by
  match request with
  | none => exact .chunk rfl rfl (ChunkStep.refl f) hslot
  | some (ms, .status _) =>
      exact .chunk rfl rfl ⟨rfl, .inl ⟨rfl, rfl⟩⟩
        ⟨hslot.notReceiving, hslot.queued⟩
  | some (ms, .start headers partitionSize) =>
      rcases handleStart_spec hslot ms headers partitionSize with
        ⟨hstep, hnext⟩ | ⟨sessionId, size, hstart⟩
      · exact .chunk rfl rfl hstep hnext
      · exact .announced rfl rfl sessionId size hstart
  | some (ms, .abort) => exact .aborting rfl rfl ⟨rfl, rfl, rfl⟩
  | some (ms, .root) => exact .chunk rfl rfl (ChunkStep.refl f) hslot
  | some (ms, .updateChunk headers upload) =>
      obtain ⟨hstep, hnext⟩ :=
        handleUpdateChunk_spec cfg hslot ms headers upload
      exact .chunk rfl rfl hstep hnext
  | some (ms, .update headers partitionSize upload) =>
      exact handleUpdate_spec hslot ms headers partitionSize upload
  | some (ms, .notFound) => exact .chunk rfl rfl (ChunkStep.refl f) hslot

/-! ## The pending action -/

/-- No action is pending, and the phase tells what the `Update` library was
last asked to do. -/
structure Resting (f : Flasher) : Prop where
  action : f.action = .none
  phase : f.state.phase ≠ .complete
  begun : f.state.phase = .receiving → updateBegun f.trace = true
  finished : f.state.phase = .verifying → imageFinished f.trace = true

/-- The chunk protocol has finished an image, and the reboot is pending. -/
structure Succeeded (f : Flasher) : Prop where
  action : f.action = .rebootSuccess
  phase : f.state.phase = .complete
  finished : imageFinished f.trace = true
  seen : .phase .complete ∈ f.trace

/-- What holds between two iterations. -/
structure Coherent (f : Flasher) : Prop where
  slot : f.restarted = false →
    f.chunk.state ≠ .receiving ∧ f.chunk.state ≠ .queued
  live : f.restarted = false → f.Resting ∨ f.Succeeded

theorem Resting.of_error {f : Flasher} (haction : f.action = .none)
    (herror : f.state.phase = .error) : f.Resting := by
  constructor <;> simp_all

theorem executeAction_none {f : Flasher} (haction : f.action = .none)
    (env : LoopEnv) : f.executeAction env = f := by
  simp [executeAction, haction]

theorem executeAction_reboot {f : Flasher}
    (haction : f.action = .rebootSuccess) (env : LoopEnv) :
    (f.executeAction env).restarted = true ∧
      (f.executeAction env).trace =
        .execute .rebootSuccess :: f.trace ∧
      (f.executeAction env).state = f.state := by
  simp [executeAction, haction]

structure SessionStarted (f next : Flasher) : Prop where
  phase : next.state.phase = .receiving
  sessionId : next.state.sessionId = f.pendingSessionId
  total : next.state.total = f.pendingTotalSize
  written : next.state.written = 0
  lastChunkIndex : next.state.lastChunkIndex = -1
  trace : next.trace =
    .phase .receiving :: .begin .chunks f.pendingTotalSize true ::
      .phase .erasing :: .execute .startSession :: f.trace

theorem executeAction_start {f : Flasher}
    (haction : f.action = .startSession)
    (hphase : f.state.phase = .ready) (env : LoopEnv) :
    (f.executeAction env).action = .none ∧
      (f.executeAction env).restarted = f.restarted ∧
      (f.executeAction env).chunk = .idle ∧
      (SessionStarted f (f.executeAction env) ∨
        (f.executeAction env).state.phase = .error ∧
          Extends FlasherEvent.Ordinary f.trace
            (f.executeAction env).trace) := by
  have herasing : ({ f with action := .none }.note
      (.execute .startSession)).transitionPhase .erasing =
        ({ f with action := .none }.note
          (.execute .startSession)).setPhase .erasing := by
    simp [transitionPhase, hphase, isTransitionAllowed]
  simp only [executeAction, haction, startSession, herasing]
  by_cases hok : env.update.beginOk = true
  · simp only [hok, if_true]
    refine ⟨by simp [transitionPhase, isTransitionAllowed],
      by simp [transitionPhase, isTransitionAllowed],
      by simp [transitionPhase, isTransitionAllowed], .inl ?_⟩
    constructor <;> simp [transitionPhase, isTransitionAllowed]
  · simp only [hok]
    refine ⟨by simp, by simp, by simp, .inr ⟨by simp, ?_⟩⟩
    refine ⟨[.phase .error, .begin .chunks f.pendingTotalSize false,
      .phase .erasing, .execute .startSession], by simp, ?_⟩
    simp [FlasherEvent.Ordinary]

theorem executeAction_abort {f : Flasher}
    (haction : f.action = .abortReset) (env : LoopEnv) :
    (f.executeAction env).action = .none ∧
      (f.executeAction env).restarted = f.restarted ∧
      (f.executeAction env).chunk = .idle ∧
      (f.executeAction env).state.phase = .ready ∧
      Extends FlasherEvent.Ordinary f.trace
        (f.executeAction env).trace := by
  rw [executeAction, haction]
  unfold resetFlasherState
  cases env.update.isRunning with
  | false =>
      refine ⟨rfl, rfl, rfl, rfl, [.phase .ready, .execute .abortReset],
        rfl, ?_⟩
      simp [FlasherEvent.Ordinary]
  | true =>
      refine ⟨rfl, rfl, rfl, rfl,
        [.phase .ready, .abort, .execute .abortReset], rfl, ?_⟩
      simp [FlasherEvent.Ordinary]

/-! ## The queued chunk -/

structure ChunkWritten (f next : Flasher) : Prop where
  queued : f.chunk.state = .queued
  phase : f.state.phase = .receiving ∧ next.state.phase = .receiving
  sessionId : next.state.sessionId = f.state.sessionId
  total : next.state.total = f.state.total
  written : next.state.written =
    u32 (f.state.written + f.chunk.receivedSize)
  lastChunkIndex : next.state.lastChunkIndex = f.chunk.chunkIndex
  trace : next.trace = .write f.chunk.data f.sent :: f.trace

/-- The last chunk was written and `Update.end(true)` returned true. -/
structure Committed (f next : Flasher) : Prop where
  queued : f.chunk.state = .queued
  before : f.state.phase = .receiving
  final : isFinalChunk f.chunk = true
  phase : next.state.phase = .complete
  action : next.action = .rebootSuccess
  trace : next.trace = .schedule .rebootSuccess :: .phase .complete ::
    .finish .chunks true :: .phase .verifying ::
      .write f.chunk.data f.sent :: f.trace

inductive ProcessOutcome (f next : Flasher) : Prop where
  | unchanged (state : next.state = f.state) (action : next.action = f.action)
      (trace : next.trace = f.trace)
  | written (action : next.action = f.action) (chunk : ChunkWritten f next)
  | committed (commit : Committed f next)
  | failed (action : next.action = f.action)
      (phase : next.state.phase = .error)
      (trace : Extends FlasherEvent.Ordinary f.trace next.trace)

theorem processPendingChunk_slot {f : Flasher} (env : LoopEnv)
    (hreceiving : f.chunk.state ≠ .receiving) :
    (f.processPendingChunk env).chunk.state ≠ .receiving ∧
      (f.processPendingChunk env).chunk.state ≠ .queued := by
  unfold processPendingChunk
  by_cases hqueued : f.chunk.state = .queued
  · rw [if_neg (not_not.mpr hqueued)]
    dsimp only
    split_ifs
    · simp [PendingChunk.idle]
    · simp
    · simp [PendingChunk.idle]
    · simp [PendingChunk.idle]
  · rw [if_pos hqueued]
    exact ⟨hreceiving, hqueued⟩

theorem commitUpdate_true {f : Flasher}
    (hphase : f.state.phase = .receiving) :
    (f.commitUpdate true).state.phase = .complete ∧
      (f.commitUpdate true).action = .rebootSuccess ∧
      (f.commitUpdate true).trace =
        .schedule .rebootSuccess :: .phase .complete ::
          .finish .chunks true :: .phase .verifying :: f.trace := by
  simp [commitUpdate, transitionPhase, hphase, isTransitionAllowed]

theorem commitUpdate_false {f : Flasher}
    (hphase : f.state.phase = .receiving) :
    (f.commitUpdate false).state.phase = .error ∧
      (f.commitUpdate false).action = f.action ∧
      (f.commitUpdate false).trace =
        .phase .error :: .finish .chunks false :: .phase .verifying ::
          f.trace := by
  simp [commitUpdate, transitionPhase, hphase, isTransitionAllowed]

theorem processPendingChunk_spec (f : Flasher) (env : LoopEnv) :
    ProcessOutcome f (f.processPendingChunk env) := by
  unfold processPendingChunk
  by_cases hqueued : f.chunk.state = .queued
  · rw [if_neg (not_not.mpr hqueued)]
    by_cases hphase : f.state.phase = .receiving
    · rw [if_neg (not_not.mpr hphase)]
      have hsize : f.writeChunk.chunk.receivedSize =
          f.chunk.receivedSize := rfl
      dsimp only
      by_cases hfull : env.written = f.chunk.receivedSize
      · rw [if_neg (not_not.mpr (hfull.trans hsize.symm))]
        have hadvanced : (f.writeChunk.advanceSession env).state.phase =
            .receiving := hphase
        by_cases hfinal : isFinalChunk f.chunk = true
        · rw [if_pos (show isFinalChunk
            (f.writeChunk.advanceSession env).chunk = true from hfinal)]
          cases env.update.endOk with
          | true =>
              obtain ⟨hcomplete, haction, htrace⟩ :=
                commitUpdate_true hadvanced
              exact .committed
                ⟨hqueued, hphase, hfinal, hcomplete, haction, htrace⟩
          | false =>
              obtain ⟨herror, haction, htrace⟩ :=
                commitUpdate_false hadvanced
              refine .failed haction herror
                ⟨[.phase .error, .finish .chunks false,
                  .phase .verifying, .write f.chunk.data f.sent],
                  htrace, ?_⟩
              simp [FlasherEvent.Ordinary]
        · rw [if_neg (show ¬isFinalChunk
            (f.writeChunk.advanceSession env).chunk = true from hfinal)]
          refine .written rfl
            ⟨hqueued, ⟨hphase, hphase⟩, rfl, rfl, ?_, rfl, rfl⟩
          rw [← hfull]
          rfl
      · rw [if_pos (show env.written ≠ f.writeChunk.chunk.receivedSize
          from hfull)]
        refine .failed rfl rfl
          ⟨[.abort, .phase .error, .write f.chunk.data f.sent], rfl, ?_⟩
        simp [FlasherEvent.Ordinary]
    · rw [if_pos hphase]
      exact .unchanged rfl rfl rfl
  · rw [if_pos hqueued]
    exact .unchanged rfl rfl rfl

/-! ## The watchdogs -/

/-- The two phases that the watchdogs end. -/
def Running (f : Flasher) : Prop :=
  f.state.phase = .receiving ∨ f.state.phase = .erasing

structure WatchStep (f next : Flasher) : Prop where
  action : next.action = f.action
  chunk : next.chunk.state = f.chunk.state ∨ next.chunk.state = .idle
  outcome :
    next.state = f.state ∧ next.trace = f.trace ∨
      f.Running ∧ next.state.phase = .error ∧
        Extends (fun event => event = .abort ∨ event = .phase .error)
          f.trace next.trace

theorem WatchStep.refl (f : Flasher) : WatchStep f f :=
  ⟨rfl, .inl rfl, .inl ⟨rfl, rfl⟩⟩

theorem WatchStep.trans {first second third : Flasher}
    (hfirst : WatchStep first second) (hsecond : WatchStep second third) :
    WatchStep first third := by
  refine ⟨hsecond.action.trans hfirst.action, ?_, ?_⟩
  · rcases hsecond.chunk with hsame | hidle
    · rw [hsame]
      exact hfirst.chunk
    · exact .inr hidle
  · rcases hfirst.outcome with ⟨hstate, htrace⟩ | ⟨hrunning, herror, hext⟩
    · have houtcome := hsecond.outcome
      unfold Running at houtcome
      rw [hstate, htrace] at houtcome
      exact houtcome
    · rcases hsecond.outcome with ⟨hstate, htrace⟩ | ⟨hrunning', -, -⟩
      · exact .inr ⟨hrunning, by rw [hstate]; exact herror,
          hext.trans (.of_eq htrace)⟩
      · simp [Running, herror] at hrunning'

theorem watchStep_watchdog {f : Flasher} {fires : Bool}
    (hfires : fires = true → f.Running) (error : FlasherError)
    (message : String) :
    WatchStep f (f.watchdog fires error message) := by
  unfold watchdog
  cases fires with
  | false => exact WatchStep.refl f
  | true =>
      have herror : Extends
          (fun event => event = .abort ∨ event = .phase .error) f.trace
          (.phase .error :: f.trace) :=
        (Extends.refl _).cons (.inr rfl)
      exact ⟨rfl, .inr rfl, .inr ⟨hfires rfl, rfl,
        herror.cons (.inl rfl)⟩⟩

theorem watchStep_idleWatch (f : Flasher) (now : ℕ) :
    WatchStep f (f.idleWatch now) := by
  apply watchStep_watchdog
  intro hfires
  simp only [Bool.and_eq_true, Bool.or_eq_true, beq_iff_eq] at hfires
  exact hfires.1

theorem watchStep_progressWatch (cfg : FlasherConfig) (f : Flasher)
    (now : ℕ) : WatchStep f (f.progressWatch cfg now) := by
  apply watchStep_watchdog
  intro hfires
  simp only [Bool.and_eq_true, beq_iff_eq] at hfires
  exact .inl hfires.1.1.1

theorem watchStep_chunkWatch (f : Flasher) (state : ChunkBufferState)
    (now timeoutMs : ℕ) (message : String) :
    WatchStep f (f.chunkWatch state now timeoutMs message) := by
  apply watchStep_watchdog
  intro hfires
  simp only [Bool.and_eq_true, beq_iff_eq] at hfires
  exact .inl hfires.1.1.1

theorem watchStep_batteryWatch (cfg : FlasherConfig) (f : Flasher)
    (env : LoopEnv) : WatchStep f (f.batteryWatch cfg env) := by
  unfold batteryWatch
  split
  · dsimp only
    split
    · rename_i hlow
      have habort : Extends
          (fun event => event = .abort ∨ event = .phase .error) f.trace
          (.abort :: f.trace) :=
        (Extends.refl _).cons (.inl rfl)
      have hrunning : f.Running := by
        simp only [Bool.and_eq_true, beq_iff_eq] at hlow
        exact .inl hlow.1.2
      exact ⟨rfl, .inl rfl, .inr ⟨hrunning, rfl, habort.cons (.inr rfl)⟩⟩
    · exact ⟨rfl, .inl rfl, .inl ⟨rfl, rfl⟩⟩
  · exact WatchStep.refl f

theorem watchStep_watchdogs (cfg : FlasherConfig) (f : Flasher)
    (env : LoopEnv) : WatchStep f (f.watchdogs cfg env) := by
  have hidle := watchStep_idleWatch f env.now
  unfold watchdogs
  dsimp only
  split
  · exact hidle.trans ⟨rfl, .inl rfl, .inl ⟨rfl, rfl⟩⟩
  · have hprogress := hidle.trans (watchStep_progressWatch cfg _ env.now)
    have hreceive := hprogress.trans (watchStep_chunkWatch _ .receiving
      env.now cfg.chunkReceiveTimeoutMs "Chunk receive timeout")
    have hwrite := hreceive.trans (watchStep_chunkWatch _ .queued
      env.now cfg.chunkWriteTimeoutMs "Chunk write timeout")
    exact hwrite.trans (watchStep_batteryWatch cfg _ env)

/-! ## The whole iteration -/

/-- An abort or a legacy part has left its mark on the trace. -/
def Disturbed (older newer : List FlasherEvent) : Prop :=
  ∃ after event before, newer = after ++ event :: before ∧
    older <:+ before ∧
    (event = .schedule .abortReset ∨ event = .phase .receiving)

theorem Disturbed.trans {allowed : FlasherEvent → Prop}
    {first second third : List FlasherEvent}
    (hdisturbed : Disturbed first second)
    (hext : Extends allowed second third) : Disturbed first third := by
  obtain ⟨after, event, before, rfl, hbefore, hevent⟩ := hdisturbed
  obtain ⟨events, rfl, -⟩ := hext
  exact ⟨events ++ after, event, before, by simp, hbefore, hevent⟩

theorem LegacyUpload.disturbed {f next : Flasher}
    (hupload : LegacyUpload f next) : Disturbed f.trace next.trace := by
  obtain ⟨before, ⟨events, hbefore, -⟩, ⟨after, hafter, -⟩⟩ :=
    hupload.takenOver
  exact ⟨after, .phase .receiving, before, hafter, ⟨events, hbefore.symm⟩,
    .inr rfl⟩

/-- A session that was just announced and started. -/
structure Fresh (f next : Flasher) : Prop where
  fits : next.state.total < 2 ^ 32
  written : next.state.written = 0
  lastChunkIndex : next.state.lastChunkIndex = -1
  trace : next.trace =
    .phase .receiving :: .begin .chunks next.state.total true ::
      .phase .erasing :: .execute .startSession ::
        .schedule .startSession ::
          .announce next.state.sessionId next.state.total :: f.trace

inductive ActOutcome (f : Flasher) (request : Option (ℕ × FlasherRequest))
    (next : Flasher) : Prop where
  | ordinary (parted : f.partlessSuccess request = false)
      (trace : Extends FlasherEvent.Ordinary f.trace next.trace)
      (rest : next.restarted = true ∨ next.Resting ∧ next.SlotOk)
      (disturbed : disturbs request = true → Disturbed f.trace next.trace)
      (calm : disturbs request = false → f.Succeeded →
        next.restarted = true ∧
          next.trace = .execute .rebootSuccess :: f.trace)
      (receiving : next.restarted = false →
        next.state.phase = .receiving →
          f.state.phase = .receiving ∧ next.session = f.session ∧
              next.trace = f.trace ∨
            Fresh f next)
  | reported (before : Flasher) (restarted : next.restarted = true)
      (trace : next.trace = .execute .rebootSuccess ::
        .schedule .rebootSuccess :: .phase .complete :: before.trace)
      (origin :
        (disturbs request = false ∧ f.partlessSuccess request = true ∧
            before = f) ∨
          (disturbs request = true ∧ f.partlessSuccess request = false ∧
            LegacyUpload f before ∧
            imageFinished before.trace = true))

theorem Coherent.slotOk {f : Flasher} (hcoherent : f.Coherent)
    (hlive : f.restarted = false) : f.SlotOk := by
  obtain ⟨hreceiving, hqueued⟩ := hcoherent.slot hlive
  exact ⟨hreceiving, fun hstate => absurd hstate hqueued⟩

theorem SlotOk.of_idle {f : Flasher} (hidle : f.chunk = .idle) :
    f.SlotOk := by
  constructor <;> simp [Queued, hidle, PendingChunk.idle]

theorem ChunkStep.resting {f next : Flasher} (hstep : ChunkStep f next)
    (hresting : f.Resting) : next.Resting := by
  have haction : next.action = .none :=
    (congrArg SessionView.action hstep.session).trans hresting.action
  rcases hstep.outcome with ⟨hphase, htrace⟩ | ⟨-, herror, -⟩
  · refine ⟨haction, ?_, ?_, ?_⟩
    · rw [hphase]
      exact hresting.phase
    · rw [hphase, htrace]
      exact hresting.begun
    · rw [hphase, htrace]
      exact hresting.finished
  · exact Resting.of_error haction herror

theorem ChunkStep.ordinary {f next : Flasher} (hstep : ChunkStep f next) :
    Extends FlasherEvent.Ordinary f.trace next.trace := by
  rcases hstep.outcome with ⟨-, htrace⟩ | ⟨-, -, hext⟩
  · exact .of_eq htrace
  · apply hext.mono
    rintro event rfl
    simp [FlasherEvent.Ordinary]

theorem Settled.resting {f : Flasher} (hsettled : f.Settled)
    (haction : f.action = .none) : f.Resting := by
  rcases hsettled with herror | ⟨hphase, hfinished⟩
  · exact Resting.of_error haction herror
  · refine ⟨haction, ?_, ?_, fun _ => hfinished⟩ <;> simp [hphase]

theorem Coherent.act_chunk {f served : Flasher}
    {request : Option (ℕ × FlasherRequest)} (hcoherent : f.Coherent)
    (hlive : f.restarted = false) (hcalm : disturbs request = false)
    (hparted : f.partlessSuccess request = false)
    (hstep : ChunkStep f served) (hslot : served.SlotOk) (env : LoopEnv) :
    ActOutcome f request (served.executeAction env) := by
  have haction : served.action = f.action :=
    congrArg SessionView.action hstep.session
  rcases hcoherent.live hlive with hresting | hsucceeded
  · rw [executeAction_none (haction.trans hresting.action)]
    refine .ordinary hparted hstep.ordinary
      (.inr ⟨hstep.resting hresting, hslot⟩) (by simp [hcalm]) ?_ ?_
    · intro _ hsucceeded
      exact absurd hsucceeded.phase hresting.phase
    · intro _ hphase
      rcases hstep.outcome with ⟨hsame, htrace⟩ | ⟨-, herror, -⟩
      · exact .inl ⟨hsame.symm.trans hphase, hstep.session, htrace⟩
      · rw [herror] at hphase
        cases hphase
  · obtain ⟨hrestarted, htrace, -⟩ :=
      executeAction_reboot (haction.trans hsucceeded.action) env
    -- nothing but a session being received can be failed by a chunk
    have hsame : served.trace = f.trace := by
      rcases hstep.outcome with ⟨-, htrace⟩ | ⟨hphase, -, -⟩
      · exact htrace
      · rw [hsucceeded.phase] at hphase
        cases hphase
    have hreboot : (served.executeAction env).trace =
        .execute .rebootSuccess :: f.trace := by
      rw [htrace, hsame]
    refine .ordinary hparted ?_ (.inl hrestarted) (by simp [hcalm])
      (fun _ _ => ⟨hrestarted, hreboot⟩) (by simp [hrestarted])
    rw [hreboot]
    exact (Extends.refl _).cons (by simp [FlasherEvent.Ordinary])

theorem act_announced {f served : Flasher}
    {request : Option (ℕ × FlasherRequest)} {sessionId size : ℕ}
    (hcalm : disturbs request = false)
    (hparted : f.partlessSuccess request = false)
    (hstart : Announced f served sessionId size) (env : LoopEnv) :
    ActOutcome f request (served.executeAction env) := by
  obtain ⟨hnone, -, hchunk, hstarted⟩ :=
    executeAction_start hstart.action hstart.phase env
  have hserved : Extends FlasherEvent.Ordinary f.trace served.trace := by
    rw [hstart.trace]
    refine ⟨[.schedule .startSession, .announce sessionId size], rfl, ?_⟩
    simp [FlasherEvent.Ordinary]
  have hslot := SlotOk.of_idle hchunk
  have hnotDone : f.Succeeded → False := by
    intro hsucceeded
    have hphase := hstart.before
    rw [hsucceeded.phase] at hphase
    cases hphase
  rcases hstarted with hbegun | ⟨herror, htrace⟩
  · refine .ordinary hparted ?_ (.inr ⟨⟨hnone, ?_, ?_, ?_⟩, hslot⟩)
      (by simp [hcalm]) (fun _ hdone => (hnotDone hdone).elim) ?_
    · apply hserved.trans
      rw [hbegun.trace]
      refine ⟨[.phase .receiving,
        .begin .chunks served.pendingTotalSize true, .phase .erasing,
        .execute .startSession], rfl, ?_⟩
      simp [FlasherEvent.Ordinary]
    · simp [hbegun.phase]
    · intro _
      simp [hbegun.trace, updateBegun, FlasherEvent.isBegin]
    · simp [hbegun.phase]
    · intro _ _
      refine .inr ⟨?_, hbegun.written, hbegun.lastChunkIndex, ?_⟩
      · rw [hbegun.total, hstart.pending.2]
        exact hstart.fits
      · rw [hbegun.trace, hbegun.total, hbegun.sessionId, hstart.pending.1,
          hstart.pending.2, hstart.trace]
  · refine .ordinary hparted (hserved.trans htrace)
      (.inr ⟨Resting.of_error hnone herror, hslot⟩) (by simp [hcalm])
      (fun _ hdone => (hnotDone hdone).elim) ?_
    intro _ hphase
    rw [herror] at hphase
    cases hphase

theorem act_aborting {f served : Flasher}
    {request : Option (ℕ × FlasherRequest)}
    (hdisturbs : disturbs request = true)
    (hparted : f.partlessSuccess request = false)
    (habort : Aborting f served) (env : LoopEnv) :
    ActOutcome f request (served.executeAction env) := by
  obtain ⟨hnone, -, hchunk, hphase, htrace⟩ :=
    executeAction_abort habort.action env
  have hserved : Extends FlasherEvent.Ordinary f.trace served.trace := by
    rw [habort.trace]
    exact (Extends.refl _).cons (by simp [FlasherEvent.Ordinary])
  have hdisturbed : Disturbed f.trace served.trace :=
    ⟨[], .schedule .abortReset, f.trace, habort.trace, List.suffix_rfl,
      .inl rfl⟩
  refine .ordinary hparted (hserved.trans htrace)
    (.inr ⟨⟨hnone, ?_, ?_, ?_⟩, SlotOk.of_idle hchunk⟩)
    (fun _ => hdisturbed.trans htrace) (by simp [hdisturbs]) ?_ <;>
    simp [hphase]

theorem Coherent.act_legacy {f served : Flasher}
    {request : Option (ℕ × FlasherRequest)} (hcoherent : f.Coherent)
    (hlive : f.restarted = false) (hdisturbs : disturbs request = true)
    (hparted : f.partlessSuccess request = false)
    (hupload : LegacyUpload f served) (env : LoopEnv) :
    ActOutcome f request (served.executeAction env) := by
  have hordinary : Extends FlasherEvent.Ordinary f.trace served.trace :=
    hupload.step.trace.mono fun _ hlegacy => hlegacy.ordinary
  have hslot := hcoherent.slotOk hlive
  rcases hcoherent.live hlive with hresting | hsucceeded
  · have hnone : served.action = .none :=
      hupload.step.action.trans hresting.action
    rw [executeAction_none hnone]
    have hserved : served.Resting := hupload.settled.resting hnone
    have hservedSlot : served.SlotOk := by
      obtain ⟨hreceiving, hqueued⟩ := hcoherent.slot hlive
      constructor
      · rw [hupload.step.chunk]
        exact hreceiving
      · intro hstate
        rw [hupload.step.chunk] at hstate
        exact absurd hstate hqueued
    refine .ordinary hparted hordinary (.inr ⟨hserved, hservedSlot⟩)
      (fun _ => hupload.disturbed) (by simp [hdisturbs]) ?_
    intro _ hphase
    rcases hupload.settled with herror | ⟨hverifying, -⟩
    · rw [herror] at hphase
      cases hphase
    · rw [hverifying] at hphase
      cases hphase
  · obtain ⟨hrestarted, htrace, -⟩ := executeAction_reboot
      (hupload.step.action.trans hsucceeded.action) env
    have hreboot : Extends FlasherEvent.Ordinary served.trace
        (served.executeAction env).trace := by
      rw [htrace]
      exact (Extends.refl _).cons (by simp [FlasherEvent.Ordinary])
    exact .ordinary hparted (hordinary.trans hreboot) (.inl hrestarted)
      (fun _ => hupload.disturbed.trans hreboot) (by simp [hdisturbs])
      (by simp [hrestarted])

theorem Reported.act {before served : Flasher}
    (hreport : Reported before served) (env : LoopEnv) :
    (served.executeAction env).restarted = true ∧
      (served.executeAction env).trace = .execute .rebootSuccess ::
        .schedule .rebootSuccess :: .phase .complete :: before.trace := by
  obtain ⟨hrestarted, htrace, -⟩ :=
    executeAction_reboot hreport.action env
  exact ⟨hrestarted, by rw [htrace, hreport.trace]⟩

theorem Coherent.serveAndAct_spec (cfg : FlasherConfig) {f : Flasher}
    (hcoherent : f.Coherent) (hlive : f.restarted = false)
    (iteration : Iteration) :
    ActOutcome f iteration.request (f.serveAndAct cfg iteration) := by
  unfold serveAndAct
  generalize hserve : (f.serve cfg iteration.request).1 = served
  have houtcome : ServeOutcome f iteration.request served := by
    rw [← hserve]
    exact serve_spec cfg (hcoherent.slotOk hlive) iteration.request
  cases houtcome with
  | chunk calm parted step slot =>
      exact hcoherent.act_chunk hlive calm parted step slot iteration.env
  | announced calm parted sessionId size start =>
      exact act_announced calm parted start iteration.env
  | aborting disturbed parted abort =>
      exact act_aborting disturbed parted abort iteration.env
  | legacy disturbed parted upload =>
      exact hcoherent.act_legacy hlive disturbed parted upload
        iteration.env
  | verified disturbed parted uploaded upload finished report =>
      obtain ⟨hrestarted, htrace⟩ := report.act iteration.env
      exact .reported uploaded hrestarted htrace
        (.inr ⟨disturbed, parted, upload, finished⟩)
  | partless calm partless report =>
      obtain ⟨hrestarted, htrace⟩ := report.act iteration.env
      exact .reported f hrestarted htrace (.inl ⟨calm, partless, rfl⟩)

/-- What the loop does after the pending action. -/
def finish (cfg : FlasherConfig) (f : Flasher) (env : LoopEnv) : Flasher :=
  (f.processPendingChunk env).watchdogs cfg env

theorem iterate_eq (cfg : FlasherConfig) (f : Flasher)
    (iteration : Iteration) :
    f.iterate cfg iteration =
      if f.restarted then f
      else if (f.serveAndAct cfg iteration).restarted then
        f.serveAndAct cfg iteration
      else (f.serveAndAct cfg iteration).finish cfg iteration.env := rfl

inductive FinishOutcome (f next : Flasher) : Prop where
  | ordinary (rest : next.Resting)
      (trace : Extends FlasherEvent.Ordinary f.trace next.trace)
  | committed (succeeded : next.Succeeded)
      (trace : next.trace = .schedule .rebootSuccess ::
        .phase .complete :: .finish .chunks true :: .phase .verifying ::
          .write f.chunk.data f.sent :: f.trace)

theorem WatchStep.resting {f next : Flasher} (hstep : WatchStep f next)
    (hresting : f.Resting) : next.Resting := by
  have haction := hstep.action.trans hresting.action
  rcases hstep.outcome with ⟨hstate, htrace⟩ | ⟨-, herror, -⟩
  · refine ⟨haction, ?_, ?_, ?_⟩
    · rw [hstate]
      exact hresting.phase
    · rw [hstate, htrace]
      exact hresting.begun
    · rw [hstate, htrace]
      exact hresting.finished
  · exact Resting.of_error haction herror

theorem WatchStep.ordinary {f next : Flasher} (hstep : WatchStep f next) :
    Extends FlasherEvent.Ordinary f.trace next.trace := by
  rcases hstep.outcome with ⟨-, htrace⟩ | ⟨-, -, hext⟩
  · exact .of_eq htrace
  · apply hext.mono
    rintro event (rfl | rfl) <;> simp [FlasherEvent.Ordinary]

theorem WatchStep.of_not_running {f next : Flasher}
    (hstep : WatchStep f next) (hidle : ¬f.Running) :
    next.state = f.state ∧ next.trace = f.trace := by
  rcases hstep.outcome with hsame | ⟨hrunning, -, -⟩
  · exact hsame
  · exact absurd hrunning hidle

theorem Committed.succeeded {f next : Flasher} (hcommit : Committed f next)
    (hbegun : updateBegun f.trace = true) : next.Succeeded := by
  refine ⟨hcommit.action, hcommit.phase, ?_, ?_⟩
  · rw [hcommit.trace]
    simpa [imageFinished, updateBegun, FlasherEvent.isBegin] using hbegun
  · rw [hcommit.trace]
    simp

theorem Resting.finish_spec (cfg : FlasherConfig) {f : Flasher}
    (hresting : f.Resting) (env : LoopEnv) :
    FinishOutcome f (f.finish cfg env) := by
  have hwatch := watchStep_watchdogs cfg (f.processPendingChunk env) env
  have hprocess := processPendingChunk_spec f env
  unfold finish
  generalize f.processPendingChunk env = processed at hwatch hprocess ⊢
  cases hprocess with
  | unchanged state action trace =>
      have hprocessed : processed.Resting := by
        refine ⟨action.trans hresting.action, ?_, ?_, ?_⟩
        · rw [state]
          exact hresting.phase
        · rw [state, trace]
          exact hresting.begun
        · rw [state, trace]
          exact hresting.finished
      exact .ordinary (hwatch.resting hprocessed)
        ((Extends.of_eq trace).trans hwatch.ordinary)
  | written action chunk =>
      have hext : Extends FlasherEvent.Ordinary f.trace
          processed.trace := by
        rw [chunk.trace]
        exact (Extends.refl _).cons (by simp [FlasherEvent.Ordinary])
      have hbegun : updateBegun processed.trace = true :=
        updateBegun_of_extends hext (hresting.begun chunk.phase.1)
      have hprocessed : processed.Resting := by
        refine ⟨action.trans hresting.action, ?_, fun _ => hbegun, ?_⟩
        · simp [chunk.phase.2]
        · simp [chunk.phase.2]
      exact .ordinary (hwatch.resting hprocessed)
        (hext.trans hwatch.ordinary)
  | committed commit =>
      have hidle : ¬processed.Running := by
        simp [Running, commit.phase]
      obtain ⟨hstate, htrace⟩ := hwatch.of_not_running hidle
      have hdone := commit.succeeded (hresting.begun commit.before)
      refine .committed ⟨hwatch.action.trans hdone.action, ?_, ?_, ?_⟩
        (htrace.trans commit.trace)
      · rw [hstate]
        exact hdone.phase
      · rw [htrace]
        exact hdone.finished
      · rw [htrace]
        exact hdone.seen
  | failed action phase trace =>
      have hprocessed :=
        Resting.of_error (action.trans hresting.action) phase
      exact .ordinary (hwatch.resting hprocessed)
        (trace.trans hwatch.ordinary)

theorem finish_slot (cfg : FlasherConfig) {f : Flasher} (hslot : f.SlotOk)
    (env : LoopEnv) :
    (f.finish cfg env).chunk.state ≠ .receiving ∧
      (f.finish cfg env).chunk.state ≠ .queued := by
  have hprocessed := processPendingChunk_slot env hslot.notReceiving
  have hwatch := watchStep_watchdogs cfg (f.processPendingChunk env) env
  unfold finish
  rcases hwatch.chunk with hsame | hidle
  · rw [hsame]
    exact hprocessed
  · simp [hidle]

/-- The device that the second half of an iteration starts from, and its past
without a success if it had none. -/
theorem ActOutcome.resting {f next : Flasher}
    {request : Option (ℕ × FlasherRequest)}
    (hact : ActOutcome f request next) (hlive : next.restarted = false) :
    next.Resting ∧ Extends FlasherEvent.Ordinary f.trace next.trace := by
  cases hact with
  | ordinary _ trace rest _ _ _ =>
      have hrest := rest.resolve_left (by simp [hlive])
      exact ⟨hrest.1, trace⟩
  | reported _ restarted _ _ =>
      rw [hlive] at restarted
      cases restarted

theorem ActOutcome.slotOk {f next : Flasher}
    {request : Option (ℕ × FlasherRequest)}
    (hact : ActOutcome f request next) (hlive : next.restarted = false) :
    next.SlotOk := by
  cases hact with
  | ordinary _ _ rest _ _ _ =>
      exact (rest.resolve_left (by simp [hlive])).2
  | reported _ restarted _ _ =>
      rw [hlive] at restarted
      cases restarted

/-- An iteration is its first half, and the second half unless the device has
restarted. -/
theorem iterate_cases (cfg : FlasherConfig) {f : Flasher}
    (hlive : f.restarted = false) (iteration : Iteration) :
    (f.serveAndAct cfg iteration).restarted = true ∧
        f.iterate cfg iteration = f.serveAndAct cfg iteration ∨
      (f.serveAndAct cfg iteration).restarted = false ∧
        f.iterate cfg iteration =
          (f.serveAndAct cfg iteration).finish cfg iteration.env := by
  rw [iterate_eq]
  cases hacted : (f.serveAndAct cfg iteration).restarted with
  | true => simp [hlive]
  | false => simp [hlive]

theorem Coherent.iterate (cfg : FlasherConfig) {f : Flasher}
    (hcoherent : f.Coherent) (iteration : Iteration) :
    (f.iterate cfg iteration).Coherent := by
  rw [iterate_eq]
  by_cases hrestarted : f.restarted = true
  · rw [if_pos hrestarted]
    exact hcoherent
  · rw [if_neg hrestarted]
    by_cases hacted : (f.serveAndAct cfg iteration).restarted = true
    · rw [if_pos hacted]
      constructor <;> simp [hacted]
    · rw [if_neg hacted]
      have hrest : (f.serveAndAct cfg iteration).Resting ∧
          (f.serveAndAct cfg iteration).SlotOk := by
        cases hcoherent.serveAndAct_spec cfg (by simpa using hrestarted)
          iteration with
        | ordinary _ _ rest _ _ _ =>
            exact rest.resolve_left hacted
        | reported _ restarted _ _ => exact absurd restarted hacted
      refine ⟨fun _ => finish_slot cfg hrest.2 _, fun _ => ?_⟩
      cases hrest.1.finish_spec cfg iteration.env with
      | ordinary rest _ => exact .inl rest
      | committed succeeded _ => exact .inr succeeded

theorem coherent_ready (vIdle vLoad ms : ℕ) :
    (ready vIdle vLoad ms).Coherent := by
  have hresting : (ready vIdle vLoad ms).Resting := by
    constructor <;> simp [ready, resetFlasherState]
  refine ⟨fun _ => ?_, fun _ => .inl hresting⟩
  simp [ready, resetFlasherState, PendingChunk.idle]

end Flasher

end SensorFirmware
