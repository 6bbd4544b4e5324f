import SensorFirmware.FlasherIteration
import SensorFirmware.GuardedRun

/-!
# A flasher without requests

The access point stays up until the device restarts.  The idle watchdog
restarts it in `READY` only; the session watchdogs end in `ERROR`, which no
watchdog leaves.  So after its last request the flasher restarts in time
exactly if that request left it without a session, an error or an unanswered
legacy upload.
-/

namespace SensorFirmware

open EventTrace GuardedRun

/-- The timeouts of a session, one after the other. -/
def FlasherConfig.sessionTimeoutMs (cfg : FlasherConfig) : ℕ :=
  30000 + cfg.progressTimeoutMs + cfg.chunkReceiveTimeoutMs +
    cfg.chunkWriteTimeoutMs

/-- One pass of the run loop, by how long it takes until it serves a request,
until it executes the action and until it looks at the watchdogs.  The task
watchdog ends a pass long before the bound. -/
structure Pass where
  request : Option FlasherRequest
  waitedMs : ℕ
  servedMs : ℕ
  restMs : ℕ
  env : LoopEnv
  paced : waitedMs + servedMs + restMs ≤ 2 ^ 31
  deriving DecidableEq, Repr

namespace Pass

def arrivedAt (pass : Pass) (nowMs : ℕ) : ℕ := nowMs + pass.waitedMs

def actedAt (pass : Pass) (nowMs : ℕ) : ℕ :=
  pass.arrivedAt nowMs + pass.servedMs

def endedAt (pass : Pass) (nowMs : ℕ) : ℕ :=
  pass.actedAt nowMs + pass.restMs

/-- `millis` reads real time modulo `2 ^ 32`. -/
def iteration (pass : Pass) (nowMs : ℕ) : Iteration where
  request := pass.request.map fun request =>
    (u32 (pass.arrivedAt nowMs), request)
  env := { pass.env with
    actionMs := u32 (pass.actedAt nowMs)
    now := u32 (pass.endedAt nowMs) }

end Pass

/-- The flasher in real time.  `leftPhase` is the phase in which the last
request left it, and `idled` whether a pass that was due to restart ended
without. -/
structure WatchedFlasher where
  flasher : Flasher
  nowMs : ℕ
  servedMs : ℕ
  leftPhase : FlasherPhase
  idled : Bool
  deriving DecidableEq, Repr

namespace WatchedFlasher

def start (vIdle vLoad startMs : ℕ) : WatchedFlasher where
  flasher := Flasher.ready vIdle vLoad (u32 startMs)
  nowMs := startMs
  servedMs := startMs
  leftPhase := .ready
  idled := false

/-- No request has arrived for longer than all timeouts together. -/
def overdue (cfg : FlasherConfig) (state : WatchedFlasher) (pass : Pass) :
    Bool :=
  pass.request.isNone && !state.flasher.restarted &&
    decide (cfg.idleTimeoutMs + cfg.sessionTimeoutMs <
      pass.endedAt state.nowMs - state.servedMs)

def next (cfg : FlasherConfig) (state : WatchedFlasher) (pass : Pass) :
    Flasher :=
  state.flasher.iterate cfg (pass.iteration state.nowMs)

def step (cfg : FlasherConfig) (state : WatchedFlasher) (pass : Pass) :
    WatchedFlasher where
  flasher := state.next cfg pass
  nowMs := pass.endedAt state.nowMs
  servedMs :=
    if pass.request.isSome then pass.actedAt state.nowMs else state.servedMs
  leftPhase :=
    if pass.request.isSome then (state.next cfg pass).state.phase
    else state.leftPhase
  idled := state.idled ||
    (state.overdue cfg pass && !(state.next cfg pass).restarted)

/-- Ready for a session, or about to restart with a finished image. -/
def LeftIdle (state : WatchedFlasher) : Prop :=
  state.leftPhase = .ready ∨ state.leftPhase = .complete

instance (state : WatchedFlasher) : Decidable state.LeftIdle :=
  inferInstanceAs (Decidable (_ ∨ _))

def DueAfterIdle (cfg : FlasherConfig) (state : WatchedFlasher)
    (pass : Pass) : Prop :=
  state.overdue cfg pass → state.LeftIdle

instance (cfg : FlasherConfig) (state : WatchedFlasher) (pass : Pass) :
    Decidable (state.DueAfterIdle cfg pass) :=
  inferInstanceAs (Decidable (_ → _))

end WatchedFlasher

namespace Flasher

/-! ## The time of the last activity -/

/-- The last activity is as before, or it is the request of `ms`. -/
def Touched (ms : ℕ) (f next : Flasher) : Prop :=
  next.state.lastActivityMs = f.state.lastActivityMs ∨
    next.state.lastActivityMs = ms

theorem Touched.refl (ms : ℕ) (f : Flasher) : Touched ms f f := .inl rfl

theorem Touched.trans {ms : ℕ} {first second third : Flasher}
    (hfirst : Touched ms first second) (hsecond : Touched ms second third) :
    Touched ms first third := by
  rcases hsecond with hsame | htouched
  · rcases hfirst with hfirst | hfirst
    · exact .inl (hsame.trans hfirst)
    · exact .inr (hsame.trans hfirst)
  · exact .inr htouched

theorem touched_foldl {ms : ℕ} {α : Type*} {next : Flasher → α → Flasher}
    (hnext : ∀ f a, Touched ms f (next f a)) (inputs : List α)
    (f : Flasher) : Touched ms f (inputs.foldl next f) := by
  induction inputs generalizing f with
  | nil => exact .refl ms f
  | cons a inputs ih => exact (hnext f a).trans (ih (next f a))

theorem touched_chunkStart (cfg : FlasherConfig) (ms : ℕ) (f : Flasher)
    (headers : FlasherHeaders) :
    Touched ms f (f.chunkStart cfg ms headers) := by
  unfold chunkStart
  dsimp only
  split_ifs <;> exact .inr rfl

theorem touched_chunkBuffers (cfg : FlasherConfig) (ms : ℕ) (f : Flasher)
    (part : UploadPart) : Touched ms f (f.chunkBuffers cfg part) := by
  apply touched_foldl
  intro f buffer
  unfold chunkWrite
  dsimp only
  split_ifs <;> exact .inl rfl

theorem touched_chunkEnd (ms : ℕ) (f : Flasher) (payload : List Byte) :
    Touched ms f (f.chunkEnd ms payload) := by
  unfold chunkEnd
  split_ifs <;> exact .inl rfl

theorem touched_handleUpdateChunk (cfg : FlasherConfig) (f : Flasher)
    (ms : ℕ) (headers : FlasherHeaders) (upload : Upload) :
    Touched ms f (f.handleUpdateChunk cfg ms headers upload).1 := by
  have hpart : ∀ f part, Touched ms f (chunkPart cfg ms headers f part) :=
    fun f part => ((touched_chunkStart cfg ms f headers).trans
      (touched_chunkBuffers cfg ms _ part)).trans (touched_chunkEnd ms _ _)
  have hlost : ∀ f part, Touched ms f (chunkLost cfg ms headers f part) := by
    intro f part
    have hbuffers := (touched_chunkStart cfg ms f headers).trans
      (touched_chunkBuffers cfg ms _ part)
    exact hbuffers.trans (.inl rfl)
  have hparts := touched_foldl hpart upload.parts f
  have hbody : Touched ms f
      (upload.lost.elim (upload.parts.foldl (chunkPart cfg ms headers) f)
        (chunkLost cfg ms headers
          (upload.parts.foldl (chunkPart cfg ms headers) f))) := by
    cases upload.lost with
    | none => exact hparts
    | some part => exact hparts.trans (hlost _ part)
  unfold handleUpdateChunk
  dsimp only
  split
  · refine hbody.trans ?_
    unfold answerChunk
    dsimp only
    split_ifs <;> exact .inr rfl
  · exact hbody

theorem touched_serve (cfg : FlasherConfig) (f : Flasher) {ms : ℕ}
    {request : FlasherRequest}
    (hcalm : disturbs (some (ms, request)) = false) :
    Touched ms f (f.serve cfg (some (ms, request))).1 := by
  cases request with
  | status currentBatt => exact .inr rfl
  | start headers partitionSize =>
      rcases handleStart_cases f ms headers partitionSize with
        hrefused | ⟨-, hstarted⟩
      · exact .inr (by simp [serve, handleRequest, hrefused])
      · exact .inr (by simp [serve, handleRequest, hstarted])
  | abort => exact .inl rfl
  | root => exact .inl rfl
  | updateChunk headers upload =>
      exact touched_handleUpdateChunk cfg f ms headers upload
  | update headers partitionSize upload =>
      have hnone : upload.hasPart = false := hcalm
      change Touched ms f
        (f.handleUpdate ms headers partitionSize upload).1
      rw [handleUpdate_eq,
        legacyUploaded_of_not_hasPart f ms headers partitionSize hnone]
      split_ifs
      · unfold answerUpdate
        split_ifs <;> exact .inl rfl
      · exact .refl ms f
  | notFound => exact .inl rfl

/-! ## The end of a pass -/

theorem restarted_watchdog (f : Flasher) (fires : Bool)
    (error : FlasherError) (message : String) :
    (f.watchdog fires error message).restarted = f.restarted := by
  unfold watchdog
  split <;> rfl

theorem restarted_batteryWatch (cfg : FlasherConfig) (f : Flasher)
    (env : LoopEnv) : (f.batteryWatch cfg env).restarted = f.restarted := by
  unfold batteryWatch
  dsimp only
  split_ifs <;> rfl

/-- The idle watchdog of `READY` is the only one that restarts. -/
theorem restarted_watchdogs (cfg : FlasherConfig) (f : Flasher)
    (env : LoopEnv) :
    (f.watchdogs cfg env).restarted = true ↔
      f.restarted = true ∨ f.state.phase = .ready ∧
        cfg.idleTimeoutMs < sub32 env.now f.state.lastActivityMs := by
  have hidle := watchStep_idleWatch f env.now
  have hkept : (f.idleWatch env.now).restarted = f.restarted :=
    restarted_watchdog f _ _ _
  by_cases hready : f.state.phase = .ready
  · have hsame : (f.idleWatch env.now).state = f.state :=
      (hidle.of_not_running (by simp [Running, hready])).1
    unfold watchdogs
    simp only [hsame, hready, beq_self_eq_true, Bool.true_and,
      decide_eq_true_eq, true_and]
    split
    case isTrue hlate => simp [hlate]
    case isFalse hsoon =>
      rw [restarted_batteryWatch, chunkWatch, restarted_watchdog, chunkWatch,
        restarted_watchdog, progressWatch, restarted_watchdog, hkept]
      simp [hsoon]
  · have hother : (f.idleWatch env.now).state.phase ≠ .ready := by
      rcases hidle.outcome with ⟨hsame, -⟩ | ⟨-, herror, -⟩
      · rw [hsame]
        exact hready
      · simp [herror]
    have hbeq : ((f.idleWatch env.now).state.phase == .ready) = false := by
      simpa using hother
    unfold watchdogs
    simp only [hbeq, Bool.false_and, Bool.false_eq_true, if_false]
    rw [restarted_batteryWatch, chunkWatch, restarted_watchdog, chunkWatch,
      restarted_watchdog, progressWatch, restarted_watchdog, hkept]
    simp [hready]

/-- A pass that ends in `READY` began its second half there, with the
watchdog satisfied. -/
theorem ready_of_finish (cfg : FlasherConfig) {f : Flasher} {env : LoopEnv}
    (hlive : (f.finish cfg env).restarted = false)
    (hready : (f.finish cfg env).state.phase = .ready) :
    f.state.phase = .ready ∧
      (f.finish cfg env).state.lastActivityMs = f.state.lastActivityMs ∧
      sub32 env.now f.state.lastActivityMs ≤ cfg.idleTimeoutMs := by
  have hwatch := watchStep_watchdogs cfg (f.processPendingChunk env) env
  have hsame : (f.finish cfg env).state = (f.processPendingChunk env).state := by
    rcases hwatch.outcome with ⟨hstate, -⟩ | ⟨-, herror, -⟩
    · exact hstate
    · change (f.finish cfg env).state.phase = .error at herror
      rw [hready] at herror
      cases herror
  have hprocessed : (f.processPendingChunk env).state = f.state := by
    cases processPendingChunk_spec f env with
    | unchanged state _ _ => exact state
    | written _ chunk =>
        have hphase := chunk.phase.2
        rw [← hsame, hready] at hphase
        cases hphase
    | committed commit =>
        have hphase := commit.phase
        rw [← hsame, hready] at hphase
        cases hphase
    | failed _ phase _ =>
        rw [← hsame, hready] at phase
        cases phase
  have hphase : f.state.phase = .ready := by
    rw [← hprocessed, ← hsame]
    exact hready
  have hsoon : ¬(f.processPendingChunk env |>.watchdogs cfg env).restarted =
      true := by
    change ¬(f.finish cfg env).restarted = true
    simp [hlive]
  rw [restarted_watchdogs, hprocessed] at hsoon
  refine ⟨hphase, by rw [hsame, hprocessed], ?_⟩
  by_contra hlate
  exact hsoon (.inr ⟨hphase, by omega⟩)

/-! ## The first half of a pass -/

/-- Where the first half of a pass ends in `READY`, the last activity is that
of a device that was ready before, the request, or the abort. -/
theorem Coherent.ready_of_act (cfg : FlasherConfig) {f : Flasher}
    (hcoherent : f.Coherent) (hlive : f.restarted = false)
    (iteration : Iteration)
    (hacted : (f.serveAndAct cfg iteration).restarted = false)
    (hready : (f.serveAndAct cfg iteration).state.phase = .ready) :
    (f.state.phase = .ready ∧
        (f.serveAndAct cfg iteration).state.lastActivityMs =
          f.state.lastActivityMs) ∨
      (∃ ms request, iteration.request = some (ms, request) ∧
        (f.serveAndAct cfg iteration).state.lastActivityMs = ms) ∨
      iteration.request.isSome ∧
        (f.serveAndAct cfg iteration).state.lastActivityMs =
          iteration.env.actionMs := by
  unfold serveAndAct at hacted hready ⊢
  generalize hserve : (f.serve cfg iteration.request).1 = served
    at hacted hready ⊢
  have houtcome : ServeOutcome f iteration.request served := by
    rw [← hserve]
    exact serve_spec cfg (hcoherent.slotOk hlive) iteration.request
  have hdone : ∀ {before : Flasher}, before.action = .rebootSuccess →
      (before.executeAction iteration.env).restarted = true :=
    fun haction => (executeAction_reboot haction iteration.env).1
  cases houtcome with
  | chunk calm _ step _ =>
      have haction : served.action = f.action :=
        congrArg SessionView.action step.session
      rcases hcoherent.live hlive with hresting | hsucceeded
      · rw [executeAction_none (haction.trans hresting.action)] at hready ⊢
        have hbefore : f.state.phase = .ready := by
          rcases step.outcome with ⟨hsame, -⟩ | ⟨-, herror, -⟩
          · exact hsame.symm.trans hready
          · rw [hready] at herror
            cases herror
        cases hrequest : iteration.request with
        | none =>
            rw [hrequest] at hserve
            rw [← hserve]
            exact .inl ⟨hbefore, rfl⟩
        | some arrival =>
            rw [hrequest] at hserve calm
            rw [← hserve]
            rcases touched_serve cfg f calm with hsame | htouched
            · exact .inl ⟨hbefore, hsame⟩
            · exact .inr (.inl ⟨_, _, rfl, htouched⟩)
      · rw [hdone (haction.trans hsucceeded.action)] at hacted
        cases hacted
  | announced _ _ _ _ start =>
      obtain ⟨-, -, -, hstarted⟩ :=
        executeAction_start start.action start.phase iteration.env
      rcases hstarted with hbegun | ⟨herror, -⟩
      · rw [hbegun.phase] at hready
        cases hready
      · rw [herror] at hready
        cases hready
  | aborting disturbed _ abort =>
      refine .inr (.inr ⟨?_, ?_⟩)
      · cases hrequest : iteration.request with
        | none => simp [hrequest, disturbs] at disturbed
        | some arrival => rfl
      · simp [executeAction, abort.action, resetFlasherState]
  | legacy _ _ upload =>
      rcases hcoherent.live hlive with hresting | hsucceeded
      · rw [executeAction_none
          (upload.step.action.trans hresting.action)] at hready
        rcases upload.settled with herror | ⟨hverifying, -⟩
        · rw [hready] at herror
          cases herror
        · rw [hready] at hverifying
          cases hverifying
      · rw [hdone (upload.step.action.trans hsucceeded.action)] at hacted
        cases hacted
  | verified _ _ _ _ _ report =>
      rw [hdone report.action] at hacted
      cases hacted
  | partless _ _ report =>
      rw [hdone report.action] at hacted
      cases hacted

/-- What a pass without a request does: a pending reboot is executed, and
otherwise only the watchdogs act. -/
theorem Coherent.iterate_quiet (cfg : FlasherConfig) {f : Flasher}
    (hcoherent : f.Coherent) (hlive : f.restarted = false)
    (env : LoopEnv) :
    (f.state.phase = .complete ∧
        (f.iterate cfg ⟨none, env⟩).restarted = true) ∨
      f.state.phase ≠ .complete ∧
        f.iterate cfg ⟨none, env⟩ = f.watchdogs cfg env := by
  have hserved : f.serveAndAct cfg ⟨none, env⟩ = f.executeAction env := rfl
  rcases hcoherent.live hlive with hresting | hsucceeded
  · have hacted : f.serveAndAct cfg ⟨none, env⟩ = f := by
      rw [hserved, executeAction_none hresting.action]
    have hqueued : f.processPendingChunk env = f := by
      unfold processPendingChunk
      rw [if_pos (hcoherent.slot hlive).2]
    refine .inr ⟨hresting.phase, ?_⟩
    rw [iterate_eq, hacted, hlive, if_neg Bool.false_ne_true,
      if_neg Bool.false_ne_true]
    unfold finish
    rw [hqueued]
  · have hreboot := (executeAction_reboot hsucceeded.action env).1
    refine .inl ⟨hsucceeded.phase, ?_⟩
    rw [iterate_eq, hserved, hlive, if_neg Bool.false_ne_true,
      if_pos hreboot]
    exact hreboot

end Flasher

namespace WatchedFlasher

variable {cfg : FlasherConfig} {state : WatchedFlasher} {pass : Pass}

/-! ## Every pass -/

/-- A ready device was active `last`, no later than its last request. -/
structure ActiveAt (cfg : FlasherConfig) (state : WatchedFlasher) (last : ℕ) :
    Prop where
  stored : state.flasher.state.lastActivityMs = u32 last
  served : last ≤ state.servedMs
  recent : state.nowMs ≤ last + cfg.idleTimeoutMs

structure Watched (cfg : FlasherConfig) (state : WatchedFlasher) : Prop where
  coherent : state.flasher.Coherent
  served : state.servedMs ≤ state.nowMs
  active : state.flasher.restarted = false →
    state.flasher.state.phase = .ready → ∃ last, state.ActiveAt cfg last
  ready : state.flasher.restarted = false →
    (state.flasher.state.phase = .ready ↔ state.leftPhase = .ready)
  complete : state.flasher.restarted = false →
    (state.flasher.state.phase = .complete ↔ state.leftPhase = .complete)

theorem watched_start (cfg : FlasherConfig) (vIdle vLoad startMs : ℕ) :
    Watched cfg (start vIdle vLoad startMs) where
  coherent := Flasher.coherent_ready vIdle vLoad (u32 startMs)
  served := le_refl startMs
  active := fun _ _ => ⟨startMs, rfl, le_refl startMs, Nat.le_add_right _ _⟩
  ready := fun _ => by simp [start, Flasher.ready, Flasher.resetFlasherState]
  complete := fun _ => by
    simp [start, Flasher.ready, Flasher.resetFlasherState]

theorem endedAt_le (pass : Pass) (nowMs : ℕ) :
    pass.endedAt nowMs ≤ nowMs + 2 ^ 31 := by
  have hpaced := pass.paced
  unfold Pass.endedAt Pass.actedAt Pass.arrivedAt
  omega

theorem le_actedAt (pass : Pass) (nowMs : ℕ) :
    nowMs ≤ pass.arrivedAt nowMs ∧
      pass.arrivedAt nowMs ≤ pass.actedAt nowMs ∧
      pass.actedAt nowMs ≤ pass.endedAt nowMs := by
  unfold Pass.endedAt Pass.actedAt Pass.arrivedAt
  omega

/-- A reading that the watchdog accepts is recent, if it is within one turn
of the counter. -/
theorem recent_of_sub32 {last ended idleMs : ℕ} (hle : last ≤ ended)
    (hturn : ended - last < 2 ^ 32)
    (haccepted : sub32 (u32 ended) (u32 last) ≤ idleMs) :
    ended ≤ last + idleMs := by
  rw [sub32_u32 hle, u32_of_lt hturn] at haccepted
  omega

/-! ### A pass without a request -/

theorem quiet_iteration (hquiet : pass.request = none) :
    pass.iteration state.nowMs =
      ⟨none, { pass.env with
        actionMs := u32 (pass.actedAt state.nowMs)
        now := u32 (pass.endedAt state.nowMs) }⟩ := by
  simp [Pass.iteration, hquiet]

/-- Without a request the device restarts if it was to reboot, or if it was
ready for too long; nothing else brings it out of its phase but an error of
an open session. -/
theorem Watched.next_quiet (hwatched : Watched cfg state)
    (hlive : state.flasher.restarted = false)
    (hquiet : pass.request = none) :
    ((state.next cfg pass).restarted = true ↔
        state.flasher.state.phase = .complete ∨
          state.flasher.state.phase = .ready ∧
            cfg.idleTimeoutMs < sub32 (u32 (pass.endedAt state.nowMs))
              state.flasher.state.lastActivityMs) ∧
      ((state.next cfg pass).restarted = false →
        (state.next cfg pass).state = state.flasher.state ∨
          state.flasher.Running ∧
            (state.next cfg pass).state.phase = .error) := by
  unfold next
  rw [quiet_iteration hquiet]
  rcases hwatched.coherent.iterate_quiet cfg hlive
      { pass.env with
        actionMs := u32 (pass.actedAt state.nowMs)
        now := u32 (pass.endedAt state.nowMs) } with
    ⟨hphase, hreboot⟩ | ⟨hphase, hsame⟩
  · simp [hreboot, hphase]
  · rw [hsame]
    constructor
    · rw [Flasher.restarted_watchdogs]
      simp [hlive, hphase]
    · intro _
      have hwatch := Flasher.watchStep_watchdogs cfg state.flasher
        { pass.env with
          actionMs := u32 (pass.actedAt state.nowMs)
          now := u32 (pass.endedAt state.nowMs) }
      rcases hwatch.outcome with ⟨hstate, -⟩ | ⟨hrunning, herror, -⟩
      · exact .inl hstate
      · exact .inr ⟨hrunning, herror⟩

/-- An overdue pass restarts exactly if the last request left no session
behind. -/
theorem Watched.restarts_iff (hidle : cfg.idleTimeoutMs < 2 ^ 31)
    (hwatched : Watched cfg state) (hdue : state.overdue cfg pass) :
    (state.next cfg pass).restarted = true ↔ state.LeftIdle := by
  simp only [overdue, Bool.and_eq_true, Option.isNone_iff_eq_none,
    Bool.not_eq_true', decide_eq_true_eq] at hdue
  obtain ⟨⟨hquiet, hlive⟩, hlong⟩ := hdue
  rw [(hwatched.next_quiet hlive hquiet).1, hwatched.complete hlive]
  constructor
  · rintro (hcomplete | ⟨hready, -⟩)
    · exact .inr hcomplete
    · exact .inl ((hwatched.ready hlive).mp hready)
  · rintro (hleft | hcomplete)
    · have hready := (hwatched.ready hlive).mpr hleft
      obtain ⟨last, hlast⟩ := hwatched.active hlive hready
      have hended := endedAt_le pass state.nowMs
      have horder := le_actedAt pass state.nowMs
      have hserved := hlast.served
      have hrecent := hlast.recent
      refine .inr ⟨hready, ?_⟩
      rw [hlast.stored, sub32_u32 (by omega), u32_of_lt (by omega)]
      omega
    · exact .inl hcomplete

/-! ### The invariant -/

theorem Watched.step_quiet (hidle : cfg.idleTimeoutMs < 2 ^ 31)
    (hwatched : Watched cfg state)
    (hlive : state.flasher.restarted = false)
    (hquiet : pass.request = none) :
    Watched cfg (state.step cfg pass) := by
  obtain ⟨hrestarts, hkeeps⟩ := hwatched.next_quiet hlive hquiet
  have hended := endedAt_le pass state.nowMs
  have horder := le_actedAt pass state.nowMs
  have hserved : (state.step cfg pass).servedMs = state.servedMs := by
    simp [step, hquiet]
  have hleft : (state.step cfg pass).leftPhase = state.leftPhase := by
    simp [step, hquiet]
  refine ⟨hwatched.coherent.iterate cfg _, ?_, ?_, ?_, ?_⟩
  · have hbefore := hwatched.served
    rw [hserved]
    change _ ≤ pass.endedAt state.nowMs
    omega
  · intro hnext hready
    change (state.next cfg pass).restarted = false at hnext
    change (state.next cfg pass).state.phase = .ready at hready
    have hsame : (state.next cfg pass).state = state.flasher.state := by
      rcases hkeeps hnext with hsame | ⟨-, herror⟩
      · exact hsame
      · rw [hready] at herror
        cases herror
    have hbefore : state.flasher.state.phase = .ready := hsame ▸ hready
    obtain ⟨last, hlast⟩ := hwatched.active hlive hbefore
    have hsoon : ¬ cfg.idleTimeoutMs <
        sub32 (u32 (pass.endedAt state.nowMs))
          state.flasher.state.lastActivityMs := by
      intro hlate
      rw [hrestarts.mpr (.inr ⟨hbefore, hlate⟩)] at hnext
      cases hnext
    have hrecent := hlast.recent
    have hlastServed := hlast.served
    have hnow := hwatched.served
    rw [hlast.stored] at hsoon
    have hbound : pass.endedAt state.nowMs ≤ last + cfg.idleTimeoutMs :=
      recent_of_sub32 (by omega) (by omega) (Nat.le_of_not_lt hsoon)
    refine ⟨last, ?_, ?_, hbound⟩
    · change (state.next cfg pass).state.lastActivityMs = _
      rw [hsame, hlast.stored]
    · rw [hserved]
      exact hlast.served
  · intro hnext
    rw [hleft, ← hwatched.ready hlive]
    change (state.next cfg pass).state.phase = .ready ↔ _
    rcases hkeeps hnext with hsame | ⟨hrunning, herror⟩
    · rw [hsame]
    · rcases hrunning with hphase | hphase <;> simp [herror, hphase]
  · intro hnext
    rw [hleft, ← hwatched.complete hlive]
    change (state.next cfg pass).state.phase = .complete ↔ _
    rcases hkeeps hnext with hsame | ⟨hrunning, herror⟩
    · rw [hsame]
    · rcases hrunning with hphase | hphase <;> simp [herror, hphase]

theorem Watched.step_served (hidle : cfg.idleTimeoutMs < 2 ^ 31)
    (hwatched : Watched cfg state)
    (hlive : state.flasher.restarted = false)
    (hasked : pass.request.isSome) :
    Watched cfg (state.step cfg pass) := by
  have hended := endedAt_le pass state.nowMs
  have horder := le_actedAt pass state.nowMs
  have hserved : (state.step cfg pass).servedMs =
      pass.actedAt state.nowMs := by
    simp [step, hasked]
  have hleft : (state.step cfg pass).leftPhase =
      (state.next cfg pass).state.phase := by
    simp [step, hasked]
  refine ⟨hwatched.coherent.iterate cfg _, ?_, ?_, ?_, ?_⟩
  · rw [hserved]
    exact horder.2.2
  · intro hnext hready
    change (state.next cfg pass).restarted = false at hnext
    change (state.next cfg pass).state.phase = .ready at hready
    unfold next at hnext hready
    rcases Flasher.iterate_cases cfg hlive (pass.iteration state.nowMs) with
      ⟨hacted, hsame⟩ | ⟨hacted, hsame⟩
    · rw [hsame, hacted] at hnext
      cases hnext
    · rw [hsame] at hnext hready
      obtain ⟨hphase, hkept, hsoon⟩ :=
        Flasher.ready_of_finish cfg hnext hready
      have hstored : (state.step cfg pass).flasher.state.lastActivityMs =
          (state.flasher.serveAndAct cfg
            (pass.iteration state.nowMs)).state.lastActivityMs := by
        rw [← hkept, ← hsame]
        rfl
      have hclose : ∀ last, last ≤ pass.actedAt state.nowMs →
          pass.endedAt state.nowMs - last < 2 ^ 32 →
          (state.flasher.serveAndAct cfg
            (pass.iteration state.nowMs)).state.lastActivityMs = u32 last →
          (state.step cfg pass).ActiveAt cfg last := by
        intro last hlast hturn hactive
        rw [hactive] at hsoon
        have hbound : pass.endedAt state.nowMs ≤ last + cfg.idleTimeoutMs :=
          recent_of_sub32 (by omega) hturn hsoon
        exact ⟨hstored.trans hactive, hserved ▸ hlast, hbound⟩
      rcases Flasher.Coherent.ready_of_act cfg hwatched.coherent hlive _
        hacted hphase with ⟨hbefore, hactive⟩ | harrived | ⟨-, hactive⟩
      · obtain ⟨last, hlast⟩ := hwatched.active hlive hbefore
        have hrecent := hlast.recent
        have hlastServed := hlast.served
        have hnow := hwatched.served
        exact ⟨last, hclose last (by omega) (by omega)
          (hactive.trans hlast.stored)⟩
      · obtain ⟨ms, request, hrequest, hactive⟩ := harrived
        have hms : ms = u32 (pass.arrivedAt state.nowMs) := by
          simp only [Pass.iteration, Option.map_eq_some_iff,
            Prod.mk.injEq] at hrequest
          obtain ⟨_, -, hms, -⟩ := hrequest
          exact hms.symm
        exact ⟨_, hclose _ horder.2.1 (by omega) (hactive.trans hms)⟩
      · exact ⟨_, hclose _ le_rfl (by omega) hactive⟩
  · intro _
    rw [hleft]
    rfl
  · intro _
    rw [hleft]
    rfl

theorem Watched.step (hidle : cfg.idleTimeoutMs < 2 ^ 31)
    (hwatched : Watched cfg state) (pass : Pass) :
    Watched cfg (state.step cfg pass) := by
  cases hrestarted : state.flasher.restarted with
  | true =>
      have hsame : state.next cfg pass = state.flasher := by
        simp [next, Flasher.iterate, hrestarted]
      have hagain : (state.step cfg pass).flasher.restarted = true := by
        change (state.next cfg pass).restarted = true
        rw [hsame]
        exact hrestarted
      have horder := le_actedAt pass state.nowMs
      refine ⟨hwatched.coherent.iterate cfg _, ?_, ?_, ?_, ?_⟩
      · have hnow := hwatched.served
        simp only [WatchedFlasher.step]
        split <;> omega
      all_goals simp [hagain]
  | false =>
      cases hrequest : pass.request with
      | none => exact hwatched.step_quiet hidle hrestarted hrequest
      | some request =>
          exact hwatched.step_served hidle hrestarted (by simp [hrequest])

theorem Watched.idled_step (hidle : cfg.idleTimeoutMs < 2 ^ 31)
    (hwatched : Watched cfg state) (pass : Pass) :
    (state.step cfg pass).idled = false ↔
      state.idled = false ∧ state.DueAfterIdle cfg pass := by
  unfold DueAfterIdle
  cases hdue : state.overdue cfg pass with
  | false => simp [WatchedFlasher.step, hdue]
  | true =>
      rw [← hwatched.restarts_iff hidle hdue]
      simp [WatchedFlasher.step, hdue]

/-- In a run no overdue pass ends without a restart if and only if each
overdue pass follows a request that left no session behind. -/
theorem never_idles_iff (cfg : FlasherConfig)
    (hidle : cfg.idleTimeoutMs < 2 ^ 31) (vIdle vLoad startMs : ℕ)
    (passes : List Pass) :
    (run (WatchedFlasher.step cfg) (start vIdle vLoad startMs)
        passes).idled = false ↔
      Guarded (WatchedFlasher.step cfg) (DueAfterIdle cfg)
        (start vIdle vLoad startMs) passes := by
  have hstep : ∀ (state : WatchedFlasher) pass, Watched cfg state →
      Watched cfg (state.step cfg pass) :=
    fun _ pass hwatched => hwatched.step hidle pass
  have hgood : ∀ (state : WatchedFlasher) pass, Watched cfg state →
      ((state.step cfg pass).idled = false ↔
        state.idled = false ∧ state.DueAfterIdle cfg pass) :=
    fun _ pass hwatched => hwatched.idled_step hidle pass
  have hrun := @run_iff_guarded _ _ _ _ (Watched cfg)
    (fun state => state.idled = false) hstep hgood _
    (watched_start cfg vIdle vLoad startMs) passes
  rw [hrun]
  exact and_iff_right rfl

/-- Left in any other phase, the device stays up for as long as no request
arrives. -/
theorem stays_up_without_requests (cfg : FlasherConfig)
    (hidle : cfg.idleTimeoutMs < 2 ^ 31) {state : WatchedFlasher}
    (hwatched : Watched cfg state)
    (hlive : state.flasher.restarted = false) (hleft : ¬ state.LeftIdle)
    (passes : List Pass) (hquiet : ∀ pass ∈ passes, pass.request = none) :
    (run (WatchedFlasher.step cfg) state passes).flasher.restarted =
      false := by
  induction passes generalizing state with
  | nil => exact hlive
  | cons pass passes ih =>
      have hnone := hquiet pass (.head passes)
      have hnext : (state.next cfg pass).restarted = false := by
        by_contra hrestarted
        rw [Bool.not_eq_false,
          (hwatched.next_quiet hlive hnone).1] at hrestarted
        rcases hrestarted with hphase | ⟨hphase, -⟩
        · exact hleft (.inr ((hwatched.complete hlive).mp hphase))
        · exact hleft (.inl ((hwatched.ready hlive).mp hphase))
      have hsame : (state.step cfg pass).leftPhase = state.leftPhase := by
        simp [WatchedFlasher.step, hnone]
      have hstill : ¬ (state.step cfg pass).LeftIdle := by
        unfold LeftIdle
        rw [hsame]
        exact hleft
      exact ih (hwatched.step hidle pass) hnext hstill
        (fun other hother => hquiet other (.tail _ hother))

/-! ## A client that goes away -/

/-- A pass of 25 s without a request. -/
def quietPass : Pass where
  request := none
  waitedMs := 0
  servedMs := 0
  restMs := 25000
  env := Flasher.benchEnv 0 0
  paced := by decide

def requestPass (request : FlasherRequest) : Pass where
  request := some request
  waitedMs := 10
  servedMs := 5
  restMs := 5
  env := Flasher.benchEnv 0 0
  paced := by decide

def startRequest : FlasherRequest :=
  .start { Flasher.noHeaders with
    sessionId := ['7'], totalSize := ['4', '0', '9', '6'] } (some 1310720)

theorem restarts_after_abort :
    (run (WatchedFlasher.step Flasher.benchConfig) (start 4100 4000 500)
      (requestPass startRequest :: requestPass .abort ::
        List.replicate 17 quietPass)).idled = false :=
  (never_idles_iff Flasher.benchConfig (by decide) 4100 4000 500
    (requestPass startRequest :: requestPass .abort ::
      List.replicate 17 quietPass)).mpr (by decide)

/-- The client starts a session and sends nothing more. -/
theorem idles_after_stalled_session :
    (run (WatchedFlasher.step Flasher.benchConfig) (start 4100 4000 500)
      (requestPass startRequest ::
        List.replicate 17 quietPass)).idled = true := by
  decide

end WatchedFlasher

end SensorFirmware
