import SensorFirmware.FlasherIteration
import SensorFirmware.GuardedRun

/-!
# Success is reported for a finished image

Every path into `COMPLETE` goes through `Update.end(true)`, except for one:
the request handler of `/update` reports success whenever the phase is not
`ERROR`, even if the request had no part and nothing was ever uploaded.
-/

namespace SensorFirmware

open EventTrace GuardedRun

namespace Flasher

/-- A success needs a finished image. -/
def Justified (past : List FlasherEvent) (event : FlasherEvent) : Prop :=
  event = .phase .complete ∨ event = .schedule .rebootSuccess →
    imageFinished past = true

instance (past : List FlasherEvent) (event : FlasherEvent) :
    Decidable (Justified past event) :=
  inferInstanceAs (Decidable (_ ∨ _ → _))

def Sincere (f : Flasher) : Prop :=
  Always Justified f.trace

instance (f : Flasher) : Decidable f.Sincere :=
  inferInstanceAs (Decidable (Always Justified f.trace))

/-- A partless `/update` is answered with success only if the image happens to
be finished. -/
def ReportsFinished (f : Flasher) (iteration : Iteration) : Prop :=
  f.restarted = false → f.partlessSuccess iteration.request = true →
    imageFinished f.trace = true

instance (f : Flasher) (iteration : Iteration) :
    Decidable (f.ReportsFinished iteration) :=
  inferInstanceAs (Decidable (_ → _ → _))

theorem justified_of_ordinary {event : FlasherEvent}
    (hordinary : event.Ordinary) (past : List FlasherEvent) :
    Justified past event := by
  rintro (hphase | hschedule)
  · exact absurd hphase hordinary.1
  · exact absurd hschedule hordinary.2.1

theorem always_justified_iff {older newer : List FlasherEvent}
    (hext : Extends FlasherEvent.Ordinary older newer) :
    Always Justified newer ↔ Always Justified older :=
  hext.always_iff fun _ hordinary past =>
    justified_of_ordinary hordinary past

theorem always_justified_report (past : List FlasherEvent) :
    Always Justified
        (.schedule .rebootSuccess :: .phase .complete :: past) ↔
      imageFinished past = true ∧ Always Justified past := by
  simp [Justified, imageFinished]

theorem always_justified_finish {cfg : FlasherConfig} {f : Flasher}
    (hresting : f.Resting) (env : LoopEnv) :
    Always Justified (f.finish cfg env).trace ↔
      Always Justified f.trace := by
  cases hresting.finish_spec cfg env with
  | ordinary _ trace => exact always_justified_iff trace
  | committed succeeded trace =>
      have hwrite : Extends FlasherEvent.Ordinary f.trace
          (.phase .verifying :: .write f.chunk.data f.sent :: f.trace) := by
        refine ⟨[.phase .verifying, .write f.chunk.data f.sent], rfl, ?_⟩
        simp [FlasherEvent.Ordinary]
      have hfinished := succeeded.finished
      rw [trace] at hfinished ⊢
      rw [always_justified_report, always_cons,
        always_justified_iff hwrite]
      have hend : imageFinished (.finish .chunks true ::
          .phase .verifying :: .write f.chunk.data f.sent :: f.trace) =
            true := hfinished
      simp [hend, Justified]

theorem always_justified_act {f next : Flasher}
    {request : Option (ℕ × FlasherRequest)}
    (hact : ActOutcome f request next) :
    Always Justified next.trace ↔
      Always Justified f.trace ∧
        (f.partlessSuccess request = true →
          imageFinished f.trace = true) := by
  cases hact with
  | ordinary parted trace _ _ _ _ =>
      simp [always_justified_iff trace, parted]
  | reported before _ trace origin =>
      have hreport : Always Justified next.trace ↔
          imageFinished before.trace = true ∧
            Always Justified before.trace := by
        rw [trace, always_cons, always_justified_report]
        simp [Justified]
      rw [hreport]
      rcases origin with ⟨-, partless, rfl⟩ | ⟨-, parted, upload, finished⟩
      · simp [partless, and_comm]
      · have hext : Extends FlasherEvent.Ordinary f.trace before.trace :=
          upload.step.trace.mono fun _ hlegacy => hlegacy.ordinary
        simp [always_justified_iff hext, finished, parted]

theorem sincere_iterate (cfg : FlasherConfig) {f : Flasher}
    (hcoherent : f.Coherent) (iteration : Iteration) :
    (f.iterate cfg iteration).Sincere ↔
      f.Sincere ∧ f.ReportsFinished iteration := by
  rw [iterate_eq]
  unfold Sincere ReportsFinished
  by_cases hrestarted : f.restarted = true
  · simp [hrestarted]
  · have hlive : f.restarted = false := by simpa using hrestarted
    have hspec := hcoherent.serveAndAct_spec cfg hlive iteration
    have hact := always_justified_act hspec
    rw [if_neg hrestarted]
    by_cases hstop : (f.serveAndAct cfg iteration).restarted = true
    · rw [if_pos hstop, hact]
      simp [hlive]
    · rw [if_neg hstop]
      cases hspec with
      | ordinary _ _ rest _ _ _ =>
          have hresting := (rest.resolve_left hstop).1
          rw [always_justified_finish hresting, hact]
          simp [hlive]
      | reported _ restarted _ _ => exact absurd restarted hstop

/-- In a run of the flasher every success is for a finished image if and only
if every partless `/update` that is answered with success is. -/
theorem success_sincere_iff (cfg : FlasherConfig) (vIdle vLoad ms : ℕ)
    (iterations : List Iteration) :
    (run (iterate cfg) (ready vIdle vLoad ms) iterations).Sincere ↔
      Guarded (iterate cfg) ReportsFinished (ready vIdle vLoad ms)
        iterations := by
  have hstep : ∀ (f : Flasher) iteration, f.Coherent →
      (f.iterate cfg iteration).Coherent :=
    fun _ iteration hcoherent => hcoherent.iterate cfg iteration
  have hgood : ∀ (f : Flasher) iteration, f.Coherent →
      ((f.iterate cfg iteration).Sincere ↔
        f.Sincere ∧ f.ReportsFinished iteration) :=
    fun _ iteration hcoherent => sincere_iterate cfg hcoherent iteration
  have hready : (ready vIdle vLoad ms).Sincere := by
    simp [Sincere, ready, resetFlasherState, Justified]
  have hrun := run_iff_guarded hstep hgood
    (coherent_ready vIdle vLoad ms) iterations
  rw [hrun]
  exact and_iff_right hready

/-! ## A post without a part -/

/-- A `POST /update` with an empty body, as the first request. -/
def partlessPost : Iteration where
  request := some (1000, .update noHeaders (some 1310720)
    { parts := [], lost := none, parsed := true, hasError := false })
  env := benchEnv 1000 0

theorem success_for_nothing :
    ¬(run (iterate benchConfig) (ready 4100 4000 500)
      [partlessPost]).Sincere := by
  decide

end Flasher

end SensorFirmware
