import SensorFirmware.FlasherIteration
import SensorFirmware.GuardedRun

/-!
# After success

A reboot that is pending between two iterations can still be overwritten by
`/abort`, and a legacy part does not ask for the phase at all.  Nothing else
gets between the success and the reboot.
-/

namespace SensorFirmware

open EventTrace GuardedRun

/-- What may happen after a success. -/
def FlasherEvent.Rebooting (event : FlasherEvent) : Prop :=
  event = .phase .complete ∨ event = .schedule .rebootSuccess ∨
    event = .execute .rebootSuccess

instance (event : FlasherEvent) : Decidable event.Rebooting :=
  inferInstanceAs (Decidable (_ ∨ _ ∨ _))

namespace Flasher

/-- Once the phase was `COMPLETE`, only the reboot follows. -/
def OnlyReboots (past : List FlasherEvent) (event : FlasherEvent) : Prop :=
  .phase .complete ∈ past → event.Rebooting

instance (past : List FlasherEvent) (event : FlasherEvent) :
    Decidable (OnlyReboots past event) :=
  inferInstanceAs (Decidable (_ → _))

def SuccessIsFinal (f : Flasher) : Prop :=
  Always OnlyReboots f.trace

instance (f : Flasher) : Decidable f.SuccessIsFinal :=
  inferInstanceAs (Decidable (Always OnlyReboots f.trace))

/-- In phase `COMPLETE` no request aborts or posts a legacy part. -/
def LeavesSuccess (f : Flasher) (iteration : Iteration) : Prop :=
  f.restarted = false → f.state.phase = .complete →
    disturbs iteration.request = false

instance (f : Flasher) (iteration : Iteration) :
    Decidable (f.LeavesSuccess iteration) :=
  inferInstanceAs (Decidable (_ → _ → _))

/-! ## Traces -/

theorem always_onlyReboots_of_not_mem {trace : List FlasherEvent}
    (hnone : .phase .complete ∉ trace) : Always OnlyReboots trace := by
  rw [always_iff]
  intro newer event past htrace hmem
  have hlater : FlasherEvent.phase .complete ∈ trace := by
    rw [htrace]
    exact List.mem_append_right _ (List.mem_cons_of_mem _ hmem)
  exact absurd hlater hnone

theorem not_always_onlyReboots {older newer : List FlasherEvent}
    (hdisturbed : Disturbed older newer)
    (hseen : .phase .complete ∈ older) : ¬Always OnlyReboots newer := by
  intro halways
  obtain ⟨after, event, before, hnewer, hsuffix, hevent⟩ := hdisturbed
  have hreboots : event.Rebooting :=
    (always_iff newer).mp halways after event before hnewer
      (hsuffix.subset hseen)
  rcases hevent with rfl | rfl
  · simp [FlasherEvent.Rebooting] at hreboots
  · simp [FlasherEvent.Rebooting] at hreboots

theorem always_onlyReboots_report (past : List FlasherEvent) :
    Always OnlyReboots (.execute .rebootSuccess ::
        .schedule .rebootSuccess :: .phase .complete :: past) ↔
      Always OnlyReboots past := by
  simp [OnlyReboots, FlasherEvent.Rebooting]

theorem not_mem_of_ordinary {older newer : List FlasherEvent}
    (hext : Extends FlasherEvent.Ordinary older newer)
    (hnone : .phase .complete ∉ older) : .phase .complete ∉ newer := by
  intro hmem
  refine hnone (hext.mem_older hmem ?_)
  simp [FlasherEvent.Ordinary]

/-! ## One iteration -/

/-- The actions of the first half leave a mark on a success exactly when the
request disturbs it. -/
theorem Succeeded.act_iff {f next : Flasher}
    {request : Option (ℕ × FlasherRequest)} (hsucceeded : f.Succeeded)
    (hact : ActOutcome f request next) :
    disturbs request = false ∧ next.restarted = true ∧
        (Always OnlyReboots next.trace ↔ Always OnlyReboots f.trace) ∨
      disturbs request = true ∧ Disturbed f.trace next.trace := by
  cases hact with
  | ordinary _ _ _ disturbed calm _ =>
      cases hrequest : disturbs request with
      | true => exact .inr ⟨rfl, disturbed hrequest⟩
      | false =>
          obtain ⟨hrestarted, htrace⟩ := calm hrequest hsucceeded
          refine .inl ⟨rfl, hrestarted, ?_⟩
          rw [htrace]
          simp [OnlyReboots, FlasherEvent.Rebooting]
  | reported before restarted trace origin =>
      rcases origin with ⟨calm, -, rfl⟩ | ⟨disturbed, -, upload, -⟩
      · refine .inl ⟨calm, restarted, ?_⟩
        rw [trace]
        exact always_onlyReboots_report before.trace
      · have hreport : Extends (fun _ => True) before.trace next.trace :=
          ⟨[.execute .rebootSuccess, .schedule .rebootSuccess,
            .phase .complete], trace, by simp⟩
        exact .inr ⟨disturbed, upload.disturbed.trans hreport⟩

theorem finish_extends (cfg : FlasherConfig) {f : Flasher}
    (hresting : f.Resting) (env : LoopEnv) :
    Extends (fun _ => True) f.trace (f.finish cfg env).trace := by
  cases hresting.finish_spec cfg env with
  | ordinary _ trace => exact trace.mono fun _ _ => trivial
  | committed _ trace =>
      exact ⟨[.schedule .rebootSuccess, .phase .complete,
        .finish .chunks true, .phase .verifying,
        .write f.chunk.data f.sent], trace, by simp⟩

theorem finish_final (cfg : FlasherConfig) {f : Flasher}
    (hresting : f.Resting) (hnone : .phase .complete ∉ f.trace)
    (env : LoopEnv) :
    Always OnlyReboots (f.finish cfg env).trace := by
  cases hresting.finish_spec cfg env with
  | ordinary _ trace =>
      exact always_onlyReboots_of_not_mem (not_mem_of_ordinary trace hnone)
  | committed _ trace =>
      rw [trace]
      simp [OnlyReboots, FlasherEvent.Rebooting, hnone,
        always_onlyReboots_of_not_mem hnone]

theorem ActOutcome.extends {f next : Flasher}
    {request : Option (ℕ × FlasherRequest)}
    (hact : ActOutcome f request next) :
    Extends (fun _ => True) f.trace next.trace := by
  cases hact with
  | ordinary _ trace _ _ _ _ => exact trace.mono fun _ _ => trivial
  | reported before _ trace origin =>
      have hreport : Extends (fun _ => True) before.trace next.trace :=
        ⟨[.execute .rebootSuccess, .schedule .rebootSuccess,
          .phase .complete], trace, by simp⟩
      rcases origin with ⟨-, -, rfl⟩ | ⟨-, -, upload, -⟩
      · exact hreport
      · have hupload : Extends (fun _ => True) f.trace before.trace :=
          upload.step.trace.mono fun _ _ => trivial
        exact hupload.trans hreport

theorem ActOutcome.final {f next : Flasher}
    {request : Option (ℕ × FlasherRequest)}
    (hact : ActOutcome f request next)
    (hnone : .phase .complete ∉ f.trace) :
    Always OnlyReboots next.trace := by
  cases hact with
  | ordinary _ trace _ _ _ _ =>
      exact always_onlyReboots_of_not_mem (not_mem_of_ordinary trace hnone)
  | reported before _ trace origin =>
      rw [trace, always_onlyReboots_report]
      rcases origin with ⟨-, -, rfl⟩ | ⟨-, -, upload, -⟩
      · exact always_onlyReboots_of_not_mem hnone
      · have hordinary : Extends FlasherEvent.Ordinary f.trace
            before.trace :=
          upload.step.trace.mono fun _ hlegacy => hlegacy.ordinary
        exact always_onlyReboots_of_not_mem
          (not_mem_of_ordinary hordinary hnone)

theorem Coherent.iterate_extends_act (cfg : FlasherConfig) {f : Flasher}
    (hcoherent : f.Coherent) (hlive : f.restarted = false)
    (iteration : Iteration) :
    Extends (fun _ => True) (f.serveAndAct cfg iteration).trace
      (f.iterate cfg iteration).trace := by
  have hspec := hcoherent.serveAndAct_spec cfg hlive iteration
  rcases iterate_cases cfg hlive iteration with
    ⟨-, hiterate⟩ | ⟨hacted, hiterate⟩
  · rw [hiterate]
    exact .refl _
  · rw [hiterate]
    exact finish_extends cfg (hspec.resting hacted).1 iteration.env

/-- A device that has succeeded and was left alone waits for its reboot. -/
structure Faithful (f : Flasher) : Prop where
  coherent : f.Coherent
  waits : f.restarted = false → f.SuccessIsFinal →
    .phase .complete ∈ f.trace → f.Succeeded

theorem Faithful.successIsFinal_iterate (cfg : FlasherConfig)
    {f : Flasher} (hfaithful : f.Faithful) (iteration : Iteration) :
    (f.iterate cfg iteration).SuccessIsFinal ↔
      f.SuccessIsFinal ∧ f.LeavesSuccess iteration := by
  unfold LeavesSuccess
  by_cases hrestarted : f.restarted = true
  · simp [iterate_eq, hrestarted]
  · have hlive : f.restarted = false := by simpa using hrestarted
    have hspec := hfaithful.coherent.serveAndAct_spec cfg hlive iteration
    have hrest :=
      hfaithful.coherent.iterate_extends_act cfg hlive iteration
    have hwhole := hspec.extends.trans hrest
    rcases hfaithful.coherent.live hlive with hresting | hsucceeded
    · -- without a pending reboot there was no success that is still final
      have hguard : f.restarted = false → f.state.phase = .complete →
          disturbs iteration.request = false :=
        fun _ hphase => absurd hphase hresting.phase
      rw [and_iff_left hguard]
      by_cases hseen : .phase .complete ∈ f.trace
      · have hold : ¬f.SuccessIsFinal := by
          intro hfinal
          exact hresting.phase (hfaithful.waits hlive hfinal hseen).phase
        refine iff_of_false ?_ hold
        intro hfinal
        obtain ⟨events, htrace, -⟩ := hwhole
        unfold SuccessIsFinal at hfinal
        rw [htrace] at hfinal
        exact hold (always_of_append hfinal)
      · refine iff_of_true ?_ (always_onlyReboots_of_not_mem hseen)
        rcases iterate_cases cfg hlive iteration with
          ⟨-, hiterate⟩ | ⟨hacted, hiterate⟩
        · rw [hiterate]
          exact hspec.final hseen
        · obtain ⟨hactedRest, hordinary⟩ := hspec.resting hacted
          rw [hiterate]
          exact finish_final cfg hactedRest
            (not_mem_of_ordinary hordinary hseen) iteration.env
    · rcases hsucceeded.act_iff hspec with
        ⟨hcalm, hacted, hfinal⟩ | ⟨hdisturbs, hdisturbed⟩
      · rcases iterate_cases cfg hlive iteration with
          ⟨-, hiterate⟩ | ⟨hlater, -⟩
        · rw [hiterate]
          simpa [SuccessIsFinal, hcalm] using hfinal
        · rw [hacted] at hlater
          cases hlater
      · have hbroken := not_always_onlyReboots
          (hdisturbed.trans hrest) hsucceeded.seen
        refine iff_of_false hbroken ?_
        simp [hlive, hsucceeded.phase, hdisturbs]

theorem Faithful.iterate (cfg : FlasherConfig) {f : Flasher}
    (hfaithful : f.Faithful) (iteration : Iteration) :
    (f.iterate cfg iteration).Faithful := by
  have hnext := hfaithful.coherent.iterate cfg iteration
  refine ⟨hnext, ?_⟩
  intro hnextLive hfinal hseen
  rcases hnext.live hnextLive with hresting | hsucceeded
  · exfalso
    have hlive : f.restarted = false := by
      by_contra hrestarted
      have hstuck : f.restarted = true := by simpa using hrestarted
      simp [iterate_eq, hstuck] at hnextLive
    have hspec := hfaithful.coherent.serveAndAct_spec cfg hlive iteration
    have hboth :=
      (hfaithful.successIsFinal_iterate cfg iteration).mp hfinal
    rcases iterate_cases cfg hlive iteration with
      ⟨hacted, hiterate⟩ | ⟨hacted, hiterate⟩
    · rw [hiterate, hacted] at hnextLive
      cases hnextLive
    · obtain ⟨hactedRest, hordinary⟩ := hspec.resting hacted
      have hold : .phase .complete ∈ f.trace := by
        by_contra hnone
        have hactedNone := not_mem_of_ordinary hordinary hnone
        rw [hiterate] at hseen hresting
        cases hactedRest.finish_spec cfg iteration.env with
        | ordinary _ trace =>
            exact not_mem_of_ordinary trace hactedNone hseen
        | committed succeeded _ =>
            exact hresting.phase succeeded.phase
      have hsucceeded := hfaithful.waits hlive hboth.1 hold
      rcases hsucceeded.act_iff hspec with
        ⟨-, hrebooted, -⟩ | ⟨hdisturbs, -⟩
      · rw [hacted] at hrebooted
        cases hrebooted
      · rw [hboth.2 hlive hsucceeded.phase] at hdisturbs
        cases hdisturbs
  · exact hsucceeded

theorem faithful_ready (vIdle vLoad ms : ℕ) :
    (ready vIdle vLoad ms).Faithful := by
  refine ⟨coherent_ready vIdle vLoad ms, ?_⟩
  intro _ _ hseen
  simp [ready, resetFlasherState] at hseen

/-- In a run of the flasher only the reboot follows a success if and only if no
request in phase `COMPLETE` aborts or posts a legacy part. -/
theorem success_is_final_iff (cfg : FlasherConfig) (vIdle vLoad ms : ℕ)
    (iterations : List Iteration) :
    (run (iterate cfg) (ready vIdle vLoad ms) iterations).SuccessIsFinal ↔
      Guarded (iterate cfg) LeavesSuccess (ready vIdle vLoad ms)
        iterations := by
  have hstep : ∀ (f : Flasher) iteration, f.Faithful →
      (f.iterate cfg iteration).Faithful :=
    fun _ iteration hfaithful => hfaithful.iterate cfg iteration
  have hgood : ∀ (f : Flasher) iteration, f.Faithful →
      ((f.iterate cfg iteration).SuccessIsFinal ↔
        f.SuccessIsFinal ∧ f.LeavesSuccess iteration) :=
    fun _ iteration hfaithful =>
      hfaithful.successIsFinal_iterate cfg iteration
  have hready : (ready vIdle vLoad ms).SuccessIsFinal := by
    simp [SuccessIsFinal, ready, resetFlasherState, OnlyReboots]
  have hrun := run_iff_guarded hstep hgood
    (faithful_ready vIdle vLoad ms) iterations
  rw [hrun]
  exact and_iff_right hready

/-- A whole image of 1024 bytes in one chunk, and an abort right after it. -/
def abortAfterCommit : List Iteration :=
  [postStart 1000 ['7'] ['1', '0', '2', '4'],
    postChunk 2000 ['7'] ['0'] ['1'] (List.replicate 1024 0),
    { request := some (2010, .abort), env := benchEnv 2010 0 }]

theorem success_is_aborted :
    ¬(run (iterate benchConfig) (ready 4100 4000 500)
      abortAfterCommit).SuccessIsFinal := by
  decide +kernel

end Flasher

end SensorFirmware
