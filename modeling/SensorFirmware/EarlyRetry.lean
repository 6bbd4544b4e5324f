import SensorFirmware.Retransmission

/-!
# Retransmission in due time

The elapsed time that a pass computes for a slot runs from the `sentTime` of
the slot to the reading of the clock at the beginning of the pass.  It tells
how long ago the frame went out if the slot was filled before that reading, and
if the frame did not go out later after its stamp than the pass comes to the
slot after its reading.
-/

namespace SensorFirmware

open EventTrace

namespace Delivery

variable {cfg : HistoryConfig}

/-- The event comes more than a timeout after every notification of its
message. -/
def Spaced (timing : TimingConfig) (past : List RetryEvent)
    (event : RetryEvent) : Prop :=
  ∀ old ∈ past, old.isNotification = true →
    old.frame.message = event.frame.message →
      old.time + timing.ackTimeoutMs < event.time

namespace ClockedWorld

/-- A slot that is retried was stamped before the pass began, and the pass is
as far behind its reading of the clock as its frame was behind its stamp. -/
def OnTime (timing : TimingConfig) (world : ClockedWorld cfg)
    (input : ClockedStep) : Prop :=
  match input, world.pass with
  | .visit true, some ⟨startedAt, next, none⟩ =>
      ∀ i : SlotIndex, i.val = next → world.Expired timing startedAt i →
        (world.handler.slot i).retryCount < timing.maxRetryCount →
          world.stamp i ≤ startedAt ∧
            ∀ old ∈ world.events, old.isNotification = true →
              old.frame.message = (world.origin i).message →
                old.time + startedAt ≤ world.clock + world.stamp i
  | _, _ => True

variable {world after : ClockedWorld cfg} {timing : TimingConfig}
  {input : ClockedStep}

/-- What is to be sent again was last sent more than a timeout ago. -/
structure WellSpaced (timing : TimingConfig) (world : ClockedWorld cfg) :
    Prop where
  sound : world.Sound
  events : Always (Spaced timing) world.events
  resending : ∀ frame, world.resending = some frame →
    Spaced timing world.events (.notified frame world.clock)

theorem spaced_later {past : List RetryEvent} {frame : SentFrame}
    {time later : ℕ} (hle : time ≤ later)
    (hspaced : Spaced timing past (.notified frame time)) :
    Spaced timing past (.notified frame later) := by
  intro old hmem hnotified hsame
  exact (hspaced old hmem hnotified hsame).trans_le hle

/-- A message that has no number yet is not in the record. -/
theorem spaced_fresh (hsound : world.Sound) {frame : SentFrame}
    (hfresh : ∀ old ∈ world.numbered, old.message ≠ frame.message)
    (time : ℕ) : Spaced timing world.events (.notified frame time) := by
  intro old hmem _ hsame
  exact absurd hsame (hfresh old.frame (hsound.events old hmem))

/-- The elapsed time of the pass is no more than what has elapsed. -/
theorem spaced_retry (hsound : world.Sound) {startedAt : ℕ} {i : SlotIndex}
    (hexpired : world.Expired timing startedAt i)
    (hfilled : world.stamp i ≤ startedAt)
    (hlag : ∀ old ∈ world.events, old.isNotification = true →
      old.frame.message = (world.origin i).message →
        old.time + startedAt ≤ world.clock + world.stamp i) :
    Spaced timing world.events (.counted (world.origin i) world.clock) := by
  intro old hmem hnotified hsame
  have hsent := hsound.sentTime i hexpired.1
  have helapsed : timing.ackTimeoutMs < startedAt - world.stamp i := by
    have hlate := hexpired.2
    rw [hsent, sub32_u32 hfilled] at hlate
    exact hlate.trans_le (Nat.mod_le _ _)
  have hbehind := hlag old hmem hnotified hsame
  change old.time + timing.ackTimeoutMs < world.clock
  omega

namespace WellSpaced

theorem of_moves (hspaced : world.WellSpaced timing)
    (htime : world.OnTime timing input) (hsound : after.Sound)
    (hmoves : world.Moves timing input after) : after.WellSpaced timing := by
  cases hmoves with
  | quiet hkept hevents hresending hclock =>
      refine ⟨hsound, hevents ▸ hspaced.events, ?_⟩
      intro frame hframe
      rw [hresending] at hframe
      rw [hevents]
      exact spaced_later hclock (hspaced.resending frame hframe)
  | fills i frame hfresh hnumbered hkept hfilled hevents hresending hclock =>
      have hnew : Spaced timing world.events (.notified frame world.clock) :=
        spaced_fresh hspaced.sound hfresh world.clock
      refine ⟨hsound, ?_, ?_⟩
      · rw [hevents]
        exact ⟨hnew, hspaced.events⟩
      · intro other hother
        rw [hresending] at hother
        have hold := hspaced.resending other hother
        have hnumberedOld := hspaced.sound.resending other hother
        rw [hevents, hclock]
        intro old hmem hnotified hsame
        rcases List.mem_cons.mp hmem with rfl | hpast
        · exact absurd hsame.symm (hfresh other hnumberedOld)
        · exact hold old hpast hnotified hsame
  | retries startedAt i hinput hpass hexpired hleft hkept hretried hevents
      hresending hclock =>
      rw [hinput] at htime
      unfold OnTime at htime
      rw [hpass] at htime
      obtain ⟨hfilled, hlag⟩ := htime i rfl hexpired hleft
      have hcounted := spaced_retry hspaced.sound hexpired hfilled hlag
      refine ⟨hsound, ?_, ?_⟩
      · rw [hevents]
        exact ⟨hcounted, hspaced.events⟩
      · intro frame hframe
        rw [hresending] at hframe
        cases Option.some.inj hframe
        rw [hevents, hclock]
        intro old hmem hnotified hsame
        rcases List.mem_cons.mp hmem with rfl | hpast
        · cases hnotified
        · exact hcounted old hpast hnotified hsame
  | resends frame hframe hkept hevents hresending hclock =>
      refine ⟨hsound, ?_, ?_⟩
      · rw [hevents]
        exact ⟨hspaced.resending frame hframe, hspaced.events⟩
      · intro other hother
        rw [hresending] at hother
        cases hother

theorem start (cfg : HistoryConfig) (timing : TimingConfig) :
    (ClockedWorld.start cfg).WellSpaced timing := by
  refine ⟨sound_start cfg, trivial, ?_⟩
  intro frame hframe
  cases hframe

end WellSpaced

/-- While retries are on time, no frame is sent again and no retry is counted
before the timeout has elapsed since the frame last went out. -/
theorem no_early_retransmission (cfg : HistoryConfig)
    (timing : TimingConfig) (inputs : List ClockedStep)
    (htime : GuardedRun.GuardedAttempt (ClockedWorld.step timing)
      (OnTime timing) (ClockedWorld.start cfg) inputs) :
    ∃ final, (ClockedWorld.start cfg).run timing inputs = some final ∧
      Always (Spaced timing) final.events := by
  have hstep : ∀ (world : ClockedWorld cfg) input, world.WellSpaced timing →
      world.OnTime timing input →
        ∃ after, world.step timing input = some after ∧
          after.WellSpaced timing := by
    intro world input hspaced hguard
    obtain ⟨after, hafter, hsound, hmoves⟩ :=
      progress_step timing hspaced.sound input
    exact ⟨after, hafter, hspaced.of_moves hguard hsound hmoves⟩
  obtain ⟨final, hrun, hfinal⟩ := GuardedRun.invariant_attempt hstep
    (WellSpaced.start cfg timing) htime
  exact ⟨final, hrun, hfinal.events⟩

/-! ### Concrete runs -/

instance (past : List RetryEvent) (event : RetryEvent) :
    Decidable (Spaced timing past event) :=
  inferInstanceAs (Decidable (∀ _ ∈ _, _ → _ → _))

instance (startedAt : ℕ) (i : SlotIndex) :
    Decidable (world.Expired timing startedAt i) :=
  inferInstanceAs (Decidable (_ ∧ _))

instance : Decidable (world.OnTime timing input) := by
  unfold OnTime
  split <;> infer_instance

/-- The BLE task sends a detection one millisecond after the pass began. -/
def filledDuringPassRun : List ClockedStep :=
  atSession ([.logDetection true 0 0] ++ connection 0 ++
      [.syncRequest 0 0, .syncRead true]) ++
    [.elapse 200, .beginPass true, .elapse 1] ++
    atSession [.syncSend true true 0] ++ [.visit true]

/-- The first retry goes out 45 ms after its pass began, the second at
once. -/
def delayedResendRun : List ClockedStep :=
  atSession ([.logDetection true 0 0] ++ connection 0) ++ [.elapse 200] ++
    atSession (pump 0) ++
    [.elapse 6001, .beginPass true, .elapse 45] ++ wholePass.tail ++
    [.elapse 5956] ++ wholePass

theorem unanswered_retransmission_in_time :
    ∃ final, (ClockedWorld.start .fourSlots).run benchTiming unansweredRun =
        some final ∧
      Always (Spaced benchTiming) final.events :=
  no_early_retransmission .fourSlots benchTiming unansweredRun
    (by decide +kernel)

theorem early_retransmissions :
    (∃ final ∈ (ClockedWorld.start .fourSlots).run benchTiming
        filledDuringPassRun, ¬Always (Spaced benchTiming) final.events) ∧
      ∃ final ∈ (ClockedWorld.start .fourSlots).run benchTiming
        delayedResendRun, ¬Always (Spaced benchTiming) final.events := by
  decide +kernel

end ClockedWorld

end Delivery

end SensorFirmware
