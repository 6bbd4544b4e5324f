import SensorFirmware.InferenceWindows

/-!
# After the inference task

Before each sleep the services are shut down: the task ends and the file system
is unmounted.  Where the sleep is then given up, the sensor task goes on, with
the handle of a task that is no more.
-/

namespace SensorFirmware

open GuardedRun StrideWindows

variable {cfg : MLConfig}

namespace InferenceDevice

variable {device : InferenceDevice cfg}

/-! ## The handle -/

/-- A task that has run has given its handle. -/
def Handled (device : InferenceDevice cfg) : Prop :=
  device.service.phase = .absent ∨ device.service.phase = .created ∨
    device.handleSet = true

theorem Handled.step (hdevice : device.Handled) (event : InferenceEvent) :
    (device.step event).Handled := by
  cases event with
  | service event =>
      cases event with
      | logger event =>
          cases event with
          | appendSample sample env =>
              unfold InferenceDevice.step InferenceDevice.appendSample
                notifyGive
              dsimp only
              split_ifs <;> exact hdevice
          | startSession label => exact hdevice
          | stopSession => exact hdevice
          | setRuntimeFlags flags => exact hdevice
          | write outcome => exact hdevice
      | deleteAll rootOpens failing => exact hdevice
  | unmountSpiffs => exact hdevice
  | taskStart =>
      rw [InferenceDevice.step]
      split
      · exact .inr (.inr rfl)
      · exact hdevice
  | take =>
      rw [InferenceDevice.step]
      split
      · next hphase =>
        have hset : device.handleSet = true := by
          simpa [Handled, hphase] using hdevice
        unfold take
        split <;> exact .inr (.inr hset)
      · exact hdevice
  | lock inTime =>
      rw [InferenceDevice.step]
      split
      · next hphase =>
        have hset : device.handleSet = true := by
          simpa [Handled, hphase] using hdevice
        unfold lock
        split
        · split
          · exact hdevice
          · exact .inr (.inr hset)
        · exact .inr (.inr hset)
      · exact hdevice
  | loopLock =>
      rw [InferenceDevice.step]
      split <;> exact hdevice
  | loopUnlock => exact hdevice
  | copyWindow =>
      rw [InferenceDevice.step]
      split
      · next hphase =>
        have hset : device.handleSet = true := by
          simpa [Handled, hphase] using hdevice
        exact .inr (.inr hset)
      · exact hdevice
  | publishResult startUs endUs uptime =>
      rw [InferenceDevice.step]
      split
      · next window hphase =>
        have hset : device.handleSet = true := by
          simpa [Handled, hphase] using hdevice
        exact .inr (.inr hset)
      · exact hdevice
  | getLatestResult => exact hdevice
  | shutdown =>
      unfold InferenceDevice.step InferenceService.shutdown
      dsimp only
      split <;> exact hdevice

/-! ## Samples without a task -/

/-- The device `before` with some fresh samples, where the task has ended and
no session can start. -/
structure Deserted (before device : InferenceDevice cfg)
    (fresh : List SampleRecord) (windows : List (List SampleRecord)) :
    Prop where
  ended : device.service.phase = .ended
  handleSet : device.handleSet = true
  unmounted : device.logger.spiffsMounted = false
  index : device.logger.sampleIndex < cfg.windowSize
  samples : device.samples = before.samples ++ fresh
  segmented : Segmented cfg.windowSize cfg.windowStride
    (before.logger.buffered ++ fresh) ⟨device.logger.buffered, windows⟩
  counted : device.staleNotifies + device.skipped =
    before.staleNotifies + before.skipped + windows.length

variable {before : InferenceDevice cfg} {fresh : List SampleRecord}
  {windows : List (List SampleRecord)}

theorem deserted_start (hended : before.service.phase = .ended)
    (hset : before.handleSet = true)
    (hunmounted : before.logger.spiffsMounted = false)
    (hindex : before.logger.sampleIndex < cfg.windowSize) :
    Deserted before before [] [] where
  ended := hended
  handleSet := hset
  unmounted := hunmounted
  index := hindex
  samples := (List.append_nil _).symm
  segmented := by
    rw [List.append_nil]
    constructor
    · rfl
    · simp
    · simp
    · rw [DataLoggerService.length_buffered hindex]
      exact hindex
    · exact .inl rfl
  counted := rfl

/-- A complete window is notified or skipped. -/
theorem counted_appendSample (hended : device.service.phase = .ended)
    (hset : device.handleSet = true) (sample : SampleRecord)
    (env : SampleEnv) :
    (device.appendSample sample env).staleNotifies +
          (device.appendSample sample env).skipped =
        device.staleNotifies + device.skipped +
          (device.logger.completes sample
            { env with inferenceLock := device.mutexFree }).length ∧
      (device.appendSample sample env).service = device.service ∧
      (device.appendSample sample env).handleSet = device.handleSet := by
  have hstored : (device.logger.storeSample sample
      { env with inferenceLock := device.mutexFree }).sampleIndex =
        u8 (device.logger.sampleIndex + 1) := rfl
  unfold DataLoggerService.completes
  rw [hstored]
  unfold appendSample notifyGive fills
  by_cases hfull : cfg.windowSize ≤ u8 (device.logger.sampleIndex + 1)
  · cases hfree : device.mutexFree with
    | true => simp [hfull, hset, hended, Nat.add_right_comm]
    | false => simp [hfull, Nat.add_assoc]
  · simp [hfull]

theorem Deserted.appendSample (hdevice : Deserted before device fresh windows)
    (hsize : cfg.windowSize ≤ 255) (hpos : 0 < cfg.windowStride)
    (hstride : cfg.windowStride ≤ cfg.windowSize) (sample : SampleRecord)
    (env : SampleEnv) :
    ∃ more, Deserted before (device.appendSample sample env)
      (fresh ++ [sample]) (windows ++ more) := by
  obtain ⟨hcounted, hservice, hset⟩ :=
    counted_appendSample hdevice.ended hdevice.handleSet sample env
  have hlogger : (device.appendSample sample env).logger =
      device.logger.appendSample sample
        { env with inferenceLock := device.mutexFree } := by
    unfold logger
    rw [appendSample_trace]
    rfl
  refine ⟨(device.logger.completes sample
    { env with inferenceLock := device.mutexFree }).map Vector.toList, ?_⟩
  constructor
  · rw [hservice]
    exact hdevice.ended
  · rw [hset]
    exact hdevice.handleSet
  · rw [hlogger]
    exact (device.logger.appendSample_kept sample _).2.2.2.1.trans
      hdevice.unmounted
  · rw [hlogger]
    exact DataLoggerService.sampleIndex_lt_appendSample hpos hstride sample _
  · rw [appendSample_samples, hdevice.samples, List.append_assoc]
  · rw [hlogger, ← DataLoggerService.push_buffered hsize hpos hstride
      hdevice.index, ← List.append_assoc]
    exact hdevice.segmented.push hpos hstride sample
  · rw [hcounted, hdevice.counted, List.length_append, List.length_map,
      Nat.add_assoc]

/-- The other steps of the services. -/
theorem Deserted.service (hdevice : Deserted before device fresh windows)
    {event : ServiceEvent}
    (hother : ∀ sample env, event ≠ .logger (.appendSample sample env)) :
    Deserted before { device with trace := device.trace.step event } fresh
      windows := by
  obtain ⟨hunmounted, hindex, hbuffered⟩ :=
    SessionTrace.step_unmounted hother hdevice.unmounted
  refine ⟨hdevice.ended, hdevice.handleSet, hunmounted, ?_, hdevice.samples,
    ?_, hdevice.counted⟩
  · exact hindex.trans_lt hdevice.index
  · change Segmented _ _ _ ⟨(device.trace.step event).logger.buffered, _⟩
    rw [hbuffered]
    exact hdevice.segmented

theorem Deserted.step (hdevice : Deserted before device fresh windows)
    (hsize : cfg.windowSize ≤ 255) (hpos : 0 < cfg.windowStride)
    (hstride : cfg.windowStride ≤ cfg.windowSize) (event : InferenceEvent) :
    ∃ fresh windows, Deserted before (device.step event) fresh windows := by
  have hphase := hdevice.ended
  cases event with
  | service event =>
      cases event with
      | logger event =>
          cases event with
          | appendSample sample env =>
              obtain ⟨more, hmore⟩ :=
                hdevice.appendSample hsize hpos hstride sample env
              exact ⟨_, _, hmore⟩
          | startSession label => exact ⟨_, _, hdevice.service (by simp)⟩
          | stopSession => exact ⟨_, _, hdevice.service (by simp)⟩
          | setRuntimeFlags flags => exact ⟨_, _, hdevice.service (by simp)⟩
          | write outcome => exact ⟨_, _, hdevice.service (by simp)⟩
      | deleteAll rootOpens failing =>
          exact ⟨_, _, hdevice.service (by simp)⟩
  | unmountSpiffs =>
      exact ⟨fresh, windows, hdevice.ended, hdevice.handleSet, rfl,
        hdevice.index, hdevice.samples, hdevice.segmented, hdevice.counted⟩
  | taskStart =>
      exact ⟨fresh, windows, by
        simpa [InferenceDevice.step, hphase] using hdevice⟩
  | take =>
      exact ⟨fresh, windows, by
        simpa [InferenceDevice.step, hphase] using hdevice⟩
  | lock inTime =>
      exact ⟨fresh, windows, by
        simpa [InferenceDevice.step, hphase] using hdevice⟩
  | copyWindow =>
      exact ⟨fresh, windows, by
        simpa [InferenceDevice.step, hphase] using hdevice⟩
  | loopLock =>
      refine ⟨fresh, windows, ?_⟩
      rw [InferenceDevice.step]
      split
      · exact ⟨hdevice.ended, hdevice.handleSet, hdevice.unmounted,
          hdevice.index, hdevice.samples, hdevice.segmented, hdevice.counted⟩
      · exact hdevice
  | loopUnlock =>
      exact ⟨fresh, windows, hdevice.ended, hdevice.handleSet,
        hdevice.unmounted, hdevice.index, hdevice.samples,
        hdevice.segmented, hdevice.counted⟩
  | publishResult startUs endUs uptime =>
      exact ⟨fresh, windows, by
        simpa [InferenceDevice.step, hphase] using hdevice⟩
  | getLatestResult =>
      exact ⟨fresh, windows, hdevice.ended, hdevice.handleSet,
        hdevice.unmounted, hdevice.index, hdevice.samples,
        hdevice.segmented, hdevice.counted⟩
  | shutdown =>
      refine ⟨fresh, windows, ?_, hdevice.handleSet, hdevice.unmounted,
        hdevice.index, hdevice.samples, hdevice.segmented, hdevice.counted⟩
      unfold InferenceDevice.step InferenceService.shutdown
      dsimp only
      split <;> exact hphase

/-- The task has ended, no one has the lock, and no window was skipped. -/
structure Unread (before device : InferenceDevice cfg) : Prop where
  ended : device.service.phase = .ended
  mutexCreated : device.mutexCreated = true
  loopReading : device.loopReading = false
  skipped : device.skipped = before.skipped

theorem Unread.mutexFree (hdevice : Unread before device) :
    device.mutexFree = true := by
  simp [InferenceDevice.mutexFree, hdevice.mutexCreated, hdevice.ended,
    hdevice.loopReading]

theorem Unread.step (hdevice : Unread before device) {event : InferenceEvent}
    (hevent : event ≠ .loopLock) : Unread before (device.step event) := by
  have hphase := hdevice.ended
  have hkept {after : InferenceDevice cfg}
      (hservice : after.service = device.service)
      (hmutex : after.mutexCreated = device.mutexCreated)
      (hloop : after.loopReading = device.loopReading)
      (hskipped : after.skipped = device.skipped) : Unread before after :=
    ⟨hservice ▸ hphase, hmutex.trans hdevice.mutexCreated,
      hloop.trans hdevice.loopReading, hskipped.trans hdevice.skipped⟩
  cases event with
  | service event =>
      cases event with
      | logger event =>
          cases event with
          | appendSample sample env =>
              rw [InferenceDevice.step, InferenceDevice.appendSample,
                hdevice.mutexFree, Bool.and_true]
              unfold notifyGive
              split_ifs <;> exact hkept rfl rfl rfl rfl
          | startSession label => exact hkept rfl rfl rfl rfl
          | stopSession => exact hkept rfl rfl rfl rfl
          | setRuntimeFlags flags => exact hkept rfl rfl rfl rfl
          | write outcome => exact hkept rfl rfl rfl rfl
      | deleteAll rootOpens failing => exact hkept rfl rfl rfl rfl
  | unmountSpiffs => exact hkept rfl rfl rfl rfl
  | taskStart => simpa [InferenceDevice.step, hphase] using hdevice
  | take => simpa [InferenceDevice.step, hphase] using hdevice
  | lock inTime => simpa [InferenceDevice.step, hphase] using hdevice
  | copyWindow => simpa [InferenceDevice.step, hphase] using hdevice
  | loopLock => exact absurd rfl hevent
  | loopUnlock => exact ⟨hphase, hdevice.mutexCreated, rfl, hdevice.skipped⟩
  | publishResult startUs endUs uptime =>
      simpa [InferenceDevice.step, hphase] using hdevice
  | getLatestResult =>
      exact ⟨hphase, hdevice.mutexCreated, hdevice.loopReading,
        hdevice.skipped⟩
  | shutdown =>
      refine ⟨?_, hdevice.mutexCreated, hdevice.loopReading,
        hdevice.skipped⟩
      unfold InferenceDevice.step InferenceService.shutdown
      dsimp only
      split <;> exact hphase

/-- After a shutdown that the task has met and that has unmounted the file
system, whatever happens without a reset: the sensor task notifies the task that
is no more exactly once with each window that its samples complete, the first
after as many samples as the buffer lacks, but for the windows that it skips;
and it skips none where there is a lock and the main loop does not take it. -/
theorem stale_notifies (hsize : 1 ≤ cfg.windowSize ∧ cfg.windowSize ≤ 255)
    (hstride : 1 ≤ cfg.windowStride ∧ cfg.windowStride ≤ cfg.windowSize)
    (mounted : Bool) (nextSessionId : UInt16) (bootCount : UInt8)
    (files : Spiffs) (mutexCreated taskCreated : Bool)
    (past events : List InferenceEvent)
    (hended : (run step (boot
      (.boot cfg mounted nextSessionId bootCount files) mutexCreated
      taskCreated) past).service.phase = .ended)
    (hunmounted : (run step (boot
      (.boot cfg mounted nextSessionId bootCount files) mutexCreated
      taskCreated) past).logger.spiffsMounted = false) :
    let before := run step (boot
      (.boot cfg mounted nextSessionId bootCount files) mutexCreated
      taskCreated) past
    let after := run step before events
    after.staleNotifies + after.skipped =
        before.staleNotifies + before.skipped +
          count cfg.windowSize cfg.windowStride (before.logger.sampleIndex +
            (after.samples.length - before.samples.length)) ∧
      (before.mutexCreated = true → before.loopReading = false →
        (∀ event ∈ events, event ≠ .loopLock) →
          after.skipped = before.skipped) := by
  intro before after
  have hcoupled : before.Coupled :=
    coupled_run hsize hstride mounted nextSessionId bootCount files
      mutexCreated taskCreated past
  have hindex : before.logger.sampleIndex < cfg.windowSize :=
    hcoupled.exact.index
  have hhandled : before.Handled := by
    apply invariant_run' (fun _ event hdevice => hdevice.step event)
    cases taskCreated
    · exact .inl rfl
    · exact .inr (.inl rfl)
  have hset : before.handleSet = true := by
    simpa [Handled, before, hended] using hhandled
  have hdeserted : ∃ fresh windows, Deserted before after fresh windows := by
    have hstep : ∀ (device : InferenceDevice cfg) (event : InferenceEvent),
        (∃ fresh windows, Deserted before device fresh windows) →
          ∃ fresh windows, Deserted before (device.step event) fresh
            windows := by
      rintro device event ⟨fresh, windows, hdevice⟩
      exact hdevice.step hsize.2 hstride.1 hstride.2 event
    exact invariant_run' hstep events
      ⟨[], [], deserted_start hended hset hunmounted hindex⟩
  obtain ⟨fresh, windows, hafter⟩ := hdeserted
  have hlength := hafter.segmented.length_windows
  rw [List.length_append, DataLoggerService.length_buffered hindex] at hlength
  constructor
  · rw [hafter.counted, hafter.samples, List.length_append,
      Nat.add_sub_cancel_left]
    exact congrArg _ hlength
  · intro hmutex hfree hevents
    have hunread : Unread before after :=
      invariant_run (fun _ _ hdevice hevent => hdevice.step hevent)
        ⟨hended, hmutex, hfree, rfl⟩ (guarded_of_forall_mem hevents before)
    exact hunread.skipped

/-- The task meets the shutdown at a timeout. -/
def shutdownEvents : List InferenceEvent :=
  [.taskStart, .shutdown, .take, .unmountSpiffs]

def appended (proximities : List ℕ) : List InferenceEvent :=
  proximities.map fun n => .service (.logger (.appendSample
    ⟨UInt16.ofNat n, 50⟩ ⟨0, false, ⟨0, 0, none, none⟩, ⟨0, 0, none, none⟩⟩))

/-- Seven samples complete three windows of three; the main loop copies the
published window when the last one is complete. -/
def sevenSamples : List InferenceEvent :=
  appended [1, 2, 3, 4, 5, 6] ++ [.loopLock] ++ appended [7] ++ [.loopUnlock]

theorem stale_notifies_seven :
    let before : InferenceDevice shortWindows := run step
      (boot (.boot shortWindows true 1 0 []) true true) shutdownEvents
    let after := run step before sevenSamples
    (after.staleNotifies, after.skipped) = (2, 1) ∧
      after.staleNotifies + after.skipped =
        before.staleNotifies + before.skipped +
          count 3 2 (before.logger.sampleIndex +
            (after.samples.length - before.samples.length)) ∧
      (run step before (appended [1, 2, 3, 4, 5])).skipped =
        before.skipped := by
  intro before after
  have hsize : 1 ≤ shortWindows.windowSize ∧ shortWindows.windowSize ≤ 255 :=
    by decide
  have hstride : 1 ≤ shortWindows.windowStride ∧
      shortWindows.windowStride ≤ shortWindows.windowSize := by decide
  have hended : before.service.phase = .ended := by decide +kernel
  have hunmounted : before.logger.spiffsMounted = false := by decide +kernel
  refine ⟨by decide +kernel, ?_, ?_⟩
  · exact (stale_notifies hsize hstride true 1 0 [] true true shutdownEvents
      sevenSamples hended hunmounted).1
  · exact (stale_notifies hsize hstride true 1 0 [] true true shutdownEvents
      (appended [1, 2, 3, 4, 5]) hended hunmounted).2 (by decide +kernel)
        (by decide +kernel) (by decide)

end InferenceDevice

end SensorFirmware
