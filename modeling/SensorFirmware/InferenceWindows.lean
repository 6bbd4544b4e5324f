import SensorFirmware.InferenceService

/-!
# What the inference task analyses

The device refines the register with notifications, so the task sees the
published windows in their order, none more than twice, and is up to date when
it waits.  After a shutdown each complete window notifies a task that has
ended.
-/

namespace SensorFirmware

open GuardedRun NotifiedRegister StrideWindows

variable {cfg : MLConfig}

/-! ## The published window -/

theorem SampleWindow.isValid_of_finalised {window : SampleWindow cfg.windowSize}
    (hwindow : window.Finalised) : window.isValid cfg = true := by
  rw [SampleWindow.isValid, hwindow.magic, hwindow.version,
    hwindow.sampleCount, hwindow.crc]
  simpa using Nat.mod_le cfg.windowSize 256

namespace DataLoggerService

theorem inferenceWindow_appendSample (logger : DataLoggerService cfg)
    (sample : SampleRecord) (env : SampleEnv) :
    (logger.appendSample sample env).inferenceWindow =
      if cfg.windowSize ≤ u8 (logger.sampleIndex + 1) then
        (logger.filled sample env).inferenceWindow
      else logger.inferenceWindow := by
  by_cases hindex : cfg.windowSize ≤ u8 (logger.sampleIndex + 1)
  · rw [appendSample_of_le hindex, slideWindow_eq, queueWindow_eq,
      if_pos hindex]
  · rw [appendSample_of_lt (not_le.mp hindex), if_neg hindex]
    rfl

theorem inferenceWindow_filled (logger : DataLoggerService cfg)
    (sample : SampleRecord) {env : SampleEnv}
    (hlock : env.inferenceLock = true) :
    let window := (logger.filled sample env).inferenceWindow
    window.samples = (logger.storeSample sample env).sampleBuf ∧
      window.Finalised ∧
      window.header.label = GestureLabel.unlabeled.toByte := by
  intro window
  unfold window filled publishWindow
  rw [if_pos hlock]
  refine ⟨rfl, ?_, rfl⟩
  exact ⟨rfl, rfl, rfl, rfl, (SampleWindow.calculateCRC_withCRC _).symm⟩

theorem inferenceWindow_filled_of_locked (logger : DataLoggerService cfg)
    (sample : SampleRecord) {env : SampleEnv}
    (hlock : env.inferenceLock = false) :
    (logger.filled sample env).inferenceWindow = logger.inferenceWindow := by
  unfold filled publishWindow
  rw [hlock]
  rfl

theorem toList_storeSample {logger : DataLoggerService cfg}
    (hindex : logger.sampleIndex < cfg.windowSize)
    (hsize : cfg.windowSize ≤ 255) (sample : SampleRecord) (env : SampleEnv)
    (hfull : cfg.windowSize ≤ u8 (logger.sampleIndex + 1)) :
    (logger.storeSample sample env).sampleBuf.toList =
      logger.buffered ++ [sample] := by
  rw [u8_succ_sampleIndex hsize hindex] at hfull
  rw [← take_storeSample hindex sample env, List.take_of_length_le]
  rw [Vector.length_toList]
  exact hfull

/-- Without a file system no session starts. -/
theorem startSession_of_unmounted {logger : DataLoggerService cfg}
    (hunmounted : logger.spiffsMounted = false) (label : GestureLabel) :
    logger.starts label = false ∧
      (logger.startSession label).1 =
        { logger with state := (logger.startSession label).1.state } := by
  rcases logger.startSession_cases label with ⟨hstarts, -, -⟩ | hstays
  · unfold starts startSession at hstarts
    by_cases hbusy : logger.state = .recording ∨ logger.state = .armed
    · rw [if_pos hbusy] at hstarts
      rcases hbusy with hstate | hstate <;> simp [hstate] at hstarts
    · rw [if_neg hbusy, hunmounted] at hstarts
      simp at hstarts
  · exact hstays

end DataLoggerService

namespace SessionTrace

/-- What no event but a sample does. -/
theorem step_other (trace : SessionTrace cfg) {event : ServiceEvent}
    (hother : ∀ sample env, event ≠ .logger (.appendSample sample env)) :
    (trace.step event).logger.inferenceWindow = trace.logger.inferenceWindow ∧
      ((trace.step event).stream = trace.stream ∨
        (trace.step event).stream = []) := by
  cases event with
  | logger event =>
      cases event with
      | appendSample sample env => exact absurd rfl (hother sample env)
      | startSession label =>
          have hwindow : (trace.logger.startSession label).1.inferenceWindow =
              trace.logger.inferenceWindow := by
            unfold DataLoggerService.startSession
            split_ifs <;> rfl
          unfold step
          dsimp only
          split
          · exact ⟨hwindow, .inr rfl⟩
          · exact ⟨hwindow, .inl rfl⟩
      | stopSession =>
          refine ⟨?_, .inl rfl⟩
          unfold step DataLoggerService.step
          dsimp only
          rw [DataLoggerService.stopSession_eq]
      | setRuntimeFlags flags => exact ⟨rfl, .inl rfl⟩
      | write outcome =>
          refine ⟨?_, .inl rfl⟩
          unfold step DataLoggerService.step DataLoggerService.loggerTask
          dsimp only
          split
          · rfl
          · rw [DataLoggerService.processWrite_eq]
  | deleteAll rootOpens failing =>
      obtain ⟨state, -, hdeleted⟩ :=
        trace.logger.deleteAll_eq rootOpens failing
      refine ⟨?_, .inl rfl⟩
      unfold step
      dsimp only
      rw [hdeleted]
      split <;> rfl

/-- After the file system is gone the buffer is the sensor task's alone. -/
theorem step_unmounted {trace : SessionTrace cfg} {event : ServiceEvent}
    (hother : ∀ sample env, event ≠ .logger (.appendSample sample env))
    (hunmounted : trace.logger.spiffsMounted = false) :
    (trace.step event).logger.spiffsMounted = false ∧
      (trace.step event).logger.sampleIndex = trace.logger.sampleIndex ∧
      (trace.step event).logger.buffered = trace.logger.buffered := by
  unfold DataLoggerService.buffered
  cases event with
  | logger event =>
      cases event with
      | appendSample sample env => exact absurd rfl (hother sample env)
      | startSession label =>
          obtain ⟨hstarts, hsame⟩ :=
            DataLoggerService.startSession_of_unmounted hunmounted label
          unfold step
          dsimp only
          rw [if_neg (by simp [hstarts]), hsame]
          exact ⟨hunmounted, rfl, rfl⟩
      | stopSession =>
          unfold step DataLoggerService.step
          dsimp only
          rw [DataLoggerService.stopSession_eq]
          exact ⟨hunmounted, rfl, rfl⟩
      | setRuntimeFlags flags => exact ⟨hunmounted, rfl, rfl⟩
      | write outcome =>
          unfold step DataLoggerService.step DataLoggerService.loggerTask
          dsimp only
          split
          · exact ⟨hunmounted, rfl, rfl⟩
          · rw [DataLoggerService.processWrite_eq]
            exact ⟨hunmounted, rfl, rfl⟩
  | deleteAll rootOpens failing =>
      obtain ⟨state, -, hdeleted⟩ :=
        trace.logger.deleteAll_eq rootOpens failing
      unfold step
      dsimp only
      rw [hdeleted]
      split
      · exact ⟨hunmounted, rfl, rfl⟩
      · exact ⟨hunmounted, rfl, rfl⟩

end SessionTrace

/-! ## The register -/

def InferencePhase.register {size : ℕ} : InferencePhase size → Phase
  | .absent => .busy
  | .created => .busy
  | .waiting => .waiting
  | .locking => .locking
  | .copying => .reading
  | .inferring _ => .busy
  | .ended => .gone

namespace InferencePhase

variable {size : ℕ}

@[simp]
theorem register_waiting : (waiting : InferencePhase size).register = .waiting :=
  rfl

@[simp]
theorem register_locking : (locking : InferencePhase size).register = .locking :=
  rfl

@[simp]
theorem register_copying : (copying : InferencePhase size).register = .reading :=
  rfl

@[simp]
theorem register_inferring (window : SampleWindow size) :
    (inferring window).register = .busy := rfl

@[simp]
theorem register_ended : (ended : InferencePhase size).register = .gone := rfl

theorem register_eq_reading {phase : InferencePhase size} :
    phase.register = .reading ↔ phase = .copying := by
  cases phase <;> simp [register]

end InferencePhase

namespace InferenceDevice

def register (device : InferenceDevice cfg) :
    Register (SampleWindow cfg.windowSize) where
  written := device.published
  notified := device.notifications
  phase := device.service.phase.register
  read := device.analysed
  missed := device.missed

/-- The condition of the task's loop. -/
def loopEvent (device : InferenceDevice cfg) :
    Event (SampleWindow cfg.windowSize) :=
  if device.service.taskRunning then .resume else .leave

/-- What the step does with the register. -/
def registerEvents (device : InferenceDevice cfg) (event : InferenceEvent) :
    List (Event (SampleWindow cfg.windowSize)) :=
  match event with
  | .service (.logger (.appendSample sample env)) =>
      if device.fills && device.mutexFree then
        [.write (device.appendSample sample env).logger.inferenceWindow
          (device.handleSet && !decide (device.service.phase = .ended))]
      else []
  | .service _ | .unmountSpiffs | .getLatestResult | .shutdown => []
  | .taskStart =>
      if device.service.phase = .created then [device.loopEvent] else []
  | .take =>
      if device.service.phase = .waiting then
        if 0 < device.notifications then [.wake] else [device.loopEvent]
      else []
  | .lock inTime =>
      if device.service.phase = .locking then
        if device.mutexCreated && inTime then
          if device.loopReading then [] else [.lock]
        else [.giveUp, device.loopEvent]
      else []
  | .copyWindow => if device.service.phase = .copying then [.read] else []
  | .loopLock | .loopUnlock => []
  | .publishResult _ _ _ =>
      match device.service.phase with
      | .inferring _ => [device.loopEvent]
      | _ => []

variable {device : InferenceDevice cfg}

theorem register_loop (hbusy : device.service.phase.register = .busy ∨
      device.service.phase.register = .waiting) :
    ({ device with service := device.service.loop } :
        InferenceDevice cfg).register =
      device.register.step device.loopEvent := by
  unfold register InferenceService.loop loopEvent Register.step
  cases hrunning : device.service.taskRunning with
  | false => simp [hbusy]
  | true => rcases hbusy with hphase | hphase <;> simp [hphase]

theorem register_notifyGive (window : SampleWindow cfg.windowSize)
    (hphase : device.service.phase ≠ .copying) :
    ({ device with
        published := device.published ++ [window] } :
        InferenceDevice cfg).notifyGive.register =
      device.register.step (.write window
        (device.handleSet && !decide (device.service.phase = .ended))) := by
  have hreading : device.register.phase ≠ .reading :=
    InferencePhase.register_eq_reading.not.mpr hphase
  rw [Register.step, if_neg hreading]
  unfold notifyGive
  cases hset : device.handleSet with
  | false => rfl
  | true =>
      by_cases hended : device.service.phase = .ended <;>
        simp [hended, register]

theorem register_appendSample (sample : SampleRecord) (env : SampleEnv) :
    (device.appendSample sample env).register =
      run Register.step device.register
        (device.registerEvents
          (.service (.logger (.appendSample sample env)))) := by
  unfold registerEvents
  dsimp only
  split
  · next hpublishes =>
    have hphase : device.service.phase ≠ .copying := by
      simp only [mutexFree, Bool.and_eq_true, Bool.not_eq_true',
        decide_eq_false_iff_not] at hpublishes
      exact hpublishes.2.1.2
    rw [run_cons, run_nil, ← register_notifyGive _ hphase]
    unfold appendSample notifyGive
    simp only [hpublishes, if_true]
    split
    · rfl
    · split <;> rfl
  · next hsilent =>
    unfold appendSample
    simp only [hsilent]
    cases device.fills <;> rfl

/-- Each step does to the register what its events say, where what the task is
about to copy was published last. -/
theorem register_step (event : InferenceEvent)
    (hlast : device.service.phase = .copying →
      device.published.getLast? = some device.logger.inferenceWindow) :
    (device.step event).register =
      run Register.step device.register (device.registerEvents event) := by
  cases event with
  | service event =>
      cases event with
      | logger event =>
          cases event with
          | appendSample sample env => exact register_appendSample sample env
          | startSession label => rfl
          | stopSession => rfl
          | setRuntimeFlags flags => rfl
          | write outcome => rfl
      | deleteAll rootOpens failing => rfl
  | unmountSpiffs => rfl
  | taskStart =>
      unfold step registerEvents
      dsimp only
      split
      · next hphase =>
        rw [run_cons, run_nil, ← register_loop]
        · rfl
        · rw [hphase]
          exact .inl rfl
      · rfl
  | take =>
      unfold step registerEvents take
      dsimp only
      split
      · next hphase =>
        split
        · next hnotified =>
          simp [register, Register.step, hphase, hnotified]
        · rw [run_cons, run_nil, ← register_loop]
          rw [hphase]
          exact .inr rfl
      · rfl
  | lock inTime =>
      unfold step registerEvents lock
      dsimp only
      split
      · next hphase =>
        split
        · cases device.loopReading with
          | true => rfl
          | false => simp [register, Register.step, hphase]
        · have hgiven : device.register.step .giveUp =
              { device.register with phase := .busy, missed := true } := by
            simp [register, Register.step, hphase]
          rw [run_cons, run_cons, run_nil, hgiven]
          unfold register InferenceService.loop loopEvent
          cases device.service.taskRunning <;> rfl
      · rfl
  | copyWindow =>
      unfold step registerEvents copyWindow
      dsimp only
      split
      · next hphase =>
        simp [register, Register.step, hphase, hlast hphase]
      · rfl
  | loopLock => unfold step; dsimp only; split <;> rfl
  | loopUnlock => rfl
  | publishResult startUs endUs uptime =>
      unfold step registerEvents
      dsimp only
      cases hphase : device.service.phase with
      | inferring window =>
          dsimp only
          rw [run_cons, run_nil, ← register_loop]
          · rfl
          · rw [hphase]
            exact .inl rfl
      | absent | created | waiting | locking | copying | ended => rfl
  | getLatestResult => rfl
  | shutdown =>
      unfold step InferenceService.shutdown
      dsimp only
      split <;> rfl

/-! ## The windows -/

/-- A window with a valid checksum and no label, of consecutive samples. -/
structure Genuine (samples : List SampleRecord)
    (window : SampleWindow cfg.windowSize) : Prop where
  valid : window.isValid cfg = true
  unlabeled : window.header.label = GestureLabel.unlabeled.toByte
  consecutive : window.samples.toList <:+: samples

structure Coupled (device : InferenceDevice cfg) : Prop where
  sound : device.register.Sound
  last : ∀ window, device.published.getLast? = some window →
    device.logger.inferenceWindow = window
  exact : device.trace.Exact
  stream : device.trace.stream <:+ device.samples
  genuine : ∀ window ∈ device.published, Genuine device.samples window

theorem coupled_boot (hsize : 0 < cfg.windowSize) (mounted : Bool)
    (nextSessionId : UInt16) (bootCount : UInt8) (files : Spiffs)
    (mutexCreated taskCreated : Bool) :
    (boot (.boot cfg mounted nextSessionId bootCount files) mutexCreated
      taskCreated).Coupled where
  sound := by
    cases taskCreated <;> exact Register.sound_start
  last := fun window hwindow => by cases hwindow
  exact := SessionTrace.exact_start hsize rfl rfl
  stream := List.suffix_rfl
  genuine := fun window hwindow => by cases hwindow

/-- The task never copies a window that was not published. -/
theorem Coupled.copying (hdevice : device.Coupled)
    (hphase : device.service.phase = .copying) :
    device.published.getLast? = some device.logger.inferenceWindow := by
  cases hlast : device.published.getLast? with
  | none =>
      have hnone := hdevice.sound.nothing (List.getLast?_eq_none_iff.mp hlast)
      simp [Register.turns, register, hphase] at hnone
  | some window => rw [hdevice.last window hlast]

theorem Coupled.sound_step (hdevice : device.Coupled)
    (event : InferenceEvent) : (device.step event).register.Sound := by
  rw [register_step event hdevice.copying]
  exact hdevice.sound.run _

@[simp]
theorem notifyGive_trace (device : InferenceDevice cfg) :
    device.notifyGive.trace = device.trace := by
  unfold notifyGive
  split_ifs <;> rfl

@[simp]
theorem notifyGive_samples (device : InferenceDevice cfg) :
    device.notifyGive.samples = device.samples := by
  unfold notifyGive
  split_ifs <;> rfl

@[simp]
theorem notifyGive_published (device : InferenceDevice cfg) :
    device.notifyGive.published = device.published := by
  unfold notifyGive
  split_ifs <;> rfl

theorem appendSample_trace (sample : SampleRecord) (env : SampleEnv) :
    (device.appendSample sample env).trace =
      device.trace.step (.logger (.appendSample sample
        { env with inferenceLock := device.mutexFree })) := by
  unfold appendSample
  dsimp only
  split
  · rw [notifyGive_trace]
  · split <;> rfl

theorem appendSample_samples (sample : SampleRecord) (env : SampleEnv) :
    (device.appendSample sample env).samples = device.samples ++ [sample] := by
  unfold appendSample
  dsimp only
  split
  · rw [notifyGive_samples]
  · split <;> rfl

theorem appendSample_published (sample : SampleRecord) (env : SampleEnv) :
    (device.appendSample sample env).published =
      device.published ++
        if device.fills && device.mutexFree then
          [(device.appendSample sample env).logger.inferenceWindow]
        else [] := by
  unfold logger
  rw [appendSample_trace]
  unfold appendSample
  dsimp only
  split
  · rw [notifyGive_published]
  · rw [List.append_nil]
    split <;> rfl

/-- A window is published as the last samples that were read. -/
theorem Coupled.genuine_appendSample (hdevice : device.Coupled)
    (hsize : cfg.windowSize ≤ 255) (sample : SampleRecord) (env : SampleEnv)
    (hfills : device.fills = true) (hfree : device.mutexFree = true) :
    Genuine (device.samples ++ [sample])
      (device.appendSample sample env).logger.inferenceWindow := by
  have hfull : cfg.windowSize ≤ u8 (device.trace.logger.sampleIndex + 1) :=
    of_decide_eq_true hfills
  have hwindow : (device.appendSample sample env).logger.inferenceWindow =
      (device.trace.logger.filled sample
        { env with inferenceLock := device.mutexFree }).inferenceWindow := by
    unfold logger
    rw [appendSample_trace, SessionTrace.step,
      DataLoggerService.inferenceWindow_appendSample, if_pos hfull]
  have hlock : ({ env with inferenceLock := device.mutexFree } :
      SampleEnv).inferenceLock = true := hfree
  obtain ⟨hsamples, hfinalised, hlabel⟩ :=
    device.trace.logger.inferenceWindow_filled sample hlock
  rw [hwindow]
  refine ⟨SampleWindow.isValid_of_finalised hfinalised, hlabel, ?_⟩
  rw [hsamples, DataLoggerService.toList_storeSample hdevice.exact.index hsize
    _ _ hfull]
  have hkept : device.trace.logger.buffered <:+ device.trace.stream := by
    have hsegmenter := hdevice.exact.segmented.kept
    change device.trace.logger.buffered = _ at hsegmenter
    rw [hsegmenter]
    exact List.drop_suffix _ _
  obtain ⟨before, hbefore⟩ := hkept.trans hdevice.stream
  rw [← hbefore, List.append_assoc]
  exact (List.suffix_append before _).isInfix

theorem Genuine.append {samples : List SampleRecord}
    {window : SampleWindow cfg.windowSize} (hwindow : Genuine samples window)
    (sample : SampleRecord) : Genuine (samples ++ [sample]) window where
  valid := hwindow.valid
  unlabeled := hwindow.unlabeled
  consecutive :=
    hwindow.consecutive.trans (List.prefix_append samples [sample]).isInfix

theorem Coupled.appendSample (hdevice : device.Coupled)
    (hsize : cfg.windowSize ≤ 255) (hpos : 0 < cfg.windowStride)
    (hstride : cfg.windowStride ≤ cfg.windowSize) (sample : SampleRecord)
    (env : SampleEnv) : (device.appendSample sample env).Coupled where
  sound := hdevice.sound_step (.service (.logger (.appendSample sample env)))
  last := by
    intro window hwindow
    rw [appendSample_published] at hwindow
    by_cases hpublishes : (device.fills && device.mutexFree) = true
    · rw [if_pos hpublishes, List.getLast?_concat] at hwindow
      exact Option.some.inj hwindow
    · rw [if_neg hpublishes, List.append_nil] at hwindow
      rw [← hdevice.last window hwindow]
      unfold logger
      rw [appendSample_trace, SessionTrace.step,
        DataLoggerService.inferenceWindow_appendSample]
      split
      · next hfull =>
        apply DataLoggerService.inferenceWindow_filled_of_locked
        have hfills : device.fills = true := decide_eq_true hfull
        simpa [hfills] using hpublishes
      · rfl
  exact := by
    rw [appendSample_trace]
    exact hdevice.exact.step hsize hpos hstride _
  stream := by
    rw [appendSample_trace, appendSample_samples]
    obtain ⟨before, hbefore⟩ := hdevice.stream
    exact ⟨before, by rw [← hbefore, List.append_assoc]; rfl⟩
  genuine := by
    intro window hwindow
    rw [appendSample_samples]
    rw [appendSample_published, List.mem_append] at hwindow
    rcases hwindow with hold | hnew
    · exact (hdevice.genuine window hold).append sample
    · split at hnew
      · next hpublishes =>
        rw [Bool.and_eq_true] at hpublishes
        rw [List.mem_singleton.mp hnew]
        exact hdevice.genuine_appendSample hsize sample env hpublishes.1
          hpublishes.2
      · cases hnew

theorem Coupled.service (hdevice : device.Coupled)
    (hsize : cfg.windowSize ≤ 255) (hpos : 0 < cfg.windowStride)
    (hstride : cfg.windowStride ≤ cfg.windowSize) {event : ServiceEvent}
    (hother : ∀ sample env, event ≠ .logger (.appendSample sample env)) :
    ({ device with trace := device.trace.step event } :
      InferenceDevice cfg).Coupled where
  sound := hdevice.sound
  last := by
    intro window hwindow
    exact (device.trace.step_other hother).1.trans
      (hdevice.last window hwindow)
  exact := hdevice.exact.step hsize hpos hstride event
  stream := by
    rcases (device.trace.step_other hother).2 with hsame | hempty
    · dsimp only
      rw [hsame]
      exact hdevice.stream
    · dsimp only
      rw [hempty]
      exact List.nil_suffix
  genuine := hdevice.genuine

/-- The steps of the task, and of who waits for it. -/
theorem Coupled.task (hdevice : device.Coupled) {event : InferenceEvent}
    (htrace : (device.step event).trace = device.trace)
    (hsamples : (device.step event).samples = device.samples)
    (hpublished : (device.step event).published = device.published) :
    (device.step event).Coupled where
  sound := hdevice.sound_step event
  last := by
    unfold logger
    rw [htrace, hpublished]
    exact hdevice.last
  exact := htrace ▸ hdevice.exact
  stream := by
    rw [htrace, hsamples]
    exact hdevice.stream
  genuine := by
    rw [hsamples, hpublished]
    exact hdevice.genuine

theorem Coupled.step (hdevice : device.Coupled)
    (hsize : cfg.windowSize ≤ 255) (hpos : 0 < cfg.windowStride)
    (hstride : cfg.windowStride ≤ cfg.windowSize) (event : InferenceEvent) :
    (device.step event).Coupled := by
  cases event with
  | service event =>
      cases event with
      | logger event =>
          cases event with
          | appendSample sample env =>
              exact hdevice.appendSample hsize hpos hstride sample env
          | startSession label =>
              exact hdevice.service hsize hpos hstride (by simp)
          | stopSession => exact hdevice.service hsize hpos hstride (by simp)
          | setRuntimeFlags flags =>
              exact hdevice.service hsize hpos hstride (by simp)
          | write outcome =>
              exact hdevice.service hsize hpos hstride (by simp)
      | deleteAll rootOpens failing =>
          exact hdevice.service hsize hpos hstride (by simp)
  | unmountSpiffs =>
      exact ⟨hdevice.sound, hdevice.last,
        hdevice.exact.kept rfl rfl rfl rfl, hdevice.stream, hdevice.genuine⟩
  | taskStart =>
      apply hdevice.task <;> unfold InferenceDevice.step <;> dsimp only <;>
        split <;> rfl
  | take =>
      apply hdevice.task <;> unfold InferenceDevice.step take <;>
        dsimp only <;> split_ifs <;> rfl
  | lock inTime =>
      apply hdevice.task <;> unfold InferenceDevice.step lock <;>
        dsimp only <;> split_ifs <;> rfl
  | copyWindow =>
      apply hdevice.task <;> unfold InferenceDevice.step copyWindow <;>
        dsimp only <;> split <;> rfl
  | loopLock =>
      apply hdevice.task <;> unfold InferenceDevice.step <;> dsimp only <;>
        split <;> rfl
  | loopUnlock => exact hdevice.task rfl rfl rfl
  | publishResult startUs endUs uptime =>
      apply hdevice.task <;> unfold InferenceDevice.step <;> dsimp only <;>
        split <;> rfl
  | getLatestResult => exact hdevice.task rfl rfl rfl
  | shutdown => exact hdevice.task rfl rfl rfl

/-! ## The results -/

/-- The results that the task still owes for what it has copied. -/
def owed (device : InferenceDevice cfg) : ℕ :=
  match device.service.phase with
  | .inferring _ => 1
  | _ => 0

/-- Each copy gives one result, and the queue gives away each result at most
once. -/
structure Answered (device : InferenceDevice cfg) : Prop where
  count : device.results.length + device.owed = device.analysed.length
  inferenceCount :
    device.service.inferenceCount = UInt32.ofNat device.results.length
  received : (device.received ++ device.service.resultQueue.toList).Sublist
    device.results

theorem owed_loop {service : InferenceService cfg}
    (hloop : device.service = service.loop) : device.owed = 0 := by
  unfold owed
  rw [hloop, InferenceService.loop]
  cases service.taskRunning <;> rfl

theorem Answered.kept (hdevice : device.Answered)
    {after : InferenceDevice cfg} (hresults : after.results = device.results)
    (hanalysed : after.analysed = device.analysed)
    (howed : after.owed = device.owed)
    (hcount : after.service.inferenceCount = device.service.inferenceCount)
    (hqueue : after.service.resultQueue = device.service.resultQueue)
    (hreceived : after.received = device.received) : after.Answered where
  count := by
    rw [hresults, howed, hanalysed]
    exact hdevice.count
  inferenceCount := by
    rw [hcount, hresults]
    exact hdevice.inferenceCount
  received := by
    rw [hreceived, hqueue, hresults]
    exact hdevice.received

theorem Answered.publishResult (hdevice : device.Answered)
    (howed : device.owed = 1) (startUs endUs uptime : UInt32) :
    (device.publishResult startUs endUs uptime).Answered where
  count := by
    have hcount := hdevice.count
    have hpaid : (device.publishResult startUs endUs uptime).owed = 0 :=
      owed_loop rfl
    rw [hpaid]
    change (device.results ++ [_]).length + 0 = device.analysed.length
    rw [List.length_append, List.length_singleton]
    omega
  inferenceCount := by
    have hcount := hdevice.inferenceCount
    unfold InferenceDevice.publishResult
    rw [List.length_append, List.length_singleton, UInt32.ofNat_add,
      ← hcount]
    rfl
  received := by
    have hreceived := (List.sublist_append_left _ _).trans hdevice.received
    exact hreceived.append (List.Sublist.refl _)

theorem Answered.step (hdevice : device.Answered) (event : InferenceEvent) :
    (device.step event).Answered := by
  cases event with
  | service event =>
      cases event with
      | logger event =>
          cases event with
          | appendSample sample env =>
              apply hdevice.kept <;>
                unfold InferenceDevice.step InferenceDevice.appendSample
                  notifyGive <;>
                dsimp only <;> split_ifs <;> rfl
          | startSession label => exact hdevice.kept rfl rfl rfl rfl rfl rfl
          | stopSession => exact hdevice.kept rfl rfl rfl rfl rfl rfl
          | setRuntimeFlags flags =>
              exact hdevice.kept rfl rfl rfl rfl rfl rfl
          | write outcome => exact hdevice.kept rfl rfl rfl rfl rfl rfl
      | deleteAll rootOpens failing =>
          exact hdevice.kept rfl rfl rfl rfl rfl rfl
  | unmountSpiffs => exact hdevice.kept rfl rfl rfl rfl rfl rfl
  | taskStart =>
      rw [InferenceDevice.step]
      split
      · next hphase =>
        have howed : device.owed = 0 := by rw [owed, hphase]
        exact hdevice.kept rfl rfl ((owed_loop rfl).trans howed.symm) rfl rfl
          rfl
      · exact hdevice
  | take =>
      rw [InferenceDevice.step]
      split
      · next hphase =>
        have howed : device.owed = 0 := by rw [owed, hphase]
        unfold take
        split
        · exact hdevice.kept rfl rfl howed.symm rfl rfl rfl
        · exact hdevice.kept rfl rfl ((owed_loop rfl).trans howed.symm) rfl
            rfl rfl
      · exact hdevice
  | lock inTime =>
      rw [InferenceDevice.step]
      split
      · next hphase =>
        have howed : device.owed = 0 := by rw [owed, hphase]
        unfold lock
        split
        · split
          · exact hdevice
          · exact hdevice.kept rfl rfl howed.symm rfl rfl rfl
        · exact hdevice.kept rfl rfl ((owed_loop rfl).trans howed.symm) rfl
            rfl rfl
      · exact hdevice
  | copyWindow =>
      rw [InferenceDevice.step]
      split
      · next hphase =>
        have howed : device.owed = 0 := by rw [owed, hphase]
        have hcount := hdevice.count
        refine ⟨?_, hdevice.inferenceCount, hdevice.received⟩
        change device.results.length + 1 = (device.analysed ++ [_]).length
        rw [List.length_append, List.length_singleton]
        omega
      · exact hdevice
  | loopLock =>
      rw [InferenceDevice.step]
      split
      · exact hdevice.kept rfl rfl rfl rfl rfl rfl
      · exact hdevice
  | loopUnlock => exact hdevice.kept rfl rfl rfl rfl rfl rfl
  | publishResult startUs endUs uptime =>
      rw [InferenceDevice.step]
      split
      · next window hphase =>
        have howed : device.owed = 1 := by rw [owed, hphase]
        exact hdevice.publishResult howed startUs endUs uptime
      · exact hdevice
  | getLatestResult =>
      refine ⟨hdevice.count, hdevice.inferenceCount, ?_⟩
      change ((device.received ++ device.service.resultQueue.toList) ++
        []).Sublist device.results
      rw [List.append_nil]
      exact hdevice.received
  | shutdown =>
      unfold InferenceDevice.step InferenceService.shutdown
      dsimp only
      split
      · exact hdevice
      · exact hdevice.kept rfl rfl rfl rfl rfl rfl

/-! ## Runs -/

theorem coupled_run (hsize : 1 ≤ cfg.windowSize ∧ cfg.windowSize ≤ 255)
    (hstride : 1 ≤ cfg.windowStride ∧ cfg.windowStride ≤ cfg.windowSize)
    (mounted : Bool) (nextSessionId : UInt16) (bootCount : UInt8)
    (files : Spiffs) (mutexCreated taskCreated : Bool)
    (events : List InferenceEvent) :
    (run step (boot (.boot cfg mounted nextSessionId bootCount files)
      mutexCreated taskCreated) events).Coupled :=
  invariant_run'
    (fun _ event hdevice =>
      hdevice.step hsize.2 hstride.1 hstride.2 event)
    events
    (coupled_boot hsize.1 mounted nextSessionId bootCount files mutexCreated
      taskCreated)

theorem answered_boot (logger : DataLoggerService cfg)
    (mutexCreated taskCreated : Bool) :
    (boot logger mutexCreated taskCreated).Answered where
  count := by cases taskCreated <;> rfl
  inferenceCount := rfl
  received := List.Sublist.refl _

/-- Over any order of the steps of the tasks, with any sessions, reads of the
main loop and a shutdown at any time: the task analyses published windows in
their order, none more than twice, and each of them has a valid checksum and
consecutive samples; each copy gives one result, and each result is received at
most once, in order. -/
theorem analysed_in_order (hsize : 1 ≤ cfg.windowSize ∧ cfg.windowSize ≤ 255)
    (hstride : 1 ≤ cfg.windowStride ∧ cfg.windowStride ≤ cfg.windowSize)
    (mounted : Bool) (nextSessionId : UInt16) (bootCount : UInt8)
    (files : Spiffs) (mutexCreated taskCreated : Bool)
    (events : List InferenceEvent) :
    let device := run step (boot
      (.boot cfg mounted nextSessionId bootCount files) mutexCreated
      taskCreated) events
    device.analysed.Sublist
        (device.published.flatMap fun window => [window, window]) ∧
      (∀ window ∈ device.published, Genuine device.samples window) ∧
      device.results.length + device.owed = device.analysed.length ∧
      device.service.inferenceCount =
        UInt32.ofNat device.results.length ∧
      (device.received ++ device.service.resultQueue.toList).Sublist
        device.results := by
  intro device
  have hcoupled : device.Coupled :=
    coupled_run hsize hstride mounted nextSessionId bootCount files
      mutexCreated taskCreated events
  have hanswered : device.Answered :=
    invariant_run' (fun _ event hdevice => hdevice.step event) events
      (answered_boot _ mutexCreated taskCreated)
  exact ⟨hcoupled.sound.read.trans (Register.allowed_sublist _),
    hcoupled.genuine, hanswered.count, hanswered.inferenceCount,
    hanswered.received⟩

/-- Windows of three samples.  The second window is published after the task
has taken its notification, so the task copies that window twice. -/
def twiceEvents : List InferenceEvent :=
  let samples (numbers : List ℕ) : List InferenceEvent :=
    numbers.map fun n => .service (.logger (.appendSample
      ⟨UInt16.ofNat n, 50⟩
      ⟨0, false, ⟨0, 0, none, none⟩, ⟨0, 0, none, none⟩⟩))
  [.taskStart] ++ samples [1, 2, 3] ++ [.take] ++ samples [4, 5] ++
    [.lock true, .copyWindow, .publishResult 10 30 7, .take, .lock true,
      .copyWindow, .publishResult 40 50 8]

def twiceDevice : InferenceDevice shortWindows :=
  run step (boot (.boot shortWindows true 1 0 []) true true) twiceEvents

theorem analysed_in_order_twice :
    twiceDevice.analysed.map
        (fun window => window.samples.toList.map (·.proximity)) =
      [[3, 4, 5], [3, 4, 5]] ∧
    twiceDevice.analysed.Sublist
      (twiceDevice.published.flatMap fun window => [window, window]) := by
  have hsize : 1 ≤ shortWindows.windowSize ∧ shortWindows.windowSize ≤ 255 :=
    by decide
  have hstride : 1 ≤ shortWindows.windowStride ∧
      shortWindows.windowStride ≤ shortWindows.windowSize := by decide
  exact ⟨by decide +kernel,
    (analysed_in_order hsize hstride true 1 0 [] true true twiceEvents).1⟩

/-- No wake-up is lost: where the task waits without a notification, it has
analysed the window published last, unless that window was published before the
task had given its handle, or the task has failed to get the lock since. -/
theorem waiting_up_to_date
    (hsize : 1 ≤ cfg.windowSize ∧ cfg.windowSize ≤ 255)
    (hstride : 1 ≤ cfg.windowStride ∧ cfg.windowStride ≤ cfg.windowSize)
    (mounted : Bool) (nextSessionId : UInt16) (bootCount : UInt8)
    (files : Spiffs) (mutexCreated taskCreated : Bool)
    (events : List InferenceEvent) :
    let device := run step (boot
      (.boot cfg mounted nextSessionId bootCount files) mutexCreated
      taskCreated) events
    device.service.phase = .waiting → device.notifications = 0 →
      device.missed = false →
        device.analysed.getLast? = device.published.getLast? := by
  intro device hphase hnone hmissed
  have hcoupled : device.Coupled :=
    coupled_run hsize hstride mounted nextSessionId bootCount files
      mutexCreated taskCreated events
  apply hcoupled.sound.latest _ hmissed
  simp [Register.turns, register, hphase, hnone]

theorem waiting_up_to_date_twice :
    twiceDevice.analysed.getLast? = twiceDevice.published.getLast? := by
  have hsize : 1 ≤ shortWindows.windowSize ∧ shortWindows.windowSize ≤ 255 :=
    by decide
  have hstride : 1 ≤ shortWindows.windowStride ∧
      shortWindows.windowStride ≤ shortWindows.windowSize := by decide
  exact waiting_up_to_date hsize hstride true 1 0 [] true true twiceEvents
    (by decide +kernel) (by decide +kernel) (by decide +kernel)

end InferenceDevice

end SensorFirmware
