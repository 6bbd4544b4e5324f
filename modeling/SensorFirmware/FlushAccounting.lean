import SensorFirmware.WarmBoot

/-!
# Counting what is not in flash

`_eventsSinceFlush` is an 8-bit counter in RAM.  A ghost count of the
detections logged since the last flush that stored all of its keys goes beside
it, and the question is in which runs the counter stands for that count.  A
flush is one step: its copy is taken at the start, so what is logged while it
writes counts as logged after it.
-/

namespace SensorFirmware

open GuardedRun

variable {cfg : HistoryConfig}

namespace FlushEnv

/-- `flushToNvs` does not return before it takes its copy. -/
def proceeds (env : FlushEnv) : Bool :=
  !(env.batteryCritical && !env.charging) && !env.pairingModeEnabled &&
    env.locked

def stores (env : FlushEnv) : Bool :=
  env.beginOk && env.outcomes.complete

end FlushEnv

namespace HistoryDevice

/-! ## What a step does to the counter -/

def logs (device : HistoryDevice cfg) : HistoryAction cfg → Bool
  | .logDetection locked _ _ => device.service.initialized && locked
  | _ => false

def raises (device : HistoryDevice cfg) : HistoryAction cfg → Bool
  | .fastForwardEventId locked newId _ =>
      device.service.initialized && locked &&
        decide (device.service.state.globalEventId < newId)
  | _ => false

/-- The flush that a step calls for. -/
def flushOf (device : HistoryDevice cfg) :
    HistoryAction cfg → Option FlushEnv
  | .flushToNvs env => some env
  | .fastForwardEventId locked newId env =>
      if (device.service.fastForwardEventId locked newId).2 then some env
      else none
  | .storageCommand env =>
      match device.service.storageQueue.head?.map StorageMessage.cmd with
      | some .saveHit => some env.flush
      | some .forceFlush => some env.flush
      | _ => none
  | _ => none

/-- A boot, or a restore that finds a backup, sets the counter to zero. -/
def startsOver (device : HistoryDevice cfg) : HistoryAction cfg → Bool
  | .storageCommand env =>
      match device.service.storageQueue.head?.map StorageMessage.cmd with
      | some .restore =>
          device.nvs.namespaceExists && device.nvs.eventId.isSome &&
            env.flush.locked
      | _ => false
  | .reset _ _ => true
  | .powerUp _ _ _ => true
  | _ => false

def counterAfter (device : HistoryDevice cfg) (action : HistoryAction cfg) :
    ℕ :=
  if device.logs action then u8 (device.service.eventsSinceFlush + 1)
  else if device.startsOver action then 0
  else if (device.flushOf action).any FlushEnv.proceeds then 0
  else if device.raises action then u8 cfg.nvsFlushThreshold
  else device.service.eventsSinceFlush

end HistoryDevice

namespace HistoryService

@[simp] theorem eventsSinceFlush_queueStorageCommand
    (service : HistoryService cfg) (cmd : StorageCmd) (eventId : ℕ) :
    (service.queueStorageCommand cmd eventId).1.eventsSinceFlush =
      service.eventsSinceFlush := by
  unfold queueStorageCommand
  split <;> rfl

@[simp] theorem eventsSinceFlush_queueFlush (service : HistoryService cfg)
    (eventId : ℕ) :
    (service.queueFlush eventId).eventsSinceFlush =
      service.eventsSinceFlush := by
  simp [queueFlush]

theorem eventsSinceFlush_afterAppend (service : HistoryService cfg)
    (clock : ClockMicros) (state : RTCState cfg) :
    (service.afterAppend clock state).1.eventsSinceFlush =
      u8 (service.eventsSinceFlush + 1) := by
  unfold afterAppend queueFlushAfterLog
  dsimp only
  split <;> simp

theorem eventsSinceFlush_afterBackfill (service : HistoryService cfg)
    (buffer : Vector DetectionEvent cfg.bufferSize) (updatedCount : ℕ) :
    (service.afterBackfill buffer updatedCount).eventsSinceFlush =
      service.eventsSinceFlush := by
  unfold afterBackfill
  dsimp only
  split
  · rw [eventsSinceFlush_queueFlush]
    rfl
  · rfl

theorem eventsSinceFlush_setBleConnected (service : HistoryService cfg)
    (connected : Bool) (millis : ℕ) :
    (service.setBleConnected connected millis).eventsSinceFlush =
      service.eventsSinceFlush := by
  unfold setBleConnected
  dsimp only
  split
  · rw [eventsSinceFlush_queueFlush]
    rfl
  · rfl

theorem eventsSinceFlush_flushToNvs {service : HistoryService cfg}
    (hinitialized : service.initialized = true) (nvs : HistoryNvs cfg)
    (env : FlushEnv) :
    (service.flushToNvs nvs env).1.eventsSinceFlush =
      if env.proceeds then 0 else service.eventsSinceFlush := by
  unfold flushToNvs FlushEnv.proceeds
  rw [hinitialized]
  cases env.batteryCritical && !env.charging <;>
    cases env.pairingModeEnabled <;> cases env.locked <;>
    cases env.beginOk <;> rfl

theorem eventsSinceFlush_startStorageWorker (service : HistoryService cfg)
    (taskOk : Bool) :
    (service.startStorageWorker taskOk).eventsSinceFlush =
      service.eventsSinceFlush := by
  unfold startStorageWorker
  split <;> rfl

theorem eventsSinceFlush_boot (rtc : RTCState cfg) (env : BootEnv cfg) :
    (boot rtc env).eventsSinceFlush = 0 := by
  unfold boot init
  rw [eventsSinceFlush_startStorageWorker]

theorem eventsSinceFlush_restoreFromNvs (service : HistoryService cfg)
    (nvs : HistoryNvs cfg) (stack : Vector DetectionEvent cfg.bufferSize)
    (locked : Bool) :
    (service.restoreFromNvs nvs stack locked).1.eventsSinceFlush =
      if nvs.namespaceExists && nvs.eventId.isSome && locked then 0
      else service.eventsSinceFlush := by
  unfold restoreFromNvs
  split <;> rfl

end HistoryService

namespace HistoryDevice

theorem eventsSinceFlush_fastForwardEventId {device : HistoryDevice cfg}
    (hkept : device.Kept) (locked : Bool) (newId : ℕ) (env : FlushEnv) :
    (device.fastForwardEventId locked newId env).service.eventsSinceFlush =
      device.counterAfter (.fastForwardEventId locked newId env) := by
  have hinitialized :=
    (hkept.sound.fastForwardEventId locked newId).initialized
  have hraised :
      (device.service.fastForwardEventId locked newId).1.eventsSinceFlush =
        if device.raises (.fastForwardEventId locked newId env)
          then u8 cfg.nvsFlushThreshold
        else device.service.eventsSinceFlush := by
    unfold HistoryService.fastForwardEventId raises
    split
    · dsimp only
      split
      · rw [HistoryService.eventsSinceFlush_queueStorageCommand]
        rfl
      · rfl
    · rfl
  unfold HistoryDevice.fastForwardEventId counterAfter flushOf logs
    startsOver
  dsimp only
  simp only [Bool.false_eq_true, if_false]
  by_cases hflush : (device.service.fastForwardEventId locked newId).2 = true
  · simp only [if_pos hflush, Option.any_some]
    rw [← hraised]
    exact HistoryService.eventsSinceFlush_flushToNvs hinitialized
      device.nvs env
  · simp only [if_neg hflush, Option.any_none, Bool.false_eq_true, if_false]
    exact hraised

theorem eventsSinceFlush_storageCommand {device : HistoryDevice cfg}
    (hkept : device.Kept) (env : StorageEnv cfg) :
    (device.storageCommand env).service.eventsSinceFlush =
      device.counterAfter (.storageCommand env) := by
  unfold HistoryDevice.storageCommand
  split
  next hqueue =>
    simp [counterAfter, logs, startsOver, flushOf, raises, hqueue]
  next message rest hqueue =>
    obtain ⟨cmd, eventId⟩ := message
    have htaken : ({ device.service with storageQueue := rest } :
        HistoryService cfg).initialized = true :=
      hkept.sound.initialized
    cases cmd with
    | saveHit =>
        refine (HistoryService.eventsSinceFlush_flushToNvs htaken device.nvs
          env.flush).trans ?_
        simp [counterAfter, logs, startsOver, flushOf, raises, hqueue]
    | forceFlush =>
        refine (HistoryService.eventsSinceFlush_flushToNvs htaken device.nvs
          env.flush).trans ?_
        simp [counterAfter, logs, startsOver, flushOf, raises, hqueue]
    | restore =>
        refine (HistoryService.eventsSinceFlush_restoreFromNvs
          { device.service with storageQueue := rest } device.nvs env.stack
          env.flush.locked).trans ?_
        simp [counterAfter, logs, startsOver, flushOf, raises, hqueue]
    | clearNvs =>
        simp [counterAfter, logs, startsOver, flushOf, raises, hqueue,
          HistoryService.processStorageCommand]

theorem eventsSinceFlush_step {device after : HistoryDevice cfg}
    (hkept : device.Kept) {action : HistoryAction cfg}
    (hstep : device.step action = some after) :
    after.service.eventsSinceFlush = device.counterAfter action := by
  cases action with
  | logDetection locked clock durationMs =>
      obtain ⟨logged, hlog, rfl⟩ := Option.map_eq_some_iff.mp hstep
      rcases HistoryService.logDetection_cases hlog with
        ⟨hready, state, -, rfl⟩ | ⟨hready, rfl⟩
      · simp only [counterAfter, logs, hready, if_true]
        exact HistoryService.eventsSinceFlush_afterAppend _ _ _
      · simp [counterAfter, logs, hready, startsOver, flushOf, raises]
  | markAsSynced locked eventId =>
      obtain ⟨marked, hmark, rfl⟩ := Option.map_eq_some_iff.mp hstep
      rcases HistoryService.markAsSynced_cases hmark with
        ⟨buffer, found, -, rfl⟩ | rfl
      · rfl
      · rfl
  | markMultipleAsSynced locked batch =>
      obtain ⟨marked, hmark, rfl⟩ := Option.map_eq_some_iff.mp hstep
      unfold HistoryService.markMultipleAsSynced at hmark
      split at hmark
      · obtain ⟨result, -, rfl⟩ := Option.map_eq_some_iff.mp hmark
        rfl
      · cases Option.some.inj hmark
        rfl
  | applyTimeSync locked millis currentEpoch =>
      obtain ⟨synced, hsync, rfl⟩ := Option.map_eq_some_iff.mp hstep
      rcases HistoryService.applyTimeSync_cases hsync with
        ⟨buffer, updatedCount, hsynced⟩ | hsynced | hsynced
      · rw [hsynced, HistoryService.eventsSinceFlush_afterBackfill]
        rfl
      · rw [hsynced]
        rfl
      · rw [hsynced]
        rfl
  | fastForwardEventId locked newId env =>
      cases Option.some.inj hstep
      exact eventsSinceFlush_fastForwardEventId hkept locked newId env
  | clear locked =>
      cases Option.some.inj hstep
      cases locked <;> rfl
  | setBleConnected connected millis =>
      cases Option.some.inj hstep
      exact HistoryService.eventsSinceFlush_setBleConnected _ _ _
  | queueStorageCommand cmd eventId =>
      cases Option.some.inj hstep
      exact HistoryService.eventsSinceFlush_queueStorageCommand _ _ _
  | storageCommand env =>
      cases Option.some.inj hstep
      exact eventsSinceFlush_storageCommand hkept env
  | startStorageWorker taskOk =>
      cases Option.some.inj hstep
      exact HistoryService.eventsSinceFlush_startStorageWorker _ _
  | stopStorageWorker =>
      cases Option.some.inj hstep
      rfl
  | flushToNvs env =>
      cases Option.some.inj hstep
      exact HistoryService.eventsSinceFlush_flushToNvs
        hkept.sound.initialized device.nvs env
  | reset reason env =>
      cases Option.some.inj hstep
      exact HistoryService.eventsSinceFlush_boot _ _
  | powerUp brownout rtc env =>
      cases Option.some.inj hstep
      exact HistoryService.eventsSinceFlush_boot _ _

end HistoryDevice

/-! ## The account -/

/-- `unflushed` is the number of detections logged since the last flush that
stored all of its keys. -/
structure AccountedDevice (cfg : HistoryConfig) extends
    HistoryDevice cfg where
  unflushed : ℕ

namespace AccountedDevice

def unflushedAfter (device : AccountedDevice cfg)
    (action : HistoryAction cfg) : ℕ :=
  if device.logs action then device.unflushed + 1
  else if (device.flushOf action).any
      fun env => env.proceeds && env.stores then 0
  else device.unflushed

def step (device : AccountedDevice cfg) (action : HistoryAction cfg) :
    Option (AccountedDevice cfg) :=
  (device.toHistoryDevice.step action).map fun after =>
    { toHistoryDevice := after, unflushed := device.unflushedAfter action }

def firstPowerUp (rtc : RTCState cfg) (env : ResetEnv cfg) :
    AccountedDevice cfg where
  toHistoryDevice := .firstPowerUp rtc env
  unflushed := 0

/-- Few enough detections are at risk, or a flush is asked for. -/
def Accounted (device : AccountedDevice cfg) : Prop :=
  device.unflushed < cfg.nvsFlushThreshold ∨
    device.service.needsNvsFlush = true

/-- The step does not make the counter fall behind: a flush that takes its copy
also stores it, nothing is unflushed at a boot or a restore, and neither the
counter nor the threshold that a fast-forward puts into it overflows a byte. -/
structure KeepsAccount (device : AccountedDevice cfg)
    (action : HistoryAction cfg) : Prop where
  stored : ∀ env ∈ device.flushOf action, env.proceeds = true →
    env.stores = true ∨ device.unflushed = 0
  flushed : device.startsOver action = true → device.unflushed = 0
  counted : device.logs action = true →
    device.service.eventsSinceFlush + 1 < 2 ^ 8
  raised : device.raises action = true → cfg.nvsFlushThreshold < 2 ^ 8

instance (device : AccountedDevice cfg) (action : HistoryAction cfg) :
    Decidable (device.KeepsAccount action) :=
  decidable_of_iff
    ((∀ env ∈ device.flushOf action, env.proceeds = true →
        env.stores = true ∨ device.unflushed = 0) ∧
      (device.startsOver action = true → device.unflushed = 0) ∧
      (device.logs action = true →
        device.service.eventsSinceFlush + 1 < 2 ^ 8) ∧
      (device.raises action = true → cfg.nvsFlushThreshold < 2 ^ 8))
    ⟨fun ⟨stored, flushed, counted, raised⟩ =>
        ⟨stored, flushed, counted, raised⟩,
      fun ⟨stored, flushed, counted, raised⟩ =>
        ⟨stored, flushed, counted, raised⟩⟩

structure InStep (device : AccountedDevice cfg) : Prop where
  kept : device.toHistoryDevice.Kept
  counted : device.unflushed ≤ device.service.eventsSinceFlush ∨
    cfg.nvsFlushThreshold ≤ device.service.eventsSinceFlush

theorem inStep_firstPowerUp (rtc : RTCState cfg) (env : ResetEnv cfg) :
    (firstPowerUp rtc env).InStep :=
  ⟨HistoryDevice.kept_firstPowerUp rtc env, .inl (Nat.zero_le _)⟩

theorem InStep.counterAfter {device : AccountedDevice cfg}
    (hdevice : device.InStep) {action : HistoryAction cfg}
    (hkeeps : device.KeepsAccount action) :
    device.unflushedAfter action ≤ device.counterAfter action ∨
      cfg.nvsFlushThreshold ≤ device.counterAfter action := by
  have hcounted := hdevice.counted
  obtain ⟨hstored, hflushed, hroom, hraised⟩ := hkeeps
  unfold unflushedAfter HistoryDevice.counterAfter
  by_cases hlogs : device.logs action = true
  · have hsmall : u8 (device.service.eventsSinceFlush + 1) =
        device.service.eventsSinceFlush + 1 :=
      Nat.mod_eq_of_lt (hroom hlogs)
    rw [if_pos hlogs, if_pos hlogs, hsmall]
    omega
  rw [if_neg hlogs, if_neg hlogs]
  by_cases hover : device.startsOver action = true
  · have hnone := hflushed hover
    left
    rw [hnone]
    split <;> exact Nat.zero_le _
  rw [if_neg hover]
  have hstays : device.unflushed ≤ (if device.raises action then
        u8 cfg.nvsFlushThreshold else device.service.eventsSinceFlush) ∨
      cfg.nvsFlushThreshold ≤ (if device.raises action then
        u8 cfg.nvsFlushThreshold else device.service.eventsSinceFlush) := by
    split
    next hraises =>
      right
      exact (Nat.mod_eq_of_lt (hraised hraises)).ge
    next => exact hcounted
  cases hflush : device.flushOf action with
  | none => exact hstays
  | some env =>
      simp only [Option.any_some]
      by_cases hproceeds : env.proceeds = true
      · left
        rcases hstored env hflush hproceeds with hstores | hnone
        · simp [hproceeds, hstores]
        · simp [hnone]
      · simpa [hproceeds] using hstays

theorem InStep.step {device : AccountedDevice cfg}
    (hdevice : device.InStep) (action : HistoryAction cfg)
    (hkeeps : device.KeepsAccount action) :
    ∃ after, device.step action = some after ∧ after.InStep := by
  obtain ⟨after, hstep, hkept⟩ := hdevice.kept.step action
  refine ⟨⟨after, device.unflushedAfter action⟩, ?_, hkept, ?_⟩
  · simp only [AccountedDevice.step, hstep, Option.map_some]
  · have hcounter :=
      HistoryDevice.eventsSinceFlush_step hdevice.kept hstep
    have hcounted := hdevice.counterAfter hkeeps
    rw [← hcounter] at hcounted
    exact hcounted

theorem InStep.accounted {device : AccountedDevice cfg}
    (hdevice : device.InStep) : device.Accounted := by
  have hcounted := hdevice.counted
  unfold Accounted HistoryService.needsNvsFlush
  rw [decide_eq_true_eq]
  omega

/-- In every run that meets the guard the counter answers for all detections
that are not in flash. -/
theorem flushes_accounted (rtc : RTCState cfg) (env : ResetEnv cfg)
    (actions : List (HistoryAction cfg))
    (hguard : GuardedAttempt step KeepsAccount (firstPowerUp rtc env)
      actions) :
    ∃ final, attempt step (firstPowerUp rtc env) actions = some final ∧
      final.Accounted := by
  obtain ⟨final, hrun, hfinal⟩ := invariant_attempt
    (fun device action (hdevice : device.InStep) hkeeps =>
      hdevice.step action hkeeps)
    (inStep_firstPowerUp rtc env) hguard
  exact ⟨final, hrun, hfinal.accounted⟩

/-- A storage worker that stores what it is asked to, and a wake with nothing
left to store. -/
def storedBeforeSleep : List (HistoryAction .fourSlots) :=
  [.logDetection true 5000000 120, .logDetection true 6000000 80,
    .flushToNvs { FlushEnv.good with batteryCritical := true },
    .logDetection true 7000000 90,
    .storageCommand ⟨.good, (RTCState.resetState .fourSlots).buffer⟩,
    .reset .deepSleep
      ⟨(RTCState.resetState .fourSlots).buffer, true, true⟩,
    .logDetection true 8000000 60]

def poweredUp (cfg : HistoryConfig) : AccountedDevice cfg :=
  firstPowerUp (.resetState cfg) ⟨(RTCState.resetState cfg).buffer, true, true⟩

theorem stored_before_sleep_accounted :
    ∃ final, attempt step (poweredUp .fourSlots) storedBeforeSleep = some final ∧
      final.Accounted :=
  flushes_accounted _ _ _ (by decide +kernel)

/-! ## How the account is lost -/

/-- Detections that nothing flushes, as during a connection. -/
theorem run_logs {device : AccountedDevice cfg}
    (hkept : device.toHistoryDevice.Kept)
    (hbyte : device.service.eventsSinceFlush < 2 ^ 8) (clock : ClockMicros)
    (durationMs count : ℕ) :
    ∃ final, attempt step device
        (List.replicate count (.logDetection true clock durationMs)) =
          some final ∧
      final.toHistoryDevice.Kept ∧
      final.unflushed = device.unflushed + count ∧
      final.service.eventsSinceFlush =
        u8 (device.service.eventsSinceFlush + count) := by
  induction count generalizing device with
  | zero =>
      exact ⟨device, rfl, hkept, rfl, (Nat.mod_eq_of_lt hbyte).symm⟩
  | succ count ih =>
      obtain ⟨after, hstep, hafter⟩ :=
        hkept.step (.logDetection true clock durationMs)
      have hlogs :
          device.logs (.logDetection true clock durationMs) = true := by
        simp [HistoryDevice.logs, hkept.sound.initialized]
      have hcounter := HistoryDevice.eventsSinceFlush_step hkept hstep
      rw [HistoryDevice.counterAfter, if_pos hlogs] at hcounter
      have hlogged : AccountedDevice.step device
          (.logDetection true clock durationMs) =
            some ⟨after, device.unflushed + 1⟩ := by
        simp only [AccountedDevice.step, hstep, Option.map_some,
          unflushedAfter, hlogs, if_true]
      obtain ⟨final, hrun, hfinal, hunflushed, hlast⟩ :=
        @ih ⟨after, device.unflushed + 1⟩ hafter
          (hcounter ▸ Nat.mod_lt _ (by decide))
      refine ⟨final, ?_, hfinal, ?_, ?_⟩
      · rw [List.replicate_succ, attempt_cons hlogged]
        exact hrun
      · dsimp only at hunflushed
        omega
      · dsimp only at hlast
        rw [hlast, hcounter]
        unfold u8
        omega

/-- After 256 detections of a connection the byte reads as after none. -/
theorem not_accounted_after_wrap {device : AccountedDevice cfg}
    (hkept : device.toHistoryDevice.Kept)
    (hzero : device.service.eventsSinceFlush = 0)
    (hpositive : 0 < cfg.nvsFlushThreshold)
    (hthreshold : cfg.nvsFlushThreshold ≤ 2 ^ 8) (millis : ℕ)
    (clock : ClockMicros) (durationMs : ℕ) :
    ∃ final, attempt step device (.setBleConnected true millis ::
        List.replicate 256 (.logDetection true clock durationMs)) =
          some final ∧
      ¬final.Accounted := by
  obtain ⟨after, hstep, hafter⟩ := hkept.step (.setBleConnected true millis)
  have hcounter : after.service.eventsSinceFlush =
      device.service.eventsSinceFlush :=
    HistoryDevice.eventsSinceFlush_step hkept hstep
  rw [hzero] at hcounter
  have hconnected : AccountedDevice.step device
      (.setBleConnected true millis) = some ⟨after, device.unflushed⟩ := by
    simp only [AccountedDevice.step, hstep, Option.map_some]
    rfl
  obtain ⟨final, hrun, -, hunflushed, hlast⟩ :=
    @run_logs _ ⟨after, device.unflushed⟩ hafter
      (lt_of_eq_of_lt hcounter (by decide)) clock durationMs 256
  refine ⟨final, (attempt_cons hconnected _).trans hrun, ?_⟩
  unfold Accounted HistoryService.needsNvsFlush
  rw [decide_eq_true_eq, hlast, hcounter]
  unfold u8
  omega

/-- A ring that 256 events do not fill to nine tenths. -/
def longRing : HistoryConfig where
  bufferSize := 300
  rtcMagicNumber := 0xA5A5A5A5
  nvsFlushThreshold := 50
  storageQueueDepth := 4
  two_le_bufferSize := by decide
  bufferSize_lt := by decide

def threeDetections : List (HistoryAction .fourSlots) :=
  [.logDetection true 5000000 120, .logDetection true 6000000 80,
    .logDetection true 7000000 90]

/-- A flush that cannot open the namespace, a wake after a flush that was
skipped, and a long connection each make the detections look flushed. -/
theorem unflushed_looks_flushed :
    (∃ final, attempt step (poweredUp .fourSlots) (threeDetections ++
        [.storageCommand ⟨{ FlushEnv.good with beginOk := false },
          (RTCState.resetState .fourSlots).buffer⟩]) = some final ∧
      ¬final.Accounted) ∧
    (∃ final, attempt step (poweredUp .fourSlots) (threeDetections ++
        [.flushToNvs { FlushEnv.good with batteryCritical := true },
          .reset .deepSleep
            ⟨(RTCState.resetState .fourSlots).buffer, true, true⟩]) =
          some final ∧
      ¬final.Accounted) ∧
    ∃ final, attempt step (poweredUp longRing)
        (.setBleConnected true 1000 ::
          List.replicate 256 (.logDetection true 5000000 120)) =
          some final ∧
      ¬final.Accounted := by
  have hlost : ∀ actions : List (HistoryAction .fourSlots),
      (attempt step (poweredUp .fourSlots) actions).map
          (fun final => (final.unflushed, final.service.needsNvsFlush)) =
        some (3, false) →
      ∃ final, attempt step (poweredUp .fourSlots) actions = some final ∧
        ¬final.Accounted := by
    intro actions hactions
    obtain ⟨final, hfinal, hvalues⟩ := Option.map_eq_some_iff.mp hactions
    obtain ⟨hunflushed, hneeds⟩ := Prod.mk.inj hvalues
    refine ⟨final, hfinal, ?_⟩
    unfold Accounted
    rw [hunflushed, hneeds]
    decide
  refine ⟨hlost _ (by decide +kernel), hlost _ (by decide +kernel), ?_⟩
  exact not_accounted_after_wrap (HistoryDevice.kept_firstPowerUp _ _)
    (HistoryService.eventsSinceFlush_boot _ _) (by decide) (by decide) _ _ _

end AccountedDevice

end SensorFirmware
