import SensorFirmware.GuardedRun
import SensorFirmware.HistoryValidity
import SensorFirmware.LinkedDevice

/-!
# The ring across sleep

The history service and its flash backup, through any order of operations,
storage commands and resets.  A reset without power loss, a wake from deep
sleep among them, finds the RTC region as it was left; a power loss leaves
anything there.
-/

namespace SensorFirmware

open GuardedRun

variable {cfg : HistoryConfig}

structure HistoryDevice (cfg : HistoryConfig) where
  service : HistoryService cfg
  nvs : HistoryNvs cfg
  deriving DecidableEq

/-- What `init` meets besides the reset reason and the flash. -/
structure ResetEnv (cfg : HistoryConfig) where
  stack : Vector DetectionEvent cfg.bufferSize
  locked : Bool
  taskOk : Bool

def ResetEnv.bootEnv (env : ResetEnv cfg) (reason : ResetReason)
    (nvs : HistoryNvs cfg) : BootEnv cfg where
  resetReason := reason
  nvs := nvs
  stack := env.stack
  locked := env.locked
  taskOk := env.taskOk

/-- `storageCommand` takes one command from the queue, be it in the worker task
or in the drain of `stopStorageWorker`, and `stopStorageWorker` is the call up
to that drain. -/
inductive HistoryAction (cfg : HistoryConfig) where
  | logDetection (locked : Bool) (clock : ClockMicros) (durationMs : ℕ)
  | markAsSynced (locked : Bool) (eventId : ℕ)
  | markMultipleAsSynced (locked : Bool) (batch : EventIdBatch)
  | applyTimeSync (locked : Bool) (millis currentEpoch : ℕ)
  | fastForwardEventId (locked : Bool) (newId : ℕ) (env : FlushEnv)
  | clear (locked : Bool)
  | setBleConnected (connected : Bool) (millis : ℕ)
  | queueStorageCommand (cmd : StorageCmd) (eventId : ℕ)
  | storageCommand (env : StorageEnv cfg)
  | startStorageWorker (taskOk : Bool)
  | stopStorageWorker
  | flushToNvs (env : FlushEnv)
  | reset (reason : ResetReason) (env : ResetEnv cfg)
  | powerUp (brownout : Bool) (rtc : RTCState cfg) (env : ResetEnv cfg)

namespace HistoryDevice

def flushToNvs (device : HistoryDevice cfg) (env : FlushEnv) :
    HistoryDevice cfg :=
  let flushed := device.service.flushToNvs device.nvs env
  { service := flushed.1, nvs := flushed.2.1 }

/-- With no worker, or no room in its queue, the flush is made on the spot. -/
def fastForwardEventId (device : HistoryDevice cfg) (locked : Bool)
    (newId : ℕ) (env : FlushEnv) : HistoryDevice cfg :=
  let raised := device.service.fastForwardEventId locked newId
  if raised.2 then { device with service := raised.1 }.flushToNvs env
  else { device with service := raised.1 }

def storageCommand (device : HistoryDevice cfg) (env : StorageEnv cfg) :
    HistoryDevice cfg :=
  match device.service.storageQueue with
  | [] => device
  | message :: rest =>
      let processed :=
        ({ device.service with storageQueue := rest }).processStorageCommand
          device.nvs env message.cmd
      { service := processed.1, nvs := processed.2 }

def reset (device : HistoryDevice cfg) (reason : ResetReason)
    (env : ResetEnv cfg) : HistoryDevice cfg :=
  { device with
    service := HistoryService.boot device.service.state
      (env.bootEnv reason device.nvs) }

def powerUp (device : HistoryDevice cfg) (brownout : Bool)
    (rtc : RTCState cfg) (env : ResetEnv cfg) : HistoryDevice cfg :=
  { device with
    service := HistoryService.boot rtc
      (env.bootEnv (if brownout then .brownout else .powerOn) device.nvs) }

/-- The first power-up, with nothing in flash. -/
def firstPowerUp (rtc : RTCState cfg) (env : ResetEnv cfg) :
    HistoryDevice cfg :=
  powerUp { service := HistoryService.construct rtc, nvs := .empty cfg }
    false rtc env

def step (device : HistoryDevice cfg) :
    HistoryAction cfg → Option (HistoryDevice cfg)
  | .logDetection locked clock durationMs =>
      (device.service.logDetection locked clock durationMs).map
        fun logged => { device with service := logged.1 }
  | .markAsSynced locked eventId =>
      (device.service.markAsSynced locked eventId).map
        fun marked => { device with service := marked.1 }
  | .markMultipleAsSynced locked batch =>
      (device.service.markMultipleAsSynced locked batch).map
        fun marked => { device with service := marked.1 }
  | .applyTimeSync locked millis currentEpoch =>
      (device.service.applyTimeSync locked millis currentEpoch).map
        fun synced => { device with service := synced.1 }
  | .fastForwardEventId locked newId env =>
      some (device.fastForwardEventId locked newId env)
  | .clear locked =>
      some { device with service := device.service.clear locked }
  | .setBleConnected connected millis =>
      some { device with
        service := device.service.setBleConnected connected millis }
  | .queueStorageCommand cmd eventId =>
      some { device with
        service := (device.service.queueStorageCommand cmd eventId).1 }
  | .storageCommand env => some (device.storageCommand env)
  | .startStorageWorker taskOk =>
      some { device with
        service := device.service.startStorageWorker taskOk }
  | .stopStorageWorker =>
      some { device with
        service := { device.service with storageWorkerRunning := false } }
  | .flushToNvs env => some (device.flushToNvs env)
  | .reset reason env => some (device.reset reason env)
  | .powerUp brownout rtc env => some (device.powerUp brownout rtc env)

/-- A deep sleep now would be followed by a warm boot that goes on with the
record, whatever else that boot meets. -/
structure SurvivesSleep (device : HistoryDevice cfg) : Prop where
  valid : device.service.state.validateState = true
  warm : ∀ env : BootEnv cfg, env.resetReason = .deepSleep →
    env.isColdBoot device.service.state = false
  state : ∀ env : BootEnv cfg, env.resetReason = .deepSleep →
    (HistoryService.boot device.service.state env).state =
      device.service.state

end HistoryDevice

/-! ## Indices in flash -/

/-- The stored indices, as far as there are any. -/
structure HistoryNvs.InRange (nvs : HistoryNvs cfg) : Prop where
  head_lt : ∀ head ∈ nvs.head, head < cfg.bufferSize
  tail_lt : ∀ tail ∈ nvs.tail, tail < cfg.bufferSize

namespace HistoryNvs

theorem inRange_empty : (HistoryNvs.empty cfg).InRange := by
  constructor <;> simp [HistoryNvs.empty]

theorem InRange.applyPuts {nvs : HistoryNvs cfg} (hrange : nvs.InRange)
    {snapshot : FlushSnapshot cfg} (hhead : snapshot.head < cfg.bufferSize)
    (htail : snapshot.tail < cfg.bufferSize) (puts : List PutAttempt) :
    (nvs.applyPuts snapshot puts).InRange := by
  rw [HistoryService.applyPuts_eq]
  constructor
  · intro head hmem
    dsimp only at hmem
    split at hmem
    · cases Option.some.inj hmem
      exact hhead
    · exact hrange.head_lt head hmem
  · intro tail hmem
    dsimp only at hmem
    split at hmem
    · cases Option.some.inj hmem
      exact htail
    · exact hrange.tail_lt tail hmem

theorem InRange.flushToNvs {service : HistoryService cfg}
    (hsound : service.Sound) {nvs : HistoryNvs cfg} (hrange : nvs.InRange)
    (env : FlushEnv) : (service.flushToNvs nvs env).2.1.InRange := by
  unfold HistoryService.flushToNvs
  split
  · exact hrange
  · dsimp only
    split
    · have hopened : ({ nvs with namespaceExists := true } :
          HistoryNvs cfg).InRange :=
        ⟨hrange.head_lt, hrange.tail_lt⟩
      exact hopened.applyPuts hsound.head_lt hsound.tail_lt _
    · exact hrange

theorem InRange.clearNvs {nvs : HistoryNvs cfg} (hrange : nvs.InRange)
    (beginOk : Bool) : (HistoryService.clearNvs nvs beginOk).InRange := by
  unfold HistoryService.clearNvs
  split
  · exact ⟨inRange_empty.head_lt, inRange_empty.tail_lt⟩
  · exact hrange

theorem InRange.nvsSnapshot {nvs : HistoryNvs cfg} (hrange : nvs.InRange)
    (stack : Vector DetectionEvent cfg.bufferSize) :
    (HistoryService.nvsSnapshot nvs stack).head < cfg.bufferSize ∧
      (HistoryService.nvsSnapshot nvs stack).tail < cfg.bufferSize := by
  obtain ⟨hhead, htail⟩ := hrange
  unfold HistoryService.nvsSnapshot
  constructor
  · cases hkey : nvs.head with
    | none => exact cfg.bufferSize_pos
    | some head => exact hhead head hkey
  · cases hkey : nvs.tail with
    | none => exact cfg.bufferSize_pos
    | some tail => exact htail tail hkey

end HistoryNvs

/-! ## What the steps keep -/

namespace HistoryService

theorem sound_restoredState {service : HistoryService cfg}
    (hinitialized : service.initialized = true) {nvs : HistoryNvs cfg}
    (hrange : nvs.InRange) (stack : Vector DetectionEvent cfg.bufferSize)
    (hstate : service.state = restoredState (nvsSnapshot nvs stack)) :
    service.Sound := by
  obtain ⟨hhead, htail⟩ := hrange.nvsSnapshot stack
  constructor
  · exact hinitialized
  · rw [hstate]
    exact hhead
  · rw [hstate]
    exact htail
  · rw [hstate]
    exact RTCState.validateState_updateCRC rfl

theorem Sound.restoreFromNvs {service : HistoryService cfg}
    (hsound : service.Sound) {nvs : HistoryNvs cfg} (hrange : nvs.InRange)
    (stack : Vector DetectionEvent cfg.bufferSize) (locked : Bool) :
    (service.restoreFromNvs nvs stack locked).1.Sound := by
  unfold HistoryService.restoreFromNvs
  split
  · exact sound_restoredState hsound.initialized hrange stack rfl
  · exact hsound

/-- Every command leaves a valid record and indices in range in flash. -/
theorem Sound.processStorageCommand {service : HistoryService cfg}
    (hsound : service.Sound) {nvs : HistoryNvs cfg} (hrange : nvs.InRange)
    (env : StorageEnv cfg) (cmd : StorageCmd) :
    (service.processStorageCommand nvs env cmd).1.Sound ∧
      (service.processStorageCommand nvs env cmd).2.InRange := by
  have hflushed := hsound.flushToNvs nvs env.flush
  have hstored := HistoryNvs.InRange.flushToNvs hsound hrange env.flush
  cases cmd with
  | saveHit => exact ⟨hflushed.of_state rfl rfl, hstored⟩
  | forceFlush => exact ⟨hflushed.of_state rfl rfl, hstored⟩
  | restore =>
      exact ⟨hsound.restoreFromNvs hrange env.stack env.flush.locked, hrange⟩
  | clearNvs => exact ⟨hsound, hrange.clearNvs env.flush.beginOk⟩

/-- A boot that restores or resets starts from a valid record. -/
theorem sound_coldBoot {rtc : RTCState cfg} {env : BootEnv cfg}
    (hcold : env.isColdBoot rtc = true) (hrange : env.nvs.InRange) :
    (boot rtc env).Sound := by
  obtain ⟨hhead, htail⟩ := hrange.nvsSnapshot env.stack
  have hstart :
      ((construct rtc).restoreOrReset env).state.head < cfg.bufferSize ∧
        ((construct rtc).restoreOrReset env).state.tail < cfg.bufferSize ∧
        ((construct rtc).restoreOrReset env).state.magicNumber =
          cfg.rtcMagicNumber := by
    unfold restoreOrReset
    dsimp only
    split
    next hcount =>
      unfold HistoryService.restoreFromNvs at hcount ⊢
      split at hcount
      next hread =>
        rw [if_pos hread]
        exact ⟨hhead, htail, rfl⟩
      next => exact absurd hcount (Nat.lt_irrefl 0)
    next => exact ⟨cfg.bufferSize_pos, cfg.bufferSize_pos, rfl⟩
  have hstate : (boot rtc env).state =
      ((construct rtc).restoreOrReset env).state.updateCRC := by
    have hrestores : env.isColdBoot (construct rtc).state = true := hcold
    unfold boot
    rw [state_init, if_pos (by simp [hrestores])]
  constructor
  · exact initialized_init _ _
  · rw [hstate]
    exact hstart.1
  · rw [hstate]
    exact hstart.2.1
  · rw [hstate]
    exact RTCState.validateState_updateCRC hstart.2.2

end HistoryService

namespace HistoryDevice

structure Kept (device : HistoryDevice cfg) : Prop where
  sound : device.service.Sound
  range : device.nvs.InRange

theorem Kept.flushToNvs {device : HistoryDevice cfg} (hkept : device.Kept)
    (env : FlushEnv) : (device.flushToNvs env).Kept :=
  ⟨hkept.sound.flushToNvs device.nvs env,
    HistoryNvs.InRange.flushToNvs hkept.sound hkept.range env⟩

theorem Kept.fastForwardEventId {device : HistoryDevice cfg}
    (hkept : device.Kept) (locked : Bool) (newId : ℕ) (env : FlushEnv) :
    (device.fastForwardEventId locked newId env).Kept := by
  have hraised : ({ device with
      service := (device.service.fastForwardEventId locked newId).1 } :
        HistoryDevice cfg).Kept :=
    ⟨hkept.sound.fastForwardEventId locked newId, hkept.range⟩
  unfold HistoryDevice.fastForwardEventId
  dsimp only
  split
  · exact hraised.flushToNvs env
  · exact hraised

theorem Kept.storageCommand {device : HistoryDevice cfg}
    (hkept : device.Kept) (env : StorageEnv cfg) :
    (device.storageCommand env).Kept := by
  unfold HistoryDevice.storageCommand
  split
  next => exact hkept
  next message rest _ =>
    have htaken : ({ device.service with storageQueue := rest } :
        HistoryService cfg).Sound :=
      hkept.sound.of_state rfl rfl
    obtain ⟨hsound, hrange⟩ :=
      htaken.processStorageCommand hkept.range env message.cmd
    exact ⟨hsound, hrange⟩

theorem Kept.reset {device : HistoryDevice cfg} (hkept : device.Kept)
    (reason : ResetReason) (env : ResetEnv cfg) :
    (device.reset reason env).Kept := by
  refine ⟨?_, hkept.range⟩
  cases hcold : (env.bootEnv reason device.nvs).isColdBoot
      device.service.state with
  | false => exact (hkept.sound.warmBoot hcold).2
  | true => exact HistoryService.sound_coldBoot hcold hkept.range

theorem kept_powerUp {device : HistoryDevice cfg}
    (hrange : device.nvs.InRange) (brownout : Bool) (rtc : RTCState cfg)
    (env : ResetEnv cfg) : (device.powerUp brownout rtc env).Kept := by
  refine ⟨HistoryService.sound_coldBoot ?_ hrange, hrange⟩
  cases brownout <;> simp [BootEnv.isColdBoot, ResetEnv.bootEnv]

theorem kept_firstPowerUp (rtc : RTCState cfg) (env : ResetEnv cfg) :
    (firstPowerUp rtc env).Kept :=
  kept_powerUp HistoryNvs.inRange_empty false rtc env

theorem Kept.step {device : HistoryDevice cfg} (hkept : device.Kept)
    (action : HistoryAction cfg) :
    ∃ after, device.step action = some after ∧ after.Kept := by
  have hsound := hkept.sound
  cases action with
  | logDetection locked clock durationMs =>
      cases locked with
      | false =>
          refine ⟨device, ?_, hkept⟩
          simp [HistoryDevice.step, HistoryService.logDetection]
      | true =>
          obtain ⟨state, hlog, -, hlogged⟩ :=
            hsound.logDetection clock durationMs
          refine ⟨{ device with
            service := (device.service.afterAppend clock state).1 }, ?_,
            hlogged, hkept.range⟩
          simp only [HistoryDevice.step, hlog, Option.map_some]
  | markAsSynced locked eventId =>
      obtain ⟨marked, hmark, hmarked⟩ := hsound.markAsSynced locked eventId
      refine ⟨{ device with service := marked.1 }, ?_, hmarked,
        hkept.range⟩
      simp only [HistoryDevice.step, hmark, Option.map_some]
  | markMultipleAsSynced locked batch =>
      obtain ⟨marked, hmark, hmarked⟩ :=
        hsound.markMultipleAsSynced locked batch
      refine ⟨{ device with service := marked.1 }, ?_, hmarked,
        hkept.range⟩
      simp only [HistoryDevice.step, hmark, Option.map_some]
  | applyTimeSync locked millis currentEpoch =>
      obtain ⟨synced, hsync, hsynced⟩ :=
        hsound.applyTimeSync locked millis currentEpoch
      refine ⟨{ device with service := synced }, ?_, hsynced,
        hkept.range⟩
      simp only [HistoryDevice.step, hsync, Option.map_some]
  | fastForwardEventId locked newId env =>
      exact ⟨_, rfl, hkept.fastForwardEventId locked newId env⟩
  | clear locked => exact ⟨_, rfl, hsound.clear locked, hkept.range⟩
  | setBleConnected connected millis =>
      have htracked := hsound.of_state
        (device.service.initialized_setBleConnected connected millis)
        (device.service.state_setBleConnected connected millis)
      exact ⟨_, rfl, htracked, hkept.range⟩
  | queueStorageCommand cmd eventId =>
      have hqueued := hsound.of_state
        (device.service.initialized_queueStorageCommand cmd eventId)
        (device.service.state_queueStorageCommand cmd eventId)
      exact ⟨_, rfl, hqueued, hkept.range⟩
  | storageCommand env => exact ⟨_, rfl, hkept.storageCommand env⟩
  | startStorageWorker taskOk =>
      have hstarted := hsound.of_state
        (device.service.initialized_startStorageWorker taskOk)
        (device.service.state_startStorageWorker taskOk)
      exact ⟨_, rfl, hstarted, hkept.range⟩
  | stopStorageWorker =>
      exact ⟨_, rfl, hsound.of_state rfl rfl, hkept.range⟩
  | flushToNvs env => exact ⟨_, rfl, hkept.flushToNvs env⟩
  | reset reason env => exact ⟨_, rfl, hkept.reset reason env⟩
  | powerUp brownout rtc env =>
      exact ⟨_, rfl, kept_powerUp hkept.range brownout rtc env⟩

theorem Kept.survivesSleep {device : HistoryDevice cfg}
    (hkept : device.Kept) : device.SurvivesSleep := by
  constructor
  · exact hkept.sound.valid
  · intro env hreason
    exact hkept.sound.isColdBoot_deepSleep hreason
  · intro env hreason
    exact (hkept.sound.wake hreason).1

/-- No operation faults, and between any two of them the record would survive
a deep sleep. -/
theorem ring_survives_sleep (rtc : RTCState cfg) (env : ResetEnv cfg)
    (actions : List (HistoryAction cfg)) :
    ∃ final, attempt step (firstPowerUp rtc env) actions = some final ∧
      final.SurvivesSleep := by
  obtain ⟨final, hrun, hkept⟩ := invariant_attempt'
    (fun device action (hdevice : device.Kept) => hdevice.step action)
    actions (kept_firstPowerUp rtc env)
  exact ⟨final, hrun, hkept.survivesSleep⟩

end HistoryDevice

end SensorFirmware
