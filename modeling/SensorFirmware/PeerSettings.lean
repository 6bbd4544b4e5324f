import SensorFirmware.HandshakeWrites

/-!
# The settings and the update behind an open link

The configuration and the update manager follow the events of the device
alone.  No write over a link without encryption touches them.
-/

namespace SensorFirmware

open GuardedRun

variable {cfg : HistoryConfig} {σ : Type}

/-- The part of a device that only its own events change. -/
structure Settings (σ : Type) where
  config : ConfigService
  blob : ConfigBlob
  ota : Ota σ
  restarting : Bool
  historyInitialized : Bool

def LinkedDevice.settings (device : LinkedDevice cfg σ) : Settings σ where
  config := device.config
  blob := device.blob
  ota := device.ota
  restarting := device.restarting
  historyInitialized := device.history.initialized

namespace Settings

/-- The epoch of a detection that is logged with a believable clock. -/
def noteEpoch (settings : Settings σ) (locked configLocked : Bool)
    (clock : ClockMicros) : Settings σ :=
  if settings.historyInitialized && locked &&
      decide (minValidEpoch ≤ clock.time) then
    { settings with
      config := settings.config.updateLastKnownEpoch configLocked clock.time }
  else settings

def save (settings : Settings σ) (write : ConfigWrite) : Settings σ :=
  let saved := settings.config.saveIfDirty settings.blob write
  { settings with config := saved.1, blob := saved.2 }

def flushDirty (settings : Settings σ) (write : ConfigWrite) : Settings σ :=
  if settings.config.dirty then
    let flushed := settings.config.forceFlush settings.blob write
    { settings with config := flushed.1, blob := flushed.2.1 }
  else settings

/-- What an event of the device does to them. -/
def happen (ota : OtaConfig) (lib : UpdateLibrary σ Byte)
    (settings : Settings σ) (event : DeviceEvent cfg σ) : Settings σ :=
  match event, settings.restarting with
  | .setup env, _ =>
      let config := (ConfigService.construct env.random).init settings.blob
        env.config
      { config := config.1
        blob := config.2.1
        ota := .fresh env.otaInitialized env.updater
        restarting := false
        historyInitialized := true }
  | _, true => settings
  | .logDetection locked configLocked clock _, false =>
      settings.noteEpoch locked configLocked clock
  | .saveConfig write, false => settings.save write
  | .prepareSleep env, false => settings.flushDirty env.configWrite
  | .updateOta env, false =>
      let result := settings.ota.update ota lib env.now
      { settings with
        ota := result.ota
        restarting := settings.restarting || result.ota.restarted }
  | _, false => settings

end Settings

namespace HistoryService

theorem logDetection_epoch {service : HistoryService cfg} {locked : Bool}
    {clock : ClockMicros} {durationMs : ℕ}
    {logged : HistoryService cfg × LogResult}
    (hlog : service.logDetection locked clock durationMs = some logged) :
    logged.1.initialized = service.initialized ∧
      logged.2.lastKnownEpoch =
        if service.initialized && locked &&
            decide (minValidEpoch ≤ clock.time) then some clock.time
        else none := by
  rcases logDetection_cases hlog with ⟨hready, state, -, rfl⟩ |
    ⟨hready, rfl⟩
  · refine ⟨initialized_afterAppend _ _ _, ?_⟩
    rw [hready]
    simp [afterAppend]
  · refine ⟨rfl, ?_⟩
    rw [hready]
    rfl

theorem initialized_applyTimeSync {service : HistoryService cfg}
    {locked : Bool} {millis currentEpoch : ℕ}
    {synced : HistoryService cfg × Option ClockMicros}
    (hsync : service.applyTimeSync locked millis currentEpoch =
      some synced) :
    synced.1.initialized = service.initialized := by
  rcases applyTimeSync_cases hsync with ⟨buffer, updatedCount, hsynced⟩ |
    hsynced | hsynced
  · rw [hsynced]
    exact (sameIndices_afterBackfill _ _ _).initialized
  · rw [hsynced]
  · rw [hsynced]

@[simp] theorem initialized_restoreFromNvs (service : HistoryService cfg)
    (nvs : HistoryNvs cfg) (stack : Vector DetectionEvent cfg.bufferSize)
    (locked : Bool) :
    (service.restoreFromNvs nvs stack locked).1.initialized =
      service.initialized := by
  unfold restoreFromNvs
  split <;> rfl

@[simp] theorem initialized_processStorageCommand
    (service : HistoryService cfg) (nvs : HistoryNvs cfg)
    (env : StorageEnv cfg) (cmd : StorageCmd) :
    (service.processStorageCommand nvs env cmd).1.initialized =
      service.initialized := by
  cases cmd with
  | saveHit => exact initialized_flushToNvs service nvs env.flush
  | forceFlush => exact initialized_flushToNvs service nvs env.flush
  | restore => exact initialized_restoreFromNvs service nvs env.stack _
  | clearNvs => rfl

theorem initialized_drainStorage (env : ℕ → StorageEnv cfg)
    (queue : List StorageMessage)
    (storage : HistoryService cfg × HistoryNvs cfg) :
    (drainStorage env queue storage).1.initialized =
      storage.1.initialized := by
  induction queue generalizing storage with
  | nil => rfl
  | cons message rest ih =>
      rw [drainStorage, ih, initialized_processStorageCommand]

end HistoryService

namespace LinkedDevice

theorem settings_stopStorageWorker (device : LinkedDevice cfg σ)
    (env : ℕ → StorageEnv cfg) :
    (device.stopStorageWorker env).settings = device.settings := by
  unfold stopStorageWorker
  split
  · unfold settings
    dsimp only
    rw [HistoryService.initialized_drainStorage]
  · rfl

variable (timing : TimingConfig) (ota : OtaConfig)
  (lib : UpdateLibrary σ Byte)

theorem pump_frame {device after : LinkedDevice cfg σ} {locked : Bool}
    {now : ℕ} {link : BleLink} {env : SendEnv}
    (hpump : device.pump locked now link env = some after) :
    ∃ handler lastPumpAttemptMs,
      after = { device with
        handler := handler
        lastPumpAttemptMs := lastPumpAttemptMs } := by
  unfold pump at hpump
  split at hpump
  · cases Option.some.inj hpump
    exact ⟨_, _, rfl⟩
  · dsimp only at hpump
    split at hpump
    · cases Option.some.inj hpump
      exact ⟨_, _, rfl⟩
    · split at hpump
      · cases Option.some.inj hpump
        exact ⟨_, _, rfl⟩
      · obtain ⟨event?, -, rfl⟩ := Option.map_eq_some_iff.mp hpump
        cases event? with
        | none => exact ⟨_, _, rfl⟩
        | some event => exact ⟨_, _, rfl⟩

theorem updateOta_frame (device : LinkedDevice cfg σ) (env : MessageEnv) :
    ∃ handler, device.updateOta ota lib env =
      { device with
        handler := handler
        ota := (device.ota.update ota lib env.now).ota
        restarting := device.restarting ||
          (device.ota.update ota lib env.now).ota.restarted } := by
  have hframe := OnlyHandler.sendAll
    { device.react with
      ota := (device.ota.update ota lib env.now).ota
      restarting := device.restarting ||
        (device.ota.update ota lib env.now).ota.restarted } env
    (device.ota.update ota lib env.now).replies
  obtain ⟨handler, hsame⟩ := hframe
  refine ⟨handler, ?_⟩
  have hafter : (device.updateOta ota lib env).toProtocolDevice = _ := hsame
  unfold updateOta afterReaction at hafter ⊢
  dsimp only at hafter
  rw [hafter]
  rfl

theorem settings_logDetection {device after : LinkedDevice cfg σ}
    {locked configLocked : Bool} {clock : ClockMicros} {durationMs : ℕ}
    (hlog : device.logDetection locked configLocked clock durationMs =
      some after) :
    after.settings = device.settings.noteEpoch locked configLocked clock := by
  obtain ⟨logged, hlogged, rfl⟩ := Option.map_eq_some_iff.mp hlog
  obtain ⟨hinitialized, hepoch⟩ := HistoryService.logDetection_epoch hlogged
  have hhistory : device.settings.historyInitialized =
      device.history.initialized := rfl
  unfold Settings.noteEpoch
  rw [hhistory]
  by_cases hready : (device.history.initialized && locked &&
      decide (minValidEpoch ≤ clock.time)) = true
  · rw [if_pos hready] at hepoch ⊢
    unfold settings
    dsimp only
    rw [hinitialized, hepoch]
  · rw [if_neg hready] at hepoch ⊢
    unfold settings
    dsimp only
    rw [hinitialized, hepoch]

theorem settings_storageWorker (device : LinkedDevice cfg σ)
    (env : StorageEnv cfg) :
    (device.storageWorker env).settings = device.settings := by
  unfold storageWorker
  split
  · split
    · rfl
    · unfold settings
      dsimp only
      rw [HistoryService.initialized_processStorageCommand]
  · rfl

theorem settings_forceNvsSync (device : LinkedDevice cfg σ)
    (env : FlushEnv) :
    (device.forceNvsSync env).settings = device.settings := by
  unfold forceNvsSync settings
  dsimp only
  rw [HistoryService.initialized_flushToNvs]

theorem settings_prepareSleep {device after : LinkedDevice cfg σ}
    {env : SleepSaveEnv cfg} (hsleep : device.prepareSleep env = some after) :
    after.settings = device.settings.flushDirty env.configWrite := by
  unfold prepareSleep at hsleep
  dsimp only at hsleep
  obtain ⟨pending, -, hafter⟩ := Option.map_eq_some_iff.mp hsleep
  have hsaved : after.settings =
      (device.flushDirtyConfig env.configWrite).settings := by
    rw [← settings_stopStorageWorker
      (device.flushDirtyConfig env.configWrite) env.storage, ← hafter]
    cases pending with
    | true => exact settings_forceNvsSync _ env.flush
    | false => rfl
  rw [hsaved]
  unfold flushDirtyConfig Settings.flushDirty
  cases hdirty : device.config.dirty with
  | true =>
      have hsettings : device.settings.config.dirty = true := hdirty
      rw [if_pos hsettings]
      rfl
  | false =>
      have hsettings : ¬device.settings.config.dirty = true := by
        rw [show device.settings.config = device.config from rfl, hdirty]
        decide
      rw [if_neg hsettings]
      rfl

theorem happen_restarting {device : LinkedDevice cfg σ}
    {event : DeviceEvent cfg σ} (hrestarting : device.restarting = true)
    (hsetup : ∀ env, event ≠ .setup env) :
    device.happen timing ota lib event = some device := by
  unfold happen
  rw [hrestarting]
  cases event with
  | setup env => exact absurd rfl (hsetup env)
  | _ => rfl

theorem settings_setup (device : LinkedDevice cfg σ)
    (env : SetupEnv cfg σ) :
    (device.setup env).settings =
      device.settings.happen ota lib (.setup env) := by
  unfold setup settings HistoryService.boot
  dsimp only
  rw [HistoryService.initialized_init]
  rfl

/-- The settings follow the events of the device, whatever else has
happened. -/
theorem settings_happen {device after : LinkedDevice cfg σ}
    {event : DeviceEvent cfg σ}
    (hevent : device.happen timing ota lib event = some after) :
    after.settings = device.settings.happen ota lib event := by
  have hflag : device.settings.restarting = device.restarting := rfl
  by_cases hsetup : ∃ env, event = .setup env
  · obtain ⟨env, rfl⟩ := hsetup
    cases Option.some.inj hevent
    exact settings_setup ota lib device env
  · cases hrestarting : device.restarting with
    | true =>
        rw [happen_restarting timing ota lib hrestarting
          fun env hsame => hsetup ⟨env, hsame⟩] at hevent
        cases Option.some.inj hevent
        unfold Settings.happen
        rw [hflag, hrestarting]
        cases event with
        | setup env => exact absurd ⟨env, rfl⟩ hsetup
        | _ => rfl
    | false =>
        rw [hrestarting] at hflag
        unfold happen at hevent
        unfold Settings.happen
        rw [hrestarting] at hevent
        rw [hflag]
        cases event with
        | logDetection => exact settings_logDetection hevent
        | systemTimeSynced =>
            obtain ⟨synced, hsynced, rfl⟩ := Option.map_eq_some_iff.mp hevent
            unfold settings
            dsimp only
            rw [HistoryService.initialized_applyTimeSync hsynced]
        | pump =>
            obtain ⟨handler, last, rfl⟩ := pump_frame hevent
            rfl
        | prepareSleep => exact settings_prepareSleep hevent
        | setup env => exact absurd ⟨env, rfl⟩ hsetup
        | connect locked now =>
            cases Option.some.inj hevent
            unfold onBLEConnect settings
            dsimp only
            rw [HistoryService.initialized_setBleConnected]
        | disconnect locked now =>
            cases Option.some.inj hevent
            unfold onBLEDisconnect settings
            dsimp only
            rw [HistoryService.initialized_setBleConnected]
        | sendMessage =>
            cases Option.some.inj hevent
            rfl
        | processRetries =>
            cases Option.some.inj hevent
            rfl
        | storageWorker env =>
            cases Option.some.inj hevent
            exact settings_storageWorker device env
        | forceNvsSync env =>
            cases Option.some.inj hevent
            exact settings_forceNvsSync device env
        | saveConfig =>
            cases Option.some.inj hevent
            rfl
        | updateOta env =>
            cases Option.some.inj hevent
            obtain ⟨handler, hafter⟩ := updateOta_frame ota lib device env
            rw [hafter, hrestarting]
            rfl

end LinkedDevice

/-! ## Writes -/

theorem initialized_fastForward (r : Reaction cfg σ) (env : MessageEnv)
    (id : ℕ) :
    (r.fastForward env id).history.initialized = r.history.initialized := by
  obtain ⟨counter, -, hraised⟩ :=
    r.history.fastForwardEventId_frame env.historyLocked id
  unfold Reaction.fastForward
  dsimp only
  split
  · rw [HistoryService.initialized_flushToNvs, hraised.initialized]
    rfl
  · exact hraised.initialized

theorem initialized_markAsSynced {service : HistoryService cfg}
    {locked : Bool} {eventId : ℕ} {marked : HistoryService cfg × Bool}
    (hmark : service.markAsSynced locked eventId = some marked) :
    marked.1.initialized = service.initialized := by
  rcases HistoryService.markAsSynced_cases hmark with
    ⟨buffer, found, -, rfl⟩ | rfl
  · exact (service.sameIndices_withBuffer _ _).initialized
  · rfl

structure SameServices (before after : ProtocolDevice cfg σ) : Prop where
  config : after.config = before.config
  ota : after.ota = before.ota
  restarting : after.restarting = before.restarting
  initialized : after.history.initialized = before.history.initialized

theorem HandshakeEffect.sameServices {env : MessageEnv} {data : List Byte}
    {before after : ProtocolDevice cfg σ}
    (heffect : HandshakeEffect env data before after) :
    SameServices before after := by
  rcases heffect with ⟨handler, rfl⟩ | ⟨-, id, handler, rfl⟩ |
    ⟨-, eventId, marked, hmarked, handler, rfl⟩
  · exact ⟨rfl, rfl, rfl, rfl⟩
  · have hinitialized := initialized_fastForward before.react env id
    unfold Reaction.fastForward at hinitialized ⊢
    dsimp only at hinitialized ⊢
    split at hinitialized
    next hsync =>
      rw [if_pos hsync]
      exact ⟨rfl, rfl, rfl, hinitialized⟩
    next hsync =>
      rw [if_neg hsync]
      exact ⟨rfl, rfl, rfl, hinitialized⟩
  · exact ⟨rfl, rfl, rfl, initialized_markAsSynced hmarked⟩

namespace LinkedDevice

variable (timing : TimingConfig) (ota : OtaConfig)
  (lib : UpdateLibrary σ Byte)

theorem settings_receive {device after : LinkedDevice cfg σ} {bonded : Bool}
    {data : List Byte} {env : MessageEnv}
    (hreceive : device.receive ota lib ⟨false, bonded⟩ data env =
      some after) :
    after.settings = device.settings := by
  obtain ⟨heffect, hblob⟩ := receive_effect hreceive
  have hsame := heffect.sameServices
  unfold settings
  rw [hsame.config, hsame.ota, hsame.restarting, hsame.initialized, hblob]

theorem same_settings {device seen alone : LinkedDevice cfg σ}
    {turns : List (LinkTurn cfg σ)}
    (hseen : attempt (step timing ota lib) device turns = some seen)
    (halone : attempt (step timing ota lib) device
      (turns.filter LinkTurn.isDevice) = some alone) :
    seen.settings = alone.settings := by
  have hboth : ∀ (s t : LinkedDevice cfg σ) turn s' t',
      turn.isDevice = true → True → s.settings = t.settings →
        s.step timing ota lib turn = some s' →
          t.step timing ota lib turn = some t' →
            s'.settings = t'.settings := by
    intro s t turn s' t' hdevice _ hsame hs ht
    cases turn with
    | write => cases hdevice
    | device event =>
        rw [settings_happen timing ota lib hs,
          settings_happen timing ota lib ht, hsame]
  have hwrite : ∀ (s t : LinkedDevice cfg σ) turn s',
      turn.isDevice = false → True → s.settings = t.settings →
        s.step timing ota lib turn = some s' →
          s'.settings = t.settings := by
    intro s t turn s' hdevice _ hsame hs
    cases turn with
    | device => cases hdevice
    | write bonded data env =>
        rw [settings_receive ota lib hs, hsame]
  have hfree : GuardedAttempt (step timing ota lib) (fun _ _ => True) device
      turns := guardedAttempt_of_forall_mem (fun _ _ => trivial) device
  exact attempt_filter_related hboth hwrite rfl hfree hseen halone

end LinkedDevice

end SensorFirmware
