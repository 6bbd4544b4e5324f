import SensorFirmware.OtaCommitIntegrity
import SensorFirmware.PeerHistory
import SensorFirmware.PeerSettings
import SensorFirmware.SyncedDelivered

/-!
# What an unencrypted peer can change

A device is run with the writes of a peer and without them.  The settings and
the update are the same in both runs.  The history is the same but for raised
identifiers and for marks.
-/

namespace SensorFirmware

open CyclicBuffer GuardedRun

variable {cfg : HistoryConfig} {σ : Type}

/-! ## Events that leave the ring alone -/

/-- The ring stays, as long as nothing but flushes is queued. -/
def KeepsStore (before after : HistoryService cfg) : Prop :=
  before.FlushesOnly → KeepsRing before after ∧ after.FlushesOnly

namespace KeepsStore

variable {before middle after : HistoryService cfg}

theorem refl (service : HistoryService cfg) : KeepsStore service service :=
  fun honly => ⟨.refl service, honly⟩

theorem trans (hfirst : KeepsStore before middle)
    (hsecond : KeepsStore middle after) : KeepsStore before after := by
  intro honly
  obtain ⟨hring, hmiddle⟩ := hfirst honly
  obtain ⟨hring', hafter⟩ := hsecond hmiddle
  exact ⟨hring.trans hring', hafter⟩

theorem flushToNvs (service : HistoryService cfg) (nvs : HistoryNvs cfg)
    (env : FlushEnv) : KeepsStore service (service.flushToNvs nvs env).1 := by
  intro honly
  refine ⟨.flushToNvs service nvs env, ?_⟩
  unfold HistoryService.FlushesOnly
  rw [HistoryService.storageQueue_flushToNvs]
  exact honly

theorem setBleConnected (service : HistoryService cfg) (connected : Bool)
    (millis : ℕ) :
    KeepsStore service (service.setBleConnected connected millis) :=
  fun honly => ⟨.setBleConnected service connected millis,
    honly.setBleConnected connected millis⟩

end KeepsStore

namespace LinkedDevice

theorem keeps_storageWorker (device : LinkedDevice cfg σ)
    (env : StorageEnv cfg) :
    KeepsStore device.history (device.storageWorker env).history := by
  intro honly
  unfold storageWorker
  split
  · split
    · exact ⟨.refl _, honly⟩
    next message rest hqueue =>
      rw [HistoryService.FlushesOnly, hqueue] at honly
      have htaken : KeepsRing device.history
          { device.history with storageQueue := rest } := ⟨rfl, rfl⟩
      refine ⟨htaken.trans (.processStorageCommand _ device.nvs env
        (honly message (.head rest))), ?_⟩
      unfold HistoryService.FlushesOnly
      dsimp only
      rw [HistoryService.storageQueue_processStorageCommand]
      exact fun other hother => honly other (.tail message hother)
  · exact ⟨.refl _, honly⟩

theorem keeps_stopStorageWorker (device : LinkedDevice cfg σ)
    (env : ℕ → StorageEnv cfg) :
    KeepsStore device.history (device.stopStorageWorker env).history := by
  intro honly
  unfold stopStorageWorker
  split
  · have hstopped : KeepsRing device.history
        { device.history with storageWorkerRunning := false } := ⟨rfl, rfl⟩
    obtain ⟨hring, hempty⟩ := KeepsRing.drainStorage env
      device.history.storageQueue honly
      ({ device.history with storageWorkerRunning := false }, device.nvs) rfl
    exact ⟨hstopped.trans hring, hempty⟩
  · exact ⟨.refl _, honly⟩

theorem history_flushDirtyConfig (device : LinkedDevice cfg σ)
    (write : ConfigWrite) :
    (device.flushDirtyConfig write).history = device.history := by
  unfold flushDirtyConfig
  split <;> rfl

theorem keeps_prepareSleep {device after : LinkedDevice cfg σ}
    {env : SleepSaveEnv cfg} (hsleep : device.prepareSleep env = some after) :
    KeepsStore device.history after.history := by
  unfold prepareSleep at hsleep
  dsimp only at hsleep
  obtain ⟨pending, -, hafter⟩ := Option.map_eq_some_iff.mp hsleep
  have hstopped := keeps_stopStorageWorker
    (device.flushDirtyConfig env.configWrite) env.storage
  rw [history_flushDirtyConfig] at hstopped
  rw [← hafter]
  cases pending with
  | true => exact hstopped.trans (.flushToNvs _ _ env.flush)
  | false => exact hstopped

variable (timing : TimingConfig) (ota : OtaConfig)
  (lib : UpdateLibrary σ Byte)

/-- Events other than detections, time synchronisation and `setup`. -/
theorem keeps_happen {device after : LinkedDevice cfg σ}
    {event : DeviceEvent cfg σ} (hrunning : device.restarting = false)
    (hother : event.touchesRing = false)
    (hevent : device.happen timing ota lib event = some after) :
    KeepsStore device.history after.history := by
  unfold happen at hevent
  rw [hrunning] at hevent
  cases event with
  | logDetection => cases hother
  | systemTimeSynced => cases hother
  | setup => cases hother
  | connect locked now =>
      cases Option.some.inj hevent
      exact .setBleConnected device.history true now
  | disconnect locked now =>
      cases Option.some.inj hevent
      exact .setBleConnected device.history false now
  | pump =>
      obtain ⟨handler, last, rfl⟩ := pump_frame hevent
      exact .refl _
  | storageWorker env =>
      cases Option.some.inj hevent
      exact keeps_storageWorker device env
  | forceNvsSync env =>
      cases Option.some.inj hevent
      exact .flushToNvs device.history device.nvs env
  | prepareSleep => exact keeps_prepareSleep hevent
  | updateOta env =>
      cases Option.some.inj hevent
      obtain ⟨handler, hafter⟩ := updateOta_frame ota lib device env
      rw [hafter]
      exact .refl _
  | _ =>
      cases Option.some.inj hevent
      exact .refl _

end LinkedDevice

/-! ## Two runs -/

/-- The settings are the same, and the rings are as far as they count. -/
structure SameStore (ids marks : Bool) (left right : LinkedDevice cfg σ) :
    Prop where
  settings : left.settings = right.settings
  ring : SameRing ids marks left.history right.history
  leftFlushes : left.history.FlushesOnly
  rightFlushes : right.history.FlushesOnly

namespace SameStore

open LinkedDevice

variable {ids marks : Bool} {left right left' right' : LinkedDevice cfg σ}
  (timing : TimingConfig) (ota : OtaConfig) (lib : UpdateLibrary σ Byte)

theorem of_keeps (hsame : SameStore ids marks left right)
    (hsettings : left'.settings = right'.settings)
    (hleft : KeepsStore left.history left'.history)
    (hright : KeepsStore right.history right'.history) :
    SameStore ids marks left' right' := by
  obtain ⟨hring, honly⟩ := hleft hsame.leftFlushes
  obtain ⟨hring', honly'⟩ := hright hsame.rightFlushes
  exact ⟨hsettings, hsame.ring.of_keeps hring hring', honly, honly'⟩

theorem happen (hsame : SameStore ids marks left right)
    {event : DeviceEvent cfg σ} (hsetup : ∀ env, event ≠ .setup env)
    (hleft : left.happen timing ota lib event = some left')
    (hright : right.happen timing ota lib event = some right') :
    SameStore ids marks left' right' := by
  have hsettings : left'.settings = right'.settings := by
    rw [settings_happen timing ota lib hleft,
      settings_happen timing ota lib hright, hsame.settings]
  have hflag : left.restarting = right.restarting :=
    congrArg Settings.restarting hsame.settings
  cases hrestarting : left.restarting with
  | true =>
      rw [hrestarting] at hflag
      rw [happen_restarting timing ota lib hrestarting hsetup] at hleft
      rw [happen_restarting timing ota lib hflag.symm hsetup] at hright
      cases Option.some.inj hleft
      cases Option.some.inj hright
      exact hsame
  | false =>
      rw [hrestarting] at hflag
      cases htouches : event.touchesRing with
      | false =>
          exact hsame.of_keeps hsettings
            (keeps_happen timing ota lib hrestarting htouches hleft)
            (keeps_happen timing ota lib hflag.symm htouches hright)
      | true =>
          unfold LinkedDevice.happen at hleft hright
          rw [hrestarting] at hleft
          rw [← hflag] at hright
          cases event with
          | logDetection =>
              obtain ⟨logged, hlogged, rfl⟩ :=
                Option.map_eq_some_iff.mp hleft
              obtain ⟨logged', hlogged', rfl⟩ :=
                Option.map_eq_some_iff.mp hright
              exact ⟨hsettings, hsame.ring.logDetection hlogged hlogged',
                hsame.leftFlushes.logDetection hlogged,
                hsame.rightFlushes.logDetection hlogged'⟩
          | systemTimeSynced =>
              obtain ⟨synced, hsynced, rfl⟩ :=
                Option.map_eq_some_iff.mp hleft
              obtain ⟨synced', hsynced', rfl⟩ :=
                Option.map_eq_some_iff.mp hright
              exact ⟨hsettings, hsame.ring.applyTimeSync hsynced hsynced',
                hsame.leftFlushes.applyTimeSync hsynced,
                hsame.rightFlushes.applyTimeSync hsynced'⟩
          | setup env => exact absurd rfl (hsetup env)
          | _ => cases htouches

end SameStore

/-! ## Devices that differ in their transport -/

/-- The same services, whatever the handler and the pump have done. -/
def SameButTransport (left right : LinkedDevice cfg σ) : Prop :=
  ∃ handler lastPumpAttemptMs,
    right = { left with
      handler := handler
      lastPumpAttemptMs := lastPumpAttemptMs }

namespace SameButTransport

open LinkedDevice

variable {left right left' right' : LinkedDevice cfg σ}

theorem of_onlyHandler (hsame : SameButTransport left right)
    (honly : OnlyHandler left.toProtocolDevice left'.toProtocolDevice)
    (hblob : left'.blob = left.blob) : SameButTransport left' right := by
  obtain ⟨handler, last, rfl⟩ := hsame
  obtain ⟨device, blob, last'⟩ := left'
  obtain ⟨handler', rfl⟩ := honly
  cases hblob
  exact ⟨_, _, rfl⟩

theorem pump (hsame : SameButTransport left right) {locked : Bool}
    {now : ℕ} {link : BleLink} {env : SendEnv}
    (hleft : left.pump locked now link env = some left')
    (hright : right.pump locked now link env = some right') :
    SameButTransport left' right' := by
  obtain ⟨handler, last, rfl⟩ := hsame
  obtain ⟨handler', last', rfl⟩ := pump_frame hleft
  obtain ⟨handler'', last'', rfl⟩ := pump_frame hright
  exact ⟨_, _, rfl⟩

theorem prepareSleep (hsame : SameButTransport left right)
    {env : SleepSaveEnv cfg} (hleft : left.prepareSleep env = some left')
    (hright : right.prepareSleep env = some right') :
    SameButTransport left' right' := by
  obtain ⟨handler, last, rfl⟩ := hsame
  have hstopped : ∀ device : LinkedDevice cfg σ,
      { device with
        handler := handler
        lastPumpAttemptMs := last }.stopStorageWorker env.storage =
      { device.stopStorageWorker env.storage with
        handler := handler
        lastPumpAttemptMs := last } := by
    intro device
    unfold stopStorageWorker
    dsimp only
    split <;> rfl
  have hflushed : { left with
        handler := handler
        lastPumpAttemptMs := last }.flushDirtyConfig env.configWrite =
      { left.flushDirtyConfig env.configWrite with
        handler := handler
        lastPumpAttemptMs := last } := by
    unfold flushDirtyConfig
    dsimp only
    split <;> rfl
  unfold LinkedDevice.prepareSleep at hleft hright
  dsimp only at hleft hright
  rw [hflushed, hstopped] at hright
  obtain ⟨pending, hpending, rfl⟩ := Option.map_eq_some_iff.mp hleft
  obtain ⟨pending', hpending', rfl⟩ := Option.map_eq_some_iff.mp hright
  dsimp only at hpending'
  rw [hpending] at hpending'
  cases Option.some.inj hpending'
  cases pending with
  | true => exact ⟨_, _, rfl⟩
  | false => exact ⟨_, _, rfl⟩

theorem storageWorker (hsame : SameButTransport left right)
    (env : StorageEnv cfg) :
    SameButTransport (left.storageWorker env) (right.storageWorker env) := by
  obtain ⟨handler, last, rfl⟩ := hsame
  refine ⟨handler, last, ?_⟩
  unfold LinkedDevice.storageWorker
  dsimp only
  split
  · split <;> rfl
  · rfl

variable (timing : TimingConfig) (ota : OtaConfig)
  (lib : UpdateLibrary σ Byte)

theorem updateOta (hsame : SameButTransport left right)
    (env : MessageEnv) :
    SameButTransport (left.updateOta ota lib env)
      (right.updateOta ota lib env) := by
  obtain ⟨handler, last, rfl⟩ := hsame
  obtain ⟨first, hfirst⟩ := updateOta_frame ota lib left env
  obtain ⟨second, hsecond⟩ := updateOta_frame ota lib
    { left with handler := handler, lastPumpAttemptMs := last } env
  rw [hfirst, hsecond]
  exact ⟨_, _, rfl⟩

theorem happen (hsame : SameButTransport left right)
    {event : DeviceEvent cfg σ}
    (hleft : left.happen timing ota lib event = some left')
    (hright : right.happen timing ota lib event = some right') :
    SameButTransport left' right' := by
  have hflag : left.restarting = right.restarting := by
    obtain ⟨handler, last, rfl⟩ := hsame
    rfl
  by_cases hsetup : ∃ env, event = .setup env
  · obtain ⟨env, rfl⟩ := hsetup
    cases Option.some.inj hleft
    cases Option.some.inj hright
    obtain ⟨handler, last, rfl⟩ := hsame
    exact ⟨_, _, rfl⟩
  · have hother : ∀ env, event ≠ .setup env :=
      fun env hevent => hsetup ⟨env, hevent⟩
    cases hrestarting : left.restarting with
    | true =>
        rw [hrestarting] at hflag
        rw [happen_restarting timing ota lib hrestarting hother] at hleft
        rw [happen_restarting timing ota lib hflag.symm hother] at hright
        cases Option.some.inj hleft
        cases Option.some.inj hright
        exact hsame
    | false =>
        rw [hrestarting] at hflag
        unfold LinkedDevice.happen at hleft hright
        rw [hrestarting] at hleft
        rw [← hflag] at hright
        cases event with
        | setup env => exact absurd rfl (hother env)
        | pump => exact hsame.pump hleft hright
        | prepareSleep => exact hsame.prepareSleep hleft hright
        | logDetection =>
            obtain ⟨handler, last, rfl⟩ := hsame
            obtain ⟨logged, hlogged, rfl⟩ :=
              Option.map_eq_some_iff.mp hleft
            obtain ⟨logged', hlogged', rfl⟩ :=
              Option.map_eq_some_iff.mp hright
            cases Option.some.inj (hlogged.symm.trans hlogged')
            exact ⟨handler, last, rfl⟩
        | systemTimeSynced =>
            obtain ⟨handler, last, rfl⟩ := hsame
            obtain ⟨synced, hsynced, rfl⟩ :=
              Option.map_eq_some_iff.mp hleft
            obtain ⟨synced', hsynced', rfl⟩ :=
              Option.map_eq_some_iff.mp hright
            cases Option.some.inj (hsynced.symm.trans hsynced')
            exact ⟨handler, last, rfl⟩
        | storageWorker env =>
            cases Option.some.inj hleft
            cases Option.some.inj hright
            exact hsame.storageWorker env
        | updateOta env =>
            cases Option.some.inj hleft
            cases Option.some.inj hright
            exact hsame.updateOta ota lib env
        | _ =>
            cases Option.some.inj hleft
            cases Option.some.inj hright
            obtain ⟨handler, last, rfl⟩ := hsame
            exact ⟨_, _, rfl⟩

end SameButTransport

/-! ## The peer is contained -/

namespace LinkedDevice

/-- A write that neither raises the counter nor acknowledges a detection. -/
def Harmless (device : LinkedDevice cfg σ) : LinkTurn cfg σ → Prop
  | .device _ => True
  | .write _ data _ => ¬device.Raises data ∧ ¬device.Acknowledges data

/-- The same where it counts, and no `setup`. -/
def Unnoticed (ids marks : Bool) (device : LinkedDevice cfg σ) :
    LinkTurn cfg σ → Prop
  | .device event => ∀ env, event ≠ .setup env
  | .write _ data _ =>
      (ids = true → ¬device.Raises data) ∧
        (marks = true → ¬device.Acknowledges data)

variable (timing : TimingConfig) (ota : OtaConfig)
  (lib : UpdateLibrary σ Byte)

theorem same_services {device seen alone : LinkedDevice cfg σ}
    {turns : List (LinkTurn cfg σ)}
    (hharmless : GuardedAttempt (step timing ota lib) Harmless device turns)
    (hseen : attempt (step timing ota lib) device turns = some seen)
    (halone : attempt (step timing ota lib) device
      (turns.filter LinkTurn.isDevice) = some alone) :
    SameButTransport seen alone := by
  have hboth : ∀ (s t : LinkedDevice cfg σ) turn s' t',
      turn.isDevice = true → s.Harmless turn → SameButTransport s t →
        s.step timing ota lib turn = some s' →
          t.step timing ota lib turn = some t' →
            SameButTransport s' t' := by
    intro s t turn s' t' hdevice _ hsame hs ht
    cases turn with
    | write => cases hdevice
    | device event => exact hsame.happen timing ota lib hs ht
  have hwrite : ∀ (s t : LinkedDevice cfg σ) turn s',
      turn.isDevice = false → s.Harmless turn → SameButTransport s t →
        s.step timing ota lib turn = some s' → SameButTransport s' t := by
    intro s t turn s' hdevice hguard hsame hs
    cases turn with
    | device => cases hdevice
    | write bonded data env =>
        obtain ⟨hraises, hacknowledges⟩ := hguard
        obtain ⟨heffect, hblob⟩ := receive_effect hs
        rcases heffect with honly | ⟨hraised, -⟩ | ⟨hacknowledged, -⟩
        · exact hsame.of_onlyHandler honly hblob
        · exact absurd hraised hraises
        · exact absurd hacknowledged hacknowledges
  have hinit : SameButTransport device device := ⟨_, _, rfl⟩
  exact attempt_filter_related hboth hwrite hinit hharmless hseen halone

theorem same_ring {ids marks : Bool} {device seen alone : LinkedDevice cfg σ}
    {turns : List (LinkTurn cfg σ)}
    (honly : device.history.FlushesOnly)
    (hunnoticed : GuardedAttempt (step timing ota lib)
      (Unnoticed ids marks) device turns)
    (hseen : attempt (step timing ota lib) device turns = some seen)
    (halone : attempt (step timing ota lib) device
      (turns.filter LinkTurn.isDevice) = some alone) :
    SameRing ids marks seen.history alone.history := by
  have hboth : ∀ (s t : LinkedDevice cfg σ) turn s' t',
      turn.isDevice = true → s.Unnoticed ids marks turn →
        SameStore ids marks s t → s.step timing ota lib turn = some s' →
          t.step timing ota lib turn = some t' →
            SameStore ids marks s' t' := by
    intro s t turn s' t' hdevice hguard hsame hs ht
    cases turn with
    | write => cases hdevice
    | device event => exact hsame.happen timing ota lib hguard hs ht
  have hwrite : ∀ (s t : LinkedDevice cfg σ) turn s',
      turn.isDevice = false → s.Unnoticed ids marks turn →
        SameStore ids marks s t → s.step timing ota lib turn = some s' →
          SameStore ids marks s' t := by
    intro s t turn s' hdevice hguard hsame hs
    cases turn with
    | device => cases hdevice
    | write bonded data env =>
        obtain ⟨hids, hmarks⟩ := hguard
        obtain ⟨heffect, -⟩ := receive_effect hs
        refine ⟨?_, ?_, heffect.flushesOnly hsame.leftFlushes,
          hsame.rightFlushes⟩
        · rw [settings_receive ota lib hs, hsame.settings]
        · exact (heffect.sameRing hids hmarks).symm.trans hsame.ring
  have hinit : SameStore ids marks device device :=
    ⟨rfl, .refl ids marks _, honly, honly⟩
  exact (attempt_filter_related hboth hwrite hinit hunnoticed hseen
    halone).ring

/-- What the run with the writes and the run without them have in common at
their ends. -/
structure Contained (device : LinkedDevice cfg σ)
    (turns : List (LinkTurn cfg σ)) (seen alone : LinkedDevice cfg σ) :
    Prop where
  config : seen.config = alone.config
  blob : seen.blob = alone.blob
  update : seen.ota = alone.ota
  harmless : GuardedAttempt (step timing ota lib) Harmless device turns →
    seen.history = alone.history ∧ seen.nvs = alone.nvs
  ring : device.history.FlushesOnly → ∀ ids marks,
    GuardedAttempt (step timing ota lib) (Unnoticed ids marks) device
      turns →
    SameRing ids marks seen.history alone.history

/-- The writes of a peer over a link that is never encrypted change neither
the configuration nor the update.  In the ring they change at most the
identifiers, which takes a HELLO with one above the counter, and the marks,
which takes an ACK for a detection that waits. -/
theorem unencrypted_peer_contained {device seen alone : LinkedDevice cfg σ}
    {turns : List (LinkTurn cfg σ)}
    (hseen : attempt (step timing ota lib) device turns = some seen)
    (halone : attempt (step timing ota lib) device
      (turns.filter LinkTurn.isDevice) = some alone) :
    Contained timing ota lib device turns seen alone := by
  have hsettings := same_settings timing ota lib hseen halone
  refine ⟨congrArg Settings.config hsettings,
    congrArg Settings.blob hsettings, congrArg Settings.ota hsettings,
    ?_, ?_⟩
  · intro hharmless
    obtain ⟨handler, last, rfl⟩ :=
      same_services timing ota lib hharmless hseen halone
    exact ⟨rfl, rfl⟩
  · intro honly ids marks hunnoticed
    exact same_ring timing ota lib honly hunnoticed hseen halone

end LinkedDevice

/-! ## Runs that end -/

/-- The indices are those of slots, and nothing but flushes is queued. -/
structure InRange (service : HistoryService cfg) : Prop where
  head_lt : service.state.head < cfg.bufferSize
  tail_lt : service.state.tail < cfg.bufferSize
  flushes : service.FlushesOnly

namespace InRange

variable {before after : HistoryService cfg}

theorem of_keeps (hrange : InRange before)
    (hkeeps : KeepsStore before after) : InRange after := by
  obtain ⟨hring, honly⟩ := hkeeps hrange.flushes
  refine ⟨?_, ?_, honly⟩
  · rw [hring.state]
    exact hrange.head_lt
  · rw [hring.state]
    exact hrange.tail_lt

theorem of_sameRing {ids marks : Bool} (hrange : InRange before)
    (hsame : SameRing ids marks before after) (honly : after.FlushesOnly) :
    InRange after := by
  refine ⟨?_, ?_, honly⟩
  · rw [← hsame.head]
    exact hrange.head_lt
  · rw [← hsame.tail]
    exact hrange.tail_lt

theorem logDetection (hrange : InRange before) (locked : Bool)
    (clock : ClockMicros) (durationMs : ℕ) :
    ∃ logged, before.logDetection locked clock durationMs = some logged ∧
      InRange logged.1 := by
  by_cases hready : (before.initialized && locked) = true
  · obtain ⟨state, happend, happended⟩ := RTCState.appendEvent_spec
      hrange.head_lt hrange.tail_lt clock durationMs
      before.timeSyncReceivedThisBoot
    have hlog : before.logDetection locked clock durationMs =
        some (before.afterAppend clock state) := by
      unfold HistoryService.logDetection
      rw [if_pos hready, happend]
      rfl
    refine ⟨_, hlog, ?_, ?_, hrange.flushes.logDetection hlog⟩
    · rw [HistoryService.state_afterAppend]
      exact happended.head_lt
    · rw [HistoryService.state_afterAppend]
      exact happended.tail_lt
  · have hlog : before.logDetection locked clock durationMs =
        some (before, ⟨0, none⟩) := by
      unfold HistoryService.logDetection
      rw [if_neg hready]
    exact ⟨_, hlog, hrange⟩

theorem applyTimeSync (hrange : InRange before) (locked : Bool)
    (millis currentEpoch : ℕ) :
    ∃ synced, before.applyTimeSync locked millis currentEpoch =
        some synced ∧ InRange synced.1 := by
  obtain ⟨synced, hsynced, hframe⟩ := HistoryService.applyTimeSync_frame
    hrange.head_lt hrange.tail_lt locked millis currentEpoch
  refine ⟨synced, hsynced, ?_, ?_, hrange.flushes.applyTimeSync hsynced⟩
  · rw [hframe.head]
    exact hrange.head_lt
  · rw [hframe.tail]
    exact hrange.tail_lt

theorem hasPendingData (hrange : InRange before) (locked : Bool) :
    ∃ pending, before.hasPendingData locked = some pending := by
  unfold HistoryService.hasPendingData
  split
  · obtain ⟨buffer, hscan, -⟩ := RTCState.scanLive_eq hrange.head_lt
      hrange.tail_lt always (visitAny fun event => !event.isSynced) false
    rw [hscan]
    exact ⟨_, rfl⟩
  · exact ⟨false, rfl⟩

end InRange

namespace LinkedDevice

theorem pump_ends {device : LinkedDevice cfg σ}
    (hrange : InRange device.history) (locked : Bool) (now : ℕ)
    (link : BleLink) (env : SendEnv) :
    ∃ after, device.pump locked now link env = some after := by
  obtain ⟨event?, hevent⟩ := HistoryService.getNextUnsynced_ends
    hrange.head_lt hrange.tail_lt locked
  unfold pump
  dsimp only
  rw [hevent]
  split_ifs <;> exact ⟨_, rfl⟩

theorem prepareSleep_ends {device : LinkedDevice cfg σ}
    (hrange : InRange device.history) (env : SleepSaveEnv cfg) :
    ∃ after, device.prepareSleep env = some after := by
  have hstopped := keeps_stopStorageWorker
    (device.flushDirtyConfig env.configWrite) env.storage
  rw [history_flushDirtyConfig] at hstopped
  obtain ⟨pending, hpending⟩ :=
    (hrange.of_keeps hstopped).hasPendingData env.locked
  unfold prepareSleep
  dsimp only
  rw [hpending]
  exact ⟨_, rfl⟩

theorem receive_ends (ota : OtaConfig) (lib : UpdateLibrary σ Byte)
    {device : LinkedDevice cfg σ} (hrange : InRange device.history)
    (bonded : Bool) (data : List Byte) (env : MessageEnv) :
    ∃ after, device.receive ota lib ⟨false, bonded⟩ data env =
      some after := by
  have hmarks : ∀ eventId, ∃ marked,
      device.history.markAsSynced env.historyLocked eventId =
        some marked := by
    intro eventId
    obtain ⟨marked, hmarked, -⟩ := HistoryService.markAsSynced_frame
      hrange.head_lt hrange.tail_lt env.historyLocked eventId
    exact ⟨marked, hmarked⟩
  unfold receive
  split
  · exact ⟨device, rfl⟩
  · split
    next haccepted =>
      obtain ⟨r, hreact⟩ := processReceived_ends ota lib
        (handshake_of_accepted haccepted) hmarks
      rw [hreact]
      exact ⟨_, rfl⟩
    · exact ⟨device, rfl⟩

variable (timing : TimingConfig) (ota : OtaConfig)
  (lib : UpdateLibrary σ Byte)

theorem happen_ends {device : LinkedDevice cfg σ}
    (hrange : InRange device.history) {event : DeviceEvent cfg σ}
    (hsetup : ∀ env, event ≠ .setup env) :
    ∃ after, device.happen timing ota lib event = some after ∧
      InRange after.history := by
  cases hrestarting : device.restarting with
  | true =>
      exact ⟨device, happen_restarting timing ota lib hrestarting hsetup,
        hrange⟩
  | false =>
      cases htouches : event.touchesRing with
      | false =>
          have hends : ∃ after,
              device.happen timing ota lib event = some after := by
            unfold happen
            rw [hrestarting]
            cases event with
            | pump => exact pump_ends hrange _ _ _ _
            | prepareSleep => exact prepareSleep_ends hrange _
            | logDetection => cases htouches
            | systemTimeSynced => cases htouches
            | setup => cases htouches
            | _ => exact ⟨_, rfl⟩
          obtain ⟨after, hafter⟩ := hends
          exact ⟨after, hafter, hrange.of_keeps
            (keeps_happen timing ota lib hrestarting htouches hafter)⟩
      | true =>
          unfold happen
          rw [hrestarting]
          cases event with
          | logDetection locked configLocked clock durationMs =>
              obtain ⟨logged, hlogged, hin⟩ :=
                hrange.logDetection locked clock durationMs
              dsimp only
              unfold logDetection
              rw [hlogged]
              exact ⟨_, rfl, hin⟩
          | systemTimeSynced locked millis currentEpoch =>
              obtain ⟨synced, hsynced, hin⟩ :=
                hrange.applyTimeSync locked millis currentEpoch
              dsimp only
              unfold systemTimeSynced
              rw [hsynced]
              exact ⟨_, rfl, hin⟩
          | setup env => exact absurd rfl (hsetup env)
          | _ => cases htouches

/-- Without a `setup` in between, no step touches memory outside the ring. -/
theorem run_ends {device : LinkedDevice cfg σ}
    (hrange : InRange device.history) {turns : List (LinkTurn cfg σ)}
    (hsetup : ∀ turn ∈ turns, ∀ env, turn ≠ .device (.setup env)) :
    ∃ final, attempt (step timing ota lib) device turns = some final := by
  have hstep : ∀ (device : LinkedDevice cfg σ) turn,
      InRange device.history → (∀ env, turn ≠ .device (.setup env)) →
        ∃ after, device.step timing ota lib turn = some after ∧
          InRange after.history := by
    intro device turn hrange hother
    cases turn with
    | device event =>
        apply happen_ends timing ota lib hrange
        intro env hevent
        exact hother env (congrArg LinkTurn.device hevent)
    | write bonded data env =>
        obtain ⟨after, hafter⟩ :=
          receive_ends ota lib hrange bonded data env
        obtain ⟨heffect, -⟩ := receive_effect hafter
        have hsame : SameRing false false device.history after.history :=
          heffect.sameRing nofun nofun
        exact ⟨after, hafter, hrange.of_sameRing hsame
          (heffect.flushesOnly hrange.flushes)⟩
  have hguard : GuardedAttempt (step timing ota lib)
      (fun _ turn => ∀ env, turn ≠ .device (.setup env)) device turns :=
    guardedAttempt_of_forall_mem hsetup device
  obtain ⟨final, hfinal, -⟩ := invariant_attempt hstep hrange hguard
  exact ⟨final, hfinal⟩

end LinkedDevice

/-! ## A peer that speaks before it is paired -/

def linkedSetUp : LinkedDevice .fourSlots (UpdateLibrary.WornFlash Byte) where
  toProtocolDevice := .setUp .fourSlots default
  blob := none
  lastPumpAttemptMs := 0

def peerStep : LinkedDevice .fourSlots (UpdateLibrary.WornFlash Byte) →
    LinkTurn .fourSlots (UpdateLibrary.WornFlash Byte) →
      Option (LinkedDevice .fourSlots (UpdateLibrary.WornFlash Byte)) :=
  LinkedDevice.step Delivery.benchTiming Ota.benchOta
    (UpdateLibrary.wornFlash Byte)

/-- A detection is logged and delivered; the peer acknowledges it and says
HELLO with the identifier 1000. -/
def peerTurns : List (LinkTurn .fourSlots (UpdateLibrary.WornFlash Byte)) :=
  [.device (.connect true 100), .device (.logDetection true true 0 0),
    .device (.pump true 1000 ⟨true, true⟩ .good),
    .write false ((buildFrame .ack (be16Bytes 0) 0).getD []) .good,
    .write false ((buildFrame .hello (0 :: be32Bytes 1000) 1).getD []) .good,
    .device (.logDetection true true 0 0)]

/-- The counter, and the identifier and the mark of each live event. -/
def LinkedDevice.ringReport (device : LinkedDevice cfg σ) :
    ℕ × List (ℕ × Bool) :=
  (device.history.state.globalEventId,
    device.history.state.ringWindow.map fun event =>
      (event.id, event.isSynced))

theorem unpaired_peer_contained :
    ∃ seen alone, attempt peerStep linkedSetUp peerTurns = some seen ∧
      attempt peerStep linkedSetUp (peerTurns.filter LinkTurn.isDevice) =
        some alone ∧
      LinkedDevice.Contained Delivery.benchTiming Ota.benchOta
        (UpdateLibrary.wornFlash Byte) linkedSetUp peerTurns seen alone := by
  have hboth : (attempt peerStep linkedSetUp peerTurns).isSome = true ∧
      (attempt peerStep linkedSetUp
        (peerTurns.filter LinkTurn.isDevice)).isSome = true := by
    decide +kernel
  obtain ⟨seen, hseen⟩ := Option.isSome_iff_exists.mp hboth.1
  obtain ⟨alone, halone⟩ := Option.isSome_iff_exists.mp hboth.2
  exact ⟨seen, alone, hseen, halone, LinkedDevice.unencrypted_peer_contained
    Delivery.benchTiming Ota.benchOta (UpdateLibrary.wornFlash Byte) hseen
    halone⟩

/-- The first event is marked, and the second has another identifier. -/
theorem unpaired_peer_marks_and_raises :
    (attempt peerStep linkedSetUp peerTurns).map LinkedDevice.ringReport =
        some (1001, [(1, true), (1001, false)]) ∧
      (attempt peerStep linkedSetUp
          (peerTurns.filter LinkTurn.isDevice)).map LinkedDevice.ringReport =
        some (2, [(1, false), (2, false)]) := by
  decide +kernel

end SensorFirmware
