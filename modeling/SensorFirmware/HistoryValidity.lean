import SensorFirmware.HistoryPersistence

/-!
# Operations leave a valid record

Between two operations the RTC record passes `validateState` and its indices
are in range, so that a wake from deep sleep goes on with it as it is.
-/

namespace SensorFirmware

open CyclicBuffer

variable {cfg : HistoryConfig}

/-- A running service over a record that `init` would accept. -/
structure HistoryService.Sound (service : HistoryService cfg) : Prop where
  initialized : service.initialized = true
  head_lt : service.state.head < cfg.bufferSize
  tail_lt : service.state.tail < cfg.bufferSize
  valid : service.state.validateState = true

namespace RTCState

theorem valid_iff (state : RTCState cfg) :
    state.validateState = true ↔
      state.magicNumber = cfg.rtcMagicNumber ∧
        state.calculateBufferCRC = state.crc32 := by
  simp [validateState]

theorem scanLive_unchanged {σ : Type} {state : RTCState cfg}
    (hhead : state.head < cfg.bufferSize)
    (htail : state.tail < cfg.bufferSize) {more : σ → Bool}
    {visit : σ → DetectionEvent → Visit σ DetectionEvent} {acc : σ}
    (hsame : (scanList more visit state.ringWindow acc).1 =
      state.ringWindow) :
    state.scanLive more visit acc = some (state.buffer,
      (scanList more visit state.ringWindow acc).2) :=
  scan_unchanged hhead htail hsame

end RTCState

namespace HistoryService

theorem Sound.of_sameIndices {service after : HistoryService cfg}
    (hsound : service.Sound) (hsame : SameIndices service after)
    (hvalid : after.state.validateState = true) : after.Sound := by
  constructor
  · exact hsame.initialized.trans hsound.initialized
  · exact hsame.head ▸ hsound.head_lt
  · exact hsame.tail ▸ hsound.tail_lt
  · exact hvalid

theorem Sound.of_state {service after : HistoryService cfg}
    (hsound : service.Sound)
    (hinitialized : after.initialized = service.initialized)
    (hstate : after.state = service.state) : after.Sound := by
  constructor
  · exact hinitialized.trans hsound.initialized
  · exact hstate ▸ hsound.head_lt
  · exact hstate ▸ hsound.tail_lt
  · exact hstate ▸ hsound.valid

theorem Sound.logDetection {service : HistoryService cfg}
    (hsound : service.Sound) (clock : ClockMicros) (durationMs : ℕ) :
    ∃ state,
      service.logDetection true clock durationMs =
          some (service.afterAppend clock state) ∧
        service.state.Appended state clock durationMs ∧
        (service.afterAppend clock state).1.Sound := by
  obtain ⟨state, hsome, happend⟩ :=
    RTCState.appendEvent_spec hsound.head_lt hsound.tail_lt clock
      durationMs service.timeSyncReceivedThisBoot
  refine ⟨state, ?_, happend, ?_⟩
  · simp [HistoryService.logDetection, hsound.initialized, hsome]
  · have hmagic := ((RTCState.valid_iff _).mp hsound.valid).1
    constructor
    · simpa using hsound.initialized
    · simpa using happend.head_lt
    · simpa using happend.tail_lt
    · rw [state_afterAppend, RTCState.valid_iff]
      exact ⟨happend.magicNumber.trans hmagic, happend.crc32.symm⟩

/-- The checksum is renewed when the flag tells of a change, so the flag must
tell of every change. -/
theorem valid_withBuffer {service : HistoryService cfg}
    (hvalid : service.state.validateState = true)
    {buffer : Vector DetectionEvent cfg.bufferSize} {changed : Bool}
    (hkept : changed = false → buffer = service.state.buffer) :
    (service.withBuffer buffer changed).state.validateState = true := by
  cases changed with
  | false =>
      rw [hkept rfl]
      exact hvalid
  | true =>
      have hmagic := ((RTCState.valid_iff _).mp hvalid).1
      rw [RTCState.valid_iff]
      exact ⟨hmagic, rfl⟩

theorem state_afterBackfill (service : HistoryService cfg)
    (buffer : Vector DetectionEvent cfg.bufferSize) (updatedCount : ℕ) :
    (service.afterBackfill buffer updatedCount).state =
      (service.withBuffer buffer (decide (0 < updatedCount))).state := by
  unfold afterBackfill
  dsimp only
  split
  · exact state_queueFlush _ 0
  · rfl

theorem valid_afterBackfill {service : HistoryService cfg}
    (hvalid : service.state.validateState = true)
    {buffer : Vector DetectionEvent cfg.bufferSize} {updatedCount : ℕ}
    (hnone : updatedCount = 0 → buffer = service.state.buffer) :
    (service.afterBackfill buffer updatedCount).state.validateState =
      true := by
  rw [state_afterBackfill]
  apply valid_withBuffer hvalid
  intro hzero
  apply hnone
  simpa using hzero

/-- The number of backfilled events; the live events are too few for the
counter to wrap. -/
theorem count_visitBackfill {state : RTCState cfg}
    (hhead : state.head < cfg.bufferSize)
    (htail : state.tail < cfg.bufferSize) (currentEpoch currentUptime : ℕ) :
    (scanList always
        (visitBackfill state.bootCount currentEpoch currentUptime)
        state.ringWindow 0).2 =
      (state.ringWindow.filter (needsBackfill state.bootCount)).length := by
  have hlive : state.ringWindow.length =
      used cfg.bufferSize state.tail state.head :=
    length_window state.buffer htail
  have hused := used_lt htail hhead
  have hsize := cfg.bufferSize_lt
  have hfilter := List.length_filter_le (needsBackfill state.bootCount)
    state.ringWindow
  have hroom : 0 + (state.ringWindow.filter
      (needsBackfill state.bootCount)).length < 2 ^ 32 := by
    omega
  unfold visitBackfill
  rw [scanList_everyMatch]
  exact (foldl_count _ hroom).trans (Nat.zero_add _)

theorem Sound.applyTimeSync {service : HistoryService cfg}
    (hsound : service.Sound) (locked : Bool) (millis currentEpoch : ℕ) :
    ∃ after,
      service.applyTimeSync locked millis currentEpoch =
          some (after, some (syncedClock currentEpoch millis)) ∧
        after.Sound := by
  cases locked with
  | false =>
      refine ⟨{ service with timeSyncReceivedThisBoot := true }, ?_,
        ⟨hsound.initialized, hsound.head_lt, hsound.tail_lt, hsound.valid⟩⟩
      simp [HistoryService.applyTimeSync, hsound.initialized]
  | true =>
      generalize huptime :
        getSystemUptime (syncedClock currentEpoch millis) = currentUptime
      obtain ⟨buffer, hscan, _⟩ :=
        RTCState.scanLive_eq hsound.head_lt hsound.tail_lt always
          (visitBackfill service.state.bootCount currentEpoch
            currentUptime) 0
      rw [count_visitBackfill hsound.head_lt hsound.tail_lt] at hscan
      -- a count of zero means that no live event was rewritten
      have hnone : (service.state.ringWindow.filter
            (needsBackfill service.state.bootCount)).length = 0 →
          buffer = service.state.buffer := by
        intro hzero
        have hnomatch : ∀ event ∈ service.state.ringWindow,
            needsBackfill service.state.bootCount event = false := by
          simpa using List.eq_nil_of_length_eq_zero hzero
        have hsame : (scanList always
            (visitBackfill service.state.bootCount currentEpoch
              currentUptime) service.state.ringWindow 0).1 =
              service.state.ringWindow := by
          unfold visitBackfill
          rw [scanList_everyMatch]
          exact map_eq_self_of_no_match _ _ hnomatch
        have hkept :=
          RTCState.scanLive_unchanged hsound.head_lt hsound.tail_lt hsame
        rw [hscan] at hkept
        exact (Prod.mk.inj (Option.some.inj hkept)).1
      have hframe := sameIndices_afterBackfill
        { service with timeSyncReceivedThisBoot := true } buffer
          (service.state.ringWindow.filter
            (needsBackfill service.state.bootCount)).length
      have hafter : ({ service with
          timeSyncReceivedThisBoot := true }.afterBackfill buffer
            (service.state.ringWindow.filter
              (needsBackfill service.state.bootCount)).length).Sound := by
        have hstart : ({ service with timeSyncReceivedThisBoot := true } :
            HistoryService cfg).Sound :=
          hsound.of_state rfl rfl
        exact hstart.of_sameIndices hframe
          (valid_afterBackfill hstart.valid hnone)
      refine ⟨_, ?_, hafter⟩
      simp [HistoryService.applyTimeSync, hsound.initialized, huptime,
        hscan]

/-! ## Marking -/

theorem Sound.markAsSynced {service : HistoryService cfg}
    (hsound : service.Sound) (locked : Bool) (eventId : ℕ) :
    ∃ result, service.markAsSynced locked eventId = some result ∧
      result.1.Sound := by
  obtain ⟨result, hmark, hsame⟩ :=
    markAsSynced_frame hsound.head_lt hsound.tail_lt locked eventId
  refine ⟨result, hmark, hsound.of_sameIndices hsame ?_⟩
  rcases markAsSynced_cases hmark with ⟨buffer, found, hscan, rfl⟩ | rfl
  · apply valid_withBuffer hsound.valid
    rintro rfl
    rcases scanList_firstMatch_cases (fun event => event.id == eventId)
        (fun _ _ => true) DetectionEvent.setSynced service.state.ringWindow
        false with hnone | ⟨event, -, -, hfound, -⟩
    · have hsame : (scanList always (visitMarkSynced eventId)
          service.state.ringWindow false).1 = service.state.ringWindow :=
        congrArg Prod.fst hnone
      have hkept := RTCState.scanLive_unchanged hsound.head_lt
        hsound.tail_lt hsame
      rw [hscan] at hkept
      exact (Prod.mk.inj (Option.some.inj hkept)).1
    · -- a match would have been reported
      obtain ⟨other, hother, -⟩ := RTCState.scanLive_eq hsound.head_lt
        hsound.tail_lt always (visitMarkSynced eventId) false
      rw [hscan] at hother
      have hnotFound := (Prod.mk.inj (Option.some.inj hother)).2
      unfold visitMarkSynced at hnotFound
      rw [hfound] at hnotFound
      cases hnotFound
  · exact hsound.valid

/-- One turn of the outer loop changes nothing, or counts. -/
theorem markCounting_cases {head tail : ℕ} (hhead : head < cfg.bufferSize)
    (htail : tail < cfg.bufferSize) (eventId : ℕ)
    (buffer : Vector DetectionEvent cfg.bufferSize) (markedCount : ℕ) :
    ∃ result, scan always (visitMarkCounting eventId) head cfg.bufferSize
        tail buffer markedCount = some result ∧
      (result = (buffer, markedCount) ∨
        result.2 = u8 (markedCount + 1)) := by
  rcases scanList_firstMatch_cases (fun event => event.id == eventId)
      (fun markedCount event =>
        if !event.isSynced then u8 (markedCount + 1) else markedCount)
      (fun event => if !event.isSynced then event.setSynced else event)
      (window buffer tail head) markedCount with
    hnone | ⟨event, -, -, hcount, hfix⟩
  · have hsame : (scanList always (visitMarkCounting eventId)
        (window buffer tail head) markedCount).1 = window buffer tail head :=
      congrArg Prod.fst hnone
    refine ⟨_, scan_unchanged hhead htail hsame, .inl ?_⟩
    rw [visitMarkCounting, hnone]
  · cases hsynced : event.isSynced with
    | true =>
        -- an event that is synced already is left as it is
        simp only [hsynced, Bool.not_true, Bool.false_eq_true, if_false,
          forall_const] at hcount hfix
        have hsame : (scanList always (visitMarkCounting eventId)
            (window buffer tail head) markedCount).1 =
              window buffer tail head :=
          hfix
        refine ⟨_, scan_unchanged hhead htail hsame, .inl ?_⟩
        rw [visitMarkCounting, hcount]
    | false =>
        simp only [hsynced, Bool.not_false, if_true] at hcount
        obtain ⟨buffer', hscan, -⟩ := scan_eq always
          (visitMarkCounting eventId) hhead htail (used_lt htail hhead).le
          buffer markedCount
        exact ⟨_, hscan, .inr hcount⟩

/-- A batch is too short for its count to wrap, so a count of zero means that
nothing was marked. -/
theorem markEach_kept {head tail : ℕ} (hhead : head < cfg.bufferSize)
    (htail : tail < cfg.bufferSize) {eventIds : List ℕ}
    {buffer : Vector DetectionEvent cfg.bufferSize} {markedCount : ℕ}
    (hroom : markedCount + eventIds.length < 2 ^ 8)
    {result : Vector DetectionEvent cfg.bufferSize × ℕ}
    (hmark : markEach head tail eventIds buffer markedCount =
      some result) :
    markedCount ≤ result.2 ∧
      (result.2 = markedCount → result.1 = buffer) := by
  induction eventIds generalizing buffer markedCount with
  | nil =>
      cases Option.some.inj hmark
      exact ⟨le_rfl, fun _ => rfl⟩
  | cons eventId rest ih =>
      rw [List.length_cons] at hroom
      obtain ⟨turn, hturn, hcases⟩ :=
        markCounting_cases hhead htail eventId buffer markedCount
      rw [markEach, hturn] at hmark
      rcases hcases with rfl | hcount
      · exact ih (by omega) hmark
      · have hmarked : turn.2 = markedCount + 1 := by
          rw [hcount]
          exact Nat.mod_eq_of_lt (by omega)
        obtain ⟨hle, -⟩ := ih (by omega) hmark
        refine ⟨by omega, ?_⟩
        intro hsame
        omega

theorem Sound.markMultipleAsSynced {service : HistoryService cfg}
    (hsound : service.Sound) (locked : Bool) (batch : EventIdBatch) :
    ∃ result, service.markMultipleAsSynced locked batch = some result ∧
      result.1.Sound := by
  obtain ⟨result, hmark, hsame⟩ :=
    markMultipleAsSynced_frame hsound.head_lt hsound.tail_lt locked batch
  refine ⟨result, hmark, hsound.of_sameIndices hsame ?_⟩
  unfold HistoryService.markMultipleAsSynced at hmark
  split at hmark
  · obtain ⟨⟨buffer, markedCount⟩, heach, rfl⟩ :=
      Option.map_eq_some_iff.mp hmark
    have hroom := batch.length_lt
    obtain ⟨-, hkept⟩ := markEach_kept hsound.head_lt hsound.tail_lt
      (by omega) heach
    apply valid_withBuffer hsound.valid
    intro hnone
    apply hkept
    simpa using hnone
  · cases Option.some.inj hmark
    exact hsound.valid

/-! ## Counter, contents and the other tasks -/

theorem Sound.clear {service : HistoryService cfg} (hsound : service.Sound)
    (locked : Bool) : (service.clear locked).Sound := by
  cases locked with
  | false => exact hsound
  | true =>
      have hmagic := ((RTCState.valid_iff _).mp hsound.valid).1
      exact ⟨hsound.initialized, cfg.bufferSize_pos, cfg.bufferSize_pos,
        RTCState.validateState_updateCRC hmagic⟩

theorem Sound.fastForwardEventId {service : HistoryService cfg}
    (hsound : service.Sound) (locked : Bool) (newId : ℕ) :
    (service.fastForwardEventId locked newId).1.Sound := by
  have hmagic := ((RTCState.valid_iff _).mp hsound.valid).1
  have hraised : (service.raiseEventId newId).Sound :=
    ⟨hsound.initialized, hsound.head_lt, hsound.tail_lt,
      RTCState.validateState_updateCRC hmagic⟩
  unfold HistoryService.fastForwardEventId
  split
  · dsimp only
    split
    · exact hraised.of_state (initialized_queueStorageCommand _ _ _)
        (state_queueStorageCommand _ _ _)
    · exact hraised
  · exact hsound

theorem Sound.flushToNvs {service : HistoryService cfg}
    (hsound : service.Sound) (nvs : HistoryNvs cfg) (env : FlushEnv) :
    (service.flushToNvs nvs env).1.Sound :=
  hsound.of_state (service.initialized_flushToNvs nvs env)
    (service.state_flushToNvs nvs env)

/-! ## Waking up -/

/-- `init` finds nothing to complain about and goes on with the record as it
is. -/
theorem Sound.warmBoot {service : HistoryService cfg}
    (hsound : service.Sound) {env : BootEnv cfg}
    (hwarm : env.isColdBoot service.state = false) :
    (boot service.state env).state = service.state ∧
      (boot service.state env).Sound := by
  have hcrc := ((RTCState.valid_iff _).mp hsound.valid).2
  have hstate : (boot service.state env).state = service.state := by
    have hkept : env.isColdBoot (construct service.state).state = false :=
      hwarm
    unfold boot
    rw [state_init_of_warm hkept hsound.valid]
    unfold RTCState.updateCRC construct
    dsimp only
    rw [hcrc]
  refine ⟨hstate, ?_⟩
  constructor
  · exact initialized_init _ _
  · rw [hstate]
    exact hsound.head_lt
  · rw [hstate]
    exact hsound.tail_lt
  · rw [hstate]
    exact hsound.valid

theorem Sound.isColdBoot_deepSleep {service : HistoryService cfg}
    (hsound : service.Sound) {env : BootEnv cfg}
    (hreason : env.resetReason = .deepSleep) :
    env.isColdBoot service.state = false := by
  have hmagic := ((RTCState.valid_iff _).mp hsound.valid).1
  simp [BootEnv.isColdBoot, hreason, hmagic]

/-- A wake from deep sleep goes on with the record as it is. -/
theorem Sound.wake {service : HistoryService cfg} (hsound : service.Sound)
    {env : BootEnv cfg} (hreason : env.resetReason = .deepSleep) :
    (boot service.state env).state = service.state ∧
      (boot service.state env).Sound :=
  hsound.warmBoot (hsound.isColdBoot_deepSleep hreason)

end HistoryService

end SensorFirmware
