import SensorFirmware.GuardedRun
import SensorFirmware.HistoryPersistence

/-!
# Event identifiers across power loss

A session is the service together with its flash backup.  Ghost fields keep
what the last complete flush recorded, what had been recorded at each power-up
so far, and the identifiers assigned since the last one.  A cold boot continues
from the backup only when the narrowed event count is not zero, so the guard
asks for that.
-/

namespace SensorFirmware

open GuardedRun

variable {cfg : HistoryConfig}

structure BootSession (cfg : HistoryConfig) where
  service : HistoryService cfg
  nvs : HistoryNvs cfg
  recorded : Option (FlushSnapshot cfg)
  atBoots : List (FlushSnapshot cfg)
  assigned : List ℕ

/-- A flush step is one that reaches its puts and stores every key. -/
inductive BootStep (cfg : HistoryConfig) where
  | logDetection (locked : Bool) (clock : ClockMicros) (durationMs : ℕ)
  | markAsSynced (locked : Bool) (eventId : ℕ)
  | markMultipleAsSynced (locked : Bool) (batch : EventIdBatch)
  | applyTimeSync (locked : Bool) (millis currentEpoch : ℕ)
  | fastForwardEventId (locked : Bool) (newId : ℕ)
  | flushToNvs (outcomes : PutOutcomes) (complete : outcomes.complete = true)
  | coldBoot (brownout : Bool) (rtc : RTCState cfg)
      (stack : Vector DetectionEvent cfg.bufferSize) (taskOk : Bool)

namespace BootSession

/-- Power is lost: the RTC region holds anything. -/
def coldBoot (session : BootSession cfg) (brownout : Bool)
    (rtc : RTCState cfg) (stack : Vector DetectionEvent cfg.bufferSize)
    (taskOk : Bool) : BootSession cfg :=
  { session with
    service := HistoryService.boot rtc
      { resetReason := if brownout then .brownout else .powerOn
        nvs := session.nvs
        stack := stack
        locked := true
        taskOk := taskOk }
    atBoots := session.recorded.toList ++ session.atBoots
    assigned := [] }

/-- The first power-up, with nothing in flash. -/
def firstBoot (rtc : RTCState cfg)
    (stack : Vector DetectionEvent cfg.bufferSize) (taskOk : Bool) :
    BootSession cfg :=
  coldBoot
    { service := HistoryService.construct rtc
      nvs := .empty cfg
      recorded := none
      atBoots := []
      assigned := [] } false rtc stack taskOk

def step (session : BootSession cfg) :
    BootStep cfg → Option (BootSession cfg)
  | .logDetection locked clock durationMs =>
      (session.service.logDetection locked clock durationMs).map
        fun (service, result) =>
          { session with
            service := service
            assigned := if locked then result.eventId :: session.assigned
              else session.assigned }
  | .markAsSynced locked eventId =>
      (session.service.markAsSynced locked eventId).map
        fun (service, _) => { session with service := service }
  | .markMultipleAsSynced locked batch =>
      (session.service.markMultipleAsSynced locked batch).map
        fun (service, _) => { session with service := service }
  | .applyTimeSync locked millis currentEpoch =>
      (session.service.applyTimeSync locked millis currentEpoch).map
        fun (service, _) => { session with service := service }
  | .fastForwardEventId locked newId =>
      some { session with
        service := (session.service.fastForwardEventId locked newId).1 }
  | .flushToNvs outcomes _ =>
      let flushed := session.service.flushToNvs session.nvs
        { FlushEnv.good with outcomes := outcomes }
      some { session with
        service := flushed.1
        nvs := flushed.2.1
        recorded := some session.service.state.snapshot }
  | .coldBoot brownout rtc stack taskOk =>
      some (session.coldBoot brownout rtc stack taskOk)

/-- The boot count, and the identifiers assigned since the last power-up, are
above those that had been recorded at any power-up. -/
def AboveBackup (session : BootSession cfg) : Prop :=
  ∀ snapshot ∈ session.atBoots,
    snapshot.bootCount < session.service.state.bootCount ∧
      ∀ id ∈ session.assigned, snapshot.eventId < id

/-- The 32-bit counters do not wrap, and no power-up finds a backup whose
number of events is a multiple of 256. -/
def BackupSeen (session : BootSession cfg) : BootStep cfg → Prop
  | .logDetection locked _ _ =>
      locked = true → session.service.state.globalEventId + 1 < 2 ^ 32
  | .coldBoot _ _ _ _ =>
      ∀ snapshot ∈ session.recorded,
        snapshot.ringWindow.length % 256 ≠ 0 ∧
          snapshot.bootCount + 1 < 2 ^ 32
  | _ => True

/-- The backup in flash is the one recorded last, and the ring has not fallen
behind the one found at power-up. -/
structure Continued (session : BootSession cfg) : Prop where
  initialized : session.service.initialized = true
  head_lt : session.service.state.head < cfg.bufferSize
  tail_lt : session.service.state.tail < cfg.bufferSize
  nvs : session.nvs = session.recorded.elim (.empty cfg) .ofSnapshot
  recorded_lt : ∀ snapshot ∈ session.recorded,
    snapshot.head < cfg.bufferSize ∧ snapshot.tail < cfg.bufferSize
  above : session.AboveBackup
  counter_le : ∀ snapshot ∈ session.atBoots,
    snapshot.eventId ≤ session.service.state.globalEventId
  recorded_le : ∀ snapshot ∈ session.atBoots,
    ∃ last ∈ session.recorded, snapshot.eventId ≤ last.eventId ∧
      snapshot.bootCount ≤ last.bootCount

/-! ## Powering up -/

theorem state_coldBoot (session : BootSession cfg) (brownout : Bool)
    (rtc : RTCState cfg) (stack : Vector DetectionEvent cfg.bufferSize)
    (taskOk : Bool) :
    (session.coldBoot brownout rtc stack taskOk).service.state =
      ((HistoryService.construct rtc).restoreOrReset
        { resetReason := if brownout then .brownout else .powerOn
          nvs := session.nvs
          stack := stack
          locked := true
          taskOk := taskOk }).state.updateCRC := by
  unfold coldBoot HistoryService.boot
  rw [HistoryService.state_init, if_pos]
  cases brownout <;> simp [BootEnv.isColdBoot]

theorem coldBoot_without_backup {session : BootSession cfg}
    (hnvs : session.nvs = .empty cfg) (hnone : session.recorded = none)
    (hfirst : session.atBoots = []) (brownout : Bool) (rtc : RTCState cfg)
    (stack : Vector DetectionEvent cfg.bufferSize) (taskOk : Bool) :
    (session.coldBoot brownout rtc stack taskOk).Continued := by
  have hstate :
      (session.coldBoot brownout rtc stack taskOk).service.state =
        RTCState.updateCRC
          { RTCState.resetState cfg with bootCount := 1 } := by
    rw [state_coldBoot, hnvs]
    rfl
  have hbase : (RTCState.resetState cfg).Safe := RTCState.safe_resetState
  constructor
  · simp [coldBoot, HistoryService.boot]
  · rw [hstate]
    exact hbase.head_lt
  · rw [hstate]
    exact hbase.tail_lt
  · simp [coldBoot, hnvs, hnone]
  · simp [coldBoot, hnone]
  · simp [AboveBackup, coldBoot, hnone, hfirst]
  · simp [coldBoot, hnone, hfirst]
  · simp [coldBoot, hnone, hfirst]

theorem coldBoot_with_backup {session : BootSession cfg}
    {snapshot : FlushSnapshot cfg}
    (hnvs : session.nvs = .ofSnapshot snapshot)
    (hsome : session.recorded = some snapshot)
    (hhead : snapshot.head < cfg.bufferSize)
    (htail : snapshot.tail < cfg.bufferSize)
    (hcount : snapshot.ringWindow.length % 256 ≠ 0)
    (hboot : snapshot.bootCount + 1 < 2 ^ 32)
    (hle : ∀ earlier ∈ session.atBoots,
      earlier.eventId ≤ snapshot.eventId ∧
        earlier.bootCount ≤ snapshot.bootCount)
    (brownout : Bool) (rtc : RTCState cfg)
    (stack : Vector DetectionEvent cfg.bufferSize) (taskOk : Bool) :
    (session.coldBoot brownout rtc stack taskOk).Continued := by
  have hevents : (HistoryService.restoredState snapshot).getEventCount =
      snapshot.ringWindow.length :=
    RTCState.getEventCount_eq hhead htail
  have hfound : 0 < u8 (HistoryService.restoredState
      snapshot).getEventCount := by
    rw [hevents]
    unfold u8
    omega
  have hstate :
      (session.coldBoot brownout rtc stack taskOk).service.state =
        RTCState.updateCRC { HistoryService.restoredState snapshot with
          bootCount := u32 (snapshot.bootCount + 1) } := by
    rw [state_coldBoot, hnvs]
    unfold HistoryService.restoreOrReset
    rw [if_pos]
    · rfl
    · exact hfound
  have hall : ∀ earlier ∈
      (session.coldBoot brownout rtc stack taskOk).atBoots,
      earlier.eventId ≤ snapshot.eventId ∧
        earlier.bootCount ≤ snapshot.bootCount := by
    intro earlier hmem
    have hcases : earlier = snapshot ∨ earlier ∈ session.atBoots := by
      simpa [coldBoot, hsome] using hmem
    rcases hcases with rfl | hold
    · exact ⟨le_rfl, le_rfl⟩
    · exact hle earlier hold
  constructor
  · simp [coldBoot, HistoryService.boot]
  · rw [hstate]
    exact hhead
  · rw [hstate]
    exact htail
  · simp [coldBoot, hnvs, hsome]
  · intro other hother
    have heq : snapshot = other := by
      simpa [coldBoot, hsome] using hother
    exact heq ▸ ⟨hhead, htail⟩
  · intro other hother
    refine ⟨?_, by simp [coldBoot]⟩
    rw [hstate, RTCState.bootCount_updateCRC, u32_of_lt hboot]
    exact Nat.lt_succ_of_le (hall other hother).2
  · intro other hother
    rw [hstate]
    exact (hall other hother).1
  · intro other hother
    exact ⟨snapshot, hsome, hall other hother⟩

/-! ## Steps and runs -/

theorem Continued.of_sameIndices {session : BootSession cfg}
    (hcont : session.Continued) {service : HistoryService cfg}
    (hsame : HistoryService.SameIndices session.service service) :
    ({ session with service := service } : BootSession cfg).Continued := by
  constructor
  · exact hsame.initialized.trans hcont.initialized
  · exact hsame.head ▸ hcont.head_lt
  · exact hsame.tail ▸ hcont.tail_lt
  · exact hcont.nvs
  · exact hcont.recorded_lt
  · intro snapshot hboot
    have habove := hcont.above snapshot hboot
    exact ⟨by simpa only [hsame.bootCount] using habove.1, habove.2⟩
  · intro snapshot hboot
    simpa only [hsame.counter] using hcont.counter_le snapshot hboot
  · exact hcont.recorded_le

theorem Continued.logDetection {session : BootSession cfg}
    (hcont : session.Continued) (locked : Bool) (clock : ClockMicros)
    (durationMs : ℕ)
    (hwrap : locked = true →
      session.service.state.globalEventId + 1 < 2 ^ 32) :
    ∃ after, session.step (.logDetection locked clock durationMs) =
      some after ∧ after.Continued := by
  cases locked with
  | false =>
      refine ⟨session, ?_, hcont⟩
      simp [step, HistoryService.logDetection]
  | true =>
      obtain ⟨state, hsome, happend⟩ :=
        RTCState.appendEvent_spec hcont.head_lt hcont.tail_lt clock
          durationMs session.service.timeSyncReceivedThisBoot
      have hid : state.globalEventId =
          session.service.state.globalEventId + 1 :=
        happend.counter.trans (u32_of_lt (hwrap rfl))
      refine ⟨{ session with
        service := (session.service.afterAppend clock state).1
        assigned := state.globalEventId :: session.assigned }, ?_, ?_⟩
      · simp [step, HistoryService.logDetection, hcont.initialized, hsome,
          HistoryService.afterAppend]
      · constructor
        · simpa using hcont.initialized
        · simpa using happend.head_lt
        · simpa using happend.tail_lt
        · exact hcont.nvs
        · exact hcont.recorded_lt
        · intro snapshot hboot
          have habove := hcont.above snapshot hboot
          have hcounter := hcont.counter_le snapshot hboot
          refine ⟨?_, ?_⟩
          · simpa [happend.bootCount] using habove.1
          · intro id hmem
            rcases List.mem_cons.mp hmem with hnew | hold
            · omega
            · exact habove.2 id hold
        · intro snapshot hboot
          have hcounter := hcont.counter_le snapshot hboot
          simp only [HistoryService.state_afterAppend]
          omega
        · exact hcont.recorded_le

theorem Continued.flushToNvs {session : BootSession cfg}
    (hcont : session.Continued) (outcomes : PutOutcomes)
    (hcomplete : outcomes.complete = true) :
    ∃ after, session.step (.flushToNvs outcomes hcomplete) = some after ∧
      after.Continued := by
  have hgood : session.service.flushToNvs session.nvs
        { FlushEnv.good with outcomes := outcomes } =
      ({ session.service with
          lastNvsFlushId := session.service.state.globalEventId
          eventsSinceFlush := 0 },
        .ofSnapshot session.service.state.snapshot,
        outcomes.returned) := by
    simp [HistoryService.flushToNvs, hcont.initialized, FlushEnv.good,
      HistoryService.applyPuts_of_complete hcomplete]
  refine ⟨_, rfl, ?_⟩
  rw [hgood]
  constructor
  · exact hcont.initialized
  · exact hcont.head_lt
  · exact hcont.tail_lt
  · rfl
  · intro snapshot hsnapshot
    have heq : session.service.state.snapshot = snapshot := by
      simpa using hsnapshot
    exact heq ▸ ⟨hcont.head_lt, hcont.tail_lt⟩
  · exact hcont.above
  · exact hcont.counter_le
  · intro snapshot hsnapshot
    exact ⟨_, rfl, hcont.counter_le snapshot hsnapshot,
      (hcont.above snapshot hsnapshot).1.le⟩

theorem Continued.coldBoot {session : BootSession cfg}
    (hcont : session.Continued) (brownout : Bool) (rtc : RTCState cfg)
    (stack : Vector DetectionEvent cfg.bufferSize) (taskOk : Bool)
    (hseen : ∀ snapshot ∈ session.recorded,
      snapshot.ringWindow.length % 256 ≠ 0 ∧
        snapshot.bootCount + 1 < 2 ^ 32) :
    (session.coldBoot brownout rtc stack taskOk).Continued := by
  have hnvs := hcont.nvs
  have hearlier := hcont.recorded_le
  cases hrecorded : session.recorded with
  | none =>
      rw [hrecorded] at hnvs hearlier
      have hfirst : session.atBoots = [] := by
        rw [List.eq_nil_iff_forall_not_mem]
        intro snapshot hsnapshot
        simpa using hearlier snapshot hsnapshot
      exact coldBoot_without_backup hnvs hrecorded hfirst brownout rtc
        stack taskOk
  | some snapshot =>
      rw [hrecorded] at hnvs hearlier
      obtain ⟨hhead, htail⟩ := hcont.recorded_lt snapshot hrecorded
      obtain ⟨hcount, hboot⟩ := hseen snapshot hrecorded
      have hle : ∀ earlier ∈ session.atBoots,
          earlier.eventId ≤ snapshot.eventId ∧
            earlier.bootCount ≤ snapshot.bootCount := by
        intro earlier hmem
        simpa using hearlier earlier hmem
      exact coldBoot_with_backup hnvs hrecorded hhead htail hcount hboot
        hle brownout rtc stack taskOk

theorem Continued.step {session : BootSession cfg}
    (hcont : session.Continued) (op : BootStep cfg)
    (hseen : session.BackupSeen op) :
    ∃ after, session.step op = some after ∧ after.Continued := by
  cases op with
  | logDetection locked clock durationMs =>
      exact hcont.logDetection locked clock durationMs hseen
  | markAsSynced locked eventId =>
      obtain ⟨result, hmark, hsame⟩ :=
        HistoryService.markAsSynced_frame hcont.head_lt hcont.tail_lt
          locked eventId
      refine ⟨_, ?_, hcont.of_sameIndices hsame⟩
      simp [BootSession.step, hmark]
  | markMultipleAsSynced locked batch =>
      obtain ⟨result, hmark, hsame⟩ :=
        HistoryService.markMultipleAsSynced_frame hcont.head_lt
          hcont.tail_lt locked batch
      refine ⟨_, ?_, hcont.of_sameIndices hsame⟩
      simp [BootSession.step, hmark]
  | applyTimeSync locked millis currentEpoch =>
      obtain ⟨result, hsync, hsame⟩ :=
        HistoryService.applyTimeSync_frame hcont.head_lt hcont.tail_lt
          locked millis currentEpoch
      refine ⟨_, ?_, hcont.of_sameIndices hsame⟩
      simp [BootSession.step, hsync]
  | fastForwardEventId locked newId =>
      obtain ⟨counter, hle, hsame⟩ :=
        session.service.fastForwardEventId_frame locked newId
      refine ⟨_, rfl, ?_⟩
      have hraised : ({ session with
          service := session.service.raiseEventId counter } :
            BootSession cfg).Continued := by
        constructor
        · exact hcont.initialized
        · exact hcont.head_lt
        · exact hcont.tail_lt
        · exact hcont.nvs
        · exact hcont.recorded_lt
        · exact hcont.above
        · intro snapshot hboot
          exact (hcont.counter_le snapshot hboot).trans hle
        · exact hcont.recorded_le
      exact hraised.of_sameIndices hsame
  | flushToNvs outcomes complete =>
      exact hcont.flushToNvs outcomes complete
  | coldBoot brownout rtc stack taskOk =>
      exact ⟨_, rfl, hcont.coldBoot brownout rtc stack taskOk hseen⟩

/-- In every run that meets the guard, identifiers and boot counts stay above
the backup that the last power-up found. -/
theorem ids_above_backup (rtc : RTCState cfg)
    (stack : Vector DetectionEvent cfg.bufferSize) (taskOk : Bool)
    (steps : List (BootStep cfg))
    (hguard : GuardedAttempt step BackupSeen
      (firstBoot rtc stack taskOk) steps) :
    ∃ final,
      attempt step (firstBoot rtc stack taskOk) steps = some final ∧
        final.AboveBackup := by
  have hinit : (firstBoot rtc stack taskOk).Continued :=
    coldBoot_without_backup rfl rfl rfl false rtc stack taskOk
  obtain ⟨final, hrun, hfinal⟩ :=
    invariant_attempt (fun s op hs hop => hs.step op hop) hinit hguard
  exact ⟨final, hrun, hfinal.above⟩

instance (session : BootSession cfg) (op : BootStep cfg) :
    Decidable (session.BackupSeen op) :=
  match op with
  | .logDetection _ _ _ => inferInstanceAs (Decidable (_ → _))
  | .coldBoot _ _ _ _ =>
      inferInstanceAs (Decidable (∀ snapshot ∈ session.recorded, _))
  | .markAsSynced _ _ => isTrue trivial
  | .markMultipleAsSynced _ _ => isTrue trivial
  | .applyTimeSync _ _ _ => isTrue trivial
  | .fastForwardEventId _ _ => isTrue trivial
  | .flushToNvs _ _ => isTrue trivial

/-- One event is backed up before power is lost. -/
def backupOfOneEvent : List (BootStep .fourSlots) :=
  [.logDetection true 5000000 120, .flushToNvs .allOk rfl,
    .coldBoot true (.resetState .fourSlots)
      (RTCState.resetState .fourSlots).buffer true,
    .logDetection true 1000000 80]

theorem ids_above_backup_of_one_event :
    ∃ final,
      attempt step (firstBoot (.resetState .fourSlots)
          (RTCState.resetState .fourSlots).buffer true)
          backupOfOneEvent = some final ∧
        final.AboveBackup :=
  ids_above_backup _ _ _ _ (by decide +kernel)

/-- The counter is fast-forwarded while the ring is empty. -/
def backupOfEmptyRing : List (BootStep .fourSlots) :=
  [.fastForwardEventId true 100, .flushToNvs .allOk rfl,
    .coldBoot true (.resetState .fourSlots)
      (RTCState.resetState .fourSlots).buffer true,
    .logDetection true 1000000 80]

/-- The backup of an empty ring is not recognised: numbering starts again at
one, and so does the boot count. -/
theorem ids_restart_after_empty_backup :
    ∃ final,
      attempt step (firstBoot (.resetState .fourSlots)
          (RTCState.resetState .fourSlots).buffer true)
          backupOfEmptyRing = some final ∧
        ¬final.AboveBackup := by
  have hrun :
      (attempt step (firstBoot (.resetState .fourSlots)
          (RTCState.resetState .fourSlots).buffer true)
          backupOfEmptyRing).map
        (fun final => (final.assigned,
          final.atBoots.map FlushSnapshot.eventId)) =
        some ([1], [100]) := by
    decide +kernel
  obtain ⟨final, hfinal, hvalues⟩ := Option.map_eq_some_iff.mp hrun
  obtain ⟨hassigned, hboot⟩ := Prod.mk.inj hvalues
  obtain ⟨snapshot, hsnapshot, hid⟩ :
      ∃ snapshot ∈ final.atBoots, snapshot.eventId = 100 := by
    have hmem : 100 ∈ final.atBoots.map FlushSnapshot.eventId := by
      simp [hboot]
    exact List.mem_map.mp hmem
  refine ⟨final, hfinal, ?_⟩
  intro habove
  have hlt := (habove snapshot hsnapshot).2 1 (by simp [hassigned])
  omega

end BootSession

end SensorFirmware
