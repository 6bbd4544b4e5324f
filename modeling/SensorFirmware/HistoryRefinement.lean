import SensorFirmware.GuardedRun
import SensorFirmware.HistoryLog

/-!
# The RTC ring refines the log

`ringStep` dispatches the operations of `HistoryService`.  The relation
`Represents` says that the live slots are the retained part of the log; every
operation keeps it and returns what the log returns, so a whole run does.
-/

namespace SensorFirmware

open CyclicBuffer GuardedRun

variable {cfg : HistoryConfig}

/-- The operations of the service that touch the ring. -/
def ringStep (service : HistoryService cfg) :
    RingOp → Option (HistoryService cfg × RingOutput)
  | .logDetection locked clock durationMs =>
      (service.logDetection locked clock durationMs).map
        fun (service, result) => (service, .number result.eventId)
  | .markAsSynced locked eventId =>
      (service.markAsSynced locked eventId).map
        fun (service, found) => (service, .flag found)
  | .markMultipleAsSynced locked batch =>
      (service.markMultipleAsSynced locked batch).map
        fun (service, markedCount) => (service, .number markedCount)
  | .applyTimeSync locked millis currentEpoch =>
      (service.applyTimeSync locked millis currentEpoch).map
        fun (service, _) => (service, .done)
  | .fastForwardEventId locked newId =>
      some ((service.fastForwardEventId locked newId).1, .done)
  | .clear locked => some (service.clear locked, .done)
  | .getEventCount => some (service, .number service.state.getEventCount)
  | .getNextUnsynced locked =>
      (service.getNextUnsynced locked).map
        fun event => (service, .event event)
  | .getUnsyncedEvents locked maxCount =>
      (service.getUnsyncedEvents locked maxCount).map
        fun (ok, events) => (service, .events ok events)
  | .getEventsSince locked sinceId maxCount =>
      (service.getEventsSince locked sinceId maxCount).map
        fun (ok, events) => (service, .events ok events)
  | .hasPendingData locked =>
      (service.hasPendingData locked).map
        fun pending => (service, .flag pending)
  | .getPendingCount locked =>
      (service.getPendingCount locked).map
        fun count => (service, .number count)

/-- The live slots of the service are the retained part of the log. -/
structure Represents (service : HistoryService cfg) (log : HistoryLog) :
    Prop where
  initialized : service.initialized = true
  head_lt : service.state.head < cfg.bufferSize
  tail_lt : service.state.tail < cfg.bufferSize
  window : service.state.ringWindow = log.retained cfg
  counter : service.state.globalEventId = log.globalEventId
  bootCount : service.state.bootCount = log.bootCount
  ordered : log.Ordered

/-! ## Scans -/

/-- What a scan without side effects returns. -/
theorem Represents.scanLive_snd {σ : Type}
    {service : HistoryService cfg} {log : HistoryLog}
    (hrep : Represents service log) (more : σ → Bool)
    (visit : σ → DetectionEvent → Visit σ DetectionEvent) (acc : σ) :
    (service.state.scanLive more visit acc).map Prod.snd =
      some (scanList more visit (log.retained cfg) acc).2 := by
  obtain ⟨buffer, hscan, _⟩ :=
    RTCState.scanLive_eq hrep.head_lt hrep.tail_lt more visit acc
  rw [hscan, hrep.window]
  rfl

theorem length_retained_lt (log : HistoryLog) :
    (log.retained cfg).length < 2 ^ 16 := by
  have hlength := log.length_retained cfg
  have hsize := cfg.bufferSize_lt
  unfold HistoryLog.capacity at hlength
  omega

/-! ## Logging -/

theorem RTCState.Appended.record {state after : RTCState cfg}
    {log : HistoryLog} {clock : ClockMicros} {durationMs : ℕ}
    (happend : state.Appended after clock durationMs)
    (hhead : state.head < cfg.bufferSize)
    (htail : state.tail < cfg.bufferSize)
    (hwindow : state.ringWindow = log.retained cfg)
    (hcounter : state.globalEventId = log.globalEventId)
    (hboot : state.bootCount = log.bootCount)
    (hwrap : log.nextId < 2 ^ 32) :
    after.globalEventId = log.nextId ∧
      after.ringWindow =
        (log.record cfg clock durationMs).retained cfg := by
  have hlength : state.ringWindow.length =
      used cfg.bufferSize state.tail state.head :=
    length_window state.buffer htail
  have hretained := log.length_retained cfg
  rw [← hwindow, hlength] at hretained
  have hid : u32 (state.globalEventId + 1) = log.nextId := by
    rw [hcounter]
    exact u32_of_lt hwrap
  -- the ring is full exactly when the log exceeds its capacity
  have hfull : next cfg.bufferSize state.head = state.tail ↔
      HistoryLog.capacity cfg ≤ log.logged.length := by
    have hsize := cfg.two_le_bufferSize
    unfold HistoryLog.capacity at hretained ⊢
    rw [next_eq_iff_used htail hhead]
    omega
  refine ⟨happend.counter.trans hid, ?_⟩
  rw [happend.ringWindow, HistoryLog.retained_record, ← hwindow]
  simp only [hfull, hid, hboot]
  congr 2
  simp [freshEvent, HistoryLog.newEvent]

theorem Represents.logDetection {service : HistoryService cfg}
    {log : HistoryLog} (hrep : Represents service log)
    (hwrap : log.nextId < 2 ^ 32) (clock : ClockMicros) (durationMs : ℕ) :
    ∃ after result,
      service.logDetection true clock durationMs = some (after, result) ∧
        result.eventId = log.nextId ∧
        Represents after (log.record cfg clock durationMs) := by
  obtain ⟨state, hsome, happend⟩ :=
    RTCState.appendEvent_spec hrep.head_lt hrep.tail_lt clock durationMs
      service.timeSyncReceivedThisBoot
  obtain ⟨hid, hwindow⟩ := happend.record hrep.head_lt hrep.tail_lt
    hrep.window hrep.counter hrep.bootCount hwrap
  refine ⟨(service.afterAppend clock state).1,
    (service.afterAppend clock state).2, ?_, hid, ?_⟩
  · simp [HistoryService.logDetection, hrep.initialized, hsome]
  · constructor
    · simpa using hrep.initialized
    · simpa using happend.head_lt
    · simpa using happend.tail_lt
    · simpa using hwindow
    · rw [HistoryService.state_afterAppend]
      exact hid
    · rw [HistoryService.state_afterAppend]
      exact happend.bootCount.trans hrep.bootCount
    · exact hrep.ordered.record clock durationMs

/-! ## Writing back a scanned ring -/

theorem Represents.withBuffer {service : HistoryService cfg}
    {log : HistoryLog} (hrep : Represents service log)
    {f : DetectionEvent → DetectionEvent}
    (hf : ∀ event, (f event).id = event.id)
    {buffer : Vector DetectionEvent cfg.bufferSize} (changed : Bool)
    (hwindow :
      CyclicBuffer.window buffer service.state.tail service.state.head =
        (log.retained cfg).map f) :
    Represents (service.withBuffer buffer changed)
      (log.mapRetained cfg f) := by
  obtain ⟨crc32, hstate⟩ := service.state_withBuffer buffer changed
  constructor
  · exact hrep.initialized
  · rw [hstate]
    exact hrep.head_lt
  · rw [hstate]
    exact hrep.tail_lt
  · rw [hstate, HistoryLog.retained_mapRetained]
    exact hwindow
  · rw [hstate]
    exact hrep.counter
  · rw [hstate]
    exact hrep.bootCount
  · exact hrep.ordered.mapRetained hf

/-- A change of fields outside the ring. -/
theorem Represents.of_state_eq {before after : HistoryService cfg}
    {log : HistoryLog} (hrep : Represents before log)
    (hstate : after.state = before.state)
    (hinit : after.initialized = before.initialized) :
    Represents after log := by
  constructor
  · rw [hinit, hrep.initialized]
  · rw [hstate]
    exact hrep.head_lt
  · rw [hstate]
    exact hrep.tail_lt
  · rw [hstate, hrep.window]
  · rw [hstate, hrep.counter]
  · rw [hstate, hrep.bootCount]
  · exact hrep.ordered

/-! ## Marking -/

/-- No two live events share an identifier. -/
theorem HistoryLog.Ordered.unique_match {log : HistoryLog}
    (hordered : log.Ordered) (cfg : HistoryConfig) :
    (log.retained cfg).Pairwise fun a b => a.id ≠ b.id := by
  have hincreasing :
      ((log.retained cfg).map DetectionEvent.id).Pairwise (· < ·) :=
    hordered.retained_increasing
  rw [List.pairwise_map] at hincreasing
  exact hincreasing.imp fun hlt => hlt.ne

theorem pairwise_match_of_unique {events : List DetectionEvent}
    (hunique : events.Pairwise fun a b => a.id ≠ b.id) (eventId : ℕ) :
    events.Pairwise fun a b =>
      (a.id == eventId) = true → (b.id == eventId) = false := by
  apply hunique.imp
  intro a b hne ha
  have heq : a.id = eventId := by simpa using ha
  simpa using fun hb : b.id = eventId => hne (heq.trans hb.symm)

theorem Represents.markAsSynced {service : HistoryService cfg}
    {log : HistoryLog} (hrep : Represents service log) (eventId : ℕ) :
    ∃ after,
      service.markAsSynced true eventId =
          some (after,
            (log.retained cfg).any fun event => event.id == eventId) ∧
        Represents after (log.markSynced cfg (· == eventId)) := by
  obtain ⟨buffer, hscan, hwindow⟩ :=
    RTCState.scanLive_eq hrep.head_lt hrep.tail_lt always
      (visitMarkSynced eventId) false
  have hunique :=
    pairwise_match_of_unique (hrep.ordered.unique_match cfg) eventId
  rw [hrep.window] at hscan hwindow
  unfold visitMarkSynced at hscan hwindow
  rw [scanList_firstMatch_found] at hscan
  rw [scanList_firstMatch_fst _ _ _ _ hunique] at hwindow
  refine ⟨service.withBuffer buffer
    ((log.retained cfg).any fun event => event.id == eventId), ?_, ?_⟩
  · simp [HistoryService.markAsSynced, visitMarkSynced, hrep.initialized,
      hscan]
  · apply hrep.withBuffer _ _ hwindow
    intro event
    split <;> rfl

theorem countP_other_ids {event : DetectionEvent}
    {rest : List DetectionEvent}
    (hhere : ∀ other ∈ rest, event.id ≠ other.id) :
    (rest.countP fun other => !other.isSynced && other.id == event.id) =
      0 := by
  rw [List.countP_eq_zero]
  intro other hother
  simp [(hhere other hother).symm]

/-- An identifier is newly marked at most once. -/
theorem countP_id_le_one {events : List DetectionEvent}
    (hunique : events.Pairwise fun a b => a.id ≠ b.id) (eventId : ℕ) :
    (events.countP fun event => !event.isSynced && event.id == eventId) ≤
      1 := by
  induction events with
  | nil => simp
  | cons event rest ih =>
      obtain ⟨hhere, hrest⟩ := List.pairwise_cons.mp hunique
      rw [List.countP_cons]
      by_cases hid : event.id = eventId
      · subst hid
        rw [countP_other_ids hhere]
        split <;> omega
      · have htail := ih hrest
        simpa [hid] using htail

/-- One pass of `markMultipleAsSynced` over the live events. -/
theorem scanList_markCounting {events : List DetectionEvent}
    (hunique : events.Pairwise fun a b => a.id ≠ b.id) (eventId : ℕ)
    {markedCount : ℕ} (hroom : markedCount + 1 < 2 ^ 8) :
    scanList always (visitMarkCounting eventId) events markedCount =
      (events.map fun event =>
          if event.id == eventId then event.setSynced else event,
        markedCount + events.countP fun event =>
          !event.isSynced && event.id == eventId) := by
  have hwrite : ∀ event : DetectionEvent,
      (if !event.isSynced then event.setSynced else event) =
        event.setSynced := by
    intro event
    cases hsynced : event.isSynced with
    | false => simp
    | true => simp [DetectionEvent.setSynced_of_isSynced hsynced]
  have hmatch := pairwise_match_of_unique hunique eventId
  apply Prod.ext
  · unfold visitMarkCounting
    rw [scanList_firstMatch_fst _ _ _ _ hmatch]
    simp only [hwrite]
  · induction events with
    | nil => rfl
    | cons event rest ih =>
        obtain ⟨hhere, hrest⟩ := List.pairwise_cons.mp hunique
        by_cases hid : event.id = eventId
        · subst hid
          have hnone := countP_other_ids hhere
          have hsmall : u8 (markedCount + 1) = markedCount + 1 :=
            Nat.mod_eq_of_lt hroom
          cases hsynced : event.isSynced <;>
            simp [scanList, always, visitMarkCounting, firstMatch,
              hnone, hsynced, hsmall]
        · have hmatchRest := pairwise_match_of_unique hrest eventId
          simpa [scanList, always, visitMarkCounting, firstMatch, hid]
            using ih hrest hmatchRest

/-- Counting the new marks of one identifier and then of the others counts
each event once. -/
theorem countP_mark_cons (events : List DetectionEvent) (eventId : ℕ)
    (rest : List ℕ) :
    (events.countP fun event => !event.isSynced && event.id == eventId) +
        ((events.map fun event =>
            if event.id == eventId then event.setSynced else event).countP
          fun event => !event.isSynced && rest.contains event.id) =
      events.countP fun event =>
        !event.isSynced && (eventId :: rest).contains event.id := by
  rw [List.countP_map]
  induction events with
  | nil => rfl
  | cons event events ih =>
      simp only [List.countP_cons, Function.comp_apply,
        List.contains_cons] at ih ⊢
      by_cases hid : event.id = eventId
      · simp only [hid, beq_self_eq_true, if_true, Bool.true_or,
          DetectionEvent.isSynced_setSynced, Bool.not_true,
          Bool.false_and, Bool.false_eq_true, if_false, Bool.and_true]
        omega
      · simp only [beq_eq_false_iff_ne.mpr hid, Bool.false_or,
          Bool.and_false, Bool.false_eq_true, if_false]
        omega

theorem map_mark_cons (events : List DetectionEvent) (eventId : ℕ)
    (rest : List ℕ) :
    ((events.map fun event =>
        if event.id == eventId then event.setSynced else event).map
      fun event =>
        if rest.contains event.id then event.setSynced else event) =
      events.map fun event =>
        if (eventId :: rest).contains event.id then event.setSynced
        else event := by
  rw [List.map_map]
  apply List.map_congr_left
  intro event _
  have htwice : event.setSynced.setSynced = event.setSynced :=
    DetectionEvent.setSynced_of_isSynced event.isSynced_setSynced
  by_cases hid : event.id = eventId <;>
    by_cases hrest : event.id ∈ rest <;>
    simp_all

theorem markEach_eq {head tail : ℕ} (hhead : head < cfg.bufferSize)
    (htail : tail < cfg.bufferSize) (eventIds : List ℕ)
    (buffer : Vector DetectionEvent cfg.bufferSize) {markedCount : ℕ}
    (hroom : markedCount + eventIds.length < 2 ^ 8)
    (hunique : (window buffer tail head).Pairwise
      fun a b => a.id ≠ b.id) :
    ∃ buffer',
      HistoryService.markEach head tail eventIds buffer markedCount =
          some (buffer', markedCount +
            (window buffer tail head).countP fun event =>
              !event.isSynced && eventIds.contains event.id) ∧
        window buffer' tail head =
          (window buffer tail head).map fun event =>
            if eventIds.contains event.id then event.setSynced
            else event := by
  induction eventIds generalizing buffer markedCount with
  | nil =>
      refine ⟨buffer, ?_, ?_⟩
      · simp [HistoryService.markEach]
      · simp
  | cons eventId rest ih =>
      simp only [List.length_cons] at hroom
      obtain ⟨buffer₁, hscan, hwindow, _⟩ :=
        scan_eq always (visitMarkCounting eventId) hhead htail
          (used_lt htail hhead).le buffer markedCount
      have hnext : markedCount + 1 < 2 ^ 8 := by omega
      rw [scanList_markCounting hunique eventId hnext] at hscan hwindow
      have hle := countP_id_le_one hunique eventId
      have hunique₁ : (window buffer₁ tail head).Pairwise
          fun a b => a.id ≠ b.id := by
        rw [hwindow, List.pairwise_map]
        apply hunique.imp
        intro a b hne
        split <;> split <;> simpa using hne
      have hroom₁ : markedCount + (window buffer tail head).countP
          (fun event => !event.isSynced && event.id == eventId) +
            rest.length < 2 ^ 8 := by
        omega
      obtain ⟨buffer₂, hmark, hwindow₂⟩ := ih buffer₁ hroom₁ hunique₁
      refine ⟨buffer₂, ?_, ?_⟩
      · rw [HistoryService.markEach, hscan]
        rw [hwindow] at hmark
        rw [← countP_mark_cons, ← Nat.add_assoc]
        exact hmark
      · rw [hwindow₂, hwindow]
        exact map_mark_cons _ eventId rest

theorem Represents.markMultipleAsSynced {service : HistoryService cfg}
    {log : HistoryLog} (hrep : Represents service log)
    (batch : EventIdBatch) :
    ∃ after,
      service.markMultipleAsSynced true batch =
          some (after, (log.unsynced cfg).countP fun event =>
            batch.eventIds.contains event.id) ∧
        Represents after (log.markSynced cfg batch.eventIds.contains) := by
  have hcount : ((log.unsynced cfg).countP fun event =>
        batch.eventIds.contains event.id) =
      (log.retained cfg).countP fun event =>
        !event.isSynced && batch.eventIds.contains event.id := by
    unfold HistoryLog.unsynced
    rw [List.countP_filter]
    simp only [Bool.and_comm]
  rw [hcount]
  have hids : ∀ event : DetectionEvent,
      (if batch.eventIds.contains event.id then event.setSynced
        else event).id = event.id := by
    intro event
    split <;> rfl
  cases hlist : batch.eventIds with
  | nil =>
      rw [hlist] at hids
      refine ⟨service, ?_, ?_⟩
      · simp [HistoryService.markMultipleAsSynced, hlist]
      · -- an empty batch rewrites nothing
        have hwindow : CyclicBuffer.window service.state.buffer
            service.state.tail service.state.head =
              (log.retained cfg).map fun event =>
                if ([] : List ℕ).contains event.id then event.setSynced
                else event := by
          simpa using show CyclicBuffer.window _ _ _ = _ from hrep.window
        exact (hrep.withBuffer hids false hwindow).of_state_eq rfl rfl
  | cons eventId rest =>
      have hroom : 0 + batch.eventIds.length < 2 ^ 8 := by
        simpa using batch.length_lt
      have hunique : service.state.ringWindow.Pairwise
          fun a b => a.id ≠ b.id := by
        rw [hrep.window]
        exact hrep.ordered.unique_match cfg
      obtain ⟨buffer, hmark, hwindow⟩ :=
        markEach_eq hrep.head_lt hrep.tail_lt batch.eventIds
          service.state.buffer hroom hunique
      rw [← RTCState.ringWindow, hrep.window, Nat.zero_add] at hmark
      rw [← RTCState.ringWindow, hrep.window] at hwindow
      rw [← hlist]
      refine ⟨service.withBuffer buffer (decide (0 <
        (log.retained cfg).countP fun event =>
          !event.isSynced && batch.eventIds.contains event.id)), ?_, ?_⟩
      · have hnonempty : (batch.eventIds.length != 0) = true := by
          simp [hlist]
        simp [HistoryService.markMultipleAsSynced, hrep.initialized,
          hnonempty, hmark]
      · exact hrep.withBuffer hids _ hwindow

/-! ## Backfill, fast-forward and clear -/

theorem Represents.afterBackfill {service : HistoryService cfg}
    {log : HistoryLog} (hrep : Represents service log)
    {f : DetectionEvent → DetectionEvent}
    (hf : ∀ event, (f event).id = event.id)
    {buffer : Vector DetectionEvent cfg.bufferSize} (updatedCount : ℕ)
    (hwindow :
      CyclicBuffer.window buffer service.state.tail service.state.head =
        (log.retained cfg).map f) :
    Represents (service.afterBackfill buffer updatedCount)
      (log.mapRetained cfg f) := by
  have hwritten := hrep.withBuffer hf (decide (0 < updatedCount)) hwindow
  unfold HistoryService.afterBackfill
  dsimp only
  split
  · exact hwritten.of_state_eq (by simp) (by simp)
  · exact hwritten

theorem Represents.applyTimeSync {service : HistoryService cfg}
    {log : HistoryLog} (hrep : Represents service log)
    (millis currentEpoch : ℕ) :
    ∃ after clock,
      service.applyTimeSync true millis currentEpoch =
          some (after, clock) ∧
        Represents after (log.timeSync cfg currentEpoch millis) := by
  obtain ⟨buffer, hscan, hwindow⟩ :=
    RTCState.scanLive_eq hrep.head_lt hrep.tail_lt always
      (visitBackfill service.state.bootCount currentEpoch
        (getSystemUptime
          (HistoryService.syncedClock currentEpoch millis))) 0
  unfold visitBackfill at hwindow
  rw [scanList_everyMatch, hrep.window, hrep.bootCount] at hwindow
  -- the uptime stays a variable: unfolding the clock here is costly
  have hids := id_backfill_if log.bootCount currentEpoch
    (getSystemUptime (HistoryService.syncedClock currentEpoch millis))
  have hsynced : Represents
      { service with timeSyncReceivedThisBoot := true } log :=
    hrep.of_state_eq rfl rfl
  generalize hcount : (scanList always _ service.state.ringWindow 0).2 =
    updatedCount at hscan
  refine ⟨{ service with timeSyncReceivedThisBoot := true }.afterBackfill
    buffer updatedCount, some (HistoryService.syncedClock currentEpoch
      millis), ?_, hsynced.afterBackfill hids updatedCount hwindow⟩
  simp [HistoryService.applyTimeSync, hrep.initialized, hscan]

theorem Represents.raiseEventId {service : HistoryService cfg}
    {log : HistoryLog} (hrep : Represents service log) {newId : ℕ}
    (hbehind : log.globalEventId ≤ newId) :
    Represents (service.raiseEventId newId)
      { log with globalEventId := newId } := by
  constructor
  · exact hrep.initialized
  · exact hrep.head_lt
  · exact hrep.tail_lt
  · exact hrep.window
  · rfl
  · exact hrep.bootCount
  · exact hrep.ordered.raise hbehind

theorem Represents.fastForwardEventId {service : HistoryService cfg}
    {log : HistoryLog} (hrep : Represents service log) (newId : ℕ) :
    Represents (service.fastForwardEventId true newId).1
      { log with globalEventId := max log.globalEventId newId } := by
  unfold HistoryService.fastForwardEventId
  by_cases hbehind : log.globalEventId < newId
  · have hraised := hrep.raiseEventId hbehind.le
    simp only [hrep.initialized, hrep.counter, hbehind, Bool.and_self,
      decide_true, if_true, max_eq_right hbehind.le]
    split
    · exact hraised.of_state_eq (by simp) (by simp)
    · exact hraised
  · have hkept : max log.globalEventId newId = log.globalEventId :=
      max_eq_left (by omega)
    rw [hkept]
    simpa [hrep.counter, hbehind] using hrep

theorem Represents.clear {service : HistoryService cfg}
    {log : HistoryLog} (hrep : Represents service log) :
    Represents (service.clear true)
      { log with logged := [], globalEventId := 0 } := by
  constructor
  · exact hrep.initialized
  · simp only [HistoryService.clear, if_true,
      RTCState.head_updateCRC]
    exact cfg.bufferSize_pos
  · simp only [HistoryService.clear, if_true,
      RTCState.tail_updateCRC]
    exact cfg.bufferSize_pos
  · simp [HistoryService.clear, RTCState.ringWindow, CyclicBuffer.window,
      HistoryLog.retained, List.rtake]
  · rfl
  · exact hrep.bootCount
  · exact ⟨List.Pairwise.nil, by simp⟩

/-! ## Queries -/

theorem Represents.getEventCount {service : HistoryService cfg}
    {log : HistoryLog} (hrep : Represents service log) :
    service.state.getEventCount = (log.retained cfg).length := by
  rw [RTCState.getEventCount_eq hrep.head_lt hrep.tail_lt, hrep.window]

theorem Represents.getNextUnsynced {service : HistoryService cfg}
    {log : HistoryLog} (hrep : Represents service log) :
    service.getNextUnsynced true = some (log.unsynced cfg).head? := by
  rw [HistoryService.getNextUnsynced_eq hrep.initialized hrep.head_lt
    hrep.tail_lt, hrep.window, HistoryLog.unsynced, List.head?_filter]

theorem Represents.collectEvents {service : HistoryService cfg}
    {log : HistoryLog} (hrep : Represents service log)
    (wanted : DetectionEvent → Bool) (maxCount : ℕ) :
    service.collectEvents true wanted maxCount =
      some (true, ((log.retained cfg).filter wanted).take maxCount) := by
  rw [HistoryService.collectEvents_eq hrep.initialized hrep.head_lt
    hrep.tail_lt, hrep.window]

theorem Represents.hasPendingData {service : HistoryService cfg}
    {log : HistoryLog} (hrep : Represents service log) :
    service.hasPendingData true =
      some (!(log.unsynced cfg).isEmpty) := by
  unfold HistoryService.hasPendingData HistoryLog.unsynced
  rw [hrep.initialized, Bool.and_self, if_pos rfl, hrep.scanLive_snd,
    visitAny, scanList_firstMatch_found]
  congr 1
  induction log.retained cfg with
  | nil => rfl
  | cons event rest ih =>
      cases hsynced : event.isSynced with
      | false => simp [hsynced]
      | true => simpa [hsynced] using ih

theorem Represents.getPendingCount {service : HistoryService cfg}
    {log : HistoryLog} (hrep : Represents service log) :
    service.getPendingCount true = some (log.unsynced cfg).length := by
  have hroom : 0 + (log.unsynced cfg).length < 2 ^ 16 := by
    have hretained : (log.retained cfg).length < 2 ^ 16 :=
      length_retained_lt log
    have hfilter : (log.unsynced cfg).length ≤ (log.retained cfg).length :=
      List.length_filter_le _ _
    omega
  unfold HistoryService.getPendingCount
  rw [hrep.initialized, Bool.and_self, if_pos rfl, hrep.scanLive_snd,
    visitCountUnsynced, scanList_everyMatch]
  exact congrArg some ((foldl_count _ hroom).trans (Nat.zero_add _))

/-! ## Whole runs -/

/-- One operation on the ring does what the log does. -/
theorem Represents.ringStep {service : HistoryService cfg}
    {log : HistoryLog} (hrep : Represents service log) (op : RingOp)
    (hwrap : log.NoIdWrap op) :
    ∃ after,
      SensorFirmware.ringStep service op =
          some (after, (log.apply cfg op).2) ∧
        Represents after (log.apply cfg op).1 := by
  cases op with
  | logDetection locked clock durationMs =>
      cases locked with
      | false =>
          refine ⟨service, ?_, hrep⟩
          simp [SensorFirmware.ringStep, HistoryService.logDetection,
            HistoryLog.apply]
      | true =>
          obtain ⟨after, result, hlog, hid, hafter⟩ :=
            hrep.logDetection hwrap clock durationMs
          refine ⟨after, ?_, hafter⟩
          simp [SensorFirmware.ringStep, hlog, hid, HistoryLog.apply]
  | markAsSynced locked eventId =>
      cases locked with
      | false =>
          refine ⟨service, ?_, hrep⟩
          simp [SensorFirmware.ringStep, HistoryService.markAsSynced,
            HistoryLog.apply]
      | true =>
          obtain ⟨after, hmark, hafter⟩ := hrep.markAsSynced eventId
          refine ⟨after, ?_, hafter⟩
          simp [SensorFirmware.ringStep, hmark, HistoryLog.apply]
  | markMultipleAsSynced locked batch =>
      cases locked with
      | false =>
          refine ⟨service, ?_, hrep⟩
          simp [SensorFirmware.ringStep,
            HistoryService.markMultipleAsSynced, HistoryLog.apply]
      | true =>
          obtain ⟨after, hmark, hafter⟩ := hrep.markMultipleAsSynced batch
          refine ⟨after, ?_, hafter⟩
          simp only [SensorFirmware.ringStep, hmark, HistoryLog.apply]
          rfl
  | applyTimeSync locked millis currentEpoch =>
      cases locked with
      | false =>
          refine ⟨{ service with timeSyncReceivedThisBoot := true }, ?_,
            hrep.of_state_eq rfl rfl⟩
          simp [SensorFirmware.ringStep, HistoryService.applyTimeSync,
            hrep.initialized, HistoryLog.apply]
      | true =>
          obtain ⟨after, clock, hsync, hafter⟩ :=
            hrep.applyTimeSync millis currentEpoch
          refine ⟨after, ?_, hafter⟩
          simp [SensorFirmware.ringStep, hsync, HistoryLog.apply]
  | fastForwardEventId locked newId =>
      refine ⟨(service.fastForwardEventId locked newId).1, ?_, ?_⟩
      · cases locked <;> rfl
      cases locked with
      | false =>
          simpa [HistoryService.fastForwardEventId, HistoryLog.apply]
            using hrep
      | true => exact hrep.fastForwardEventId newId
  | clear locked =>
      refine ⟨service.clear locked, ?_, ?_⟩
      · cases locked <;> rfl
      cases locked with
      | false => exact hrep
      | true => exact hrep.clear
  | getEventCount =>
      refine ⟨service, ?_, hrep⟩
      simp [SensorFirmware.ringStep, hrep.getEventCount,
        HistoryLog.apply]
  | getNextUnsynced locked =>
      refine ⟨service, ?_, hrep⟩
      cases locked with
      | false =>
          simp [SensorFirmware.ringStep, HistoryService.getNextUnsynced,
            HistoryLog.apply]
      | true =>
          simp [SensorFirmware.ringStep, hrep.getNextUnsynced,
            HistoryLog.apply]
  | getUnsyncedEvents locked maxCount =>
      refine ⟨service, ?_, hrep⟩
      cases locked with
      | false =>
          simp [SensorFirmware.ringStep, HistoryService.getUnsyncedEvents,
            HistoryService.collectEvents, hrep.initialized,
            HistoryLog.apply]
      | true =>
          simp [SensorFirmware.ringStep, HistoryService.getUnsyncedEvents,
            hrep.collectEvents, HistoryLog.apply, HistoryLog.unsynced]
  | getEventsSince locked sinceId maxCount =>
      refine ⟨service, ?_, hrep⟩
      cases locked with
      | false =>
          simp [SensorFirmware.ringStep, HistoryService.getEventsSince,
            HistoryService.collectEvents, hrep.initialized,
            HistoryLog.apply]
      | true =>
          simp [SensorFirmware.ringStep, HistoryService.getEventsSince,
            hrep.collectEvents, HistoryLog.apply]
  | hasPendingData locked =>
      refine ⟨service, ?_, hrep⟩
      cases locked with
      | false =>
          simp [SensorFirmware.ringStep, HistoryService.hasPendingData,
            HistoryLog.apply]
      | true =>
          simp [SensorFirmware.ringStep, hrep.hasPendingData,
            HistoryLog.apply]
  | getPendingCount locked =>
      refine ⟨service, ?_, hrep⟩
      cases locked with
      | false =>
          simp [SensorFirmware.ringStep, HistoryService.getPendingCount,
            HistoryLog.apply]
      | true =>
          simp [SensorFirmware.ringStep, hrep.getPendingCount,
            HistoryLog.apply]

/-- A service whose ring was just reset; `init` may have set the boot count
on top. -/
def HistoryService.startFromReset (service : HistoryService cfg)
    (bootCount : ℕ) : HistoryService cfg :=
  { service with
    state := { RTCState.resetState cfg with bootCount := bootCount }
    initialized := true }

theorem represents_startFromReset (service : HistoryService cfg)
    (bootCount : ℕ) :
    Represents (service.startFromReset bootCount)
      (HistoryLog.start bootCount) := by
  have hsafe : (RTCState.resetState cfg).Safe := RTCState.safe_resetState
  have hempty : (RTCState.resetState cfg).ringWindow = [] :=
    RTCState.ringWindow_resetState
  constructor
  · rfl
  · exact hsafe.head_lt
  · exact hsafe.tail_lt
  · exact hempty.trans (by simp [HistoryLog.start, HistoryLog.retained])
  · rfl
  · rfl
  · exact HistoryLog.ordered_start bootCount

theorem history_ring_refines_log (service : HistoryService cfg)
    (bootCount : ℕ) (ops : List RingOp)
    (hwrap : GuardedSpec (HistoryLog.apply cfg) HistoryLog.NoIdWrap
      (HistoryLog.start bootCount) ops) :
    ∃ final,
      perform ringStep (service.startFromReset bootCount) ops =
          some (final,
            (performSpec (HistoryLog.apply cfg)
              (HistoryLog.start bootCount) ops).2) ∧
        final.state.head < cfg.bufferSize ∧
        final.state.tail < cfg.bufferSize ∧
        final.state.ringWindow =
          (performSpec (HistoryLog.apply cfg)
            (HistoryLog.start bootCount) ops).1.retained cfg ∧
        (final.state.ringWindow.map DetectionEvent.id).Pairwise (· < ·) ∧
        (∀ event ∈ final.state.ringWindow,
          event.id ≤ final.state.globalEventId) ∧
        final.state.globalEventId =
          (performSpec (HistoryLog.apply cfg)
            (HistoryLog.start bootCount) ops).1.globalEventId := by
  have hinit := represents_startFromReset service bootCount
  obtain ⟨final, hrun, hfinal⟩ :=
    perform_refines (fun s a i hrel hguard => hrel.ringStep i hguard)
      hinit hwrap
  refine ⟨final, hrun, hfinal.head_lt, hfinal.tail_lt, hfinal.window,
    ?_, ?_, hfinal.counter⟩
  · rw [hfinal.window]
    exact hfinal.ordered.retained_increasing
  · intro event hevent
    rw [hfinal.window] at hevent
    rw [hfinal.counter]
    exact hfinal.ordered.id_le event
      (HistoryLog.mem_logged_of_mem_retained hevent)

/-- Four detections in a ring that keeps three, and marks with a repeated and
an unknown identifier. -/
def overflowRun : List RingOp :=
  [.logDetection true 1000000 10, .logDetection true 2000000 20,
    .logDetection true 3000000 30, .logDetection true 4000000 40,
    .markMultipleAsSynced true ⟨[3, 3, 9], by decide⟩,
    .getPendingCount true, .markAsSynced false 2, .markAsSynced true 2]

instance (log : HistoryLog) (op : RingOp) : Decidable (log.NoIdWrap op) := by
  unfold HistoryLog.NoIdWrap
  split <;> infer_instance

theorem history_ring_refines_log_overflow :
    ∃ final : HistoryService .fourSlots,
      perform ringStep
          ((HistoryService.construct
            (.resetState .fourSlots)).startFromReset 1) overflowRun =
        some (final, [.number 1, .number 2, .number 3, .number 4,
          .number 1, .number 2, .flag false, .flag true]) ∧
      (final.state.ringWindow.map DetectionEvent.id).Pairwise (· < ·) := by
  have houtputs :
      (performSpec (HistoryLog.apply .fourSlots) (HistoryLog.start 1)
          overflowRun).2 =
        [.number 1, .number 2, .number 3, .number 4, .number 1, .number 2,
          .flag false, .flag true] := by
    decide +kernel
  obtain ⟨final, hrun, _, _, _, hincreasing, _⟩ :=
    history_ring_refines_log
      (HistoryService.construct (.resetState .fourSlots)) 1 overflowRun
      (by decide +kernel)
  rw [houtputs] at hrun
  exact ⟨final, hrun, hincreasing⟩

end SensorFirmware
