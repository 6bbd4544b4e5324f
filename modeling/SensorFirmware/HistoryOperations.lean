import SensorFirmware.HistoryState

/-!
# Operations of the history service

Each operation takes `locked`, which tells whether the state mutex was
obtained before its timeout.  Operations that touch the ring return `none`
when they would access a slot outside the buffer or scan without end.
-/

namespace SensorFirmware

open CyclicBuffer

variable {cfg : HistoryConfig}

/-- What `logDetection` returns, and the epoch that it hands to
`ConfigService::updateLastKnownEpoch` when the clock is believable. -/
structure LogResult where
  eventId : ℕ
  lastKnownEpoch : Option ℕ
  deriving DecidableEq, Repr

/-- The writes into the head slot, in source order: the estimate flag is set
before the flags are cleared. -/
def recordDetection (slot : DetectionEvent) (id bootCount : ℕ)
    (clock : ClockMicros) (durationMs : ℕ) (timeSynced overflow : Bool) :
    DetectionEvent :=
  let event := { slot with
    id := id
    timestampMs := getSystemUptime clock
    bootCount := bootCount
    durationMs := durationMs }
  let event :=
    if minValidEpoch ≤ clock.time then
      let event := { event with timestamp := clock.time }
      if timeSynced then event else event.setTimeEstimated
    else { event with timestamp := 0 }
  let event := { event with reserved := Vector.replicate 5 0#8 }
  let event := event.clearFlags
  if overflow then event.setOverflow else event

/-- The record of a new detection, with nothing of the slot's old content. -/
def freshEvent (id bootCount : ℕ) (clock : ClockMicros) (durationMs : ℕ)
    (overflow : Bool) : DetectionEvent where
  id := id
  timestampMs := getSystemUptime clock
  bootCount := bootCount
  durationMs := durationMs
  timestamp := if minValidEpoch ≤ clock.time then clock.time else 0
  flags := if overflow then 0x02#8 else 0x00#8
  reserved := Vector.replicate 5 0#8

theorem recordDetection_eq (slot : DetectionEvent) (id bootCount : ℕ)
    (clock : ClockMicros) (durationMs : ℕ) (timeSynced overflow : Bool) :
    recordDetection slot id bootCount clock durationMs timeSynced overflow =
      freshEvent id bootCount clock durationMs overflow := by
  unfold recordDetection freshEvent
  by_cases hepoch : minValidEpoch ≤ clock.time <;>
    cases timeSynced <;> cases overflow <;>
    simp [hepoch, DetectionEvent.setTimeEstimated,
      DetectionEvent.clearFlags, DetectionEvent.setOverflow]

namespace RTCState

/-- Visit the live slots from the tail on, for at most one full turn. -/
def scanLive {σ : Type} (state : RTCState cfg) (more : σ → Bool)
    (visit : σ → DetectionEvent → Visit σ DetectionEvent) (acc : σ) :
    Option (Vector DetectionEvent cfg.bufferSize × σ) :=
  scan more visit state.head cfg.bufferSize state.tail state.buffer acc

/-- With both indices in range a scan ends and stays in bounds. -/
theorem scanLive_eq {σ : Type} {state : RTCState cfg}
    (hhead : state.head < cfg.bufferSize)
    (htail : state.tail < cfg.bufferSize) (more : σ → Bool)
    (visit : σ → DetectionEvent → Visit σ DetectionEvent) (acc : σ) :
    ∃ buffer,
      state.scanLive more visit acc =
          some (buffer, (scanList more visit state.ringWindow acc).2) ∧
        window buffer state.tail state.head =
          (scanList more visit state.ringWindow acc).1 := by
  have hfuel := (used_lt htail hhead).le
  obtain ⟨buffer, hscan, hwindow, _⟩ :=
    scan_eq more visit hhead htail hfuel state.buffer acc
  exact ⟨buffer, hscan, hwindow⟩

/-- Claim the head slot, evicting the oldest event when the ring is full. -/
def appendEvent (state : RTCState cfg) (clock : ClockMicros)
    (durationMs : ℕ) (timeSynced : Bool) : Option (RTCState cfg) :=
  let nextHead := next cfg.bufferSize state.head
  let overflow := decide (nextHead = state.tail)
  let tail := if overflow then next cfg.bufferSize state.tail
    else state.tail
  let id := u32 (state.globalEventId + 1)
  if h : state.head < cfg.bufferSize then
    let event := recordDetection state.buffer[state.head] id
      state.bootCount clock durationMs timeSynced overflow
    some (updateCRC { state with
      head := nextHead
      tail := tail
      globalEventId := id
      buffer := state.buffer.set state.head event })
  else none

structure Appended (state after : RTCState cfg) (clock : ClockMicros)
    (durationMs : ℕ) : Prop where
  head_lt : after.head < cfg.bufferSize
  tail_lt : after.tail < cfg.bufferSize
  counter : after.globalEventId = u32 (state.globalEventId + 1)
  bootCount : after.bootCount = state.bootCount
  magicNumber : after.magicNumber = state.magicNumber
  crc32 : after.crc32 = after.calculateBufferCRC
  ringWindow : after.ringWindow =
    (if next cfg.bufferSize state.head = state.tail
      then state.ringWindow.tail else state.ringWindow) ++
      [freshEvent (u32 (state.globalEventId + 1)) state.bootCount clock
        durationMs (decide (next cfg.bufferSize state.head = state.tail))]

theorem appendEvent_spec {state : RTCState cfg}
    (hhead : state.head < cfg.bufferSize)
    (htail : state.tail < cfg.bufferSize) (clock : ClockMicros)
    (durationMs : ℕ) (timeSynced : Bool) :
    ∃ after, state.appendEvent clock durationMs timeSynced = some after ∧
      state.Appended after clock durationMs := by
  have hsize := cfg.two_le_bufferSize
  refine ⟨_, dif_pos hhead, next_lt hhead, ?_, rfl, rfl, rfl, rfl, ?_⟩
  · simp only [tail_updateCRC]
    split
    · exact next_lt htail
    · exact htail
  · rw [ringWindow_updateCRC]
    simp only [recordDetection_eq]
    by_cases hfull : next cfg.bufferSize state.head = state.tail
    · -- the ring is full: the tail moves on before the slot is written
      have hused := used_of_full htail hhead hfull
      have hne : state.tail ≠ state.head := by
        intro heq
        rw [heq, used_self] at hused
        omega
      have hroom : next cfg.bufferSize state.head ≠
          next cfg.bufferSize state.tail := by
        rw [hfull, next_eq htail]
        split <;> omega
      have hpush := window_push state.buffer
        (freshEvent (u32 (state.globalEventId + 1)) state.bootCount clock
          durationMs true) (next_lt htail) hhead hroom
      rw [window_next_tail _ htail hhead hne] at hpush
      simpa [RTCState.ringWindow, hfull] using hpush
    · have hpush := window_push state.buffer
        (freshEvent (u32 (state.globalEventId + 1)) state.bootCount clock
          durationMs false) htail hhead hfull
      simpa [RTCState.ringWindow, hfull] using hpush

end RTCState

def visitNextUnsynced :
    Option DetectionEvent → DetectionEvent →
      Visit (Option DetectionEvent) DetectionEvent :=
  firstMatch (fun event => !event.isSynced) (fun _ event => some event) id

/-- `outEvents[(*outCount)++] = event` for each match. -/
def visitCollect (wanted : DetectionEvent → Bool) :
    List DetectionEvent → DetectionEvent →
      Visit (List DetectionEvent) DetectionEvent :=
  everyMatch wanted (fun outEvents event => outEvents ++ [event]) id

def visitAny (wanted : DetectionEvent → Bool) :
    Bool → DetectionEvent → Visit Bool DetectionEvent :=
  firstMatch wanted (fun _ _ => true) id

def visitCountUnsynced : ℕ → DetectionEvent → Visit ℕ DetectionEvent :=
  everyMatch (fun event => !event.isSynced)
    (fun count _ => u16 (count + 1)) id

def visitMarkSynced (eventId : ℕ) :
    Bool → DetectionEvent → Visit Bool DetectionEvent :=
  firstMatch (fun event => event.id == eventId) (fun _ _ => true)
    DetectionEvent.setSynced

/-- An event that is synced already is found but not counted. -/
def visitMarkCounting (eventId : ℕ) :
    ℕ → DetectionEvent → Visit ℕ DetectionEvent :=
  firstMatch (fun event => event.id == eventId)
    (fun markedCount event =>
      if !event.isSynced then u8 (markedCount + 1) else markedCount)
    (fun event => if !event.isSynced then event.setSynced else event)

/-- `bootEpoch + timestampMs / 1000` on 32-bit words; the age that the source
also computes is not used. -/
def backfillTimestamp (currentEpoch currentUptime timestampMs : ℕ) : ℕ :=
  let uptimeSec := currentUptime / 1000
  let bootEpoch :=
    if uptimeSec ≤ currentEpoch then currentEpoch - uptimeSec else 0
  u32 (bootEpoch + timestampMs / 1000)

def needsBackfill (bootCount : ℕ) (event : DetectionEvent) : Bool :=
  event.bootCount == bootCount && event.timestamp == 0

def backfill (currentEpoch currentUptime : ℕ) (event : DetectionEvent) :
    DetectionEvent :=
  { event with timestamp :=
      backfillTimestamp currentEpoch currentUptime event.timestampMs }

theorem id_backfill_if (bootCount currentEpoch currentUptime : ℕ)
    (event : DetectionEvent) :
    (if needsBackfill bootCount event then
        backfill currentEpoch currentUptime event
      else event).id = event.id := by
  split <;> rfl

def visitBackfill (bootCount currentEpoch currentUptime : ℕ) :
    ℕ → DetectionEvent → Visit ℕ DetectionEvent :=
  everyMatch (needsBackfill bootCount)
    (fun updatedCount _ => u32 (updatedCount + 1))
    (backfill currentEpoch currentUptime)

/-- The argument of `markMultipleAsSynced`; its length is an 8-bit word. -/
structure EventIdBatch where
  eventIds : List ℕ
  length_lt : eventIds.length < 2 ^ 8

namespace HistoryService

def criticalFlushThreshold (cfg : HistoryConfig) : ℕ :=
  u16 (cfg.bufferSize * 9 / 10)

/-- The flush decision at the end of `logDetection`. -/
def queueFlushAfterLog (service : HistoryService cfg) (eventId : ℕ) :
    HistoryService cfg :=
  let shouldFlush := service.needsNvsFlush
  let isCriticallyFull :=
    decide (criticalFlushThreshold cfg ≤ service.state.getEventCount)
  let shouldQueueFlush :=
    isCriticallyFull || (shouldFlush && !service.bleConnected)
  if shouldQueueFlush && !service.flushPending then
    service.queueFlush eventId
  else service

/-- What `logDetection` does once the event is in the ring. -/
def afterAppend (service : HistoryService cfg) (clock : ClockMicros)
    (state : RTCState cfg) : HistoryService cfg × LogResult :=
  let logged := { service with
    state := state
    eventsSinceFlush := u8 (service.eventsSinceFlush + 1) }
  (logged.queueFlushAfterLog state.globalEventId,
    { eventId := state.globalEventId
      lastKnownEpoch :=
        if minValidEpoch ≤ clock.time then some clock.time else none })

def logDetection (service : HistoryService cfg) (locked : Bool)
    (clock : ClockMicros) (durationMs : ℕ) :
    Option (HistoryService cfg × LogResult) :=
  if service.initialized && locked then
    (service.state.appendEvent clock durationMs
      service.timeSyncReceivedThisBoot).map (service.afterAppend clock)
  else some (service, ⟨0, none⟩)

def getNextUnsynced (service : HistoryService cfg) (locked : Bool) :
    Option (Option DetectionEvent) :=
  if service.initialized && locked then
    (service.state.scanLive always visitNextUnsynced none).map Prod.snd
  else some none

/-- The two collecting queries report success also when the lock failed. -/
def collectEvents (service : HistoryService cfg) (locked : Bool)
    (wanted : DetectionEvent → Bool) (maxCount : ℕ) :
    Option (Bool × List DetectionEvent) :=
  if service.initialized then
    if locked then
      (service.state.scanLive (belowLimit maxCount) (visitCollect wanted)
        []).map fun result => (true, result.2)
    else some (true, [])
  else some (false, [])

def getUnsyncedEvents (service : HistoryService cfg) (locked : Bool)
    (maxCount : ℕ) : Option (Bool × List DetectionEvent) :=
  service.collectEvents locked (fun event => !event.isSynced) maxCount

def getEventsSince (service : HistoryService cfg) (locked : Bool)
    (sinceId maxCount : ℕ) : Option (Bool × List DetectionEvent) :=
  service.collectEvents locked (fun event => sinceId < event.id) maxCount

def hasPendingData (service : HistoryService cfg) (locked : Bool) :
    Option Bool :=
  if service.initialized && locked then
    (service.state.scanLive always (visitAny fun event => !event.isSynced)
      false).map Prod.snd
  else some false

def getPendingCount (service : HistoryService cfg) (locked : Bool) :
    Option ℕ :=
  if service.initialized && locked then
    (service.state.scanLive always visitCountUnsynced 0).map Prod.snd
  else some 0

/-- Unlike its siblings this query does not ask for `_initialized`. -/
def hasOverflowed (service : HistoryService cfg) (locked : Bool) :
    Option Bool :=
  if locked then
    (service.state.scanLive always (visitAny DetectionEvent.wasOverflow)
      false).map Prod.snd
  else some false

/-- The scanned slots, written in place; the checksum is renewed only after a
change. -/
def withBuffer (service : HistoryService cfg)
    (buffer : Vector DetectionEvent cfg.bufferSize) (changed : Bool) :
    HistoryService cfg :=
  let state := { service.state with buffer := buffer }
  { service with state := if changed then state.updateCRC else state }

def markAsSynced (service : HistoryService cfg) (locked : Bool)
    (eventId : ℕ) : Option (HistoryService cfg × Bool) :=
  if service.initialized && locked then
    (service.state.scanLive always (visitMarkSynced eventId) false).map
      fun (buffer, found) => (service.withBuffer buffer found, found)
  else some (service, false)

/-- The loop over the requested identifiers, one scan for each. -/
def markEach (head tail : ℕ) :
    List ℕ → Vector DetectionEvent cfg.bufferSize → ℕ →
      Option (Vector DetectionEvent cfg.bufferSize × ℕ)
  | [], buffer, markedCount => some (buffer, markedCount)
  | eventId :: rest, buffer, markedCount =>
      (scan always (visitMarkCounting eventId) head cfg.bufferSize tail
        buffer markedCount).bind fun (buffer, markedCount) =>
          markEach head tail rest buffer markedCount

def markMultipleAsSynced (service : HistoryService cfg) (locked : Bool)
    (batch : EventIdBatch) : Option (HistoryService cfg × ℕ) :=
  if service.initialized && locked && batch.eventIds.length != 0 then
    (markEach service.state.head service.state.tail batch.eventIds
      service.state.buffer 0).map fun (buffer, markedCount) =>
        (service.withBuffer buffer (decide (0 < markedCount)), markedCount)
  else some (service, 0)

def clear (service : HistoryService cfg) (locked : Bool) :
    HistoryService cfg :=
  if locked then
    { service with
      state := RTCState.updateCRC { service.state with
        head := 0
        tail := 0
        globalEventId := 0
        buffer := Vector.replicate cfg.bufferSize DetectionEvent.zero } }
  else service

/-- The clock that `applyTimeSync` sets, from the epoch and `millis`. -/
def syncedClock (currentEpoch millis : ℕ) : ClockMicros :=
  ClockMicros.settimeofday currentEpoch (millis % 1000 * 1000)

/-- The write-back and the flush request at the end of `applyTimeSync`. -/
def afterBackfill (service : HistoryService cfg)
    (buffer : Vector DetectionEvent cfg.bufferSize) (updatedCount : ℕ) :
    HistoryService cfg :=
  let updated := decide (0 < updatedCount)
  let backfilled := service.withBuffer buffer updated
  if updated && backfilled.storageWorkerRunning &&
      !backfilled.flushPending then
    backfilled.queueFlush 0
  else backfilled

/-- The clock is replaced, and the flag set, before the lock is taken; the
uptime is read from the clock that was just set.  The second result is the
new clock. -/
def applyTimeSync (service : HistoryService cfg) (locked : Bool)
    (millis currentEpoch : ℕ) :
    Option (HistoryService cfg × Option ClockMicros) :=
  if service.initialized then
    let clock := syncedClock currentEpoch millis
    let service := { service with timeSyncReceivedThisBoot := true }
    let currentUptime := getSystemUptime clock
    if locked then
      (service.state.scanLive always
        (visitBackfill service.state.bootCount currentEpoch currentUptime)
        0).map fun (buffer, updatedCount) =>
          (service.afterBackfill buffer updatedCount, some clock)
    else some (service, some clock)
  else some (service, none)

def trackConnection (service : HistoryService cfg) (connected : Bool)
    (millis : ℕ) : HistoryService cfg :=
  { service with
    bleConnected := connected
    connectionStartTime :=
      if !service.bleConnected && connected then millis
      else if service.bleConnected && !connected then 0
      else service.connectionStartTime }

/-- A flush that was put off during the connection is queued when it ends. -/
def setBleConnected (service : HistoryService cfg) (connected : Bool)
    (millis : ℕ) : HistoryService cfg :=
  let tracked := service.trackConnection connected millis
  if service.bleConnected && !connected && tracked.needsNvsFlush &&
      !tracked.flushPending then
    tracked.queueFlush tracked.state.globalEventId
  else tracked

/-- Raise the counter and ask for a flush on the next occasion. -/
def raiseEventId (service : HistoryService cfg) (newId : ℕ) :
    HistoryService cfg :=
  { service with
    state := RTCState.updateCRC { service.state with
      globalEventId := newId }
    eventsSinceFlush := u8 cfg.nvsFlushThreshold }

/-- The second result tells that no command could be queued, in which case
the source goes on to call `flushToNvs` itself. -/
def fastForwardEventId (service : HistoryService cfg) (locked : Bool)
    (newId : ℕ) : HistoryService cfg × Bool :=
  if service.initialized && locked &&
      decide (service.state.globalEventId < newId) then
    let raised := service.raiseEventId newId
    if raised.storageWorkerRunning then
      let queued := raised.queueStorageCommand .forceFlush newId
      (queued.1, !queued.2)
    else (raised, true)
  else (service, false)

/-! ## What the operations leave alone -/

/-- The queue indices, the counters and the service flag are the same. -/
structure SameIndices (before after : HistoryService cfg) : Prop where
  initialized : after.initialized = before.initialized
  head : after.state.head = before.state.head
  tail : after.state.tail = before.state.tail
  counter : after.state.globalEventId = before.state.globalEventId
  bootCount : after.state.bootCount = before.state.bootCount

theorem SameIndices.refl (service : HistoryService cfg) :
    SameIndices service service :=
  ⟨rfl, rfl, rfl, rfl, rfl⟩

@[simp] theorem state_queueFlushAfterLog (service : HistoryService cfg)
    (eventId : ℕ) :
    (service.queueFlushAfterLog eventId).state = service.state := by
  unfold queueFlushAfterLog
  dsimp only
  split <;> simp

@[simp] theorem initialized_queueFlushAfterLog
    (service : HistoryService cfg) (eventId : ℕ) :
    (service.queueFlushAfterLog eventId).initialized =
      service.initialized := by
  unfold queueFlushAfterLog
  dsimp only
  split <;> simp

@[simp] theorem state_afterAppend (service : HistoryService cfg)
    (clock : ClockMicros) (state : RTCState cfg) :
    (service.afterAppend clock state).1.state = state := by
  simp [afterAppend]

@[simp] theorem initialized_afterAppend (service : HistoryService cfg)
    (clock : ClockMicros) (state : RTCState cfg) :
    (service.afterAppend clock state).1.initialized =
      service.initialized := by
  simp [afterAppend]

theorem state_withBuffer (service : HistoryService cfg)
    (buffer : Vector DetectionEvent cfg.bufferSize) (changed : Bool) :
    ∃ crc32, (service.withBuffer buffer changed).state =
      { service.state with buffer := buffer, crc32 := crc32 } := by
  cases changed with
  | false => exact ⟨service.state.crc32, rfl⟩
  | true => exact ⟨_, rfl⟩

theorem sameIndices_withBuffer (service : HistoryService cfg)
    (buffer : Vector DetectionEvent cfg.bufferSize) (changed : Bool) :
    SameIndices service (service.withBuffer buffer changed) := by
  obtain ⟨crc32, hstate⟩ := service.state_withBuffer buffer changed
  constructor
  · rfl
  all_goals rw [hstate]

theorem sameIndices_afterBackfill (service : HistoryService cfg)
    (buffer : Vector DetectionEvent cfg.bufferSize) (updatedCount : ℕ) :
    SameIndices service (service.afterBackfill buffer updatedCount) := by
  have hwritten := service.sameIndices_withBuffer buffer
    (decide (0 < updatedCount))
  unfold afterBackfill
  dsimp only
  split
  · constructor
    · simpa using hwritten.initialized
    · simpa using hwritten.head
    · simpa using hwritten.tail
    · simpa using hwritten.counter
    · simpa using hwritten.bootCount
  · exact hwritten

@[simp] theorem state_setBleConnected (service : HistoryService cfg)
    (connected : Bool) (millis : ℕ) :
    (service.setBleConnected connected millis).state = service.state := by
  unfold setBleConnected
  dsimp only
  split
  · exact state_queueFlush _ _
  · rfl

@[simp] theorem initialized_setBleConnected (service : HistoryService cfg)
    (connected : Bool) (millis : ℕ) :
    (service.setBleConnected connected millis).initialized =
      service.initialized := by
  unfold setBleConnected
  dsimp only
  split
  · exact initialized_queueFlush _ _
  · rfl

theorem logDetection_cases {service : HistoryService cfg} {locked : Bool}
    {clock : ClockMicros} {durationMs : ℕ}
    {logged : HistoryService cfg × LogResult}
    (hlog : service.logDetection locked clock durationMs = some logged) :
    (service.initialized && locked) = true ∧
        (∃ state, service.state.appendEvent clock durationMs
            service.timeSyncReceivedThisBoot = some state ∧
          logged = service.afterAppend clock state) ∨
      (service.initialized && locked) = false ∧
        logged = (service, ⟨0, none⟩) := by
  unfold logDetection at hlog
  split at hlog
  next hready =>
    obtain ⟨state, happend, rfl⟩ := Option.map_eq_some_iff.mp hlog
    exact .inl ⟨hready, state, happend, rfl⟩
  next hready =>
    cases Option.some.inj hlog
    exact .inr ⟨Bool.not_eq_true _ ▸ hready, rfl⟩

theorem markAsSynced_cases {service : HistoryService cfg} {locked : Bool}
    {eventId : ℕ} {marked : HistoryService cfg × Bool}
    (hmark : service.markAsSynced locked eventId = some marked) :
    (∃ buffer found, service.state.scanLive always
          (visitMarkSynced eventId) false = some (buffer, found) ∧
        marked = (service.withBuffer buffer found, found)) ∨
      marked = (service, false) := by
  unfold markAsSynced at hmark
  split at hmark
  · obtain ⟨result, hscan, rfl⟩ := Option.map_eq_some_iff.mp hmark
    exact .inl ⟨result.1, result.2, hscan, rfl⟩
  · exact .inr (Option.some.inj hmark).symm

theorem applyTimeSync_cases {service : HistoryService cfg} {locked : Bool}
    {millis currentEpoch : ℕ}
    {synced : HistoryService cfg × Option ClockMicros}
    (hsync : service.applyTimeSync locked millis currentEpoch =
      some synced) :
    (∃ buffer updatedCount, synced.1 =
        { service with timeSyncReceivedThisBoot := true }.afterBackfill
          buffer updatedCount) ∨
      synced.1 = { service with timeSyncReceivedThisBoot := true } ∨
      synced.1 = service := by
  unfold applyTimeSync at hsync
  split at hsync
  · cases locked with
    | true =>
        obtain ⟨result, -, rfl⟩ := Option.map_eq_some_iff.mp hsync
        exact .inl ⟨result.1, result.2, rfl⟩
    | false =>
        cases Option.some.inj hsync
        exact .inr (.inl rfl)
  · cases Option.some.inj hsync
    exact .inr (.inr rfl)

theorem markAsSynced_frame {service : HistoryService cfg}
    (hhead : service.state.head < cfg.bufferSize)
    (htail : service.state.tail < cfg.bufferSize) (locked : Bool)
    (eventId : ℕ) :
    ∃ result, service.markAsSynced locked eventId = some result ∧
      SameIndices service result.1 := by
  unfold markAsSynced
  split
  next hready =>
    obtain ⟨buffer, hscan, _⟩ := RTCState.scanLive_eq hhead htail always
      (visitMarkSynced eventId) false
    rw [hscan]
    exact ⟨_, rfl, service.sameIndices_withBuffer buffer _⟩
  next => exact ⟨_, rfl, .refl service⟩

theorem markEach_isSome {head tail : ℕ} (hhead : head < cfg.bufferSize)
    (htail : tail < cfg.bufferSize) (eventIds : List ℕ)
    (buffer : Vector DetectionEvent cfg.bufferSize) (markedCount : ℕ) :
    ∃ result, markEach head tail eventIds buffer markedCount =
      some result := by
  induction eventIds generalizing buffer markedCount with
  | nil => exact ⟨_, rfl⟩
  | cons eventId rest ih =>
      obtain ⟨buffer', hscan, _⟩ :=
        scan_eq always (visitMarkCounting eventId) hhead htail
          (used_lt htail hhead).le buffer markedCount
      obtain ⟨result, hrest⟩ := ih buffer' _
      exact ⟨result, by rw [markEach, hscan]; exact hrest⟩

theorem markMultipleAsSynced_frame {service : HistoryService cfg}
    (hhead : service.state.head < cfg.bufferSize)
    (htail : service.state.tail < cfg.bufferSize) (locked : Bool)
    (batch : EventIdBatch) :
    ∃ result, service.markMultipleAsSynced locked batch = some result ∧
      SameIndices service result.1 := by
  unfold markMultipleAsSynced
  split
  next hready =>
    obtain ⟨result, hmark⟩ := markEach_isSome hhead htail batch.eventIds
      service.state.buffer 0
    rw [hmark]
    exact ⟨_, rfl, service.sameIndices_withBuffer _ _⟩
  next => exact ⟨_, rfl, .refl service⟩

theorem applyTimeSync_frame {service : HistoryService cfg}
    (hhead : service.state.head < cfg.bufferSize)
    (htail : service.state.tail < cfg.bufferSize) (locked : Bool)
    (millis currentEpoch : ℕ) :
    ∃ result, service.applyTimeSync locked millis currentEpoch =
        some result ∧
      SameIndices service result.1 := by
  unfold applyTimeSync
  split
  next hready =>
    dsimp only
    cases locked with
    | false => exact ⟨_, rfl, ⟨rfl, rfl, rfl, rfl, rfl⟩⟩
    | true =>
        obtain ⟨buffer, hscan, _⟩ := RTCState.scanLive_eq hhead htail
          always (visitBackfill service.state.bootCount currentEpoch
            (getSystemUptime (syncedClock currentEpoch millis))) 0
        have hframe := sameIndices_afterBackfill
          { service with timeSyncReceivedThisBoot := true } buffer
        simp only [if_true, hscan, Option.map_some]
        exact ⟨_, rfl, ⟨(hframe _).initialized, (hframe _).head,
          (hframe _).tail, (hframe _).counter, (hframe _).bootCount⟩⟩
  next => exact ⟨_, rfl, .refl service⟩

theorem fastForwardEventId_frame (service : HistoryService cfg)
    (locked : Bool) (newId : ℕ) :
    ∃ counter, service.state.globalEventId ≤ counter ∧
      SameIndices (service.raiseEventId counter)
        (service.fastForwardEventId locked newId).1 := by
  unfold fastForwardEventId
  split
  next hraise =>
    have hbehind : service.state.globalEventId < newId := by
      simp at hraise
      exact hraise.2
    refine ⟨newId, hbehind.le, ?_⟩
    dsimp only
    split
    · constructor <;> simp
    · exact .refl _
  next =>
    exact ⟨service.state.globalEventId, le_rfl, ⟨rfl, rfl, rfl, rfl, rfl⟩⟩

/-! ## What the queries return -/

section Queries

variable {service : HistoryService cfg}

theorem getNextUnsynced_ends (hhead : service.state.head < cfg.bufferSize)
    (htail : service.state.tail < cfg.bufferSize) (locked : Bool) :
    ∃ event?, service.getNextUnsynced locked = some event? := by
  unfold getNextUnsynced
  split
  · obtain ⟨buffer, hscan, -⟩ := RTCState.scanLive_eq hhead htail always
      visitNextUnsynced none
    rw [hscan]
    exact ⟨_, rfl⟩
  · exact ⟨none, rfl⟩

theorem getEventsSince_ends (hhead : service.state.head < cfg.bufferSize)
    (htail : service.state.tail < cfg.bufferSize) (locked : Bool)
    (sinceId maxCount : ℕ) :
    ∃ result, service.getEventsSince locked sinceId maxCount =
      some result := by
  unfold getEventsSince collectEvents
  split
  · split
    · obtain ⟨buffer, hscan, -⟩ := RTCState.scanLive_eq hhead htail
        (belowLimit maxCount) (visitCollect fun event => sinceId < event.id)
        []
      rw [hscan]
      exact ⟨_, rfl⟩
    · exact ⟨_, rfl⟩
  · exact ⟨_, rfl⟩

theorem getNextUnsynced_eq (hinit : service.initialized = true)
    (hhead : service.state.head < cfg.bufferSize)
    (htail : service.state.tail < cfg.bufferSize) :
    service.getNextUnsynced true =
      some (service.state.ringWindow.find? fun event => !event.isSynced) := by
  obtain ⟨buffer, hscan, -⟩ := RTCState.scanLive_eq hhead htail always
    visitNextUnsynced none
  have hfound : (scanList always visitNextUnsynced service.state.ringWindow
      none).2 =
        service.state.ringWindow.find? fun event => !event.isSynced := by
    rw [visitNextUnsynced, scanList_firstMatch_snd]
    cases service.state.ringWindow.find? fun event => !event.isSynced with
    | none => rfl
    | some event => rfl
  simp only [getNextUnsynced, hinit, hscan, hfound, Bool.and_self, if_true,
    Option.map_some]

theorem collectEvents_eq (hinit : service.initialized = true)
    (hhead : service.state.head < cfg.bufferSize)
    (htail : service.state.tail < cfg.bufferSize)
    (wanted : DetectionEvent → Bool) (maxCount : ℕ) :
    service.collectEvents true wanted maxCount = some (true,
      (service.state.ringWindow.filter wanted).take maxCount) := by
  obtain ⟨buffer, hscan, -⟩ := RTCState.scanLive_eq hhead htail
    (belowLimit maxCount) (visitCollect wanted) []
  rw [visitCollect, scanList_collect _ _ _ _ (Nat.zero_le _)] at hscan
  simp [collectEvents, hinit, visitCollect, hscan]

end Queries

end HistoryService

end SensorFirmware
