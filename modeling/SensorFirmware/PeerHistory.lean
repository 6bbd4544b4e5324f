import SensorFirmware.HandshakeWrites

/-!
# The ring behind an open link

Two histories are compared slot by slot, with the identifiers or without them
and with the SYNCED flags or without them.  What the device does keeps them the
same in this sense.
-/

namespace SensorFirmware

open CyclicBuffer

variable {cfg : HistoryConfig} {σ : Type}

namespace DetectionEvent

/-- The event with its identifier and its SYNCED flag only if they count. -/
def masked (ids marks : Bool) (event : DetectionEvent) : DetectionEvent :=
  { event with
    id := if ids then event.id else 0
    flags := if marks then event.flags else event.flags &&& 0xFE#8 }

private theorem masked_flag (flags : Byte) :
    (flags ||| 0x01#8) &&& 0xFE#8 = flags &&& 0xFE#8 := by
  revert flags
  decide

theorem masked_setSynced (ids : Bool) (event : DetectionEvent) :
    event.setSynced.masked ids false = event.masked ids false := by
  unfold setSynced masked
  simp only [Bool.false_eq_true, if_false, masked_flag]

theorem masked_backfill (ids marks : Bool) (currentEpoch uptime : ℕ)
    (event : DetectionEvent) :
    (backfill currentEpoch uptime event).masked ids marks =
      backfill currentEpoch uptime (event.masked ids marks) := rfl

theorem needsBackfill_masked (ids marks : Bool) (bootCount : ℕ)
    (event : DetectionEvent) :
    needsBackfill bootCount (event.masked ids marks) =
      needsBackfill bootCount event := rfl

theorem masked_freshEvent {ids : Bool} {id id' : ℕ}
    (hids : ids = true → id = id') (marks : Bool) (bootCount : ℕ)
    (clock : ClockMicros) (durationMs : ℕ) (overflow : Bool) :
    (freshEvent id bootCount clock durationMs overflow).masked ids marks =
      (freshEvent id' bootCount clock durationMs overflow).masked ids
        marks := by
  cases ids with
  | true => rw [hids rfl]
  | false => rfl

end DetectionEvent

open DetectionEvent

/-- The same ring, as far as it counts. -/
structure SameRing (ids marks : Bool) (left right : HistoryService cfg) :
    Prop where
  initialized : left.initialized = right.initialized
  head : left.state.head = right.state.head
  tail : left.state.tail = right.state.tail
  bootCount : left.state.bootCount = right.state.bootCount
  counter : ids = true →
    left.state.globalEventId = right.state.globalEventId
  buffer : left.state.buffer.map (masked ids marks) =
    right.state.buffer.map (masked ids marks)

/-- Nothing happens to the ring. -/
structure KeepsRing (before after : HistoryService cfg) : Prop where
  initialized : after.initialized = before.initialized
  state : after.state = before.state

namespace SameRing

variable {ids marks : Bool} {left right : HistoryService cfg}

theorem refl (ids marks : Bool) (service : HistoryService cfg) :
    SameRing ids marks service service :=
  ⟨rfl, rfl, rfl, rfl, fun _ => rfl, rfl⟩

theorem symm (hsame : SameRing ids marks left right) :
    SameRing ids marks right left where
  initialized := hsame.initialized.symm
  head := hsame.head.symm
  tail := hsame.tail.symm
  bootCount := hsame.bootCount.symm
  counter hids := (hsame.counter hids).symm
  buffer := hsame.buffer.symm

theorem trans {middle : HistoryService cfg}
    (hfirst : SameRing ids marks left middle)
    (hsecond : SameRing ids marks middle right) :
    SameRing ids marks left right where
  initialized := hfirst.initialized.trans hsecond.initialized
  head := hfirst.head.trans hsecond.head
  tail := hfirst.tail.trans hsecond.tail
  bootCount := hfirst.bootCount.trans hsecond.bootCount
  counter hids := (hfirst.counter hids).trans (hsecond.counter hids)
  buffer := hfirst.buffer.trans hsecond.buffer

theorem of_keeps {left' right' : HistoryService cfg}
    (hsame : SameRing ids marks left right) (hleft : KeepsRing left left')
    (hright : KeepsRing right right') : SameRing ids marks left' right' := by
  refine ⟨?_, ?_, ?_, ?_, ?_, ?_⟩
  · rw [hleft.initialized, hright.initialized, hsame.initialized]
  · rw [hleft.state, hright.state, hsame.head]
  · rw [hleft.state, hright.state, hsame.tail]
  · rw [hleft.state, hright.state, hsame.bootCount]
  · intro hids
    rw [hleft.state, hright.state, hsame.counter hids]
  · rw [hleft.state, hright.state, hsame.buffer]

end SameRing

/-! ## Detections and time synchronisation -/

namespace RTCState

theorem appendEvent_some {state after : RTCState cfg} {clock : ClockMicros}
    {durationMs : ℕ} {timeSynced : Bool}
    (happend : state.appendEvent clock durationMs timeSynced = some after) :
    ∃ hhead : state.head < cfg.bufferSize,
      after = updateCRC { state with
        head := next cfg.bufferSize state.head
        tail := if next cfg.bufferSize state.head = state.tail then
            next cfg.bufferSize state.tail
          else state.tail
        globalEventId := u32 (state.globalEventId + 1)
        buffer := state.buffer.set state.head
          (freshEvent (u32 (state.globalEventId + 1)) state.bootCount clock
            durationMs
            (decide (next cfg.bufferSize state.head = state.tail))) } := by
  unfold appendEvent at happend
  split at happend
  next hhead =>
    refine ⟨hhead, ?_⟩
    simp only [recordDetection_eq, decide_eq_true_eq] at happend
    exact (Option.some.inj happend).symm
  · cases happend

end RTCState

namespace HistoryService

theorem buffer_withBuffer (service : HistoryService cfg)
    (buffer : Vector DetectionEvent cfg.bufferSize) (changed : Bool) :
    (service.withBuffer buffer changed).state.buffer = buffer := by
  obtain ⟨crc32, hstate⟩ := service.state_withBuffer buffer changed
  rw [hstate]

theorem buffer_afterBackfill (service : HistoryService cfg)
    (buffer : Vector DetectionEvent cfg.bufferSize) (updatedCount : ℕ) :
    (service.afterBackfill buffer updatedCount).state.buffer = buffer := by
  unfold afterBackfill
  dsimp only
  split
  · rw [state_queueFlush, buffer_withBuffer]
  · exact buffer_withBuffer service buffer _

end HistoryService

namespace SameRing

variable {ids marks : Bool} {left right : HistoryService cfg}

theorem logDetection (hsame : SameRing ids marks left right) {locked : Bool}
    {clock : ClockMicros} {durationMs : ℕ}
    {logged logged' : HistoryService cfg × LogResult}
    (hleft : left.logDetection locked clock durationMs = some logged)
    (hright : right.logDetection locked clock durationMs = some logged') :
    SameRing ids marks logged.1 logged'.1 := by
  unfold HistoryService.logDetection at hleft hright
  rw [← hsame.initialized] at hright
  by_cases hready : (left.initialized && locked) = true
  · rw [if_pos hready] at hleft hright
    obtain ⟨state, happend, rfl⟩ := Option.map_eq_some_iff.mp hleft
    obtain ⟨state', happend', rfl⟩ := Option.map_eq_some_iff.mp hright
    obtain ⟨hhead, rfl⟩ := RTCState.appendEvent_some happend
    obtain ⟨hhead', rfl⟩ := RTCState.appendEvent_some happend'
    refine ⟨?_, ?_, ?_, ?_, ?_, ?_⟩
    · rw [HistoryService.initialized_afterAppend,
        HistoryService.initialized_afterAppend, hsame.initialized]
    · rw [HistoryService.state_afterAppend, HistoryService.state_afterAppend]
      dsimp only [RTCState.updateCRC]
      rw [hsame.head]
    · rw [HistoryService.state_afterAppend, HistoryService.state_afterAppend]
      dsimp only [RTCState.updateCRC]
      rw [hsame.head, hsame.tail]
    · rw [HistoryService.state_afterAppend, HistoryService.state_afterAppend]
      exact hsame.bootCount
    · intro hids
      rw [HistoryService.state_afterAppend, HistoryService.state_afterAppend]
      dsimp only [RTCState.updateCRC]
      rw [hsame.counter hids]
    · rw [HistoryService.state_afterAppend, HistoryService.state_afterAppend]
      dsimp only [RTCState.updateCRC]
      have hid : ids = true → u32 (left.state.globalEventId + 1) =
          u32 (right.state.globalEventId + 1) := by
        intro hids
        rw [hsame.counter hids]
      rw [Vector.map_set, Vector.map_set, hsame.buffer,
        masked_freshEvent hid]
      simp only [hsame.head, hsame.tail, hsame.bootCount]
  · rw [if_neg hready] at hleft hright
    cases Option.some.inj hleft
    cases Option.some.inj hright
    exact hsame

theorem writeBack (hsame : SameRing ids marks left right)
    {left' right' : HistoryService cfg}
    (hleft : HistoryService.SameIndices left left')
    (hright : HistoryService.SameIndices right right')
    (hbuffers : left'.state.buffer.map (masked ids marks) =
      right'.state.buffer.map (masked ids marks)) :
    SameRing ids marks left' right' := by
  refine ⟨?_, ?_, ?_, ?_, ?_, hbuffers⟩
  · rw [hleft.initialized, hright.initialized, hsame.initialized]
  · rw [hleft.head, hright.head, hsame.head]
  · rw [hleft.tail, hright.tail, hsame.tail]
  · rw [hleft.bootCount, hright.bootCount, hsame.bootCount]
  · intro hids
    rw [hleft.counter, hright.counter, hsame.counter hids]

theorem applyTimeSync (hsame : SameRing ids marks left right)
    {locked : Bool} {millis currentEpoch : ℕ}
    {synced synced' : HistoryService cfg × Option ClockMicros}
    (hleft : left.applyTimeSync locked millis currentEpoch = some synced)
    (hright : right.applyTimeSync locked millis currentEpoch =
      some synced') :
    SameRing ids marks synced.1 synced'.1 := by
  unfold HistoryService.applyTimeSync at hleft hright
  by_cases hinitialized : left.initialized = true
  · have hinitialized' : right.initialized = true := by
      rw [← hsame.initialized, hinitialized]
    rw [if_pos hinitialized] at hleft
    rw [if_pos hinitialized'] at hright
    cases locked with
    | false =>
        cases Option.some.inj hleft
        cases Option.some.inj hright
        exact hsame.of_keeps ⟨rfl, rfl⟩ ⟨rfl, rfl⟩
    | true =>
        dsimp only at hleft hright
        rw [if_pos rfl] at hleft hright
        have hscans : Option.Rel (fun first second =>
            first.1.map (masked ids marks) =
                second.1.map (masked ids marks) ∧ first.2 = second.2)
            (left.state.scanLive always (visitBackfill left.state.bootCount
              currentEpoch (getSystemUptime
                (HistoryService.syncedClock currentEpoch millis))) 0)
            (right.state.scanLive always (visitBackfill
              right.state.bootCount currentEpoch (getSystemUptime
                (HistoryService.syncedClock currentEpoch millis))) 0) := by
          unfold RTCState.scanLive
          rw [← hsame.head, ← hsame.tail, ← hsame.bootCount]
          apply scan_map_congr _ hsame.buffer
          intro acc a b hab
          have hneeds : needsBackfill left.state.bootCount a =
              needsBackfill left.state.bootCount b := by
            rw [← needsBackfill_masked ids marks _ a, hab,
              needsBackfill_masked]
          unfold visitBackfill everyMatch
          rw [hneeds]
          split
          · refine ⟨rfl, ?_⟩
            rw [masked_backfill, masked_backfill, hab]
          · exact ⟨rfl, hab⟩
        obtain ⟨first, hfirst, rfl⟩ := Option.map_eq_some_iff.mp hleft
        obtain ⟨second, hsecond, rfl⟩ := Option.map_eq_some_iff.mp hright
        rw [hfirst, hsecond] at hscans
        cases hscans with
        | some hbuffers =>
            have hstart : SameRing ids marks
                { left with timeSyncReceivedThisBoot := true }
                { right with timeSyncReceivedThisBoot := true } :=
              hsame.of_keeps ⟨rfl, rfl⟩ ⟨rfl, rfl⟩
            apply hstart.writeBack
              (HistoryService.sameIndices_afterBackfill _ _ _)
              (HistoryService.sameIndices_afterBackfill _ _ _)
            rw [HistoryService.buffer_afterBackfill,
              HistoryService.buffer_afterBackfill]
            exact hbuffers.1
  · have hinitialized' : ¬right.initialized = true := by
      rw [← hsame.initialized]
      exact hinitialized
    rw [if_neg hinitialized] at hleft
    rw [if_neg hinitialized'] at hright
    cases Option.some.inj hleft
    cases Option.some.inj hright
    exact hsame

end SameRing

/-! ## Storage commands -/

namespace HistoryService

/-- No command other than a flush is ever queued. -/
def FlushesOnly (service : HistoryService cfg) : Prop :=
  ∀ message ∈ service.storageQueue,
    message.cmd = .saveHit ∨ message.cmd = .forceFlush

theorem FlushesOnly.queueStorageCommand {service : HistoryService cfg}
    (honly : service.FlushesOnly) {cmd : StorageCmd}
    (hcmd : cmd = .saveHit ∨ cmd = .forceFlush) (eventId : ℕ) :
    (service.queueStorageCommand cmd eventId).1.FlushesOnly := by
  unfold HistoryService.queueStorageCommand
  split
  · intro message hmessage
    rcases List.mem_append.mp hmessage with hold | hnew
    · exact honly message hold
    · rw [List.mem_singleton.mp hnew]
      exact hcmd
  · exact honly

theorem FlushesOnly.queueFlush {service : HistoryService cfg}
    (honly : service.FlushesOnly) (eventId : ℕ) :
    (service.queueFlush eventId).FlushesOnly := by
  have hpending : ({ service with flushPending := true } :
      HistoryService cfg).FlushesOnly := honly
  exact hpending.queueStorageCommand (.inl rfl) eventId

theorem FlushesOnly.logDetection {service : HistoryService cfg}
    (honly : service.FlushesOnly) {locked : Bool} {clock : ClockMicros}
    {durationMs : ℕ} {logged : HistoryService cfg × LogResult}
    (hlog : service.logDetection locked clock durationMs = some logged) :
    logged.1.FlushesOnly := by
  rcases logDetection_cases hlog with ⟨-, state, -, rfl⟩ | ⟨-, rfl⟩
  · unfold afterAppend queueFlushAfterLog
    dsimp only
    split
    · have hlogged : ({ service with
          state := state
          eventsSinceFlush := u8 (service.eventsSinceFlush + 1) } :
          HistoryService cfg).FlushesOnly := honly
      exact hlogged.queueFlush _
    · exact honly
  · exact honly

theorem FlushesOnly.applyTimeSync {service : HistoryService cfg}
    (honly : service.FlushesOnly) {locked : Bool}
    {millis currentEpoch : ℕ}
    {synced : HistoryService cfg × Option ClockMicros}
    (hsync : service.applyTimeSync locked millis currentEpoch =
      some synced) :
    synced.1.FlushesOnly := by
  rcases applyTimeSync_cases hsync with ⟨buffer, updatedCount, hsynced⟩ |
    hsynced | hsynced
  · have hwritten : (({ service with timeSyncReceivedThisBoot := true } :
        HistoryService cfg).withBuffer buffer
          (decide (0 < updatedCount))).FlushesOnly := honly
    rw [hsynced]
    unfold afterBackfill
    dsimp only
    split
    · exact hwritten.queueFlush 0
    · exact hwritten
  · rw [hsynced]
    exact honly
  · rw [hsynced]
    exact honly

theorem FlushesOnly.setBleConnected {service : HistoryService cfg}
    (honly : service.FlushesOnly) (connected : Bool) (millis : ℕ) :
    (service.setBleConnected connected millis).FlushesOnly := by
  unfold HistoryService.setBleConnected
  dsimp only
  split
  · have htracked : (service.trackConnection connected millis).FlushesOnly :=
      honly
    exact htracked.queueFlush _
  · exact honly

theorem storageQueue_flushToNvs (service : HistoryService cfg)
    (nvs : HistoryNvs cfg) (env : FlushEnv) :
    (service.flushToNvs nvs env).1.storageQueue = service.storageQueue := by
  unfold flushToNvs
  split
  · rfl
  · dsimp only
    split <;> rfl

theorem storageQueue_processStorageCommand (service : HistoryService cfg)
    (nvs : HistoryNvs cfg) (env : StorageEnv cfg) (cmd : StorageCmd) :
    (service.processStorageCommand nvs env cmd).1.storageQueue =
      service.storageQueue := by
  cases cmd with
  | saveHit => exact storageQueue_flushToNvs service nvs env.flush
  | forceFlush => exact storageQueue_flushToNvs service nvs env.flush
  | restore =>
      unfold processStorageCommand restoreFromNvs
      dsimp only
      split <;> rfl
  | clearNvs => rfl

end HistoryService

namespace KeepsRing

variable {before after : HistoryService cfg}

theorem refl (service : HistoryService cfg) : KeepsRing service service :=
  ⟨rfl, rfl⟩

theorem trans {middle : HistoryService cfg}
    (hfirst : KeepsRing before middle) (hsecond : KeepsRing middle after) :
    KeepsRing before after :=
  ⟨hsecond.initialized.trans hfirst.initialized,
    hsecond.state.trans hfirst.state⟩

theorem setBleConnected (service : HistoryService cfg) (connected : Bool)
    (millis : ℕ) :
    KeepsRing service (service.setBleConnected connected millis) :=
  ⟨service.initialized_setBleConnected connected millis,
    service.state_setBleConnected connected millis⟩

theorem flushToNvs (service : HistoryService cfg) (nvs : HistoryNvs cfg)
    (env : FlushEnv) :
    KeepsRing service (service.flushToNvs nvs env).1 :=
  ⟨service.initialized_flushToNvs nvs env,
    service.state_flushToNvs nvs env⟩

theorem processStorageCommand (service : HistoryService cfg)
    (nvs : HistoryNvs cfg) (env : StorageEnv cfg) {cmd : StorageCmd}
    (hcmd : cmd = .saveHit ∨ cmd = .forceFlush) :
    KeepsRing service (service.processStorageCommand nvs env cmd).1 := by
  have hflushed := flushToNvs service nvs env.flush
  rcases hcmd with rfl | rfl
  · exact ⟨hflushed.initialized, hflushed.state⟩
  · exact ⟨hflushed.initialized, hflushed.state⟩

theorem drainStorage (env : ℕ → StorageEnv cfg)
    (queue : List StorageMessage)
    (honly : ∀ message ∈ queue,
      message.cmd = .saveHit ∨ message.cmd = .forceFlush)
    (storage : HistoryService cfg × HistoryNvs cfg)
    (hqueue : storage.1.storageQueue = queue) :
    KeepsRing storage.1 (HistoryService.drainStorage env queue storage).1 ∧
      (HistoryService.drainStorage env queue storage).1.FlushesOnly := by
  induction queue generalizing storage with
  | nil =>
      refine ⟨.refl _, ?_⟩
      intro message hmessage
      have hempty : (HistoryService.drainStorage env [] storage).1 =
          storage.1 := rfl
      rw [hempty, hqueue] at hmessage
      cases hmessage
  | cons message rest ih =>
      have hcmd := honly message (.head rest)
      have hrest : ∀ other ∈ rest,
          other.cmd = .saveHit ∨ other.cmd = .forceFlush :=
        fun other hother => honly other (.tail message hother)
      have htaken : KeepsRing storage.1
          { storage.1 with storageQueue := rest } := ⟨rfl, rfl⟩
      have hdone := processStorageCommand
        { storage.1 with storageQueue := rest } storage.2 (env rest.length)
        hcmd
      obtain ⟨hlater, hempty⟩ := ih hrest _
        (HistoryService.storageQueue_processStorageCommand
          { storage.1 with storageQueue := rest } storage.2
          (env rest.length) message.cmd)
      exact ⟨(htaken.trans hdone).trans hlater, hempty⟩

end KeepsRing

/-! ## Raising the counter and marking an event -/

namespace SameRing

theorem fastForwardEventId (marks : Bool) (service : HistoryService cfg)
    (locked : Bool) (newId : ℕ) :
    SameRing false marks service
      (service.fastForwardEventId locked newId).1 := by
  obtain ⟨counter, -, hraised⟩ :=
    service.fastForwardEventId_frame locked newId
  have hbuffer : (service.fastForwardEventId locked newId).1.state.buffer =
      service.state.buffer := by
    unfold HistoryService.fastForwardEventId
    split
    · dsimp only
      split
      · rw [HistoryService.state_queueStorageCommand]
        rfl
      · rfl
    · rfl
  refine ⟨hraised.initialized.symm, hraised.head.symm, hraised.tail.symm,
    hraised.bootCount.symm, nofun, ?_⟩
  rw [hbuffer]

theorem fastForward (marks : Bool) (r : Reaction cfg σ) (env : MessageEnv)
    (id : ℕ) :
    SameRing false marks r.history (r.fastForward env id).history := by
  have hraised := fastForwardEventId marks r.history env.historyLocked id
  unfold Reaction.fastForward
  dsimp only
  split
  · have hflushed := KeepsRing.flushToNvs
      (r.history.fastForwardEventId env.historyLocked id).1 r.nvs env.flush
    exact hraised.trans ((refl false marks _).of_keeps (.refl _) hflushed)
  · exact hraised

theorem markAsSynced (ids : Bool) {service : HistoryService cfg}
    {locked : Bool} {eventId : ℕ} {marked : HistoryService cfg × Bool}
    (hmark : service.markAsSynced locked eventId = some marked) :
    SameRing ids false service marked.1 := by
  rcases HistoryService.markAsSynced_cases hmark with
    ⟨buffer, found, hscan, rfl⟩ | rfl
  · apply (refl ids false service).writeBack (.refl service)
      (service.sameIndices_withBuffer _ _)
    rw [HistoryService.buffer_withBuffer]
    symm
    refine scan_map_eq ?_ hscan
    intro found event
    unfold visitMarkSynced firstMatch
    split
    · exact masked_setSynced ids event
    · rfl
  · exact refl ids false service

end SameRing

namespace HistoryService

theorem FlushesOnly.fastForward {r : Reaction cfg σ}
    (honly : r.history.FlushesOnly) (env : MessageEnv) (id : ℕ) :
    (r.fastForward env id).history.FlushesOnly := by
  have hraised : (r.history.fastForwardEventId env.historyLocked
      id).1.FlushesOnly := by
    unfold fastForwardEventId
    split
    · dsimp only
      have hcounted : (r.history.raiseEventId id).FlushesOnly := honly
      split
      · exact hcounted.queueStorageCommand (.inr rfl) id
      · exact hcounted
    · exact honly
  unfold Reaction.fastForward
  dsimp only
  split
  · unfold FlushesOnly
    dsimp only
    rw [storageQueue_flushToNvs]
    exact hraised
  · exact hraised

theorem FlushesOnly.markAsSynced {service : HistoryService cfg}
    (honly : service.FlushesOnly) {locked : Bool} {eventId : ℕ}
    {marked : HistoryService cfg × Bool}
    (hmark : service.markAsSynced locked eventId = some marked) :
    marked.1.FlushesOnly := by
  rcases markAsSynced_cases hmark with ⟨buffer, found, -, rfl⟩ | rfl
  · exact honly
  · exact honly

end HistoryService

/-- A write changes what does not count, unless it raises the counter or
acknowledges a detection where that counts. -/
theorem HandshakeEffect.sameRing {ids marks : Bool} {env : MessageEnv}
    {data : List Byte} {before after : ProtocolDevice cfg σ}
    (heffect : HandshakeEffect env data before after)
    (hids : ids = true → ¬before.Raises data)
    (hmarks : marks = true → ¬before.Acknowledges data) :
    SameRing ids marks before.history after.history := by
  rcases heffect with ⟨handler, rfl⟩ | ⟨hraises, id, handler, rfl⟩ |
    ⟨hacknowledges, eventId, marked, hmarked, handler, rfl⟩
  · exact .refl ids marks before.history
  · cases ids with
    | true => exact absurd hraises (hids rfl)
    | false => exact .fastForward marks before.react env id
  · cases marks with
    | true => exact absurd hacknowledges (hmarks rfl)
    | false => exact .markAsSynced ids hmarked

theorem HandshakeEffect.flushesOnly {env : MessageEnv} {data : List Byte}
    {before after : ProtocolDevice cfg σ}
    (heffect : HandshakeEffect env data before after)
    (honly : before.history.FlushesOnly) : after.history.FlushesOnly := by
  rcases heffect with ⟨handler, rfl⟩ | ⟨-, id, handler, rfl⟩ |
    ⟨-, eventId, marked, hmarked, handler, rfl⟩
  · exact honly
  · have hreact : before.react.history.FlushesOnly := honly
    exact hreact.fastForward env id
  · exact honly.markAsSynced hmarked

end SensorFirmware
