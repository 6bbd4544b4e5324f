import SensorFirmware.PeerHistory

/-!
# The live events seen through a function

Marks and backfills rewrite live slots in place.  What a function of the events
does not see of these rewrites stays the same for the whole ring, and so do the
indices.
-/

namespace SensorFirmware

open CyclicBuffer

variable {cfg : HistoryConfig} {β : Type*} {f : DetectionEvent → β}

/-- The same slots are live, and their events look the same through `f`. -/
structure SameView (f : DetectionEvent → β) (before after : RTCState cfg) :
    Prop where
  head : after.head = before.head
  tail : after.tail = before.tail
  bootCount : after.bootCount = before.bootCount
  events : after.ringWindow.map f = before.ringWindow.map f

namespace SameView

theorem refl (state : RTCState cfg) : SameView f state state :=
  ⟨rfl, rfl, rfl, rfl⟩

theorem of_eq {before after : RTCState cfg} (hsame : after = before) :
    SameView f before after := by
  rw [hsame]
  exact refl before

theorem of_buffer {before after : HistoryService cfg}
    (hsame : HistoryService.SameIndices before after)
    (hbuffer : after.state.buffer.map f = before.state.buffer.map f) :
    SameView f before.state after.state := by
  refine ⟨hsame.head, hsame.tail, hsame.bootCount, ?_⟩
  unfold RTCState.ringWindow
  rw [← window_map, ← window_map, hbuffer, hsame.head, hsame.tail]

theorem length_eq {before after : RTCState cfg}
    (hsame : SameView f before after) :
    after.ringWindow.length = before.ringWindow.length := by
  have hlength := congrArg List.length hsame.events
  simpa using hlength

theorem forall_mem_iff {g : DetectionEvent → DetectionEvent}
    {P : DetectionEvent → Prop} (hP : ∀ event, P event ↔ P (g event))
    {before after : RTCState cfg} (hsame : SameView g before after) :
    (∀ event ∈ after.ringWindow, P event) ↔
      ∀ event ∈ before.ringWindow, P event := by
  have hlooks : ∀ events : List DetectionEvent,
      (∀ event ∈ events, P event) ↔ ∀ event ∈ events.map g, P event := by
    intro events
    rw [List.forall_mem_map]
    exact forall₂_congr fun event _ => hP event
  rw [hlooks after.ringWindow, hlooks before.ringWindow, hsame.events]

/-- A relation between the events and a list beside the ring, as far as it
depends on the looks only. -/
theorem forall₂_iff {γ : Type*} {g : DetectionEvent → DetectionEvent}
    {R : DetectionEvent → γ → Prop}
    (hR : ∀ event c, R event c ↔ R (g event) c)
    {before after : RTCState cfg} (hsame : SameView g before after)
    (beside : List γ) :
    List.Forall₂ R after.ringWindow beside ↔
      List.Forall₂ R before.ringWindow beside := by
  have hlooks : ∀ events : List DetectionEvent,
      List.Forall₂ R events beside ↔
        List.Forall₂ R (events.map g) beside := by
    intro events
    rw [List.forall₂_map_left_iff]
    constructor
    · exact List.Forall₂.imp fun event c => (hR event c).mp
    · exact List.Forall₂.imp fun event c => (hR event c).mpr
  rw [hlooks after.ringWindow, hlooks before.ringWindow, hsame.events]

/-! ## Marks -/

theorem markAsSynced (hf : ∀ event, f event.setSynced = f event)
    {service : HistoryService cfg} {locked : Bool} {eventId : ℕ}
    {marked : HistoryService cfg × Bool}
    (hmark : service.markAsSynced locked eventId = some marked) :
    SameView f service.state marked.1.state := by
  rcases HistoryService.markAsSynced_cases hmark with
    ⟨buffer, found, hscan, rfl⟩ | rfl
  · apply of_buffer (service.sameIndices_withBuffer buffer found)
    rw [HistoryService.buffer_withBuffer]
    refine scan_map_eq ?_ hscan
    intro found event
    unfold visitMarkSynced firstMatch
    split
    · exact hf event
    · rfl
  · exact refl service.state

theorem slot_visitMarkCounting (hf : ∀ event, f event.setSynced = f event)
    (eventId markedCount : ℕ) (event : DetectionEvent) :
    f (visitMarkCounting eventId markedCount event).slot = f event := by
  unfold visitMarkCounting firstMatch
  split
  · unfold Visit.slot
    dsimp only
    split
    · exact hf event
    · rfl
  · rfl

/-- The loop over the identifiers, one scan after the other. -/
theorem markEach (hf : ∀ event, f event.setSynced = f event)
    {head tail : ℕ} {eventIds : List ℕ}
    {buffer : Vector DetectionEvent cfg.bufferSize} {markedCount : ℕ}
    {result : Vector DetectionEvent cfg.bufferSize × ℕ}
    (hmark : HistoryService.markEach head tail eventIds buffer markedCount =
      some result) : result.1.map f = buffer.map f := by
  induction eventIds generalizing buffer markedCount with
  | nil =>
      cases Option.some.inj hmark
      rfl
  | cons eventId rest ih =>
      unfold HistoryService.markEach at hmark
      obtain ⟨turn, hturn, hrest⟩ := Option.bind_eq_some_iff.mp hmark
      exact (ih hrest).trans
        (scan_map_eq (slot_visitMarkCounting hf eventId) hturn)

theorem markMultipleAsSynced (hf : ∀ event, f event.setSynced = f event)
    {service : HistoryService cfg} {locked : Bool} {batch : EventIdBatch}
    {marked : HistoryService cfg × ℕ}
    (hmark : service.markMultipleAsSynced locked batch = some marked) :
    SameView f service.state marked.1.state := by
  unfold HistoryService.markMultipleAsSynced at hmark
  split at hmark
  · obtain ⟨result, heach, rfl⟩ := Option.map_eq_some_iff.mp hmark
    apply of_buffer (service.sameIndices_withBuffer result.1 _)
    rw [HistoryService.buffer_withBuffer]
    exact markEach hf heach
  · cases Option.some.inj hmark
    exact refl service.state

/-! ## Backfill and the event counter -/

theorem applyTimeSync
    (hf : ∀ epoch uptime event, f (backfill epoch uptime event) = f event)
    {service : HistoryService cfg} {locked : Bool}
    {millis currentEpoch : ℕ}
    {synced : HistoryService cfg × Option ClockMicros}
    (hsync : service.applyTimeSync locked millis currentEpoch =
      some synced) : SameView f service.state synced.1.state := by
  unfold HistoryService.applyTimeSync at hsync
  split at hsync
  · dsimp only at hsync
    split at hsync
    · obtain ⟨result, hscan, rfl⟩ := Option.map_eq_some_iff.mp hsync
      have hframe := HistoryService.sameIndices_afterBackfill
        { service with timeSyncReceivedThisBoot := true } result.1 result.2
      refine of_buffer ⟨hframe.initialized, hframe.head, hframe.tail,
        hframe.counter, hframe.bootCount⟩ ?_
      rw [HistoryService.buffer_afterBackfill]
      refine scan_map_eq ?_ hscan
      intro updatedCount event
      unfold visitBackfill everyMatch
      split
      · exact hf _ _ event
      · rfl
    · cases Option.some.inj hsync
      exact refl service.state
  · cases Option.some.inj hsync
    exact refl service.state

theorem fastForwardEventId (service : HistoryService cfg) (locked : Bool)
    (newId : ℕ) :
    SameView f service.state
      (service.fastForwardEventId locked newId).1.state := by
  unfold HistoryService.fastForwardEventId
  split
  · dsimp only
    split
    · rw [HistoryService.state_queueStorageCommand]
      exact ⟨rfl, rfl, rfl, rfl⟩
    · exact ⟨rfl, rfl, rfl, rfl⟩
  · exact refl service.state

end SameView

/-! ## A new event -/

/-- A property of the live events and of whatever event is new. -/
theorem RTCState.Appended.forall_mem {state after : RTCState cfg}
    {clock : ClockMicros} {durationMs : ℕ}
    (happend : state.Appended after clock durationMs)
    {P : DetectionEvent → Prop} (hlive : ∀ event ∈ state.ringWindow, P event)
    (hnew : ∀ id bootCount overflow,
      P (freshEvent id bootCount clock durationMs overflow)) :
    ∀ event ∈ after.ringWindow, P event := by
  intro event hmem
  rw [happend.ringWindow, List.mem_append, List.mem_singleton] at hmem
  rcases hmem with hold | rfl
  · apply hlive event
    split at hold
    · exact List.mem_of_mem_tail hold
    · exact hold
  · exact hnew _ _ _

theorem RTCState.Appended.length_eq {state after : RTCState cfg}
    {clock : ClockMicros} {durationMs : ℕ}
    (happend : state.Appended after clock durationMs)
    (hhead : state.head < cfg.bufferSize)
    (htail : state.tail < cfg.bufferSize) :
    after.ringWindow.length = if next cfg.bufferSize state.head = state.tail
      then state.ringWindow.length else state.ringWindow.length + 1 := by
  have hlength : state.ringWindow.length =
      used cfg.bufferSize state.tail state.head :=
    length_window state.buffer htail
  have hsize := cfg.two_le_bufferSize
  rw [happend.ringWindow, List.length_append, List.length_singleton]
  split
  next hfull =>
    have hused := used_of_full htail hhead hfull
    rw [List.length_tail]
    omega
  next => rfl

end SensorFirmware
