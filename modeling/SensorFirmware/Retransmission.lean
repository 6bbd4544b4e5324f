import SensorFirmware.RetryPasses

/-!
# Bounded and faithful retransmission

A message is handed to the link once when it is sent and once for each retry
that was counted, so a slot with `retryCount` retries has caused at most
`1 + retryCount` notifications.  When the budget is spent the slot is given up
and nothing else happens: its event is offered again later.
-/

namespace SensorFirmware

open CyclicBuffer

namespace Delivery

variable {cfg : HistoryConfig}

/-! ## Events that are still offered -/

/-- The queries of the pump and of the synchronisation come to the event. -/
structure Offered (service : HistoryService cfg) (event : DetectionEvent) :
    Prop where
  pending : ∃ first ∈ service.state.ringWindow, first.isSynced = false ∧
    service.getNextUnsynced true = some (some first)
  turn : ∃ older newer,
    service.state.ringWindow = older ++ event :: newer ∧
      ((∀ other ∈ older, other.isSynced = true) →
        service.getNextUnsynced true = some (some event))
  since : ∀ sinceId maxCount, sinceId < event.id →
    cfg.bufferSize ≤ maxCount →
      ∃ events, service.getEventsSince true sinceId maxCount =
          some (true, events) ∧ event ∈ events

/-- An event that is not synced is offered, whatever the handler does. -/
theorem offered_of_unsynced {service : HistoryService cfg}
    (hinit : service.initialized = true)
    (hhead : service.state.head < cfg.bufferSize)
    (htail : service.state.tail < cfg.bufferSize) {event : DetectionEvent}
    (hmem : event ∈ service.state.ringWindow)
    (hunsynced : event.isSynced = false) : Offered service event := by
  have hnext := HistoryService.getNextUnsynced_eq hinit hhead htail
  constructor
  · have hsome : (service.state.ringWindow.find?
        fun event => !event.isSynced).isSome = true := by
      rw [List.find?_isSome]
      exact ⟨event, hmem, by simp [hunsynced]⟩
    obtain ⟨first, hfirst⟩ := Option.isSome_iff_exists.mp hsome
    have hfound := List.find?_some hfirst
    rw [hfirst] at hnext
    exact ⟨first, List.mem_of_find?_eq_some hfirst, by simpa using hfound,
      hnext⟩
  · obtain ⟨older, newer, hring⟩ := List.append_of_mem hmem
    refine ⟨older, newer, hring, ?_⟩
    intro hsynced
    rw [hnext, hring, List.find?_append]
    have hnone : older.find? (fun event => !event.isSynced) = none := by
      rw [List.find?_eq_none]
      intro other hother
      simp [hsynced other hother]
    simp [hnone, hunsynced]
  · intro sinceId maxCount habove hroom
    have hlength : service.state.ringWindow.length < cfg.bufferSize := by
      unfold RTCState.ringWindow
      rw [length_window _ htail]
      exact used_lt htail hhead
    have hshort : (service.state.ringWindow.filter
        fun event => sinceId < event.id).length ≤ maxCount := by
      have hle := List.length_filter_le
        (fun event : DetectionEvent => decide (sinceId < event.id))
        service.state.ringWindow
      omega
    refine ⟨_, HistoryService.collectEvents_eq hinit hhead htail _ maxCount,
      ?_⟩
    rw [List.take_of_length_le hshort]
    exact List.mem_filter.mpr ⟨hmem, by simpa using habove⟩

namespace ClockedWorld

variable {world after : ClockedWorld cfg} {timing : TimingConfig}
  {input : ClockedStep}

/-! ## Counting -/

/-- How often a frame of the message was handed to the link. -/
def notifications (world : ClockedWorld cfg) (message : ℕ × ℕ) : ℕ :=
  world.events.countP fun event =>
    event.isNotification && event.frame.message == message

/-- The notification that the pass owes the message. -/
def outstanding (world : ClockedWorld cfg) (message : ℕ × ℕ) : ℕ :=
  world.resending.toList.countP fun frame => frame.message == message

/-- The retries are counted, and each was counted before its frame is sent. -/
structure WithinBudget (timing : TimingConfig) (world : ClockedWorld cfg) :
    Prop where
  slots : ∀ i, (world.handler.slot i).active = true →
    world.notifications (world.origin i).message +
        world.outstanding (world.origin i).message ≤
      1 + (world.handler.slot i).retryCount
  counters : ∀ i, (world.handler.slot i).active = true →
    (world.handler.slot i).retryCount ≤ timing.maxRetryCount
  messages : ∀ message,
    world.notifications message + world.outstanding message ≤
      1 + timing.maxRetryCount

theorem notifications_congr (hevents : after.events = world.events)
    (message : ℕ × ℕ) :
    after.notifications message = world.notifications message := by
  unfold notifications
  rw [hevents]

theorem outstanding_congr (hresending : after.resending = world.resending)
    (message : ℕ × ℕ) :
    after.outstanding message = world.outstanding message := by
  unfold outstanding
  rw [hresending]

theorem notifications_notified {frame : SentFrame} {time : ℕ}
    (hevents : after.events = .notified frame time :: world.events)
    (message : ℕ × ℕ) :
    after.notifications message = world.notifications message +
      if frame.message = message then 1 else 0 := by
  unfold notifications
  rw [hevents, List.countP_cons]
  simp [RetryEvent.isNotification, RetryEvent.frame]

theorem notifications_counted {frame : SentFrame} {time : ℕ}
    (hevents : after.events = .counted frame time :: world.events)
    (message : ℕ × ℕ) :
    after.notifications message = world.notifications message := by
  unfold notifications
  rw [hevents, List.countP_cons]
  simp [RetryEvent.isNotification]

theorem outstanding_some {frame : SentFrame}
    (hresending : world.resending = some frame) (message : ℕ × ℕ) :
    world.outstanding message = if frame.message = message then 1 else 0 := by
  unfold outstanding
  rw [hresending, Option.toList_some, List.countP_singleton]
  simp

theorem outstanding_none (hresending : world.resending = none)
    (message : ℕ × ℕ) : world.outstanding message = 0 := by
  unfold outstanding
  rw [hresending]
  rfl

/-- Nothing was sent yet of a message that has no number. -/
theorem Sound.untouched (hsound : world.Sound) {message : ℕ × ℕ}
    (hfresh : ∀ old ∈ world.numbered, old.message ≠ message) :
    world.notifications message = 0 ∧ world.outstanding message = 0 := by
  constructor
  · unfold notifications
    rw [List.countP_eq_zero]
    intro event hmem
    have hother := hfresh event.frame (hsound.events event hmem)
    simp [hother]
  · unfold outstanding
    rw [List.countP_eq_zero]
    intro frame hmem
    have hother := hfresh frame
      (hsound.resending frame (by simpa using hmem))
    simpa using hother

/-! ## The budget is kept -/

namespace WithinBudget

/-- Where the counts and the slots are as before, so is the budget. -/
theorem quiet (hbudget : world.WithinBudget timing)
    (hkept : ∀ i, (after.handler.slot i).active = true →
      after.tracked i = world.tracked i)
    (hcounts : ∀ message,
      after.notifications message + after.outstanding message =
        world.notifications message + world.outstanding message) :
    after.WithinBudget timing := by
  constructor
  · intro i hactive
    have hslot := slot_of_tracked (hkept i hactive)
    rw [hcounts, origin_of_tracked (hkept i hactive), hslot]
    exact hbudget.slots i (hslot ▸ hactive)
  · intro i hactive
    have hslot := slot_of_tracked (hkept i hactive)
    rw [hslot]
    exact hbudget.counters i (hslot ▸ hactive)
  · intro message
    rw [hcounts]
    exact hbudget.messages message

theorem fills (hbudget : world.WithinBudget timing) (hsound : world.Sound)
    {i : SlotIndex} {frame : SentFrame}
    (hfresh : ∀ old ∈ world.numbered, old.message ≠ frame.message)
    (hkept : ∀ j, j ≠ i → (after.handler.slot j).active = true →
      after.tracked j = world.tracked j)
    (hfilled : (after.handler.slot i).active = true →
      after.origin i = frame ∧ (after.handler.slot i).retryCount = 0)
    (hevents : after.events = .notified frame world.clock :: world.events)
    (hresending : after.resending = world.resending) :
    after.WithinBudget timing := by
  obtain ⟨hnone, hidle⟩ := hsound.untouched hfresh
  have hcounts (message : ℕ × ℕ) :
      after.notifications message + after.outstanding message =
        world.notifications message + world.outstanding message +
          if frame.message = message then 1 else 0 := by
    rw [notifications_notified hevents, outstanding_congr hresending]
    omega
  constructor
  · intro j hactive
    by_cases hji : j = i
    · rw [hji] at hactive ⊢
      obtain ⟨horigin, hretry⟩ := hfilled hactive
      rw [hcounts, horigin, hnone, hidle, hretry, if_pos rfl]
    · have htracked := hkept j hji hactive
      have hslot := slot_of_tracked htracked
      have hother := hfresh (world.origin j)
        (hsound.origin_numbered (hslot ▸ hactive))
      have hold := hbudget.slots j (hslot ▸ hactive)
      rw [hcounts, origin_of_tracked htracked, hslot,
        if_neg (Ne.symm hother)]
      exact hold
  · intro j hactive
    by_cases hji : j = i
    · rw [hji] at hactive ⊢
      rw [(hfilled hactive).2]
      exact Nat.zero_le _
    · have hslot := slot_of_tracked (hkept j hji hactive)
      rw [hslot]
      exact hbudget.counters j (hslot ▸ hactive)
  · intro message
    have hold := hbudget.messages message
    rw [hcounts]
    split
    next hsame =>
      rw [← hsame, hnone, hidle]
      omega
    next => exact hold

theorem retries (hbudget : world.WithinBudget timing) (hsound : world.Sound)
    (hbyte : timing.maxRetryCount < 2 ^ 8) {startedAt : ℕ} {i : SlotIndex}
    (hidle : world.resending = none)
    (hactive : (world.handler.slot i).active = true)
    (hleft : (world.handler.slot i).retryCount < timing.maxRetryCount)
    (hkept : ∀ j, j ≠ i → after.tracked j = world.tracked j)
    (hretried : after.tracked i = ⟨{ world.handler.slot i with
      retryCount := u8 ((world.handler.slot i).retryCount + 1)
      sentTime := u32 startedAt }, world.origin i, startedAt⟩)
    (hevents : after.events =
      .counted (world.origin i) world.clock :: world.events)
    (hresending : after.resending = some (world.origin i)) :
    after.WithinBudget timing := by
  have hcount : (after.handler.slot i).retryCount =
      (world.handler.slot i).retryCount + 1 := by
    have hslot := congrArg Tracked.message hretried
    have hraised := congrArg PendingMessage.retryCount hslot
    exact hraised.trans (Nat.mod_eq_of_lt (by omega))
  have horigin : after.origin i = world.origin i :=
    congrArg Tracked.origin hretried
  have hcounts (message : ℕ × ℕ) :
      after.notifications message + after.outstanding message =
        world.notifications message +
          if (world.origin i).message = message then 1 else 0 := by
    rw [notifications_counted hevents, outstanding_some hresending]
  have hhere := hbudget.slots i hactive
  rw [outstanding_none hidle] at hhere
  constructor
  · intro j hother
    by_cases hji : j = i
    · rw [hji, hcounts, horigin, hcount, if_pos rfl]
      omega
    · have hslot := slot_of_tracked (hkept j hji)
      have hne : (world.origin i).message ≠ (world.origin j).message :=
        fun hsame => hji
          (hsound.distinct i j hactive (hslot ▸ hother) hsame).symm
      have hold := hbudget.slots j (hslot ▸ hother)
      rw [hcounts, origin_of_tracked (hkept j hji), hslot, if_neg hne]
      omega
  · intro j hother
    by_cases hji : j = i
    · rw [hji, hcount]
      exact hleft
    · have hslot := slot_of_tracked (hkept j hji)
      rw [hslot]
      exact hbudget.counters j (hslot ▸ hother)
  · intro message
    have hold := hbudget.messages message
    rw [hcounts]
    split
    next hsame =>
      rw [← hsame]
      omega
    next => omega

theorem of_moves (hbudget : world.WithinBudget timing)
    (hsound : world.Sound) (hbyte : timing.maxRetryCount < 2 ^ 8)
    (hmoves : world.Moves timing input after) : after.WithinBudget timing := by
  cases hmoves with
  | quiet hkept hevents hresending =>
      apply hbudget.quiet hkept
      intro message
      rw [notifications_congr hevents, outstanding_congr hresending]
  | fills i frame hfresh hnumbered hkept hfilled hevents hresending =>
      refine hbudget.fills hsound hfresh hkept ?_ hevents hresending
      intro hactive
      obtain ⟨horigin, -, -, hretry⟩ := hfilled hactive
      exact ⟨horigin, hretry⟩
  | retries startedAt i hinput hpass hexpired hleft hkept hretried hevents
      hresending =>
      have hidle : world.resending = none := by
        unfold resending
        rw [hpass]
        rfl
      exact hbudget.retries hsound hbyte hidle hexpired.1 hleft hkept
        hretried hevents hresending
  | resends frame hframe hkept hevents hresending =>
      apply hbudget.quiet fun i _ => hkept i
      intro message
      rw [notifications_notified hevents, outstanding_none hresending,
        outstanding_some hframe]
      omega

theorem start (cfg : HistoryConfig) (timing : TimingConfig) :
    (ClockedWorld.start cfg).WithinBudget timing := by
  have hempty : ∀ i, ((ClockedWorld.start cfg).handler.slot i).retryCount =
      0 := by
    intro i
    simp [ClockedWorld.start, World.start, ProtocolHandler.construct,
      ProtocolHandler.slot, PendingMessage.empty]
  constructor
  · intro i _
    exact Nat.zero_le _
  · intro i _
    rw [hempty i]
    exact Nat.zero_le _
  · intro message
    exact Nat.zero_le _

end WithinBudget

/-! ## Giving up -/

/-- The pass that comes to a slot without retries left and finds its timeout
expired frees the slot and leaves the history alone. -/
theorem visit_gives_up {startedAt : ℕ} {i : SlotIndex}
    (hpass : world.pass = some ⟨startedAt, i, none⟩)
    (hexpired : world.Expired timing startedAt i)
    (hspent : timing.maxRetryCount ≤ (world.handler.slot i).retryCount) :
    ((world.visit timing true).handler.slot i).active = false ∧
      (world.visit timing true).service = world.service ∧
      (world.visit timing true).events = world.events := by
  have hcases := ProtocolHandler.retrySlot_cases timing world.handler true
    (u32 startedAt) i
  have hvisit : world.visit timing true =
      world.visitSlot timing ⟨startedAt, i, none⟩ true i := by
    simp only [visit, hpass, i.isLt, dif_pos]
  rw [hvisit]
  unfold visitSlot
  dsimp only
  generalize world.handler.retrySlot timing true (u32 startedAt) i = result
    at hcases ⊢
  cases hcases with
  | waits hwaits => exact absurd ⟨rfl, hexpired.1, hexpired.2⟩ hwaits
  | retries retryTotal hlocked hactive hlate hleft =>
      exact absurd hleft (Nat.not_lt_of_le hspent)
  | givesUp errorTotal =>
      refine ⟨?_, rfl, rfl⟩
      have hslot := ProtocolHandler.slot_setSlot world.handler i i
        { world.handler.slot i with active := false }
      rw [if_pos rfl] at hslot
      exact congrArg PendingMessage.active hslot

/-! ## Runs -/

/-- Every notification is accounted for and repeats the frame that was built,
spent slots are given up, and what is not synced is still offered. -/
structure Retransmits (timing : TimingConfig) (world : ClockedWorld cfg) :
    Prop where
  bounded : ∀ message,
    world.notifications message ≤ 1 + timing.maxRetryCount
  built : ∀ event ∈ world.events, event.frame ∈ world.numbered
  faithful : ∀ first ∈ world.numbered, ∀ event ∈ world.events,
    event.frame.message = first.message → event.frame.bytes = first.bytes
  freed : ∀ startedAt (i : SlotIndex),
    world.pass = some ⟨startedAt, i, none⟩ →
      world.Expired timing startedAt i →
        timing.maxRetryCount ≤ (world.handler.slot i).retryCount →
          ((world.visit timing true).handler.slot i).active = false
  kept : ∀ locked,
    (world.visit timing locked).service = world.service
  offered : ∀ event ∈ world.service.state.ringWindow,
    event.isSynced = false → Offered world.service event

theorem service_visit (locked : Bool) :
    (world.visit timing locked).service = world.service := by
  unfold visit
  split
  · split
    · unfold visitSlot
      dsimp only
      split <;> rfl
    · rfl
  · rfl

theorem Sound.retransmits (hsound : world.Sound)
    (hbudget : world.WithinBudget timing) : world.Retransmits timing where
  bounded := fun message =>
    (Nat.le_add_right _ _).trans (hbudget.messages message)
  built := hsound.events
  faithful := by
    intro first hfirst event hevent hsame
    obtain ⟨hsession, hordinal⟩ := Prod.mk.inj hsame
    have heq := hsound.table.frames.unique event.frame
      (hsound.events event hevent) first hfirst hsession hordinal
    rw [heq]
  freed := fun _ _ hpass hexpired hspent =>
    (visit_gives_up hpass hexpired hspent).1
  kept := service_visit
  offered := fun _ hmem hunsynced =>
    offered_of_unsynced hsound.initialized hsound.range.head_lt
      hsound.range.tail_lt hmem hunsynced

def atSession (steps : List Step) : List ClockedStep :=
  steps.map .session

def wholePass : List ClockedStep :=
  .beginPass true ::
    (List.replicate Protocol.maxPendingMessages
      [.visit true, .resend]).flatten ++ [.visit true]

/-- A detection that the app never answers, and five passes. -/
def unansweredRun : List ClockedStep :=
  atSession ([.logDetection true 0 0] ++ connection 0) ++ [.elapse 200] ++
    atSession (pump 0) ++
    (List.replicate 5 (.elapse 6001 :: wholePass)).flatten

example :
    ((ClockedWorld.start .fourSlots).run benchTiming unansweredRun).map
        (fun final => (final.notifications (1, 0),
          final.handler.getPendingCount)) = some (4, 0) := by
  decide +kernel

end ClockedWorld

end Delivery

end SensorFirmware
