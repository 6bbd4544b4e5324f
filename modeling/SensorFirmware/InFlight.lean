import SensorFirmware.SessionSteps
import SensorFirmware.SyncedDelivered

/-!
# One frame in flight for an event

The pump reads the oldest event that is not synced, and a sync reply the oldest
one past an identifier; neither asks whether a slot carries the event already.
While no event is sent again before its slot is given up, no two slots carry
the same event.
-/

namespace SensorFirmware

namespace ProtocolHandler

/-- An active slot carries the event with this identifier. -/
def InFlight (handler : ProtocolHandler) (eventId : ℕ) : Prop :=
  ∃ i, (handler.slot i).active = true ∧
    (handler.slot i).msgType = .detectionEvent ∧
      frameEventId (handler.slot i).data = eventId

def OneInFlight (handler : ProtocolHandler) : Prop :=
  ∀ i j, (handler.slot i).active = true → (handler.slot j).active = true →
    (handler.slot i).msgType = .detectionEvent →
    (handler.slot j).msgType = .detectionEvent →
    frameEventId (handler.slot i).data = frameEventId (handler.slot j).data →
      i = j

/-- A message that asks for an ACK gets a slot and keeps it: the link takes the
frame, or an older message with the same number is given up for it. -/
def TakesSlot (handler : ProtocolHandler) (connected : Bool) (link : BleLink)
    (locked : Bool) : Prop :=
  (handler.initialized && connected && locked &&
      handler.findFreeSlot.isSome) = true ∧
    (link.ready = true ∨
      ∃ i, (handler.slot i).awaits handler.txSeqNum = true)

/-! ## Sending -/

theorem kept_of_notify {handler : ProtocolHandler} {link : BleLink}
    {seqNum : ℕ} {frame : List Byte} {i : SlotIndex}
    (hawaits : (handler.slot i).awaits seqNum = true)
    (hactive : ((handler.notify link seqNum frame (some i)).handler.slot
      i).active = true) :
    link.ready = true ∨
      ∃ j, j ≠ i ∧ (handler.slot j).awaits seqNum = true := by
  by_cases hready : link.ready = true
  · exact .inl hready
  · right
    have hcleared : ((handler.clearPendingLocked seqNum).slot i).active =
        true := by
      unfold notify at hactive
      rw [if_neg hready] at hactive
      exact hactive
    unfold clearPendingLocked at hcleared
    split at hcleared
    next j hfind =>
      refine ⟨j, ?_, findSlot_some hfind⟩
      intro heq
      rw [heq] at hcleared
      simp [release, slot_setSlot] at hcleared
    next hnone =>
      unfold findSlot at hnone
      have hmissed := List.find?_eq_none.mp hnone i (List.mem_finRange i)
      exact absurd hawaits hmissed

theorem takesSlot_of_tracked {handler : ProtocolHandler} {connected : Bool}
    {link : BleLink} {locked : Bool} {now : ℕ} {type : MessageType}
    {payload : List Byte} {requireAck : Bool} {i : SlotIndex}
    (htracked : (handler.sendMessage connected link locked now type payload
      requireAck).tracked = some i)
    (hactive : ((handler.sendMessage connected link locked now type payload
      requireAck).handler.slot i).active = true) :
    handler.TakesSlot connected link locked := by
  unfold sendMessage at htracked hactive
  split at htracked
  next hready =>
    rw [if_pos hready] at hactive
    dsimp only at htracked hactive
    split at htracked
    next => cases htracked
    next frame hbuild =>
      rw [hbuild] at hactive
      dsimp only at hactive
      split at htracked
      next hack =>
        rw [if_pos hack] at hactive
        split at htracked
        next => cases htracked
        next tracking k htrack =>
          rw [htrack] at hactive
          rw [tracked_notify] at htracked
          cases htracked
          obtain ⟨free, hfree, htracking⟩ := Option.map_eq_some_iff.mp htrack
          cases htracking
          constructor
          · have hslot : handler.findFreeSlot = some i := hfree
            rw [hready, hslot]
            rfl
          · have hawaits := slot_setSlot handler.takeSeqNum i i
              ⟨true, handler.txSeqNum, now, 0, type, frame⟩
            rw [if_pos rfl] at hawaits
            have hkept := kept_of_notify
              (by rw [hawaits]; simp [PendingMessage.awaits]) hactive
            rcases hkept with hlink | ⟨j, hother, hj⟩
            · exact .inl hlink
            · rw [slot_setSlot, if_neg (Ne.symm hother)] at hj
              exact .inr ⟨j, hj⟩
      next =>
        rw [tracked_notify] at htracked
        cases htracked
  next => cases htracked

theorem buildFrame_of_sendMessage {handler : ProtocolHandler}
    {connected : Bool} {link : BleLink} {locked : Bool} {now : ℕ}
    {type : MessageType} {payload : List Byte} {requireAck : Bool}
    {frame : List Byte}
    (hframe : (handler.sendMessage connected link locked now type payload
      requireAck).frame = some frame) :
    buildFrame type payload handler.txSeqNum = some frame := by
  unfold sendMessage at hframe
  split at hframe
  next hready =>
    dsimp only at hframe
    split at hframe
    next => cases hframe
    next built hbuild =>
      rw [hbuild]
      split at hframe
      next hack =>
        split at hframe
        next => exact hframe
        next =>
          rw [frame_notify] at hframe
          exact hframe
      next =>
        rw [frame_notify] at hframe
        exact hframe
  next => cases hframe

section Detection

variable {handler : ProtocolHandler} {connected : Bool} {link : BleLink}
  {locked : Bool} {now : ℕ} {event : DetectionEvent}

theorem takesSlot_countDetection_renewWindow :
    (handler.renewWindow now).countDetection.TakesSlot connected link locked ↔
      handler.TakesSlot connected link locked := by
  unfold renewWindow
  split <;> rfl

/-- A detection that fills a slot was let through by the governor, unless that
is bypassed, and carries the event. -/
theorem tracked_sendDetectionEvent {bypassGovernor : Bool} {i : SlotIndex}
    (htracked : (handler.sendDetectionEvent connected link locked now event
      bypassGovernor).tracked = some i)
    (hactive : ((handler.sendDetectionEvent connected link locked now event
      bypassGovernor).handler.slot i).active = true) :
    (bypassGovernor = false → (handler.renewWindow now).detectionEventCount <
        Protocol.maxDetectionsPerWindow) ∧
      handler.TakesSlot connected link locked := by
  unfold sendDetectionEvent at htracked hactive
  split at htracked
  next hbypass =>
    rw [if_pos hbypass] at hactive
    constructor
    · intro hgoverned
      rw [hgoverned] at hbypass
      cases hbypass
    · exact takesSlot_of_tracked htracked hactive
  next hbypass =>
    rw [if_neg hbypass] at hactive
    dsimp only at htracked hactive
    split at htracked
    next => cases htracked
    next hroom =>
      rw [if_neg hroom] at hactive
      constructor
      · intro _
        exact Nat.lt_of_not_le hroom
      · exact takesSlot_countDetection_renewWindow.mp
          (takesSlot_of_tracked htracked hactive)

theorem frameEventId_sendDetectionEvent {bypassGovernor : Bool}
    {frame : List Byte}
    (hframe : (handler.sendDetectionEvent connected link locked now event
      bypassGovernor).frame = some frame) :
    frameEventId frame = u32 event.id := by
  unfold sendDetectionEvent at hframe
  split at hframe
  next => exact frameEventId_buildFrame (buildFrame_of_sendMessage hframe)
  next =>
    dsimp only at hframe
    split at hframe
    next => cases hframe
    next => exact frameEventId_buildFrame (buildFrame_of_sendMessage hframe)

end Detection

/-! ## What keeps events apart -/

namespace OneInFlight

variable {before after : ProtocolHandler}

theorem shrinks (hone : before.OneInFlight) (hshrinks : Shrinks before after) :
    after.OneInFlight := by
  intro i j hi hj hiType hjType hsame
  have hiOld := hshrinks.slots i hi
  have hjOld := hshrinks.slots j hj
  apply hone i j hiOld.active hjOld.active
  · rw [← hiOld.msgType, hiType]
  · rw [← hjOld.msgType, hjType]
  · rw [← hiOld.data, ← hjOld.data, hsame]

/-- A new frame may carry an event that no other slot carries. -/
theorem sends (hone : before.OneInFlight) {type : MessageType}
    {outcome : SendOutcome} (hsends : Sends before type outcome)
    (hfresh : ∀ i frame, outcome.tracked = some i →
      (outcome.handler.slot i).active = true → type = .detectionEvent →
      outcome.frame = some frame → ¬before.InFlight (frameEventId frame)) :
    outcome.handler.OneInFlight := by
  -- A slot with an event that an older slot carries is an older one itself.
  have hother : ∀ i j, (outcome.handler.slot i).active = true →
      (outcome.handler.slot i).msgType = .detectionEvent →
      SameMessage (before.slot j) (outcome.handler.slot j) →
      (outcome.handler.slot j).msgType = .detectionEvent →
      frameEventId (outcome.handler.slot i).data =
        frameEventId (outcome.handler.slot j).data →
      outcome.tracked ≠ some i := by
    intro i j hi hiType hjOld hjType hsame htracked
    rcases hsends.slots i hi with ⟨hnot, _⟩ | ⟨_, hframe, _, htype⟩
    · exact hnot htracked
    · apply hfresh i _ htracked hi (htype ▸ hiType) hframe
      refine ⟨j, hjOld.active, ?_, ?_⟩
      · rw [← hjOld.msgType, hjType]
      · rw [← hjOld.data, hsame]
  intro i j hi hj hiType hjType hsame
  rcases hsends.slots i hi with ⟨hiNot, hiOld⟩ | ⟨hiNew, _⟩
  · rcases hsends.slots j hj with ⟨_, hjOld⟩ | ⟨hjNew, _⟩
    · apply hone i j hiOld.active hjOld.active
      · rw [← hiOld.msgType, hiType]
      · rw [← hjOld.msgType, hjType]
      · rw [← hiOld.data, ← hjOld.data, hsame]
    · exact absurd hjNew (hother j i hj hjType hiOld hiType hsame.symm)
  · rcases hsends.slots j hj with ⟨_, hjOld⟩ | ⟨hjNew, _⟩
    · exact absurd hiNew (hother i j hi hiType hjOld hjType hsame)
    · rw [hiNew] at hjNew
      exact Option.some.inj hjNew

end OneInFlight

end ProtocolHandler

namespace Delivery

variable {cfg : HistoryConfig}

/-- Where a detection is sent and gets a slot, no slot carries it yet. -/
def World.FreshSend (world : World cfg) (input : Step) : Prop :=
  match input, world.bleTask, world.loopTask with
  | .pumpSend connected locked now, _, .pumping event =>
      (world.handler.renewWindow now).detectionEventCount <
          Protocol.maxDetectionsPerWindow →
        world.handler.TakesSlot connected world.link locked →
          ¬world.handler.InFlight (u32 event.id)
  | .syncSend connected locked _, .syncSending _ _ event, _ =>
      world.handler.TakesSlot connected world.link locked →
        ¬world.handler.InFlight (u32 event.id)
  | _, _, _ => True

structure World.FlightInvariant (world : World cfg) : Prop where
  inRange : world.InRange
  txSeqNum : world.handler.txSeqNum < 2 ^ 16
  one : world.handler.OneInFlight

namespace World

variable {world : World cfg}

theorem FlightInvariant.start (cfg : HistoryConfig) :
    (World.start cfg).FlightInvariant := by
  refine ⟨inRange_start cfg, Nat.two_pow_pos 16, ?_⟩
  intro i j hi
  simp [World.start, ProtocolHandler.construct, ProtocolHandler.slot,
    PendingMessage.empty] at hi

/-- The send of a fresh step keeps the events of the slots apart. -/
theorem FlightInvariant.sends (hinv : world.FlightInvariant) {input : Step}
    (hfresh : world.FreshSend input) {type : MessageType}
    {outcome : SendOutcome} (hsend : world.SendOf input type outcome) :
    outcome.handler.OneInFlight := by
  apply hinv.one.sends (hsend.sends hinv.txSeqNum)
  intro i frame htracked hactive htype hframe
  cases hsend with
  | pump htask =>
      have hslot := ProtocolHandler.tracked_sendDetectionEvent htracked hactive
      rw [ProtocolHandler.frameEventId_sendDetectionEvent hframe]
      unfold World.FreshSend at hfresh
      rw [htask] at hfresh
      exact hfresh (hslot.1 rfl) hslot.2
  | sync htask =>
      have hslot := ProtocolHandler.tracked_sendDetectionEvent htracked hactive
      rw [ProtocolHandler.frameEventId_sendDetectionEvent hframe]
      unfold World.FreshSend at hfresh
      rw [htask] at hfresh
      exact hfresh hslot.2
  | other hother => exact absurd htype hother
  | reply htask => cases htype

theorem FlightInvariant.step (hinv : world.FlightInvariant)
    (timing : TimingConfig) (input : Step)
    (hfresh : world.FreshSend input) :
    ∃ after, world.step timing input = some after ∧
      after.FlightInvariant := by
  obtain ⟨after, hstep, hrange, hmoves⟩ :=
    progress_step timing hinv.inRange input
  cases hmoves with
  | frees handler hfrees hsame =>
      have hhandler : after.handler = handler := hsame.handler
      have hnumber : handler.txSeqNum < 2 ^ 16 := by
        rw [hfrees.txSeqNum]
        exact hinv.txSeqNum
      refine ⟨after, hstep, hrange, hhandler ▸ hnumber, ?_⟩
      rw [hhandler]
      exact hinv.one.shrinks hfrees.shrinks
  | retries locked now i hinput hsame =>
      have hshrinks := ProtocolHandler.Shrinks.retrySlot timing
        world.handler locked now i
      have hhandler : after.handler = _ := hsame.handler
      refine ⟨after, hstep, hrange, ?_, ?_⟩
      · rw [hhandler, hshrinks.txSeqNum]
        exact hinv.txSeqNum
      · rw [hhandler]
        exact hinv.one.shrinks hshrinks
  | sends type outcome hsend hsame =>
      have hhandler : after.handler = outcome.handler :=
        hsame.handler.trans (Wire.handler_afterSend _)
      have hnumber : outcome.handler.txSeqNum < 2 ^ 16 := by
        rw [(hsend.sends hinv.txSeqNum).txSeqNum]
        split
        · exact u16_lt _
        · exact hinv.txSeqNum
      refine ⟨after, hstep, hrange, hhandler ▸ hnumber, ?_⟩
      rw [hhandler]
      exact hinv.sends hfresh hsend
  | restarts now hinput htask hsame =>
      refine ⟨after, hstep, hrange, ?_, ?_⟩
      · rw [hsame.handler]
        exact Nat.two_pow_pos 16
      · rw [hsame.handler]
        exact hinv.one

end World

/-! ## Runs -/

/-- While no event is sent again before its slot is given up, no two slots
carry one event. -/
theorem one_frame_in_flight (timing : TimingConfig) (inputs : List Step)
    (hfresh : GuardedRun.GuardedAttempt (World.step timing)
      World.FreshSend (World.start cfg) inputs) :
    ∃ final, (World.start cfg).run timing inputs = some final ∧
      final.handler.OneInFlight := by
  have hstep : ∀ (world : World cfg) input, world.FlightInvariant →
      world.FreshSend input →
        ∃ after, world.step timing input = some after ∧
          after.FlightInvariant := by
    intro world input hinv hguard
    exact hinv.step timing input hguard
  obtain ⟨final, hrun, hfinal⟩ := GuardedRun.invariant_attempt hstep
    (World.FlightInvariant.start cfg) hfresh
  exact ⟨final, hrun, hfinal.one⟩

/-! ### Concrete runs -/

instance (handler : ProtocolHandler) (eventId : ℕ) :
    Decidable (handler.InFlight eventId) :=
  inferInstanceAs (Decidable (∃ _, _))

instance (handler : ProtocolHandler) (connected : Bool) (link : BleLink)
    (locked : Bool) : Decidable (handler.TakesSlot connected link locked) :=
  inferInstanceAs (Decidable (_ ∧ _))

instance (handler : ProtocolHandler) : Decidable handler.OneInFlight :=
  inferInstanceAs (Decidable (∀ _ _, _))

/-- The event with which a step fills a slot. -/
def World.fills (world : World cfg) (input : Step) : Option ℕ :=
  match input, world.bleTask, world.loopTask with
  | .pumpSend connected locked now, _, .pumping event =>
      if (world.handler.renewWindow now).detectionEventCount <
            Protocol.maxDetectionsPerWindow ∧
          world.handler.TakesSlot connected world.link locked then
        some (u32 event.id)
      else none
  | .syncSend connected locked _, .syncSending _ _ event, _ =>
      if world.handler.TakesSlot connected world.link locked then
        some (u32 event.id)
      else none
  | _, _, _ => none

theorem World.freshSend_iff (world : World cfg) (input : Step) :
    (∀ eventId ∈ world.fills input, ¬world.handler.InFlight eventId) ↔
      world.FreshSend input := by
  unfold World.fills World.FreshSend
  split <;> simp

instance (world : World cfg) (input : Step) :
    Decidable (world.FreshSend input) :=
  decidable_of_iff _ (world.freshSend_iff input)

/-- Two detections, the second sent after the first was acknowledged. -/
def turnByTurnRun : List Step :=
  deliveredRun ++ [.logDetection true 0 0] ++ pump 400

/-- The pump runs twice before the first frame is acknowledged. -/
def pumpTwiceRun : List Step :=
  [.logDetection true 0 0] ++ connection 100 ++ pump 200 ++ pump 350

theorem one_frame_in_turn :
    ∃ final, (World.start .fourSlots).run benchTiming turnByTurnRun =
        some final ∧
      final.handler.OneInFlight :=
  one_frame_in_flight benchTiming turnByTurnRun (by decide +kernel)

theorem pump_twice_two_frames :
    ∃ final ∈ (World.start .fourSlots).run benchTiming pumpTwiceRun,
      ¬final.handler.OneInFlight := by
  decide +kernel

end Delivery

end SensorFirmware
