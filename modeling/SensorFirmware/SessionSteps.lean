import SensorFirmware.DeliverySession

/-!
# What a step does to the pending table

Every step of a session does one of three things to the slots and to the
numbering: it gives slots up, it sends one message, or it restarts the
numbering.  The invariants of the table are derived from this alone.
-/

namespace SensorFirmware

open CyclicBuffer

theorem PendingMessage.awaits_iff {message : PendingMessage} {seqNum : ℕ} :
    message.awaits seqNum = true ↔
      message.active = true ∧ message.seqNum = seqNum := by
  simp [PendingMessage.awaits]

namespace ProtocolHandler

/-! ## Which slots are given up -/

/-- Slots are given up, of which `P` holds, and all others stay as they are. -/
structure Frees (before after : ProtocolHandler) (P : SlotIndex → Prop) :
    Prop where
  txSeqNum : after.txSeqNum = before.txSeqNum
  kept : ∀ i, (after.slot i).active = true → after.slot i = before.slot i
  freed : ∀ i, (before.slot i).active = true →
    (after.slot i).active = false → P i

namespace Frees

variable {before after : ProtocolHandler} {P Q : SlotIndex → Prop}

theorem shrinks (hfrees : Frees before after P) : Shrinks before after := by
  refine ⟨hfrees.txSeqNum, ?_⟩
  intro i hactive
  have hkept := hfrees.kept i hactive
  rw [hkept] at hactive ⊢
  exact .refl hactive

theorem mono (hfrees : Frees before after P) (himp : ∀ i, P i → Q i) :
    Frees before after Q :=
  ⟨hfrees.txSeqNum, hfrees.kept,
    fun i hold hnew => himp i (hfrees.freed i hold hnew)⟩

theorem of_slots (htx : after.txSeqNum = before.txSeqNum)
    (hslots : ∀ i, after.slot i = before.slot i) :
    Frees before after P := by
  refine ⟨htx, fun i _ => hslots i, ?_⟩
  intro i hold hnew
  rw [hslots i, hold] at hnew
  cases hnew

theorem refl (handler : ProtocolHandler) : Frees handler handler P :=
  of_slots rfl fun _ => rfl

theorem release (handler : ProtocolHandler) (i : SlotIndex) :
    Frees handler (handler.release i) (· = i) := by
  have hslot (j : SlotIndex) := slot_setSlot handler i j
    { handler.slot i with active := false }
  refine ⟨rfl, ?_, ?_⟩
  · intro j hactive
    by_cases heq : i = j
    · rw [ProtocolHandler.release, hslot j, if_pos heq] at hactive
      cases hactive
    · rw [ProtocolHandler.release, hslot j, if_neg heq]
  · intro j hold hnew
    by_contra hother
    rw [ProtocolHandler.release, hslot j, if_neg (Ne.symm hother), hold]
      at hnew
    cases hnew

theorem clearPendingLocked (handler : ProtocolHandler) (seqNum : ℕ) :
    Frees handler (handler.clearPendingLocked seqNum) fun i =>
      (handler.slot i).seqNum = seqNum := by
  unfold ProtocolHandler.clearPendingLocked
  split
  next i hfind =>
    have hawaits := PendingMessage.awaits_iff.mp (findSlot_some hfind)
    apply (release handler i).mono
    intro j hj
    rw [hj]
    exact hawaits.2
  next => exact refl handler

theorem clearAllPending (handler : ProtocolHandler) (locked : Bool) :
    Frees handler (handler.clearAllPending locked) fun _ => True := by
  unfold ProtocolHandler.clearAllPending
  split
  · refine ⟨rfl, ?_, fun _ _ _ => trivial⟩
    intro i hactive
    simp [slot] at hactive
  · exact refl handler

theorem accept (handler : ProtocolHandler) (i : SlotIndex) :
    Frees handler (handler.accept i) (· = i) := by
  have hreleased := release handler i
  exact ⟨hreleased.txSeqNum, hreleased.kept, hreleased.freed⟩

theorem lookupAck (handler : ProtocolHandler) (locked : Bool)
    (ackedSeq : ℕ) :
    Frees handler (handler.lookupAck locked ackedSeq).1 fun i =>
      (handler.slot i).seqNum = ackedSeq := by
  unfold ProtocolHandler.lookupAck
  split
  · exact refl handler
  · split
    · exact refl handler
    next i hfind =>
      split
      · exact refl handler
      · have hawaits := PendingMessage.awaits_iff.mp (findSlot_some hfind)
        apply (accept handler i).mono
        intro j hj
        rw [hj]
        exact hawaits.2

theorem confirmAck (handler : ProtocolHandler) (locked : Bool)
    (i : SlotIndex) (ackedSeq : ℕ) :
    Frees handler (handler.confirmAck locked i ackedSeq) fun j =>
      (handler.slot j).seqNum = ackedSeq := by
  unfold ProtocolHandler.confirmAck
  split
  next hready =>
    apply (accept handler i).mono
    intro j hj
    rw [Bool.and_eq_true, PendingMessage.awaits_iff] at hready
    rw [hj]
    exact hready.2.2
  next => exact refl handler

theorem handleNack (handler : ProtocolHandler) (locked : Bool)
    (nackedSeq : ℕ) :
    Frees handler (handler.handleNack locked nackedSeq) fun i =>
      (handler.slot i).seqNum = nackedSeq := by
  have hcleared : Frees handler (handler.clearPending locked nackedSeq)
      fun i => (handler.slot i).seqNum = nackedSeq := by
    unfold ProtocolHandler.clearPending
    split
    · exact clearPendingLocked handler nackedSeq
    · exact refl handler
  exact ⟨hcleared.txSeqNum, hcleared.kept, hcleared.freed⟩

end Frees

/-! ## Which slots are written -/

theorem slot_retrySlot_of_ne {timing : TimingConfig}
    {handler : ProtocolHandler} {locked : Bool} {now : ℕ} {i j : SlotIndex}
    (hne : i ≠ j) :
    ((handler.retrySlot timing locked now i).1).slot j = handler.slot j := by
  unfold retrySlot
  dsimp only
  split_ifs
  · rfl
  · exact (slot_setSlot handler i j _).trans (if_neg hne)
  · exact (slot_setSlot handler i j _).trans (if_neg hne)
  · rfl

/-- A send fills at most one slot, stamped `now`, and otherwise gives up at
most one. -/
def Fills (before : ProtocolHandler) (now : ℕ) (outcome : SendOutcome) :
    Prop :=
  ∀ i, (outcome.handler.slot i).active = true →
    (outcome.tracked ≠ some i ∧ outcome.handler.slot i = before.slot i) ∨
      (outcome.tracked = some i ∧
        (outcome.handler.slot i).sentTime = now ∧
        (outcome.handler.slot i).retryCount = 0)

variable {handler : ProtocolHandler} {connected : Bool} {link : BleLink}
  {locked : Bool} {now : ℕ}

theorem fills_refused {before : ProtocolHandler}
    (hslots : ∀ i, handler.slot i = before.slot i) :
    Fills before now (.refused handler) := by
  intro i _
  exact .inl ⟨(Option.some_ne_none i).symm, hslots i⟩

theorem slot_notify {seqNum : ℕ} {frame : List Byte}
    {tracked : Option SlotIndex} {i : SlotIndex}
    (hactive : ((handler.notify link seqNum frame tracked).handler.slot
      i).active = true) :
    (handler.notify link seqNum frame tracked).handler.slot i =
      handler.slot i := by
  unfold notify at hactive ⊢
  split at hactive
  next hready => rw [if_pos hready]; rfl
  next hready =>
    rw [if_neg hready]
    exact (Frees.clearPendingLocked handler seqNum).kept i hactive

theorem fills_sendMessage {type : MessageType} {payload : List Byte}
    {requireAck : Bool} :
    Fills handler now (handler.sendMessage connected link locked now type
      payload requireAck) := by
  intro i
  unfold sendMessage
  split
  next hready =>
    dsimp only
    split
    next => exact fun _ => .inl ⟨(Option.some_ne_none i).symm, rfl⟩
    next frame hbuild =>
      split
      next hack =>
        split
        next => exact fun _ => .inl ⟨(Option.some_ne_none i).symm, rfl⟩
        next tracking j htrack =>
          obtain ⟨free, hfree, htracking⟩ := Option.map_eq_some_iff.mp htrack
          intro hactive
          have hslot := slot_notify hactive
          rw [tracked_notify, hslot]
          cases htracking
          by_cases heq : j = i
          · subst heq
            right
            rw [slot_setSlot, if_pos rfl]
            exact ⟨rfl, rfl, rfl⟩
          · left
            rw [slot_setSlot, if_neg heq]
            exact ⟨by simpa using heq, rfl⟩
      next hack =>
        intro hactive
        have hslot := slot_notify hactive
        rw [tracked_notify, hslot]
        exact .inl ⟨(Option.some_ne_none i).symm, rfl⟩
  next => exact fun _ => .inl ⟨(Option.some_ne_none i).symm, rfl⟩

theorem fills_sendDetectionEvent {event : DetectionEvent}
    {bypassGovernor : Bool} :
    Fills handler now (handler.sendDetectionEvent connected link locked now
      event bypassGovernor) := by
  have hslots (i : SlotIndex) :
      (handler.renewWindow now).slot i = handler.slot i := by
    unfold renewWindow
    split <;> rfl
  unfold sendDetectionEvent
  split
  next => exact fills_sendMessage
  next =>
    dsimp only
    split
    next => exact fills_refused hslots
    next =>
      intro i hactive
      have hsame : (handler.renewWindow now).countDetection.slot i =
          handler.slot i := hslots i
      rw [← hsame]
      exact fills_sendMessage i hactive

end ProtocolHandler

namespace Delivery

variable {cfg : HistoryConfig}

/-! ## Steps of the session -/

structure World.InRange (world : World cfg) : Prop where
  head_lt : world.service.state.head < cfg.bufferSize
  tail_lt : world.service.state.tail < cfg.bufferSize

/-- The send that a step makes. -/
inductive World.SendOf (world : World cfg) :
    Step → MessageType → SendOutcome → Prop
  | pump {event : DetectionEvent} {connected locked : Bool} {now : ℕ}
      (htask : world.loopTask = .pumping event) :
      SendOf world (.pumpSend connected locked now) .detectionEvent
        (world.handler.sendDetectionEvent connected world.link locked now
          event false)
  | sync {seqNum syncedCount : ℕ} {event : DetectionEvent}
      {connected locked : Bool} {now : ℕ}
      (htask : world.bleTask = .syncSending seqNum syncedCount event) :
      SendOf world (.syncSend connected locked now) .detectionEvent
        (world.handler.sendDetectionEvent connected world.link locked now
          event true)
  | other {connected locked : Bool} {now : ℕ} {type : MessageType}
      {payload : List Byte} (htype : type ≠ .detectionEvent) :
      SendOf world (.sendOther connected locked now type payload) type
        (world.handler.sendMessage connected world.link locked now type
          payload false)
  | reply {seqNum : ℕ} {connected locked : Bool} {now : ℕ}
      (htask : world.bleTask = .syncReplying seqNum) :
      SendOf world (.syncReply connected locked now) .ack
        (world.handler.sendAck connected world.link locked now seqNum)

/-- The message whose slot a step may give up. -/
def World.OwnSlot (world : World cfg) (input : Step) (i : SlotIndex) : Prop :=
  match input, world.bleTask with
  | .retryRead _ _ j, _ => i = j
  | .ackLookup _, .ackValidated ack =>
      (world.handler.slot i).seqNum = ack.seqNum
  | .ackConfirm _, .ackMarked ack _ =>
      (world.handler.slot i).seqNum = ack.seqNum
  | .nackArrives _ nackedSeq, _ =>
      (world.handler.slot i).seqNum = nackedSeq
  | .clearPending _, _ => True
  | _, _ => False

/-- The slots and the numbering are the same. -/
structure SameNumbering (left right : Wire) : Prop where
  handler : right.handler = left.handler
  session : right.session = left.session
  issued : right.issued = left.issued
  origins : right.origins = left.origins
  numbered : right.numbered = left.numbered

namespace Wire

variable (wire : Wire) {outcome : SendOutcome}

@[simp] theorem handler_afterSend :
    (wire.afterSend outcome).handler = outcome.handler := by
  unfold Wire.afterSend
  split <;> rfl

theorem issued_afterSend
    (hissued : ∀ frame, outcome.frame = some frame → outcome.issued = true) :
    (wire.afterSend outcome).issued =
      if outcome.issued then wire.issued + 1 else wire.issued := by
  unfold Wire.afterSend
  split
  next => rfl
  next bytes hframe => rw [if_pos (hissued bytes hframe)]

theorem origin_afterSend_of_ne {i : SlotIndex}
    (hother : outcome.tracked ≠ some i) :
    (wire.afterSend outcome).origin i = wire.origin i := by
  unfold Wire.afterSend
  split
  next => rfl
  next =>
    unfold Wire.origin
    dsimp only
    split
    next j htracked =>
      have hne : j.val ≠ i.val := by
        intro heq
        rw [htracked, Fin.ext heq] at hother
        exact hother rfl
      exact Vector.getElem_set_ne j.isLt i.isLt hne
    next => rfl

theorem origin_afterSend_of_tracked {i : SlotIndex} {bytes : List Byte}
    (hframe : outcome.frame = some bytes)
    (htracked : outcome.tracked = some i) :
    (wire.afterSend outcome).origin i =
      ⟨wire.session, wire.issued, bytes⟩ := by
  unfold Wire.afterSend Wire.origin
  rw [hframe]
  simp only [htracked]
  exact Vector.getElem_set_self i.isLt

end Wire

/-- What a step does to the slots and to the numbering. -/
inductive World.Moves (world : World cfg) (timing : TimingConfig)
    (input : Step) (after : World cfg) : Prop
  | frees (handler : ProtocolHandler)
      (hfrees : ProtocolHandler.Frees world.handler handler
        (world.OwnSlot input))
      (hsame : SameNumbering { world.toWire with handler := handler }
        after.toWire)
  | retries (locked : Bool) (now : ℕ) (i : SlotIndex)
      (hinput : input = .retryRead locked now i)
      (hsame : SameNumbering { world.toWire with
        handler := (world.handler.retrySlot timing locked now i).1 }
        after.toWire)
  | sends (type : MessageType) (outcome : SendOutcome)
      (hsend : world.SendOf input type outcome)
      (hsame : SameNumbering (world.toWire.afterSend outcome) after.toWire)
  | restarts (now : ℕ) (hinput : input = .restartNumbering now)
      (htask : world.bleTask = .connectRestarting)
      (hsame : SameNumbering (world.restartNumbering now).toWire
        after.toWire)

namespace World

variable {world : World cfg} {timing : TimingConfig}

theorem Moves.still {input : Step} {after : World cfg}
    (hsame : SameNumbering world.toWire after.toWire) :
    world.Moves timing input after :=
  .frees world.handler (.refl _) hsame

/-- The step succeeds, stays in range and makes one of the moves. -/
def Progress (world : World cfg) (timing : TimingConfig) (input : Step)
    (result : Option (World cfg)) : Prop :=
  ∃ after, result = some after ∧ after.InRange ∧ world.Moves timing input after

theorem Progress.of_moves {input : Step} {after : World cfg}
    (hrange : world.InRange)
    (hstate : after.service.state = world.service.state)
    (hmoves : world.Moves timing input after) :
    world.Progress timing input (some after) := by
  refine ⟨after, rfl, ?_, hmoves⟩
  constructor
  · rw [hstate]
    exact hrange.head_lt
  · rw [hstate]
    exact hrange.tail_lt

theorem Progress.still {input : Step} {after : World cfg}
    (hrange : world.InRange)
    (hstate : after.service.state = world.service.state)
    (hsame : SameNumbering world.toWire after.toWire) :
    world.Progress timing input (some after) :=
  .of_moves hrange hstate (.still hsame)

/-- The BLE task moves on with a handler that has given slots up. -/
theorem Progress.frees {input : Step} (hrange : world.InRange)
    {handler : ProtocolHandler} (task : BleTask)
    (hfrees : ProtocolHandler.Frees world.handler handler
      (world.OwnSlot input)) :
    world.Progress timing input
      (some { world with handler := handler, bleTask := task }) :=
  .of_moves hrange rfl (.frees handler hfrees ⟨rfl, rfl, rfl, rfl, rfl⟩)

theorem progress_logDetection (hrange : world.InRange) (locked : Bool)
    (clock : ClockMicros) (durationMs : ℕ) :
    world.Progress timing (.logDetection locked clock durationMs)
      (world.logDetection locked clock durationMs) := by
  unfold World.logDetection HistoryService.logDetection
  split
  next =>
    obtain ⟨state, happend, hspec⟩ := RTCState.appendEvent_spec
      hrange.head_lt hrange.tail_lt clock durationMs
      world.service.timeSyncReceivedThisBoot
    rw [happend]
    refine ⟨_, rfl, ?_, .still ⟨rfl, rfl, rfl, rfl, rfl⟩⟩
    constructor
    · simpa using hspec.head_lt
    · simpa using hspec.tail_lt
  next => exact .still hrange rfl ⟨rfl, rfl, rfl, rfl, rfl⟩

theorem progress_pumpRead (hrange : world.InRange) (locked : Bool)
    (now : ℕ) :
    world.Progress timing (.pumpRead locked now) (world.pumpRead locked now) := by
  unfold World.pumpRead
  dsimp only
  split
  next => exact .still hrange rfl ⟨rfl, rfl, rfl, rfl, rfl⟩
  next =>
    split
    next => exact .still hrange rfl ⟨rfl, rfl, rfl, rfl, rfl⟩
    next =>
      split
      next => exact .still hrange rfl ⟨rfl, rfl, rfl, rfl, rfl⟩
      next =>
        obtain ⟨event?, hnext⟩ := HistoryService.getNextUnsynced_ends
          hrange.head_lt hrange.tail_lt locked
        rw [hnext, Option.map_some]
        cases event? with
        | some event => exact .still hrange rfl ⟨rfl, rfl, rfl, rfl, rfl⟩
        | none => exact .still hrange rfl ⟨rfl, rfl, rfl, rfl, rfl⟩

/-- Looking for an event to send changes neither party's data. -/
theorem pumpRead_frame {locked : Bool} {now : ℕ} {after : World cfg}
    (hread : world.pumpRead locked now = some after) :
    after.handler = world.handler ∧ after.service = world.service := by
  unfold World.pumpRead at hread
  dsimp only at hread
  split at hread
  · cases hread
    exact ⟨rfl, rfl⟩
  · split at hread
    · cases hread
      exact ⟨rfl, rfl⟩
    · split at hread
      · cases hread
        exact ⟨rfl, rfl⟩
      · obtain ⟨event?, -, rfl⟩ := Option.map_eq_some_iff.mp hread
        cases event? with
        | some event => exact ⟨rfl, rfl⟩
        | none => exact ⟨rfl, rfl⟩

theorem syncRead_frame {seqNum lastSyncedId syncedCount : ℕ}
    {locked : Bool} {after : World cfg}
    (hread : world.syncRead seqNum lastSyncedId syncedCount locked =
      some after) :
    after.handler = world.handler ∧ after.service = world.service := by
  unfold World.syncRead at hread
  split at hread
  · obtain ⟨result, -, rfl⟩ := Option.map_eq_some_iff.mp hread
    split
    · exact ⟨rfl, rfl⟩
    · exact ⟨rfl, rfl⟩
  · cases hread
    exact ⟨rfl, rfl⟩

theorem progress_ackMark (hrange : world.InRange) (ack : AckMessage)
    (i : SlotIndex) (eventId : ℕ) (locked : Bool) :
    world.Progress timing (.ackMark locked)
      (world.ackMark ack i eventId locked) := by
  obtain ⟨result, hmark, hframe⟩ := HistoryService.markAsSynced_frame
    hrange.head_lt hrange.tail_lt locked eventId
  unfold World.ackMark
  rw [hmark]
  refine ⟨_, rfl, ?_, .still ⟨rfl, rfl, rfl, rfl, rfl⟩⟩
  constructor
  · exact hframe.head ▸ hrange.head_lt
  · exact hframe.tail ▸ hrange.tail_lt

theorem progress_syncRead (hrange : world.InRange)
    (seqNum lastSyncedId syncedCount : ℕ) (locked : Bool) :
    world.Progress timing (.syncRead locked)
      (world.syncRead seqNum lastSyncedId syncedCount locked) := by
  unfold World.syncRead
  split
  next =>
    obtain ⟨result, hread⟩ := HistoryService.getEventsSince_ends
      hrange.head_lt hrange.tail_lt locked lastSyncedId 1
    rw [hread, Option.map_some]
    split
    · exact .still hrange rfl ⟨rfl, rfl, rfl, rfl, rfl⟩
    · exact .still hrange rfl ⟨rfl, rfl, rfl, rfl, rfl⟩
  next => exact .still hrange rfl ⟨rfl, rfl, rfl, rfl, rfl⟩

theorem progress_sendOther (hrange : world.InRange)
    (connected locked : Bool) (now : ℕ) (type : MessageType)
    (payload : List Byte) :
    world.Progress timing (.sendOther connected locked now type payload)
      (some (world.sendOther connected locked now type payload)) := by
  unfold World.sendOther
  split
  next => exact .still hrange rfl ⟨rfl, rfl, rfl, rfl, rfl⟩
  next htype =>
    exact .of_moves hrange rfl
      (.sends type _ (.other htype) ⟨rfl, rfl, rfl, rfl, rfl⟩)

/-- All that a step can do. -/
theorem progress_step (timing : TimingConfig) (hrange : world.InRange)
    (input : Step) : world.Progress timing input (world.step timing input) := by
  unfold World.step
  split
  next => exact progress_logDetection hrange _ _ _
  next => exact progress_sendOther hrange _ _ _ _ _
  next => exact progress_pumpRead hrange _ _
  next htask =>
    exact .of_moves hrange rfl
      (.sends _ _ (.pump htask) ⟨rfl, rfl, rfl, rfl, rfl⟩)
  next =>
    exact .of_moves hrange rfl
      (.retries _ _ _ rfl ⟨rfl, rfl, rfl, rfl, rfl⟩)
  next => exact .still hrange rfl ⟨rfl, rfl, rfl, rfl, rfl⟩
  next =>
    split
    next =>
      apply Progress.frees hrange
      unfold ProtocolHandler.validateAckSecurity
      split
      · exact .refl world.handler
      · exact .of_slots rfl fun _ => rfl
    next => exact .still hrange rfl ⟨rfl, rfl, rfl, rfl, rfl⟩
  next ack htask =>
    apply Progress.frees hrange
    apply (ProtocolHandler.Frees.lookupAck _ _ _).mono
    intro i hi
    simpa only [World.OwnSlot, htask] using hi
  next => exact progress_ackMark hrange _ _ _ _
  next ack i htask =>
    apply Progress.frees hrange
    apply (ProtocolHandler.Frees.confirmAck _ _ _ _).mono
    intro j hj
    simpa only [World.OwnSlot, htask] using hj
  next htask =>
    apply Progress.frees hrange
    apply (ProtocolHandler.Frees.handleNack _ _ _).mono
    intro i hi
    simpa only [World.OwnSlot, htask] using hi
  next => exact .still hrange rfl ⟨rfl, rfl, rfl, rfl, rfl⟩
  next => exact progress_syncRead hrange _ _ _ _
  next htask =>
    exact .of_moves hrange rfl
      (.sends _ _ (.sync htask) ⟨rfl, rfl, rfl, rfl, rfl⟩)
  next htask =>
    exact .of_moves hrange rfl
      (.sends _ _ (.reply htask) ⟨rfl, rfl, rfl, rfl, rfl⟩)
  next => exact .still hrange rfl ⟨rfl, rfl, rfl, rfl, rfl⟩
  next => exact .still hrange rfl ⟨rfl, rfl, rfl, rfl, rfl⟩
  next => exact .still hrange rfl ⟨rfl, rfl, rfl, rfl, rfl⟩
  next =>
    apply Progress.frees hrange
    exact .clearAllPending world.handler _
  next _ now htask =>
    refine .of_moves hrange ?_
      (.restarts now rfl htask ⟨rfl, rfl, rfl, rfl, rfl⟩)
    exact HistoryService.state_setBleConnected world.service true now
  next =>
    apply Progress.frees hrange
    exact .clearAllPending world.handler _
  next _ now _ =>
    refine .still hrange ?_ ⟨rfl, rfl, rfl, rfl, rfl⟩
    exact HistoryService.state_setBleConnected world.service false now
  next =>
    split
    next => exact .still hrange rfl ⟨rfl, rfl, rfl, rfl, rfl⟩
    next => exact .still hrange rfl ⟨rfl, rfl, rfl, rfl, rfl⟩
  next =>
    split
    next => exact .still hrange rfl ⟨rfl, rfl, rfl, rfl, rfl⟩
    next => exact .still hrange rfl ⟨rfl, rfl, rfl, rfl, rfl⟩
  next => exact .still hrange rfl ⟨rfl, rfl, rfl, rfl, rfl⟩

theorem SendOf.sends {input : Step} {type : MessageType}
    {outcome : SendOutcome} (hsend : world.SendOf input type outcome)
    (hnumber : world.handler.txSeqNum < 2 ^ 16) :
    ProtocolHandler.Sends world.handler type outcome := by
  cases hsend with
  | pump htask => exact ProtocolHandler.sends_detection _ hnumber _ _ _ _ _ _
  | sync htask => exact ProtocolHandler.sends_detection _ hnumber _ _ _ _ _ _
  | other htype =>
      exact ProtocolHandler.sends_message _ hnumber _ _ _ _ _ _ _
  | reply htask =>
      exact ProtocolHandler.sends_message _ hnumber _ _ _ _ _ _ _

theorem inRange_start (cfg : HistoryConfig) : (World.start cfg).InRange := by
  have hsafe : (RTCState.resetState cfg).Safe := RTCState.safe_resetState
  exact ⟨hsafe.head_lt, hsafe.tail_lt⟩

end World

end Delivery

end SensorFirmware
