import SensorFirmware.ProtocolFrame

/-!
# The protocol handler

Sequence numbers, the table of messages that wait for an ACK, and the checks on
incoming ACKs.  `locked` tells whether the mutex was obtained.  `handleAck`
gives the mutex back between its parts, so it is modelled as its parts.
-/

namespace SensorFirmware

/-- `Timing` of `Config.h`. -/
structure TimingConfig where
  ackTimeoutMs : ℕ
  maxRetryCount : ℕ

/-- `data` is the whole frame, so its length is `dataLen`. -/
structure PendingMessage where
  active : Bool
  seqNum : ℕ
  sentTime : ℕ
  retryCount : ℕ
  msgType : MessageType
  data : List Byte
  deriving DecidableEq, Repr

def PendingMessage.empty : PendingMessage where
  active := false
  seqNum := 0
  sentTime := 0
  retryCount := 0
  msgType := .hello
  data := []

def PendingMessage.awaits (seqNum : ℕ) (slot : PendingMessage) : Bool :=
  slot.active && slot.seqNum == seqNum

abbrev SlotIndex := Fin Protocol.maxPendingMessages

structure ProtocolHandler where
  initialized : Bool
  txSeqNum : ℕ
  expectedRxSeqNum : ℕ
  pendingMessages : Vector PendingMessage Protocol.maxPendingMessages
  txCount : ℕ
  rxCount : ℕ
  retryCount : ℕ
  errorCount : ℕ
  invalidAckCount : ℕ
  lastSecurityEvent : ℕ
  detectionEventCount : ℕ
  detectionWindowStart : ℕ
  lastConfigSeqNum : ℕ
  configSeqInitialized : Bool
  deriving DecidableEq

/-- The state of the link that `sendNotification` asks for. -/
structure BleLink where
  connected : Bool
  subscribed : Bool
  deriving DecidableEq, Repr

def BleLink.ready (link : BleLink) : Bool :=
  link.connected && link.subscribed

/-- What a send has done: whether a sequence number was taken, the frame that
was built with it, the slot that was filled, and the returned value. -/
structure SendOutcome where
  handler : ProtocolHandler
  issued : Bool
  frame : Option (List Byte)
  tracked : Option SlotIndex
  sent : Bool

def SendOutcome.refused (handler : ProtocolHandler) : SendOutcome where
  handler := handler
  issued := false
  frame := none
  tracked := none
  sent := false

/-- A send that has taken a number and ends without a slot. -/
def SendOutcome.dropped (handler : ProtocolHandler)
    (frame : Option (List Byte)) : SendOutcome where
  handler := handler
  issued := true
  frame := frame
  tracked := none
  sent := false

namespace ProtocolHandler

/-- The constructor followed by `init`. -/
def construct : ProtocolHandler where
  initialized := true
  txSeqNum := 0
  expectedRxSeqNum := 0
  pendingMessages := Vector.replicate _ PendingMessage.empty
  txCount := 0
  rxCount := 0
  retryCount := 0
  errorCount := 0
  invalidAckCount := 0
  lastSecurityEvent := 0
  detectionEventCount := 0
  detectionWindowStart := 0
  lastConfigSeqNum := 0
  configSeqInitialized := false

/-! ## The table of pending messages -/

def slot (handler : ProtocolHandler) (i : SlotIndex) : PendingMessage :=
  handler.pendingMessages[i]

def setSlot (handler : ProtocolHandler) (i : SlotIndex)
    (message : PendingMessage) : ProtocolHandler :=
  { handler with
    pendingMessages := handler.pendingMessages.set i message i.isLt }

theorem slot_setSlot (handler : ProtocolHandler) (i j : SlotIndex)
    (message : PendingMessage) :
    (handler.setSlot i message).slot j =
      if i = j then message else handler.slot j := by
  simp only [slot, setSlot, Fin.getElem_fin, Vector.getElem_set,
    Fin.ext_iff]

/-- The first slot with a property, in the order of the loops. -/
def findSlot (handler : ProtocolHandler)
    (wanted : PendingMessage → Bool) : Option SlotIndex :=
  (List.finRange _).find? fun i => wanted (handler.slot i)

theorem findSlot_some {handler : ProtocolHandler}
    {wanted : PendingMessage → Bool} {i : SlotIndex}
    (hfind : handler.findSlot wanted = some i) :
    wanted (handler.slot i) = true := by
  unfold findSlot at hfind
  have hwanted := List.find?_some hfind
  simpa using hwanted

def getPendingCount (handler : ProtocolHandler) : ℕ :=
  (List.finRange _).countP fun i => (handler.slot i).active

def release (handler : ProtocolHandler) (i : SlotIndex) : ProtocolHandler :=
  handler.setSlot i { handler.slot i with active := false }

def findFreeSlot (handler : ProtocolHandler) : Option SlotIndex :=
  handler.findSlot fun message => !message.active

/-- The slot that was filled is returned with the handler. -/
def trackPendingLocked (handler : ProtocolHandler) (now seqNum : ℕ)
    (type : MessageType) (data : List Byte) :
    Option (ProtocolHandler × SlotIndex) :=
  handler.findFreeSlot.map fun i =>
    (handler.setSlot i {
      active := true
      seqNum := seqNum
      sentTime := now
      retryCount := 0
      msgType := type
      data := data }, i)

def clearPendingLocked (handler : ProtocolHandler) (seqNum : ℕ) :
    ProtocolHandler :=
  match handler.findSlot (PendingMessage.awaits seqNum) with
  | some i => handler.release i
  | none => handler

def clearPending (handler : ProtocolHandler) (locked : Bool)
    (seqNum : ℕ) : ProtocolHandler :=
  if locked then handler.clearPendingLocked seqNum else handler

def clearAllPending (handler : ProtocolHandler) (locked : Bool) :
    ProtocolHandler :=
  if locked then
    { handler with
      pendingMessages := handler.pendingMessages.map fun message =>
        { message with active := false } }
  else handler

/-- `resetForNewConnection` after its call of `clearAllPending`. -/
def restartNumbering (handler : ProtocolHandler) : ProtocolHandler :=
  { handler with
    invalidAckCount := 0
    lastSecurityEvent := 0
    txSeqNum := 0
    expectedRxSeqNum := 0 }

/-- The numbering restarts also when the mutex was not obtained. -/
def resetForNewConnection (handler : ProtocolHandler) (locked : Bool) :
    ProtocolHandler :=
  (handler.clearAllPending locked).restartNumbering

/-! ## Sending -/

def takeSeqNum (handler : ProtocolHandler) : ProtocolHandler :=
  { handler with txSeqNum := u16 (handler.txSeqNum + 1) }

/-- The frame is handed to the link; if that fails, the slot with its number is
given up. -/
def notify (handler : ProtocolHandler) (link : BleLink) (seqNum : ℕ)
    (frame : List Byte) (tracked : Option SlotIndex) : SendOutcome :=
  if link.ready then
    { handler := { handler with txCount := u32 (handler.txCount + 1) }
      issued := true
      frame := some frame
      tracked := tracked
      sent := true }
  else
    let cleared := handler.clearPendingLocked seqNum
    { handler := { cleared with errorCount := u32 (cleared.errorCount + 1) }
      issued := true
      frame := some frame
      tracked := tracked
      sent := false }

/-- `connected` is what `isConnected` answered before the mutex was taken, and
`link` is the link at the end. -/
def sendMessage (handler : ProtocolHandler) (connected : Bool)
    (link : BleLink) (locked : Bool) (now : ℕ) (type : MessageType)
    (payload : List Byte) (requireAck : Bool) : SendOutcome :=
  if handler.initialized && connected && locked then
    let seqNum := handler.txSeqNum
    let numbered := handler.takeSeqNum
    match buildFrame type payload seqNum with
    | none => .dropped numbered none
    | some frame =>
        if requireAck then
          match numbered.trackPendingLocked now seqNum type frame with
          | none => .dropped numbered (some frame)
          | some (tracking, i) => tracking.notify link seqNum frame (some i)
        else numbered.notify link seqNum frame none
  else .refused handler

/-- The window of the governor is renewed before it is asked. -/
def renewWindow (handler : ProtocolHandler) (now : ℕ) : ProtocolHandler :=
  if Protocol.detectionRateWindowMs <
      sub32 now handler.detectionWindowStart then
    { handler with detectionWindowStart := now, detectionEventCount := 0 }
  else handler

def countDetection (handler : ProtocolHandler) : ProtocolHandler :=
  { handler with
    detectionEventCount := u8 (handler.detectionEventCount + 1) }

/-- An event beyond the limit of the window is dropped; the call that then asks
the sensor to suppress detections touches nothing here. -/
def sendDetectionEvent (handler : ProtocolHandler) (connected : Bool)
    (link : BleLink) (locked : Bool) (now : ℕ) (event : DetectionEvent)
    (bypassGovernor : Bool) : SendOutcome :=
  if bypassGovernor then
    handler.sendMessage connected link locked now .detectionEvent
      event.toBytes true
  else
    let renewed := handler.renewWindow now
    if Protocol.maxDetectionsPerWindow ≤ renewed.detectionEventCount then
      .refused renewed
    else
      renewed.countDetection.sendMessage connected link locked now
        .detectionEvent event.toBytes true

def sendAck (handler : ProtocolHandler) (connected : Bool) (link : BleLink)
    (locked : Bool) (now ackedSeqNum : ℕ) : SendOutcome :=
  handler.sendMessage connected link locked now .ack
    (be16Bytes ackedSeqNum) false

/-- The body of the loop of `processRetries` for one slot.  The second result
is the frame to be sent again once the mutex is given back. -/
def retrySlot (timing : TimingConfig) (handler : ProtocolHandler)
    (locked : Bool) (now : ℕ) (i : SlotIndex) :
    ProtocolHandler × Option (List Byte) :=
  let message := handler.slot i
  if !locked || !message.active then (handler, none)
  else if timing.ackTimeoutMs < sub32 now message.sentTime then
    if message.retryCount < timing.maxRetryCount then
      let retried := handler.setSlot i { message with
        retryCount := u8 (message.retryCount + 1)
        sentTime := now }
      ({ retried with retryCount := u32 (retried.retryCount + 1) },
        some message.data)
    else
      let released := handler.release i
      ({ released with errorCount := u32 (released.errorCount + 1) }, none)
  else (handler, none)

/-! ## Incoming ACKs and NACKs -/

/-- A phantom ACK is counted; at the threshold only the count is reset. -/
def countPhantomAck (handler : ProtocolHandler) (now : ℕ) :
    ProtocolHandler :=
  let invalidAckCount :=
    if Protocol.securityResetWindowMs <
        sub32 now handler.lastSecurityEvent then 1
    else u8 (handler.invalidAckCount + 1)
  { handler with
    invalidAckCount :=
      if Protocol.invalidAckThreshold ≤ invalidAckCount then 0
      else invalidAckCount
    lastSecurityEvent := now
    errorCount := u32 (handler.errorCount + 1) }

/-- Without the mutex no slot is found. -/
def validateAckSecurity (handler : ProtocolHandler) (locked : Bool)
    (now seqNum : ℕ) : ProtocolHandler × Bool :=
  if locked && (handler.findSlot (PendingMessage.awaits seqNum)).isSome then
    (handler, true)
  else (handler.countPhantomAck now, false)

/-- `_pendingMessages[i].active = false; found = true`. -/
def accept (handler : ProtocolHandler) (i : SlotIndex) : ProtocolHandler :=
  { handler.release i with invalidAckCount := 0 }

/-- The scan of `handleAck`.  A detection is left in its slot for now, and its
identifier is read; any other message is accepted at once. -/
def lookupAck (handler : ProtocolHandler) (locked : Bool)
    (ackedSeq : ℕ) : ProtocolHandler × Option (SlotIndex × ℕ) :=
  if !locked then (handler, none)
  else
    match handler.findSlot (PendingMessage.awaits ackedSeq) with
    | none => (handler, none)
    | some i =>
        if (handler.slot i).msgType = .detectionEvent then
          (handler, some (i, frameEventId (handler.slot i).data))
        else (handler.accept i, none)

/-- The end of `handleAck` for a detection, after `markAsSynced`. -/
def confirmAck (handler : ProtocolHandler) (locked : Bool) (i : SlotIndex)
    (ackedSeq : ℕ) : ProtocolHandler :=
  if locked && (handler.slot i).awaits ackedSeq then handler.accept i
  else handler

def handleNack (handler : ProtocolHandler) (locked : Bool)
    (nackedSeq : ℕ) : ProtocolHandler :=
  let cleared := handler.clearPending locked nackedSeq
  { cleared with errorCount := u32 (cleared.errorCount + 1) }

/-! ## What becomes of the slots -/

/-- The slot held this message before, apart from its retries. -/
structure SameMessage (old new : PendingMessage) : Prop where
  active : old.active = true
  seqNum : new.seqNum = old.seqNum
  msgType : new.msgType = old.msgType
  data : new.data = old.data

theorem SameMessage.refl {message : PendingMessage}
    (hactive : message.active = true) : SameMessage message message :=
  ⟨hactive, rfl, rfl, rfl⟩

theorem SameMessage.trans {first second third : PendingMessage}
    (hleft : SameMessage first second) (hright : SameMessage second third) :
    SameMessage first third := by
  constructor
  · exact hleft.active
  · rw [hright.seqNum, hleft.seqNum]
  · rw [hright.msgType, hleft.msgType]
  · rw [hright.data, hleft.data]

/-- Slots are at most given up, and no number is taken. -/
structure Shrinks (before after : ProtocolHandler) : Prop where
  txSeqNum : after.txSeqNum = before.txSeqNum
  slots : ∀ i, (after.slot i).active = true →
    SameMessage (before.slot i) (after.slot i)

namespace Shrinks

variable {before after : ProtocolHandler}

theorem of_slots (htx : after.txSeqNum = before.txSeqNum)
    (hslots : ∀ i, after.slot i = before.slot i) :
    Shrinks before after := by
  refine ⟨htx, ?_⟩
  intro i hactive
  rw [hslots i] at hactive ⊢
  exact .refl hactive

theorem refl (handler : ProtocolHandler) : Shrinks handler handler :=
  of_slots rfl fun _ => rfl

theorem setSlot (handler : ProtocolHandler) (i : SlotIndex)
    {message : PendingMessage}
    (hsame : message.active = true →
      SameMessage (handler.slot i) message) :
    Shrinks handler (handler.setSlot i message) := by
  refine ⟨rfl, ?_⟩
  intro j hactive
  rw [slot_setSlot] at hactive ⊢
  by_cases heq : i = j
  · subst j
    rw [if_pos rfl] at hactive ⊢
    exact hsame hactive
  · rw [if_neg heq] at hactive ⊢
    exact .refl hactive

theorem release (handler : ProtocolHandler) (i : SlotIndex) :
    Shrinks handler (handler.release i) := by
  apply setSlot
  intro hactive
  cases hactive

theorem clearPendingLocked (handler : ProtocolHandler) (seqNum : ℕ) :
    Shrinks handler (handler.clearPendingLocked seqNum) := by
  unfold ProtocolHandler.clearPendingLocked
  split
  · exact release handler _
  · exact refl handler

theorem clearAllPending (handler : ProtocolHandler) (locked : Bool) :
    Shrinks handler (handler.clearAllPending locked) := by
  unfold ProtocolHandler.clearAllPending
  split
  · refine ⟨rfl, ?_⟩
    intro i hactive
    simp [slot] at hactive
  · exact refl handler

theorem retrySlot (timing : TimingConfig) (handler : ProtocolHandler)
    (locked : Bool) (now : ℕ) (i : SlotIndex) :
    Shrinks handler (handler.retrySlot timing locked now i).1 := by
  unfold ProtocolHandler.retrySlot
  dsimp only
  split
  · exact refl handler
  next hready =>
    have hactive : (handler.slot i).active = true := by
      simp at hready
      exact hready.2
    split
    · split
      · have hsame : SameMessage (handler.slot i) { handler.slot i with
            retryCount := u8 ((handler.slot i).retryCount + 1)
            sentTime := now } := ⟨hactive, rfl, rfl, rfl⟩
        have hretried := setSlot handler i fun _ => hsame
        exact ⟨hretried.txSeqNum, hretried.slots⟩
      · have hreleased := release handler i
        exact ⟨hreleased.txSeqNum, hreleased.slots⟩
    · exact refl handler

theorem validateAckSecurity (handler : ProtocolHandler) (locked : Bool)
    (now seqNum : ℕ) :
    Shrinks handler (handler.validateAckSecurity locked now seqNum).1 := by
  unfold ProtocolHandler.validateAckSecurity
  split
  · exact refl handler
  · exact of_slots rfl fun _ => rfl

theorem accept (handler : ProtocolHandler) (i : SlotIndex) :
    Shrinks handler (handler.accept i) := by
  have hreleased := release handler i
  exact ⟨hreleased.txSeqNum, hreleased.slots⟩

theorem lookupAck (handler : ProtocolHandler) (locked : Bool)
    (ackedSeq : ℕ) :
    Shrinks handler (handler.lookupAck locked ackedSeq).1 := by
  unfold ProtocolHandler.lookupAck
  split
  · exact refl handler
  · split
    · exact refl handler
    · split
      · exact refl handler
      · exact accept handler _

theorem confirmAck (handler : ProtocolHandler) (locked : Bool)
    (i : SlotIndex) (ackedSeq : ℕ) :
    Shrinks handler (handler.confirmAck locked i ackedSeq) := by
  unfold ProtocolHandler.confirmAck
  split
  · exact accept handler i
  · exact refl handler

theorem handleNack (handler : ProtocolHandler) (locked : Bool)
    (nackedSeq : ℕ) :
    Shrinks handler (handler.handleNack locked nackedSeq) := by
  have hcleared : Shrinks handler
      (handler.clearPending locked nackedSeq) := by
    unfold ProtocolHandler.clearPending
    split
    · exact clearPendingLocked handler nackedSeq
    · exact refl handler
  exact ⟨hcleared.txSeqNum, hcleared.slots⟩

end Shrinks

theorem retrySlot_some {timing : TimingConfig} {handler : ProtocolHandler}
    {locked : Bool} {now : ℕ} {i : SlotIndex} {bytes : List Byte}
    (hretry : (handler.retrySlot timing locked now i).2 = some bytes) :
    (handler.slot i).active = true ∧ bytes = (handler.slot i).data := by
  unfold retrySlot at hretry
  dsimp only at hretry
  split at hretry
  · cases hretry
  next hready =>
    split at hretry
    · split at hretry
      · cases hretry
        simp at hready
        exact ⟨hready.2, rfl⟩
      · cases hretry
    · cases hretry

theorem lookupAck_some {handler : ProtocolHandler} {locked : Bool}
    {ackedSeq : ℕ} {i : SlotIndex} {eventId : ℕ}
    (hfound : (handler.lookupAck locked ackedSeq).2 = some (i, eventId)) :
    locked = true ∧
      handler.findSlot (PendingMessage.awaits ackedSeq) = some i ∧
      (handler.slot i).msgType = .detectionEvent ∧
      eventId = frameEventId (handler.slot i).data := by
  unfold lookupAck at hfound
  split at hfound
  · cases hfound
  next hlocked =>
    split at hfound
    · cases hfound
    next j hfind =>
      split at hfound
      next htype =>
        cases hfound
        exact ⟨by simpa using hlocked, hfind, htype, rfl⟩
      · cases hfound

/-! ## What a send does -/

/-- The effect of a send on the numbering and on the slots. -/
structure Sends (before : ProtocolHandler) (type : MessageType)
    (outcome : SendOutcome) : Prop where
  txSeqNum : outcome.handler.txSeqNum =
    if outcome.issued then u16 (before.txSeqNum + 1) else before.txSeqNum
  frame : ∀ frame, outcome.frame = some frame →
    outcome.issued = true ∧ frameType frame = some type.code ∧
      frameSeqNum frame = some before.txSeqNum
  slots : ∀ i, (outcome.handler.slot i).active = true →
    (outcome.tracked ≠ some i ∧
      SameMessage (before.slot i) (outcome.handler.slot i)) ∨
    (outcome.tracked = some i ∧
      outcome.frame = some (outcome.handler.slot i).data ∧
      (outcome.handler.slot i).seqNum = before.txSeqNum ∧
      (outcome.handler.slot i).msgType = type)

theorem Sends.after {before middle : ProtocolHandler} {type : MessageType}
    {outcome : SendOutcome} (hsends : Sends middle type outcome)
    (hsame : Shrinks before middle) : Sends before type outcome := by
  refine ⟨?_, ?_, ?_⟩
  · rw [hsends.txSeqNum, hsame.txSeqNum]
  · intro frame hframe
    rw [← hsame.txSeqNum]
    exact hsends.frame frame hframe
  · intro i hactive
    rw [← hsame.txSeqNum]
    rcases hsends.slots i hactive with ⟨hother, hheld⟩ | hfilled
    · exact .inl ⟨hother, (hsame.slots i hheld.active).trans hheld⟩
    · exact .inr hfilled

/-- Only the two counters of the link change besides the slots. -/
theorem shrinks_notify (handler : ProtocolHandler) (link : BleLink)
    (seqNum : ℕ) (frame : List Byte) (tracked : Option SlotIndex) :
    Shrinks handler (handler.notify link seqNum frame tracked).handler := by
  unfold notify
  split
  · exact .of_slots rfl fun _ => rfl
  · have hcleared := Shrinks.clearPendingLocked handler seqNum
    exact ⟨hcleared.txSeqNum, hcleared.slots⟩

@[simp] theorem issued_notify (handler : ProtocolHandler) (link : BleLink)
    (seqNum : ℕ) (frame : List Byte) (tracked : Option SlotIndex) :
    (handler.notify link seqNum frame tracked).issued = true := by
  unfold notify
  split <;> rfl

@[simp] theorem frame_notify (handler : ProtocolHandler) (link : BleLink)
    (seqNum : ℕ) (frame : List Byte) (tracked : Option SlotIndex) :
    (handler.notify link seqNum frame tracked).frame = some frame := by
  unfold notify
  split <;> rfl

@[simp] theorem tracked_notify (handler : ProtocolHandler) (link : BleLink)
    (seqNum : ℕ) (frame : List Byte) (tracked : Option SlotIndex) :
    (handler.notify link seqNum frame tracked).tracked = tracked := by
  unfold notify
  split <;> rfl

theorem sends_refused {before after : ProtocolHandler}
    (hsame : Shrinks before after) (type : MessageType) :
    Sends before type (.refused after) := by
  refine ⟨hsame.txSeqNum, ?_, ?_⟩
  · intro frame hframe
    cases hframe
  · intro i hactive
    exact .inl ⟨nofun, hsame.slots i hactive⟩

/-- A frame with the type and the current number of the handler. -/
def Carries (handler : ProtocolHandler) (type : MessageType)
    (frame : List Byte) : Prop :=
  frameType frame = some type.code ∧
    frameSeqNum frame = some handler.txSeqNum

theorem sends_dropped (handler : ProtocolHandler) {type : MessageType}
    {frame : Option (List Byte)}
    (hcarries : ∀ built, frame = some built → handler.Carries type built) :
    Sends handler type (.dropped handler.takeSeqNum frame) := by
  refine ⟨rfl, ?_, ?_⟩
  · intro built hframe
    exact ⟨rfl, hcarries built hframe⟩
  · intro i hactive
    exact .inl ⟨nofun, .refl hactive⟩

theorem sends_untracked (handler : ProtocolHandler) (link : BleLink)
    {type : MessageType} {frame : List Byte}
    (hcarries : handler.Carries type frame) :
    Sends handler type
      (handler.takeSeqNum.notify link handler.txSeqNum frame none) := by
  have hnotified := shrinks_notify handler.takeSeqNum link
    handler.txSeqNum frame none
  refine ⟨?_, ?_, ?_⟩
  · rw [issued_notify, if_pos rfl]
    exact hnotified.txSeqNum
  · intro built hframe
    rw [frame_notify] at hframe
    cases hframe
    exact ⟨issued_notify _ _ _ _ _, hcarries⟩
  · intro i hactive
    exact .inl ⟨by simp, hnotified.slots i hactive⟩

theorem sends_tracked (handler : ProtocolHandler) (link : BleLink)
    {now : ℕ} {type : MessageType} {frame : List Byte}
    {tracking : ProtocolHandler × SlotIndex}
    (hcarries : handler.Carries type frame)
    (htrack : handler.takeSeqNum.trackPendingLocked now handler.txSeqNum
      type frame = some tracking) :
    Sends handler type (tracking.1.notify link handler.txSeqNum frame
      (some tracking.2)) := by
  obtain ⟨j, _, rfl⟩ := Option.map_eq_some_iff.mp htrack
  dsimp only
  have hnotified := shrinks_notify (handler.takeSeqNum.setSlot j
    ⟨true, handler.txSeqNum, now, 0, type, frame⟩) link handler.txSeqNum
    frame (some j)
  refine ⟨?_, ?_, ?_⟩
  · rw [issued_notify, if_pos rfl]
    exact hnotified.txSeqNum
  · intro built hframe
    rw [frame_notify] at hframe
    cases hframe
    exact ⟨issued_notify _ _ _ _ _, hcarries⟩
  · intro i hactive
    have hsame := hnotified.slots i hactive
    rw [slot_setSlot] at hsame
    by_cases heq : j = i
    · rw [if_pos heq] at hsame
      refine .inr ⟨by rw [tracked_notify, heq], ?_, hsame.seqNum,
        hsame.msgType⟩
      rw [frame_notify, hsame.data]
    · rw [if_neg heq] at hsame
      exact .inl ⟨by simpa using heq, hsame⟩

theorem sends_message (handler : ProtocolHandler)
    (hnumber : handler.txSeqNum < 2 ^ 16) (connected : Bool)
    (link : BleLink) (locked : Bool) (now : ℕ) (type : MessageType)
    (payload : List Byte) (requireAck : Bool) :
    Sends handler type (handler.sendMessage connected link locked now type
      payload requireAck) := by
  unfold sendMessage
  split
  next hready =>
    dsimp only
    split
    next => exact sends_dropped handler nofun
    next frame hbuild =>
      have hcarries : handler.Carries type frame :=
        ⟨frameType_buildFrame hbuild,
          frameSeqNum_buildFrame hnumber hbuild⟩
      split
      next hack =>
        split
        next htrack =>
          apply sends_dropped handler
          intro built heq
          cases heq
          exact hcarries
        next tracking i htrack =>
          exact sends_tracked handler link hcarries htrack
      next hack => exact sends_untracked handler link hcarries
  next hready => exact sends_refused (.refl handler) type

theorem sends_detection (handler : ProtocolHandler)
    (hnumber : handler.txSeqNum < 2 ^ 16) (connected : Bool)
    (link : BleLink) (locked : Bool) (now : ℕ) (event : DetectionEvent)
    (bypassGovernor : Bool) :
    Sends handler .detectionEvent (handler.sendDetectionEvent connected
      link locked now event bypassGovernor) := by
  have hwindow : Shrinks handler (handler.renewWindow now) := by
    unfold renewWindow
    split
    · exact .of_slots rfl fun _ => rfl
    · exact .refl handler
  unfold sendDetectionEvent
  split
  next =>
    exact sends_message handler hnumber connected link locked now
      .detectionEvent event.toBytes true
  next =>
    dsimp only
    split
    next => exact sends_refused hwindow .detectionEvent
    next =>
      have hcounted : Shrinks handler
          (handler.renewWindow now).countDetection :=
        ⟨hwindow.txSeqNum, hwindow.slots⟩
      have hsends := sends_message (handler.renewWindow now).countDetection
        (by rw [hcounted.txSeqNum]; exact hnumber)
        connected link locked now .detectionEvent event.toBytes true
      exact hsends.after hcounted

end ProtocolHandler

end SensorFirmware
