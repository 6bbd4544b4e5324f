import SensorFirmware.SetConfig

/-!
# Handlers that differ in nothing that matters

Two handlers are alike when they differ at most in their statistics, in the
contents of free slots, in the window of the detection governor, and in the
number of the last SET_CONFIG.  Every operation keeps them alike and gives the
same results.
-/

namespace SensorFirmware

/-- `last` and `last'` are the two numbers of the last SET_CONFIG. -/
structure Alike (last last' : Option ℕ) (left right : ProtocolHandler) :
    Prop where
  initialized : left.initialized = true
  initialized' : right.initialized = true
  txSeqNum : left.txSeqNum = right.txSeqNum
  expectedRxSeqNum : left.expectedRxSeqNum = right.expectedRxSeqNum
  invalidAckCount : left.invalidAckCount = right.invalidAckCount
  lastSecurityEvent : left.lastSecurityEvent = right.lastSecurityEvent
  active : ∀ i, (left.slot i).active = (right.slot i).active
  slots : ∀ i, (left.slot i).active = true → left.slot i = right.slot i
  leftNumber : left.configNumber = last
  rightNumber : right.configNumber = last'

/-- Two sends with the same result. -/
structure AlikeOutcomes (last last' : Option ℕ)
    (left right : SendOutcome) : Prop where
  handler : Alike last last' left.handler right.handler
  frame : left.frame = right.frame
  sent : left.sent = right.sent

namespace Alike

open ProtocolHandler

variable {last last' : Option ℕ} {left right : ProtocolHandler}

theorem refl {handler : ProtocolHandler}
    (hinitialized : handler.initialized = true) :
    Alike handler.configNumber handler.configNumber handler handler :=
  ⟨hinitialized, hinitialized, rfl, rfl, rfl, rfl, fun _ => rfl,
    fun _ _ => rfl, rfl, rfl⟩

/-- Only fields change that are not compared. -/
theorem of_fields (halike : Alike last last' left right)
    {left' right' : ProtocolHandler}
    (hinitialized : left'.initialized = left.initialized ∧
      right'.initialized = right.initialized)
    (htx : left'.txSeqNum = right'.txSeqNum)
    (hrx : left'.expectedRxSeqNum = right'.expectedRxSeqNum)
    (hcount : left'.invalidAckCount = right'.invalidAckCount)
    (hevent : left'.lastSecurityEvent = right'.lastSecurityEvent)
    (hslots : left'.pendingMessages = left.pendingMessages ∧
      right'.pendingMessages = right.pendingMessages)
    (hnumber : left'.configNumber = left.configNumber ∧
      right'.configNumber = right.configNumber) :
    Alike last last' left' right' := by
  have hleft : ∀ i, left'.slot i = left.slot i := by
    intro i
    rw [slot, slot, hslots.1]
  have hright : ∀ i, right'.slot i = right.slot i := by
    intro i
    rw [slot, slot, hslots.2]
  refine ⟨?_, ?_, htx, hrx, hcount, hevent, ?_, ?_, ?_, ?_⟩
  · rw [hinitialized.1, halike.initialized]
  · rw [hinitialized.2, halike.initialized']
  · intro i
    rw [hleft, hright, halike.active]
  · intro i
    rw [hleft, hright]
    exact halike.slots i
  · rw [hnumber.1, halike.leftNumber]
  · rw [hnumber.2, halike.rightNumber]

theorem setSlot (halike : Alike last last' left right) (i : SlotIndex)
    {message message' : PendingMessage}
    (hactive : message.active = message'.active)
    (hsame : message.active = true → message = message') :
    Alike last last' (left.setSlot i message) (right.setSlot i message') := by
  refine ⟨halike.initialized, halike.initialized', halike.txSeqNum,
    halike.expectedRxSeqNum, halike.invalidAckCount, halike.lastSecurityEvent, ?_, ?_,
    halike.leftNumber, halike.rightNumber⟩
  · intro j
    rw [slot_setSlot, slot_setSlot]
    by_cases heq : i = j
    · rw [if_pos heq, if_pos heq]
      exact hactive
    · rw [if_neg heq, if_neg heq]
      exact halike.active j
  · intro j
    rw [slot_setSlot, slot_setSlot]
    by_cases heq : i = j
    · rw [if_pos heq, if_pos heq]
      exact hsame
    · rw [if_neg heq, if_neg heq]
      exact halike.slots j

theorem release (halike : Alike last last' left right) (i : SlotIndex) :
    Alike last last' (left.release i) (right.release i) :=
  halike.setSlot i rfl nofun

theorem findSlot (halike : Alike last last' left right)
    {wanted : PendingMessage → Bool}
    (hwanted : ∀ message message' : PendingMessage,
      message.active = message'.active →
        (message.active = true → message = message') →
          wanted message = wanted message') :
    left.findSlot wanted = right.findSlot wanted := by
  unfold ProtocolHandler.findSlot
  congr 1
  funext i
  exact hwanted _ _ (halike.active i) (halike.slots i)

theorem findSlot_awaits (halike : Alike last last' left right)
    (seqNum : ℕ) :
    left.findSlot (PendingMessage.awaits seqNum) =
      right.findSlot (PendingMessage.awaits seqNum) := by
  apply halike.findSlot
  intro message message' hactive hsame
  unfold PendingMessage.awaits
  cases hmessage : message.active with
  | false => rw [← hactive, hmessage, Bool.false_and, Bool.false_and]
  | true => rw [← hsame hmessage, hmessage]

theorem clearPendingLocked (halike : Alike last last' left right)
    (seqNum : ℕ) :
    Alike last last' (left.clearPendingLocked seqNum)
      (right.clearPendingLocked seqNum) := by
  unfold ProtocolHandler.clearPendingLocked
  rw [halike.findSlot_awaits seqNum]
  cases right.findSlot (PendingMessage.awaits seqNum) with
  | none => exact halike
  | some i => exact halike.release i

theorem takeSeqNum (halike : Alike last last' left right) :
    Alike last last' left.takeSeqNum right.takeSeqNum := by
  refine halike.of_fields ⟨rfl, rfl⟩ ?_ halike.expectedRxSeqNum
    halike.invalidAckCount halike.lastSecurityEvent ⟨rfl, rfl⟩ ⟨rfl, rfl⟩
  show u16 (left.txSeqNum + 1) = u16 (right.txSeqNum + 1)
  rw [halike.txSeqNum]

theorem countError (halike : Alike last last' left right) :
    Alike last last' left.countError right.countError :=
  halike.of_fields ⟨rfl, rfl⟩ halike.txSeqNum halike.expectedRxSeqNum
    halike.invalidAckCount halike.lastSecurityEvent ⟨rfl, rfl⟩ ⟨rfl, rfl⟩

theorem countReceived (halike : Alike last last' left right)
    (locked : Bool) :
    Alike last last' (left.countReceived locked)
      (right.countReceived locked) := by
  unfold ProtocolHandler.countReceived
  cases locked with
  | false => exact halike
  | true =>
      exact halike.of_fields ⟨rfl, rfl⟩ halike.txSeqNum
        halike.expectedRxSeqNum halike.invalidAckCount
        halike.lastSecurityEvent ⟨rfl, rfl⟩ ⟨rfl, rfl⟩

/-! ## Sends -/

theorem notify (halike : Alike last last' left right) (link : BleLink)
    (seqNum : ℕ) (frame : List Byte) (tracked : Option SlotIndex) :
    AlikeOutcomes last last' (left.notify link seqNum frame tracked)
      (right.notify link seqNum frame tracked) := by
  unfold ProtocolHandler.notify
  cases link.ready with
  | true =>
      refine ⟨?_, rfl, rfl⟩
      exact halike.of_fields ⟨rfl, rfl⟩ halike.txSeqNum
        halike.expectedRxSeqNum halike.invalidAckCount
        halike.lastSecurityEvent ⟨rfl, rfl⟩ ⟨rfl, rfl⟩
  | false =>
      exact ⟨(halike.clearPendingLocked seqNum).countError, rfl, rfl⟩

theorem trackPendingLocked (halike : Alike last last' left right)
    (now seqNum : ℕ) (type : MessageType) (data : List Byte) :
    Option.Rel (fun tracking tracking' : ProtocolHandler × SlotIndex =>
        Alike last last' tracking.1 tracking'.1 ∧ tracking.2 = tracking'.2)
      (left.trackPendingLocked now seqNum type data)
      (right.trackPendingLocked now seqNum type data) := by
  have hfree : left.findFreeSlot = right.findFreeSlot := by
    apply halike.findSlot
    intro message message' hactive _
    rw [hactive]
  unfold ProtocolHandler.trackPendingLocked
  rw [hfree]
  cases right.findFreeSlot with
  | none => exact .none
  | some i => exact .some ⟨halike.setSlot i rfl fun _ => rfl, rfl⟩

theorem sendMessage (halike : Alike last last' left right)
    (connected : Bool) (link : BleLink) (locked : Bool) (now : ℕ)
    (type : MessageType) (payload : List Byte) (requireAck : Bool) :
    AlikeOutcomes last last'
      (left.sendMessage connected link locked now type payload requireAck)
      (right.sendMessage connected link locked now type payload
        requireAck) := by
  have htaken := halike.takeSeqNum
  unfold ProtocolHandler.sendMessage
  rw [halike.initialized, halike.initialized', halike.txSeqNum]
  split
  · dsimp only
    split
    · exact ⟨htaken, rfl, rfl⟩
    next frame hbuild =>
      split
      · have htrack := htaken.trackPendingLocked now right.txSeqNum type
          frame
        generalize left.takeSeqNum.trackPendingLocked now right.txSeqNum
          type frame = tracking at htrack ⊢
        generalize right.takeSeqNum.trackPendingLocked now right.txSeqNum
          type frame = tracking' at htrack ⊢
        cases htrack with
        | none => exact ⟨htaken, rfl, rfl⟩
        | some htracked =>
            obtain ⟨halike', hslot⟩ := htracked
            dsimp only
            rw [hslot]
            exact halike'.notify link _ frame _
      · exact htaken.notify link _ frame none
  · exact ⟨halike, rfl, rfl⟩

/-! ## ACKs and NACKs -/

theorem countPhantomAck (halike : Alike last last' left right) (now : ℕ) :
    Alike last last' (left.countPhantomAck now)
      (right.countPhantomAck now) := by
  refine halike.of_fields ⟨rfl, rfl⟩ halike.txSeqNum halike.expectedRxSeqNum
    ?_ rfl ⟨rfl, rfl⟩ ⟨rfl, rfl⟩
  unfold ProtocolHandler.countPhantomAck
  rw [halike.invalidAckCount, halike.lastSecurityEvent]

theorem validateAckSecurity (halike : Alike last last' left right)
    (locked : Bool) (now seqNum : ℕ) :
    Alike last last' (left.validateAckSecurity locked now seqNum).1
        (right.validateAckSecurity locked now seqNum).1 ∧
      (left.validateAckSecurity locked now seqNum).2 =
        (right.validateAckSecurity locked now seqNum).2 := by
  unfold ProtocolHandler.validateAckSecurity
  rw [halike.findSlot_awaits seqNum]
  split
  · exact ⟨halike, rfl⟩
  · exact ⟨halike.countPhantomAck now, rfl⟩

theorem accept (halike : Alike last last' left right) (i : SlotIndex) :
    Alike last last' (left.accept i) (right.accept i) := by
  have hreleased := halike.release i
  exact hreleased.of_fields ⟨rfl, rfl⟩ hreleased.txSeqNum
    hreleased.expectedRxSeqNum rfl hreleased.lastSecurityEvent ⟨rfl, rfl⟩
    ⟨rfl, rfl⟩

theorem lookupAck (halike : Alike last last' left right) (locked : Bool)
    (ackedSeq : ℕ) :
    Alike last last' (left.lookupAck locked ackedSeq).1
        (right.lookupAck locked ackedSeq).1 ∧
      (left.lookupAck locked ackedSeq).2 =
        (right.lookupAck locked ackedSeq).2 := by
  have hfind := halike.findSlot_awaits ackedSeq
  unfold ProtocolHandler.lookupAck
  cases locked with
  | false => exact ⟨halike, rfl⟩
  | true =>
      cases hfound : left.findSlot (PendingMessage.awaits ackedSeq) with
      | none =>
          rw [← hfind, hfound]
          exact ⟨halike, rfl⟩
      | some i =>
          have hactive : (left.slot i).active = true := by
            have hawaits := findSlot_some hfound
            exact (Bool.and_eq_true_iff.mp hawaits).1
          rw [← hfind, hfound]
          dsimp only [Bool.not_true, Bool.false_eq_true, if_false]
          rw [← halike.slots i hactive]
          by_cases htype : (left.slot i).msgType = .detectionEvent
          · rw [if_pos htype, if_pos htype]
            exact ⟨halike, rfl⟩
          · rw [if_neg htype, if_neg htype]
            exact ⟨halike.accept i, rfl⟩

theorem confirmAck (halike : Alike last last' left right) (locked : Bool)
    (i : SlotIndex) (ackedSeq : ℕ) :
    Alike last last' (left.confirmAck locked i ackedSeq)
      (right.confirmAck locked i ackedSeq) := by
  have hawaits : (left.slot i).awaits ackedSeq =
      (right.slot i).awaits ackedSeq := by
    unfold PendingMessage.awaits
    cases hactive : (left.slot i).active with
    | false => rw [← halike.active, hactive, Bool.false_and, Bool.false_and]
    | true => rw [← halike.slots i hactive, hactive]
  unfold ProtocolHandler.confirmAck
  rw [hawaits]
  split
  · exact halike.accept i
  · exact halike

theorem handleNack (halike : Alike last last' left right) (locked : Bool)
    (nackedSeq : ℕ) :
    Alike last last' (left.handleNack locked nackedSeq)
      (right.handleNack locked nackedSeq) := by
  unfold ProtocolHandler.handleNack ProtocolHandler.clearPending
  cases locked with
  | false => exact halike.countError
  | true => exact (halike.clearPendingLocked nackedSeq).countError

theorem noteConfigSeq (halike : Alike last last' left right) (seqNum : ℕ) :
    Alike (some seqNum) (some seqNum) (left.noteConfigSeq seqNum)
      (right.noteConfigSeq seqNum) :=
  ⟨halike.initialized, halike.initialized', halike.txSeqNum,
    halike.expectedRxSeqNum, halike.invalidAckCount, halike.lastSecurityEvent,
    halike.active, halike.slots, rfl, rfl⟩

/-! ## Retries -/

theorem retrySlot (halike : Alike last last' left right)
    (timing : TimingConfig) (locked : Bool) (now : ℕ) (i : SlotIndex) :
    Alike last last' (left.retrySlot timing locked now i).1
        (right.retrySlot timing locked now i).1 ∧
      (left.retrySlot timing locked now i).2 =
        (right.retrySlot timing locked now i).2 := by
  unfold ProtocolHandler.retrySlot
  dsimp only
  by_cases hactive : (left.slot i).active = true
  · rw [← halike.slots i hactive]
    let message : PendingMessage := { left.slot i with
      retryCount := u8 ((left.slot i).retryCount + 1)
      sentTime := now }
    have hset : Alike last last' (left.setSlot i message)
        (right.setSlot i message) :=
      halike.setSlot i rfl fun _ => rfl
    split_ifs
    · exact ⟨halike, rfl⟩
    · exact ⟨hset.of_fields ⟨rfl, rfl⟩ hset.txSeqNum hset.expectedRxSeqNum
        hset.invalidAckCount hset.lastSecurityEvent ⟨rfl, rfl⟩ ⟨rfl, rfl⟩,
        rfl⟩
    · exact ⟨(halike.release i).countError, rfl⟩
    · exact ⟨halike, rfl⟩
  · have hinactive : (left.slot i).active = false := by
      simpa using hactive
    have hinactive' : (right.slot i).active = false := by
      rw [← halike.active, hinactive]
    simp only [hinactive, hinactive', Bool.not_false, Bool.or_true, if_true]
    exact ⟨halike, trivial⟩

theorem retryEach (halike : Alike last last' left right)
    (timing : TimingConfig) (env : RetryEnv) (slots : List SlotIndex) :
    Alike last last' (left.retryEach timing env slots).1
        (right.retryEach timing env slots).1 ∧
      (left.retryEach timing env slots).2 =
        (right.retryEach timing env slots).2 := by
  induction slots generalizing left right with
  | nil => exact ⟨halike, rfl⟩
  | cons i rest ih =>
      obtain ⟨hnext, hframe⟩ := halike.retrySlot timing (env.locked i)
        env.now i
      obtain ⟨hlast, hframes⟩ := ih hnext
      refine ⟨hlast, ?_⟩
      simp only [ProtocolHandler.retryEach, hframe, hframes]

theorem processRetries (halike : Alike last last' left right)
    (timing : TimingConfig) (env : RetryEnv) :
    Alike last last' (left.processRetries timing env).1
        (right.processRetries timing env).1 ∧
      (left.processRetries timing env).2 =
        (right.processRetries timing env).2 := by
  unfold ProtocolHandler.processRetries
  rw [halike.initialized, halike.initialized']
  split
  · exact halike.retryEach timing env _
  · exact ⟨halike, rfl⟩

/-- A reset handler is like a new one, but for the number of the last
SET_CONFIG. -/
theorem of_reset {previous : ProtocolHandler}
    (hinitialized : previous.initialized = true) :
    Alike previous.configNumber none (previous.resetForNewConnection true)
      .construct := by
  have hinactive : ∀ i,
      ((previous.resetForNewConnection true).slot i).active = false := by
    intro i
    simp [resetForNewConnection, clearAllPending, restartNumbering, slot]
  have hempty : ∀ i, (construct.slot i).active = false := by
    intro i
    simp [construct, slot, PendingMessage.empty]
  refine ⟨hinitialized, rfl, rfl, rfl, rfl, rfl, ?_, ?_, rfl, rfl⟩
  · intro i
    rw [hinactive, hempty]
  · intro i hactive
    rw [hinactive] at hactive
    cases hactive

end Alike

end SensorFirmware
