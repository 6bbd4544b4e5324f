import SensorFirmware.SessionSteps
import SensorFirmware.SyncedDelivered

/-!
# Pending messages have different numbers

A reconnection restarts the numbering whether or not the slots were given up
before.  When none is left at that moment, and no slot stays for 65536 numbers,
the slots have different numbers, so that a failed send, an ACK or a NACK gives
up the slot of its own message only.
-/

namespace SensorFirmware

namespace ProtocolHandler

def DistinctNumbers (handler : ProtocolHandler) : Prop :=
  ∀ i j, (handler.slot i).active = true → (handler.slot j).active = true →
    (handler.slot i).seqNum = (handler.slot j).seqNum → i = j

/-! ## What a failed send gives up -/

variable {handler : ProtocolHandler}

theorem freed_notify {link : BleLink} {seqNum : ℕ} {frame : List Byte}
    {tracked : Option SlotIndex} {i : SlotIndex}
    (hold : (handler.slot i).active = true)
    (hnew : ((handler.notify link seqNum frame tracked).handler.slot
      i).active = false) :
    (handler.slot i).seqNum = seqNum := by
  unfold notify at hnew
  split at hnew
  next => exact absurd (hnew.symm.trans hold) Bool.false_ne_true
  next =>
    exact (Frees.clearPendingLocked handler seqNum).freed i hold hnew

theorem active_of_trackPendingLocked {now seqNum : ℕ} {type : MessageType}
    {data : List Byte} {tracking : ProtocolHandler × SlotIndex}
    (htrack : handler.trackPendingLocked now seqNum type data =
      some tracking) {i : SlotIndex}
    (hold : (handler.slot i).active = true) :
    tracking.1.slot i = handler.slot i := by
  obtain ⟨j, hfree, rfl⟩ := Option.map_eq_some_iff.mp htrack
  have hinactive := findSlot_some hfree
  rw [slot_setSlot, if_neg]
  intro heq
  rw [heq, hold] at hinactive
  cases hinactive

theorem issued_sendMessage {connected : Bool} {link : BleLink}
    {locked : Bool} {now : ℕ} {type : MessageType} {payload : List Byte}
    {requireAck : Bool} :
    (handler.sendMessage connected link locked now type payload
      requireAck).issued = (handler.initialized && connected && locked) := by
  unfold sendMessage
  split
  next hready =>
    rw [hready]
    dsimp only
    split
    next => rfl
    next =>
      split
      next =>
        split
        next => rfl
        next => exact issued_notify _ _ _ _ _
      next => exact issued_notify _ _ _ _ _
  next hready =>
    rw [Bool.not_eq_true] at hready
    rw [hready]
    rfl

/-- A send gives up an older slot only for having the number it takes. -/
theorem freed_sendMessage {connected : Bool} {link : BleLink}
    {locked : Bool} {now : ℕ} {type : MessageType} {payload : List Byte}
    {requireAck : Bool} {i : SlotIndex}
    (hold : (handler.slot i).active = true)
    (hnew : ((handler.sendMessage connected link locked now type payload
      requireAck).handler.slot i).active = false) :
    (handler.slot i).seqNum = handler.txSeqNum ∧
      (handler.sendMessage connected link locked now type payload
        requireAck).issued = true := by
  rw [issued_sendMessage]
  unfold sendMessage at hnew
  split at hnew
  next hready =>
    refine ⟨?_, hready⟩
    have hnumbered : (handler.takeSeqNum.slot i).active = true := hold
    dsimp only at hnew
    split at hnew
    next => exact absurd (hnew.symm.trans hold) Bool.false_ne_true
    next frame hbuild =>
      split at hnew
      next =>
        split at hnew
        next => exact absurd (hnew.symm.trans hold) Bool.false_ne_true
        next tracking j htrack =>
          have hkept := active_of_trackPendingLocked htrack hnumbered
          dsimp only at hkept
          rw [← hkept] at hnumbered
          have hnumber := freed_notify hnumbered hnew
          rw [hkept] at hnumber
          exact hnumber
      next =>
        have hnumber := freed_notify hnumbered hnew
        exact hnumber
  next => exact absurd (hnew.symm.trans hold) Bool.false_ne_true

theorem initialized_countDetection_renewWindow {now : ℕ} :
    (handler.renewWindow now).countDetection.initialized =
      handler.initialized := by
  unfold renewWindow
  split <;> rfl

theorem freed_sendDetectionEvent {connected : Bool} {link : BleLink}
    {locked : Bool} {now : ℕ} {event : DetectionEvent}
    {bypassGovernor : Bool} {i : SlotIndex}
    (hold : (handler.slot i).active = true)
    (hnew : ((handler.sendDetectionEvent connected link locked now event
      bypassGovernor).handler.slot i).active = false) :
    (handler.slot i).seqNum = handler.txSeqNum ∧
      (handler.sendDetectionEvent connected link locked now event
        bypassGovernor).issued = true := by
  have hsame : (handler.renewWindow now).slot i = handler.slot i ∧
      (handler.renewWindow now).txSeqNum = handler.txSeqNum := by
    unfold renewWindow
    split <;> exact ⟨rfl, rfl⟩
  unfold sendDetectionEvent at hnew ⊢
  split at hnew
  next hbypass =>
    rw [if_pos hbypass]
    exact freed_sendMessage hold hnew
  next hbypass =>
    rw [if_neg hbypass]
    dsimp only at hnew ⊢
    split at hnew
    next =>
      have hrefused : ((handler.renewWindow now).slot i).active = false :=
        hnew
      rw [hsame.1, hold] at hrefused
      cases hrefused
    next hroom =>
      rw [if_neg hroom]
      have hcounted : ((handler.renewWindow now).countDetection.slot
          i).active = true := by
        rw [← hsame.1] at hold
        exact hold
      have hfreed := freed_sendMessage hcounted hnew
      rw [← hsame.1, ← hsame.2]
      exact hfreed

end ProtocolHandler

namespace Delivery

variable {cfg : HistoryConfig}

theorem World.SendOf.freed {world : World cfg} {input : Step}
    {type : MessageType} {outcome : SendOutcome}
    (hsend : world.SendOf input type outcome) {i : SlotIndex}
    (hold : (world.handler.slot i).active = true)
    (hnew : (outcome.handler.slot i).active = false) :
    (world.handler.slot i).seqNum = world.handler.txSeqNum ∧
      outcome.issued = true := by
  cases hsend with
  | pump htask => exact ProtocolHandler.freed_sendDetectionEvent hold hnew
  | sync htask => exact ProtocolHandler.freed_sendDetectionEvent hold hnew
  | other htype => exact ProtocolHandler.freed_sendMessage hold hnew
  | reply htask => exact ProtocolHandler.freed_sendMessage hold hnew

/-! ## Numbers and places -/

/-- The slot holds a frame of this session whose number has not come round. -/
structure Placed (wire : Wire) (i : SlotIndex) : Prop where
  ordinal_lt : (wire.origin i).ordinal < wire.issued
  recent : wire.issued ≤ (wire.origin i).ordinal + 2 ^ 16
  seqNum : (wire.handler.slot i).seqNum = u16 (wire.origin i).ordinal

structure NumberInvariant (wire : Wire) : Prop where
  txSeqNum : wire.handler.txSeqNum = u16 wire.issued
  placed : ∀ i, (wire.handler.slot i).active = true → Placed wire i
  distinct : ∀ i j, (wire.handler.slot i).active = true →
    (wire.handler.slot j).active = true →
    (wire.origin i).ordinal = (wire.origin j).ordinal → i = j

namespace NumberInvariant

variable {wire : Wire}

theorem distinctNumbers (hinv : NumberInvariant wire) :
    wire.handler.DistinctNumbers := by
  intro i j hi hj hsame
  have hiPlaced := hinv.placed i hi
  have hjPlaced := hinv.placed j hj
  rw [hiPlaced.seqNum, hjPlaced.seqNum] at hsame
  unfold u16 at hsame
  have hiLt := hiPlaced.ordinal_lt
  have hjLt := hjPlaced.ordinal_lt
  have hiRecent := hiPlaced.recent
  have hjRecent := hjPlaced.recent
  apply hinv.distinct i j hi hj
  omega

/-- The number that comes next is that of no slot which may see it taken. -/
theorem ne_txSeqNum (hinv : NumberInvariant wire) {i : SlotIndex}
    (hactive : (wire.handler.slot i).active = true)
    (hroom : wire.issued < (wire.origin i).ordinal + 2 ^ 16) :
    (wire.handler.slot i).seqNum ≠ wire.handler.txSeqNum := by
  have hplaced := hinv.placed i hactive
  have hlt := hplaced.ordinal_lt
  rw [hplaced.seqNum, hinv.txSeqNum]
  unfold u16
  omega

theorem of_same {after : Wire} (hinv : NumberInvariant wire)
    (hsame : SameNumbering wire after) : NumberInvariant after := by
  have horigin (i : SlotIndex) : after.origin i = wire.origin i := by
    unfold Wire.origin
    rw [hsame.origins]
  constructor
  · rw [hsame.handler, hsame.issued]
    exact hinv.txSeqNum
  · intro i hactive
    rw [hsame.handler] at hactive
    have hplaced := hinv.placed i hactive
    constructor
    · rw [horigin, hsame.issued]
      exact hplaced.ordinal_lt
    · rw [horigin, hsame.issued]
      exact hplaced.recent
    · rw [horigin, hsame.handler]
      exact hplaced.seqNum
  · intro i j
    rw [hsame.handler, horigin, horigin]
    exact hinv.distinct i j

theorem shrinks (hinv : NumberInvariant wire) {handler : ProtocolHandler}
    (hshrinks : ProtocolHandler.Shrinks wire.handler handler) :
    NumberInvariant { wire with handler := handler } := by
  constructor
  · exact hshrinks.txSeqNum.trans hinv.txSeqNum
  · intro i hactive
    have hsame := hshrinks.slots i hactive
    have hplaced := hinv.placed i hsame.active
    exact ⟨hplaced.ordinal_lt, hplaced.recent,
      hsame.seqNum.trans hplaced.seqNum⟩
  · intro i j hi hj
    exact hinv.distinct i j (hshrinks.slots i hi).active
      (hshrinks.slots j hj).active

/-- A send fills at most one slot, and this with the next number. -/
theorem afterSend (hinv : NumberInvariant wire) {type : MessageType}
    {outcome : SendOutcome}
    (hsends : ProtocolHandler.Sends wire.handler type outcome)
    (hroom : outcome.issued = true → ∀ i,
      (wire.handler.slot i).active = true →
        wire.issued < (wire.origin i).ordinal + 2 ^ 16) :
    NumberInvariant (wire.afterSend outcome) := by
  have hissued := wire.issued_afterSend fun frame hframe =>
    (hsends.frame frame hframe).1
  -- A slot is an older one, or it holds the frame that was just numbered.
  have hcases : ∀ i, (outcome.handler.slot i).active = true →
      ((wire.afterSend outcome).origin i = wire.origin i ∧
        ProtocolHandler.SameMessage (wire.handler.slot i)
          (outcome.handler.slot i)) ∨
      (outcome.tracked = some i ∧ outcome.issued = true ∧
        ((wire.afterSend outcome).origin i).ordinal = wire.issued ∧
        (outcome.handler.slot i).seqNum = wire.handler.txSeqNum) := by
    intro i hactive
    rcases hsends.slots i hactive with
      ⟨hother, hsame⟩ | ⟨htracked, hframe, hseq, _⟩
    · exact .inl ⟨wire.origin_afterSend_of_ne hother, hsame⟩
    · right
      rw [wire.origin_afterSend_of_tracked hframe htracked]
      exact ⟨htracked, (hsends.frame _ hframe).1, rfl, hseq⟩
  constructor
  · rw [Wire.handler_afterSend, hsends.txSeqNum, hissued, hinv.txSeqNum]
    split
    · exact u16_succ _
    · rfl
  · intro i hactive
    rw [Wire.handler_afterSend] at hactive
    rcases hcases i hactive with
      ⟨horigin, hsame⟩ | ⟨_, hnumbered, hordinal, hseq⟩
    · have hplaced := hinv.placed i hsame.active
      have hlt := hplaced.ordinal_lt
      have hrecent := hplaced.recent
      constructor
      · rw [horigin, hissued]
        split <;> omega
      · rw [horigin, hissued]
        split
        next hnumbered =>
          have hnext := hroom hnumbered i hsame.active
          omega
        next => exact hrecent
      · rw [horigin, Wire.handler_afterSend, hsame.seqNum, hplaced.seqNum]
    · constructor
      · rw [hordinal, hissued, if_pos hnumbered]
        exact Nat.lt_succ_self _
      · rw [hordinal, hissued, if_pos hnumbered]
        omega
      · rw [hordinal, Wire.handler_afterSend, hseq, hinv.txSeqNum]
  · intro i j hi hj hsame
    rw [Wire.handler_afterSend] at hi hj
    rcases hcases i hi with ⟨hiOrigin, hiOld⟩ | ⟨hiNew, _, hiOrdinal, _⟩
    · have hiLt := (hinv.placed i hiOld.active).ordinal_lt
      rcases hcases j hj with ⟨hjOrigin, hjOld⟩ | ⟨_, _, hjOrdinal, _⟩
      · rw [hiOrigin, hjOrigin] at hsame
        exact hinv.distinct i j hiOld.active hjOld.active hsame
      · rw [hiOrigin, hjOrdinal] at hsame
        omega
    · rcases hcases j hj with ⟨hjOrigin, hjOld⟩ | ⟨hjNew, _⟩
      · have hjLt := (hinv.placed j hjOld.active).ordinal_lt
        rw [hiOrdinal, hjOrigin] at hsame
        omega
      · rw [hiNew] at hjNew
        exact Option.some.inj hjNew

theorem of_inactive (htx : wire.handler.txSeqNum = u16 wire.issued)
    (hnone : ∀ i, (wire.handler.slot i).active = false) :
    NumberInvariant wire := by
  constructor
  · exact htx
  · intro i hactive
    rw [hnone i] at hactive
    cases hactive
  · intro i j hi
    rw [hnone i] at hi
    cases hi

theorem restart (hempty : ∀ i, (wire.handler.slot i).active = false) :
    NumberInvariant { wire with
      handler := wire.handler.restartNumbering
      session := wire.session + 1
      issued := 0 } := by
  have hnone (i : SlotIndex) :
      (wire.handler.restartNumbering.slot i).active = false := hempty i
  exact of_inactive rfl hnone

end NumberInvariant

/-! ## The condition on a run -/

/-- The step is a send that gets past the mutex, and so takes a number. -/
def World.TakesNumber (world : World cfg) (input : Step) : Prop :=
  match input, world.bleTask, world.loopTask with
  | .sendOther connected locked _ type _, _, _ =>
      type ≠ .detectionEvent ∧
        (world.handler.initialized && connected && locked) = true
  | .pumpSend connected locked now, _, .pumping _ =>
      (world.handler.renewWindow now).detectionEventCount <
          Protocol.maxDetectionsPerWindow ∧
        (world.handler.initialized && connected && locked) = true
  | .syncSend connected locked _, .syncSending _ _ _, _ =>
      (world.handler.initialized && connected && locked) = true
  | .syncReply connected locked _, .syncReplying _, _ =>
      (world.handler.initialized && connected && locked) = true
  | _, _, _ => False

/-- No active slot sees a 65536th number taken after its own. -/
def World.NoneOutlived (world : World cfg) (input : Step) : Prop :=
  world.TakesNumber input →
    ∀ i, (world.handler.slot i).active = true →
      world.issued < (world.origin i).ordinal + 2 ^ 16

/-- The numbering restarts with no slot active. -/
def World.RestartsEmpty (world : World cfg) (input : Step) : Prop :=
  match input, world.bleTask with
  | .restartNumbering _, .connectRestarting =>
      ∀ i, (world.handler.slot i).active = false
  | _, _ => True

namespace World

variable {world : World cfg}

theorem SendOf.takesNumber {input : Step} {type : MessageType}
    {outcome : SendOutcome} (hsend : world.SendOf input type outcome)
    (hissued : outcome.issued = true) : world.TakesNumber input := by
  cases hsend with
  | pump htask =>
      unfold ProtocolHandler.sendDetectionEvent at hissued
      rw [if_neg Bool.false_ne_true] at hissued
      dsimp only at hissued
      split at hissued
      next => cases hissued
      next hroom =>
        rw [ProtocolHandler.issued_sendMessage] at hissued
        unfold TakesNumber
        rw [htask]
        refine ⟨Nat.lt_of_not_le hroom, ?_⟩
        rw [ProtocolHandler.initialized_countDetection_renewWindow] at hissued
        exact hissued
  | sync htask =>
      unfold ProtocolHandler.sendDetectionEvent at hissued
      rw [if_pos rfl, ProtocolHandler.issued_sendMessage] at hissued
      unfold TakesNumber
      rw [htask]
      exact hissued
  | other htype =>
      rw [ProtocolHandler.issued_sendMessage] at hissued
      exact ⟨htype, hissued⟩
  | reply htask =>
      unfold ProtocolHandler.sendAck at hissued
      rw [ProtocolHandler.issued_sendMessage] at hissued
      unfold TakesNumber
      rw [htask]
      exact hissued

/-- What holds between the steps of a run. -/
structure Numbered (world : World cfg) : Prop where
  inRange : world.InRange
  numbers : NumberInvariant world.toWire

theorem Numbered.start (cfg : HistoryConfig) :
    (World.start cfg).Numbered := by
  have hnone (i : SlotIndex) :
      ((World.start cfg).handler.slot i).active = false := by
    simp [World.start, ProtocolHandler.construct, ProtocolHandler.slot,
      PendingMessage.empty]
  exact ⟨inRange_start cfg, .of_inactive rfl hnone⟩

theorem Numbered.txSeqNum_lt (hinv : world.Numbered) :
    world.handler.txSeqNum < 2 ^ 16 := by
  rw [hinv.numbers.txSeqNum]
  exact u16_lt _

theorem Numbered.step (hinv : world.Numbered) (timing : TimingConfig)
    (input : Step) (hlife : world.NoneOutlived input)
    (hempty : world.RestartsEmpty input) :
    ∃ after, world.step timing input = some after ∧ after.Numbered := by
  obtain ⟨after, hstep, hrange, hmoves⟩ :=
    progress_step timing hinv.inRange input
  refine ⟨after, hstep, hrange, ?_⟩
  cases hmoves with
  | frees handler hfrees hsame =>
      exact (hinv.numbers.shrinks hfrees.shrinks).of_same hsame
  | retries locked now i hinput hsame =>
      have hshrinks := ProtocolHandler.Shrinks.retrySlot timing
        world.handler locked now i
      exact (hinv.numbers.shrinks hshrinks).of_same hsame
  | sends type outcome hsend hsame =>
      have hsent := hinv.numbers.afterSend (hsend.sends hinv.txSeqNum_lt)
        fun hissued => hlife (hsend.takesNumber hissued)
      exact hsent.of_same hsame
  | restarts now hinput htask hsame =>
      unfold RestartsEmpty at hempty
      rw [hinput, htask] at hempty
      exact (NumberInvariant.restart hempty).of_same hsame

/-- A step gives up the slot of its own message only. -/
theorem Numbered.ownSlot (hinv : world.Numbered) {timing : TimingConfig}
    {input : Step} {after : World cfg} (hlife : world.NoneOutlived input)
    (hstep : world.step timing input = some after) {i : SlotIndex}
    (hold : (world.handler.slot i).active = true)
    (hnew : (after.handler.slot i).active = false) :
    world.OwnSlot input i := by
  obtain ⟨reached, hreached, _, hmoves⟩ :=
    progress_step timing hinv.inRange input
  rw [hstep] at hreached
  cases hreached
  cases hmoves with
  | frees handler hfrees hsame =>
      rw [hsame.handler] at hnew
      exact hfrees.freed i hold hnew
  | retries locked now j hinput hsame =>
      subst hinput
      by_contra hother
      have hne : j ≠ i := fun heq => hother heq.symm
      rw [hsame.handler] at hnew
      have hkept : (world.handler.retrySlot timing locked now j).1.slot i =
          world.handler.slot i :=
        ProtocolHandler.slot_retrySlot_of_ne hne
      exact absurd (hnew.symm.trans (hkept ▸ hold)) Bool.false_ne_true
  | sends type outcome hsend hsame =>
      rw [hsame.handler, Wire.handler_afterSend] at hnew
      obtain ⟨hnumber, hissued⟩ := hsend.freed hold hnew
      have hroom := hlife (hsend.takesNumber hissued) i hold
      exact absurd hnumber (hinv.numbers.ne_txSeqNum hold hroom)
  | restarts now hinput htask hsame =>
      rw [hsame.handler] at hnew
      exact absurd (hnew.symm.trans hold) Bool.false_ne_true

end World

/-! ## Runs -/

/-- While the numbering restarts with no slot active, and no slot sees 65536
numbers taken, the slots have different numbers, and every further step gives
up the slot of its own message only. -/
theorem pending_numbers_distinct (timing : TimingConfig)
    (inputs : List Step)
    (hrun : GuardedRun.GuardedAttempt (World.step timing)
      (fun world input => world.NoneOutlived input ∧ world.RestartsEmpty input)
      (World.start cfg) inputs) :
    ∃ final, (World.start cfg).run timing inputs = some final ∧
      final.handler.DistinctNumbers ∧
      ∀ input after, final.NoneOutlived input →
        final.step timing input = some after →
        ∀ i, (final.handler.slot i).active = true →
          (after.handler.slot i).active = false → final.OwnSlot input i := by
  have hstep : ∀ (world : World cfg) input, world.Numbered →
      world.NoneOutlived input ∧ world.RestartsEmpty input →
        ∃ after, world.step timing input = some after ∧ after.Numbered := by
    intro world input hinv hguard
    exact hinv.step timing input hguard.1 hguard.2
  obtain ⟨final, hsome, hfinal⟩ := GuardedRun.invariant_attempt hstep
    (World.Numbered.start cfg) hrun
  refine ⟨final, hsome, hfinal.numbers.distinctNumbers, ?_⟩
  intro input after hlife hnext i hold hnew
  exact hfinal.ownSlot hlife hnext hold hnew

/-! ### Concrete runs -/

instance (handler : ProtocolHandler) : Decidable handler.DistinctNumbers :=
  inferInstanceAs (Decidable (∀ _ _, _))

def World.takesNumber (world : World cfg) (input : Step) : Bool :=
  match input, world.bleTask, world.loopTask with
  | .sendOther connected locked _ type _, _, _ =>
      type != .detectionEvent && world.handler.initialized && connected &&
        locked
  | .pumpSend connected locked now, _, .pumping _ =>
      decide ((world.handler.renewWindow now).detectionEventCount <
        Protocol.maxDetectionsPerWindow) && world.handler.initialized &&
          connected && locked
  | .syncSend connected locked _, .syncSending _ _ _, _ =>
      world.handler.initialized && connected && locked
  | .syncReply connected locked _, .syncReplying _, _ =>
      world.handler.initialized && connected && locked
  | _, _, _ => false

theorem World.takesNumber_iff (world : World cfg) (input : Step) :
    world.takesNumber input = true ↔ world.TakesNumber input := by
  unfold World.takesNumber World.TakesNumber
  split <;> simp [and_assoc]

instance (world : World cfg) (input : Step) :
    Decidable (world.TakesNumber input) :=
  decidable_of_iff _ (world.takesNumber_iff input)

instance (world : World cfg) (input : Step) :
    Decidable (world.NoneOutlived input) :=
  inferInstanceAs (Decidable (_ → _))

def World.restarts (world : World cfg) (input : Step) : Bool :=
  match input, world.bleTask with
  | .restartNumbering _, .connectRestarting => true
  | _, _ => false

theorem World.restartsEmpty_iff (world : World cfg) (input : Step) :
    (world.restarts input = true →
        ∀ i, (world.handler.slot i).active = false) ↔
      world.RestartsEmpty input := by
  unfold World.restarts World.RestartsEmpty
  split <;> simp

instance (world : World cfg) (input : Step) :
    Decidable (world.RestartsEmpty input) :=
  decidable_of_iff _ (world.restartsEmpty_iff input)

/-- The mutex is busy when the pending messages should be given up, both at the
disconnection and at the connection after it. -/
def staleSlotRun : List Step :=
  [.logDetection true 0 0] ++ connection 100 ++ pump 200 ++
    [.disconnect, .clearPending false, .finishDisconnect 300, .connect,
      .clearPending false, .restartNumbering 400, .subscribe true] ++
    pump 500

theorem delivered_numbers_distinct :
    ∃ final, (World.start .fourSlots).run benchTiming deliveredRun =
        some final ∧
      final.handler.DistinctNumbers ∧
      ∀ input after, final.NoneOutlived input →
        final.step benchTiming input = some after →
        ∀ i, (final.handler.slot i).active = true →
          (after.handler.slot i).active = false → final.OwnSlot input i :=
  pending_numbers_distinct benchTiming deliveredRun (by decide +kernel)

/-- Both slots wait for the number zero, and far fewer than 65536 numbers were
taken. -/
theorem stale_slot_shares_number :
    GuardedRun.GuardedAttempt (World.step benchTiming) World.NoneOutlived
        (World.start .fourSlots) staleSlotRun ∧
      ∃ final ∈ (World.start .fourSlots).run benchTiming staleSlotRun,
        ¬final.handler.DistinctNumbers := by
  decide +kernel

end Delivery

end SensorFirmware
