import SensorFirmware.DeliverySession

/-!
# Synced implies delivered

An ACK names a frame only by its 16-bit number, and the event it confirms is
read from the slot that waits for this number.  Numbers are reused in the next
session and after 65536 sends, so the conclusion needs that neither the ACK nor
the slot is older than that.
-/

namespace SensorFirmware

open CyclicBuffer

namespace Delivery

variable {cfg : HistoryConfig}

/-! ## Numbers of frames -/

/-- Frames with numbers of the given session or of earlier ones. -/
structure Numbered (session issued : ℕ) (frames : List SentFrame) :
    Prop where
  session_le : ∀ frame ∈ frames, frame.session ≤ session
  ordinal_lt : ∀ frame ∈ frames,
    frame.session = session → frame.ordinal < issued
  number : ∀ frame ∈ frames,
    frameSeqNum frame.bytes = some (u16 frame.ordinal)
  unique : ∀ left ∈ frames, ∀ right ∈ frames,
    left.session = right.session → left.ordinal = right.ordinal →
      left = right

namespace Numbered

variable {session issued : ℕ} {frames : List SentFrame}

theorem nil : Numbered session issued [] := by
  constructor <;> simp

theorem skip (hframes : Numbered session issued frames) :
    Numbered session (issued + 1) frames := by
  constructor
  · exact hframes.session_le
  · intro frame hmem hcurrent
    have hlt := hframes.ordinal_lt frame hmem hcurrent
    omega
  · exact hframes.number
  · exact hframes.unique

theorem cons (hframes : Numbered session issued frames)
    {bytes : List Byte} (hnumber : frameSeqNum bytes = some (u16 issued)) :
    Numbered session (issued + 1) (⟨session, issued, bytes⟩ :: frames) := by
  have hfresh : ∀ frame ∈ frames, frame.session = session →
      frame.ordinal ≠ issued := by
    intro frame hmem hcurrent
    have hlt := hframes.ordinal_lt frame hmem hcurrent
    omega
  constructor
  · simpa using hframes.session_le
  · intro frame hmem hcurrent
    rcases List.mem_cons.mp hmem with rfl | hold
    · exact Nat.lt_succ_self _
    · have hlt := hframes.ordinal_lt frame hold hcurrent
      omega
  · intro frame hmem
    rcases List.mem_cons.mp hmem with rfl | hold
    · exact hnumber
    · exact hframes.number frame hold
  · intro left hleft right hright hsession hordinal
    rcases List.mem_cons.mp hleft with rfl | hleft <;>
      rcases List.mem_cons.mp hright with rfl | hright
    · rfl
    · exact absurd hordinal.symm (hfresh right hright hsession.symm)
    · exact absurd hordinal (hfresh left hleft hsession)
    · exact hframes.unique left hleft right hright hsession hordinal

theorem restart (hframes : Numbered session issued frames) :
    Numbered (session + 1) 0 frames := by
  constructor
  · intro frame hmem
    have hle := hframes.session_le frame hmem
    omega
  · intro frame hmem hcurrent
    have hle := hframes.session_le frame hmem
    omega
  · exact hframes.number
  · exact hframes.unique

/-- Two frames of this session that share a number, with at most 65536
numbers taken since, are one frame. -/
theorem eq_of_seqNum (hframes : Numbered session issued frames)
    {left right : SentFrame} (hleft : left ∈ frames)
    (hright : right ∈ frames) (hleftSession : left.session = session)
    (hrightSession : right.session = session)
    (hleftRecent : issued ≤ left.ordinal + 2 ^ 16)
    (hrightRecent : issued ≤ right.ordinal + 2 ^ 16)
    (hsame : frameSeqNum left.bytes = frameSeqNum right.bytes) :
    left = right := by
  rw [hframes.number left hleft, hframes.number right hright] at hsame
  have hmod : left.ordinal % 2 ^ 16 = right.ordinal % 2 ^ 16 :=
    Option.some.inj hsame
  have hleftLt := hframes.ordinal_lt left hleft hleftSession
  have hrightLt := hframes.ordinal_lt right hright hrightSession
  have hordinal : left.ordinal = right.ordinal := by omega
  exact hframes.unique left hleft right hright
    (hleftSession.trans hrightSession.symm) hordinal

end Numbered

/-! ## The property and its condition -/

/-- Every synced event was confirmed by an ACK, and whatever an ACK has
confirmed had reached the app when the app emitted it. -/
structure SyncedDelivered (service : HistoryService cfg)
    (confirmed : List (ℕ × AckMessage)) : Prop where
  acknowledged : ∀ event ∈ service.state.ringWindow,
    event.isSynced = true → ∃ ack, (event.id, ack) ∈ confirmed
  delivered : ∀ eventId ack, (eventId, ack) ∈ confirmed →
    ack.Delivered eventId

/-- The number of the frame was taken in this session, and has not come round
since. -/
def Wire.Current (wire : Wire) (frame : SentFrame) : Prop :=
  frame.session = wire.session ∧ wire.issued ≤ frame.ordinal + 2 ^ 16

/-- When an ACK finds a pending detection, neither is outdated. -/
def World.AckCurrent (world : World cfg) (input : Step) : Prop :=
  match input, world.bleTask with
  | .ackLookup true, .ackValidated ack =>
      ∀ i, world.handler.findSlot (PendingMessage.awaits ack.seqNum) =
          some i →
        (world.handler.slot i).msgType = .detectionEvent →
          world.Current ack.frame ∧ world.Current (world.origin i)
  | _, _ => True

/-! ## Invariants -/

/-- The app has received the frame it answers, and the device has numbered
it. -/
structure AckMessage.Emitted (ack : AckMessage)
    (numbered : List SentFrame) : Prop where
  received : ack.frame ∈ ack.received
  numbered : ack.frame ∈ numbered

/-- The slot waits for the frame it was last filled with. -/
structure Waits (message : PendingMessage) (origin : SentFrame)
    (numbered : List SentFrame) : Prop where
  numbered : origin ∈ numbered
  data : message.data = origin.bytes
  seqNum : frameSeqNum message.data = some message.seqNum
  msgType : frameType message.data = some message.msgType.code

theorem Waits.same {old new : PendingMessage} {origin : SentFrame}
    {numbered : List SentFrame} (hwaits : Waits old origin numbered)
    (hsame : ProtocolHandler.SameMessage old new) :
    Waits new origin numbered := by
  refine ⟨hwaits.numbered, ?_, ?_, ?_⟩
  · rw [hsame.data, hwaits.data]
  · rw [hsame.data, hsame.seqNum, hwaits.seqNum]
  · rw [hsame.data, hsame.msgType, hwaits.msgType]

theorem Waits.mono {message : PendingMessage} {origin : SentFrame}
    {before after : List SentFrame} (hwaits : Waits message origin before)
    (hsub : before ⊆ after) : Waits message origin after :=
  ⟨hsub hwaits.numbered, hwaits.data, hwaits.seqNum, hwaits.msgType⟩

theorem AckMessage.Emitted.mono {ack : AckMessage}
    {before after : List SentFrame} (hemitted : ack.Emitted before)
    (hsub : before ⊆ after) : ack.Emitted after :=
  ⟨hemitted.received, hsub hemitted.numbered⟩

/-- What holds of the numbering and of the slots. -/
structure TableInvariant (wire : Wire) : Prop where
  txSeqNum : wire.handler.txSeqNum = u16 wire.issued
  frames : Numbered wire.session wire.issued wire.numbered
  slots : ∀ i, (wire.handler.slot i).active = true →
    Waits (wire.handler.slot i) (wire.origin i) wire.numbered

/-- What holds of the handler and of everything on air. -/
structure WireInvariant (wire : Wire) : Prop where
  txSeqNum : wire.handler.txSeqNum = u16 wire.issued
  frames : Numbered wire.session wire.issued wire.numbered
  slots : ∀ i, (wire.handler.slot i).active = true →
    Waits (wire.handler.slot i) (wire.origin i) wire.numbered
  resending : ∀ frame, wire.loopTask = .resending frame →
    frame ∈ wire.numbered
  sent : wire.sent ⊆ wire.numbered
  received : wire.received ⊆ wire.numbered
  acks : ∀ ack ∈ wire.acks, ack.Emitted wire.numbered

/-- What the BLE task may rely on between two parts of `handleAck`. -/
def BleTask.Sound (numbered : List SentFrame) : BleTask → Prop
  | .ackValidated ack => ack.Emitted numbered
  | .ackFound ack _ eventId => ack.Delivered eventId
  | _ => True

theorem BleTask.Sound.mono {task : BleTask} {before after : List SentFrame}
    (hsound : task.Sound before) (hsub : before ⊆ after) :
    task.Sound after := by
  cases task with
  | ackValidated ack => exact AckMessage.Emitted.mono hsound hsub
  | ackFound ack i eventId => exact hsound
  | _ => trivial

structure DeliveryInvariant (world : World cfg) : Prop where
  head_lt : world.service.state.head < cfg.bufferSize
  tail_lt : world.service.state.tail < cfg.bufferSize
  wire : WireInvariant world.toWire
  task : world.bleTask.Sound world.numbered
  property : SyncedDelivered world.service world.confirmed

/-! ## The handler and the air -/

theorem u16_succ (n : ℕ) : u16 (u16 n + 1) = u16 (n + 1) := by
  unfold u16
  omega

theorem Wire.numbered_afterSend (wire : Wire) (outcome : SendOutcome) :
    wire.numbered ⊆ (wire.afterSend outcome).numbered := by
  unfold Wire.afterSend
  split
  · exact List.Subset.refl _
  · exact List.subset_cons_self _ _

namespace TableInvariant

variable {wire : Wire}

theorem shrinks (htable : TableInvariant wire) {handler : ProtocolHandler}
    (hshrinks : ProtocolHandler.Shrinks wire.handler handler) :
    TableInvariant { wire with handler := handler } := by
  refine ⟨hshrinks.txSeqNum.trans htable.txSeqNum, htable.frames, ?_⟩
  intro i hactive
  have hsame := hshrinks.slots i hactive
  exact (htable.slots i hsame.active).same hsame

theorem seqNum_lt (htable : TableInvariant wire) :
    wire.handler.txSeqNum < 2 ^ 16 := by
  rw [htable.txSeqNum]
  exact u16_lt _

/-- A send numbers at most one frame, and fills at most one slot with it. -/
theorem afterSend (htable : TableInvariant wire) {type : MessageType}
    {outcome : SendOutcome}
    (hsends : ProtocolHandler.Sends wire.handler type outcome) :
    TableInvariant (wire.afterSend outcome) := by
  have htx := hsends.txSeqNum
  rw [htable.txSeqNum, u16_succ] at htx
  cases hframe : outcome.frame with
  | none =>
      have hslots : ∀ i, (outcome.handler.slot i).active = true →
          Waits (outcome.handler.slot i) (wire.origin i)
            wire.numbered := by
        intro i hactive
        rcases hsends.slots i hactive with ⟨_, hsame⟩ | ⟨_, hfilled, _⟩
        · exact (htable.slots i hsame.active).same hsame
        · rw [hframe] at hfilled
          cases hfilled
      unfold Wire.afterSend
      rw [hframe]
      refine ⟨?_, ?_, hslots⟩
      · rw [htx]
        cases outcome.issued <;> rfl
      · cases outcome.issued with
        | true => exact htable.frames.skip
        | false => exact htable.frames
  | some bytes =>
      obtain ⟨hissued, htype, hnumber⟩ := hsends.frame bytes hframe
      rw [htable.txSeqNum] at hnumber
      have hgrow : wire.numbered ⊆
          ⟨wire.session, wire.issued, bytes⟩ :: wire.numbered :=
        List.subset_cons_self _ _
      unfold Wire.afterSend
      rw [hframe]
      refine ⟨?_, htable.frames.cons hnumber, ?_⟩
      · rw [htx, if_pos hissued]
      · intro i hactive
        rcases hsends.slots i hactive with
          ⟨hother, hsame⟩ | ⟨htracked, hfilled, hseq, hmsg⟩
        · have hkept : Waits (outcome.handler.slot i) (wire.origin i)
              (⟨wire.session, wire.issued, bytes⟩ :: wire.numbered) :=
            ((htable.slots i hsame.active).same hsame).mono hgrow
          cases htracked : outcome.tracked with
          | none => exact hkept
          | some j =>
              have hne : j.val ≠ i.val := by
                intro heq
                rw [htracked, Fin.ext heq] at hother
                exact hother rfl
              simpa [Wire.origin, hne] using hkept
        · have hdata : (outcome.handler.slot i).data = bytes := by
            rw [hframe] at hfilled
            exact (Option.some.inj hfilled).symm
          simp only [htracked, Wire.origin, Fin.getElem_fin,
            Vector.getElem_set_self]
          refine ⟨List.mem_cons_self .., hdata, ?_, ?_⟩
          · rw [hdata, hnumber, hseq, htable.txSeqNum]
          · rw [hdata, htype, hmsg]

end TableInvariant

namespace WireInvariant

variable {wire : Wire}

theorem table (hwire : WireInvariant wire) : TableInvariant wire :=
  ⟨hwire.txSeqNum, hwire.frames, hwire.slots⟩

theorem shrinks (hwire : WireInvariant wire) {handler : ProtocolHandler}
    (hshrinks : ProtocolHandler.Shrinks wire.handler handler) :
    WireInvariant { wire with handler := handler } := by
  have htable := hwire.table.shrinks hshrinks
  exact ⟨htable.txSeqNum, htable.frames, htable.slots, hwire.resending,
    hwire.sent, hwire.received, hwire.acks⟩

theorem seqNum_lt (hwire : WireInvariant wire) :
    wire.handler.txSeqNum < 2 ^ 16 :=
  hwire.table.seqNum_lt

theorem afterSend (hwire : WireInvariant wire) {type : MessageType}
    {outcome : SendOutcome}
    (hsends : ProtocolHandler.Sends wire.handler type outcome) :
    WireInvariant (wire.afterSend outcome) := by
  have htable := hwire.table.afterSend hsends
  have hgrow := wire.numbered_afterSend outcome
  have hnew : ∀ bytes, outcome.frame = some bytes →
      ⟨wire.session, wire.issued, bytes⟩ ∈
        (wire.afterSend outcome).numbered := by
    intro bytes hframe
    unfold Wire.afterSend
    rw [hframe]
    exact List.mem_cons_self ..
  refine ⟨htable.txSeqNum, htable.frames, htable.slots, ?_, ?_, ?_, ?_⟩
  · intro frame hresending
    apply hgrow
    apply hwire.resending frame
    unfold Wire.afterSend at hresending
    split at hresending <;> exact hresending
  · intro frame hmem
    have hold : frame ∈ wire.sent ∨ ∃ bytes, outcome.frame = some bytes ∧
        frame = ⟨wire.session, wire.issued, bytes⟩ := by
      unfold Wire.afterSend at hmem
      split at hmem
      next => exact .inl hmem
      next bytes hframe =>
        dsimp only at hmem
        split at hmem
        · rcases List.mem_cons.mp hmem with hfirst | hrest
          · exact .inr ⟨bytes, hframe, hfirst⟩
          · exact .inl hrest
        · exact .inl hmem
    rcases hold with hsent | ⟨bytes, hframe, rfl⟩
    · exact hgrow (hwire.sent hsent)
    · exact hnew bytes hframe
  · intro frame hmem
    apply hgrow
    apply hwire.received
    unfold Wire.afterSend at hmem
    split at hmem <;> exact hmem
  · intro ack hmem
    refine (hwire.acks ack ?_).mono hgrow
    unfold Wire.afterSend at hmem
    split at hmem <;> exact hmem

end WireInvariant

/-! ## The ring and the marks -/

theorem freshEvent_not_synced (id bootCount : ℕ) (clock : ClockMicros)
    (durationMs : ℕ) (overflow : Bool) :
    (freshEvent id bootCount clock durationMs overflow).isSynced = false := by
  cases overflow <;> simp [freshEvent, DetectionEvent.isSynced]

namespace DeliveryInvariant

variable {world : World cfg}

theorem start (cfg : HistoryConfig) :
    DeliveryInvariant (World.start cfg) := by
  have hsafe : (RTCState.resetState cfg).Safe := RTCState.safe_resetState
  have hempty : ∀ i, ((World.start cfg).handler.slot i).active = false := by
    intro i
    simp [World.start, ProtocolHandler.construct, ProtocolHandler.slot,
      PendingMessage.empty]
  refine ⟨hsafe.head_lt, hsafe.tail_lt, ?_, trivial, ?_⟩
  · refine ⟨rfl, .nil, ?_, ?_, List.Subset.refl _,
      List.Subset.refl _, ?_⟩
    · intro i hactive
      rw [hempty i] at hactive
      cases hactive
    · intro frame hresending
      cases hresending
    · intro ack hmem
      cases hmem
  · constructor
    · intro event hmem
      have hring : (World.start cfg).service.state.ringWindow = [] :=
        RTCState.ringWindow_resetState
      rw [hring] at hmem
      cases hmem
    · intro eventId ack hmem
      cases hmem

theorem sameRing (hinv : DeliveryInvariant world)
    {service : HistoryService cfg}
    (hstate : service.state = world.service.state) :
    DeliveryInvariant { world with service := service } := by
  refine ⟨?_, ?_, hinv.wire, hinv.task, ?_, ?_⟩
  · rw [hstate]
    exact hinv.head_lt
  · rw [hstate]
    exact hinv.tail_lt
  · rw [hstate]
    exact hinv.property.acknowledged
  · exact hinv.property.delivered

theorem logDetection (hinv : DeliveryInvariant world) (locked : Bool)
    (clock : ClockMicros) (durationMs : ℕ) :
    ∃ after, world.logDetection locked clock durationMs = some after ∧
      DeliveryInvariant after := by
  unfold World.logDetection HistoryService.logDetection
  split
  next hready =>
    obtain ⟨state, happend, hspec⟩ := RTCState.appendEvent_spec
      hinv.head_lt hinv.tail_lt clock durationMs
      world.service.timeSyncReceivedThisBoot
    have hstate := HistoryService.state_afterAppend world.service clock
      state
    rw [happend]
    refine ⟨_, rfl, ?_, ?_, hinv.wire, hinv.task, ?_,
      hinv.property.delivered⟩
    · rw [hstate]
      exact hspec.head_lt
    · rw [hstate]
      exact hspec.tail_lt
    · intro event hmem hsynced
      rw [hstate, hspec.ringWindow] at hmem
      rcases List.mem_append.mp hmem with hold | hnew
      · have hring : event ∈ world.service.state.ringWindow := by
          split at hold
          · exact List.mem_of_mem_tail hold
          · exact hold
        exact hinv.property.acknowledged event hring hsynced
      · rw [List.mem_singleton.mp hnew, freshEvent_not_synced] at hsynced
        cases hsynced
  next => exact ⟨_, rfl, hinv.sameRing rfl⟩

/-- The mark is made only for an event that the app had received. -/
theorem ackMark (hinv : DeliveryInvariant world) {ack : AckMessage}
    (i : SlotIndex) {eventId : ℕ} (hdelivered : ack.Delivered eventId)
    (locked : Bool) :
    ∃ after, world.ackMark ack i eventId locked = some after ∧
      DeliveryInvariant after := by
  unfold World.ackMark HistoryService.markAsSynced
  split
  next hready =>
    obtain ⟨buffer, hscan, hwindow⟩ := RTCState.scanLive_eq hinv.head_lt
      hinv.tail_lt always (visitMarkSynced eventId) false
    have hsame := world.service.sameIndices_withBuffer buffer
      (scanList always (visitMarkSynced eventId)
        world.service.state.ringWindow false).2
    rw [hscan]
    refine ⟨_, rfl, ?_, ?_, hinv.wire, trivial,
      ?_, ?_⟩
    · dsimp only
      rw [hsame.head]
      exact hinv.head_lt
    · dsimp only
      rw [hsame.tail]
      exact hinv.tail_lt
    · intro event hmem hsynced
      have hmarked : event ∈ (scanList always (visitMarkSynced eventId)
          world.service.state.ringWindow false).1 := by
        rw [← hwindow]
        obtain ⟨crc32, hstate⟩ := world.service.state_withBuffer buffer
          (scanList always (visitMarkSynced eventId)
            world.service.state.ringWindow false).2
        dsimp only at hmem
        rw [hstate] at hmem
        exact hmem
      rcases mem_scanList_firstMatch _ _ _ hmarked with
        hold | ⟨old, hold, hmatch, rfl⟩
      · obtain ⟨other, hother⟩ :=
          hinv.property.acknowledged event hold hsynced
        refine ⟨other, ?_⟩
        dsimp only
        split
        · exact List.mem_cons_of_mem _ hother
        · exact hother
      · have hfound : (scanList always (visitMarkSynced eventId)
            world.service.state.ringWindow false).2 = true := by
          have hany := scanList_firstMatch_found
            (fun event : DetectionEvent => event.id == eventId)
            DetectionEvent.setSynced world.service.state.ringWindow
          unfold visitMarkSynced
          rw [hany]
          exact List.any_eq_true.mpr ⟨old, hold, hmatch⟩
        have hid : old.id = eventId := by simpa using hmatch
        refine ⟨ack, ?_⟩
        dsimp only
        rw [if_pos hfound, DetectionEvent.id_setSynced, hid]
        exact List.mem_cons_self ..
    · intro otherId other hmem
      dsimp only at hmem
      split at hmem
      · rcases List.mem_cons.mp hmem with heq | hold
        · cases heq
          exact hdelivered
        · exact hinv.property.delivered otherId other hold
      · exact hinv.property.delivered otherId other hmem
  next =>
    exact ⟨_, rfl, hinv.head_lt, hinv.tail_lt, hinv.wire, trivial, hinv.property⟩

/-- The wire and the program counter are replaced, and perhaps the link. -/
theorem ofWire (hinv : DeliveryInvariant world) {wire : Wire}
    (hwire : WireInvariant wire) (task : BleTask)
    (htask : task.Sound wire.numbered) (link : BleLink)
    (lastPumpAttemptMs : ℕ) :
    DeliveryInvariant { world with
      toWire := wire
      link := link
      lastPumpAttemptMs := lastPumpAttemptMs
      bleTask := task } :=
  ⟨hinv.head_lt, hinv.tail_lt, hwire, htask, hinv.property⟩

/-- The handler gives up slots while the BLE task moves on. -/
theorem ofHandler (hinv : DeliveryInvariant world)
    {handler : ProtocolHandler}
    (hshrinks : ProtocolHandler.Shrinks world.handler handler)
    {task : BleTask} (htask : task.Sound world.numbered) :
    DeliveryInvariant { world with
      handler := handler
      bleTask := task } :=
  hinv.ofWire (hinv.wire.shrinks hshrinks) task htask world.link
    world.lastPumpAttemptMs

theorem pumpRead (hinv : DeliveryInvariant world) (locked : Bool)
    (now : ℕ) :
    ∃ after, world.pumpRead locked now = some after ∧
      DeliveryInvariant after := by
  have hskip : ∀ lastPumpAttemptMs, DeliveryInvariant { world with
      lastPumpAttemptMs := lastPumpAttemptMs } :=
    hinv.ofWire hinv.wire world.bleTask hinv.task world.link
  have hpumping : ∀ event, WireInvariant { world.toWire with
      loopTask := .pumping event } := by
    intro event
    exact ⟨hinv.wire.txSeqNum, hinv.wire.frames, hinv.wire.slots, nofun,
      hinv.wire.sent, hinv.wire.received, hinv.wire.acks⟩
  unfold World.pumpRead
  split
  next => exact ⟨world, rfl, hinv⟩
  next =>
    dsimp only
    split
    next => exact ⟨_, rfl, hskip now⟩
    next =>
      split
      next => exact ⟨_, rfl, hskip now⟩
      next =>
        obtain ⟨event?, hnext⟩ := HistoryService.getNextUnsynced_ends
          hinv.head_lt hinv.tail_lt locked
        rw [hnext]
        refine ⟨_, rfl, ?_⟩
        cases event? with
        | some event => exact hinv.ofWire (hpumping event) _ hinv.task _ _
        | none => exact hskip now

theorem pumpSend (hinv : DeliveryInvariant world) (event : DetectionEvent)
    (connected locked : Bool) (now : ℕ) :
    DeliveryInvariant (world.pumpSend event connected locked now) := by
  have hsends := ProtocolHandler.sends_detection world.handler
    hinv.wire.seqNum_lt connected world.link locked now event false
  have hwire := hinv.wire.afterSend hsends
  have hidle : WireInvariant { world.toWire.afterSend
      (world.handler.sendDetectionEvent connected world.link locked now
        event false) with loopTask := .idle } :=
    ⟨hwire.txSeqNum, hwire.frames, hwire.slots, nofun, hwire.sent,
      hwire.received, hwire.acks⟩
  exact hinv.ofWire hidle _
    (hinv.task.mono (Wire.numbered_afterSend _ _)) world.link
    world.lastPumpAttemptMs

theorem retryRead (hinv : DeliveryInvariant world) (timing : TimingConfig)
    (locked : Bool) (now : ℕ) (i : SlotIndex) :
    DeliveryInvariant (world.retryRead timing locked now i) := by
  have hwire := hinv.wire.shrinks
    (ProtocolHandler.Shrinks.retrySlot timing world.handler locked now i)
  have hretried : WireInvariant
      (world.retryRead timing locked now i).toWire := by
    refine ⟨hwire.txSeqNum, hwire.frames, hwire.slots, ?_, hwire.sent,
      hwire.received, hwire.acks⟩
    intro frame hresending
    unfold World.retryRead at hresending
    dsimp only at hresending
    split at hresending
    next bytes hbytes =>
      cases hresending
      obtain ⟨hactive, hdata⟩ := ProtocolHandler.retrySlot_some hbytes
      have hwaits := hinv.wire.slots i hactive
      have hsame : { world.toWire.origin i with bytes := bytes } =
          world.toWire.origin i := by
        rw [hdata, hwaits.data]
      rw [hsame]
      exact hwaits.numbered
    next => cases hresending
  exact hinv.ofWire hretried _ hinv.task _ _

theorem retrySend (hinv : DeliveryInvariant world) {frame : SentFrame}
    (hresending : world.loopTask = .resending frame) :
    DeliveryInvariant (world.retrySend frame) := by
  have hnumbered := hinv.wire.resending frame hresending
  have hwire : WireInvariant (world.retrySend frame).toWire := by
    refine ⟨hinv.wire.txSeqNum, hinv.wire.frames, hinv.wire.slots, nofun,
      ?_, hinv.wire.received, hinv.wire.acks⟩
    unfold World.retrySend
    dsimp only
    split
    · exact List.cons_subset.mpr ⟨hnumbered, hinv.wire.sent⟩
    · exact hinv.wire.sent
  exact hinv.ofWire hwire _ hinv.task _ _

theorem sendOther (hinv : DeliveryInvariant world)
    (connected locked : Bool) (now : ℕ) (type : MessageType)
    (payload : List Byte) :
    DeliveryInvariant
      (world.sendOther connected locked now type payload) := by
  unfold World.sendOther
  split
  next => exact hinv
  next =>
    have hsends := ProtocolHandler.sends_message world.handler
      hinv.wire.seqNum_lt connected world.link locked now type payload false
    exact hinv.ofWire (hinv.wire.afterSend hsends) _
      (hinv.task.mono (Wire.numbered_afterSend _ _)) world.link
      world.lastPumpAttemptMs

theorem ackArrives (hinv : DeliveryInvariant world) {ack : AckMessage}
    (hack : ack.Emitted world.numbered) (locked : Bool) (now : ℕ) :
    DeliveryInvariant (world.ackArrives ack locked now) := by
  apply hinv.ofHandler
    (ProtocolHandler.Shrinks.validateAckSecurity _ locked now ack.seqNum)
  split
  · exact hack
  · trivial

/-- The detection that a current ACK finds is the one the app answers. -/
theorem delivered_of_current (hinv : DeliveryInvariant world)
    {ack : AckMessage} (hack : ack.Emitted world.numbered) {i : SlotIndex}
    (hfind : world.handler.findSlot (PendingMessage.awaits ack.seqNum) =
      some i)
    (htype : (world.handler.slot i).msgType = .detectionEvent)
    (hackCurrent : world.Current ack.frame)
    (hslotCurrent : world.Current (world.origin i)) :
    ack.Delivered (frameEventId (world.handler.slot i).data) := by
  have hawaits := ProtocolHandler.findSlot_some hfind
  have hslot : (world.handler.slot i).active = true ∧
      (world.handler.slot i).seqNum = ack.seqNum := by
    simpa [PendingMessage.awaits] using hawaits
  have hwaits := hinv.wire.slots i hslot.1
  have hnumber := hinv.wire.frames.number ack.frame hack.numbered
  have hsame : frameSeqNum ack.frame.bytes =
      frameSeqNum (world.origin i).bytes := by
    rw [← hwaits.data, hwaits.seqNum, hslot.2, AckMessage.seqNum, hnumber]
    rfl
  have heq : ack.frame = world.origin i :=
    hinv.wire.frames.eq_of_seqNum hack.numbered hwaits.numbered
      hackCurrent.1 hslotCurrent.1 hackCurrent.2 hslotCurrent.2 hsame
  refine ⟨ack.frame, hack.received, ?_, ?_⟩
  · rw [heq, ← hwaits.data, hwaits.msgType, htype]
  · rw [heq, hwaits.data]

theorem ackLookup (hinv : DeliveryInvariant world) {ack : AckMessage}
    (htask : world.bleTask = .ackValidated ack) {locked : Bool}
    (hguard : world.AckCurrent (.ackLookup locked)) :
    DeliveryInvariant (world.ackLookup ack locked) := by
  have hack : ack.Emitted world.numbered := by
    have hsound := hinv.task
    rw [htask] at hsound
    exact hsound
  apply hinv.ofHandler
    (ProtocolHandler.Shrinks.lookupAck _ locked ack.seqNum)
  split
  next i eventId hfound =>
    obtain ⟨hlocked, hfind, htype, hid⟩ :=
      ProtocolHandler.lookupAck_some hfound
    subst hlocked
    unfold World.AckCurrent at hguard
    rw [htask] at hguard
    obtain ⟨hackCurrent, hslotCurrent⟩ := hguard i hfind htype
    rw [hid]
    exact hinv.delivered_of_current hack hfind htype hackCurrent
      hslotCurrent
  next => trivial

theorem syncRead (hinv : DeliveryInvariant world)
    (seqNum lastSyncedId syncedCount : ℕ) (locked : Bool) :
    ∃ after, world.syncRead seqNum lastSyncedId syncedCount locked =
        some after ∧
      DeliveryInvariant after := by
  have hmove : ∀ task : BleTask, task.Sound world.numbered →
      DeliveryInvariant { world with bleTask := task } := by
    intro task htask
    exact hinv.ofHandler (.refl _) htask
  unfold World.syncRead
  split
  next =>
    obtain ⟨result, hread⟩ := HistoryService.getEventsSince_ends
      hinv.head_lt hinv.tail_lt locked lastSyncedId 1
    rw [hread]
    refine ⟨_, rfl, ?_⟩
    dsimp only
    split
    · exact hmove _ trivial
    · exact hmove _ trivial
  next => exact ⟨_, rfl, hmove _ trivial⟩

theorem syncSend (hinv : DeliveryInvariant world)
    (seqNum syncedCount : ℕ) (event : DetectionEvent)
    (connected locked : Bool) (now : ℕ) :
    DeliveryInvariant
      (world.syncSend seqNum syncedCount event connected locked now) := by
  have hsends := ProtocolHandler.sends_detection world.handler
    hinv.wire.seqNum_lt connected world.link locked now event true
  apply hinv.ofWire (hinv.wire.afterSend hsends)
  split <;> trivial

theorem syncReply (hinv : DeliveryInvariant world) (seqNum : ℕ)
    (connected locked : Bool) (now : ℕ) :
    DeliveryInvariant (world.syncReply seqNum connected locked now) := by
  have hsends := ProtocolHandler.sends_message world.handler
    hinv.wire.seqNum_lt connected world.link locked now .ack
    (be16Bytes seqNum) false
  exact hinv.ofWire (hinv.wire.afterSend hsends) .idle trivial _ _

theorem restartNumbering (hinv : DeliveryInvariant world) (now : ℕ) :
    DeliveryInvariant (world.restartNumbering now) := by
  have hwire : WireInvariant (world.restartNumbering now).toWire :=
    ⟨rfl, hinv.wire.frames.restart, hinv.wire.slots, hinv.wire.resending,
      hinv.wire.sent, hinv.wire.received, hinv.wire.acks⟩
  have hservice := hinv.sameRing
    (HistoryService.state_setBleConnected world.service true now)
  exact hservice.ofWire hwire .idle trivial _ _

theorem appReceives (hinv : DeliveryInvariant world) {frame : SentFrame}
    (hsent : frame ∈ world.sent) :
    DeliveryInvariant { world with
      received := frame :: world.received } := by
  have hwire : WireInvariant { world.toWire with
      received := frame :: world.received } :=
    ⟨hinv.wire.txSeqNum, hinv.wire.frames, hinv.wire.slots,
      hinv.wire.resending, hinv.wire.sent,
      List.cons_subset.mpr ⟨hinv.wire.sent hsent, hinv.wire.received⟩,
      hinv.wire.acks⟩
  exact hinv.ofWire hwire _ hinv.task _ _

theorem appAcks (hinv : DeliveryInvariant world) {frame : SentFrame}
    (hreceived : frame ∈ world.received) :
    DeliveryInvariant { world with
      acks := ⟨frame, world.received⟩ :: world.acks } := by
  have hacks : ∀ ack ∈ (⟨frame, world.received⟩ : AckMessage) ::
      world.acks, ack.Emitted world.numbered := by
    intro ack hmem
    rcases List.mem_cons.mp hmem with rfl | hold
    · exact ⟨hreceived, hinv.wire.received hreceived⟩
    · exact hinv.wire.acks ack hold
  have hwire : WireInvariant { world.toWire with
      acks := ⟨frame, world.received⟩ :: world.acks } :=
    ⟨hinv.wire.txSeqNum, hinv.wire.frames, hinv.wire.slots,
      hinv.wire.resending, hinv.wire.sent, hinv.wire.received, hacks⟩
  exact hinv.ofWire hwire _ hinv.task _ _

theorem step (hinv : DeliveryInvariant world) (timing : TimingConfig)
    (input : Step) (hguard : world.AckCurrent input) :
    ∃ after, world.step timing input = some after ∧
      DeliveryInvariant after := by
  unfold World.step
  split
  next => exact hinv.logDetection _ _ _
  next => exact ⟨_, rfl, hinv.sendOther _ _ _ _ _⟩
  next => exact hinv.pumpRead _ _
  next => exact ⟨_, rfl, hinv.pumpSend _ _ _ _⟩
  next => exact ⟨_, rfl, hinv.retryRead timing _ _ _⟩
  next frame hresending => exact ⟨_, rfl, hinv.retrySend hresending⟩
  next htask =>
    split
    next ack hack =>
      have hemitted := hinv.wire.acks ack (List.mem_of_getElem? hack)
      exact ⟨_, rfl, hinv.ackArrives hemitted _ _⟩
    next => exact ⟨_, rfl, hinv⟩
  next htask => exact ⟨_, rfl, hinv.ackLookup htask hguard⟩
  next ack i eventId htask =>
    have hdelivered : ack.Delivered eventId := by
      have hsound := hinv.task
      rw [htask] at hsound
      exact hsound
    exact hinv.ackMark i hdelivered _
  next => exact ⟨_, rfl, hinv.ofHandler (.confirmAck _ _ _ _) trivial⟩
  next htask =>
    exact ⟨_, rfl, hinv.ofHandler (.handleNack _ _ _) hinv.task⟩
  next => exact ⟨_, rfl, hinv.ofHandler (.refl _) trivial⟩
  next => exact hinv.syncRead _ _ _ _
  next => exact ⟨_, rfl, hinv.syncSend _ _ _ _ _ _⟩
  next => exact ⟨_, rfl, hinv.syncReply _ _ _ _⟩
  next =>
    exact ⟨_, rfl, hinv.ofWire hinv.wire .connectClearing trivial _ _⟩
  next => exact ⟨_, rfl, hinv.ofWire hinv.wire _ hinv.task _ _⟩
  next =>
    exact ⟨_, rfl, hinv.ofWire hinv.wire .disconnectClearing trivial _ _⟩
  next => exact ⟨_, rfl, hinv.ofHandler (.clearAllPending _ _) trivial⟩
  next => exact ⟨_, rfl, hinv.restartNumbering _⟩
  next => exact ⟨_, rfl, hinv.ofHandler (.clearAllPending _ _) trivial⟩
  next now _ =>
    have hservice := hinv.sameRing
      (HistoryService.state_setBleConnected world.service false now)
    exact ⟨_, rfl, hservice.ofHandler (.refl _) trivial⟩
  next =>
    split
    next frame hsent =>
      exact ⟨_, rfl, hinv.appReceives (List.mem_of_getElem? hsent)⟩
    next => exact ⟨_, rfl, hinv⟩
  next =>
    split
    next frame hreceived =>
      exact ⟨_, rfl, hinv.appAcks (List.mem_of_getElem? hreceived)⟩
    next => exact ⟨_, rfl, hinv⟩
  next => exact ⟨_, rfl, hinv⟩

end DeliveryInvariant

/-! ## Runs -/

/-- While no outdated ACK or slot is matched, synced implies delivered. -/
theorem synced_delivered (timing : TimingConfig) (inputs : List Step)
    (hcurrent : GuardedRun.GuardedAttempt (World.step timing)
      World.AckCurrent (World.start cfg) inputs) :
    ∃ final, (World.start cfg).run timing inputs = some final ∧
      SyncedDelivered final.service final.confirmed := by
  have hstep : ∀ (world : World cfg) input, DeliveryInvariant world →
      world.AckCurrent input →
        ∃ after, world.step timing input = some after ∧
          DeliveryInvariant after := by
    intro world input hinv hguard
    exact hinv.step timing input hguard
  obtain ⟨final, hrun, hfinal⟩ := GuardedRun.invariant_attempt hstep
    (DeliveryInvariant.start cfg) hcurrent
  exact ⟨final, hrun, hfinal.property⟩

/-! ### Concrete runs -/

instance (ack : AckMessage) (eventId : ℕ) :
    Decidable (ack.Delivered eventId) :=
  inferInstanceAs (Decidable (∃ frame ∈ ack.received, _))

instance (wire : Wire) (frame : SentFrame) :
    Decidable (wire.Current frame) :=
  inferInstanceAs (Decidable (_ ∧ _))

instance (world : World cfg) (input : Step) :
    Decidable (world.AckCurrent input) := by
  unfold World.AckCurrent
  split <;> infer_instance

def benchTiming : TimingConfig where
  ackTimeoutMs := 6000
  maxRetryCount := 3

def connection (now : ℕ) : List Step :=
  [.connect, .clearPending true, .restartNumbering now, .subscribe true]

def pump (now : ℕ) : List Step :=
  [.pumpRead true now, .pumpSend true true now]

def processAck (index now : ℕ) : List Step :=
  [.ackArrives index true now, .ackLookup true, .ackMark true,
    .ackConfirm true]

/-- One detection is delivered, acknowledged and marked. -/
def deliveredRun : List Step :=
  [.logDetection true 0 0] ++ connection 100 ++ pump 200 ++
    [.appReceives 0, .appAcks 0] ++ processAck 0 300

/-- The app receives the first detection twice and answers twice; the second
answer is processed in the next session, where both frames that carry the
second detection are lost. -/
def staleAckRun : List Step :=
  [.logDetection true 0 0, .logDetection true 0 0] ++ connection 100 ++
    pump 200 ++ pump 400 ++
    [.appReceives 0, .appReceives 1, .appAcks 1, .appAcks 0] ++
    processAck 0 500 ++
    [.disconnect, .clearPending true, .finishDisconnect 600] ++
    connection 700 ++ pump 800 ++ pump 1000 ++ processAck 1 1100

theorem delivered_run :
    ∃ final, (World.start .fourSlots).run benchTiming deliveredRun =
        some final ∧
      SyncedDelivered final.service final.confirmed :=
  synced_delivered benchTiming deliveredRun (by decide +kernel)

theorem stale_ack_marks_undelivered :
    ∃ final ∈ (World.start .fourSlots).run benchTiming staleAckRun,
      ∃ event ∈ final.service.state.ringWindow, event.isSynced = true ∧
        ∃ mark ∈ final.confirmed,
          mark.1 = event.id ∧ ¬mark.2.Delivered event.id := by
  decide +kernel

end Delivery

end SensorFirmware
