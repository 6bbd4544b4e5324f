import SensorFirmware.LinkedDevice

/-!
# Writes over a link that is not encrypted

Of the messages that the write callback lets through, a HELLO may raise the
counter of the identifiers, an ACK may mark one event as synced, and nothing
else changes outside the protocol handler.
-/

namespace SensorFirmware

variable {cfg : HistoryConfig} {σ : Type}

/-- Two devices that differ in their handlers at most. -/
def OnlyHandler (before after : ProtocolDevice cfg σ) : Prop :=
  ∃ handler, after = { before with handler := handler }

namespace OnlyHandler

variable {before middle after : ProtocolDevice cfg σ}

theorem refl (device : ProtocolDevice cfg σ) : OnlyHandler device device :=
  ⟨device.handler, rfl⟩

theorem trans (hfirst : OnlyHandler before middle)
    (hsecond : OnlyHandler middle after) : OnlyHandler before after := by
  obtain ⟨first, rfl⟩ := hfirst
  obtain ⟨second, rfl⟩ := hsecond
  exact ⟨second, rfl⟩

theorem sendMessage (r : Reaction cfg σ) (env : MessageEnv)
    (type : MessageType) (payload : List Byte) :
    OnlyHandler r.toProtocolDevice
      (r.sendMessage env type payload).toProtocolDevice :=
  ⟨_, rfl⟩

theorem sendAll (r : Reaction cfg σ) (env : MessageEnv)
    (replies : List OtaReply) :
    OnlyHandler r.toProtocolDevice
      (r.sendAll env replies).toProtocolDevice := by
  induction replies generalizing r with
  | nil => exact refl _
  | cons reply rest ih =>
      exact (sendMessage r env reply.type reply.payload).trans (ih _)

end OnlyHandler

/-! ## Which messages come through -/

theorem msgType_of_parseFrame {data : List Byte} {message : ReceivedMessage}
    (hparse : parseFrame data = some message) :
    ∃ sof rest, data = sof :: message.msgType :: rest := by
  unfold parseFrame at hparse
  split at hparse
  next sof msgType version seqHigh seqLow lenHigh lenLow rest =>
    refine ⟨sof, version :: seqHigh :: seqLow :: lenHigh :: lenLow :: rest,
      ?_⟩
    dsimp only at hparse
    split_ifs at hparse
    split at hparse
    · split_ifs at hparse
      rw [← Option.some.inj hparse]
    · cases hparse
  · cases hparse

theorem handshake_type {data : List Byte} {message : ReceivedMessage}
    (hhandshake : isHandshakeMessage data = true)
    (hparse : parseFrame data = some message) :
    MessageType.ofCode message.msgType = some .hello ∨
      MessageType.ofCode message.msgType = some .ack ∨
        MessageType.ofCode message.msgType = some .heartbeat := by
  obtain ⟨sof, rest, rfl⟩ := msgType_of_parseFrame hparse
  have hcode : (message.msgType = 0x00#8 ∨ message.msgType = 0x02#8) ∨
      message.msgType = 0x04#8 := by
    simp only [isHandshakeMessage, Bool.and_eq_true, Bool.or_eq_true,
      beq_iff_eq] at hhandshake
    exact hhandshake.2
  rcases hcode with (hcode | hcode) | hcode
  · left
    rw [hcode]
    decide
  · right
    left
    rw [hcode]
    decide
  · right
    right
    rw [hcode]
    decide

/-- A write that is let through without encryption looks like a handshake. -/
theorem handshake_of_accepted {bonded : Bool} {data : List Byte}
    (haccepted : onWrite (some ⟨false, bonded⟩) data = .accepted) :
    isHandshakeMessage data = true := by
  unfold onWrite at haccepted
  split at haccepted
  · cases haccepted
  · split at haccepted
    · cases haccepted
    next hallowed => simpa using hallowed

/-! ## What they do -/

namespace ProtocolDevice

/-- The frame is a HELLO with an identifier above the counter. -/
def Raises (device : ProtocolDevice cfg σ) (data : List Byte) : Prop :=
  ∃ message id, parseFrame data = some message ∧
    MessageType.ofCode message.msgType = some .hello ∧
    Reaction.helloEventId message.payload = some id ∧
    device.history.state.globalEventId < id

/-- The frame is an ACK for a detection that waits for one. -/
def Acknowledges (device : ProtocolDevice cfg σ) (data : List Byte) : Prop :=
  ∃ message high low rest i, parseFrame data = some message ∧
    MessageType.ofCode message.msgType = some .ack ∧
    message.payload = high :: low :: rest ∧
    (device.handler.slot i).awaits (be16 high low) = true ∧
    (device.handler.slot i).msgType = .detectionEvent

end ProtocolDevice

/-- The identifier that the counter is raised to, with the flush. -/
def RaisedTo (env : MessageEnv) (id : ℕ)
    (before after : ProtocolDevice cfg σ) : Prop :=
  OnlyHandler (before.react.fastForward env id).toProtocolDevice after

def Marked (env : MessageEnv) (before after : ProtocolDevice cfg σ) : Prop :=
  ∃ eventId marked,
    before.history.markAsSynced env.historyLocked eventId = some marked ∧
      OnlyHandler { before with history := marked.1 } after

/-- Everything that a handshake message can do. -/
def HandshakeEffect (env : MessageEnv) (data : List Byte)
    (before after : ProtocolDevice cfg σ) : Prop :=
  OnlyHandler before after ∨
    (before.Raises data ∧ ∃ id, RaisedTo env id before after) ∨
      (before.Acknowledges data ∧ Marked env before after)

section Dispatch

variable {env : MessageEnv} {ota : OtaConfig} {lib : UpdateLibrary σ Byte}
  {r after : Reaction cfg σ} {data : List Byte} {message : ReceivedMessage}

theorem onlyHandler_fastForward {left right : Reaction cfg σ}
    (hsame : OnlyHandler left.toProtocolDevice right.toProtocolDevice)
    (env : MessageEnv) (id : ℕ) :
    OnlyHandler (left.fastForward env id).toProtocolDevice
      (right.fastForward env id).toProtocolDevice := by
  obtain ⟨before, replies, calls⟩ := left
  obtain ⟨after, replies', calls'⟩ := right
  obtain ⟨handler, rfl⟩ := hsame
  refine ⟨handler, ?_⟩
  unfold Reaction.fastForward
  dsimp only
  split
  · rfl
  · rfl

theorem handleHello_effect (hparse : parseFrame data = some message)
    (htype : MessageType.ofCode message.msgType = some .hello)
    {device : ProtocolDevice cfg σ}
    (hstart : OnlyHandler device r.toProtocolDevice) (seqNum : ℕ) :
    HandshakeEffect env data device
      (r.handleHello env ota seqNum message.payload).toProtocolDevice := by
  have hcounter : r.history.state.globalEventId =
      device.history.state.globalEventId := by
    obtain ⟨handler, hr⟩ := hstart
    rw [hr]
  unfold Reaction.handleHello
  dsimp only
  split
  next id hid =>
    by_cases hraise : r.history.state.globalEventId < id
    · rw [if_pos hraise]
      right
      left
      rw [hcounter] at hraise
      refine ⟨⟨message, id, hparse, htype, hid, hraise⟩, id, ?_⟩
      have hdevice : OnlyHandler device.react.toProtocolDevice
          r.toProtocolDevice := hstart
      exact (onlyHandler_fastForward hdevice env id).trans ⟨_, rfl⟩
    · rw [if_neg hraise]
      exact .inl (hstart.trans ⟨_, rfl⟩)
  next hid => exact .inl (hstart.trans ⟨_, rfl⟩)

theorem handleAck_effect (hparse : parseFrame data = some message)
    (htype : MessageType.ofCode message.msgType = some .ack)
    {device : ProtocolDevice cfg σ}
    (hstart : OnlyHandler device r.toProtocolDevice)
    (hslots : ∀ i, r.handler.slot i = device.handler.slot i)
    (hack : r.handleAck env message.payload = some after) :
    HandshakeEffect env data device after.toProtocolDevice := by
  unfold Reaction.handleAck at hack
  split at hack
  next high low rest hpayload =>
    dsimp only at hack
    split at hack
    · cases Option.some.inj hack
      exact .inl (hstart.trans ⟨_, rfl⟩)
    next hvalid =>
      split at hack
      · cases Option.some.inj hack
        exact .inl (hstart.trans ⟨_, rfl⟩)
      next i eventId hfound =>
        obtain ⟨marked, hmarked, hafter⟩ := Option.map_eq_some_iff.mp hack
        obtain ⟨-, hfind, hdetection, -⟩ :=
          ProtocolHandler.lookupAck_some hfound
        have hawaits := ProtocolHandler.findSlot_some hfind
        have hsame : (r.handler.validateAckSecurity env.validateLocked
            env.now (be16 high low)).1 = r.handler := by
          unfold ProtocolHandler.validateAckSecurity at hvalid ⊢
          split at hvalid
          next hknown => rw [if_pos hknown]
          · simp at hvalid
        dsimp only [Reaction.withHandler] at hawaits hdetection
        rw [hsame, hslots] at hawaits hdetection
        refine .inr (.inr ⟨⟨message, high, low, rest, i, hparse, htype,
          hpayload, hawaits, hdetection⟩, eventId, marked, ?_, ?_⟩)
        · obtain ⟨before, replies, calls⟩ := r
          obtain ⟨handler, rfl⟩ := hstart
          exact hmarked
        · rw [← hafter]
          obtain ⟨before, replies, calls⟩ := r
          obtain ⟨handler, rfl⟩ := hstart
          exact ⟨_, rfl⟩
  · cases Option.some.inj hack
    exact .inl hstart

theorem dispatchMessage_effect (hparse : parseFrame data = some message)
    (hhandshake : isHandshakeMessage data = true)
    {device : ProtocolDevice cfg σ}
    (hstart : OnlyHandler device r.toProtocolDevice)
    (hslots : ∀ i, r.handler.slot i = device.handler.slot i)
    (hreact : r.dispatchMessage env ota lib message = some after) :
    HandshakeEffect env data device after.toProtocolDevice := by
  let active : Reaction cfg σ :=
    if Reaction.isActivityMessage message.msgType then
      r.call .activityDetected else r
  have hactive : OnlyHandler device active.toProtocolDevice ∧
      ∀ i, active.handler.slot i = device.handler.slot i := by
    by_cases hcall : Reaction.isActivityMessage message.msgType = true
    · have hcase : active = r.call .activityDetected := if_pos hcall
      rw [hcase]
      exact ⟨hstart, hslots⟩
    · have hcase : active = r := if_neg hcall
      rw [hcase]
      exact ⟨hstart, hslots⟩
  unfold Reaction.dispatchMessage at hreact
  dsimp only at hreact
  rcases handshake_type hhandshake hparse with htype | htype | htype
  · rw [htype] at hreact
    rw [← Option.some.inj hreact]
    exact handleHello_effect hparse htype hactive.1 message.seqNum
  · rw [htype] at hreact
    exact handleAck_effect hparse htype hactive.1 hactive.2 hreact
  · rw [htype] at hreact
    rw [← Option.some.inj hreact]
    exact .inl hactive.1

theorem processReceived_effect {device : ProtocolDevice cfg σ}
    (hhandshake : isHandshakeMessage data = true)
    (hreact : device.react.processReceived env ota lib data = some after) :
    HandshakeEffect env data device after.toProtocolDevice := by
  unfold Reaction.processReceived at hreact
  split at hreact
  · rw [← Option.some.inj hreact]
    exact .inl (.refl device)
  · cases hparse : parseFrame data with
    | none =>
        rw [hparse] at hreact
        dsimp only at hreact
        left
        cases hnumber : frameSeqNum data with
        | none =>
            rw [hnumber] at hreact
            rw [← Option.some.inj hreact]
            exact ⟨_, rfl⟩
        | some seqNum =>
            rw [hnumber] at hreact
            rw [← Option.some.inj hreact]
            exact ⟨_, rfl⟩
    | some message =>
        rw [hparse] at hreact
        refine dispatchMessage_effect hparse hhandshake ⟨_, rfl⟩ ?_ hreact
        intro i
        dsimp only [Reaction.withHandler, ProtocolHandler.countReceived]
        split <;> rfl

theorem handleAck_ends
    (hmarks : ∀ eventId, ∃ marked,
      r.history.markAsSynced env.historyLocked eventId = some marked)
    (payload : List Byte) :
    ∃ after, r.handleAck env payload = some after := by
  unfold Reaction.handleAck
  split
  · dsimp only [Reaction.withHandler]
    split
    · exact ⟨_, rfl⟩
    · split
      · exact ⟨_, rfl⟩
      next i eventId hfound =>
        obtain ⟨marked, hmarked⟩ := hmarks eventId
        rw [hmarked]
        exact ⟨_, rfl⟩
  · exact ⟨_, rfl⟩

theorem processReceived_ends {device : ProtocolDevice cfg σ}
    (ota : OtaConfig) (lib : UpdateLibrary σ Byte)
    (hhandshake : isHandshakeMessage data = true)
    (hmarks : ∀ eventId, ∃ marked,
      device.history.markAsSynced env.historyLocked eventId =
        some marked) :
    ∃ after, device.react.processReceived env ota lib data = some after := by
  unfold Reaction.processReceived
  split
  · exact ⟨_, rfl⟩
  · cases hparse : parseFrame data with
    | none =>
        dsimp only
        cases frameSeqNum data <;> exact ⟨_, rfl⟩
    | some message =>
        unfold Reaction.dispatchMessage
        dsimp only
        rcases handshake_type hhandshake hparse with htype | htype | htype
        · rw [htype]
          exact ⟨_, rfl⟩
        · rw [htype]
          apply handleAck_ends
          split
          · exact hmarks
          · exact hmarks
        · rw [htype]
          exact ⟨_, rfl⟩

end Dispatch

namespace LinkedDevice

/-- What a write over a link without encryption leaves behind. -/
theorem receive_effect {ota : OtaConfig} {lib : UpdateLibrary σ Byte}
    {device after : LinkedDevice cfg σ} {bonded : Bool} {data : List Byte}
    {env : MessageEnv}
    (hreceive : device.receive ota lib ⟨false, bonded⟩ data env =
      some after) :
    HandshakeEffect env data device.toProtocolDevice
        after.toProtocolDevice ∧
      after.blob = device.blob := by
  unfold receive at hreceive
  split at hreceive
  · cases Option.some.inj hreceive
    exact ⟨.inl (.refl _), rfl⟩
  · split at hreceive
    next haccepted =>
      obtain ⟨r, hreact, rfl⟩ := Option.map_eq_some_iff.mp hreceive
      exact ⟨processReceived_effect (handshake_of_accepted haccepted) hreact,
        rfl⟩
    · cases Option.some.inj hreceive
      exact ⟨.inl (.refl _), rfl⟩

end LinkedDevice

end SensorFirmware
