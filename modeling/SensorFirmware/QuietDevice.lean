import SensorFirmware.SessionRun

/-!
# A device that nothing stops

While no update begins and another task holds the history, every message is
processed to its end, and every reply goes out as a frame of its type.
-/

namespace SensorFirmware

variable {cfg : HistoryConfig} {σ : Type}

/-! ## A device that keeps running -/

/-- Every frame goes out, but another task holds the history. -/
def MessageEnv.historyBusy : MessageEnv :=
  { MessageEnv.good with
    historyLocked := false
    eventsLocked := fun _ => false }

/-- No update is in progress. -/
structure Quiet (device : ProtocolDevice cfg σ) : Prop where
  running : device.restarting = false
  idle : device.ota.manager.state = .idle
  kept : device.ota.restarted = false

namespace Quiet

variable {r : Reaction cfg σ}

theorem of_same {device device' : ProtocolDevice cfg σ}
    (hquiet : Quiet device) (hrestarting : device'.restarting =
      device.restarting) (hota : device'.ota = device.ota) :
    Quiet device' := by
  refine ⟨?_, ?_, ?_⟩
  · rw [hrestarting, hquiet.running]
  · rw [hota, hquiet.idle]
  · rw [hota, hquiet.kept]

theorem sendMessage (hquiet : Quiet r.toProtocolDevice) (env : MessageEnv)
    (type : MessageType) (payload : List Byte) :
    Quiet (r.sendMessage env type payload).toProtocolDevice :=
  hquiet.of_same rfl rfl

theorem sendAll (hquiet : Quiet r.toProtocolDevice) (env : MessageEnv)
    (replies : List OtaReply) :
    Quiet (r.sendAll env replies).toProtocolDevice := by
  induction replies generalizing r with
  | nil => exact hquiet
  | cons reply rest ih =>
      exact ih (hquiet.sendMessage env reply.type reply.payload)

theorem afterOta (hquiet : Quiet r.toProtocolDevice) (env : MessageEnv)
    {result : OtaResult σ} (hidle : result.ota.manager.state = .idle)
    (hkept : result.ota.restarted = false) :
    Quiet (r.afterOta env result).toProtocolDevice := by
  have hrunning : (r.restarting || result.ota.restarted) = false := by
    rw [hquiet.running, hkept]
    rfl
  unfold Reaction.afterOta
  apply sendAll
  exact ⟨hrunning, hidle, hkept⟩

theorem answerOta (hquiet : Quiet r.toProtocolDevice) (env : MessageEnv)
    (seqNum : ℕ) (ok : Bool) :
    Quiet (r.answerOta env seqNum ok).toProtocolDevice := by
  unfold Reaction.answerOta
  split
  · exact hquiet
  · split
    · exact hquiet.sendMessage env _ _
    · exact hquiet.sendMessage env _ _

theorem handleSetConfig (hquiet : Quiet r.toProtocolDevice)
    (env : MessageEnv) (seqNum : ℕ) (payload : List Byte) :
    Quiet (r.handleSetConfig env seqNum payload).toProtocolDevice := by
  unfold Reaction.handleSetConfig
  split
  · exact hquiet.sendMessage env _ _
  · split
    · unfold Reaction.applySetting
      dsimp only
      split
      · split
        · exact hquiet.of_same rfl rfl
        · exact hquiet.of_same rfl rfl
      · split
        · exact hquiet.of_same rfl rfl
        · exact hquiet.of_same rfl rfl
    · exact hquiet.sendMessage env _ _

theorem handleHello (hquiet : Quiet r.toProtocolDevice) (env : MessageEnv)
    (ota : OtaConfig) (seqNum : ℕ) (payload : List Byte) :
    Quiet (r.handleHello env ota seqNum payload).toProtocolDevice := by
  unfold Reaction.handleHello
  dsimp only
  split
  · split
    · unfold Reaction.fastForward
      dsimp only
      split
      · exact hquiet.of_same rfl rfl
      · exact hquiet.of_same rfl rfl
    · exact hquiet.of_same rfl rfl
  · exact hquiet.of_same rfl rfl

/-- Without the mutex of the history nothing is marked. -/
theorem handleAck (hquiet : Quiet r.toProtocolDevice)
    (payload : List Byte) :
    ∃ after, r.handleAck .historyBusy payload = some after ∧
      Quiet after.toProtocolDevice := by
  have hmarked : ∀ eventId,
      r.history.markAsSynced MessageEnv.historyBusy.historyLocked eventId =
        some (r.history, false) := by
    intro eventId
    unfold HistoryService.markAsSynced
    rw [if_neg (by simp [MessageEnv.historyBusy])]
  unfold Reaction.handleAck
  dsimp only [Reaction.withHandler]
  split
  · split
    · exact ⟨_, rfl, hquiet.of_same rfl rfl⟩
    · split
      · exact ⟨_, rfl, hquiet.of_same rfl rfl⟩
      · rw [hmarked]
        exact ⟨_, rfl, hquiet.of_same rfl rfl⟩
  · exact ⟨r, rfl, hquiet⟩

theorem handleSyncRequest (hquiet : Quiet r.toProtocolDevice)
    (seqNum : ℕ) (payload : List Byte) :
    ∃ after, r.handleSyncRequest .historyBusy (fun _ handler => handler)
        seqNum payload = some after ∧ Quiet after.toProtocolDevice := by
  unfold Reaction.handleSyncRequest
  split
  · exact ⟨_, rfl, hquiet.sendMessage .historyBusy _ _⟩
  next since hsince =>
    have hnone : ∃ ok, r.history.getEventsSince
        (MessageEnv.historyBusy.eventsLocked 9) since 1 = some (ok, []) := by
      unfold HistoryService.getEventsSince HistoryService.collectEvents
      split
      · exact ⟨true, rfl⟩
      · exact ⟨false, rfl⟩
    obtain ⟨ok, hok⟩ := hnone
    unfold Reaction.syncEvents
    rw [hok]
    cases ok with
    | false => exact ⟨_, rfl, hquiet.sendMessage .historyBusy _ _⟩
    | true => exact ⟨_, rfl, hquiet.sendMessage .historyBusy _ _⟩

theorem handleTimeSync (hquiet : Quiet r.toProtocolDevice)
    (seqNum : ℕ) (payload : List Byte) :
    ∃ after, r.handleTimeSync .historyBusy seqNum payload = some after ∧
      Quiet after.toProtocolDevice := by
  unfold Reaction.handleTimeSync
  split
  · exact ⟨_, rfl, hquiet.sendMessage .historyBusy _ _⟩
  · have hsynced : ∃ synced, r.history.applyTimeSync
        MessageEnv.historyBusy.historyLocked MessageEnv.historyBusy.now
          (bytesAt payload 0 4) = some synced := by
      unfold HistoryService.applyTimeSync
      split
      · exact ⟨_, rfl⟩
      · exact ⟨_, rfl⟩
    obtain ⟨synced, hsynced⟩ := hsynced
    dsimp only
    rw [hsynced]
    exact ⟨_, rfl, hquiet.of_same rfl rfl⟩

/-! ## No update begins without a partition -/

theorem handleStart_idle (ota : Ota σ) (config : OtaConfig)
    (lib : UpdateLibrary σ Byte) (payload : List Byte) (ms : ℕ)
    (hidle : ota.manager.state = .idle) :
    (ota.handleStart config lib payload none ms).ota.manager.state = .idle ∧
      (ota.handleStart config lib payload none ms).ota.restarted =
        ota.restarted := by
  unfold Ota.handleStart
  dsimp only
  rw [if_neg (by simp [hidle])]
  split_ifs
  · exact ⟨hidle, rfl⟩
  · exact ⟨hidle, rfl⟩
  · exact ⟨hidle, rfl⟩
  · exact ⟨hidle, rfl⟩

theorem handleOtaStart (hquiet : Quiet r.toProtocolDevice)
    (ota : OtaConfig) (lib : UpdateLibrary σ Byte) (seqNum : ℕ)
    (payload : List Byte) :
    Quiet (r.handleOtaStart .historyBusy ota lib seqNum
      payload).toProtocolDevice := by
  obtain ⟨hidle, hkept⟩ := handleStart_idle r.ota ota lib payload
    MessageEnv.historyBusy.now hquiet.idle
  apply answerOta
  apply afterOta hquiet
  · exact hidle
  · rw [← hquiet.kept]
    exact hkept

theorem handleOtaData (hquiet : Quiet r.toProtocolDevice)
    (env : MessageEnv) (lib : UpdateLibrary σ Byte) (seqNum : ℕ)
    (payload : List Byte) :
    Quiet (r.handleOtaData env lib seqNum payload).toProtocolDevice := by
  have hidle : r.ota.manager.state ≠ .receiving := by
    rw [hquiet.idle]
    decide
  unfold Reaction.handleOtaData
  split
  · apply afterOta hquiet env
    · unfold Ota.handleData
      rw [if_pos hidle]
      exact hquiet.idle
    · unfold Ota.handleData
      rw [if_pos hidle]
      exact hquiet.kept
  · exact hquiet.sendMessage env _ _

theorem handleOtaCommit (hquiet : Quiet r.toProtocolDevice)
    (env : MessageEnv) (lib : UpdateLibrary σ Byte) (seqNum : ℕ) :
    Quiet (r.handleOtaCommit env lib seqNum).toProtocolDevice := by
  have hidle : r.ota.manager.state ≠ .receiving := by
    rw [hquiet.idle]
    decide
  unfold Reaction.handleOtaCommit
  apply answerOta
  apply afterOta hquiet env
  · unfold Ota.handleCommit
    rw [if_pos hidle]
    exact hquiet.idle
  · unfold Ota.handleCommit
    rw [if_pos hidle]
    exact hquiet.kept

theorem handleOtaAbort (hquiet : Quiet r.toProtocolDevice)
    (env : MessageEnv) (lib : UpdateLibrary σ Byte) (seqNum : ℕ) :
    Quiet (r.handleOtaAbort env lib seqNum).toProtocolDevice := by
  have habort : r.ota.handleAbort lib = ⟨r.ota, true, []⟩ :=
    if_pos hquiet.idle
  unfold Reaction.handleOtaAbort
  rw [habort]
  exact (hquiet.afterOta env hquiet.idle hquiet.kept).sendMessage env _ _

/-! ## A whole message -/

theorem dispatchMessage (hquiet : Quiet r.toProtocolDevice)
    (ota : OtaConfig) (lib : UpdateLibrary σ Byte)
    (message : ReceivedMessage)
    (hother : MessageType.ofCode message.msgType ≠ some .enterOtaMode) :
    ∃ after, r.dispatchMessage .historyBusy ota lib message = some after ∧
      Quiet after.toProtocolDevice := by
  have hstart : Quiet (if Reaction.isActivityMessage message.msgType then
      r.call .activityDetected else r).toProtocolDevice := by
    split
    · exact hquiet.of_same rfl rfl
    · exact hquiet
  unfold Reaction.dispatchMessage
  dsimp only
  generalize (if Reaction.isActivityMessage message.msgType then
    r.call .activityDetected else r) = first at hstart ⊢
  split
  · exact ⟨_, rfl, hstart.handleHello _ ota _ _⟩
  · exact hstart.handleAck _
  · refine ⟨_, rfl, ?_⟩
    unfold Reaction.handleNack
    split
    · exact hstart.of_same rfl rfl
    · exact hstart
  · exact ⟨_, rfl, hstart⟩
  · exact ⟨_, rfl, hstart.of_same rfl rfl⟩
  · exact hstart.handleSyncRequest _ _
  · exact hstart.handleTimeSync _ _
  · exact ⟨_, rfl, hstart.of_same rfl rfl⟩
  · exact ⟨_, rfl, hstart.handleSetConfig _ _ _⟩
  · exact ⟨_, rfl, hstart.of_same rfl rfl⟩
  · exact ⟨_, rfl, hstart.of_same rfl rfl⟩
  · exact ⟨_, rfl, hstart.of_same rfl rfl⟩
  · exact ⟨_, rfl, hstart.handleOtaStart ota lib _ _⟩
  · exact ⟨_, rfl, hstart.handleOtaData _ lib _ _⟩
  · exact ⟨_, rfl, hstart.handleOtaCommit _ lib _⟩
  · exact ⟨_, rfl, hstart.handleOtaAbort _ lib _⟩
  next henter => exact absurd henter hother
  · exact ⟨_, rfl, hstart.of_same rfl rfl⟩
  · exact ⟨_, rfl, hstart.of_same rfl rfl⟩
  · exact ⟨_, rfl, hstart.of_same rfl rfl⟩
  · exact ⟨_, rfl, hstart.of_same rfl rfl⟩

theorem processReceived (hquiet : Quiet r.toProtocolDevice)
    (ota : OtaConfig) (lib : UpdateLibrary σ Byte) (data : List Byte)
    (hother : (SessionInput.receive data).messageType ≠
      some .enterOtaMode) :
    ∃ after, r.processReceived .historyBusy ota lib data = some after ∧
      Quiet after.toProtocolDevice := by
  unfold Reaction.processReceived
  split
  · exact ⟨r, rfl, hquiet⟩
  · cases hparse : parseFrame data with
    | none =>
        dsimp only
        cases frameSeqNum data with
        | none => exact ⟨_, rfl, hquiet.of_same rfl rfl⟩
        | some seqNum => exact ⟨_, rfl, hquiet.of_same rfl rfl⟩
    | some message =>
        have hcounted : Quiet (r.withHandler (r.handler.countReceived
            MessageEnv.historyBusy.countLocked)).toProtocolDevice :=
          hquiet.of_same rfl rfl
        apply hcounted.dispatchMessage ota lib message
        intro henter
        apply hother
        have hmessage : (SessionInput.receive data).message = some message :=
          hparse
        unfold SessionInput.messageType
        rw [hmessage]
        exact henter

end Quiet

/-! ## Where every frame goes out -/

/-- Each reply went out as a frame of its type. -/
structure Delivered (r : Reaction cfg σ) : Prop where
  initialized : r.handler.initialized = true
  types : r.frames.map frameType =
    r.replies.map fun reply => some reply.type.code

namespace Delivered

variable {r : Reaction cfg σ}

theorem sendMessage (hdelivered : Delivered r) (type : MessageType)
    {payload : List Byte}
    (hlength : payload.length ≤ Protocol.maxPayloadSize) :
    Delivered (r.sendMessage .historyBusy type payload) := by
  have hframe : ∃ frame,
      buildFrame type payload r.handler.txSeqNum = some frame := by
    unfold buildFrame
    rw [if_neg (not_lt.mpr hlength)]
    exact ⟨_, rfl⟩
  obtain ⟨frame, hframe⟩ := hframe
  have hready : SendEnv.good.link.ready = true := rfl
  have hsend : r.handler.sendMessage SendEnv.good.connected
      SendEnv.good.link SendEnv.good.locked SendEnv.good.now type payload
        false = r.handler.takeSeqNum.notify SendEnv.good.link
          r.handler.txSeqNum frame none := by
    unfold ProtocolHandler.sendMessage
    rw [if_pos (by rw [hdelivered.initialized]; rfl)]
    dsimp only
    rw [hframe]
    rfl
  unfold ProtocolHandler.notify at hsend
  rw [if_pos hready] at hsend
  have hafter : r.sendMessage .historyBusy type payload =
      r.afterSend type payload (r.handler.sendMessage SendEnv.good.connected
        SendEnv.good.link SendEnv.good.locked SendEnv.good.now type payload
          false) := rfl
  rw [hafter, hsend]
  refine ⟨hdelivered.initialized, ?_⟩
  have htypes := hdelivered.types
  unfold Reaction.frames at htypes ⊢
  simp only [Reaction.afterSend, List.filterMap_append, List.map_append,
    htypes, List.filterMap_cons, List.filterMap_nil, if_true, List.map_cons,
    List.map_nil, frameType_buildFrame hframe]

theorem sendAck (hdelivered : Delivered r) (seqNum : ℕ) :
    Delivered (r.sendAck .historyBusy seqNum) :=
  hdelivered.sendMessage .ack (by simp [be16Bytes, Protocol.maxPayloadSize])

theorem sendNack (hdelivered : Delivered r) (seqNum : ℕ)
    (error : ErrorCode) :
    Delivered (r.sendNack .historyBusy seqNum error) :=
  hdelivered.sendMessage .nack (by simp [be16Bytes, Protocol.maxPayloadSize])

theorem of_same {r' : Reaction cfg σ} (hdelivered : Delivered r)
    (hinitialized : r'.handler.initialized = r.handler.initialized)
    (hreplies : r'.replies = r.replies) : Delivered r' := by
  refine ⟨?_, ?_⟩
  · rw [hinitialized, hdelivered.initialized]
  · have htypes := hdelivered.types
    unfold Reaction.frames at htypes ⊢
    rw [hreplies, htypes]

theorem configSet (hdelivered : Delivered r) (seqNum : ℕ) :
    Delivered (r.configSet .historyBusy seqNum) := by
  have hnoted : Delivered
      (r.withHandler (r.handler.noteConfigSeq seqNum)) :=
    hdelivered.of_same rfl rfl
  exact (hnoted.sendAck seqNum).sendMessage .configData
    (by simp [length_leBytes, Protocol.maxPayloadSize])

theorem handleSetConfig (hdelivered : Delivered r) (seqNum : ℕ)
    (payload : List Byte) :
    Delivered (r.handleSetConfig .historyBusy seqNum payload) := by
  unfold Reaction.handleSetConfig
  split
  · exact hdelivered.sendAck seqNum
  · split
    · unfold Reaction.applySetting
      dsimp only
      split
      · split
        · apply sendNack
          exact hdelivered.of_same rfl rfl
        · apply configSet
          exact hdelivered.of_same rfl rfl
      · split
        · apply configSet
          exact hdelivered.of_same rfl rfl
        · exact hdelivered.sendNack seqNum _
    · exact hdelivered.sendNack seqNum _

/-- A stale packet is answered by an ACK alone, any other by a NACK or by two
frames. -/
theorem frames_differ {left right : Reaction cfg σ} (hleft : Delivered left)
    (hright : Delivered right) (hnoLeft : left.replies = [])
    (hnoRight : right.replies = []) {seqNum : ℕ}
    (hstale : seqStale left.handler.configNumber seqNum = true)
    (hfresh : seqStale right.handler.configNumber seqNum = false)
    (payload : List Byte) :
    (left.handleSetConfig .historyBusy seqNum payload).frames ≠
      (right.handleSetConfig .historyBusy seqNum payload).frames := by
  intro hsame
  have htypes := congrArg (List.map frameType) hsame
  rw [(hleft.handleSetConfig seqNum payload).types,
    (hright.handleSetConfig seqNum payload).types,
    Reaction.handleSetConfig_stale hstale] at htypes
  obtain ⟨ack, hack, hreplies⟩ := Reaction.replies_sendMessage .historyBusy
    left .ack (be16Bytes seqNum)
  unfold Reaction.sendAck at htypes
  rw [hreplies, hnoLeft, List.nil_append] at htypes
  cases hrefused : refusedPayload payload with
  | true =>
      have hrefuses : right.RefusesSetting
          (right.handleSetConfig .historyBusy seqNum payload) :=
        Reaction.handleSetConfig_refused hfresh hrefused
      obtain ⟨nack, hnack, hnacks⟩ := hrefuses.replies
      rw [hnacks, hnoRight, List.nil_append] at htypes
      have htype := (List.cons.inj htypes).1
      dsimp only at htype
      rw [hack, hnack] at htype
      exact absurd htype (by decide)
  | false =>
      obtain ⟨configId, value, hbytes, hvalid⟩ :=
        settingBytes_of_accepted hrefused
      have htakes : right.TakesSetting .historyBusy seqNum configId value
          (right.handleSetConfig .historyBusy seqNum payload) :=
        Reaction.handleSetConfig_taken hfresh hbytes hvalid
      obtain ⟨first, second, -, -, htwo⟩ := htakes.replies
      rw [htwo, hnoRight, List.nil_append] at htypes
      cases (List.cons.inj htypes).2

end Delivered

end SensorFirmware
