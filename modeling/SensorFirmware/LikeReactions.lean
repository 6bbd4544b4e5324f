import SensorFirmware.LikeHandlers

/-!
# Reactions of like handlers

Two devices that differ in like handlers react alike to every message, and
still differ in like handlers afterwards.
-/

namespace SensorFirmware

variable {cfg : HistoryConfig} {σ : Type}

/-- Two reactions that differ in alike handlers only. -/
def Paired (last last' : Option ℕ) (left right : Reaction cfg σ) : Prop :=
  ∃ handler, right = left.withHandler handler ∧
    Alike last last' left.handler handler

namespace Paired

variable {last last' : Option ℕ} {left right : Reaction cfg σ}
  (env : MessageEnv)

theorem withHandler (hpaired : Paired last last' left right)
    {first second : Option ℕ} {handler handler' : ProtocolHandler}
    (halike : Alike first second handler handler') :
    Paired first second (left.withHandler handler)
      (right.withHandler handler') := by
  obtain ⟨old, rfl, -⟩ := hpaired
  exact ⟨handler', rfl, halike⟩

theorem call (hpaired : Paired last last' left right) (call : DeviceCall) :
    Paired last last' (left.call call) (right.call call) := by
  obtain ⟨handler, rfl, halike⟩ := hpaired
  exact ⟨handler, rfl, halike⟩

theorem afterSend (hpaired : Paired last last' left right)
    {outcome outcome' : SendOutcome}
    (hsame : AlikeOutcomes last last' outcome outcome')
    (type : MessageType) (payload : List Byte) :
    Paired last last' (left.afterSend type payload outcome)
      (right.afterSend type payload outcome') := by
  obtain ⟨handler, rfl, -⟩ := hpaired
  refine ⟨outcome'.handler, ?_, hsame.handler⟩
  unfold Reaction.afterSend Reaction.withHandler
  rw [hsame.frame, hsame.sent]

theorem sendMessage (hpaired : Paired last last' left right)
    (type : MessageType) (payload : List Byte) :
    Paired last last' (left.sendMessage env type payload)
      (right.sendMessage env type payload) := by
  have hsame := hpaired
  obtain ⟨handler, rfl, halike⟩ := hsame
  exact hpaired.afterSend (halike.sendMessage _ _ _ _ type payload false)
    type payload

theorem sendAck (hpaired : Paired last last' left right) (seqNum : ℕ) :
    Paired last last' (left.sendAck env seqNum)
      (right.sendAck env seqNum) :=
  hpaired.sendMessage env _ _

theorem sendNack (hpaired : Paired last last' left right) (seqNum : ℕ)
    (error : ErrorCode) :
    Paired last last' (left.sendNack env seqNum error)
      (right.sendNack env seqNum error) :=
  hpaired.sendMessage env _ _

theorem sendAll (hpaired : Paired last last' left right)
    (replies : List OtaReply) :
    Paired last last' (left.sendAll env replies)
      (right.sendAll env replies) := by
  induction replies generalizing left right with
  | nil => exact hpaired
  | cons reply rest ih =>
      exact ih (hpaired.sendMessage env reply.type reply.payload)

/-- The payload depends on the services, which are the same. -/
theorem sendConfigData (hpaired : Paired last last' left right) :
    Paired last last' (left.sendConfigData env)
      (right.sendConfigData env) := by
  have hsame := hpaired
  obtain ⟨handler, rfl, -⟩ := hsame
  exact hpaired.sendMessage env _ _

theorem sendHelloAck (ota : OtaConfig)
    (hpaired : Paired last last' left right) :
    Paired last last' (left.sendHelloAck env ota)
      (right.sendHelloAck env ota) := by
  have hsame := hpaired
  obtain ⟨handler, rfl, -⟩ := hsame
  exact hpaired.sendMessage env _ _

theorem fastForward (hpaired : Paired last last' left right) (newId : ℕ) :
    Paired last last' (left.fastForward env newId)
      (right.fastForward env newId) := by
  obtain ⟨handler, rfl, halike⟩ := hpaired
  refine ⟨handler, ?_, ?_⟩
  · unfold Reaction.fastForward Reaction.withHandler
    dsimp only
    split <;> rfl
  · unfold Reaction.fastForward
    dsimp only
    split <;> exact halike

theorem handleHello (ota : OtaConfig)
    (hpaired : Paired last last' left right) (seqNum : ℕ)
    (payload : List Byte) :
    Paired last last' (left.handleHello env ota seqNum payload)
      (right.handleHello env ota seqNum payload) := by
  have hcounter : right.history.state.globalEventId =
      left.history.state.globalEventId := by
    obtain ⟨handler, rfl, -⟩ := hpaired
    rfl
  unfold Reaction.handleHello
  rw [hcounter]
  dsimp only
  split
  next appLastEventId hid =>
    by_cases hnew : left.history.state.globalEventId < appLastEventId
    · rw [if_pos hnew, if_pos hnew]
      exact ((hpaired.fastForward env appLastEventId).sendHelloAck env
        ota).sendAck env seqNum
    · rw [if_neg hnew, if_neg hnew]
      exact (hpaired.sendHelloAck env ota).sendAck env seqNum
  next hid => exact (hpaired.sendHelloAck env ota).sendAck env seqNum

theorem handleAck (hpaired : Paired last last' left right)
    (payload : List Byte) :
    Option.Rel (Paired last last') (left.handleAck env payload)
      (right.handleAck env payload) := by
  obtain ⟨handler, rfl, halike⟩ := hpaired
  unfold Reaction.handleAck
  split
  next high low rest =>
    obtain ⟨hvalid, hfound⟩ := halike.validateAckSecurity
      env.validateLocked env.now (be16 high low)
    dsimp only [Reaction.withHandler]
    rw [hfound]
    split
    · exact .some ⟨_, rfl, hvalid⟩
    · obtain ⟨hlooked, hslot⟩ := hvalid.lookupAck env.lookupLocked
        (be16 high low)
      rw [hslot]
      split
      · exact .some ⟨_, rfl, hlooked⟩
      next i eventId hsome =>
        cases left.history.markAsSynced env.historyLocked eventId with
        | none => exact .none
        | some marked =>
            exact .some ⟨_, rfl, hlooked.confirmAck env.confirmLocked i
              (be16 high low)⟩
  · exact .some ⟨handler, rfl, halike⟩

theorem handleNack (hpaired : Paired last last' left right)
    (payload : List Byte) :
    Paired last last' (left.handleNack env payload)
      (right.handleNack env payload) := by
  have hsame := hpaired
  obtain ⟨handler, rfl, halike⟩ := hsame
  unfold Reaction.handleNack
  split
  next high low _ _ =>
    exact hpaired.withHandler (halike.handleNack env.clearLocked
      (be16 high low))
  · exact hpaired

theorem handlePing (hpaired : Paired last last' left right) (seqNum : ℕ) :
    Paired last last' (left.handlePing env seqNum)
      (right.handlePing env seqNum) :=
  (hpaired.sendMessage env .pong []).sendAck env seqNum

theorem syncEvents (hpaired : Paired last last' left right)
    (turns since : ℕ) :
    Option.Rel (Paired last last')
      (left.syncEvents env (fun _ handler => handler) turns since)
      (right.syncEvents env (fun _ handler => handler) turns since) := by
  induction turns generalizing left right since with
  | zero => exact .some hpaired
  | succ turns ih =>
      have hsame := hpaired
      obtain ⟨handler, rfl, halike⟩ := hsame
      unfold Reaction.syncEvents
      dsimp only [Reaction.withHandler]
      cases left.history.getEventsSince (env.eventsLocked turns) since
        1 with
      | none => exact .none
      | some result =>
          rw [Option.bind_some, Option.bind_some]
          split
          next event rest =>
            let here := env.send left.replies.length
            have houtcomes : AlikeOutcomes last last'
                (left.handler.sendDetectionEvent here.connected here.link
                  here.locked here.now event true)
                (handler.sendDetectionEvent here.connected here.link
                  here.locked here.now event true) :=
              halike.sendMessage _ _ _ _ _ _ _
            have hsent := houtcomes.sent
            have hafter := hpaired.afterSend houtcomes .detectionEvent
              event.toBytes
            rw [← hsent]
            split
            · exact ih hafter event.id
            · exact .some hafter
          · exact .some hpaired

theorem handleSyncRequest (hpaired : Paired last last' left right)
    (seqNum : ℕ) (payload : List Byte) :
    Option.Rel (Paired last last')
      (left.handleSyncRequest env (fun _ handler => handler) seqNum payload)
      (right.handleSyncRequest env (fun _ handler => handler) seqNum
        payload) := by
  unfold Reaction.handleSyncRequest
  split
  · exact .some (hpaired.sendNack env seqNum _)
  next since hsince =>
    have hevents := hpaired.syncEvents env 10 since
    generalize left.syncEvents env (fun _ handler => handler) 10 since =
      first at hevents ⊢
    generalize right.syncEvents env (fun _ handler => handler) 10 since =
      second at hevents ⊢
    cases hevents with
    | none => exact .none
    | some hdone => exact .some (hdone.sendAck env seqNum)

theorem handleTimeSync (hpaired : Paired last last' left right)
    (seqNum : ℕ) (payload : List Byte) :
    Option.Rel (Paired last last') (left.handleTimeSync env seqNum payload)
      (right.handleTimeSync env seqNum payload) := by
  unfold Reaction.handleTimeSync
  split
  · exact .some (hpaired.sendNack env seqNum _)
  · obtain ⟨handler, rfl, halike⟩ := hpaired
    dsimp only [Reaction.withHandler]
    cases left.history.applyTimeSync env.historyLocked env.now
        (bytesAt payload 0 4) with
    | none => exact .none
    | some synced =>
        have hsynced : Paired last last'
            { left with
              history := synced.1
              config := left.config.updateLastKnownEpoch env.configLocked
                (bytesAt payload 0 4)
              calls := left.calls ++ synced.2.toList.map
                DeviceCall.setClock }
            { left.withHandler handler with
              history := synced.1
              config := left.config.updateLastKnownEpoch env.configLocked
                (bytesAt payload 0 4)
              calls := left.calls ++ synced.2.toList.map
                DeviceCall.setClock } :=
          ⟨handler, rfl, halike⟩
        exact .some ((hsynced.call _).sendAck env seqNum)

theorem handleCalibrate (hpaired : Paired last last' left right)
    (seqNum : ℕ) :
    Paired last last' (left.handleCalibrate env seqNum)
      (right.handleCalibrate env seqNum) := by
  unfold Reaction.handleCalibrate
  dsimp only
  split
  · exact ((hpaired.call _).sendMessage env _ _).sendAck env seqNum
  · exact hpaired.sendAck env seqNum

theorem handleGetConfig (hpaired : Paired last last' left right)
    (seqNum : ℕ) :
    Paired last last' (left.handleGetConfig env seqNum)
      (right.handleGetConfig env seqNum) :=
  (hpaired.sendAck env seqNum).sendConfigData env

theorem handleSleepCommand (hpaired : Paired last last' left right)
    (seqNum : ℕ) :
    Paired last last' (left.handleSleepCommand env seqNum)
      (right.handleSleepCommand env seqNum) :=
  (hpaired.sendAck env seqNum).call _

theorem handlePairingMode (hpaired : Paired last last' left right)
    (seqNum : ℕ) :
    Paired last last' (left.handlePairingMode env seqNum)
      (right.handlePairingMode env seqNum) :=
  (hpaired.call _).sendAck env seqNum

theorem handleClearBonds (hpaired : Paired last last' left right)
    (seqNum : ℕ) :
    Paired last last' (left.handleClearBonds env seqNum)
      (right.handleClearBonds env seqNum) :=
  ((hpaired.call _).call _).sendAck env seqNum

/-! ## The update manager -/

theorem afterOta (hpaired : Paired last last' left right)
    (result : OtaResult σ) :
    Paired last last' (left.afterOta env result)
      (right.afterOta env result) := by
  obtain ⟨handler, rfl, halike⟩ := hpaired
  apply sendAll env
  exact ⟨handler, rfl, halike⟩

theorem answerOta (hpaired : Paired last last' left right) (seqNum : ℕ)
    (ok : Bool) :
    Paired last last' (left.answerOta env seqNum ok)
      (right.answerOta env seqNum ok) := by
  have hrestarting : right.restarting = left.restarting := by
    obtain ⟨handler, rfl, -⟩ := hpaired
    rfl
  unfold Reaction.answerOta
  rw [hrestarting]
  split
  · exact hpaired
  · split
    · exact hpaired.sendAck env seqNum
    · exact hpaired.sendNack env seqNum _

variable (ota : OtaConfig) (lib : UpdateLibrary σ Byte)

theorem handleOtaStart (hpaired : Paired last last' left right)
    (seqNum : ℕ) (payload : List Byte) :
    Paired last last' (left.handleOtaStart env ota lib seqNum payload)
      (right.handleOtaStart env ota lib seqNum payload) := by
  have hsame := hpaired
  obtain ⟨handler, rfl, -⟩ := hsame
  exact (hpaired.afterOta env _).answerOta env seqNum _

theorem handleOtaData (hpaired : Paired last last' left right)
    (seqNum : ℕ) (payload : List Byte) :
    Paired last last' (left.handleOtaData env lib seqNum payload)
      (right.handleOtaData env lib seqNum payload) := by
  have hsame := hpaired
  obtain ⟨handler, rfl, -⟩ := hsame
  unfold Reaction.handleOtaData
  split
  · exact hpaired.afterOta env _
  · exact hpaired.sendNack env seqNum _

theorem handleOtaCommit (hpaired : Paired last last' left right)
    (seqNum : ℕ) :
    Paired last last' (left.handleOtaCommit env lib seqNum)
      (right.handleOtaCommit env lib seqNum) := by
  have hsame := hpaired
  obtain ⟨handler, rfl, -⟩ := hsame
  exact (hpaired.afterOta env _).answerOta env seqNum _

theorem handleOtaAbort (hpaired : Paired last last' left right)
    (seqNum : ℕ) :
    Paired last last' (left.handleOtaAbort env lib seqNum)
      (right.handleOtaAbort env lib seqNum) := by
  have hsame := hpaired
  obtain ⟨handler, rfl, -⟩ := hsame
  exact (hpaired.afterOta env _).sendAck env seqNum

theorem handleEnterOtaMode (hpaired : Paired last last' left right)
    (seqNum : ℕ) :
    Paired last last' (left.handleEnterOtaMode env seqNum)
      (right.handleEnterOtaMode env seqNum) := by
  have hcalled := (hpaired.sendAck env seqNum).call .rebootIntoFlasher
  obtain ⟨handler, hsame, halike⟩ := hcalled
  unfold Reaction.handleEnterOtaMode
  rw [hsame]
  exact ⟨handler, rfl, halike⟩

end Paired

/-! ## Settings -/

/-- The number of the last SET_CONFIG after one more. -/
def nextNumber (last : Option ℕ) (seqNum : ℕ) (payload : List Byte) :
    Option ℕ :=
  if seqStale last seqNum || refusedPayload payload then last
  else some seqNum

namespace Paired

variable {last last' : Option ℕ} {left right : Reaction cfg σ}
  (env : MessageEnv)

theorem configSet (hpaired : Paired last last' left right) (seqNum : ℕ) :
    Paired (some seqNum) (some seqNum) (left.configSet env seqNum)
      (right.configSet env seqNum) := by
  have hsame := hpaired
  obtain ⟨handler, rfl, halike⟩ := hsame
  have hnoted := hpaired.withHandler (halike.noteConfigSeq seqNum)
  exact (hnoted.sendAck env seqNum).sendConfigData env

theorem applySetting (hpaired : Paired last last' left right) (seqNum : ℕ)
    (configId value : Byte) :
    Paired (if validSetting configId value then some seqNum else last)
      (if validSetting configId value then some seqNum else last')
      (left.applySetting env seqNum configId value)
      (right.applySetting env seqNum configId value) := by
  unfold Reaction.applySetting validSetting
  by_cases hsensitivity : configId = ConfigId.sensitivity
  · rw [if_pos hsensitivity, if_pos hsensitivity]
    have hcalled := hpaired.call (.suppressDetections 500)
    have hother : (ConfigId.sensitivity == ConfigId.ledBrightness) = false :=
      rfl
    dsimp only
    by_cases hvalue : 100 < value.toNat
    · rw [if_pos hvalue, if_pos hvalue]
      simp only [hsensitivity, hother, not_le.mpr hvalue, decide_false,
        Bool.and_false, Bool.or_false, Bool.false_eq_true, if_false]
      exact hcalled.sendNack env seqNum _
    · rw [if_neg hvalue, if_neg hvalue]
      simp only [hsensitivity, not_lt.mp hvalue, BEq.rfl, decide_true,
        Bool.and_true, Bool.true_or, if_true]
      obtain ⟨handler, hsame, halike⟩ := hcalled
      rw [hsame]
      apply configSet env
      exact ⟨handler, rfl, halike⟩
  · rw [if_neg hsensitivity, if_neg hsensitivity]
    by_cases hled : configId = ConfigId.ledBrightness
    · rw [if_pos hled, if_pos hled]
      simp only [hled, BEq.rfl, Bool.or_true, if_true]
      obtain ⟨handler, hsame, halike⟩ := hpaired
      rw [hsame]
      apply configSet env
      exact ⟨handler, rfl, halike⟩
    · rw [if_neg hled, if_neg hled]
      simp only [hsensitivity, hled, beq_eq_false_iff_ne.mpr, ne_eq,
        not_false_eq_true, Bool.false_and, Bool.or_false,
        Bool.false_eq_true, if_false]
      exact hpaired.sendNack env seqNum _

theorem handleSetConfig (hpaired : Paired last last' left right)
    (seqNum : ℕ) (payload : List Byte)
    (hsame : seqStale last seqNum = seqStale last' seqNum) :
    Paired (nextNumber last seqNum payload) (nextNumber last' seqNum payload)
      (left.handleSetConfig env seqNum payload)
      (right.handleSetConfig env seqNum payload) := by
  have hleft : left.handler.configNumber = last := by
    obtain ⟨handler, -, halike⟩ := hpaired
    exact halike.leftNumber
  have hright : right.handler.configNumber = last' := by
    obtain ⟨handler, rfl, halike⟩ := hpaired
    exact halike.rightNumber
  unfold Reaction.handleSetConfig nextNumber
  rw [hleft, hright, ← hsame]
  cases hstale : seqStale last seqNum with
  | true =>
      simp only [Bool.true_or, if_true]
      exact hpaired.sendAck env seqNum
  | false =>
      simp only [Bool.false_or]
      rcases payload with
        _ | ⟨configId, _ | ⟨value, _ | ⟨third, _ | ⟨fourth, rest⟩⟩⟩⟩
      case cons.cons.cons.cons =>
        have happlied := hpaired.applySetting env seqNum configId value
        cases hvalid : validSetting configId value with
        | true =>
            simpa [refusedPayload, settingBytes, hvalid] using happlied
        | false =>
            simpa [refusedPayload, settingBytes, hvalid] using happlied
      all_goals exact hpaired.sendNack env seqNum _

/-! ## Dispatch -/

variable (ota : OtaConfig) (lib : UpdateLibrary σ Byte)

theorem startActivity (hpaired : Paired last last' left right)
    (msgType : Byte) :
    Paired last last'
      (if Reaction.isActivityMessage msgType then
        left.call .activityDetected else left)
      (if Reaction.isActivityMessage msgType then
        right.call .activityDetected else right) := by
  split
  · exact hpaired.call _
  · exact hpaired

theorem dispatchMessage (hpaired : Paired last last' left right)
    (message : ReceivedMessage)
    (hother : MessageType.ofCode message.msgType ≠ some .setConfig) :
    Option.Rel (Paired last last')
      (left.dispatchMessage env ota lib message)
      (right.dispatchMessage env ota lib message) := by
  have hstart := hpaired.startActivity message.msgType
  unfold Reaction.dispatchMessage
  dsimp only
  generalize (if Reaction.isActivityMessage message.msgType then
    left.call .activityDetected else left) = first at hstart ⊢
  generalize (if Reaction.isActivityMessage message.msgType then
    right.call .activityDetected else right) = second at hstart ⊢
  split
  · exact .some (hstart.handleHello env ota _ _)
  · exact hstart.handleAck env _
  · exact .some (hstart.handleNack env _)
  · exact .some hstart
  · exact .some (hstart.handlePing env _)
  · exact hstart.handleSyncRequest env _ _
  · exact hstart.handleTimeSync env _ _
  · exact .some (hstart.handleCalibrate env _)
  next hset => exact absurd hset hother
  · exact .some (hstart.handleGetConfig env _)
  · exact .some (hstart.handleSleepCommand env _)
  · exact .some ((hstart.sendMessage env _ _).sendAck env _)
  · exact .some (hstart.handleOtaStart env ota lib _ _)
  · exact .some (hstart.handleOtaData env lib _ _)
  · exact .some (hstart.handleOtaCommit env lib _)
  · exact .some (hstart.handleOtaAbort env lib _)
  · exact .some (hstart.handleEnterOtaMode env _)
  · exact .some (hstart.handlePairingMode env _)
  · exact .some (hstart.handleClearBonds env _)
  · exact .some (hstart.sendAck env _)
  · exact .some (hstart.sendNack env _ _)

theorem initialized (hpaired : Paired last last' left right) :
    left.handler.initialized = true ∧ right.handler.initialized = true := by
  obtain ⟨handler, rfl, halike⟩ := hpaired
  exact ⟨halike.initialized, halike.initialized'⟩

theorem countError (hpaired : Paired last last' left right) :
    Paired last last' (left.withHandler left.handler.countError)
      (right.withHandler right.handler.countError) := by
  have hsame := hpaired
  obtain ⟨handler, rfl, halike⟩ := hsame
  exact hpaired.withHandler halike.countError

theorem countReceived (hpaired : Paired last last' left right)
    (locked : Bool) :
    Paired last last' (left.withHandler (left.handler.countReceived locked))
      (right.withHandler (right.handler.countReceived locked)) := by
  have hsame := hpaired
  obtain ⟨handler, rfl, halike⟩ := hsame
  exact hpaired.withHandler (halike.countReceived locked)

end Paired

end SensorFirmware
