import SensorFirmware.ProtocolDispatch

/-!
# Setting a configuration value

What `handleSetConfig` does with one packet, in terms of the number of the last
packet that was not stale and of the addressed setting.
-/

namespace SensorFirmware

variable {cfg : HistoryConfig} {σ : Type}

def UserConfig.setting (config : UserConfig) (configId : Byte) : Option ℕ :=
  if configId = ConfigId.sensitivity then some config.sensitivity
  else if configId = ConfigId.ledBrightness then some config.ledBrightness
  else none

/-- A value that `handleSetConfig` accepts for the setting. -/
def validSetting (configId value : Byte) : Bool :=
  (configId == ConfigId.sensitivity && decide (value.toNat ≤ 100)) ||
    configId == ConfigId.ledBrightness

/-! ## Sends -/

namespace ProtocolHandler

@[simp] theorem configNumber_clearPendingLocked (handler : ProtocolHandler)
    (seqNum : ℕ) :
    (handler.clearPendingLocked seqNum).configNumber =
      handler.configNumber := by
  unfold clearPendingLocked
  split <;> rfl

@[simp] theorem configNumber_notify (handler : ProtocolHandler)
    (link : BleLink) (seqNum : ℕ) (frame : List Byte)
    (tracked : Option SlotIndex) :
    (handler.notify link seqNum frame tracked).handler.configNumber =
      handler.configNumber := by
  unfold notify
  split
  · rfl
  · exact configNumber_clearPendingLocked handler seqNum

@[simp] theorem configNumber_sendMessage (handler : ProtocolHandler)
    (connected : Bool) (link : BleLink) (locked : Bool) (now : ℕ)
    (type : MessageType) (payload : List Byte) (requireAck : Bool) :
    (handler.sendMessage connected link locked now type payload
      requireAck).handler.configNumber = handler.configNumber := by
  unfold sendMessage
  split
  · dsimp only
    split
    · rfl
    · split
      · split
        · rfl
        next tracking i htrack =>
          obtain ⟨j, -, hslot⟩ := Option.map_eq_some_iff.mp htrack
          cases hslot
          rw [configNumber_notify]
          rfl
      · rw [configNumber_notify]
        rfl
  · rfl

end ProtocolHandler

namespace Reaction

variable (env : MessageEnv) (r : Reaction cfg σ)

@[simp] theorem configNumber_sendMessage (type : MessageType)
    (payload : List Byte) :
    (r.sendMessage env type payload).handler.configNumber =
      r.handler.configNumber :=
  ProtocolHandler.configNumber_sendMessage _ _ _ _ _ _ _ _

theorem replies_sendMessage (type : MessageType) (payload : List Byte) :
    ∃ reply : Reply, reply.type = type ∧
      (r.sendMessage env type payload).replies = r.replies ++ [reply] :=
  ⟨_, rfl, rfl⟩

end Reaction

/-! ## Setters -/

namespace ConfigService

theorem setting_setSensitivity (service : ConfigService) (locked : Bool)
    {value : ℕ} (hvalue : value ≤ 100) :
    (service.setSensitivity locked value).1.config.sensitivity =
        (if locked then value else service.config.sensitivity) ∧
      (service.setSensitivity locked value).1.config.ledBrightness =
        service.config.ledBrightness := by
  have hvalid : validateSensitivity value = value :=
    if_neg (not_lt.mpr hvalue)
  unfold setSensitivity
  rw [hvalid]
  cases locked with
  | false => exact ⟨rfl, rfl⟩
  | true =>
      by_cases hsame : service.config.sensitivity = value
      · simp [hsame]
      · simp [hsame]

theorem setting_setLedBrightness (service : ConfigService) (locked : Bool)
    (value : ℕ) :
    (service.setLedBrightness locked value).config.ledBrightness =
        (if locked then value else service.config.ledBrightness) ∧
      (service.setLedBrightness locked value).config.sensitivity =
        service.config.sensitivity := by
  unfold setLedBrightness
  cases locked with
  | false => exact ⟨rfl, rfl⟩
  | true =>
      by_cases hsame : service.config.ledBrightness = value
      · simp [hsame]
      · simp [hsame]

end ConfigService

/-! ## The handler -/

/-- The four bytes of `SetConfigPayload` that are looked at. -/
def settingBytes : List Byte → Option (Byte × Byte)
  | configId :: value :: _ :: _ :: _ => some (configId, value)
  | _ => none

/-- A payload that is refused with a NACK. -/
def refusedPayload (payload : List Byte) : Bool :=
  !(settingBytes payload).any fun setting =>
    validSetting setting.1 setting.2

theorem settingBytes_of_accepted {payload : List Byte}
    (haccepted : refusedPayload payload = false) :
    ∃ configId value, settingBytes payload = some (configId, value) ∧
      validSetting configId value = true := by
  unfold refusedPayload at haccepted
  cases hbytes : settingBytes payload with
  | none =>
      rw [hbytes] at haccepted
      cases haccepted
  | some setting =>
      rw [hbytes] at haccepted
      exact ⟨setting.1, setting.2, rfl, by simpa using haccepted⟩

namespace Reaction

variable {env : MessageEnv} {r : Reaction cfg σ} {seqNum : ℕ}
  {payload : List Byte}

theorem handleSetConfig_stale
    (hstale : seqStale r.handler.configNumber seqNum = true) :
    r.handleSetConfig env seqNum payload = r.sendAck env seqNum :=
  if_pos hstale

/-- The settings and the number stay, and the reply is a NACK. -/
structure RefusesSetting (before after : Reaction cfg σ) : Prop where
  config : after.config = before.config
  number : after.handler.configNumber = before.handler.configNumber
  replies : ∃ reply : Reply, reply.type = .nack ∧
    after.replies = before.replies ++ [reply]

theorem refuses_sendNack (env : MessageEnv) (before : Reaction cfg σ)
    (seqNum : ℕ) (error : ErrorCode) :
    RefusesSetting before (before.sendNack env seqNum error) := by
  refine ⟨rfl, ?_, _, rfl, rfl⟩
  exact configNumber_sendMessage env before _ _

theorem handleSetConfig_refused
    (hfresh : seqStale r.handler.configNumber seqNum = false)
    (hrefused : refusedPayload payload = true) :
    RefusesSetting r (r.handleSetConfig env seqNum payload) := by
  unfold handleSetConfig
  rw [if_neg (by simp [hfresh])]
  split
  next configId value _ _ _ =>
    have hinvalid : validSetting configId value = false := by
      simpa [refusedPayload, settingBytes] using hrefused
    unfold validSetting at hinvalid
    unfold applySetting
    by_cases hsensitivity : configId = ConfigId.sensitivity
    · have hvalue : 100 < value.toNat := by
        simp [hsensitivity] at hinvalid
        omega
      rw [if_pos hsensitivity]
      dsimp only
      rw [if_pos hvalue]
      have hnack := refuses_sendNack env (r.call (.suppressDetections 500))
        seqNum .invalidPayload
      exact ⟨hnack.config, hnack.number, hnack.replies⟩
    · have hled : configId ≠ ConfigId.ledBrightness := by
        intro hled
        simp [hled] at hinvalid
      rw [if_neg hsensitivity, if_neg hled]
      exact refuses_sendNack env r seqNum .invalidPayload
  · exact refuses_sendNack env r seqNum .invalidPayload

/-- The number is taken over and answered with an ACK, and the setting is
changed if the mutex was obtained. -/
structure TakesSetting (env : MessageEnv) (seqNum : ℕ)
    (configId value : Byte) (before after : Reaction cfg σ) : Prop where
  number : after.handler.configNumber = some seqNum
  setting : ∀ id, after.config.config.setting id =
    if id = configId ∧ env.configLocked = true then some value.toNat
    else before.config.config.setting id
  replies : ∃ ack data : Reply, ack.type = .ack ∧ data.type = .configData ∧
    after.replies = before.replies ++ [ack, data]

theorem takes_configSet {before : Reaction cfg σ} {configId value : Byte}
    (hsetting : ∀ id, before.config.config.setting id =
      if id = configId ∧ env.configLocked = true then some value.toNat
      else r.config.config.setting id)
    (hreplies : before.replies = r.replies) :
    TakesSetting env seqNum configId value r
      (before.configSet env seqNum) := by
  refine ⟨?_, hsetting, ?_⟩
  · unfold configSet sendConfigData sendAck
    rw [configNumber_sendMessage, configNumber_sendMessage]
    rfl
  · obtain ⟨ack, hack, hfirst⟩ := replies_sendMessage env
      (before.withHandler (before.handler.noteConfigSeq seqNum)) .ack
      (be16Bytes seqNum)
    obtain ⟨data, hdata, hsecond⟩ := replies_sendMessage env
      ((before.withHandler (before.handler.noteConfigSeq seqNum)).sendAck env
        seqNum) .configData _
    refine ⟨ack, data, hack, hdata, ?_⟩
    unfold configSet sendConfigData
    rw [hsecond, sendAck, hfirst, List.append_assoc]
    exact congrArg (· ++ [ack, data]) hreplies

theorem handleSetConfig_taken {configId value : Byte}
    (hfresh : seqStale r.handler.configNumber seqNum = false)
    (hbytes : settingBytes payload = some (configId, value))
    (hvalid : validSetting configId value = true) :
    TakesSetting env seqNum configId value r
      (r.handleSetConfig env seqNum payload) := by
  unfold handleSetConfig
  rw [if_neg (by simp [hfresh])]
  split
  next configId' value' _ _ _ =>
    have hsame : (configId', value') = (configId, value) :=
      Option.some.inj hbytes
    cases hsame
    unfold validSetting at hvalid
    unfold applySetting
    by_cases hsensitivity : configId = ConfigId.sensitivity
    · have hvalue : value.toNat ≤ 100 := by
        rcases Bool.or_eq_true_iff.mp hvalid with hleft | hright
        · simpa [hsensitivity] using hleft
        · rw [hsensitivity] at hright
          exact absurd hright (by decide)
      rw [if_pos hsensitivity]
      dsimp only
      rw [if_neg (not_lt.mpr hvalue)]
      refine takes_configSet ?_ rfl
      obtain ⟨hset, hother⟩ := r.config.setting_setSensitivity
        env.configLocked hvalue
      intro id
      simp only [call, UserConfig.setting, hset, hother, hsensitivity]
      by_cases hid : id = ConfigId.sensitivity
      · cases hlocked : env.configLocked <;> simp [hid]
      · simp [hid]
    · have hled : configId = ConfigId.ledBrightness := by
        simpa [hsensitivity] using hvalid
      rw [if_neg hsensitivity, if_pos hled]
      refine takes_configSet ?_ rfl
      obtain ⟨hset, hother⟩ := r.config.setting_setLedBrightness
        env.configLocked value.toNat
      intro id
      simp only [UserConfig.setting, hset, hother, hled]
      by_cases hid : id = ConfigId.ledBrightness
      · have hne : ConfigId.ledBrightness ≠ ConfigId.sensitivity := by
          decide
        cases hlocked : env.configLocked <;> simp [hid, hne]
      · simp [hid]
  next hshort =>
    match payload, hbytes with
    | first :: second :: third :: fourth :: rest, _ =>
        exact absurd rfl (hshort first second third fourth rest)

end Reaction

end SensorFirmware
