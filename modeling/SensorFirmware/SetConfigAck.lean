import SensorFirmware.GuardedRun
import SensorFirmware.SetConfig

/-!
# What an ACK to SET_CONFIG promises

The documentation has the app take the ACK for the confirmation that a setting
was applied.  The handler also sends it for a packet that it drops, and after a
setter that could not obtain its mutex.
-/

namespace SensorFirmware

open GuardedRun

variable {cfg : HistoryConfig} {σ : Type}

/-- The device, and the settings that were applied in this session with the
numbers of their packets. -/
structure ConfigSession (cfg : HistoryConfig) (σ : Type) where
  device : ProtocolDevice cfg σ
  applied : List (Byte × ℕ)

/-- `others` is anything that other messages and other tasks do. -/
inductive ConfigEvent (cfg : HistoryConfig) (σ : Type) where
  | setConfig (env : MessageEnv) (seqNum : ℕ) (payload : List Byte)
  | connect (locked : Bool)
  | others (effect : ProtocolDevice cfg σ → ProtocolDevice cfg σ)

namespace ConfigSession

def reaction (session : ConfigSession cfg σ) (env : MessageEnv)
    (seqNum : ℕ) (payload : List Byte) : Reaction cfg σ :=
  session.device.react.handleSetConfig env seqNum payload

/-- What a packet has applied when it was handled. -/
def newlyApplied (session : ConfigSession cfg σ) (env : MessageEnv)
    (seqNum : ℕ) (payload : List Byte) : List (Byte × ℕ) :=
  match settingBytes payload with
  | some (configId, value) =>
      let after := session.reaction env seqNum payload
      if after.handler.configNumber = some seqNum ∧
          after.config.config.setting configId = some value.toNat then
        [(configId, seqNum)]
      else []
  | none => []

def step (session : ConfigSession cfg σ) :
    ConfigEvent cfg σ → ConfigSession cfg σ
  | .setConfig env seqNum payload =>
      { device := (session.reaction env seqNum payload).toProtocolDevice
        applied := session.newlyApplied env seqNum payload ++
          session.applied }
  | .connect locked =>
      { device := { session.device with
          handler := session.device.handler.resetForNewConnection locked }
        applied := [] }
  | .others effect => { session with device := effect session.device }

/-- A packet with a later number has been applied to the setting. -/
def Superseded (session : ConfigSession cfg σ) (configId : Byte)
    (seqNum : ℕ) : Prop :=
  ∃ entry ∈ session.applied, entry.1 = configId ∧
    seqNotAfter seqNum entry.2 = false

/-- The setting has the value of the packet, or that of a later one. -/
def Settled (session : ConfigSession cfg σ) (config : UserConfig)
    (seqNum : ℕ) (payload : List Byte) : Prop :=
  ∃ configId value, settingBytes payload = some (configId, value) ∧
    (config.setting configId = some value.toNat ∨
      session.Superseded configId seqNum)

/-- An ACK is sent for a settled packet only, and any other reply is a NACK. -/
structure AckMeansApplied (session : ConfigSession cfg σ) (env : MessageEnv)
    (seqNum : ℕ) (payload : List Byte) : Prop where
  ack : (∃ reply ∈ (session.reaction env seqNum payload).replies,
      reply.type = .ack) →
    session.Settled (session.reaction env seqNum payload).config.config
      seqNum payload
  nack : (¬∃ reply ∈ (session.reaction env seqNum payload).replies,
      reply.type = .ack) →
    ∃ reply ∈ (session.reaction env seqNum payload).replies,
      reply.type = .nack

def Honest (session : ConfigSession cfg σ) : ConfigEvent cfg σ → Prop
  | .setConfig env seqNum payload =>
      session.AckMeansApplied env seqNum payload
  | .connect _ => True
  | .others _ => True

/-- The packet is settled already; or it is not stale, and it is refused or
the mutex is obtained. -/
def HonestWhen (session : ConfigSession cfg σ) : ConfigEvent cfg σ → Prop
  | .setConfig env seqNum payload =>
      session.Settled session.device.config.config seqNum payload ∨
        (seqStale session.device.handler.configNumber seqNum = false ∧
          (refusedPayload payload = true ∨ env.configLocked = true))
  | .connect _ => True
  | .others _ => True

/-! ## One packet -/

section Packet

variable (session : ConfigSession cfg σ) {env : MessageEnv} {seqNum : ℕ}
  {payload : List Byte}

/-- With an ACK among the replies only the setting matters. -/
theorem ackMeansApplied_of_ack
    (hack : ∃ reply ∈ (session.reaction env seqNum payload).replies,
      reply.type = .ack) :
    session.AckMeansApplied env seqNum payload ↔
      session.Settled (session.reaction env seqNum payload).config.config
        seqNum payload := by
  constructor
  · exact fun happlied => happlied.ack hack
  · exact fun hsettled => ⟨fun _ => hsettled, fun hnone => absurd hack hnone⟩

theorem ackMeansApplied_stale
    (hstale : seqStale session.device.handler.configNumber seqNum = true) :
    session.AckMeansApplied env seqNum payload ↔
      session.Settled session.device.config.config seqNum payload := by
  have hreaction : session.reaction env seqNum payload =
      session.device.react.sendAck env seqNum :=
    Reaction.handleSetConfig_stale hstale
  obtain ⟨reply, htype, hreplies⟩ := Reaction.replies_sendMessage env
    session.device.react .ack (be16Bytes seqNum)
  have hack : ∃ reply ∈ (session.reaction env seqNum payload).replies,
      reply.type = .ack := by
    refine ⟨reply, ?_, htype⟩
    rw [hreaction, Reaction.sendAck, hreplies]
    exact List.mem_append_right _ (.head _)
  rw [ackMeansApplied_of_ack session hack, hreaction]
  rfl

theorem ackMeansApplied_refused
    (hfresh : seqStale session.device.handler.configNumber seqNum = false)
    (hrefused : refusedPayload payload = true) :
    session.AckMeansApplied env seqNum payload := by
  have hnack : Reaction.RefusesSetting session.device.react
      (session.reaction env seqNum payload) :=
    Reaction.handleSetConfig_refused hfresh hrefused
  obtain ⟨reply, htype, hreplies⟩ := hnack.replies
  have hall : (session.reaction env seqNum payload).replies = [reply] :=
    hreplies
  constructor
  · rintro ⟨other, hother, hack⟩
    rw [hall, List.mem_singleton] at hother
    rw [hother, htype] at hack
    cases hack
  · intro _
    exact ⟨reply, by simp [hall], htype⟩

theorem settled_congr {before after : UserConfig}
    (hsame : ∀ id, after.setting id = before.setting id) :
    session.Settled after seqNum payload ↔
      session.Settled before seqNum payload := by
  unfold Settled
  simp only [hsame]

theorem ackMeansApplied_taken
    (hfresh : seqStale session.device.handler.configNumber seqNum = false)
    (htaken : refusedPayload payload = false) :
    session.AckMeansApplied env seqNum payload ↔
      env.configLocked = true ∨
        session.Settled session.device.config.config seqNum payload := by
  obtain ⟨configId, value, hbytes, hvalid⟩ :=
    settingBytes_of_accepted htaken
  have htakes : Reaction.TakesSetting env seqNum configId value
      session.device.react (session.reaction env seqNum payload) :=
    Reaction.handleSetConfig_taken hfresh hbytes hvalid
  obtain ⟨ack, data, htype, -, hreplies⟩ := htakes.replies
  have hack : ∃ reply ∈ (session.reaction env seqNum payload).replies,
      reply.type = .ack :=
    ⟨ack, by simp [hreplies], htype⟩
  rw [ackMeansApplied_of_ack session hack]
  cases hlocked : env.configLocked with
  | true =>
      have hset := htakes.setting configId
      rw [if_pos ⟨rfl, hlocked⟩] at hset
      have hsettled : session.Settled
          (session.reaction env seqNum payload).config.config seqNum
          payload := ⟨configId, value, hbytes, .inl hset⟩
      simp [hsettled]
  | false =>
      have hsame : ∀ id,
          (session.reaction env seqNum payload).config.config.setting id =
            session.device.config.config.setting id := by
        intro id
        have hset := htakes.setting id
        simp only [hlocked, Bool.false_eq_true, and_false, if_false] at hset
        exact hset
      rw [settled_congr session hsame]
      simp

end Packet

theorem honest_iff (session : ConfigSession cfg σ)
    (event : ConfigEvent cfg σ) :
    session.Honest event ↔ session.HonestWhen event := by
  cases event with
  | connect locked => exact Iff.rfl
  | others effect => exact Iff.rfl
  | setConfig env seqNum payload =>
      simp only [Honest, HonestWhen]
      cases hstale : seqStale session.device.handler.configNumber seqNum with
      | true =>
          rw [ackMeansApplied_stale session hstale]
          simp
      | false =>
          cases hrefused : refusedPayload payload with
          | true =>
              have hhonest : session.AckMeansApplied env seqNum payload :=
                ackMeansApplied_refused session hstale hrefused
              simp [hhonest]
          | false =>
              rw [ackMeansApplied_taken session hstale hrefused]
              simp [or_comm]

/-- In a run from the start of a session every ACK to a SET_CONFIG means that
the setting was applied exactly when every packet meets the condition. -/
theorem acks_mean_applied_iff (device : ProtocolDevice cfg σ)
    (events : List (ConfigEvent cfg σ)) :
    Guarded step Honest ⟨device, []⟩ events ↔
      Guarded step HonestWhen ⟨device, []⟩ events :=
  guarded_congr honest_iff _ events

def busyConfig : MessageEnv := { MessageEnv.good with configLocked := false }

def firstSession : ConfigSession .fourSlots Unit where
  device := .setUp .fourSlots ()
  applied := []

def sensitivitySeventy : List Byte := [ConfigId.sensitivity, 70, 0, 0]

/-- The ACK is sent, and the sensitivity stays what it was. -/
theorem busy_config_acked :
    (firstSession.reaction busyConfig 1
        sensitivitySeventy).replies.map Reply.type = [.ack, .configData] ∧
      (firstSession.reaction busyConfig 1
        sensitivitySeventy).config.config.sensitivity = 50 ∧
      ¬firstSession.AckMeansApplied busyConfig 1 sensitivitySeventy := by
  refine ⟨by decide +kernel, by decide +kernel, ?_⟩
  rw [ackMeansApplied_taken firstSession rfl rfl]
  rintro (hlocked | ⟨configId, value, hbytes, hset | ⟨entry, hentry, -⟩⟩)
  · cases hlocked
  · cases hbytes
    exact absurd hset (by decide)
  · cases hentry

end ConfigSession

end SensorFirmware
