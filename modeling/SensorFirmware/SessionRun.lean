import SensorFirmware.GuardedRun
import SensorFirmware.LikeReactions

/-!
# Sessions

Runs of two devices whose handlers are alike, over the same messages.  They
show the same as long as no SET_CONFIG is stale for one of them alone.
-/

namespace SensorFirmware

open GuardedRun

variable {cfg : HistoryConfig} {σ : Type}

/-- What a session brings: a frame from the peer, or a pass of
`processRetries`. -/
inductive SessionInput where
  | receive (data : List Byte)
  | retry
  deriving DecidableEq

/-- What a turn meets, whichever it is. -/
structure SessionEnv where
  message : MessageEnv
  retry : RetryEnv

/-- What can be seen of a turn: the frames that were sent, the calls, and the
services afterwards. -/
structure Observation (cfg : HistoryConfig) (σ : Type) where
  frames : List (List Byte)
  calls : List DeviceCall
  history : HistoryService cfg
  nvs : HistoryNvs cfg
  config : ConfigService
  ota : Ota σ

def Reaction.frames (r : Reaction cfg σ) : List (List Byte) :=
  r.replies.filterMap fun reply => if reply.sent then reply.frame else none

def ProtocolDevice.observe (device : ProtocolDevice cfg σ)
    (frames : List (List Byte)) (calls : List DeviceCall) :
    Observation cfg σ where
  frames := frames
  calls := calls
  history := device.history
  nvs := device.nvs
  config := device.config
  ota := device.ota

section Session

variable (timing : TimingConfig) (ota : OtaConfig)
  (lib : UpdateLibrary σ Byte)

/-- A device that restarts does nothing more. -/
def sessionStep (device : ProtocolDevice cfg σ)
    (turn : SessionInput × SessionEnv) :
    Option (ProtocolDevice cfg σ × Observation cfg σ) :=
  if device.restarting then some (device, device.observe [] [])
  else
    match turn.1 with
    | .receive data =>
        (device.react.processReceived turn.2.message ota lib data).map
          fun r => (r.toProtocolDevice, r.observe r.frames r.calls)
    | .retry =>
        let result := device.handler.processRetries timing turn.2.retry
        let after := { device with handler := result.1 }
        some (after, after.observe result.2 [])

theorem sessionStep_receive {device : ProtocolDevice cfg σ}
    {env : SessionEnv} {data : List Byte} {after : Reaction cfg σ}
    (hrunning : device.restarting = false)
    (hreact : device.react.processReceived env.message ota lib data =
      some after) :
    sessionStep timing ota lib device (.receive data, env) =
      some (after.toProtocolDevice,
        after.observe after.frames after.calls) := by
  unfold sessionStep
  rw [if_neg (by simp [hrunning])]
  dsimp only
  rw [hreact]
  rfl

/-- The two handlers behave the same in every turn, on every device and in
every environment. -/
def SameBehaviour (cfg : HistoryConfig) (left right : ProtocolHandler)
    (inputs : List SessionInput) : Prop :=
  ∀ (device : ProtocolDevice cfg σ) (envs : List SessionEnv),
    envs.length = inputs.length →
      (perform (sessionStep timing ota lib)
          { device with handler := left } (inputs.zip envs)).map Prod.snd =
        (perform (sessionStep timing ota lib)
          { device with handler := right } (inputs.zip envs)).map Prod.snd

namespace SessionInput

def message : SessionInput → Option ReceivedMessage
  | .receive data => parseFrame data
  | .retry => none

/-- The type of the message, if there is a case for it. -/
def messageType (input : SessionInput) : Option MessageType :=
  input.message.bind fun message => MessageType.ofCode message.msgType

/-- The number of the last SET_CONFIG after the input. -/
def numberAfter (input : SessionInput) (last : Option ℕ) : Option ℕ :=
  match input.message with
  | some message =>
      if MessageType.ofCode message.msgType = some .setConfig then
        nextNumber last message.seqNum message.payload
      else last
  | none => last

end SessionInput

/-- No SET_CONFIG is stale against the number left from before, until one is
accepted or the device restarts. -/
def Unshadowed (last : Option ℕ) : List SessionInput → Prop
  | [] => True
  | input :: rest =>
      if input.messageType = some .setConfig then
        ∀ message ∈ input.message,
          seqStale last message.seqNum = false ∧
            (refusedPayload message.payload = true → Unshadowed last rest)
      else input.messageType = some .enterOtaMode ∨ Unshadowed last rest

instance decidableUnshadowed (last : Option ℕ) :
    ∀ inputs, Decidable (Unshadowed last inputs)
  | [] => isTrue trivial
  | input :: rest =>
      have : Decidable (Unshadowed last rest) :=
        decidableUnshadowed last rest
      if hset : input.messageType = some .setConfig then
        decidable_of_iff (∀ message ∈ input.message,
          seqStale last message.seqNum = false ∧
            (refusedPayload message.payload = true → Unshadowed last rest))
          (by rw [Unshadowed, if_pos hset])
      else
        decidable_of_iff
          (input.messageType = some .enterOtaMode ∨ Unshadowed last rest)
          (by rw [Unshadowed, if_neg hset])

/-- Either nothing was left from before, or it is never looked at with a
result. -/
def Isolated (last last' : Option ℕ) (inputs : List SessionInput) : Prop :=
  last = last' ∨ last' = none ∧ Unshadowed last inputs

theorem Isolated.tail {last last' : Option ℕ} {input : SessionInput}
    {rest : List SessionInput}
    (hisolated : Isolated last last' (input :: rest)) :
    input.messageType = some .enterOtaMode ∨
      Isolated (input.numberAfter last) (input.numberAfter last') rest := by
  rcases hisolated with rfl | ⟨rfl, hunshadowed⟩
  · exact .inr (.inl rfl)
  · unfold Unshadowed at hunshadowed
    unfold SessionInput.messageType SessionInput.numberAfter at *
    cases hmessage : input.message with
    | none =>
        rw [hmessage, Option.bind_none, if_neg nofun] at hunshadowed
        exact hunshadowed.imp id fun hrest => .inr ⟨rfl, hrest⟩
    | some message =>
        rw [hmessage, Option.bind_some] at hunshadowed
        rw [Option.bind_some]
        by_cases htype : MessageType.ofCode message.msgType = some .setConfig
        · rw [if_pos htype] at hunshadowed
          obtain ⟨hfresh, hrest⟩ := hunshadowed message rfl
          have hnone : seqStale none message.seqNum = false := rfl
          right
          simp only [htype, if_true, nextNumber, hfresh, hnone]
          cases hrefused : refusedPayload message.payload with
          | false => exact .inl rfl
          | true => exact .inr ⟨rfl, hrest hrefused⟩
        · rw [if_neg htype] at hunshadowed
          simp only [htype, if_false]
          exact hunshadowed.imp id fun hrest => .inr ⟨rfl, hrest⟩

theorem Isolated.seqStale_eq {last last' : Option ℕ} {input : SessionInput}
    {rest : List SessionInput}
    (hisolated : Isolated last last' (input :: rest))
    (hset : input.messageType = some .setConfig) :
    ∀ message ∈ input.message,
      seqStale last message.seqNum = seqStale last' message.seqNum := by
  intro message hmessage
  rcases hisolated with rfl | ⟨rfl, hunshadowed⟩
  · rfl
  · unfold Unshadowed at hunshadowed
    rw [if_pos hset] at hunshadowed
    exact (hunshadowed message hmessage).1

/-! ## What is left out makes no difference -/

theorem Paired.dispatchAny {last last' : Option ℕ}
    {left right : Reaction cfg σ} (env : MessageEnv)
    (hpaired : Paired last last' left right) (data : List Byte)
    {message : ReceivedMessage} (hparse : parseFrame data = some message)
    (hsame : (SessionInput.receive data).messageType = some .setConfig →
      seqStale last message.seqNum = seqStale last' message.seqNum) :
    Option.Rel
      (Paired ((SessionInput.receive data).numberAfter last)
        ((SessionInput.receive data).numberAfter last'))
      (left.dispatchMessage env ota lib message)
      (right.dispatchMessage env ota lib message) := by
  have hmessage : (SessionInput.receive data).message = some message := hparse
  unfold SessionInput.messageType at hsame
  unfold SessionInput.numberAfter
  rw [hmessage] at hsame ⊢
  by_cases htype : MessageType.ofCode message.msgType = some .setConfig
  · simp only [htype, if_true]
    have hset := hpaired.startActivity message.msgType
    have hdone := hset.handleSetConfig env message.seqNum message.payload
      (hsame htype)
    unfold Reaction.dispatchMessage
    dsimp only
    rw [htype]
    exact .some hdone
  · simp only [htype, if_false]
    exact hpaired.dispatchMessage env ota lib message htype

theorem Paired.processReceived {last last' : Option ℕ}
    {left right : Reaction cfg σ} (env : MessageEnv)
    (hpaired : Paired last last' left right) (data : List Byte)
    (hsame : (SessionInput.receive data).messageType = some .setConfig →
      ∀ message ∈ parseFrame data,
        seqStale last message.seqNum = seqStale last' message.seqNum) :
    Option.Rel
      (Paired ((SessionInput.receive data).numberAfter last)
        ((SessionInput.receive data).numberAfter last'))
      (left.processReceived env ota lib data)
      (right.processReceived env ota lib data) := by
  obtain ⟨hleft, hright⟩ := hpaired.initialized
  unfold Reaction.processReceived
  rw [hleft, hright]
  simp only [Bool.not_true, Bool.false_eq_true, if_false]
  cases hparse : parseFrame data with
  | none =>
      have hnumber : ∀ last, (SessionInput.receive data).numberAfter last =
          last := by
        intro last
        simp only [SessionInput.numberAfter, SessionInput.message, hparse]
      rw [hnumber, hnumber]
      dsimp only
      cases frameSeqNum data with
      | none => exact .some hpaired.countError
      | some seqNum => exact .some (hpaired.countError.sendNack env seqNum _)
  | some message =>
      exact (hpaired.countReceived env.countLocked).dispatchAny ota lib env
        data hparse fun hset => hsame hset message hparse

/-- ENTER_OTA_MODE is answered, and then the device restarts. -/
theorem processReceived_enterOta (device : ProtocolDevice cfg σ)
    (env : MessageEnv) (data : List Byte)
    (hinitialized : device.handler.initialized = true)
    (henter : (SessionInput.receive data).messageType =
      some .enterOtaMode) :
    ∃ after, device.react.processReceived env ota lib data = some after ∧
      after.restarting = true := by
  obtain ⟨message, hmessage, htype⟩ := Option.bind_eq_some_iff.mp henter
  have hparse : parseFrame data = some message := hmessage
  unfold Reaction.processReceived ProtocolDevice.react
  dsimp only
  rw [hinitialized, hparse]
  unfold Reaction.dispatchMessage
  dsimp only
  rw [htype]
  exact ⟨_, rfl, rfl⟩

theorem restarting_of_enterOta (device : ProtocolDevice cfg σ)
    (env : MessageEnv) (data : List Byte)
    (hinitialized : device.handler.initialized = true)
    (henter : (SessionInput.receive data).messageType =
      some .enterOtaMode) :
    ∀ after ∈ device.react.processReceived env ota lib data,
      after.restarting = true := by
  obtain ⟨same, hsame, hrestarting⟩ :=
    processReceived_enterOta ota lib device env data hinitialized henter
  intro after hafter
  rw [hsame] at hafter
  cases Option.some.inj hafter
  exact hrestarting

/-- Two devices that differ in their handlers, which are alike as long as the
devices run. -/
def PairedDevices (last last' : Option ℕ) (left right : ProtocolDevice cfg σ)
    (inputs : List SessionInput) : Prop :=
  ∃ handler, right = { left with handler := handler } ∧
    (left.restarting = true ∨
      Alike last last' left.handler handler ∧ Isolated last last' inputs)

theorem Paired.frames_eq {last last' : Option ℕ} {left right : Reaction cfg σ}
    (hpaired : Paired last last' left right) :
    right.frames = left.frames ∧ right.calls = left.calls := by
  obtain ⟨handler, rfl, -⟩ := hpaired
  exact ⟨rfl, rfl⟩

theorem Paired.observe_eq {last last' : Option ℕ}
    {left right : Reaction cfg σ} (hpaired : Paired last last' left right)
    (frames : List (List Byte)) (calls : List DeviceCall) :
    right.observe frames calls = left.observe frames calls := by
  obtain ⟨handler, rfl, -⟩ := hpaired
  rfl

/-- One turn shows the same, and leaves devices that differ no more. -/
theorem PairedDevices.turn {last last' : Option ℕ}
    {left right : ProtocolDevice cfg σ} {input : SessionInput}
    {rest : List SessionInput} (env : SessionEnv)
    (hpaired : PairedDevices last last' left right (input :: rest)) :
    Option.Rel
      (fun first second => first.2 = second.2 ∧
        PairedDevices (input.numberAfter last) (input.numberAfter last')
          first.1 second.1 rest)
      (sessionStep timing ota lib left (input, env))
      (sessionStep timing ota lib right (input, env)) := by
  obtain ⟨handler, rfl, hcase⟩ := hpaired
  unfold sessionStep
  dsimp only
  by_cases hrestarting : left.restarting = true
  · rw [if_pos hrestarting, if_pos hrestarting]
    exact .some ⟨rfl, handler, rfl, .inl hrestarting⟩
  · rw [if_neg hrestarting, if_neg hrestarting]
    obtain ⟨halike, hisolated⟩ := hcase.resolve_left hrestarting
    have htail := hisolated.tail
    cases input with
    | receive data =>
        have hstart : Paired last last' left.react
            ({ left with handler := handler } :
              ProtocolDevice cfg σ).react :=
          ⟨handler, rfl, halike⟩
        have hdone := hstart.processReceived ota lib env.message data
          hisolated.seqStale_eq
        have hrestarted := restarting_of_enterOta ota lib
          left env.message data halike.initialized
        dsimp only
        generalize left.react.processReceived env.message ota lib data =
          first at hdone hrestarted ⊢
        generalize ({ left with handler := handler } :
          ProtocolDevice cfg σ).react.processReceived env.message ota lib
            data = second at hdone ⊢
        cases hdone with
        | none => exact .none
        | @some first second hdone =>
            obtain ⟨hframes, hcalls⟩ := hdone.frames_eq
            refine .some ⟨?_, ?_⟩
            · show first.observe first.frames first.calls =
                second.observe second.frames second.calls
              rw [hdone.observe_eq, hframes, hcalls]
            · obtain ⟨after, rfl, halikeAfter⟩ := hdone
              refine ⟨after, rfl, ?_⟩
              rcases htail with henter | hrest
              · exact .inl (hrestarted henter first rfl)
              · exact .inr ⟨halikeAfter, hrest⟩
    | retry =>
        obtain ⟨hhandler, hframes⟩ := halike.processRetries timing env.retry
        refine .some ⟨?_, _, rfl, .inr ⟨hhandler, ?_⟩⟩
        · dsimp only [ProtocolDevice.observe]
          rw [hframes]
        · rcases htail with henter | hrest
          · cases henter
          · exact hrest

theorem PairedDevices.run {last last' : Option ℕ}
    {left right : ProtocolDevice cfg σ} {inputs : List SessionInput}
    (envs : List SessionEnv)
    (hpaired : PairedDevices last last' left right inputs) :
    (perform (sessionStep timing ota lib) left (inputs.zip envs)).map
        Prod.snd =
      (perform (sessionStep timing ota lib) right (inputs.zip envs)).map
        Prod.snd := by
  induction inputs generalizing left right last last' envs with
  | nil => rfl
  | cons input rest ih =>
      cases envs with
      | nil => rfl
      | cons env envs =>
          have hturn := hpaired.turn timing ota lib env
          rw [List.zip_cons_cons]
          refine outputs_perform_cons hturn ?_
          intro first second hnext
          exact ⟨hnext.1, ih envs hnext.2⟩

end Session

end SensorFirmware
