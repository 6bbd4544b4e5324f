import SensorFirmware.OtaCommitIntegrity
import SensorFirmware.QuietDevice
import SensorFirmware.SyncedDelivered

/-!
# What a session inherits from the one before

A reset handler and a new one are given the same messages.  They behave alike
up to a SET_CONFIG that is stale against the number that the reset leaves
behind, and only that far.
-/

namespace SensorFirmware

open GuardedRun

variable {cfg : HistoryConfig} {σ : Type}

/-! ## Sessions on a quiet device -/

def SessionEnv.historyBusy : SessionEnv where
  message := .historyBusy
  retry :=
    { connected := true
      now := 0
      locked := fun _ => true
      link := fun _ => ⟨true, true⟩ }

/-- The device runs on, or restarts once and for all. -/
def Calm (device : ProtocolDevice cfg σ) : Prop :=
  device.restarting = true ∨
    Quiet device ∧ device.handler.initialized = true

section Session

variable (timing : TimingConfig) (ota : OtaConfig)
  (lib : UpdateLibrary σ Byte)

theorem quiet_turn {device : ProtocolDevice cfg σ} (hquiet : Quiet device)
    (input : SessionInput)
    (hother : input.messageType ≠ some .enterOtaMode) :
    ∃ next, sessionStep timing ota lib device (input, .historyBusy) =
      some next ∧ Quiet next.1 := by
  cases input with
  | receive data =>
      have hreact : Quiet device.react.toProtocolDevice := hquiet
      obtain ⟨after, hafter, hquietAfter⟩ :=
        hreact.processReceived ota lib data hother
      exact ⟨_, sessionStep_receive timing ota lib hquiet.running hafter,
        hquietAfter⟩
  | retry =>
      unfold sessionStep
      rw [if_neg (by simp [hquiet.running])]
      exact ⟨_, rfl, hquiet.of_same rfl rfl⟩

theorem enterOta_turn {device : ProtocolDevice cfg σ}
    (hinitialized : device.handler.initialized = true)
    (hrunning : device.restarting = false) {input : SessionInput}
    (henter : input.messageType = some .enterOtaMode) :
    ∃ next, sessionStep timing ota lib device (input, .historyBusy) =
      some next ∧ next.1.restarting = true := by
  cases input with
  | receive data =>
      obtain ⟨after, hafter, hrestarting⟩ := processReceived_enterOta ota
        lib device .historyBusy data hinitialized henter
      exact ⟨_, sessionStep_receive timing ota lib hrunning hafter,
        hrestarting⟩
  | retry => cases henter

/-- A device in its turn for a SET_CONFIG. -/
theorem setConfig_turn {device : ProtocolDevice cfg σ}
    (hinitialized : device.handler.initialized = true)
    (hrunning : device.restarting = false) {data : List Byte}
    {message : ReceivedMessage} (hparse : parseFrame data = some message)
    (htype : MessageType.ofCode message.msgType = some .setConfig) :
    ∃ start : Reaction cfg σ, Delivered start ∧ start.replies = [] ∧
      start.handler.configNumber = device.handler.configNumber ∧
      ∀ next ∈ sessionStep timing ota lib device
          (.receive data, .historyBusy),
        next.2.frames = (start.handleSetConfig .historyBusy message.seqNum
          message.payload).frames := by
  let start : Reaction cfg σ :=
    (device.react.withHandler (device.handler.countReceived true)).call
      .activityDetected
  have hactive : Reaction.isActivityMessage message.msgType = true := by
    have hcode := List.find?_some htype
    have hsame : MessageType.setConfig.code = message.msgType := by
      simpa using hcode
    rw [← hsame]
    decide
  refine ⟨start, ⟨hinitialized, rfl⟩, rfl, rfl, ?_⟩
  intro next hnext
  have hreact : device.react.processReceived .historyBusy ota lib data =
      some (start.handleSetConfig .historyBusy message.seqNum
        message.payload) := by
    unfold Reaction.processReceived ProtocolDevice.react
    dsimp only
    rw [hinitialized, hparse]
    unfold Reaction.dispatchMessage
    dsimp only
    rw [htype, if_pos hactive]
    rfl
  rw [sessionStep_receive timing ota lib hrunning hreact] at hnext
  cases Option.some.inj hnext
  rfl

/-! ## The condition is needed -/

theorem initialized_turn {device : ProtocolDevice cfg σ}
    (hinitialized : device.handler.initialized = true)
    (input : SessionInput) (env : SessionEnv) :
    ∀ next ∈ sessionStep timing ota lib device (input, env),
      next.1.restarting = true ∨ next.1.handler.initialized = true := by
  intro next hnext
  have hself : PairedDevices device.handler.configNumber
      device.handler.configNumber device device [input] :=
    ⟨device.handler, rfl, .inr ⟨.refl hinitialized, .inl rfl⟩⟩
  have hturn := hself.turn timing ota lib env
  rw [hnext] at hturn
  cases hturn with
  | some hpaired =>
      obtain ⟨-, handler, hsame, hcase⟩ := hpaired
      exact hcase.imp id fun halike => halike.1.initialized

theorem calm_turn {device : ProtocolDevice cfg σ} (hcalm : Calm device)
    (input : SessionInput) :
    ∃ next, sessionStep timing ota lib device (input, .historyBusy) =
      some next ∧ Calm next.1 := by
  rcases hcalm with hrestarting | ⟨hquiet, hinitialized⟩
  · refine ⟨(device, device.observe [] []), ?_, .inl hrestarting⟩
    unfold sessionStep
    rw [if_pos hrestarting]
  · by_cases henter : input.messageType = some .enterOtaMode
    · obtain ⟨next, hnext, hrestarting⟩ := enterOta_turn timing ota lib
        hinitialized hquiet.running henter
      exact ⟨next, hnext, .inl hrestarting⟩
    · obtain ⟨next, hnext, hquietNext⟩ := quiet_turn timing ota lib hquiet
        input henter
      have hkept := initialized_turn timing ota lib hinitialized input
        .historyBusy next hnext
      exact ⟨next, hnext, hkept.imp id fun hnew => ⟨hquietNext, hnew⟩⟩

theorem calm_run {device : ProtocolDevice cfg σ} (hcalm : Calm device)
    (inputs : List SessionInput) :
    ∃ final, perform (sessionStep timing ota lib) device
      (inputs.map fun input => (input, .historyBusy)) = some final := by
  have hturn : ∀ (device : ProtocolDevice cfg σ)
      (turn : SessionInput × SessionEnv), Calm device →
        turn.2 = .historyBusy →
          ∃ next, sessionStep timing ota lib device turn = some next ∧
            Calm next.1 := by
    intro device turn hcalm henv
    obtain ⟨input, env⟩ := turn
    cases henv
    exact calm_turn timing ota lib hcalm input
  have hbusy : ∀ turn ∈ inputs.map
      fun input => (input, SessionEnv.historyBusy),
      turn.2 = .historyBusy := by
    simp
  obtain ⟨final, hfinal, -⟩ := invariant_perform hturn hcalm hbusy
  exact ⟨final, hfinal⟩

theorem quiet_pair_turn {device : ProtocolDevice cfg σ}
    {handler : ProtocolHandler} {last : Option ℕ} (hquiet : Quiet device)
    (halike : Alike last none device.handler handler) {input : SessionInput}
    (hother : input.messageType ≠ some .enterOtaMode)
    (hunshadowed : Unshadowed last [input])
    (hlast : input.numberAfter last = last)
    (hnone : input.numberAfter none = none)
    {next next' : ProtocolDevice cfg σ × Observation cfg σ}
    (hnext : sessionStep timing ota lib device (input, .historyBusy) =
      some next)
    (hnext' : sessionStep timing ota lib { device with handler := handler }
      (input, .historyBusy) = some next') :
    Quiet next.1 ∧ ∃ after, next'.1 = { next.1 with handler := after } ∧
      Alike last none next.1.handler after := by
  have hpaired : PairedDevices last none device
      { device with handler := handler } [input] :=
    ⟨handler, rfl, .inr ⟨halike, .inr ⟨rfl, hunshadowed⟩⟩⟩
  have hturn := hpaired.turn timing ota lib .historyBusy
  obtain ⟨same, hsame, hquietNext⟩ := quiet_turn timing ota lib hquiet input
    hother
  rw [hnext] at hsame
  cases Option.some.inj hsame
  rw [hnext, hnext', hlast, hnone] at hturn
  cases hturn with
  | some hboth =>
      obtain ⟨-, after, hafter, hcase⟩ := hboth
      refine ⟨hquietNext, after, hafter, ?_⟩
      rcases hcase with hrestarting | halikeAfter
      · rw [hquietNext.running] at hrestarting
        cases hrestarting
      · exact halikeAfter.1

theorem numberAfter_of_other {input : SessionInput} (last : Option ℕ)
    (hother : input.messageType ≠ some .setConfig) :
    input.numberAfter last = last := by
  unfold SessionInput.numberAfter
  unfold SessionInput.messageType at hother
  cases hmessage : input.message with
  | none => rfl
  | some message =>
      rw [hmessage] at hother
      exact if_neg hother

theorem numberAfter_of_refused {input : SessionInput} (last : Option ℕ)
    (hset : input.messageType = some .setConfig)
    {message : ReceivedMessage} (hmessage : input.message = some message)
    (hrefused : refusedPayload message.payload = true) :
    input.numberAfter last = last ∧ input.numberAfter none = none := by
  unfold SessionInput.messageType at hset
  unfold SessionInput.numberAfter nextNumber
  rw [hmessage] at hset ⊢
  have htype : MessageType.ofCode message.msgType = some .setConfig := hset
  simp only [htype, hrefused, Bool.or_true, if_true, and_self]

/-- Where two devices show the same, no number is stale for one alone. -/
theorem not_stale_of_same {device : ProtocolDevice cfg σ}
    {handler : ProtocolHandler} {last : Option ℕ} (hquiet : Quiet device)
    (halike : Alike last none device.handler handler) {input : SessionInput}
    (hset : input.messageType = some .setConfig)
    {next next' : ProtocolDevice cfg σ × Observation cfg σ}
    (hnext : sessionStep timing ota lib device (input, .historyBusy) =
      some next)
    (hnext' : sessionStep timing ota lib { device with handler := handler }
      (input, .historyBusy) = some next')
    (hsame : next.2 = next'.2) :
    ∀ message ∈ input.message, seqStale last message.seqNum = false := by
  intro message hmessage
  cases input with
  | retry => cases hmessage
  | receive data =>
      have hparse : parseFrame data = some message := hmessage
      have htype : MessageType.ofCode message.msgType = some .setConfig := by
        unfold SessionInput.messageType at hset
        rw [hmessage] at hset
        exact hset
      obtain ⟨left, hleft, hnoLeft, hleftNumber, hleftFrames⟩ :=
        setConfig_turn timing ota lib halike.initialized hquiet.running
          hparse htype
      have hrunning : ({ device with handler := handler } :
          ProtocolDevice cfg σ).restarting = false := hquiet.running
      obtain ⟨right, hright, hnoRight, hrightNumber, hrightFrames⟩ :=
        setConfig_turn timing ota lib halike.initialized' hrunning
          hparse htype
      by_contra hstale
      have hold : seqStale left.handler.configNumber message.seqNum =
          true := by
        rw [hleftNumber, halike.leftNumber]
        simpa using hstale
      have hnew : seqStale right.handler.configNumber message.seqNum =
          false := by
        have hnumber : right.handler.configNumber = none :=
          hrightNumber.trans halike.rightNumber
        rw [hnumber]
        rfl
      apply Delivered.frames_differ hleft hright hnoLeft hnoRight hold hnew
        message.payload
      rw [← hleftFrames next hnext, ← hrightFrames next' hnext', hsame]

theorem unshadowed_of_same {device : ProtocolDevice cfg σ}
    {handler : ProtocolHandler} {last : Option ℕ} (hquiet : Quiet device)
    (halike : Alike last none device.handler handler)
    (inputs : List SessionInput)
    (hsame : (perform (sessionStep timing ota lib) device
        (inputs.map fun input => (input, .historyBusy))).map Prod.snd =
      (perform (sessionStep timing ota lib) { device with handler := handler }
        (inputs.map fun input => (input, .historyBusy))).map Prod.snd) :
    Unshadowed last inputs := by
  induction inputs generalizing device handler with
  | nil => trivial
  | cons input rest ih =>
      have hcalm : Calm device := .inr ⟨hquiet, halike.initialized⟩
      have hcalm' : Calm { device with handler := handler } :=
        .inr ⟨hquiet.of_same rfl rfl, halike.initialized'⟩
      obtain ⟨next, hnext, hcalmNext⟩ :=
        calm_turn timing ota lib hcalm input
      obtain ⟨next', hnext', -⟩ := calm_turn timing ota lib hcalm' input
      obtain ⟨final, hfinal⟩ := calm_run timing ota lib hcalmNext rest
      obtain ⟨hout, hrest⟩ :=
        outputs_of_perform_cons hnext hnext' hfinal hsame
      have hcontinue : Unshadowed last [input] →
          input.numberAfter last = last → input.numberAfter none = none →
            input.messageType ≠ some .enterOtaMode →
              Unshadowed last rest := by
        intro hunshadowed hlast hnone hother
        obtain ⟨hquietNext, after, hafter, halikeNext⟩ :=
          quiet_pair_turn timing ota lib hquiet halike hother hunshadowed
            hlast hnone hnext hnext'
        rw [hafter] at hrest
        exact ih hquietNext halikeNext hrest
      unfold Unshadowed
      by_cases hset : input.messageType = some .setConfig
      · rw [if_pos hset]
        intro message hmessage
        have hfresh := not_stale_of_same timing ota lib hquiet halike hset
          hnext hnext' hout message hmessage
        refine ⟨hfresh, fun hrefused => ?_⟩
        obtain ⟨hlast, hnone⟩ := numberAfter_of_refused last hset hmessage
          hrefused
        apply hcontinue _ hlast hnone
        · rw [hset]
          decide
        · unfold Unshadowed
          rw [if_pos hset]
          intro other hother
          cases Option.some.inj (hmessage.symm.trans hother)
          exact ⟨hfresh, fun _ => trivial⟩
      · rw [if_neg hset]
        by_cases henter : input.messageType = some .enterOtaMode
        · exact .inl henter
        · right
          apply hcontinue _ (numberAfter_of_other last hset)
            (numberAfter_of_other none hset) henter
          unfold Unshadowed
          rw [if_neg hset]
          exact .inr trivial

/-- After a reset the handler behaves like a new one exactly as long as no
SET_CONFIG of the session is stale against the number of an earlier one. -/
theorem session_isolated_iff [Inhabited σ] {previous : ProtocolHandler}
    (hinitialized : previous.initialized = true)
    (inputs : List SessionInput) :
    SameBehaviour timing ota lib cfg (previous.resetForNewConnection true)
        .construct inputs ↔
      Unshadowed previous.configNumber inputs := by
  have halike := Alike.of_reset hinitialized
  constructor
  · intro hsame
    let device : ProtocolDevice cfg σ :=
      { ProtocolDevice.setUp cfg default with
        handler := previous.resetForNewConnection true }
    have hquiet : Quiet device := ⟨rfl, rfl, rfl⟩
    apply unshadowed_of_same timing ota lib hquiet halike
    have houtputs := hsame device
      (inputs.map fun _ => SessionEnv.historyBusy) (by simp)
    rw [← List.map_prod_left_eq_zip] at houtputs
    exact houtputs
  · intro hunshadowed device envs _
    apply PairedDevices.run
    exact ⟨.construct, rfl, .inr ⟨halike, .inr ⟨rfl, hunshadowed⟩⟩⟩

end Session

def benchUpdates : UpdateLibrary (UpdateLibrary.WornFlash Byte) Byte :=
  .wornFlash Byte

def sensitivityFrame (seqNum : ℕ) (value : Byte) : List Byte :=
  (buildFrame .setConfig [ConfigId.sensitivity, value, 0, 0] seqNum).getD []

/-- A handler that has processed a frame on a new device. -/
def ProtocolHandler.having (data : List Byte) : ProtocolHandler :=
  let device := ProtocolDevice.setUp .fourSlots default
  match device.react.processReceived .good Ota.benchOta benchUpdates data with
  | some after => after.handler
  | none => device.handler

def earlierHandler : ProtocolHandler :=
  .having (sensitivityFrame 5 60)

theorem later_numbers_isolated :
    SameBehaviour Delivery.benchTiming Ota.benchOta benchUpdates .fourSlots
      (earlierHandler.resetForNewConnection true) .construct
      [.receive (sensitivityFrame 6 70), .retry,
        .receive (sensitivityFrame 1 80)] := by
  have hinitialized : earlierHandler.initialized = true := by
    decide +kernel
  exact (session_isolated_iff _ _ _ hinitialized _).mpr (by decide +kernel)

def sessionSensitivity (handler : ProtocolHandler) (data : List Byte) :
    Option (List ℕ) :=
  (perform (sessionStep Delivery.benchTiming Ota.benchOta benchUpdates)
      { ProtocolDevice.setUp .fourSlots default with handler := handler }
      [(.receive data, .historyBusy)]).map
    fun final => final.2.map fun seen => seen.config.config.sensitivity

/-- The app numbers its messages from 1 again; the reset handler acknowledges
the packet and drops it. -/
theorem earlier_number_remains :
    sessionSensitivity (earlierHandler.resetForNewConnection true)
        (sensitivityFrame 1 70) = some [50] ∧
      sessionSensitivity .construct (sensitivityFrame 1 70) = some [70] ∧
      ¬SameBehaviour Delivery.benchTiming Ota.benchOta benchUpdates
        .fourSlots (earlierHandler.resetForNewConnection true) .construct
        [.receive (sensitivityFrame 1 70)] := by
  have hreset : sessionSensitivity
      (earlierHandler.resetForNewConnection true)
      (sensitivityFrame 1 70) = some [50] := by
    decide +kernel
  have hnew : sessionSensitivity .construct (sensitivityFrame 1 70) =
      some [70] := by
    decide +kernel
  refine ⟨hreset, hnew, fun hsame => ?_⟩
  have houtputs := hsame (.setUp .fourSlots default) [.historyBusy] rfl
  have hvalues := congrArg (Option.map (List.map
    fun seen => seen.config.config.sensitivity)) houtputs
  rw [Option.map_map, Option.map_map] at hvalues
  have hboth : some [50] = some [70] := hreset.symm.trans
    (hvalues.trans hnew)
  exact absurd hboth (by decide)

end SensorFirmware
