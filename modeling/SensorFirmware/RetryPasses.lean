import SensorFirmware.EventTrace
import SensorFirmware.SessionSteps
import SensorFirmware.SyncedDelivered

/-!
# Passes of retries

A pass of `processRetries` reads the clock once, when it begins, and then visits
the slots one after another; the mutex is given back between two slots and
before a frame is sent again, so that other tasks send and time goes on in
between.  What the link is asked to send for a tracked message is recorded,
together with each retry that is taken off the budget of a message.
-/

namespace SensorFirmware

namespace ProtocolHandler

/-- The three outcomes for one slot. -/
inductive RetriesSlot (timing : TimingConfig) (handler : ProtocolHandler)
    (locked : Bool) (now : ℕ) (i : SlotIndex) :
    ProtocolHandler × Option (List Byte) → Prop
  | waits
      (hwaits : ¬(locked = true ∧ (handler.slot i).active = true ∧
        timing.ackTimeoutMs < sub32 now (handler.slot i).sentTime)) :
      RetriesSlot timing handler locked now i (handler, none)
  | retries (retryTotal : ℕ)
      (hlocked : locked = true)
      (hactive : (handler.slot i).active = true)
      (hexpired : timing.ackTimeoutMs <
        sub32 now (handler.slot i).sentTime)
      (hbudget : (handler.slot i).retryCount < timing.maxRetryCount) :
      RetriesSlot timing handler locked now i
        ({ handler.setSlot i { handler.slot i with
              retryCount := u8 ((handler.slot i).retryCount + 1)
              sentTime := now } with retryCount := retryTotal },
          some (handler.slot i).data)
  | givesUp (errorTotal : ℕ)
      (hactive : (handler.slot i).active = true)
      (hexpired : timing.ackTimeoutMs <
        sub32 now (handler.slot i).sentTime)
      (hspent : timing.maxRetryCount ≤ (handler.slot i).retryCount) :
      RetriesSlot timing handler locked now i
        ({ handler.release i with errorCount := errorTotal }, none)

theorem retrySlot_cases (timing : TimingConfig) (handler : ProtocolHandler)
    (locked : Bool) (now : ℕ) (i : SlotIndex) :
    RetriesSlot timing handler locked now i
      (handler.retrySlot timing locked now i) := by
  unfold retrySlot
  dsimp only
  split
  next hidle =>
    apply RetriesSlot.waits
    rintro ⟨hlocked, hactive, -⟩
    simp [hlocked, hactive] at hidle
  next hready =>
    obtain ⟨hlocked, hactive⟩ :
        locked = true ∧ (handler.slot i).active = true := by
      simpa using hready
    split
    next hexpired =>
      split
      next hbudget => exact .retries _ hlocked hactive hexpired hbudget
      next hspent =>
        exact .givesUp _ hactive hexpired (Nat.le_of_not_lt hspent)
    next hearly =>
      apply RetriesSlot.waits
      rintro ⟨-, -, hexpired⟩
      exact hearly hexpired

end ProtocolHandler

namespace Delivery

/-- The number of the message; a frame sent again keeps it. -/
def SentFrame.message (frame : SentFrame) : ℕ × ℕ :=
  (frame.session, frame.ordinal)

/-- A frame that was handed to the link, or counted as retried, and when. -/
inductive RetryEvent where
  | notified (frame : SentFrame) (time : ℕ)
  | counted (frame : SentFrame) (time : ℕ)
  deriving DecidableEq

namespace RetryEvent

def frame : RetryEvent → SentFrame
  | notified frame _ => frame
  | counted frame _ => frame

def time : RetryEvent → ℕ
  | notified _ time => time
  | counted _ time => time

def isNotification : RetryEvent → Bool
  | notified _ _ => true
  | counted _ _ => false

end RetryEvent

/-- A pass that is going on: when it began, the slot it comes to next, and the
frame it has copied to send again before that. -/
structure RetryPass where
  startedAt : ℕ
  next : ℕ
  resending : Option SentFrame
  deriving DecidableEq, Repr

/-- `clock` counts milliseconds without end, and `millis` is its lower word;
`stamps` are the values of the clock behind the `sentTime` of the slots. -/
structure ClockedWorld (cfg : HistoryConfig) extends World cfg where
  clock : ℕ
  pass : Option RetryPass
  stamps : Vector ℕ Protocol.maxPendingMessages
  events : List RetryEvent

inductive ClockedStep where
  | elapse (ms : ℕ)
  | session (step : Step)
  | beginPass (connected : Bool)
  | visit (locked : Bool)
  | resend

/-- The time a step reads is the time at which it is made. -/
def Step.at (now : ℕ) : Step → Step
  | .pumpRead locked _ => .pumpRead locked now
  | .pumpSend connected locked _ => .pumpSend connected locked now
  | .sendOther connected locked _ type payload =>
      .sendOther connected locked now type payload
  | .ackArrives index locked _ => .ackArrives index locked now
  | .syncSend connected locked _ => .syncSend connected locked now
  | .syncReply connected locked _ => .syncReply connected locked now
  | .restartNumbering _ => .restartNumbering now
  | .finishDisconnect _ => .finishDisconnect now
  | step => step

/-- The steps of `processRetries` are made by a pass, and the pump waits for
the end of the pass. -/
def Step.free (passing : Bool) : Step → Bool
  | .retryRead _ _ _ => false
  | .retrySend => false
  | .pumpRead _ _ => !passing
  | _ => true

namespace World

variable {cfg : HistoryConfig}

/-- The outcome of the send that a step makes, if it makes one. -/
def outcome (world : World cfg) (input : Step) : Option SendOutcome :=
  match input, world.bleTask, world.loopTask with
  | .sendOther connected locked now type payload, _, _ =>
      if type = .detectionEvent then none
      else some (world.handler.sendMessage connected world.link locked now
        type payload false)
  | .pumpSend connected locked now, _, .pumping event =>
      some (world.handler.sendDetectionEvent connected world.link locked now
        event false)
  | .syncSend connected locked now, .syncSending _ _ event, _ =>
      some (world.handler.sendDetectionEvent connected world.link locked now
        event true)
  | .syncReply connected locked now, .syncReplying seqNum, _ =>
      some (world.handler.sendAck connected world.link locked now seqNum)
  | _, _, _ => none

end World

theorem SameNumbering.origin {left right : Wire}
    (hsame : SameNumbering left right) (i : SlotIndex) :
    right.origin i = left.origin i := by
  unfold Wire.origin
  rw [hsame.origins]

theorem TableInvariant.same {left right : Wire}
    (htable : TableInvariant left) (hsame : SameNumbering left right) :
    TableInvariant right := by
  constructor
  · rw [hsame.handler, hsame.issued]
    exact htable.txSeqNum
  · rw [hsame.session, hsame.issued, hsame.numbered]
    exact htable.frames
  · intro i hactive
    rw [hsame.handler] at hactive ⊢
    rw [hsame.origin, hsame.numbered]
    exact htable.slots i hactive

theorem TableInvariant.restartNumbering {cfg : HistoryConfig}
    {world : World cfg} (htable : TableInvariant world.toWire) (now : ℕ) :
    TableInvariant (world.restartNumbering now).toWire :=
  ⟨rfl, htable.frames.restart, htable.slots⟩

namespace World

variable {cfg : HistoryConfig} {world after : World cfg}
  {timing : TimingConfig}

theorem table_of_moves {input : Step} (htable : TableInvariant world.toWire)
    (hmoves : world.Moves timing input after) :
    TableInvariant after.toWire := by
  cases hmoves with
  | frees handler hfrees hsame =>
      exact (htable.shrinks hfrees.shrinks).same hsame
  | retries locked now i hinput hsame =>
      exact (htable.shrinks (.retrySlot timing _ locked now i)).same hsame
  | sends type outcome hsend hsame =>
      exact (htable.afterSend (hsend.sends htable.seqNum_lt)).same hsame
  | restarts now hinput htask hsame =>
      exact (htable.restartNumbering now).same hsame

theorem numbered_of_moves {input : Step}
    (hmoves : world.Moves timing input after) :
    world.numbered ⊆ after.numbered := by
  cases hmoves with
  | frees handler hfrees hsame => exact hsame.numbered ▸ .refl _
  | retries locked now i hinput hsame => exact hsame.numbered ▸ .refl _
  | sends type outcome hsend hsame =>
      rw [hsame.numbered]
      exact world.toWire.numbered_afterSend outcome
  | restarts now hinput htask hsame => exact hsame.numbered ▸ .refl _

theorem initialized_step {input : Step}
    (hrange : world.InRange)
    (hstep : world.step timing input = some after) :
    after.service.initialized = world.service.initialized := by
  unfold World.step at hstep
  split at hstep
  next locked clock durationMs =>
    obtain ⟨logged, hlog, rfl⟩ := Option.map_eq_some_iff.mp hstep
    rcases HistoryService.logDetection_cases hlog with
      ⟨-, state, -, rfl⟩ | ⟨-, rfl⟩
    · exact HistoryService.initialized_afterAppend world.service clock state
    · rfl
  next =>
    cases hstep
    unfold World.sendOther
    split <;> rfl
  next =>
    rw [(World.pumpRead_frame hstep).2]
  next => cases hstep; rfl
  next => cases hstep; rfl
  next => cases hstep; rfl
  next =>
    split at hstep
    next => cases hstep; rfl
    next => cases hstep; rfl
  next => cases hstep; rfl
  next locked ack i eventId htask =>
    obtain ⟨result, hmark, hframe⟩ := HistoryService.markAsSynced_frame
      hrange.head_lt hrange.tail_lt locked eventId
    unfold World.ackMark at hstep
    rw [hmark] at hstep
    cases hstep
    exact hframe.initialized
  next => cases hstep; rfl
  next => cases hstep; rfl
  next => cases hstep; rfl
  next =>
    rw [(World.syncRead_frame hstep).2]
  next => cases hstep; rfl
  next => cases hstep; rfl
  next => cases hstep; rfl
  next => cases hstep; rfl
  next => cases hstep; rfl
  next => cases hstep; rfl
  next =>
    cases hstep
    exact HistoryService.initialized_setBleConnected _ _ _
  next => cases hstep; rfl
  next =>
    cases hstep
    exact HistoryService.initialized_setBleConnected _ _ _
  next =>
    split at hstep
    next => cases hstep; rfl
    next => cases hstep; rfl
  next =>
    split at hstep
    next => cases hstep; rfl
    next => cases hstep; rfl
  next => cases hstep; rfl

end World

namespace ClockedWorld

variable {cfg : HistoryConfig}

def start (cfg : HistoryConfig) : ClockedWorld cfg where
  toWorld := World.start cfg
  clock := 0
  pass := none
  stamps := Vector.replicate _ 0
  events := []

def stamp (world : ClockedWorld cfg) (i : SlotIndex) : ℕ :=
  getElem world.stamps i i.isLt

/-- A message that was tracked has been handed to the link once. -/
def recordSend (world : ClockedWorld cfg) (outcome : SendOutcome)
    (after : World cfg) : ClockedWorld cfg :=
  match outcome.tracked, outcome.frame with
  | some i, some bytes => { world with
      toWorld := after
      stamps := world.stamps.set i world.clock i.isLt
      events := .notified ⟨world.session, world.issued, bytes⟩ world.clock ::
        world.events }
  | _, _ => { world with toWorld := after }

def sessionStep (timing : TimingConfig) (world : ClockedWorld cfg)
    (step : Step) : Option (ClockedWorld cfg) :=
  if step.free world.pass.isSome then
    let input := step.at (u32 world.clock)
    (world.toWorld.step timing input).map fun after =>
      match world.toWorld.outcome input with
      | some outcome => world.recordSend outcome after
      | none => { world with toWorld := after }
  else some world

def beginPass (world : ClockedWorld cfg) (connected : Bool) :
    ClockedWorld cfg :=
  match world.pass, world.loopTask with
  | none, .idle =>
      if world.handler.initialized && connected then
        { world with pass := some ⟨world.clock, 0, none⟩ }
      else world
  | _, _ => world

/-- The turn of the loop for one slot, up to the copy of a frame. -/
def visitSlot (timing : TimingConfig) (world : ClockedWorld cfg)
    (pass : RetryPass) (locked : Bool) (i : SlotIndex) : ClockedWorld cfg :=
  let result := world.handler.retrySlot timing locked (u32 pass.startedAt) i
  match result.2 with
  | some bytes =>
      let frame : SentFrame := { world.origin i with bytes := bytes }
      { world with
        handler := result.1
        pass := some ⟨pass.startedAt, i + 1, some frame⟩
        stamps := world.stamps.set i pass.startedAt i.isLt
        events := .counted frame world.clock :: world.events }
  | none => { world with
      handler := result.1
      pass := some ⟨pass.startedAt, i + 1, none⟩ }

/-- The pass goes on with its next slot, or ends. -/
def visit (timing : TimingConfig) (world : ClockedWorld cfg)
    (locked : Bool) : ClockedWorld cfg :=
  match world.pass with
  | some ⟨startedAt, next, none⟩ =>
      if h : next < Protocol.maxPendingMessages then
        world.visitSlot timing ⟨startedAt, next, none⟩ locked ⟨next, h⟩
      else { world with pass := none }
  | _ => world

def resend (world : ClockedWorld cfg) : ClockedWorld cfg :=
  match world.pass with
  | some ⟨startedAt, next, some frame⟩ => { world with
      toWorld := world.toWorld.retrySend frame
      pass := some ⟨startedAt, next, none⟩
      events := .notified frame world.clock :: world.events }
  | _ => world

def step (timing : TimingConfig) (world : ClockedWorld cfg)
    (input : ClockedStep) : Option (ClockedWorld cfg) :=
  match input with
  | .elapse ms => some { world with clock := world.clock + ms }
  | .session step => world.sessionStep timing step
  | .beginPass connected => some (world.beginPass connected)
  | .visit locked => some (world.visit timing locked)
  | .resend => some world.resend

def run (timing : TimingConfig) (world : ClockedWorld cfg)
    (inputs : List ClockedStep) : Option (ClockedWorld cfg) :=
  GuardedRun.attempt (step timing) world inputs

variable {world after : ClockedWorld cfg} {timing : TimingConfig}
  {input : ClockedStep}

/-! ## Sends of the session -/

theorem outcome_of_sendOf {world : World cfg} {input : Step}
    {type : MessageType} {outcome : SendOutcome}
    (hsend : world.SendOf input type outcome) :
    world.outcome input = some outcome := by
  cases hsend with
  | pump htask => simp only [World.outcome, htask]
  | sync htask => simp only [World.outcome, htask]
  | other htype => simp only [World.outcome, if_neg htype]
  | reply htask => simp only [World.outcome, htask]

theorem sendOf_of_outcome (timing : TimingConfig) {world : World cfg}
    {input : Step}
    {outcome : SendOutcome} (houtcome : world.outcome input = some outcome) :
    ∃ type after, world.SendOf input type outcome ∧
      world.step timing input = some after ∧
      SameNumbering (world.toWire.afterSend outcome) after.toWire := by
  unfold World.outcome at houtcome
  split at houtcome
  next connected locked now type payload =>
    split at houtcome
    next => cases houtcome
    next htype =>
      cases houtcome
      refine ⟨type, _, .other htype, rfl, ?_⟩
      unfold World.sendOther
      rw [if_neg htype]
      exact ⟨rfl, rfl, rfl, rfl, rfl⟩
  next connected locked now event htask =>
    cases houtcome
    refine ⟨_, world.pumpSend event connected locked now, .pump htask, ?_,
      ⟨rfl, rfl, rfl, rfl, rfl⟩⟩
    simp only [World.step, htask]
  next connected locked now seqNum syncedCount event htask =>
    cases houtcome
    refine ⟨_, world.syncSend seqNum syncedCount event connected locked now,
      .sync htask, ?_, ⟨rfl, rfl, rfl, rfl, rfl⟩⟩
    simp only [World.step, htask]
  next connected locked now seqNum htask =>
    cases houtcome
    refine ⟨_, world.syncReply seqNum connected locked now, .reply htask, ?_,
      ⟨rfl, rfl, rfl, rfl, rfl⟩⟩
    simp only [World.step, htask]
  next => cases houtcome

/-! ## What a step does to the messages -/

/-- A slot together with the frame it was filled with and the clock behind its
`sentTime`. -/
structure Tracked where
  message : PendingMessage
  origin : SentFrame
  stamp : ℕ

def tracked (world : ClockedWorld cfg) (i : SlotIndex) : Tracked :=
  ⟨world.handler.slot i, world.origin i, world.stamp i⟩

/-- The frame that the pass has copied and not sent yet. -/
def resending (world : ClockedWorld cfg) : Option SentFrame :=
  world.pass.bind RetryPass.resending

/-- The pass finds the timeout of the slot expired. -/
def Expired (timing : TimingConfig) (world : ClockedWorld cfg)
    (startedAt : ℕ) (i : SlotIndex) : Prop :=
  (world.handler.slot i).active = true ∧
    timing.ackTimeoutMs <
      sub32 (u32 startedAt) (world.handler.slot i).sentTime

/-- Slots are given up, a message is sent and tracked, a retry is taken off
the budget of a message, or its frame is sent again. -/
inductive Moves (timing : TimingConfig) (world : ClockedWorld cfg)
    (input : ClockedStep) (after : ClockedWorld cfg) : Prop
  | quiet
      (hkept : ∀ i, (after.handler.slot i).active = true →
        after.tracked i = world.tracked i)
      (hevents : after.events = world.events)
      (hresending : after.resending = world.resending)
      (hclock : world.clock ≤ after.clock)
  | fills (i : SlotIndex) (frame : SentFrame)
      (hfresh : ∀ old ∈ world.numbered, old.message ≠ frame.message)
      (hnumbered : frame ∈ after.numbered)
      (hkept : ∀ j, j ≠ i → (after.handler.slot j).active = true →
        after.tracked j = world.tracked j)
      (hfilled : (after.handler.slot i).active = true →
        after.origin i = frame ∧ after.stamp i = world.clock ∧
          (after.handler.slot i).sentTime = u32 world.clock ∧
          (after.handler.slot i).retryCount = 0)
      (hevents : after.events =
        .notified frame world.clock :: world.events)
      (hresending : after.resending = world.resending)
      (hclock : after.clock = world.clock)
  | retries (startedAt : ℕ) (i : SlotIndex)
      (hinput : input = .visit true)
      (hpass : world.pass = some ⟨startedAt, i, none⟩)
      (hexpired : world.Expired timing startedAt i)
      (hbudget : (world.handler.slot i).retryCount < timing.maxRetryCount)
      (hkept : ∀ j, j ≠ i → after.tracked j = world.tracked j)
      (hretried : after.tracked i = ⟨{ world.handler.slot i with
        retryCount := u8 ((world.handler.slot i).retryCount + 1)
        sentTime := u32 startedAt }, world.origin i, startedAt⟩)
      (hevents : after.events =
        .counted (world.origin i) world.clock :: world.events)
      (hresending : after.resending = some (world.origin i))
      (hclock : after.clock = world.clock)
  | resends (frame : SentFrame)
      (hframe : world.resending = some frame)
      (hkept : ∀ i, after.tracked i = world.tracked i)
      (hevents : after.events =
        .notified frame world.clock :: world.events)
      (hresending : after.resending = none)
      (hclock : after.clock = world.clock)

/-- What holds of the slots and of the record of the retries. -/
structure Sound (world : ClockedWorld cfg) : Prop where
  range : world.InRange
  initialized : world.service.initialized = true
  table : TableInvariant world.toWire
  events : ∀ event ∈ world.events, event.frame ∈ world.numbered
  resending : ∀ frame, world.resending = some frame →
    frame ∈ world.numbered
  distinct : ∀ i j, (world.handler.slot i).active = true →
    (world.handler.slot j).active = true →
      (world.origin i).message = (world.origin j).message → i = j
  sentTime : ∀ i, (world.handler.slot i).active = true →
    (world.handler.slot i).sentTime = u32 (world.stamp i)

theorem slot_of_tracked {i : SlotIndex}
    (hsame : after.tracked i = world.tracked i) :
    after.handler.slot i = world.handler.slot i :=
  congrArg Tracked.message hsame

theorem origin_of_tracked {i : SlotIndex}
    (hsame : after.tracked i = world.tracked i) :
    after.origin i = world.origin i :=
  congrArg Tracked.origin hsame

theorem stamp_of_tracked {i : SlotIndex}
    (hsame : after.tracked i = world.tracked i) :
    after.stamp i = world.stamp i :=
  congrArg Tracked.stamp hsame

theorem tracked_eq {i : SlotIndex}
    (hslot : after.handler.slot i = world.handler.slot i)
    (horigin : after.origin i = world.origin i)
    (hstamp : after.stamp i = world.stamp i) :
    after.tracked i = world.tracked i := by
  unfold tracked
  rw [hslot, horigin, hstamp]

namespace Sound

theorem origin_numbered (hsound : world.Sound) {i : SlotIndex}
    (hactive : (world.handler.slot i).active = true) :
    world.origin i ∈ world.numbered :=
  (hsound.table.slots i hactive).numbered

theorem events_of_moves (hsound : world.Sound)
    (hmoves : world.Moves timing input after)
    (hgrow : world.numbered ⊆ after.numbered) :
    ∀ event ∈ after.events, event.frame ∈ after.numbered := by
  have hold : ∀ event ∈ world.events, event.frame ∈ after.numbered :=
    fun event hmem => hgrow (hsound.events event hmem)
  cases hmoves with
  | quiet _ hevents =>
      rw [hevents]
      exact hold
  | fills _ _ _ hnumbered _ _ hevents =>
      rw [hevents]
      exact List.forall_mem_cons.mpr ⟨hnumbered, hold⟩
  | retries _ i _ _ hexpired _ _ _ hevents =>
      have hnumbered := hgrow (hsound.origin_numbered hexpired.1)
      rw [hevents]
      exact List.forall_mem_cons.mpr ⟨hnumbered, hold⟩
  | resends frame hframe _ hevents =>
      have hnumbered := hgrow (hsound.resending frame hframe)
      rw [hevents]
      exact List.forall_mem_cons.mpr ⟨hnumbered, hold⟩

theorem resending_of_moves (hsound : world.Sound)
    (hmoves : world.Moves timing input after)
    (hgrow : world.numbered ⊆ after.numbered) :
    ∀ frame, after.resending = some frame → frame ∈ after.numbered := by
  intro frame hframe
  cases hmoves with
  | quiet _ _ hresending =>
      rw [hresending] at hframe
      exact hgrow (hsound.resending frame hframe)
  | fills _ _ _ _ _ _ _ hresending =>
      rw [hresending] at hframe
      exact hgrow (hsound.resending frame hframe)
  | retries _ i _ _ hexpired _ _ _ _ hresending =>
      rw [hresending] at hframe
      rw [← Option.some.inj hframe]
      exact hgrow (hsound.origin_numbered hexpired.1)
  | resends _ _ _ _ hresending =>
      rw [hresending] at hframe
      cases hframe

/-- The slots of the step before are as far apart as those after it. -/
theorem distinct_of_kept (hsound : world.Sound) {P : SlotIndex → Prop}
    (hkept : ∀ i, P i → (after.handler.slot i).active = true →
      (world.handler.slot i).active = true ∧
        after.origin i = world.origin i) {i j : SlotIndex}
    (hi : P i) (hj : P j) (hactive : (after.handler.slot i).active = true)
    (hother : (after.handler.slot j).active = true)
    (hsame : (after.origin i).message = (after.origin j).message) :
    i = j := by
  obtain ⟨hiOld, hiOrigin⟩ := hkept i hi hactive
  obtain ⟨hjOld, hjOrigin⟩ := hkept j hj hother
  rw [hiOrigin, hjOrigin] at hsame
  exact hsound.distinct i j hiOld hjOld hsame

theorem distinct_of_moves (hsound : world.Sound)
    (hmoves : world.Moves timing input after) {i j : SlotIndex}
    (hi : (after.handler.slot i).active = true)
    (hj : (after.handler.slot j).active = true)
    (hsame : (after.origin i).message = (after.origin j).message) :
    i = j := by
  have hkept_of {k : SlotIndex}
      (htracked : after.tracked k = world.tracked k)
      (hactive : (after.handler.slot k).active = true) :
      (world.handler.slot k).active = true ∧
        after.origin k = world.origin k := by
    rw [slot_of_tracked htracked] at hactive
    exact ⟨hactive, origin_of_tracked htracked⟩
  cases hmoves with
  | quiet hkept =>
      refine hsound.distinct_of_kept (P := fun _ => True) ?_ trivial trivial
        hi hj hsame
      exact fun k _ hactive => hkept_of (hkept k hactive) hactive
  | fills k frame hfresh hnumbered hkept hfilled =>
      have hold : ∀ l, l ≠ k → (after.handler.slot l).active = true →
          (world.handler.slot l).active = true ∧
            after.origin l = world.origin l :=
        fun l hne hactive => hkept_of (hkept l hne hactive) hactive
      -- no other slot holds the new message
      have hother : ∀ l, l ≠ k → (after.handler.slot l).active = true →
          (after.origin l).message ≠ frame.message := by
        intro l hne hactive
        obtain ⟨hwas, horigin⟩ := hold l hne hactive
        rw [horigin]
        exact hfresh _ (hsound.origin_numbered hwas)
      by_cases hik : i = k
      · by_contra hne
        rw [hik, (hfilled (hik ▸ hi)).1] at hsame
        exact hother j (fun hjk => hne (hik.trans hjk.symm)) hj hsame.symm
      · by_cases hjk : j = k
        · rw [hjk, (hfilled (hjk ▸ hj)).1] at hsame
          exact absurd hsame (hother i hik hi)
        · exact hsound.distinct_of_kept hold hik hjk hi hj hsame
  | retries startedAt k hinput hpass hexpired hbudget hkept hretried =>
      refine hsound.distinct_of_kept (P := fun _ => True) ?_ trivial trivial
        hi hj hsame
      intro l _ hactive
      by_cases hlk : l = k
      · rw [hlk]
        exact ⟨hexpired.1, congrArg Tracked.origin hretried⟩
      · exact hkept_of (hkept l hlk) hactive
  | resends frame hframe hkept =>
      refine hsound.distinct_of_kept (P := fun _ => True) ?_ trivial trivial
        hi hj hsame
      exact fun k _ hactive => hkept_of (hkept k) hactive

theorem sentTime_of_moves (hsound : world.Sound)
    (hmoves : world.Moves timing input after) {i : SlotIndex}
    (hactive : (after.handler.slot i).active = true) :
    (after.handler.slot i).sentTime = u32 (after.stamp i) := by
  have hkept_of (htracked : after.tracked i = world.tracked i) :
      (after.handler.slot i).sentTime = u32 (after.stamp i) := by
    rw [slot_of_tracked htracked] at hactive ⊢
    rw [stamp_of_tracked htracked]
    exact hsound.sentTime i hactive
  cases hmoves with
  | quiet hkept => exact hkept_of (hkept i hactive)
  | fills k frame hfresh hnumbered hkept hfilled =>
      by_cases hik : i = k
      · rw [hik] at hactive ⊢
        obtain ⟨-, hstamp, hsent, -⟩ := hfilled hactive
        rw [hsent, hstamp]
      · exact hkept_of (hkept i hik hactive)
  | retries startedAt k hinput hpass hexpired hbudget hkept hretried =>
      by_cases hik : i = k
      · have hslot := congrArg Tracked.message hretried
        have hstamp := congrArg Tracked.stamp hretried
        rw [hik]
        exact (congrArg PendingMessage.sentTime hslot).trans
          (congrArg u32 hstamp.symm)
      · exact hkept_of (hkept i hik)
  | resends frame hframe hkept => exact hkept_of (hkept i)

theorem of_moves (hsound : world.Sound)
    (hmoves : world.Moves timing input after) (hrange : after.InRange)
    (hinit : after.service.initialized = true)
    (htable : TableInvariant after.toWire)
    (hgrow : world.numbered ⊆ after.numbered) : after.Sound where
  range := hrange
  initialized := hinit
  table := htable
  events := hsound.events_of_moves hmoves hgrow
  resending := hsound.resending_of_moves hmoves hgrow
  distinct := fun _ _ hi hj => hsound.distinct_of_moves hmoves hi hj
  sentTime := fun _ => hsound.sentTime_of_moves hmoves

end Sound

/-! ## All that a step can do -/

/-- The step succeeds, keeps what holds of the slots, and makes one of the
moves. -/
def Progress (timing : TimingConfig) (world : ClockedWorld cfg)
    (input : ClockedStep) (result : Option (ClockedWorld cfg)) : Prop :=
  ∃ after, result = some after ∧ after.Sound ∧ world.Moves timing input after

theorem fills_of_sendOf {world : World cfg} {step : Step} {now : ℕ}
    {type : MessageType} {outcome : SendOutcome}
    (hsend : world.SendOf (step.at now) type outcome) :
    ProtocolHandler.Fills world.handler now outcome := by
  generalize hinput : step.at now = input at hsend
  cases hsend with
  | pump htask =>
      cases step <;> cases hinput
      exact ProtocolHandler.fills_sendDetectionEvent
  | sync htask =>
      cases step <;> cases hinput
      exact ProtocolHandler.fills_sendDetectionEvent
  | other htype =>
      cases step <;> cases hinput
      exact ProtocolHandler.fills_sendMessage
  | reply htask =>
      cases step <;> cases hinput
      exact ProtocolHandler.fills_sendMessage

/-- A number that is taken now has not been taken before. -/
theorem Sound.fresh (hsound : world.Sound) (bytes : List Byte) :
    ∀ old ∈ world.numbered,
      old.message ≠ SentFrame.message ⟨world.session, world.issued, bytes⟩ := by
  intro old hmem hsame
  obtain ⟨hsession, hordinal⟩ := Prod.mk.inj hsame
  have hlt := hsound.table.frames.ordinal_lt old hmem hsession
  exact absurd hordinal hlt.ne

theorem moves_recordSend (hsound : world.Sound) {type : MessageType}
    {outcome : SendOutcome} {next : World cfg}
    (hsends : ProtocolHandler.Sends world.handler type outcome)
    (hfills : ProtocolHandler.Fills world.handler (u32 world.clock) outcome)
    (hsame : SameNumbering (world.toWire.afterSend outcome) next.toWire) :
    world.Moves timing input (world.recordSend outcome next) := by
  have hhandler : next.handler = outcome.handler :=
    hsame.handler.trans (Wire.handler_afterSend world.toWire)
  -- a slot that was not filled now keeps its frame
  have horigin : ∀ j, outcome.tracked ≠ some j →
      next.origin j = world.origin j := fun j hother =>
    (hsame.origin j).trans (Wire.origin_afterSend_of_ne world.toWire hother)
  have hslot : ∀ j, outcome.tracked ≠ some j →
      (next.handler.slot j).active = true →
        next.handler.slot j = world.handler.slot j := by
    intro j hother hactive
    rw [hhandler] at hactive ⊢
    rcases hfills j hactive with ⟨-, hkept⟩ | ⟨htracked, -⟩
    · exact hkept
    · exact absurd htracked hother
  have hquiet (hnone : ∀ j, (next.handler.slot j).active = true →
      outcome.tracked ≠ some j) :
      world.Moves timing input { world with toWorld := next } := by
    refine .quiet ?_ rfl rfl le_rfl
    intro j hactive
    have hother := hnone j hactive
    exact tracked_eq (hslot j hother hactive) (horigin j hother) rfl
  unfold recordSend
  split
  next i bytes htracked hframe =>
    refine .fills i ⟨world.session, world.issued, bytes⟩
      (hsound.fresh bytes) ?_ ?_ ?_ rfl rfl rfl
    · have hnumbered : next.numbered =
          (world.toWire.afterSend outcome).numbered := hsame.numbered
      simp only [hnumbered, Wire.afterSend, hframe]
      exact List.mem_cons_self ..
    · intro j hne hactive
      have hother : outcome.tracked ≠ some j := by
        rw [htracked]
        simpa using Ne.symm hne
      have hstamp : (world.stamps.set i world.clock i.isLt)[j] =
          world.stamp j :=
        Vector.getElem_set_ne i.isLt j.isLt (Fin.val_ne_of_ne hne.symm)
      exact tracked_eq (hslot j hother hactive) (horigin j hother) hstamp
    · intro hactive
      have hstamp : (world.stamps.set i world.clock i.isLt)[i] =
          world.clock := Vector.getElem_set_self i.isLt
      have hactiveSent : (outcome.handler.slot i).active = true :=
        hhandler ▸ hactive
      rcases hfills i hactiveSent with ⟨hother, -⟩ | ⟨-, hsent, hretry⟩
      · exact absurd htracked hother
      · refine ⟨?_, hstamp, ?_, ?_⟩
        · exact (hsame.origin i).trans
            (world.toWire.origin_afterSend_of_tracked hframe htracked)
        · exact hhandler ▸ hsent
        · exact hhandler ▸ hretry
  next hother =>
    apply hquiet
    intro j hactive htracked
    have hactiveSent : (outcome.handler.slot j).active = true :=
      hhandler ▸ hactive
    rcases hsends.slots j hactiveSent with ⟨hne, -⟩ | ⟨-, hframe, -⟩
    · exact hne htracked
    · exact hother j _ htracked hframe

theorem progress_session (timing : TimingConfig) (hsound : world.Sound)
    (step : Step) :
    world.Progress timing (.session step) (world.sessionStep timing step) := by
  unfold sessionStep
  split
  next hfree =>
    obtain ⟨next, hstep, hrange, hmoves⟩ := World.progress_step timing
      hsound.range (step.at (u32 world.clock))
    have hinit : next.service.initialized = true :=
      (World.initialized_step hsound.range hstep).trans hsound.initialized
    have htable := World.table_of_moves hsound.table hmoves
    have hgrow := World.numbered_of_moves hmoves
    simp only [hstep, Option.map_some]
    cases houtcome : world.toWorld.outcome (step.at (u32 world.clock)) with
    | some outcome =>
        obtain ⟨type, next', hsend, hstep', hsame⟩ :=
          sendOf_of_outcome timing houtcome
        rw [hstep] at hstep'
        cases Option.some.inj hstep'
        have hrecorded : world.Moves timing (.session step)
            (world.recordSend outcome next) :=
          moves_recordSend hsound (hsend.sends hsound.table.seqNum_lt)
            (fills_of_sendOf hsend) hsame
        have hworld : (world.recordSend outcome next).toWorld = next := by
          unfold recordSend
          split <;> rfl
        refine ⟨_, rfl, ?_, hrecorded⟩
        apply hsound.of_moves hrecorded <;> rw [hworld] <;> assumption
    | none =>
        have hquiet : world.Moves timing (.session step)
            { world with toWorld := next } := by
          refine .quiet ?_ rfl rfl le_rfl
          intro i hactive
          cases hmoves with
          | frees handler hfrees hsame =>
              have hhandler : next.handler = handler := hsame.handler
              have hkept := hfrees.kept i (hhandler ▸ hactive)
              exact tracked_eq (hhandler ▸ hkept) (hsame.origin i) rfl
          | retries locked now j hinput hsame =>
              cases step <;> cases hinput
              cases hfree
          | sends type outcome hsend hsame =>
              rw [outcome_of_sendOf hsend] at houtcome
              cases houtcome
          | restarts now hinput htask hsame =>
              have hslot : next.handler.slot i = world.handler.slot i := by
                rw [hsame.handler]
                rfl
              exact tracked_eq hslot (hsame.origin i) rfl
        exact ⟨_, rfl, hsound.of_moves hquiet hrange hinit htable hgrow,
          hquiet⟩
  next =>
    have hquiet : world.Moves timing (.session step) world :=
      .quiet (fun _ _ => rfl) rfl rfl le_rfl
    exact ⟨world, rfl, hsound, hquiet⟩

theorem Sound.quiet (hsound : world.Sound)
    (hquiet : world.Moves timing input after)
    (hservice : after.service = world.service)
    (htable : TableInvariant after.toWire)
    (hnumbered : after.numbered = world.numbered) :
    world.Progress timing input (some after) := by
  have hrange : after.InRange := by
    constructor
    · rw [hservice]
      exact hsound.range.head_lt
    · rw [hservice]
      exact hsound.range.tail_lt
  have hinit : after.service.initialized = true := by
    rw [hservice]
    exact hsound.initialized
  have hgrow : world.numbered ⊆ after.numbered := hnumbered ▸ .refl _
  exact ⟨after, rfl, hsound.of_moves hquiet hrange hinit htable hgrow, hquiet⟩

theorem progress_visitSlot (timing : TimingConfig) (hsound : world.Sound)
    {startedAt : ℕ} {i : SlotIndex} (locked : Bool)
    (hpass : world.pass = some ⟨startedAt, i, none⟩) :
    world.Progress timing (.visit locked)
      (some (world.visitSlot timing ⟨startedAt, i, none⟩ locked i)) := by
  have hshrinks := ProtocolHandler.Shrinks.retrySlot timing world.handler
    locked (u32 startedAt) i
  have hcases := ProtocolHandler.retrySlot_cases timing world.handler locked
    (u32 startedAt) i
  have hnone : world.resending = none := by
    unfold resending
    rw [hpass]
    rfl
  unfold visitSlot
  dsimp only
  generalize world.handler.retrySlot timing locked (u32 startedAt) i = result
    at hshrinks hcases ⊢
  have htable := hsound.table.shrinks hshrinks
  cases hcases with
  | waits =>
      refine hsound.quiet (.quiet ?_ rfl hnone.symm le_rfl) rfl htable rfl
      exact fun _ _ => rfl
  | givesUp errorTotal =>
      refine hsound.quiet (.quiet ?_ rfl hnone.symm le_rfl) rfl htable rfl
      intro j hactive
      have hkept := (ProtocolHandler.Frees.release world.handler i).kept j
        hactive
      exact tracked_eq hkept rfl rfl
  | retries retryTotal hlocked hactive hexpired hbudget =>
      have hdata := (hsound.table.slots i hactive).data
      have horigin : { world.origin i with
          bytes := (world.handler.slot i).data } = world.origin i := by
        rw [hdata]
      have hslot (j : SlotIndex) := ProtocolHandler.slot_setSlot
        world.handler i j { world.handler.slot i with
          retryCount := u8 ((world.handler.slot i).retryCount + 1)
          sentTime := u32 startedAt }
      simp only [horigin]
      refine hsound.quiet (.retries startedAt i (hlocked ▸ rfl) hpass
        ⟨hactive, hexpired⟩ hbudget ?_ ?_ rfl rfl rfl) rfl htable rfl
      · intro j hne
        have hstamp : (world.stamps.set i startedAt i.isLt)[j] =
            world.stamp j :=
          Vector.getElem_set_ne i.isLt j.isLt (Fin.val_ne_of_ne hne.symm)
        exact tracked_eq ((hslot j).trans (if_neg hne.symm)) rfl hstamp
      · have hstamp : (world.stamps.set i startedAt i.isLt)[i] =
            startedAt := Vector.getElem_set_self i.isLt
        exact congrArg₂ (fun message stamp =>
          Tracked.mk message (world.origin i) stamp)
            ((hslot i).trans (if_pos rfl)) hstamp

theorem progress_visit (timing : TimingConfig) (hsound : world.Sound)
    (locked : Bool) :
    world.Progress timing (.visit locked)
      (some (world.visit timing locked)) := by
  have hstill : world.Moves timing (.visit locked) world :=
    .quiet (fun _ _ => rfl) rfl rfl le_rfl
  unfold visit
  split
  next startedAt next hpass =>
    split
    next hnext =>
      exact progress_visitSlot timing hsound locked (i := ⟨next, hnext⟩) hpass
    next =>
      have hnone : world.resending = none := by
        unfold resending
        rw [hpass]
        rfl
      refine hsound.quiet (.quiet ?_ rfl hnone.symm le_rfl) rfl
        hsound.table rfl
      exact fun _ _ => rfl
  next => exact hsound.quiet hstill rfl hsound.table rfl

theorem progress_resend (timing : TimingConfig) (hsound : world.Sound) :
    world.Progress timing .resend (some world.resend) := by
  unfold resend
  split
  next startedAt next frame hpass =>
    have hframe : world.resending = some frame := by
      unfold resending
      rw [hpass]
      rfl
    have htable := hsound.table
    refine hsound.quiet (.resends frame hframe ?_ rfl rfl rfl) rfl
      ⟨htable.txSeqNum, htable.frames, htable.slots⟩ rfl
    exact fun _ => rfl
  next =>
    have hstill : world.Moves timing .resend world :=
      .quiet (fun _ _ => rfl) rfl rfl le_rfl
    exact hsound.quiet hstill rfl hsound.table rfl

theorem progress_beginPass (timing : TimingConfig) (hsound : world.Sound)
    (connected : Bool) :
    world.Progress timing (.beginPass connected)
      (some (world.beginPass connected)) := by
  have hstill : world.Moves timing (.beginPass connected) world :=
    .quiet (fun _ _ => rfl) rfl rfl le_rfl
  unfold beginPass
  split
  next hpass _ =>
    split
    · have hnone : world.resending = none := by
        unfold resending
        rw [hpass]
        rfl
      refine hsound.quiet (.quiet ?_ rfl hnone.symm le_rfl) rfl
        hsound.table rfl
      exact fun _ _ => rfl
    · exact hsound.quiet hstill rfl hsound.table rfl
  next => exact hsound.quiet hstill rfl hsound.table rfl

theorem progress_step (timing : TimingConfig) (hsound : world.Sound)
    (input : ClockedStep) :
    world.Progress timing input (world.step timing input) := by
  cases input with
  | elapse ms =>
      have hquiet : world.Moves timing (.elapse ms)
          { world with clock := world.clock + ms } :=
        .quiet (fun _ _ => rfl) rfl rfl (Nat.le_add_right _ _)
      exact hsound.quiet hquiet rfl hsound.table rfl
  | session step => exact progress_session timing hsound step
  | beginPass connected => exact progress_beginPass timing hsound connected
  | visit locked => exact progress_visit timing hsound locked
  | resend => exact progress_resend timing hsound

theorem sound_start (cfg : HistoryConfig) :
    (ClockedWorld.start cfg).Sound := by
  have hempty : ∀ i, ((ClockedWorld.start cfg).handler.slot i).active =
      false := by
    intro i
    simp [ClockedWorld.start, World.start, ProtocolHandler.construct,
      ProtocolHandler.slot, PendingMessage.empty]
  have hidle {i : SlotIndex} {P : Prop}
      (hactive : ((ClockedWorld.start cfg).handler.slot i).active = true) :
      P := by
    rw [hempty i] at hactive
    cases hactive
  constructor
  · exact World.inRange_start cfg
  · rfl
  · exact ⟨rfl, .nil, fun i hactive => hidle hactive⟩
  · intro event hmem
    cases hmem
  · intro frame hframe
    cases hframe
  · exact fun i j hactive => hidle hactive
  · exact fun i hactive => hidle hactive

end ClockedWorld

end Delivery

end SensorFirmware
