import SensorFirmware.FixedWindow
import SensorFirmware.RetryPasses

/-!
# The pump and the governor

The pump attempts a send at most once in 150 ms and the governor admits five
sends in a window of a second, so a backlog runs into the governor.  The times
at which `update` is called decide which of the calls are attempts, whatever
the backlog, the link and the app do.
-/

namespace SensorFirmware

open FixedWindow

/-- A ring that holds seven detections. -/
def HistoryConfig.eightSlots : HistoryConfig where
  bufferSize := 8
  rtcMagicNumber := 0xA5A5A5A5
  nvsFlushThreshold := 3
  storageQueueDepth := 4
  two_le_bufferSize := by decide
  bufferSize_lt := by decide

/-- The rate limit of `sendDetectionEvent`. -/
def detectionLimit : Limit where
  elapsed := sub32
  width := Protocol.detectionRateWindowMs
  budget := Protocol.maxDetectionsPerWindow

theorem sub32_self (now : ℕ) : sub32 now now = 0 := by
  unfold sub32 u32
  omega

theorem detectionLimit_self (now : ℕ) :
    detectionLimit.elapsed now now ≤ detectionLimit.width := by
  change sub32 now now ≤ 1000
  rw [sub32_self]
  exact Nat.zero_le 1000

namespace ProtocolHandler

def governor (handler : ProtocolHandler) : Window :=
  ⟨handler.detectionWindowStart, handler.detectionEventCount⟩

/-- The branch that drops the event and suppresses detections. -/
def governorDrops (handler : ProtocolHandler) (now : ℕ) : Bool :=
  Protocol.maxDetectionsPerWindow ≤
    (handler.renewWindow now).detectionEventCount

variable {handler : ProtocolHandler} {connected : Bool} {link : BleLink}
  {locked : Bool} {now : ℕ}

theorem sendDetectionEvent_governed (event : DetectionEvent) :
    handler.sendDetectionEvent connected link locked now event false =
      if handler.governorDrops now then .refused (handler.renewWindow now)
      else (handler.renewWindow now).countDetection.sendMessage connected
        link locked now .detectionEvent event.toBytes true := by
  unfold sendDetectionEvent governorDrops
  simp only [Bool.false_eq_true, if_false, decide_eq_true_eq]

theorem governor_renewWindow :
    (handler.renewWindow now).governor =
      detectionLimit.renew handler.governor now := by
  unfold renewWindow Limit.renew governor detectionLimit
  dsimp only
  split <;> rfl

theorem governorDrops_iff :
    handler.governorDrops now = true ↔
      ¬detectionLimit.Admits handler.governor now := by
  have hcalls : (handler.renewWindow now).detectionEventCount =
      (detectionLimit.renew handler.governor now).calls :=
    congrArg Window.calls governor_renewWindow
  unfold governorDrops Limit.Admits
  rw [hcalls, decide_eq_true_eq, Nat.not_lt]
  rfl

/-! ## Who touches the window of the governor -/

theorem governor_clearPendingLocked (seqNum : ℕ) :
    (handler.clearPendingLocked seqNum).governor = handler.governor := by
  unfold clearPendingLocked
  split <;> rfl

theorem governor_notify (seqNum : ℕ) (frame : List Byte)
    (tracked : Option SlotIndex) :
    (handler.notify link seqNum frame tracked).handler.governor =
      handler.governor := by
  unfold notify
  split
  · rfl
  · exact governor_clearPendingLocked seqNum

theorem governor_sendMessage (type : MessageType) (payload : List Byte)
    (requireAck : Bool) :
    (handler.sendMessage connected link locked now type payload
      requireAck).handler.governor = handler.governor := by
  unfold sendMessage
  split
  · dsimp only
    split
    · rfl
    · split
      · split
        · rfl
        next htrack =>
          obtain ⟨free, -, htracking⟩ := Option.map_eq_some_iff.mp htrack
          cases htracking
          exact governor_notify _ _ _
      · exact governor_notify _ _ _
  · rfl

theorem governor_countDetection (hadmits :
    detectionLimit.Admits handler.governor now) :
    (handler.renewWindow now).countDetection.governor =
      detectionLimit.count handler.governor now := by
  have hrenewed : (handler.renewWindow now).governor =
      detectionLimit.renew handler.governor now := governor_renewWindow
  have hroom : (handler.renewWindow now).detectionEventCount + 1 < 2 ^ 8 := by
    have hcalls := congrArg Window.calls hrenewed
    have hlt : (detectionLimit.renew handler.governor now).calls < 5 :=
      hadmits
    rw [← hcalls] at hlt
    change (handler.renewWindow now).detectionEventCount < 5 at hlt
    omega
  unfold Limit.count
  rw [← hrenewed]
  unfold countDetection governor
  rw [u8, Nat.mod_eq_of_lt hroom]

theorem governor_retrySlot (timing : TimingConfig) (i : SlotIndex) :
    (handler.retrySlot timing locked now i).1.governor = handler.governor := by
  have hcases := retrySlot_cases timing handler locked now i
  generalize handler.retrySlot timing locked now i = result at hcases ⊢
  cases hcases <;> rfl

theorem governor_validateAckSecurity (seqNum : ℕ) :
    (handler.validateAckSecurity locked now seqNum).1.governor =
      handler.governor := by
  unfold validateAckSecurity
  split <;> rfl

theorem governor_lookupAck (ackedSeq : ℕ) :
    (handler.lookupAck locked ackedSeq).1.governor = handler.governor := by
  unfold lookupAck
  split
  · rfl
  · split
    · rfl
    · split <;> rfl

theorem governor_confirmAck (i : SlotIndex) (ackedSeq : ℕ) :
    (handler.confirmAck locked i ackedSeq).governor = handler.governor := by
  unfold confirmAck
  split <;> rfl

theorem governor_handleNack (nackedSeq : ℕ) :
    (handler.handleNack locked nackedSeq).governor = handler.governor := by
  unfold handleNack clearPending
  cases locked with
  | false => rfl
  | true => exact governor_clearPendingLocked nackedSeq

theorem governor_clearAllPending :
    (handler.clearAllPending locked).governor = handler.governor := by
  unfold clearAllPending
  split <;> rfl

end ProtocolHandler

namespace Delivery

variable {cfg : HistoryConfig}

/-- The steps of the other tasks.  The synchronisation sends nothing, so the
pump is the only caller of `sendDetectionEvent`. -/
def Step.aside : Step → Bool
  | .pumpRead _ _ => false
  | .pumpSend _ _ _ => false
  | .retryRead _ _ _ => false
  | .retrySend => false
  | .syncSend _ _ _ => false
  | _ => true

namespace World

variable {world after : World cfg}

/-- What the pump and the governor remember is left as it is. -/
structure PumpWaits (world after : World cfg) : Prop where
  governor : after.handler.governor = world.handler.governor
  loopTask : after.loopTask = world.loopTask
  lastPumpAttemptMs : after.lastPumpAttemptMs = world.lastPumpAttemptMs

theorem PumpWaits.of_sent {outcome : SendOutcome}
    (hsame : outcome.handler.governor = world.handler.governor)
    (hwire : after.toWire = world.toWire.afterSend outcome)
    (hlast : after.lastPumpAttemptMs = world.lastPumpAttemptMs) :
    PumpWaits world after := by
  refine ⟨?_, ?_, hlast⟩
  · rw [hwire, Wire.handler_afterSend]
    exact hsame
  · rw [hwire]
    unfold Wire.afterSend
    split <;> rfl

theorem pumpWaits_syncRead {seqNum lastSyncedId syncedCount : ℕ}
    {locked : Bool} (hread : world.syncRead seqNum lastSyncedId syncedCount
      locked = some after) : PumpWaits world after := by
  unfold World.syncRead at hread
  split at hread
  · obtain ⟨result, -, rfl⟩ := Option.map_eq_some_iff.mp hread
    split <;> exact ⟨rfl, rfl, rfl⟩
  · cases hread
    exact ⟨rfl, rfl, rfl⟩

theorem pumpWaits_step {timing : TimingConfig} {input : Step}
    (haside : input.aside = true)
    (hstep : world.step timing input = some after) :
    PumpWaits world after := by
  unfold World.step at hstep
  split at hstep
  next =>
    obtain ⟨logged, -, rfl⟩ := Option.map_eq_some_iff.mp hstep
    exact ⟨rfl, rfl, rfl⟩
  next =>
    cases hstep
    unfold World.sendOther
    split
    · exact ⟨rfl, rfl, rfl⟩
    · exact .of_sent (ProtocolHandler.governor_sendMessage _ _ _) rfl rfl
  next => cases haside
  next => cases haside
  next => cases haside
  next => cases haside
  next =>
    split at hstep
    next =>
      cases hstep
      exact ⟨ProtocolHandler.governor_validateAckSecurity _, rfl, rfl⟩
    next =>
      cases hstep
      exact ⟨rfl, rfl, rfl⟩
  next =>
    cases hstep
    exact ⟨ProtocolHandler.governor_lookupAck _, rfl, rfl⟩
  next =>
    obtain ⟨result, -, rfl⟩ := Option.map_eq_some_iff.mp hstep
    exact ⟨rfl, rfl, rfl⟩
  next =>
    cases hstep
    exact ⟨ProtocolHandler.governor_confirmAck _ _, rfl, rfl⟩
  next =>
    cases hstep
    exact ⟨ProtocolHandler.governor_handleNack _, rfl, rfl⟩
  next => cases hstep; exact ⟨rfl, rfl, rfl⟩
  next => exact pumpWaits_syncRead hstep
  next => cases haside
  next =>
    cases hstep
    exact .of_sent (ProtocolHandler.governor_sendMessage _ _ _) rfl rfl
  next => cases hstep; exact ⟨rfl, rfl, rfl⟩
  next => cases hstep; exact ⟨rfl, rfl, rfl⟩
  next => cases hstep; exact ⟨rfl, rfl, rfl⟩
  next =>
    cases hstep
    exact ⟨ProtocolHandler.governor_clearAllPending, rfl, rfl⟩
  next => cases hstep; exact ⟨rfl, rfl, rfl⟩
  next =>
    cases hstep
    exact ⟨ProtocolHandler.governor_clearAllPending, rfl, rfl⟩
  next => cases hstep; exact ⟨rfl, rfl, rfl⟩
  next =>
    split at hstep
    next => cases hstep; exact ⟨rfl, rfl, rfl⟩
    next => cases hstep; exact ⟨rfl, rfl, rfl⟩
  next =>
    split at hstep
    next => cases hstep; exact ⟨rfl, rfl, rfl⟩
    next => cases hstep; exact ⟨rfl, rfl, rfl⟩
  next => cases hstep; exact ⟨rfl, rfl, rfl⟩

/-- Up to the event it reads, `update` notes the attempt or does nothing. -/
theorem pumpRead_cases {locked : Bool} {now : ℕ}
    (hread : world.pumpRead locked now = some after) :
    (sub32 now world.lastPumpAttemptMs <
        DetectionDeliveryPumpConfig.minPumpIntervalMs ∧ after = world) ∨
      (¬sub32 now world.lastPumpAttemptMs <
          DetectionDeliveryPumpConfig.minPumpIntervalMs ∧
        after.lastPumpAttemptMs = now ∧
        (after.loopTask = world.loopTask ∨
          ∃ event, after.loopTask = .pumping event)) := by
  unfold World.pumpRead at hread
  dsimp only at hread
  split at hread
  next hearly =>
    cases hread
    exact .inl ⟨hearly, rfl⟩
  next hlate =>
    refine .inr ⟨hlate, ?_⟩
    split at hread
    · cases hread
      exact ⟨rfl, .inl rfl⟩
    · split at hread
      · cases hread
        exact ⟨rfl, .inl rfl⟩
      · obtain ⟨event?, -, rfl⟩ := Option.map_eq_some_iff.mp hread
        cases event? with
        | some event => exact ⟨rfl, .inr ⟨event, rfl⟩⟩
        | none => exact ⟨rfl, .inl rfl⟩

theorem governor_pumpSend (world : World cfg) (event : DetectionEvent)
    (connected locked : Bool) (now : ℕ)
    (hkept : world.handler.governorDrops now = false) :
    (world.pumpSend event connected locked now).handler.governor =
      detectionLimit.count world.handler.governor now := by
  have hadmits : detectionLimit.Admits world.handler.governor now := by
    by_contra hfull
    rw [ProtocolHandler.governorDrops_iff.mpr hfull] at hkept
    cases hkept
  unfold World.pumpSend
  dsimp only
  rw [Wire.handler_afterSend, ProtocolHandler.sendDetectionEvent_governed,
    hkept, if_neg Bool.false_ne_true,
    ProtocolHandler.governor_sendMessage,
    ProtocolHandler.governor_countDetection hadmits]

end World

/-! ## Schedules of the main loop -/

/-- Time goes by, or another task makes a step. -/
inductive Passing where
  | elapse (ms : ℕ)
  | step (step : Step)

/-- What happens while the main loop is elsewhere, a call of `update`, and a
slot of `processRetries`, whose pass has read the clock before.  `meanwhile` is
what happens between the two critical sections of a call. -/
inductive GovernedStep where
  | pass (passing : Passing)
  | update (locked : Bool) (meanwhile : List Passing)
      (connected sendLocked : Bool)
  | retry (locked : Bool) (now : ℕ) (i : SlotIndex)
      (meanwhile : List Passing)

def Passing.clockAfter (clock : ℕ) : Passing → ℕ
  | .elapse ms => clock + ms
  | .step _ => clock

def clockAfter (clock : ℕ) (meanwhile : List Passing) : ℕ :=
  meanwhile.foldl Passing.clockAfter clock

/-- What the interval of the pump makes of the calls of `update`: `attempts`
are the readings of `millis` that the governor takes if the call comes so far,
newest first. -/
structure PumpSchedule where
  clock : ℕ
  lastAttemptMs : ℕ
  attempts : List ℕ
  deriving DecidableEq, Repr

namespace PumpSchedule

/-- `init` of the pump notes the time. -/
def start (clock : ℕ) : PumpSchedule := ⟨clock, u32 clock, []⟩

def update (schedule : PumpSchedule) (meanwhile : List Passing) :
    PumpSchedule :=
  let now := u32 schedule.clock
  let later := clockAfter schedule.clock meanwhile
  if sub32 now schedule.lastAttemptMs <
      DetectionDeliveryPumpConfig.minPumpIntervalMs then
    { schedule with clock := later }
  else ⟨later, now, u32 later :: schedule.attempts⟩

def step (schedule : PumpSchedule) (input : GovernedStep) : PumpSchedule :=
  match input with
  | .pass passing =>
      { schedule with clock := passing.clockAfter schedule.clock }
  | .update _ meanwhile _ _ => schedule.update meanwhile
  | .retry _ _ _ meanwhile =>
      { schedule with clock := clockAfter schedule.clock meanwhile }

def run (schedule : PumpSchedule) (inputs : List GovernedStep) :
    PumpSchedule :=
  GuardedRun.run step schedule inputs

end PumpSchedule

/-! ## Runs of the device -/

/-- `calls` are the readings of `millis` in the calls of `sendDetectionEvent`,
newest first, `rejected` those whose event was dropped, and `suppressions` the
arguments of the calls of `suppressDetections`. -/
structure GovernedWorld (cfg : HistoryConfig) extends World cfg where
  clock : ℕ
  calls : List ℕ
  rejected : List ℕ
  suppressions : List ℕ

namespace GovernedWorld

/-- A device that has any history, whose clock shows any time, and whose pump
has just been initialised. -/
def start (service : HistoryService cfg) (clock : ℕ) : GovernedWorld cfg where
  toWorld := { World.start cfg with
    service := service
    lastPumpAttemptMs := u32 clock }
  clock := clock
  calls := []
  rejected := []
  suppressions := []

def pass (timing : TimingConfig) (world : GovernedWorld cfg)
    (passing : Passing) : Option (GovernedWorld cfg) :=
  match passing with
  | .elapse ms => some { world with clock := world.clock + ms }
  | .step step =>
      if step.aside then
        (world.toWorld.step timing (step.at (u32 world.clock))).map
          fun after => { world with toWorld := after }
      else some world

def wait (timing : TimingConfig) (world : GovernedWorld cfg)
    (meanwhile : List Passing) : Option (GovernedWorld cfg) :=
  GuardedRun.attempt (pass timing) world meanwhile

def recordCall (world : GovernedWorld cfg) (after : World cfg) :
    GovernedWorld cfg :=
  let now := u32 world.clock
  if world.handler.governorDrops now then { world with
    toWorld := after
    calls := now :: world.calls
    rejected := now :: world.rejected
    suppressions := 1000 :: world.suppressions }
  else { world with
    toWorld := after
    calls := now :: world.calls }

/-- The part of `update` behind the event that it has read. -/
def deliver (world : GovernedWorld cfg) (connected locked : Bool) :
    GovernedWorld cfg :=
  match world.loopTask with
  | .pumping event => world.recordCall
      (world.toWorld.pumpSend event connected locked (u32 world.clock))
  | _ => world

/-- The part of `processRetries` behind the frame that it has copied. -/
def resend (world : GovernedWorld cfg) : GovernedWorld cfg :=
  match world.loopTask with
  | .resending frame =>
      { world with toWorld := world.toWorld.retrySend frame }
  | _ => world

def step (timing : TimingConfig) (world : GovernedWorld cfg)
    (input : GovernedStep) : Option (GovernedWorld cfg) :=
  match input with
  | .pass passing => world.pass timing passing
  | .update locked meanwhile connected sendLocked =>
      (world.toWorld.pumpRead locked (u32 world.clock)).bind fun read =>
        (wait timing { world with toWorld := read } meanwhile).map
          fun waited => waited.deliver connected sendLocked
  | .retry locked now i meanwhile =>
      let read := world.toWorld.retryRead timing locked now i
      (wait timing { world with toWorld := read } meanwhile).map resend

def run (timing : TimingConfig) (world : GovernedWorld cfg)
    (inputs : List GovernedStep) : Option (GovernedWorld cfg) :=
  GuardedRun.attempt (step timing) world inputs

variable {world : GovernedWorld cfg} {schedule : PumpSchedule}

/-- The governor does what a limiter with its window would do, and is called
at some of the attempts. -/
structure Governed (world : GovernedWorld cfg) (schedule : PumpSchedule) :
    Prop where
  range : world.InRange
  limited : detectionLimit.Limited ⟨0, 0⟩ world.handler.governor world.calls
    world.rejected
  suppressed : world.suppressions = [] ↔ world.rejected = []
  clock : world.clock = schedule.clock
  lastAttemptMs : world.lastPumpAttemptMs = schedule.lastAttemptMs
  calls : world.calls.Sublist schedule.attempts

theorem governed_start {service : HistoryService cfg}
    (hhead : service.state.head < cfg.bufferSize)
    (htail : service.state.tail < cfg.bufferSize) (clock : ℕ) :
    (start service clock).Governed (.start clock) :=
  ⟨⟨hhead, htail⟩, Limit.limited_start _, Iff.rfl, rfl, rfl, .slnil⟩

theorem Governed.waits (hgoverned : world.Governed schedule)
    {after : World cfg} (hrange : after.InRange)
    (hgovernor : after.handler.governor = world.handler.governor)
    (hlast : after.lastPumpAttemptMs = world.lastPumpAttemptMs) :
    ({ world with toWorld := after } : GovernedWorld cfg).Governed
      schedule := by
  refine ⟨hrange, ?_, hgoverned.suppressed, hgoverned.clock,
    hlast.trans hgoverned.lastAttemptMs, hgoverned.calls⟩
  have hlimited := hgoverned.limited
  rw [← hgovernor] at hlimited
  exact hlimited

/-! ### While the main loop waits -/

theorem aside_at (step : Step) (now : ℕ) : (step.at now).aside = step.aside := by
  cases step <;> rfl

theorem Governed.pass (hgoverned : world.Governed schedule)
    (timing : TimingConfig) (passing : Passing) :
    ∃ after, world.pass timing passing = some after ∧
      after.Governed
        { schedule with clock := passing.clockAfter schedule.clock } ∧
      after.loopTask = world.loopTask := by
  cases passing with
  | elapse ms =>
      refine ⟨_, rfl, ?_, rfl⟩
      exact ⟨hgoverned.range, hgoverned.limited, hgoverned.suppressed,
        congrArg (· + ms) hgoverned.clock, hgoverned.lastAttemptMs,
        hgoverned.calls⟩
  | step step =>
      unfold GovernedWorld.pass
      dsimp only
      split
      next haside =>
        obtain ⟨after, hstep, hrange, -⟩ := World.progress_step timing
          hgoverned.range (step.at (u32 world.clock))
        have hwaits := World.pumpWaits_step
          ((aside_at step _).trans haside) hstep
        rw [hstep]
        exact ⟨_, rfl, hgoverned.waits hrange hwaits.governor
          hwaits.lastPumpAttemptMs, hwaits.loopTask⟩
      next => exact ⟨world, rfl, hgoverned, rfl⟩

theorem Governed.wait (hgoverned : world.Governed schedule)
    (timing : TimingConfig) (meanwhile : List Passing) :
    ∃ after, world.wait timing meanwhile = some after ∧
      after.Governed
        { schedule with clock := clockAfter schedule.clock meanwhile } ∧
      after.loopTask = world.loopTask := by
  induction meanwhile generalizing world schedule with
  | nil => exact ⟨world, rfl, hgoverned, rfl⟩
  | cons passing meanwhile ih =>
      obtain ⟨next, hnext, hpassed, htask⟩ :=
        hgoverned.pass timing passing
      obtain ⟨after, hafter, hwaited, hlater⟩ := ih hpassed
      exact ⟨after, (GuardedRun.attempt_cons hnext meanwhile).trans hafter,
        hwaited, hlater.trans htask⟩

/-! ### The calls of the main loop -/

theorem Governed.attempt (hgoverned : world.Governed schedule) (time : ℕ) :
    world.Governed { schedule with attempts := time :: schedule.attempts } :=
  { hgoverned with calls := hgoverned.calls.cons time }

theorem Governed.recordCall (hgoverned : world.Governed schedule)
    {event : DetectionEvent} (connected locked : Bool) :
    (world.recordCall (world.toWorld.pumpSend event connected locked
      (u32 world.clock))).Governed { schedule with
        attempts := u32 schedule.clock :: schedule.attempts } := by
  have hcalls : (u32 world.clock :: world.calls).Sublist
      (u32 schedule.clock :: schedule.attempts) := by
    rw [hgoverned.clock]
    exact hgoverned.calls.cons_cons _
  have hrange : (world.toWorld.pumpSend event connected locked
      (u32 world.clock)).InRange :=
    ⟨hgoverned.range.head_lt, hgoverned.range.tail_lt⟩
  unfold GovernedWorld.recordCall
  dsimp only
  cases hdrops : world.handler.governorDrops (u32 world.clock) with
  | true =>
      have hfull := ProtocolHandler.governorDrops_iff.mp hdrops
      rw [if_pos rfl]
      refine ⟨hrange, hgoverned.limited.reject hfull, ?_,
        hgoverned.clock, hgoverned.lastAttemptMs, hcalls⟩
      exact iff_of_false (List.cons_ne_nil _ _) (List.cons_ne_nil _ _)
  | false =>
      have hadmits : detectionLimit.Admits world.handler.governor
          (u32 world.clock) := by
        by_contra hfull
        rw [ProtocolHandler.governorDrops_iff.mpr hfull] at hdrops
        cases hdrops
      have hcounted := World.governor_pumpSend world.toWorld event connected
        locked (u32 world.clock) hdrops
      rw [if_neg Bool.false_ne_true]
      refine ⟨hrange, ?_, hgoverned.suppressed, hgoverned.clock,
        hgoverned.lastAttemptMs, hcalls⟩
      have hlimited := hgoverned.limited.admit hadmits
      rw [← hcounted] at hlimited
      exact hlimited

theorem Governed.deliver (hgoverned : world.Governed schedule)
    (connected locked : Bool) :
    (world.deliver connected locked).Governed { schedule with
      attempts := u32 schedule.clock :: schedule.attempts } := by
  unfold GovernedWorld.deliver
  split
  next => exact hgoverned.recordCall connected locked
  next => exact hgoverned.attempt _

theorem loopTask_deliver (connected locked : Bool)
    (htask : ∀ frame, world.loopTask ≠ .resending frame) :
    (world.deliver connected locked).loopTask = .idle := by
  unfold deliver
  split
  next =>
    unfold recordCall
    dsimp only
    split <;> rfl
  next hidle =>
    cases hloop : world.loopTask with
    | idle => rfl
    | pumping event => exact absurd hloop (hidle event)
    | resending frame => exact absurd hloop (htask frame)

theorem Governed.update (hgoverned : world.Governed schedule)
    (hidle : world.loopTask = .idle) (timing : TimingConfig) (locked : Bool)
    (meanwhile : List Passing) (connected sendLocked : Bool) :
    ∃ after, world.step timing (.update locked meanwhile connected
        sendLocked) = some after ∧
      after.Governed (schedule.update meanwhile) ∧
      after.loopTask = .idle := by
  obtain ⟨read, hread, hrange, -⟩ : world.Progress timing _ _ :=
    World.progress_pumpRead hgoverned.range locked (u32 world.clock)
  have hhandler := (World.pumpRead_frame hread).1
  have hclock := hgoverned.clock
  have hlast := hgoverned.lastAttemptMs
  unfold GovernedWorld.step PumpSchedule.update
  dsimp only
  rw [hread, Option.bind_some, ← hclock, ← hlast]
  rcases World.pumpRead_cases hread with
    ⟨hearly, rfl⟩ | ⟨hlate, hnoted, htask⟩
  · -- the call returns at once
    obtain ⟨waited, hwait, hwaited, hloop⟩ :=
      hgoverned.wait timing meanwhile
    have hback : waited.deliver connected sendLocked = waited := by
      unfold GovernedWorld.deliver
      rw [hloop, hidle]
    rw [hwait, Option.map_some, if_pos hearly, hback, hclock, hlast]
    exact ⟨waited, rfl, hwaited, hloop.trans hidle⟩
  · have hattempted : ({ world with toWorld := read } :
        GovernedWorld cfg).Governed
          { schedule with lastAttemptMs := u32 world.clock } := by
      have hgovernor := congrArg ProtocolHandler.governor hhandler
      have hlimited := hgoverned.limited
      rw [← hgovernor] at hlimited
      exact ⟨hrange, hlimited, hgoverned.suppressed, hclock, hnoted,
        hgoverned.calls⟩
    obtain ⟨waited, hwait, hwaited, hloop⟩ :=
      hattempted.wait timing meanwhile
    have hnotResending : ∀ frame, waited.loopTask ≠ .resending frame := by
      intro frame hresending
      rw [hloop] at hresending
      rcases htask with hsame | ⟨event, hpumping⟩
      · rw [hsame, hidle] at hresending
        cases hresending
      · rw [hpumping] at hresending
        cases hresending
    rw [hwait, Option.map_some, if_neg hlate, hclock]
    rw [hclock] at hwaited
    exact ⟨_, rfl, hwaited.deliver connected sendLocked,
      loopTask_deliver connected sendLocked hnotResending⟩

theorem Governed.retry (hgoverned : world.Governed schedule)
    (timing : TimingConfig) (locked : Bool) (now : ℕ) (i : SlotIndex)
    (meanwhile : List Passing) :
    ∃ after, world.step timing (.retry locked now i meanwhile) =
        some after ∧
      after.Governed
        { schedule with clock := clockAfter schedule.clock meanwhile } ∧
      after.loopTask = .idle := by
  have hrange : (world.toWorld.retryRead timing locked now i).InRange :=
    ⟨hgoverned.range.head_lt, hgoverned.range.tail_lt⟩
  have hread := hgoverned.waits hrange
    (ProtocolHandler.governor_retrySlot timing i) rfl
  obtain ⟨waited, hwait, hwaited, hloop⟩ := hread.wait timing meanwhile
  unfold GovernedWorld.step
  dsimp only
  rw [hwait, Option.map_some]
  refine ⟨_, rfl, ?_⟩
  unfold resend
  split
  next frame htask =>
    have hrange : (waited.toWorld.retrySend frame).InRange :=
      ⟨hwaited.range.head_lt, hwaited.range.tail_lt⟩
    exact ⟨hwaited.waits hrange rfl rfl, rfl⟩
  next hother =>
    refine ⟨hwaited, ?_⟩
    have hnoFrame : ∀ frame, waited.loopTask ≠ .resending frame :=
      fun frame htask => hother frame htask
    rw [hloop] at hnoFrame ⊢
    unfold World.retryRead at hnoFrame ⊢
    dsimp only at hnoFrame ⊢
    split
    next bytes hbytes =>
      rw [hbytes] at hnoFrame
      exact absurd rfl (hnoFrame _)
    next => rfl

theorem Governed.step (hgoverned : world.Governed schedule)
    (hidle : world.loopTask = .idle) (timing : TimingConfig)
    (input : GovernedStep) :
    ∃ after, world.step timing input = some after ∧
      after.Governed (schedule.step input) ∧ after.loopTask = .idle := by
  cases input with
  | pass passing =>
      obtain ⟨after, hafter, hpassed, htask⟩ :=
        hgoverned.pass timing passing
      exact ⟨after, hafter, hpassed, htask.trans hidle⟩
  | update locked meanwhile connected sendLocked =>
      exact hgoverned.update hidle timing locked meanwhile connected sendLocked
  | retry locked now i meanwhile =>
      exact hgoverned.retry timing locked now i meanwhile

theorem Governed.run (hgoverned : world.Governed schedule)
    (hidle : world.loopTask = .idle) (timing : TimingConfig)
    (inputs : List GovernedStep) :
    ∃ final, world.run timing inputs = some final ∧
      final.Governed (schedule.run inputs) := by
  induction inputs generalizing world schedule with
  | nil => exact ⟨world, rfl, hgoverned⟩
  | cons input inputs ih =>
      obtain ⟨next, hnext, hstepped, htask⟩ :=
        hgoverned.step hidle timing input
      obtain ⟨final, hfinal, hrun⟩ := ih hstepped htask
      exact ⟨final, (GuardedRun.attempt_cons hnext inputs).trans hfinal,
        hrun⟩

/-- No event of a backlog is dropped and no detection is suppressed where the
calls of `update` come so that no second, from boot or from an attempt on,
takes six attempts. -/
theorem run_uncrowded (timing : TimingConfig)
    {service : HistoryService cfg}
    (hhead : service.state.head < cfg.bufferSize)
    (htail : service.state.tail < cfg.bufferSize) (clock : ℕ)
    (inputs : List GovernedStep)
    (hschedule : detectionLimit.Uncrowded 0
      ((PumpSchedule.start clock).run inputs).attempts) :
    ∃ final, (start service clock).run timing inputs = some final ∧
      final.rejected = [] ∧ final.suppressions = [] := by
  obtain ⟨final, hrun, hfinal⟩ :=
    (governed_start hhead htail clock).run rfl timing inputs
  have hpaced : detectionLimit.Paced ⟨0, 0⟩ final.calls :=
    hschedule.paced detectionLimit_self hfinal.calls
  have hnone : final.rejected = [] := hfinal.limited.none_iff.mpr hpaced
  exact ⟨final, hrun, hnone, hfinal.suppressed.mpr hnone⟩

end GovernedWorld

end Delivery

end SensorFirmware
