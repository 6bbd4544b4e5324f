import SensorFirmware.HistoryRefinement
import SensorFirmware.PumpGovernor

/-!
# Schedules of the pump

A schedule of `update` calls is harmless if nothing that the backlog, the link
and the app do gets an event dropped.  With an event that waits and a connection
that is lost before each send, any part of the attempts can be the calls that
the governor counts, so a crowded window is not harmless.
-/

namespace SensorFirmware

open FixedWindow

namespace Delivery

variable {cfg : HistoryConfig}

/-! ## Other inputs for the same schedule -/

/-- Only the time goes by. -/
def Passing.still : Passing → Passing
  | .elapse ms => .elapse ms
  | .step _ => .elapse 0

theorem clockAfter_still (clock : ℕ) (meanwhile : List Passing) :
    clockAfter clock (meanwhile.map Passing.still) =
      clockAfter clock meanwhile := by
  unfold clockAfter
  rw [List.foldl_map]
  congr 1
  funext clock passing
  cases passing <;> rfl

/-- A call finds the lock of the history free where `sends` says so, and the
connection lost when the event is to be sent. -/
def GovernedStep.probe (sends : Bool) : GovernedStep → GovernedStep
  | .pass passing => .pass passing.still
  | .update _ meanwhile _ _ =>
      .update sends (meanwhile.map Passing.still) false true
  | .retry _ now i meanwhile => .retry false now i (meanwhile.map Passing.still)

theorem PumpSchedule.step_probe (schedule : PumpSchedule) (sends : Bool)
    (input : GovernedStep) :
    schedule.step (input.probe sends) = schedule.step input := by
  cases input with
  | pass passing => cases passing <;> rfl
  | update locked meanwhile connected sendLocked =>
      simp only [GovernedStep.probe, step, update, clockAfter_still]
  | retry locked now i meanwhile =>
      simp only [GovernedStep.probe, step, clockAfter_still]

/-- The time of the attempt that the input makes. -/
def PumpSchedule.attemptAt (schedule : PumpSchedule) :
    GovernedStep → Option ℕ
  | .update _ meanwhile _ _ =>
      if sub32 (u32 schedule.clock) schedule.lastAttemptMs <
        DetectionDeliveryPumpConfig.minPumpIntervalMs then none
      else some (u32 (clockAfter schedule.clock meanwhile))
  | _ => none

theorem PumpSchedule.attempts_step (schedule : PumpSchedule)
    (input : GovernedStep) :
    (schedule.step input).attempts =
      (schedule.attemptAt input).toList ++ schedule.attempts := by
  cases input with
  | update locked meanwhile connected sendLocked =>
      unfold step update attemptAt
      dsimp only
      split <;> rfl
  | _ => rfl

theorem PumpSchedule.run_concat (schedule : PumpSchedule)
    (inputs : List GovernedStep) (input : GovernedStep) :
    schedule.run (inputs ++ [input]) = (schedule.run inputs).step input :=
  GuardedRun.run_append step schedule inputs [input]

/-- A send that finds the connection lost is counted, and changes nothing
else. -/
theorem World.pumpSend_lost (world : World cfg) (event : DetectionEvent)
    (locked : Bool) (now : ℕ) :
    (world.pumpSend event false locked now).handler.pendingMessages =
        world.handler.pendingMessages ∧
      (world.pumpSend event false locked now).link = world.link ∧
      (world.pumpSend event false locked now).service = world.service := by
  have hrenewed : (world.handler.renewWindow now).pendingMessages =
      world.handler.pendingMessages := by
    unfold ProtocolHandler.renewWindow
    split <;> rfl
  refine ⟨?_, rfl, rfl⟩
  unfold pumpSend
  dsimp only
  rw [Wire.handler_afterSend, ProtocolHandler.sendDetectionEvent_governed]
  split
  · exact hrenewed
  · unfold ProtocolHandler.sendMessage
    rw [Bool.and_false, Bool.false_and, if_neg Bool.false_ne_true]
    exact hrenewed

namespace GovernedWorld

/-- The pump would send with its next attempt. -/
structure Ready (world : GovernedWorld cfg) : Prop where
  idle : world.loopTask = .idle
  link : world.link.ready = true
  free : world.handler.getPendingCount <
    DetectionDeliveryPumpConfig.maxPendingBeforeBackoff
  event : ∃ event, world.service.getNextUnsynced true = some (some event)

theorem wait_still (timing : TimingConfig) (world : GovernedWorld cfg)
    (meanwhile : List Passing) :
    world.wait timing (meanwhile.map Passing.still) =
      some { world with clock := clockAfter world.clock meanwhile } := by
  induction meanwhile generalizing world with
  | nil => rfl
  | cons passing meanwhile ih =>
      have hpass : world.pass timing passing.still = some { world with
          clock := passing.clockAfter world.clock } := by
        cases passing <;> rfl
      exact (GuardedRun.attempt_cons hpass _).trans (ih _)

variable {world : GovernedWorld cfg} {schedule : PumpSchedule}

theorem Ready.pumpRead (hready : world.Ready) {now : ℕ}
    (hlate : ¬sub32 now world.lastPumpAttemptMs <
      DetectionDeliveryPumpConfig.minPumpIntervalMs) (sends : Bool) :
    ∃ task : LoopTask,
      world.toWorld.pumpRead sends now = some { world.toWorld with
        lastPumpAttemptMs := now
        loopTask := task } ∧
      if sends then ∃ event, task = .pumping event else task = .idle := by
  obtain ⟨event, hevent⟩ := hready.event
  have hfree := Nat.not_le.mpr hready.free
  unfold World.pumpRead
  dsimp only
  rw [if_neg hlate, hready.link, Bool.not_true, if_neg Bool.false_ne_true,
    if_neg hfree]
  cases sends with
  | true =>
      rw [hevent]
      exact ⟨.pumping event, rfl, event, rfl⟩
  | false =>
      have hnone : world.service.getNextUnsynced false = some none := by
        rw [HistoryService.getNextUnsynced, Bool.and_false,
          if_neg Bool.false_ne_true]
      rw [hnone]
      exact ⟨world.loopTask, rfl, hready.idle⟩

theorem calls_recordCall (world : GovernedWorld cfg) (after : World cfg) :
    (world.recordCall after).calls = u32 world.clock :: world.calls := by
  unfold recordCall
  dsimp only
  split <;> rfl

theorem ready_recordCall (hlink : world.link.ready = true)
    (hfree : world.handler.getPendingCount <
      DetectionDeliveryPumpConfig.maxPendingBeforeBackoff)
    (hevent : ∃ event, world.service.getNextUnsynced true = some (some event))
    (event : DetectionEvent) (locked : Bool) :
    (world.recordCall (world.toWorld.pumpSend event false locked
      (u32 world.clock))).Ready := by
  obtain ⟨hslots, hsame, hservice⟩ := world.toWorld.pumpSend_lost event locked
    (u32 world.clock)
  have hafter : (world.recordCall (world.toWorld.pumpSend event false locked
      (u32 world.clock))).toWorld = world.toWorld.pumpSend event false locked
        (u32 world.clock) := by
    unfold recordCall
    dsimp only
    split <;> rfl
  constructor
  · rw [hafter]
    rfl
  · rw [hafter, hsame]
    exact hlink
  · rw [hafter]
    unfold ProtocolHandler.getPendingCount ProtocolHandler.slot at hfree ⊢
    rw [hslots]
    exact hfree
  · rw [hafter, hservice]
    exact hevent

/-- An attempt is counted where the call is to send, and the pump is ready
again. -/
theorem Ready.attempt (hready : world.Ready)
    (hlate : ¬sub32 (u32 world.clock) world.lastPumpAttemptMs <
      DetectionDeliveryPumpConfig.minPumpIntervalMs) (timing : TimingConfig)
    (sends : Bool) (meanwhile : List Passing) :
    ∃ after, world.step timing (.update sends (meanwhile.map Passing.still)
        false true) = some after ∧ after.Ready ∧
      after.calls =
        if sends then u32 (clockAfter world.clock meanwhile) :: world.calls
        else world.calls := by
  obtain ⟨task, hread, htask⟩ := hready.pumpRead hlate sends
  let waited : GovernedWorld cfg := { world with
    toWorld := { world.toWorld with
      lastPumpAttemptMs := u32 world.clock
      loopTask := task }
    clock := clockAfter world.clock meanwhile }
  have hstep : world.step timing (.update sends (meanwhile.map Passing.still)
      false true) = some (waited.deliver false true) := by
    unfold GovernedWorld.step
    dsimp only
    rw [hread, Option.bind_some, wait_still, Option.map_some]
  refine ⟨_, hstep, ?_⟩
  cases sends with
  | false =>
      obtain rfl : task = .idle := htask
      exact ⟨⟨rfl, hready.link, hready.free, hready.event⟩, rfl⟩
  | true =>
      obtain ⟨event, rfl⟩ := htask
      have hsend : waited.deliver false true = waited.recordCall
          (waited.toWorld.pumpSend event false true (u32 waited.clock)) := rfl
      have hlink : waited.link.ready = true := hready.link
      rw [hsend]
      exact ⟨ready_recordCall hlink hready.free hready.event event true,
        calls_recordCall _ _⟩

/-- A call that comes too early only takes its time. -/
theorem Ready.early (hready : world.Ready)
    (hearly : sub32 (u32 world.clock) world.lastPumpAttemptMs <
      DetectionDeliveryPumpConfig.minPumpIntervalMs) (timing : TimingConfig)
    (sends : Bool) (meanwhile : List Passing) :
    world.step timing (.update sends (meanwhile.map Passing.still) false
      true) = some { world with clock := clockAfter world.clock meanwhile } := by
  have hread : world.toWorld.pumpRead sends (u32 world.clock) =
      some world.toWorld := if_pos hearly
  unfold GovernedWorld.step
  dsimp only
  rw [hread, Option.bind_some, wait_still, Option.map_some]
  unfold deliver
  dsimp only
  rw [hready.idle]

/-- So does a pass of the retries that does not get the lock. -/
theorem Ready.retry (hready : world.Ready) (timing : TimingConfig) (now : ℕ)
    (i : SlotIndex) (meanwhile : List Passing) :
    world.step timing (.retry false now i (meanwhile.map Passing.still)) =
      some { world with clock := clockAfter world.clock meanwhile } := by
  have hread : world.toWorld.retryRead timing false now i =
      { world.toWorld with loopTask := .idle } := rfl
  unfold GovernedWorld.step
  dsimp only
  rw [hread, wait_still, Option.map_some]
  unfold resend
  dsimp only
  rw [← hready.idle]

theorem Ready.later (hready : world.Ready) (clock : ℕ) :
    ({ world with clock := clock } : GovernedWorld cfg).Ready :=
  ⟨hready.idle, hready.link, hready.free, hready.event⟩

/-- The next input of a schedule, with the call or without it. -/
theorem Ready.probe (hready : world.Ready) (hgoverned : world.Governed schedule)
    (timing : TimingConfig) (sends : Bool) (input : GovernedStep) :
    ∃ after, world.step timing (input.probe sends) = some after ∧
      after.Ready ∧
      after.calls =
        (if sends then (schedule.attemptAt input).toList else []) ++
          world.calls := by
  cases input with
  | pass passing =>
      refine ⟨{ world with clock := passing.clockAfter world.clock }, ?_,
        hready.later _, ?_⟩
      · cases passing <;> rfl
      · cases sends <;> rfl
  | update locked meanwhile connected sendLocked =>
      unfold PumpSchedule.attemptAt
      dsimp only
      rw [← hgoverned.clock, ← hgoverned.lastAttemptMs]
      by_cases hearly : sub32 (u32 world.clock) world.lastPumpAttemptMs <
        DetectionDeliveryPumpConfig.minPumpIntervalMs
      · rw [if_pos hearly]
        exact ⟨_, hready.early hearly timing sends meanwhile, hready.later _,
          by cases sends <;> rfl⟩
      · obtain ⟨after, hstep, hafter, hcalls⟩ :=
          hready.attempt hearly timing sends meanwhile
        rw [if_neg hearly]
        refine ⟨after, hstep, hafter, hcalls.trans ?_⟩
        cases sends <;> rfl
  | retry locked now i meanwhile =>
      exact ⟨_, hready.retry timing now i meanwhile, hready.later _,
        by cases sends <;> rfl⟩

/-- Some run with the schedule of `inputs` makes these calls. -/
def Calls (timing : TimingConfig) (world : GovernedWorld cfg)
    (schedule : PumpSchedule) (inputs : List GovernedStep) (calls : List ℕ) :
    Prop :=
  ∃ others, schedule.run others = schedule.run inputs ∧
    ∃ final, world.run timing others = some final ∧ final.Ready ∧
      final.Governed (schedule.run inputs) ∧ final.calls = calls

theorem Calls.concat {timing : TimingConfig} {inputs : List GovernedStep}
    {calls : List ℕ} (hmade : world.Calls timing schedule inputs calls)
    (sends : Bool) (input : GovernedStep) :
    world.Calls timing schedule (inputs ++ [input])
      ((if sends then ((schedule.run inputs).attemptAt input).toList
        else []) ++ calls) := by
  obtain ⟨others, hsame, current, hrun, hready, hgoverned, hcalls⟩ := hmade
  obtain ⟨after, hstep, hnext, hmore⟩ :=
    hready.probe hgoverned timing sends input
  obtain ⟨stepped, hstepped, hgovernedAfter, -⟩ :=
    hgoverned.step hready.idle timing (input.probe sends)
  obtain rfl : stepped = after := Option.some.inj (hstepped.symm.trans hstep)
  rw [PumpSchedule.step_probe, ← PumpSchedule.run_concat] at hgovernedAfter
  rw [hcalls] at hmore
  refine ⟨others ++ [input.probe sends], ?_, stepped, ?_, hnext,
    hgovernedAfter, hmore⟩
  · rw [PumpSchedule.run_concat, PumpSchedule.run_concat, hsame,
      PumpSchedule.step_probe]
  · exact (GuardedRun.attempt_append hrun _).trans
      (GuardedRun.attempt_cons hstep [])

/-- Any part of the attempts of a schedule are the calls of a run with it. -/
theorem Ready.calls_of_sublist (hready : world.Ready)
    (hgoverned : world.Governed schedule) (hcalls : world.calls = [])
    (hattempts : schedule.attempts = []) (timing : TimingConfig)
    (inputs : List GovernedStep) {calls : List ℕ}
    (hsublist : calls.Sublist (schedule.run inputs).attempts) :
    world.Calls timing schedule inputs calls := by
  induction inputs using List.reverseRecOn generalizing calls with
  | nil =>
      have hnone : calls = [] := by
        have hempty : calls.Sublist schedule.attempts := hsublist
        rwa [hattempts, List.sublist_nil] at hempty
      exact ⟨[], rfl, world, rfl, hready, hgoverned, hcalls.trans hnone.symm⟩
  | append_singleton inputs input ih =>
      rw [PumpSchedule.run_concat, PumpSchedule.attempts_step] at hsublist
      cases hnew : (schedule.run inputs).attemptAt input with
      | none =>
          rw [hnew] at hsublist
          exact (ih hsublist).concat false input
      | some time =>
          rw [hnew] at hsublist
          rcases List.sublist_cons_iff.mp hsublist with
            hbefore | ⟨past, rfl, hpast⟩
          · exact (ih hbefore).concat false input
          · have hmade := (ih hpast).concat true input
            rwa [hnew] at hmade

/-- The app connects and subscribes. -/
def connecting : List GovernedStep :=
  (connection 0).map fun step => .pass (.step step)

def freshHistory (cfg : HistoryConfig) : HistoryService cfg :=
  (World.start cfg).service

theorem getNextUnsynced_of_logged {service : HistoryService cfg}
    (hlogged : Represents service ((HistoryLog.start 0).record cfg 0 0)) :
    ∃ event, service.getNextUnsynced true = some (some event) := by
  have hnone : (HistoryLog.start 0).retained cfg = [] := by
    simp [HistoryLog.start, HistoryLog.retained]
  have hnew : ((HistoryLog.start 0).newEvent cfg 0 0).isSynced = false := by
    unfold HistoryLog.newEvent DetectionEvent.isSynced
    dsimp only
    split <;> rfl
  refine ⟨(HistoryLog.start 0).newEvent cfg 0 0, ?_⟩
  rw [hlogged.getNextUnsynced, HistoryLog.unsynced, HistoryLog.retained_record,
    hnone]
  simp [hnew]

/-- One detection waits, and the app is connected. -/
theorem exists_ready (timing : TimingConfig) (clock : ℕ) :
    ∃ service : HistoryService cfg,
      service.state.head < cfg.bufferSize ∧
      service.state.tail < cfg.bufferSize ∧
      ∃ world, (start service clock).run timing connecting = some world ∧
        world.Ready ∧ world.Governed (.start clock) ∧ world.calls = [] := by
  have hfresh : Represents (freshHistory cfg) (HistoryLog.start 0) :=
    represents_startFromReset (freshHistory cfg) 0
  obtain ⟨service, result, -, -, hlogged⟩ :=
    hfresh.logDetection (by decide) 0 0
  have hconnected : ∀ now, Represents (service.setBleConnected true now)
      ((HistoryLog.start 0).record cfg 0 0) := fun now =>
    hlogged.of_state_eq (service.state_setBleConnected true now)
      (service.initialized_setBleConnected true now)
  have hready : ∃ world, (start service clock).run timing connecting =
      some world ∧ world.Ready ∧ world.calls = [] := by
    refine ⟨_, rfl, ⟨rfl, rfl, ?_,
      getNextUnsynced_of_logged (hconnected (u32 clock))⟩, rfl⟩
    change (ProtocolHandler.construct.clearAllPending
      true).restartNumbering.getPendingCount < 8
    decide +kernel
  obtain ⟨world, hrun, hworld, hcalls⟩ := hready
  obtain ⟨reached, hreached, hgoverned⟩ :=
    (governed_start hlogged.head_lt hlogged.tail_lt clock).run rfl timing
      connecting
  obtain rfl : reached = world := Option.some.inj (hreached.symm.trans hrun)
  exact ⟨service, hlogged.head_lt, hlogged.tail_lt, reached, hrun, hworld,
    hgoverned, hcalls⟩

/-! ## Harmless schedules -/

/-- Whatever waits in the history, and whatever the link, the app and the other
tasks do: under a schedule with these attempts no event is dropped and no
detection is suppressed. -/
def Harmless (cfg : HistoryConfig) (timing : TimingConfig) (clock : ℕ)
    (attempts : List ℕ) : Prop :=
  ∀ (service : HistoryService cfg) (inputs : List GovernedStep),
    service.state.head < cfg.bufferSize →
    service.state.tail < cfg.bufferSize →
    ((PumpSchedule.start clock).run inputs).attempts = attempts →
    ∃ final, (start service clock).run timing inputs = some final ∧
      final.rejected = [] ∧ final.suppressions = []

theorem harmless_of_uncrowded (timing : TimingConfig) (clock : ℕ)
    {attempts : List ℕ} (huncrowded : detectionLimit.Uncrowded 0 attempts) :
    Harmless cfg timing clock attempts := by
  intro service inputs hhead htail hattempts
  rw [← hattempts] at huncrowded
  exact run_uncrowded timing hhead htail clock inputs huncrowded

theorem uncrowded_of_harmless (timing : TimingConfig) (clock : ℕ)
    (inputs : List GovernedStep)
    (hlate : ∀ attempt ∈ ((PumpSchedule.start clock).run inputs).attempts,
      Protocol.detectionRateWindowMs < sub32 attempt 0)
    (hharmless : Harmless cfg timing clock
      ((PumpSchedule.start clock).run inputs).attempts) :
    detectionLimit.Uncrowded 0
      ((PumpSchedule.start clock).run inputs).attempts := by
  rw [Limit.uncrowded_iff_paced detectionLimit_self hlate]
  intro calls hcalls
  obtain ⟨service, hhead, htail, world, hconnected, hready, hgoverned,
    hfresh⟩ := @exists_ready cfg timing clock
  obtain ⟨others, hsame, final, hrun, -, hfinal, hmade⟩ :=
    hready.calls_of_sublist hgoverned hfresh rfl timing inputs hcalls
  have hall : (start service clock).run timing (connecting ++ others) =
      some final :=
    (GuardedRun.attempt_append hconnected others).trans hrun
  have hschedule : (PumpSchedule.start clock).run (connecting ++ others) =
      (PumpSchedule.start clock).run inputs :=
    (GuardedRun.run_append PumpSchedule.step _ connecting others).trans hsame
  obtain ⟨reached, hreached, hnone, -⟩ := hharmless service
    (connecting ++ others) hhead htail (congrArg _ hschedule)
  obtain rfl : reached = final := Option.some.inj (hreached.symm.trans hall)
  rw [← hmade]
  exact hfinal.limited.none_iff.mp hnone

/-- A schedule of `update` calls with no six attempts in one second, from the
reading zero or from an attempt on, is harmless; and where no attempt comes in
the first second of the clock, only such a schedule is. -/
theorem backlog_within_rate (cfg : HistoryConfig) (timing : TimingConfig)
    (clock : ℕ) (inputs : List GovernedStep) :
    let attempts := ((PumpSchedule.start clock).run inputs).attempts
    (detectionLimit.Uncrowded 0 attempts →
        Harmless cfg timing clock attempts) ∧
      ((∀ attempt ∈ attempts,
          Protocol.detectionRateWindowMs < sub32 attempt 0) →
        (Harmless cfg timing clock attempts ↔
          detectionLimit.Uncrowded 0 attempts)) := by
  intro attempts
  exact ⟨harmless_of_uncrowded timing clock, fun hlate =>
    ⟨uncrowded_of_harmless timing clock inputs hlate,
      harmless_of_uncrowded timing clock⟩⟩

/-! ### Concrete runs -/

/-- Six detections wait, and the app answers each frame at once. -/
def backlogRun (intervalMs : ℕ) : List GovernedStep :=
  let answer := [.appReceives 0, .appAcks 0] ++ processAck 0 0
  let turn := [.pass (.elapse intervalMs), .update true [] true true] ++
    answer.map fun step => .pass (.step step)
  (List.replicate 6 (Step.logDetection true 0 0) ++ connection 0).map
      (fun step => .pass (.step step)) ++
    (List.replicate 6 turn).flatten

theorem backlog_at_250_ms_within_rate :
    ∃ final, (start (freshHistory .eightSlots) 5000).run benchTiming
        (backlogRun 250) = some final ∧
      final.rejected = [] ∧ final.suppressions = [] :=
  (backlog_within_rate .eightSlots benchTiming 5000 (backlogRun 250)).1
    (by decide +kernel) (freshHistory .eightSlots) (backlogRun 250)
    (by decide) (by decide) rfl

theorem backlog_at_150_ms_dropped :
    ∃ final ∈ (start (freshHistory .eightSlots) 5000).run benchTiming
        (backlogRun 150),
      final.calls = [5900, 5750, 5600, 5450, 5300, 5150] ∧
        final.rejected = [5900] ∧ final.suppressions = [1000] := by
  decide +kernel

end GovernedWorld

end Delivery

end SensorFirmware
