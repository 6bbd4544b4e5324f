import SensorFirmware.PowerManager

/-!
# Sleep attempts that do not end in deep sleep

A cancelled attempt has shut down nothing, unless a sleep command began it.  An
attempt that is given up in `enterDeepSleep` has deleted the storage worker,
and nothing starts it again.
-/

namespace SensorFirmware

open GuardedRun

namespace StorageTasks

/-- The worker task exists exactly outside a shutdown. -/
structure Orderly (tasks : StorageTasks) : Prop where
  stopped : tasks.stopper ≠ .idle → tasks.running = false
  absent : tasks.stopper.inProgress = false → tasks.running = false →
    tasks.worker = .absent

/-- A worker task exists and is not told to stop. -/
def Alive (tasks : StorageTasks) : Prop :=
  tasks.running = true ∧ tasks.worker ≠ .absent

instance (tasks : StorageTasks) : Decidable tasks.Alive :=
  inferInstanceAs (Decidable (_ ∧ _))

variable {depth : ℕ} {tasks : StorageTasks}

theorem worker_step_spec (depth : ℕ) (tasks : StorageTasks) (writes : ℕ)
    (timedOut : Bool) :
    let next := tasks.workerStep depth writes timedOut
    next.running = tasks.running ∧ next.stopper = tasks.stopper ∧
      next.accepted = tasks.accepted ∧
      (next.worker = .absent ↔ tasks.worker = .absent) := by
  unfold workerStep
  dsimp only
  split
  · exact ⟨rfl, rfl, rfl, Iff.rfl⟩
  next hworker => split <;> simp [hworker]
  next hworker =>
    split
    · simp [hworker]
    · split <;> simp [hworker]
  next job hworker =>
    split
    · simp [hworker]
    · split <;> simp [hworker]
  next job left hworker => simp [hworker]
  next job hworker => simp [hworker]

theorem orderly_of_stopping (hrunning : tasks.running = false)
    (hbusy : tasks.stopper.inProgress = true) : tasks.Orderly := by
  refine ⟨fun _ => hrunning, fun hidle => ?_⟩
  rw [hbusy] at hidle
  cases hidle

theorem Orderly.step (horderly : tasks.Orderly) (event : StorageEvent) :
    (tasks.step depth event).Orderly := by
  cases event with
  | enqueue message =>
      simp only [StorageTasks.step, enqueue]
      split
      · exact ⟨horderly.stopped, horderly.absent⟩
      · exact horderly
  | start created =>
      simp only [StorageTasks.step, startStorageWorker]
      split_ifs with hbusy hrunning hcreated
      · exact horderly
      · exact ⟨by simp, by simp [hrunning]⟩
      · exact ⟨by simp, by simp⟩
      · exact ⟨by simp, by simp⟩
  | stop =>
      simp only [StorageTasks.step, stopStorageWorker]
      split
      · exact horderly
      next hidle =>
        split
        next hgone =>
          obtain ⟨hrunning, hworker⟩ : tasks.running = false ∧
              tasks.worker = .absent := by simpa using hgone
          exact ⟨fun _ => hrunning, fun _ _ => hworker⟩
        next =>
          split
          · exact orderly_of_stopping rfl rfl
          · exact orderly_of_stopping rfl rfl
  | worker writes timedOut =>
      obtain ⟨hrunning, hstopper, -, hworker⟩ :=
        worker_step_spec depth tasks writes timedOut
      simp only [StorageTasks.step]
      refine ⟨?_, ?_⟩
      · rw [hrunning, hstopper]
        exact horderly.stopped
      · rw [hrunning, hstopper, hworker]
        exact horderly.absent
  | stopper writes =>
      simp only [StorageTasks.step, stopperStep]
      split
      · exact horderly
      next hstopper =>
        exact orderly_of_stopping (horderly.stopped (by simp [hstopper])) rfl
      next hstopper =>
        have hrunning := horderly.stopped (by simp [hstopper])
        split
        · exact orderly_of_stopping hrunning rfl
        · exact orderly_of_stopping hrunning rfl
      next hstopper =>
        exact orderly_of_stopping (horderly.stopped (by simp [hstopper])) rfl
      next hstopper =>
        exact orderly_of_stopping (horderly.stopped (by simp [hstopper])) rfl
      next hstopper =>
        have hrunning := horderly.stopped (by simp [hstopper])
        exact ⟨fun _ => hrunning, fun _ _ => rfl⟩
      · exact horderly

theorem orderly_initial : initial.Orderly := by
  constructor <;> simp [initial]

theorem orderly_run (depth : ℕ) (events : List StorageEvent)
    (horderly : tasks.Orderly) :
    (run (step depth) tasks events).Orderly := by
  have hstep : ∀ (tasks : StorageTasks) event, tasks.Orderly →
      (tasks.step depth event).Orderly :=
    fun _ event htasks => htasks.step event
  exact invariant_run' hstep events horderly

theorem Orderly.not_alive (horderly : tasks.Orderly)
    (hreturned : tasks.stopper = .returned) : ¬tasks.Alive := by
  rintro ⟨hrunning, -⟩
  have hstopped := horderly.stopped (by simp [hreturned])
  rw [hrunning] at hstopped
  cases hstopped

/-! ## What a worker that exists does -/

variable (depth)

/-- Nothing shuts the worker down. -/
structure Serving (tasks : StorageTasks) : Prop where
  alive : tasks.Alive
  idle : tasks.stopper.inProgress = false

theorem stopperStep_idle (hidle : tasks.stopper.inProgress = false)
    (writes : ℕ) : tasks.stopperStep writes = tasks := by
  unfold stopperStep
  split <;> first | rfl | simp_all [StopState.inProgress]

/-- A worker that is not told to stop drops no command. -/
theorem copies_worker (hrunning : tasks.running = true) (writes : ℕ)
    (timedOut : Bool) (ticket : ℕ) :
    (tasks.workerStep depth writes timedOut).copies ticket =
      tasks.copies ticket := by
  unfold workerStep
  split
  · rfl
  next hworker => simp [hrunning, copies, hworker]
  next hworker =>
    split
    next job rest hqueue =>
      simp only [copies, hworker, hqueue, WorkerState.held_receiving,
        WorkerState.held_received, List.map_cons, List.map_nil,
        List.count_cons, List.count_nil]
      omega
    next hqueue => split <;> simp [copies, hworker]
  next job hworker => simp [hrunning, copies, hworker]
  next job left hworker => simp [copies, hworker]
  next job hworker =>
    simp only [copies, hworker, WorkerState.held_processing,
      WorkerState.held_looping, List.map_cons, List.map_nil,
      List.count_cons, List.count_nil]
    omega

/-- Only a shutdown or a start takes a worker away or brings one. -/
theorem concurrent_spec (hidle : tasks.stopper.inProgress = false)
    {event : StorageEvent} (hevent : event.concurrent = true) :
    ((tasks.step depth event).Alive ↔ tasks.Alive) ∧
      (tasks.step depth event).stopper.inProgress = false := by
  cases event with
  | enqueue message =>
      simp only [StorageTasks.step, enqueue]
      split <;> exact ⟨Iff.rfl, hidle⟩
  | start created => cases hevent
  | stop => cases hevent
  | worker writes timedOut =>
      obtain ⟨hrunning, hstopper, -, hworker⟩ :=
        worker_step_spec depth tasks writes timedOut
      refine ⟨?_, (congrArg StopState.inProgress hstopper).trans hidle⟩
      exact and_congr (by rw [← hrunning]; rfl) (not_congr hworker)
  | stopper writes =>
      rw [StorageTasks.step, stopperStep_idle hidle]
      exact ⟨Iff.rfl, hidle⟩

theorem concurrent_run (hidle : tasks.stopper.inProgress = false)
    {events : List StorageEvent}
    (hevents : ∀ event ∈ events, event.concurrent = true) :
    (run (step depth) tasks events).Alive ↔ tasks.Alive := by
  induction events generalizing tasks with
  | nil => rfl
  | cons event rest ih =>
      obtain ⟨halive, hnext⟩ := concurrent_spec depth hidle
        (hevents event (.head rest))
      exact (ih hnext fun other hother =>
        hevents other (.tail _ hother)).trans halive

theorem serving_step (hserving : tasks.Serving) {event : StorageEvent}
    (hevent : event.concurrent = true) :
    (tasks.step depth event).Serving ∧
      ∀ ticket, tasks.copies ticket ≤
        (tasks.step depth event).copies ticket := by
  obtain ⟨halive, hnext⟩ :=
    concurrent_spec depth hserving.idle hevent
  refine ⟨⟨halive.mpr hserving.alive, hnext⟩, ?_⟩
  intro ticket
  cases event with
  | enqueue message =>
      simp only [StorageTasks.step, enqueue]
      split
      · simp only [copies, List.map_append, List.count_append]
        omega
      · exact le_rfl
  | start created => cases hevent
  | stop => cases hevent
  | worker writes timedOut =>
      exact (copies_worker depth hserving.alive.1 writes timedOut ticket).ge
  | stopper writes =>
      rw [StorageTasks.step, stopperStep_idle hserving.idle]

theorem serving_run (hserving : tasks.Serving) {events : List StorageEvent}
    (hevents : ∀ event ∈ events, event.concurrent = true) :
    (run (step depth) tasks events).Serving ∧
      ∀ ticket, tasks.copies ticket ≤
        (run (step depth) tasks events).copies ticket := by
  induction events generalizing tasks with
  | nil => exact ⟨hserving, fun _ => le_rfl⟩
  | cons event rest ih =>
      have hhere : event.concurrent = true := hevents event (.head rest)
      obtain ⟨hnext, hstep⟩ :
          (tasks.step depth event).Serving ∧ ∀ ticket,
            tasks.copies ticket ≤ (tasks.step depth event).copies ticket :=
        serving_step depth hserving hhere
      obtain ⟨hlast, hrest⟩ :=
        ih hnext fun other hother => hevents other (.tail _ hother)
      exact ⟨hlast, fun ticket => (hstep ticket).trans (hrest ticket)⟩

/-! ## What a worker that exists executes -/

def work (depth : ℕ) (tasks : StorageTasks) (turns : List (ℕ × Bool)) :
    StorageTasks :=
  turns.foldl (fun tasks turn => tasks.workerStep depth turn.1 turn.2) tasks

theorem work_append (tasks : StorageTasks)
    (before after : List (ℕ × Bool)) :
    tasks.work depth (before ++ after) =
      (tasks.work depth before).work depth after :=
  List.foldl_append

theorem work_spec (hrunning : tasks.running = true)
    (turns : List (ℕ × Bool)) :
    (tasks.work depth turns).running = true ∧
      (tasks.work depth turns).stopper = tasks.stopper ∧
      ∀ ticket, (tasks.work depth turns).copies ticket =
        tasks.copies ticket := by
  induction turns generalizing tasks with
  | nil => exact ⟨hrunning, rfl, fun _ => rfl⟩
  | cons turn rest ih =>
      obtain ⟨hrun, hstopper, -, -⟩ :=
        worker_step_spec depth tasks turn.1 turn.2
      have hcopies := copies_worker depth hrunning turn.1 turn.2
      obtain ⟨hlast, hidle, hrest⟩ := ih (hrun.trans hrunning)
      refine ⟨hlast, hidle.trans hstopper, fun ticket => ?_⟩
      exact (hrest ticket).trans (hcopies ticket)

theorem reaches_loop (hserving : tasks.Serving) :
    ∃ turns, (tasks.work depth turns).worker = .looping ∧
      (tasks.work depth turns).queue.length ≤ tasks.queue.length := by
  have hprocess : ∀ left (tasks : StorageTasks) job,
      tasks.worker = .processing job left →
        ∃ turns, (tasks.work depth turns).worker = .looping ∧
          (tasks.work depth turns).queue = tasks.queue := by
    intro left
    induction left with
    | zero =>
        intro tasks job hworker
        exact ⟨[(0, false)], by simp [work, workerStep, hworker]⟩
    | succ left ih =>
        intro tasks job hworker
        obtain ⟨turns, hturns⟩ :=
          ih { tasks with worker := .processing job left } job rfl
        refine ⟨(0, false) :: turns, ?_⟩
        simpa [work, workerStep, hworker] using hturns
  have hreceived : ∀ (tasks : StorageTasks) job, tasks.running = true →
      tasks.worker = .received job →
        ∃ turns, (tasks.work depth turns).worker = .looping ∧
          (tasks.work depth turns).queue = tasks.queue := by
    intro tasks job hrunning hworker
    obtain ⟨turns, hturns⟩ :=
      hprocess 0 { tasks with worker := .processing job 0 } job rfl
    refine ⟨(0, false) :: turns, ?_⟩
    simpa [work, workerStep, hworker, hrunning] using hturns
  have hrunning := hserving.alive.1
  cases hworker : tasks.worker with
  | absent => exact absurd hworker hserving.alive.2
  | looping => exact ⟨[], hworker, le_rfl⟩
  | receiving =>
      cases hqueue : tasks.queue with
      | nil =>
          refine ⟨[(0, true)], ?_⟩
          simp [work, workerStep, hworker, hqueue]
      | cons job rest =>
          obtain ⟨turns, hloop, hrest⟩ := hreceived
            { tasks with queue := rest, worker := .received job } job
            hrunning rfl
          refine ⟨(0, false) :: turns, ?_⟩
          have hfirst : tasks.work depth ((0, false) :: turns) =
              ({ tasks with queue := rest, worker := .received job } :
                StorageTasks).work depth turns := by
            simp [work, workerStep, hworker, hqueue]
          rw [hfirst, hrest]
          exact ⟨hloop, by simp⟩
  | received job =>
      obtain ⟨turns, hloop, hsame⟩ := hreceived tasks job hrunning hworker
      exact ⟨turns, hloop, hsame.symm ▸ le_rfl⟩
  | processing job left =>
      obtain ⟨turns, hloop, hsame⟩ := hprocess left tasks job hworker
      exact ⟨turns, hloop, hsame.symm ▸ le_rfl⟩

theorem serving_work (hserving : tasks.Serving) (turns : List (ℕ × Bool)) :
    (tasks.work depth turns).Serving := by
  induction turns generalizing tasks with
  | nil => exact hserving
  | cons turn rest ih =>
      have hworker : (StorageEvent.worker turn.1 turn.2).concurrent = true :=
        rfl
      exact ih (serving_step depth hserving hworker).1

theorem serving_enqueue (hserving : tasks.Serving)
    (message : StorageMessage) : (tasks.enqueue depth message).Serving := by
  unfold enqueue
  split
  · exact ⟨hserving.alive, hserving.idle⟩
  · exact hserving

theorem takes_next (hrunning : tasks.running = true)
    (hloop : tasks.worker = .looping) {job : StorageJob}
    {rest : List StorageJob} (hqueue : tasks.queue = job :: rest) :
    (tasks.work depth [(0, false), (0, false)]).queue = rest := by
  simp [work, workerStep, hrunning, hloop, hqueue]

theorem drains (hserving : tasks.Serving) :
    ∃ turns, (tasks.work depth turns).queue = [] ∧
      (tasks.work depth turns).worker = .looping := by
  induction hlength : tasks.queue.length using Nat.strong_induction_on
    generalizing tasks with
  | _ length ih =>
      obtain ⟨first, hloop, hshorter⟩ :=
        reaches_loop depth hserving
      have hafter := serving_work depth hserving first
      cases hqueue : (tasks.work depth first).queue with
      | nil => exact ⟨first, hqueue, hloop⟩
      | cons job rest =>
          obtain ⟨second, hsecond⟩ : ∃ second,
              (tasks.work depth (first ++ second)).queue = rest := by
            refine ⟨[(0, false), (0, false)], ?_⟩
            rw [work_append]
            exact takes_next depth hafter.alive.1 hloop hqueue
          have hless : (tasks.work depth (first ++ second)).queue.length <
              length := by
            rw [hsecond, ← hlength]
            rw [hqueue, List.length_cons] at hshorter
            exact hshorter
          obtain ⟨last, hlast⟩ :=
            ih _ hless (serving_work depth hserving (first ++ second)) rfl
          refine ⟨first ++ second ++ last, ?_⟩
          rwa [work_append]

/-- Every command that is queued from now on is processed, when the worker
takes its turns. -/
def Processes (depth : ℕ) (tasks : StorageTasks) : Prop :=
  ∀ (later : Interleaving) (message : StorageMessage),
    let busy := run (step depth) tasks later.events
    busy.queue.length < depth →
      ∃ turns, busy.accepted ∈
        ((busy.enqueue depth message).work depth turns).executed

theorem serving_processes (hserving : tasks.Serving) :
    tasks.Processes depth := by
  intro later message busy hroom
  have hbusy : busy.Serving := (serving_run depth hserving later.concurrent).1
  have haccepted : busy.enqueue depth message = { busy with
      queue := busy.queue ++ [⟨busy.accepted, message⟩]
      accepted := busy.accepted + 1 } := if_pos hroom
  have hqueued : (busy.enqueue depth message).Serving :=
    serving_enqueue depth hbusy message
  obtain ⟨turns, hempty, hloop⟩ := drains depth hqueued
  obtain ⟨-, hstopper, hcopies⟩ :=
    work_spec depth hqueued.alive.1 turns
  refine ⟨turns, ?_⟩
  have hheld := StopState.held_of_not_inProgress hqueued.idle
  have hone : 0 < (busy.enqueue depth message).copies busy.accepted := by
    simp only [haccepted, copies, List.map_append, List.count_append,
      List.map_cons, List.map_nil, List.count_singleton_self]
    omega
  rw [← hcopies busy.accepted] at hone
  rw [← List.count_pos_iff]
  simpa [copies, hempty, hloop, hstopper, hheld] using hone

end StorageTasks

/-! ## What an attempt leaves behind -/

def SleepEnding.Cancelled : SleepEnding → Prop
  | .cancelled _ => True
  | .entered _ => False

instance (ending : SleepEnding) : Decidable ending.Cancelled :=
  match ending with
  | .cancelled _ => isTrue trivial
  | .entered _ => isFalse id

def MlServices.off : MlServices := ⟨false, false, false⟩

namespace PowerDevice

/-- Everything runs as before the attempt. -/
structure Restored (depth : ℕ) (before after : PowerDevice) : Prop where
  worker : after.storage.Alive
  processes : after.storage.Processes depth
  advertising : after.ble.advertising = before.ble.advertising
  sensor : after.sensor = before.sensor
  ml : after.ml = before.ml
  kept : ∀ ticket,
    before.storage.copies ticket ≤ after.storage.copies ticket

theorem prepare_storage (depth : ℕ) (device : PowerDevice)
    (attempt : SleepAttempt) :
    (device.prepare depth attempt).storage =
      run (StorageTasks.step depth) device.storage
        attempt.meanwhile.events := by
  unfold prepare runStorage sleepCommand
  split <;> rfl

theorem prepare_frame (depth : ℕ) (device : PowerDevice)
    (attempt : SleepAttempt) :
    (device.prepare depth attempt).ble = device.ble ∧
      (device.prepare depth attempt).sensor = device.sensor ∧
      (device.prepare depth attempt).ml =
        if attempt.commanded then device.ml.shutdown else device.ml := by
  unfold prepare runStorage sleepCommand
  split <;> exact ⟨rfl, rfl, rfl⟩

theorem shutdownBle_storage (device : PowerDevice) (env : SleepEnv) :
    (device.shutdownBle env).storage = device.storage := by
  unfold shutdownBle
  dsimp only
  split <;> rfl

theorem giveUp_lateDisconnect_storage (device : PowerDevice)
    (env : SleepEnv) (state : PowerState) :
    ((device.giveUp env state).lateDisconnect env).storage =
      device.storage := by
  unfold lateDisconnect
  split <;> rfl

/-- The storage shutdown has returned when `enterDeepSleep` ends. -/
theorem enterDeepSleep_storage {cfg : SleepRegisters} {depth : ℕ}
    {device after : PowerDevice} {env : SleepEnv} {awake : Bool}
    (hentered : device.enterDeepSleep cfg depth env = some (after, awake)) :
    after.storage.stopper = .returned ∧
      after.storage = run (StorageTasks.step depth)
        (device.storage.step depth .stop) env.shutdown.events := by
  unfold enterDeepSleep at hentered
  dsimp only at hentered
  split at hentered
  · cases hentered
  next hreturned =>
    have hreturned := not_not.mp hreturned
    split at hentered
    · cases hentered
      rw [giveUp_lateDisconnect_storage]
      exact ⟨(congrArg _ (shutdownBle_storage _ env)).trans hreturned,
        shutdownBle_storage _ env⟩
    split at hentered
    · cases hentered
      rw [giveUp_lateDisconnect_storage]
      exact ⟨(congrArg _ (shutdownBle_storage _ env)).trans hreturned,
        shutdownBle_storage _ env⟩
    · cases hentered
      exact ⟨(congrArg _ (shutdownBle_storage _ env)).trans hreturned,
        shutdownBle_storage _ env⟩

/-- A sleep that is given up has no worker left. -/
theorem not_alive_of_entered {cfg : SleepRegisters} {depth : ℕ}
    {device after : PowerDevice} {env : SleepEnv} {awake : Bool}
    (horderly : device.storage.Orderly)
    (hentered : device.enterDeepSleep cfg depth env = some (after, awake)) :
    ¬after.storage.Alive := by
  obtain ⟨hreturned, hstorage⟩ := enterDeepSleep_storage hentered
  have hstopped : after.storage.Orderly := by
    rw [hstorage]
    exact StorageTasks.orderly_run depth env.shutdown.events
      (horderly.step .stop)
  exact hstopped.not_alive hreturned

theorem restored_of_cancelled {depth : ℕ} {device : PowerDevice}
    {attempt : SleepAttempt} {power : PowerManager}
    (hserving : device.storage.Serving)
    (hml : attempt.commanded = true → device.ml = .off) :
    Restored depth device
      { device.prepare depth attempt with power := power } := by
  obtain ⟨hble, hsensor, hafter⟩ := prepare_frame depth device attempt
  have hstorage := prepare_storage depth device attempt
  obtain ⟨hlast, hcopies⟩ :=
    StorageTasks.serving_run depth hserving
      attempt.meanwhile.concurrent
  rw [← hstorage] at hlast hcopies
  refine ⟨hlast.alive, StorageTasks.serving_processes depth hlast,
    congrArg _ hble, hsensor, ?_, hcopies⟩
  cases hcommanded : attempt.commanded with
  | false => simpa [hcommanded] using hafter
  | true =>
      have hoff : device.ml.shutdown = .off := rfl
      rw [hml hcommanded, ← hoff]
      simpa [hcommanded] using hafter

/-- A sleep attempt after which the device is awake has put everything back
exactly when it was cancelled in `SLEEP_PREP`, a storage worker existed, and no
sleep command had shut down a service. -/
theorem awake_restored_iff (cfg : SleepRegisters) (depth : ℕ)
    (events : List StorageEvent) (device after : PowerDevice)
    (attempt : SleepAttempt)
    (hreached : device.storage =
      run (StorageTasks.step depth) .initial events)
    (hidle : device.storage.stopper.inProgress = false)
    (hawake : device.attemptSleep cfg depth attempt = some (after, true)) :
    Restored depth device after ↔
      attempt.ending.Cancelled ∧ device.storage.Alive ∧
        (attempt.commanded = true → device.ml = .off) := by
  have horderly : device.storage.Orderly := by
    rw [hreached]
    exact StorageTasks.orderly_run depth events StorageTasks.orderly_initial
  obtain ⟨hble, hsensor, hml⟩ := prepare_frame depth device attempt
  have hstorage := prepare_storage depth device attempt
  unfold attemptSleep at hawake
  dsimp only at hawake
  cases hending : attempt.ending with
  | cancelled ms =>
      rw [hending] at hawake
      cases hawake
      constructor
      · intro hrestored
        refine ⟨trivial, ?_, fun hcommanded => ?_⟩
        · have halive := hrestored.worker
          rw [show _ = _ from hstorage] at halive
          exact (StorageTasks.concurrent_run depth hidle
            attempt.meanwhile.concurrent).mp halive
        · have hsame : (device.prepare depth attempt).ml = device.ml :=
            hrestored.ml
          rw [hml, if_pos hcommanded] at hsame
          exact hsame.symm
      · rintro ⟨-, halive, hoff⟩
        exact restored_of_cancelled ⟨halive, hidle⟩ hoff
  | entered env =>
      rw [hending] at hawake
      constructor
      · intro hrestored
        have hprepared : (device.prepare depth attempt).storage.Orderly := by
          rw [hstorage]
          exact StorageTasks.orderly_run depth _ horderly
        have hgone : ¬after.storage.Alive := by
          refine not_alive_of_entered ?_ hawake
          exact hprepared
        exact absurd hrestored.worker hgone
      · rintro ⟨hcancelled, -⟩
        exact hcancelled.elim

/-! ## Two attempts -/

/-- Awake and unconnected, with every service running. -/
def advertisingDevice : PowerDevice where
  power :=
    { currentState := .wakeMode
      previousState := .boot
      stateEntryTime := 0
      sleepPrepStartTime := 0
      sleepDeferred := false
      consecutiveDetections := 0
      lastHitTime := 0
      partyModeActive := false
      sleepCancelCount := 0
      wokeFromSensor := false
      lastSleepCancellationTime := 0
      lastActivityTime := 0 }
  ml := ⟨true, true, true⟩
  ble := ⟨true, false, true⟩
  sensor := ⟨true, ⟨0, 0, 0, 0⟩⟩
  storage := run (StorageTasks.step 4) .initial [.start true]

def sleepRegisters : SleepRegisters := ⟨1, 4, 8, 4, 0, 100⟩

def idleAttempt (ending : SleepEnding) : SleepAttempt where
  commanded := false
  ms := 60000
  meanwhile := ⟨[.worker 0 false, .worker 0 true], by decide⟩
  ending := ending

theorem cancelled_attempt_restored :
    ∃ after, advertisingDevice.attemptSleep sleepRegisters 4
        (idleAttempt (.cancelled 60500)) = some (after, true) ∧
      Restored 4 advertisingDevice after :=
  ⟨_, rfl, (awake_restored_iff sleepRegisters 4 [.start true]
    advertisingDevice _ (idleAttempt (.cancelled 60500)) rfl rfl rfl).mpr
      ⟨trivial, by decide, by decide⟩⟩

/-- The wake pin is low when the shutdown is complete. -/
def pinLowEnv : SleepEnv where
  ms := 70000
  shutdown := ⟨[.stopper 0, .stopper 0, .stopper 0, .stopper 0], by decide⟩
  disconnectLate := false
  bus := [⟨true, true, true, true, true, true, true⟩]
  proximityElevated := false
  wakePinLow := true

theorem pin_low_not_restored :
    ∃ after, advertisingDevice.attemptSleep sleepRegisters 4
        (idleAttempt (.entered pinLowEnv)) = some (after, true) ∧
      after.power.currentState = .detectionActive ∧
      ¬Restored 4 advertisingDevice after := by
  refine ⟨_, rfl, by decide, fun hrestored => ?_⟩
  exact absurd hrestored.worker (by decide)

end PowerDevice

end SensorFirmware
