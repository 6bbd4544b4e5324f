import SensorFirmware.GuardedRun
import SensorFirmware.HistoryState

/-!
# The storage worker and its shutdown

The worker task takes commands from a bounded queue and processes them; other
tasks queue them, and `stopStorageWorker` shuts the worker down.  The tasks
are interleaved step by step, and the processing of a command takes any number
of NVS writes.  Tickets number the commands in the order in which
`queueStorageCommand` accepts them.
-/

namespace SensorFirmware

open GuardedRun

structure StorageJob where
  ticket : ℕ
  message : StorageMessage
  deriving DecidableEq, Repr

/-- Where the worker task stands.  `looping` is before the check of the running
flag, or in one of the delays of the loop. -/
inductive WorkerState where
  | absent
  | looping
  | receiving
  | received (job : StorageJob)
  | processing (job : StorageJob) (writesLeft : ℕ)
  deriving DecidableEq, Repr

/-- Where the call of `stopStorageWorker` stands. -/
inductive StopState where
  | idle
  | waiting
  | draining
  | processing (job : StorageJob) (writesLeft : ℕ)
  | deleting
  | returned
  deriving DecidableEq, Repr

namespace WorkerState

/-- What the worker has taken from the queue. -/
def held : WorkerState → List StorageJob
  | received job => [job]
  | processing job _ => [job]
  | _ => []

/-- Taken from the queue, the running flag not yet looked at again. -/
def unchecked : WorkerState → Option StorageJob
  | received job => some job
  | _ => none

@[simp] theorem held_absent : held absent = [] := rfl

@[simp] theorem held_looping : held looping = [] := rfl

@[simp] theorem held_receiving : held receiving = [] := rfl

@[simp] theorem held_received (job : StorageJob) :
    held (received job) = [job] := rfl

@[simp] theorem held_processing (job : StorageJob) (left : ℕ) :
    held (processing job left) = [job] := rfl

@[simp] theorem unchecked_received (job : StorageJob) :
    unchecked (received job) = some job := rfl

@[simp] theorem unchecked_looping : unchecked looping = none := rfl

@[simp] theorem unchecked_receiving : unchecked receiving = none := rfl

@[simp] theorem unchecked_processing (job : StorageJob) (left : ℕ) :
    unchecked (processing job left) = none := rfl

end WorkerState

namespace StopState

def held : StopState → List StorageJob
  | processing job _ => [job]
  | _ => []

def inProgress : StopState → Bool
  | idle => false
  | returned => false
  | _ => true

@[simp] theorem held_idle : held idle = [] := rfl

@[simp] theorem held_waiting : held waiting = [] := rfl

@[simp] theorem held_draining : held draining = [] := rfl

@[simp] theorem held_processing (job : StorageJob) (left : ℕ) :
    held (processing job left) = [job] := rfl

@[simp] theorem held_deleting : held deleting = [] := rfl

@[simp] theorem held_returned : held returned = [] := rfl

theorem held_of_not_inProgress {stopper : StopState}
    (hidle : stopper.inProgress = false) : stopper.held = [] := by
  cases stopper <;> first | rfl | cases hidle

end StopState

/-- `dueBelow` is the number of commands that were accepted before the last
call of `stopStorageWorker`, and `executed` has the tickets of the commands
that were processed to their end. -/
structure StorageTasks where
  queue : List StorageJob
  running : Bool
  worker : WorkerState
  stopper : StopState
  accepted : ℕ
  dueBelow : ℕ
  executed : List ℕ
  deriving DecidableEq, Repr

inductive StorageEvent where
  | enqueue (message : StorageMessage)
  | start (created : Bool)
  | stop
  | worker (writes : ℕ) (timedOut : Bool)
  | stopper (writes : ℕ)
  deriving DecidableEq, Repr

namespace StorageTasks

def initial : StorageTasks where
  queue := []
  running := false
  worker := .absent
  stopper := .idle
  accepted := 0
  dueBelow := 0
  executed := []

def enqueue (depth : ℕ) (tasks : StorageTasks) (message : StorageMessage) :
    StorageTasks :=
  if tasks.queue.length < depth then
    { tasks with
      queue := tasks.queue ++ [⟨tasks.accepted, message⟩]
      accepted := tasks.accepted + 1 }
  else tasks

/-- `startStorageWorker`; `created` says whether the task could be created. -/
def startStorageWorker (tasks : StorageTasks) (created : Bool) :
    StorageTasks :=
  if tasks.running then tasks
  else if created then
    { tasks with worker := .looping, running := true }
  else { tasks with worker := .absent }

/-- The beginning of `stopStorageWorker`, up to its delay. -/
def stopStorageWorker (tasks : StorageTasks) : StorageTasks :=
  let tasks := { tasks with dueBelow := tasks.accepted }
  if !tasks.running && tasks.worker == .absent then
    { tasks with stopper := .returned }
  else
    { tasks with
      running := false
      stopper := if tasks.worker = .absent then .draining else .waiting }

/-- One step of `storageWorker`. -/
def workerStep (depth : ℕ) (tasks : StorageTasks) (writes : ℕ)
    (timedOut : Bool) : StorageTasks :=
  match tasks.worker with
  | .absent => tasks
  | .looping =>
      if tasks.running then { tasks with worker := .receiving } else tasks
  | .receiving =>
      match tasks.queue with
      | job :: rest => { tasks with queue := rest, worker := .received job }
      | [] => if timedOut then { tasks with worker := .looping } else tasks
  | .received job =>
      if tasks.running then { tasks with worker := .processing job writes }
      else if tasks.queue.length < depth then
        { tasks with queue := job :: tasks.queue, worker := .looping }
      else { tasks with worker := .looping }
  | .processing job (left + 1) =>
      { tasks with worker := .processing job left }
  | .processing job 0 =>
      { tasks with
        executed := job.ticket :: tasks.executed
        worker := .looping }

/-- One step of `stopStorageWorker` after its call. -/
def stopperStep (tasks : StorageTasks) (writes : ℕ) : StorageTasks :=
  match tasks.stopper with
  | .idle => tasks
  | .waiting => { tasks with stopper := .draining }
  | .draining =>
      match tasks.queue with
      | job :: rest =>
          { tasks with queue := rest, stopper := .processing job writes }
      | [] => { tasks with stopper := .deleting }
  | .processing job (left + 1) =>
      { tasks with stopper := .processing job left }
  | .processing job 0 =>
      { tasks with
        executed := job.ticket :: tasks.executed
        stopper := .draining }
  | .deleting => { tasks with worker := .absent, stopper := .returned }
  | .returned => tasks

/-- The caller of `stopStorageWorker` starts and stops nothing else before the
call has returned. -/
def step (depth : ℕ) (tasks : StorageTasks) :
    StorageEvent → StorageTasks
  | .enqueue message => tasks.enqueue depth message
  | .start created =>
      if tasks.stopper.inProgress then tasks
      else { tasks.startStorageWorker created with stopper := .idle }
  | .stop =>
      if tasks.stopper.inProgress then tasks else tasks.stopStorageWorker
  | .worker writes timedOut => tasks.workerStep depth writes timedOut
  | .stopper writes => tasks.stopperStep writes

/-! ## What a shutdown needs -/

/-- The step loses no command: a worker exists when the shutdown is called with
commands in the queue, a command that the worker takes back has room, the drain
does not end while the worker is about to take one back, and the worker is
deleted with empty hands. -/
def KeepsCommands (depth : ℕ) (tasks : StorageTasks) :
    StorageEvent → Prop
  | .enqueue _ => True
  | .start _ => True
  | .stop => tasks.stopper.inProgress = false → tasks.running = false →
      tasks.worker = .absent → tasks.queue = []
  | .worker _ _ => tasks.running = false → tasks.worker.unchecked ≠ none →
      tasks.queue.length < depth
  | .stopper _ =>
      (tasks.stopper = .draining → tasks.queue = [] →
        ∀ job ∈ tasks.worker.unchecked, tasks.dueBelow ≤ job.ticket) ∧
      (tasks.stopper = .deleting → tasks.worker.held = [])

instance (depth : ℕ) (tasks : StorageTasks) (event : StorageEvent) :
    Decidable (tasks.KeepsCommands depth event) :=
  match event with
  | .enqueue _ => isTrue trivial
  | .start _ => isTrue trivial
  | .stop => inferInstanceAs (Decidable (_ → _ → _ → _))
  | .worker _ _ => inferInstanceAs (Decidable (_ → _ → _))
  | .stopper _ => inferInstanceAs (Decidable ((_ → _ → _) ∧ (_ → _)))

/-- Every command accepted before the shutdown was called has been executed
exactly once when it has returned, and none of them is in the queue. -/
structure StoppedClean (tasks : StorageTasks) : Prop where
  executed : tasks.stopper = .returned →
    ∀ ticket < tasks.dueBelow, tasks.executed.count ticket = 1
  queued : tasks.stopper = .returned →
    ∀ job ∈ tasks.queue, tasks.dueBelow ≤ job.ticket

/-! ## What the tasks keep -/

/-- How often a command is queued, in somebody's hands or executed. -/
def copies (tasks : StorageTasks) (ticket : ℕ) : ℕ :=
  (tasks.queue.map StorageJob.ticket).count ticket +
    (tasks.worker.held.map StorageJob.ticket).count ticket +
    (tasks.stopper.held.map StorageJob.ticket).count ticket +
    tasks.executed.count ticket

structure Kept (tasks : StorageTasks) : Prop where
  copies : ∀ ticket,
    tasks.copies ticket = if ticket < tasks.accepted then 1 else 0
  due_le : tasks.dueBelow ≤ tasks.accepted
  stopped : tasks.stopper ≠ .idle → tasks.running = false
  absent : tasks.stopper.inProgress = false → tasks.running = false →
    tasks.worker = .absent
  drained : tasks.stopper = .deleting →
    (∀ job ∈ tasks.queue, tasks.dueBelow ≤ job.ticket) ∧
      ∀ job ∈ tasks.worker.unchecked, tasks.dueBelow ≤ job.ticket
  clean : tasks.StoppedClean

theorem kept_initial : initial.Kept := by
  constructor <;> simp [initial, StorageTasks.copies]
  constructor <;> simp

variable {depth : ℕ} {tasks : StorageTasks}

theorem Kept.enqueue (hkept : tasks.Kept) (message : StorageMessage) :
    (tasks.enqueue depth message).Kept := by
  unfold StorageTasks.enqueue
  split
  · obtain ⟨copies, due, stopped, absent, drained, clean⟩ := hkept
    refine ⟨?_, by dsimp only; omega, stopped, absent, ?_, ⟨clean.executed, ?_⟩⟩
    · intro ticket
      have hcopies := copies ticket
      simp only [StorageTasks.copies, List.map_append, List.map_cons,
        List.map_nil, List.count_append, List.count_singleton,
        beq_iff_eq] at hcopies ⊢
      split_ifs at * <;> omega
    · intro hdeleting
      obtain ⟨hqueue, hworker⟩ := drained hdeleting
      refine ⟨?_, hworker⟩
      intro job hjob
      rcases List.mem_append.mp hjob with hold | hnew
      · exact hqueue job hold
      · rw [List.mem_singleton.mp hnew]
        exact due
    · intro hreturned job hjob
      rcases List.mem_append.mp hjob with hold | hnew
      · exact clean.queued hreturned job hold
      · rw [List.mem_singleton.mp hnew]
        exact due
  · exact hkept

theorem Kept.start (hkept : tasks.Kept) (created : Bool)
    (hidle : tasks.stopper.inProgress = false) :
    ({ tasks.startStorageWorker created with stopper := .idle } :
      StorageTasks).Kept := by
  obtain ⟨copies, due, -, absent, -, -⟩ := hkept
  have hheld := StopState.held_of_not_inProgress hidle
  unfold startStorageWorker
  split_ifs with hrunning hcreated
  · refine ⟨?_, due, by simp, by simp [hrunning], by simp, by constructor <;> simp⟩
    intro ticket
    have hcopies := copies ticket
    simpa [StorageTasks.copies, hheld] using hcopies
  all_goals
    have hworker := absent hidle (by simpa using hrunning)
    refine ⟨?_, due, by simp, by simp, by simp, by constructor <;> simp⟩
    intro ticket
    have hcopies := copies ticket
    simpa [StorageTasks.copies, hheld, hworker] using hcopies

theorem Kept.executed_of_settled (hkept : tasks.Kept)
    (hqueue : ∀ job ∈ tasks.queue, tasks.dueBelow ≤ job.ticket)
    (hworker : tasks.worker.held = []) (hstopper : tasks.stopper.held = []) :
    ∀ ticket < tasks.dueBelow, tasks.executed.count ticket = 1 := by
  intro ticket hdue
  have hcopies := hkept.copies ticket
  have hunqueued : (tasks.queue.map StorageJob.ticket).count ticket = 0 := by
    rw [List.count_eq_zero]
    intro hmem
    obtain ⟨job, hjob, hticket⟩ := List.mem_map.mp hmem
    have hle := hqueue job hjob
    omega
  have hlt : ticket < tasks.accepted := lt_of_lt_of_le hdue hkept.due_le
  simpa [StorageTasks.copies, hunqueued, hworker, hstopper, hlt]
    using hcopies

theorem Kept.stop (hkept : tasks.Kept)
    (hidle : tasks.stopper.inProgress = false)
    (hqueue : tasks.running = false → tasks.worker = .absent →
      tasks.queue = []) : tasks.stopStorageWorker.Kept := by
  obtain ⟨copies, -, -, absent, -, -⟩ := hkept
  have hheld := StopState.held_of_not_inProgress hidle
  unfold stopStorageWorker
  dsimp only
  split
  next hgone =>
    obtain ⟨hrunning, hworker⟩ : tasks.running = false ∧
        tasks.worker = .absent := by simpa using hgone
    have hempty := hqueue hrunning hworker
    have hexecuted : ∀ ticket, tasks.executed.count ticket =
        if ticket < tasks.accepted then 1 else 0 := by
      intro ticket
      simpa [StorageTasks.copies, hempty, hworker, hheld]
        using copies ticket
    refine ⟨?_, le_rfl, fun _ => hrunning, fun _ _ => hworker, by simp,
      ⟨?_, ?_⟩⟩
    · intro ticket
      simpa [StorageTasks.copies, hempty, hworker] using hexecuted ticket
    · intro _ ticket hdue
      rw [hexecuted, if_pos hdue]
    · intro _ job hjob
      simp [hempty] at hjob
  next =>
    have hcopies : ∀ ticket,
        (tasks.queue.map StorageJob.ticket).count ticket +
            (tasks.worker.held.map StorageJob.ticket).count ticket +
          tasks.executed.count ticket =
        if ticket < tasks.accepted then 1 else 0 := by
      intro ticket
      simpa [StorageTasks.copies, hheld] using copies ticket
    split
    · refine ⟨fun ticket => ?_, le_rfl, fun _ => rfl, ?_, ?_, ⟨?_, ?_⟩⟩
      · simpa [StorageTasks.copies] using hcopies ticket
      all_goals simp [StopState.inProgress]
    · refine ⟨fun ticket => ?_, le_rfl, fun _ => rfl, ?_, ?_, ⟨?_, ?_⟩⟩
      · simpa [StorageTasks.copies] using hcopies ticket
      all_goals simp [StopState.inProgress]

/-! ## The steps of the worker -/

theorem Kept.not_returned (hkept : tasks.Kept)
    (hhere : tasks.worker ≠ .absent) : tasks.stopper ≠ .returned := by
  intro hreturned
  have hrunning := hkept.stopped (by simp [hreturned])
  exact hhere (hkept.absent (by simp [hreturned, StopState.inProgress])
    hrunning)

/-- A step of an existing worker that executes nothing. -/
theorem Kept.moveWorker (hkept : tasks.Kept)
    (hhere : tasks.worker ≠ .absent) {queue : List StorageJob}
    {worker : WorkerState}
    (hcopies : ∀ ticket,
      (queue.map StorageJob.ticket).count ticket +
          (worker.held.map StorageJob.ticket).count ticket =
        (tasks.queue.map StorageJob.ticket).count ticket +
          (tasks.worker.held.map StorageJob.ticket).count ticket)
    (hdrained : tasks.stopper = .deleting →
      (∀ job ∈ queue, tasks.dueBelow ≤ job.ticket) ∧
        ∀ job ∈ worker.unchecked, tasks.dueBelow ≤ job.ticket) :
    ({ tasks with queue := queue, worker := worker } :
      StorageTasks).Kept := by
  have hreturned := hkept.not_returned hhere
  refine ⟨?_, hkept.due_le, hkept.stopped, ?_, hdrained, ⟨?_, ?_⟩⟩
  · intro ticket
    have hbefore := hkept.copies ticket
    have hmoved := hcopies ticket
    simp only [StorageTasks.copies] at hbefore ⊢
    omega
  · intro hidle hrunning
    exact absurd (hkept.absent hidle hrunning) hhere
  · exact fun hstopper => absurd hstopper hreturned
  · exact fun hstopper => absurd hstopper hreturned

theorem Kept.finishWorker (hkept : tasks.Kept) {job : StorageJob}
    {left : ℕ} (hworker : tasks.worker = .processing job left) :
    ({ tasks with
      executed := job.ticket :: tasks.executed
      worker := .looping } : StorageTasks).Kept := by
  have hhere : tasks.worker ≠ .absent := by simp [hworker]
  have hreturned := hkept.not_returned hhere
  refine ⟨?_, hkept.due_le, hkept.stopped, ?_, ?_, ⟨?_, ?_⟩⟩
  · intro ticket
    have hbefore := hkept.copies ticket
    simp only [StorageTasks.copies, hworker, WorkerState.held_processing,
      WorkerState.held_looping, List.map_cons, List.map_nil,
      List.count_cons, List.count_nil] at hbefore ⊢
    omega
  · intro hidle hrunning
    exact absurd (hkept.absent hidle hrunning) hhere
  · intro hdeleting
    exact ⟨(hkept.drained hdeleting).1, by simp⟩
  · exact fun hstopper => absurd hstopper hreturned
  · exact fun hstopper => absurd hstopper hreturned

theorem Kept.worker (hkept : tasks.Kept) (writes : ℕ) (timedOut : Bool)
    (hroom : tasks.running = false → tasks.worker.unchecked ≠ none →
      tasks.queue.length < depth) :
    (tasks.workerStep depth writes timedOut).Kept := by
  unfold workerStep
  split
  · exact hkept
  next hworker =>
    split
    · refine hkept.moveWorker (by simp [hworker]) ?_ ?_
      · simp [hworker]
      · exact fun hdeleting => ⟨(hkept.drained hdeleting).1, by simp⟩
    · exact hkept
  next hworker =>
    split
    next job rest hqueue =>
      refine hkept.moveWorker (by simp [hworker]) ?_ ?_
      · intro ticket
        simp [hworker, hqueue, List.count_cons]
      · intro hdeleting
        have hdue := (hkept.drained hdeleting).1
        rw [hqueue] at hdue
        refine ⟨fun other hother => hdue other (.tail _ hother), ?_⟩
        simpa using hdue job (.head rest)
    next hqueue =>
      split
      · refine hkept.moveWorker (by simp [hworker]) ?_ ?_
        · simp [hworker]
        · exact fun hdeleting => ⟨(hkept.drained hdeleting).1, by simp⟩
      · exact hkept
  next job hworker =>
    split
    · refine hkept.moveWorker (by simp [hworker]) ?_ ?_
      · simp [hworker]
      · exact fun hdeleting => ⟨(hkept.drained hdeleting).1, by simp⟩
    next hstopped =>
      have hfits := hroom (by simpa using hstopped) (by simp [hworker])
      rw [if_pos hfits]
      refine hkept.moveWorker (by simp [hworker]) ?_ ?_
      · intro ticket
        simp [hworker, List.count_cons]
      · intro hdeleting
        obtain ⟨hqueue, hunchecked⟩ := hkept.drained hdeleting
        refine ⟨?_, by simp⟩
        intro other hother
        rcases List.mem_cons.mp hother with rfl | hold
        · exact hunchecked other (by simp [hworker])
        · exact hqueue other hold
  next job left hworker =>
    refine hkept.moveWorker (by simp [hworker]) ?_ ?_
    · simp [hworker]
    · exact fun hdeleting => ⟨(hkept.drained hdeleting).1, by simp⟩
  next job hworker => exact hkept.finishWorker hworker

/-! ## The steps of the shutdown -/

theorem Kept.moveStopper (hkept : tasks.Kept)
    (hbusy : tasks.stopper.inProgress = true) {queue : List StorageJob}
    {stopper : StopState} {executed : List ℕ}
    (hnext : stopper.inProgress = true)
    (hcopies : ∀ ticket,
      (queue.map StorageJob.ticket).count ticket +
          (stopper.held.map StorageJob.ticket).count ticket +
          executed.count ticket =
        (tasks.queue.map StorageJob.ticket).count ticket +
          (tasks.stopper.held.map StorageJob.ticket).count ticket +
          tasks.executed.count ticket)
    (hdrained : stopper = .deleting →
      (∀ job ∈ queue, tasks.dueBelow ≤ job.ticket) ∧
        ∀ job ∈ tasks.worker.unchecked, tasks.dueBelow ≤ job.ticket) :
    ({ tasks with
      queue := queue
      stopper := stopper
      executed := executed } : StorageTasks).Kept := by
  have hrunning : tasks.running = false := by
    apply hkept.stopped
    intro hidle
    simp [hidle, StopState.inProgress] at hbusy
  refine ⟨?_, hkept.due_le, fun _ => hrunning, ?_, hdrained, ⟨?_, ?_⟩⟩
  · intro ticket
    have hbefore := hkept.copies ticket
    have hmoved := hcopies ticket
    simp only [StorageTasks.copies] at hbefore ⊢
    omega
  · intro hidle
    rw [hnext] at hidle
    cases hidle
  all_goals
    intro hreturned
    have hreturned : stopper = .returned := hreturned
    simp [hreturned, StopState.inProgress] at hnext

theorem Kept.delete (hkept : tasks.Kept)
    (hstopper : tasks.stopper = .deleting)
    (hempty : tasks.worker.held = []) :
    ({ tasks with worker := .absent, stopper := .returned } :
      StorageTasks).Kept := by
  have hrunning := hkept.stopped (by simp [hstopper])
  have hqueue := (hkept.drained hstopper).1
  refine ⟨?_, hkept.due_le, fun _ => hrunning, fun _ _ => rfl, by simp,
    ⟨fun _ => ?_, fun _ => hqueue⟩⟩
  · intro ticket
    simpa [StorageTasks.copies, hempty, hstopper] using hkept.copies ticket
  · exact hkept.executed_of_settled hqueue hempty (by simp [hstopper])

theorem Kept.stopper (hkept : tasks.Kept) (writes : ℕ)
    (hdrain : tasks.stopper = .draining → tasks.queue = [] →
      ∀ job ∈ tasks.worker.unchecked, tasks.dueBelow ≤ job.ticket)
    (hdelete : tasks.stopper = .deleting → tasks.worker.held = []) :
    (tasks.stopperStep writes).Kept := by
  unfold stopperStep
  split
  · exact hkept
  next hstopper =>
    refine hkept.moveStopper (by simp [hstopper, StopState.inProgress])
      rfl ?_ (by simp)
    simp [hstopper]
  next hstopper =>
    split
    next job rest hqueue =>
      refine hkept.moveStopper (by simp [hstopper, StopState.inProgress])
        rfl ?_ (by simp)
      intro ticket
      simp [hstopper, hqueue, List.count_cons]
    next hqueue =>
      refine hkept.moveStopper (by simp [hstopper, StopState.inProgress])
        rfl ?_ ?_
      · simp [hstopper]
      · exact fun _ => ⟨by simp [hqueue], hdrain hstopper hqueue⟩
  next job left hstopper =>
    refine hkept.moveStopper (by simp [hstopper, StopState.inProgress])
      rfl ?_ (by simp)
    simp [hstopper]
  next job hstopper =>
    refine hkept.moveStopper (by simp [hstopper, StopState.inProgress])
      rfl ?_ (by simp)
    intro ticket
    simp only [hstopper, StopState.held_processing, StopState.held_draining,
      List.map_cons, List.map_nil, List.count_cons, List.count_nil]
    omega
  next hstopper => exact hkept.delete hstopper (hdelete hstopper)
  · exact hkept

/-! ## Runs -/

theorem Kept.step (hkept : tasks.Kept) (event : StorageEvent)
    (hguard : tasks.KeepsCommands depth event) :
    (tasks.step depth event).Kept := by
  cases event with
  | enqueue message => exact hkept.enqueue message
  | start created =>
      simp only [StorageTasks.step]
      split
      · exact hkept
      next hidle => exact hkept.start created (by simpa using hidle)
  | stop =>
      simp only [StorageTasks.step]
      split
      · exact hkept
      next hidle =>
        have hidle' : tasks.stopper.inProgress = false := by
          simpa using hidle
        exact hkept.stop hidle' (hguard hidle')
  | worker writes timedOut => exact hkept.worker writes timedOut hguard
  | stopper writes => exact hkept.stopper writes hguard.1 hguard.2

/-- In every interleaving whose steps lose no command, a shutdown that has
returned has executed every command accepted before it exactly once. -/
theorem shutdown_executes_all (depth : ℕ) (events : List StorageEvent)
    (hguard : Guarded (step depth) (KeepsCommands depth) initial events) :
    (run (step depth) initial events).StoppedClean := by
  have hstep : ∀ (tasks : StorageTasks) event, tasks.Kept →
      tasks.KeepsCommands depth event → (tasks.step depth event).Kept :=
    fun _ event hkept hkeeps => hkept.step event hkeeps
  have hrun := invariant_run hstep kept_initial hguard
  exact hrun.clean

def saveRequest : StorageMessage := ⟨.saveHit, 7⟩

/-- The worker has just taken the only command when the shutdown begins, and
puts it back in time. -/
def restoredShutdown : List StorageEvent :=
  [.start true, .enqueue saveRequest, .worker 0 false, .worker 0 false,
    .stop, .worker 0 false, .stopper 0, .stopper 2, .stopper 0, .stopper 0,
    .stopper 0, .stopper 0, .stopper 0]

theorem restored_shutdown_clean :
    (run (step 4) initial restoredShutdown).stopper = .returned ∧
      (run (step 4) initial restoredShutdown).StoppedClean :=
  ⟨by decide, shutdown_executes_all 4 restoredShutdown (by decide)⟩

/-- The worker is deleted between the two writes of the only command. -/
def abandonedShutdown : List StorageEvent :=
  [.start true, .enqueue saveRequest, .worker 0 false, .worker 0 false,
    .worker 2 false, .worker 0 false, .stop, .stopper 0, .stopper 0,
    .stopper 0]

theorem abandoned_half_way :
    (run (step 4) initial abandonedShutdown).worker = .absent ∧
      ¬(run (step 4) initial abandonedShutdown).StoppedClean := by
  refine ⟨by decide, fun hclean => ?_⟩
  have hexecuted := hclean.executed (by decide) 0 (by decide)
  exact absurd hexecuted (by decide)

end StorageTasks

end SensorFirmware
