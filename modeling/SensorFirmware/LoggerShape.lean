import SensorFirmware.SessionFile

/-!
# What the samples cannot change

Which calls of the logger succeed, which windows it queues and how long the
files are depend on the order of the calls and on the outcomes of the writes,
not on the samples or the readings.
-/

namespace SensorFirmware

open ExtractWindows FixedRecords GuardedRun

/-! ## The same calls with other data -/

def fullScale : SampleRecord where
  proximity := 0xFFFF
  dtMs := 0xFFFF

def bareEnv : HeaderEnv where
  currentUptime := 0
  tvSec := 0
  sensor := some ⟨0xFFFF, 0xFFFF, 0xFFFF⟩
  sensitivity := none

/-- The same call with samples at full scale and fixed readings. -/
def LoggerEvent.bare : LoggerEvent → LoggerEvent
  | .appendSample _ _ => .appendSample fullScale ⟨0, false, bareEnv, bareEnv⟩
  | .startSession label =>
      .startSession (if label = .invalid then .invalid else .idle)
  | .stopSession => .stopSession
  | .setRuntimeFlags _ => .setRuntimeFlags 0
  | .write outcome => .write outcome

@[simp] theorem LoggerEvent.bare_bare (event : LoggerEvent) :
    event.bare.bare = event.bare := by
  cases event with
  | startSession label =>
      by_cases hlabel : label = .invalid <;> simp [bare, hlabel]
  | appendSample | stopSession | setRuntimeFlags | write => rfl

section SameShape

variable {cfg : MLConfig}

/-- All that decides which calls succeed and how long the files are. -/
structure SameShape (left right : DataLoggerService cfg) : Prop where
  state : left.state = right.state
  currentSessionId : left.currentSessionId = right.currentSessionId
  nextSessionId : left.nextSessionId = right.nextSessionId
  spiffsMounted : left.spiffsMounted = right.spiffsMounted
  sampleIndex : left.sampleIndex = right.sampleIndex
  queue : left.loggerQueue.map (fun window => window.header.sessionId) =
    right.loggerQueue.map fun window => window.header.sessionId
  files : ∀ path, (left.spiffs.contents path).length =
    (right.spiffs.contents path).length

namespace SameShape

variable {left right : DataLoggerService cfg}

theorem refl (logger : DataLoggerService cfg) : SameShape logger logger :=
  ⟨rfl, rfl, rfl, rfl, rfl, rfl, fun _ => rfl⟩

theorem length_queue (hsame : SameShape left right) :
    left.loggerQueue.length = right.loggerQueue.length := by
  have hlength := congrArg List.length hsame.queue
  simpa using hlength

theorem sessionId_writeWindow (logger : DataLoggerService cfg)
    (sample : SampleRecord) (env : SampleEnv) (record : HeaderEnv) :
    ((logger.filled sample env).writeWindow record).header.sessionId =
      logger.currentSessionId := by
  rw [DataLoggerService.filled_eq]
  rfl

theorem appendSample (hsame : SameShape left right)
    (sample other : SampleRecord) (env env' : SampleEnv) :
    SameShape (left.appendSample sample env)
      (right.appendSample other env') := by
  obtain ⟨hstate, hsession, hnext, hmounted, hfiles⟩ :=
    left.appendSample_kept sample env
  obtain ⟨hstate', hsession', hnext', hmounted', hfiles'⟩ :=
    right.appendSample_kept other env'
  constructor
  · rw [hstate, hstate', hsame.state]
  · rw [hsession, hsession', hsame.currentSessionId]
  · rw [hnext, hnext', hsame.nextSessionId]
  · rw [hmounted, hmounted', hsame.spiffsMounted]
  · rw [DataLoggerService.sampleIndex_appendSample,
      DataLoggerService.sampleIndex_appendSample, hsame.sampleIndex]
  · rw [DataLoggerService.loggerQueue_appendSample,
      DataLoggerService.loggerQueue_appendSample, List.map_append,
      List.map_append, hsame.queue, hsame.sampleIndex, hsame.state,
      hsame.length_queue]
    congr 1
    split
    · rw [List.map_singleton, List.map_singleton, sessionId_writeWindow,
        sessionId_writeWindow, hsame.currentSessionId]
    · rfl
  · intro path
    rw [hfiles, hfiles', hsame.files]

theorem startSession (hsame : SameShape left right) {label other : GestureLabel}
    (hlabel : label = .invalid ↔ other = .invalid) :
    SameShape (left.startSession label).1 (right.startSession other).1 := by
  unfold DataLoggerService.startSession
  rw [hsame.state, hsame.spiffsMounted]
  by_cases hbusy : right.state = .recording ∨ right.state = .armed
  · rw [if_pos hbusy, if_pos hbusy]
    exact hsame
  · rw [if_neg hbusy, if_neg hbusy]
    cases hmounted : right.spiffsMounted with
    | false =>
        exact
          { hsame with
            state := rfl
            spiffsMounted := rfl }
    | true =>
        by_cases hinvalid : label = .invalid
        · have hother := hlabel.mp hinvalid
          simpa [hinvalid, hother] using hsame
        · have hother : other ≠ .invalid := fun h => hinvalid (hlabel.mpr h)
          simp only [hinvalid, hother, Bool.not_true, Bool.false_eq_true,
            if_false]
          exact
            { hsame with
              state := rfl
              currentSessionId := hsame.nextSessionId
              nextSessionId := congrArg (· + 1) hsame.nextSessionId
              spiffsMounted := rfl
              sampleIndex := rfl }

theorem stopSession (hsame : SameShape left right) :
    SameShape left.stopSession right.stopSession := by
  unfold DataLoggerService.stopSession
  rw [hsame.state]
  split
  · exact hsame
  · exact { hsame with state := rfl }

theorem bytesWritten (hsame : SameShape left right) (outcome : WriteOutcome) :
    left.bytesWritten outcome = right.bytesWritten outcome := by
  unfold DataLoggerService.bytesWritten
  rw [hsame.spiffsMounted]

theorem processWrite (hsame : SameShape left right)
    {window other : SampleWindow cfg.windowSize}
    (hwindow : window.header.sessionId = other.header.sessionId)
    (outcome : WriteOutcome) :
    SameShape (left.processWrite window outcome)
      (right.processWrite other outcome) := by
  have hpath : window.path = other.path := congrArg buildSessionPath hwindow
  have hfiles : ∀ path,
      ((left.processWrite window outcome).spiffs.contents path).length =
        ((right.processWrite other outcome).spiffs.contents path).length := by
    intro path
    rw [DataLoggerService.contents_processWrite,
      DataLoggerService.contents_processWrite, List.length_append,
      List.length_append, hsame.files, hsame.bytesWritten, hpath]
    split
    · rw [List.length_take, List.length_take, window.length_toBytes,
        other.length_toBytes]
    · rfl
  have hstate : (left.processWrite window outcome).state =
      (right.processWrite other outcome).state := by
    rw [DataLoggerService.state_processWrite,
      DataLoggerService.state_processWrite, hsame.bytesWritten, hsame.state]
  rw [DataLoggerService.processWrite_eq left,
    DataLoggerService.processWrite_eq right]
  exact { hsame with state := hstate, files := hfiles }

/-- Both have a window to write, for the same session, or neither has. -/
theorem queue_cases (hsame : SameShape left right) :
    left.loggerQueue = [] ∧ right.loggerQueue = [] ∨
      ∃ window queue other queue', left.loggerQueue = window :: queue ∧
        right.loggerQueue = other :: queue' ∧
        window.header.sessionId = other.header.sessionId ∧
        (queue.map fun window => window.header.sessionId) =
          queue'.map fun window => window.header.sessionId := by
  have hqueue := hsame.queue
  cases hleft : left.loggerQueue with
  | nil =>
      rw [hleft, List.map_nil] at hqueue
      exact Or.inl ⟨rfl, List.map_eq_nil_iff.mp hqueue.symm⟩
  | cons window queue =>
      rw [hleft, List.map_cons] at hqueue
      obtain ⟨other, queue', hright, hhead, htail⟩ :=
        List.map_eq_cons_iff.mp hqueue.symm
      exact Or.inr ⟨window, queue, other, queue', rfl, hright, hhead.symm,
        htail.symm⟩

theorem loggerTask (hsame : SameShape left right) (outcome : WriteOutcome) :
    SameShape (left.loggerTask outcome) (right.loggerTask outcome) := by
  unfold DataLoggerService.loggerTask
  obtain ⟨hleft, hright⟩ |
    ⟨window, queue, other, queue', hleft, hright, hhead, htail⟩ :=
      hsame.queue_cases
  · rw [hleft, hright]
    exact hsame
  · rw [hleft, hright]
    have hrest : SameShape { left with loggerQueue := queue }
        { right with loggerQueue := queue' } :=
      { hsame with queue := htail }
    exact hrest.processWrite hhead outcome

theorem step_bare (hsame : SameShape left right) (event : LoggerEvent) :
    SameShape (left.step event) (right.step event.bare) := by
  cases event with
  | appendSample sample env => exact hsame.appendSample sample fullScale env _
  | startSession label =>
      apply hsame.startSession
      by_cases hlabel : label = .invalid <;> simp [hlabel]
  | stopSession => exact hsame.stopSession
  | setRuntimeFlags flags => exact { hsame with }
  | write outcome => exact hsame.loggerTask outcome

theorem startsWhole_bare {path : String} {run other : LoggerRun cfg}
    (hsame : SameShape run.logger other.logger) (event : LoggerEvent) :
    run.StartsWhole path event ↔ other.StartsWhole path event.bare := by
  cases event with
  | appendSample | startSession | stopSession | setRuntimeFlags =>
      exact iff_of_true (fun _ h => absurd h List.not_mem_nil)
        fun _ h => absurd h List.not_mem_nil
  | write outcome =>
      simp only [LoggerRun.StartsWhole, LoggerEvent.bare,
        DataLoggerService.attempt, hsame.bytesWritten, hsame.files]
      obtain ⟨hleft, hright⟩ |
        ⟨window, queue, other, queue', hleft, hright, hhead, htail⟩ :=
          hsame.queue_cases
      · simp [hleft, hright]
      · have hpath : window.path = other.path :=
          congrArg buildSessionPath hhead
        simp [hleft, hright, hpath]

end SameShape

end SameShape

end SensorFirmware
