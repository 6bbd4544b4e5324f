import SensorFirmware.WindowExtraction

/-!
# Session files

A run of the logger with a record of what its task made of each window.  The
bytes of a session file are the pieces that were written to it, and the
extraction returns every window that was written in full if each of them starts
at a multiple of the record size.
-/

namespace SensorFirmware

open ExtractWindows FixedRecords GuardedRun

variable {cfg : MLConfig}

namespace DataLoggerService

def bytesWritten (logger : DataLoggerService cfg) (outcome : WriteOutcome) :
    ℕ :=
  if !logger.spiffsMounted then 0
  else
    match outcome with
    | .openFailed => 0
    | .opened room => min room (SampleWindow.serializedSize cfg.windowSize)

/-- The window that the event takes from the queue, with the number of its bytes
that reach the file. -/
def attempt (logger : DataLoggerService cfg) :
    LoggerEvent → List (SampleWindow cfg.windowSize × ℕ)
  | .write outcome =>
      logger.loggerQueue.head?.toList.map fun window =>
        (window, logger.bytesWritten outcome)
  | _ => []

end DataLoggerService

/-- The logger, and the windows that its task took from the queue. -/
structure LoggerRun (cfg : MLConfig) where
  logger : DataLoggerService cfg
  attempts : List (SampleWindow cfg.windowSize × ℕ)
  deriving DecidableEq, Repr

def SampleWindow.path {size : ℕ} (window : SampleWindow size) : String :=
  buildSessionPath window.header.sessionId

/-- The pieces of the attempts that went to the file. -/
def piecesOf {size : ℕ} (path : String)
    (attempts : List (SampleWindow size × ℕ)) : List (List Byte) :=
  (attempts.filter fun attempt => attempt.1.path = path).map fun attempt =>
    attempt.1.toBytes.take attempt.2

namespace LoggerRun

def step (run : LoggerRun cfg) (event : LoggerEvent) : LoggerRun cfg where
  logger := run.logger.step event
  attempts := run.attempts ++ run.logger.attempt event

def start (logger : DataLoggerService cfg) : LoggerRun cfg := ⟨logger, []⟩

/-- The run at boot, with the files that the last one left. -/
def booted (cfg : MLConfig) (mounted : Bool) (nextSessionId : UInt16)
    (bootCount : UInt8) (files : Spiffs) : LoggerRun cfg :=
  start (.boot cfg mounted nextSessionId bootCount files)

/-- The windows that were written in full to the file. -/
def saved (run : LoggerRun cfg) (path : String) :
    List (SampleWindow cfg.windowSize) :=
  (run.attempts.filter fun attempt => attempt.1.path = path ∧
    attempt.2 = SampleWindow.serializedSize cfg.windowSize).map Prod.fst

/-- The extraction finds every window that was written in full, in order, with
its header fields and samples. -/
def Returned (path : String) (run : LoggerRun cfg) : Prop :=
  ∀ name, ((run.saved path).map fun window =>
      (window.extracted.header, window.extracted.samples)).Sublist
    ((extractFile name (run.logger.spiffs.contents path)).map fun window =>
      (window.header, window.samples))

/-- If the event writes a window in full to the file, it starts there at a
multiple of the record size. -/
def StartsWhole (path : String) (run : LoggerRun cfg) (event : LoggerEvent) :
    Prop :=
  ∀ attempt ∈ run.logger.attempt event, attempt.1.path = path →
    attempt.2 = SampleWindow.serializedSize cfg.windowSize →
      SampleWindow.serializedSize cfg.windowSize ∣
        (run.logger.spiffs.contents path).length

instance (path : String) (run : LoggerRun cfg) (event : LoggerEvent) :
    Decidable (run.StartsWhole path event) :=
  inferInstanceAs (Decidable (∀ attempt ∈ _, _))

end LoggerRun

/-! ## The bytes of the file -/

namespace DataLoggerService

theorem bytesWritten_le (logger : DataLoggerService cfg)
    (outcome : WriteOutcome) : logger.bytesWritten outcome ≤
      SampleWindow.serializedSize cfg.windowSize := by
  unfold bytesWritten
  cases logger.spiffsMounted with
  | false => exact Nat.zero_le _
  | true =>
      cases outcome with
      | openFailed => exact Nat.zero_le _
      | opened room => exact Nat.min_le_right _ _

theorem contents_processWrite (logger : DataLoggerService cfg)
    (window : SampleWindow cfg.windowSize) (outcome : WriteOutcome)
    (path : String) :
    (logger.processWrite window outcome).spiffs.contents path =
      logger.spiffs.contents path ++
        if window.path = path then
          window.toBytes.take (logger.bytesWritten outcome)
        else [] := by
  cases hmounted : logger.spiffsMounted with
  | false => simp [processWrite, bytesWritten, hmounted]
  | true =>
      cases outcome with
      | openFailed => simp [processWrite, bytesWritten, hmounted]
      | opened room =>
          have hbytes : logger.bytesWritten (.opened room) =
              min room (SampleWindow.serializedSize cfg.windowSize) := by
            simp [bytesWritten, hmounted]
          have hfiles : (logger.processWrite window (.opened room)).spiffs =
              logger.spiffs.append window.path (window.toBytes.take
                (logger.bytesWritten (.opened room))) := by
            rw [hbytes]
            unfold processWrite
            rw [if_neg (by simp [hmounted])]
            dsimp only
            split <;> rfl
          rw [hfiles]
          exact Spiffs.contents_append _ _ _ _

theorem state_processWrite (logger : DataLoggerService cfg)
    (window : SampleWindow cfg.windowSize) (outcome : WriteOutcome) :
    (logger.processWrite window outcome).state =
      if logger.bytesWritten outcome =
          SampleWindow.serializedSize cfg.windowSize then
        logger.state
      else .error := by
  have hsize : 0 ≠ SampleWindow.serializedSize cfg.windowSize := by
    unfold SampleWindow.serializedSize
    omega
  cases hmounted : logger.spiffsMounted with
  | false => simp [processWrite, bytesWritten, hmounted, hsize]
  | true =>
      cases outcome with
      | openFailed => simp [processWrite, bytesWritten, hmounted, hsize]
      | opened room =>
          simp only [processWrite, bytesWritten, hmounted, Bool.not_true,
            Bool.false_eq_true, if_false]
          split_ifs <;> trivial

/-- Only the logger task touches the files, and it appends what the attempt
says. -/
theorem contents_step (logger : DataLoggerService cfg) (event : LoggerEvent)
    (path : String) :
    (logger.step event).spiffs.contents path =
      logger.spiffs.contents path ++
        (piecesOf path (logger.attempt event)).flatten := by
  cases event with
  | appendSample sample env =>
      obtain ⟨_, _, _, _, _, _, _, hframe⟩ :=
        logger.appendSample_frame sample env
      rw [step, hframe]
      exact (List.append_nil _).symm
  | startSession label =>
      rw [step, (logger.loggerQueue_startSession label).2.1]
      exact (List.append_nil _).symm
  | stopSession =>
      rw [step, stopSession_eq]
      exact (List.append_nil _).symm
  | setRuntimeFlags flags => exact (List.append_nil _).symm
  | write outcome =>
      unfold step loggerTask attempt
      cases hqueue : logger.loggerQueue with
      | nil => exact (List.append_nil _).symm
      | cons window queue =>
          have hwrite := contents_processWrite
            { logger with loggerQueue := queue } window outcome path
          have hbytes : bytesWritten { logger with loggerQueue := queue }
              outcome = logger.bytesWritten outcome := rfl
          rw [hwrite, hbytes]
          by_cases hpath : window.path = path <;> simp [piecesOf, hpath]

/-- A window in the queue was there before, or the sensor task made it. -/
theorem mem_loggerQueue_step {logger : DataLoggerService cfg}
    {event : LoggerEvent} {window : SampleWindow cfg.windowSize}
    (hwindow : window ∈ (logger.step event).loggerQueue) :
    window ∈ logger.loggerQueue ∨
      ∃ sample env, event = .appendSample sample env ∧
        cfg.windowSize ≤ u8 (logger.sampleIndex + 1) ∧
        window = (logger.filled sample env).writeWindow env.record := by
  cases event with
  | appendSample sample env =>
      rw [step, loggerQueue_appendSample, List.mem_append] at hwindow
      obtain hold | hnew := hwindow
      · exact Or.inl hold
      · split at hnew
        next hmade =>
          exact Or.inr ⟨sample, env, rfl, hmade.1, List.mem_singleton.mp hnew⟩
        next => exact absurd hnew List.not_mem_nil
  | startSession label =>
      rw [step, (logger.loggerQueue_startSession label).1] at hwindow
      exact Or.inl hwindow
  | stopSession =>
      rw [step, stopSession_eq] at hwindow
      exact Or.inl hwindow
  | setRuntimeFlags flags => exact Or.inl hwindow
  | write outcome =>
      left
      unfold step loggerTask at hwindow
      cases hqueue : logger.loggerQueue with
      | nil =>
          rw [hqueue] at hwindow
          simp [hqueue] at hwindow
      | cons first queue =>
          rw [hqueue] at hwindow
          dsimp only at hwindow
          rw [processWrite_eq] at hwindow
          exact List.mem_cons_of_mem first hwindow

theorem mem_attempt {logger : DataLoggerService cfg} {event : LoggerEvent}
    {tried : SampleWindow cfg.windowSize × ℕ}
    (htried : tried ∈ logger.attempt event) :
    tried.1 ∈ logger.loggerQueue ∧
      tried.2 ≤ SampleWindow.serializedSize cfg.windowSize := by
  cases event with
  | write outcome =>
      obtain ⟨window, hwindow, rfl⟩ := List.mem_map.mp htried
      have hhead := Option.mem_toList.mp hwindow
      exact ⟨List.mem_of_mem_head? hhead, logger.bytesWritten_le outcome⟩
  | appendSample | startSession | stopSession | setRuntimeFlags =>
      exact absurd htried List.not_mem_nil

/-- At most one window a step. -/
theorem attempt_eq (logger : DataLoggerService cfg) (event : LoggerEvent) :
    logger.attempt event = [] ∨ ∃ tried, logger.attempt event = [tried] := by
  cases event with
  | write outcome =>
      unfold attempt
      cases logger.loggerQueue with
      | nil => exact Or.inl rfl
      | cons window queue => exact Or.inr ⟨_, rfl⟩
  | appendSample | startSession | stopSession | setRuntimeFlags =>
      exact Or.inl rfl

end DataLoggerService

/-! ## Runs -/

namespace LoggerRun

/-- The windows, queued or tried, have the property, and the file consists of
its pieces. -/
structure Recorded (Good : SampleWindow cfg.windowSize → Prop) (path : String)
    (run : LoggerRun cfg) : Prop where
  file : run.logger.spiffs.contents path = (piecesOf path run.attempts).flatten
  queued : ∀ window ∈ run.logger.loggerQueue, Good window
  tried : ∀ tried ∈ run.attempts, Good tried.1 ∧
    tried.2 ≤ SampleWindow.serializedSize cfg.windowSize

theorem recorded_start {Good : SampleWindow cfg.windowSize → Prop}
    {path : String} {logger : DataLoggerService cfg}
    (hnew : logger.spiffs.contents path = [])
    (hqueue : logger.loggerQueue = []) : (start logger).Recorded Good path where
  file := hnew
  queued := by simp [start, hqueue]
  tried := by simp [start]

theorem piecesOf_append {size : ℕ} (path : String)
    (first second : List (SampleWindow size × ℕ)) :
    piecesOf path (first ++ second) =
      piecesOf path first ++ piecesOf path second := by
  simp [piecesOf]

theorem Recorded.step {Good : SampleWindow cfg.windowSize → Prop}
    {path : String} {run : LoggerRun cfg} (hrun : run.Recorded Good path)
    {event : LoggerEvent}
    (hmade : ∀ sample env, event = .appendSample sample env →
      cfg.windowSize ≤ u8 (run.logger.sampleIndex + 1) →
        Good ((run.logger.filled sample env).writeWindow env.record)) :
    (run.step event).Recorded Good path where
  file := by
    change (run.logger.step event).spiffs.contents path = _
    rw [DataLoggerService.contents_step, hrun.file, LoggerRun.step,
      piecesOf_append, List.flatten_append]
  queued := by
    intro window hwindow
    obtain hold | ⟨sample, env, hevent, hfull, rfl⟩ :=
      DataLoggerService.mem_loggerQueue_step hwindow
    · exact hrun.queued window hold
    · exact hmade sample env hevent hfull
  tried := by
    intro tried htried
    obtain hold | hnew := List.mem_append.mp htried
    · exact hrun.tried tried hold
    · obtain ⟨hqueued, hle⟩ := DataLoggerService.mem_attempt hnew
      exact ⟨hrun.queued tried.1 hqueued, hle⟩

theorem Recorded.length_le {Good : SampleWindow cfg.windowSize → Prop}
    {path : String} {run : LoggerRun cfg} (hrun : run.Recorded Good path)
    {piece : List Byte} (hpiece : piece ∈ piecesOf path run.attempts) :
    piece.length ≤ SampleWindow.serializedSize cfg.windowSize := by
  obtain ⟨tried, htried, rfl⟩ := List.mem_map.mp hpiece
  rw [List.length_take]
  exact (min_le_left _ _).trans (hrun.tried tried (List.mem_of_mem_filter htried)).2

theorem length_piece {size written : ℕ} (window : SampleWindow size)
    (hle : written ≤ SampleWindow.serializedSize size) :
    (window.toBytes.take written).length = written :=
  List.length_take_of_le (hle.trans window.length_toBytes.ge)

/-- The whole pieces are the bytes of the windows written in full. -/
theorem Recorded.whole_piecesOf {Good : SampleWindow cfg.windowSize → Prop}
    {path : String} {run : LoggerRun cfg} (hrun : run.Recorded Good path) :
    whole (SampleWindow.serializedSize cfg.windowSize)
        (piecesOf path run.attempts) =
      (run.saved path).map SampleWindow.toBytes := by
  have hle : ∀ tried ∈ run.attempts,
      tried.2 ≤ SampleWindow.serializedSize cfg.windowSize :=
    fun tried htried => (hrun.tried tried htried).2
  unfold saved
  clear hrun
  generalize run.attempts = attempts at hle ⊢
  induction attempts with
  | nil => rfl
  | cons tried attempts ih =>
      have hrest := ih fun other hother => hle other (.tail tried hother)
      have hlength := length_piece tried.1 (hle tried (.head attempts))
      unfold whole piecesOf at hrest ⊢
      by_cases hpath : tried.1.path = path
      · by_cases hfull :
          tried.2 = SampleWindow.serializedSize cfg.windowSize
        · have hbytes : tried.1.toBytes.take
              (SampleWindow.serializedSize cfg.windowSize) =
                tried.1.toBytes :=
            List.take_of_length_le tried.1.length_toBytes.le
          simp [hpath, hfull, hbytes, hrest]
        · simp [hpath, hfull, hrest, hlength]
      · simp [hpath, hrest]

/-- A step keeps the pieces of the file aligned exactly if a window it writes in
full starts at a multiple of the record size. -/
theorem Recorded.aligned_step {Good : SampleWindow cfg.windowSize → Prop}
    {path : String} {run : LoggerRun cfg} (hrun : run.Recorded Good path)
    (event : LoggerEvent) :
    Aligned (SampleWindow.serializedSize cfg.windowSize)
        (piecesOf path (run.step event).attempts) ↔
      Aligned (SampleWindow.serializedSize cfg.windowSize)
          (piecesOf path run.attempts) ∧
        run.StartsWhole path event := by
  unfold StartsWhole
  change Aligned _ (piecesOf path (_ ++ run.logger.attempt event)) ↔ _
  rw [piecesOf_append, hrun.file]
  obtain hnone | ⟨tried, hone⟩ := run.logger.attempt_eq event
  · rw [hnone]
    simp [piecesOf]
  · have hle : tried.2 ≤ SampleWindow.serializedSize cfg.windowSize :=
      (DataLoggerService.mem_attempt (hone ▸ List.mem_singleton_self _)).2
    rw [hone]
    by_cases hpath : tried.1.path = path
    · have hpiece : piecesOf path [tried] = [tried.1.toBytes.take tried.2] := by
        simp [piecesOf, hpath]
      rw [hpiece, aligned_concat, length_piece tried.1 hle]
      simp [hpath]
    · simp [piecesOf, hpath]

theorem Recorded.finalised_step {path : String} {run : LoggerRun cfg}
    (hrun : run.Recorded SampleWindow.Finalised path) (event : LoggerEvent) :
    (run.step event).Recorded SampleWindow.Finalised path :=
  hrun.step fun _ _ _ _ => DataLoggerService.finalised_writeWindow _ _

/-- The windows written in full start at multiples of the record size exactly if
each event saw to it. -/
theorem Recorded.aligned_run_iff {path : String} {first : LoggerRun cfg}
    (hfirst : first.Recorded SampleWindow.Finalised path)
    (hnone : first.attempts = []) (events : List LoggerEvent) :
    Aligned (SampleWindow.serializedSize cfg.windowSize)
        (piecesOf path (run LoggerRun.step first events).attempts) ↔
      Guarded LoggerRun.step (StartsWhole path) first events := by
  have hruns := @run_iff_guarded _ _ LoggerRun.step (StartsWhole path)
    (Recorded SampleWindow.Finalised path)
    (fun run => Aligned (SampleWindow.serializedSize cfg.windowSize)
      (piecesOf path run.attempts))
    (fun _ event hrun => hrun.finalised_step event)
    (fun _ event hrun => hrun.aligned_step event) first hfirst events
  rw [hruns, hnone]
  exact and_iff_right trivial

/-! ## Extraction -/

variable {stride depth period : ℕ}
  {run : LoggerRun (toolConfig stride depth period)} {path : String}

theorem Recorded.filterMap_saved
    (hrun : run.Recorded SampleWindow.Finalised path) :
    ((run.saved path).map SampleWindow.toBytes).filterMap windowValue =
      (run.saved path).map fun window =>
        (window.extracted.header, window.extracted.samples) := by
  rw [List.filterMap_map, ← List.filterMap_eq_map]
  apply List.filterMap_congr
  intro window hwindow
  obtain ⟨tried, htried, rfl⟩ := List.mem_map.mp hwindow
  have hfinal := (hrun.tried tried (List.mem_of_mem_filter htried)).1
  change (validateWindow tried.1.toBytes).map _ = _
  rw [validateWindow_toBytes hfinal]
  rfl

theorem Recorded.returned (hrun : run.Recorded SampleWindow.Finalised path)
    (haligned : Aligned sampleWindowSize (piecesOf path run.attempts)) :
    run.Returned path := by
  intro name
  have hsize : 0 < sampleWindowSize := by decide
  have hwhole : (whole sampleWindowSize (piecesOf path run.attempts)).Sublist
      (blocks sampleWindowSize (piecesOf path run.attempts).flatten) :=
    whole_sublist_blocks hsize (fun _ hpiece => hrun.length_le hpiece)
      haligned
  have hsaved : whole sampleWindowSize (piecesOf path run.attempts) =
      (run.saved path).map SampleWindow.toBytes := hrun.whole_piecesOf
  rw [map_extractFile, hrun.file, ← hrun.filterMap_saved, ← hsaved]
  exact hwhole.filterMap windowValue

end LoggerRun

end SensorFirmware
