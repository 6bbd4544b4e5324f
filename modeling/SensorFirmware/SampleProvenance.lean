import SensorFirmware.DatasetSplit
import SensorFirmware.SessionStore
import SensorFirmware.WindowSegments

/-!
# From the sensor to the two sides of the split

Every window that the queue accepts is a stretch of the samples that the sensor
task handed over, through any sessions, deletions and reboots.  Windows of
different sessions have no sample in common, so no sample is both in a row to
train on and in a row to test with.
-/

namespace SensorFirmware

open GuardedRun StrideWindows ExtractWindows

/-- The logger, with the samples before its index was last reset and the accepted
windows, each with the place of its first sample among all. -/
structure SampleRun (cfg : MLConfig) where
  trace : SessionTrace cfg
  earlier : List SampleRecord
  recorded : List (SampleWindow cfg.windowSize × ℕ)
  deriving DecidableEq, Repr

variable {cfg : MLConfig}

namespace SampleRun

/-- All samples since the device was new. -/
def stream (run : SampleRun cfg) : List SampleRecord :=
  run.earlier ++ run.trace.stream

/-- Where the window that is filled starts. -/
def place (run : SampleRun cfg) : ℕ :=
  run.earlier.length + run.trace.completed.length * cfg.windowStride

def step (run : SampleRun cfg) : StoreEvent → SampleRun cfg
  | .logger (.appendSample sample env) =>
      { run with
        trace := run.trace.step (.logger (.appendSample sample env))
        recorded := run.recorded ++
          (run.trace.logger.accepts sample env).map fun window =>
            (window, run.place) }
  | .logger (.startSession label) =>
      { run with
        trace := run.trace.step (.logger (.startSession label))
        earlier :=
          if run.trace.logger.starts label then run.stream
          else run.earlier }
  | .logger event => { run with trace := run.trace.step (.logger event) }
  | .deleteAll rootOpens failing =>
      { run with trace := run.trace.step (.deleteAll rootOpens failing) }
  | .reboot mounted rootOpens bootCount =>
      { run with
        trace := .start (run.trace.logger.storeStep
          (.reboot mounted rootOpens bootCount))
        earlier := run.stream }

/-- A device without files, before its first boot. -/
def new (cfg : MLConfig) : SampleRun cfg where
  trace := .start (.boot cfg false 1 0 [])
  earlier := []
  recorded := []

/-- The trace is the one of the logger. -/
theorem logger_step (run : SampleRun cfg) (event : StoreEvent) :
    (run.step event).trace.logger = run.trace.logger.storeStep event := by
  cases event with
  | logger event =>
      cases event with
      | startSession label =>
          unfold step SessionTrace.step
          dsimp only
          split_ifs <;> rfl
      | appendSample | stopSession | setRuntimeFlags | write => rfl
  | deleteAll | reboot => rfl

/-! ## The invariant -/

/-- The window holds the samples from its place on. -/
structure Placed (stream : List SampleRecord)
    (record : SampleWindow cfg.windowSize × ℕ) : Prop where
  finalised : record.1.Finalised
  within : record.2 + cfg.windowSize ≤ stream.length
  samples : record.1.samples.toList =
    (stream.drop record.2).take cfg.windowSize

/-- Two windows have no sample in common. -/
def Apart (first second : SampleWindow cfg.windowSize × ℕ) : Prop :=
  first.2 + cfg.windowSize ≤ second.2 ∨ second.2 + cfg.windowSize ≤ first.2

/-- The window is from before the index was last reset, or of the session that
the logger is in. -/
def Session (run : SampleRun cfg)
    (record : SampleWindow cfg.windowSize × ℕ) : Prop :=
  record.2 + cfg.windowSize ≤ run.earlier.length ∨
    run.earlier.length ≤ record.2 ∧
      record.1.header.sessionId = run.trace.logger.currentSessionId

/-- The file consists of recorded windows. -/
def Whole (recorded : List (SampleWindow cfg.windowSize × ℕ))
    (bytes : List Byte) : Prop :=
  ∃ records : List (SampleWindow cfg.windowSize × ℕ),
    (∀ record ∈ records, record ∈ recorded) ∧
      bytes = records.flatMap fun record => record.1.toBytes

structure Inv (run : SampleRun cfg) : Prop where
  exact : run.trace.Exact
  placed : ∀ record ∈ run.recorded, Placed run.stream record
  session : ∀ record ∈ run.recorded, run.Session record
  apart : ∀ first ∈ run.recorded, ∀ second ∈ run.recorded,
    first.1.header.sessionId ≠ second.1.header.sessionId → Apart first second
  queued : ∀ window ∈ run.trace.logger.loggerQueue,
    ∃ start, (window, start) ∈ run.recorded
  files : ∀ file ∈ run.trace.logger.spiffs, Whole run.recorded file.2

theorem inv_new (hsize : 0 < cfg.windowSize) : (new cfg).Inv where
  exact := SessionTrace.exact_start hsize rfl rfl
  placed := fun _ hrecord => absurd hrecord List.not_mem_nil
  session := fun _ hrecord => absurd hrecord List.not_mem_nil
  apart := fun _ hfirst => absurd hfirst List.not_mem_nil
  queued := fun _ hwindow => absurd hwindow List.not_mem_nil
  files := fun _ hfile => absurd hfile List.not_mem_nil

theorem Placed.append {stream : List SampleRecord}
    {record : SampleWindow cfg.windowSize × ℕ} (hplaced : Placed stream record)
    (more : List SampleRecord) : Placed (stream ++ more) record where
  finalised := hplaced.finalised
  within := hplaced.within.trans (by simp)
  samples := by
    have hwithin := hplaced.within
    have hlength : cfg.windowSize ≤ (stream.drop record.2).length := by
      rw [List.length_drop]
      omega
    rw [List.drop_append_of_le_length (by omega),
      List.take_append_of_le_length hlength]
    exact hplaced.samples

theorem Whole.mono {recorded more : List (SampleWindow cfg.windowSize × ℕ)}
    {bytes : List Byte} (hwhole : Whole recorded bytes) :
    Whole (recorded ++ more) bytes := by
  obtain ⟨records, hrecords, hbytes⟩ := hwhole
  exact ⟨records, fun record hrecord =>
    List.mem_append_left _ (hrecords record hrecord), hbytes⟩

/-- A call that leaves the buffer and the session alone. -/
theorem Inv.kept {run : SampleRun cfg} (hrun : run.Inv)
    {logger : DataLoggerService cfg}
    (hexact : ({ run.trace with logger } : SessionTrace cfg).Exact)
    (hsession : logger.currentSessionId = run.trace.logger.currentSessionId)
    (hqueue : ∀ window ∈ logger.loggerQueue,
      window ∈ run.trace.logger.loggerQueue)
    (hfiles : ∀ file ∈ logger.spiffs, Whole run.recorded file.2) :
    ({ run with trace := { run.trace with logger } } : SampleRun cfg).Inv where
  exact := hexact
  placed := hrun.placed
  session := fun record hrecord =>
    (hrun.session record hrecord).imp_right fun hnow =>
      ⟨hnow.1, hnow.2.trans hsession.symm⟩
  apart := hrun.apart
  queued := fun window hwindow => hrun.queued window (hqueue window hwindow)
  files := hfiles

/-- The index is reset: all windows are from before. -/
theorem Inv.reset {run : SampleRun cfg} (hrun : run.Inv)
    {logger : DataLoggerService cfg}
    (hindex : logger.sampleIndex = 0) (hid : logger.currentWindowId = 0)
    (hqueue : ∀ window ∈ logger.loggerQueue,
      window ∈ run.trace.logger.loggerQueue)
    (hfiles : logger.spiffs = run.trace.logger.spiffs) :
    ({ run with trace := .start logger, earlier := run.stream } :
      SampleRun cfg).Inv where
  exact := SessionTrace.exact_start
    ((Nat.zero_le _).trans_lt hrun.exact.index) hindex hid
  placed := fun record hrecord =>
    (hrun.placed record hrecord).append []
  session := fun record hrecord => .inl (hrun.placed record hrecord).within
  apart := hrun.apart
  queued := fun window hwindow => hrun.queued window (hqueue window hwindow)
  files := fun file hfile => hrun.files file (hfiles ▸ hfile)

/-! ## The sensor task -/

theorem completes_of_accepts {logger : DataLoggerService cfg}
    {sample : SampleRecord} {env : SampleEnv}
    {window : SampleWindow cfg.windowSize}
    (hwindow : window ∈ logger.accepts sample env) :
    logger.completes sample env = [window.samples] := by
  have hmem : window.samples ∈ logger.completes sample env :=
    (logger.samples_accepts sample env).subset (List.mem_map_of_mem hwindow)
  unfold DataLoggerService.completes at hmem ⊢
  split_ifs at hmem ⊢
  · rw [List.mem_singleton.mp hmem]
  · exact absurd hmem List.not_mem_nil

theorem finalised_of_accepts {logger : DataLoggerService cfg}
    {sample : SampleRecord} {env : SampleEnv}
    {window : SampleWindow cfg.windowSize}
    (hwindow : window ∈ logger.accepts sample env) : window.Finalised := by
  rw [DataLoggerService.accepts_eq] at hwindow
  split_ifs at hwindow
  · rw [List.mem_singleton.mp hwindow]
    exact DataLoggerService.finalised_writeWindow _ _
  · exact absurd hwindow List.not_mem_nil

/-- A window that the queue accepts is at the place that the run notes. -/
theorem placed_of_accepts {run : SampleRun cfg} (hrun : run.Inv)
    (hsize : cfg.windowSize ≤ 255) (hpos : 0 < cfg.windowStride)
    (hstride : cfg.windowStride ≤ cfg.windowSize) {sample : SampleRecord}
    {env : SampleEnv} {window : SampleWindow cfg.windowSize}
    (hwindow : window ∈ run.trace.logger.accepts sample env) :
    Placed (run.stream ++ [sample]) (window, run.place) := by
  have hsegmented :=
    (hrun.exact.appendSample hsize hpos hstride sample env).segmented
  have hlast : (run.trace.step
        (.logger (.appendSample sample env))).segmenter.windows[
          run.trace.completed.length]? = some window.samples.toList := by
    change ((run.trace.completed ++ run.trace.logger.completes sample env).map
      Vector.toList)[run.trace.completed.length]? = _
    rw [completes_of_accepts hwindow, List.map_append,
      List.getElem?_append_right (by simp)]
    simp
  have hend := hsegmented.end_le (List.getElem?_eq_some_iff.mp hlast).1
  have hsamples := hsegmented.getElem?_windows hlast
  have hstream : run.stream ++ [sample] = run.earlier ++
      (run.trace.step (.logger (.appendSample sample env))).stream :=
    List.append_assoc ..
  constructor
  · exact finalised_of_accepts hwindow
  · rw [hstream, List.length_append, place]
    omega
  · rw [hstream, place, List.drop_length_add_append]
    exact hsamples

theorem inv_appendSample {run : SampleRun cfg} (hrun : run.Inv)
    (hsize : cfg.windowSize ≤ 255) (hpos : 0 < cfg.windowStride)
    (hstride : cfg.windowStride ≤ cfg.windowSize) (sample : SampleRecord)
    (env : SampleEnv) :
    (run.step (.logger (.appendSample sample env))).Inv := by
  have hkept := run.trace.logger.appendSample_kept sample env
  have hstream : (run.step (.logger (.appendSample sample env))).stream =
      run.stream ++ [sample] := (List.append_assoc ..).symm
  have hnew : ∀ record ∈ (run.trace.logger.accepts sample env).map
      (fun window => (window, run.place)),
        Placed (run.stream ++ [sample]) record ∧
          run.earlier.length ≤ record.2 ∧
          record.1.header.sessionId =
            run.trace.logger.currentSessionId := by
    intro record hrecord
    obtain ⟨window, hwindow, rfl⟩ := List.mem_map.mp hrecord
    exact ⟨placed_of_accepts hrun hsize hpos hstride hwindow,
      Nat.le_add_right _ _, (DataLoggerService.header_accepts hwindow).1⟩
  have hold : ∀ record ∈ run.recorded, record.2 + cfg.windowSize ≤
      run.earlier.length ∨ run.earlier.length ≤ record.2 ∧
        record.1.header.sessionId = run.trace.logger.currentSessionId :=
    hrun.session
  refine
    { exact := hrun.exact.appendSample hsize hpos hstride sample env
      placed := ?_
      session := ?_
      apart := ?_
      queued := ?_
      files := ?_ }
  · intro record hrecord
    rw [hstream]
    obtain hbefore | hadded := List.mem_append.mp hrecord
    · exact (hrun.placed record hbefore).append [sample]
    · exact (hnew record hadded).1
  · intro record hrecord
    change _ ∨ _ ∧ _ =
      (run.trace.logger.appendSample sample env).currentSessionId
    rw [hkept.2.1]
    obtain hbefore | hadded := List.mem_append.mp hrecord
    · exact hold record hbefore
    · exact .inr (hnew record hadded).2
  · intro first hfirst second hsecond hother
    obtain hbefore | hadded := List.mem_append.mp hfirst <;>
      obtain hbefore' | hadded' := List.mem_append.mp hsecond
    · exact hrun.apart first hbefore second hbefore' hother
    · obtain hends | ⟨-, hsame⟩ := hold first hbefore
      · exact .inl (hends.trans (hnew second hadded').2.1)
      · exact absurd (hsame.trans (hnew second hadded').2.2.symm) hother
    · obtain hends | ⟨-, hsame⟩ := hold second hbefore'
      · exact .inr (hends.trans (hnew first hadded).2.1)
      · exact absurd ((hnew first hadded).2.2.trans hsame.symm) hother
    · exact absurd ((hnew first hadded).2.2.trans
        (hnew second hadded').2.2.symm) hother
  · intro window hwindow
    have hqueue : window ∈ run.trace.logger.loggerQueue ++
        run.trace.logger.accepts sample env := by
      rw [DataLoggerService.accepts_eq,
        ← DataLoggerService.loggerQueue_appendSample]
      exact hwindow
    obtain hbefore | hadded := List.mem_append.mp hqueue
    · obtain ⟨start, hstart⟩ := hrun.queued window hbefore
      exact ⟨start, List.mem_append_left _ hstart⟩
    · exact ⟨run.place, List.mem_append_right _ (List.mem_map_of_mem hadded)⟩
  · intro file hfile
    change file ∈ (run.trace.logger.appendSample sample env).spiffs at hfile
    rw [hkept.2.2.2.2] at hfile
    exact (hrun.files file hfile).mono

/-! ## The other calls -/

theorem inv_startSession {run : SampleRun cfg} (hrun : run.Inv)
    (label : GestureLabel) :
    (run.step (.logger (.startSession label))).Inv := by
  have hsame := run.trace.logger.loggerQueue_startSession label
  have hqueue : ∀ window ∈ (run.trace.logger.startSession label).1.loggerQueue,
      window ∈ run.trace.logger.loggerQueue := by
    rw [hsame.1]
    exact fun _ hwindow => hwindow
  unfold step SessionTrace.step
  dsimp only
  obtain ⟨hstarts, hindex, hid⟩ | ⟨hstays, hstate⟩ :=
    run.trace.logger.startSession_cases label
  · rw [if_pos hstarts, if_pos hstarts]
    exact hrun.reset hindex hid hqueue hsame.2.1
  · have hnot : ¬run.trace.logger.starts label = true := by
      rw [hstays]
      exact Bool.false_ne_true
    rw [if_neg hnot, if_neg hnot]
    apply hrun.kept
    · rw [hstate]
      exact hrun.exact.kept rfl rfl rfl rfl
    · rw [hstate]
    · exact hqueue
    · rw [hsame.2.1]
      exact hrun.files

/-- The piece that is written is nothing or all of the window. -/
def Uncut (cfg : MLConfig) : StoreEvent → Prop
  | .logger (.write (.opened room)) =>
      room = 0 ∨ SampleWindow.serializedSize cfg.windowSize ≤ room
  | _ => True

instance (cfg : MLConfig) (event : StoreEvent) :
    Decidable (Uncut cfg event) := by
  unfold Uncut
  split <;> infer_instance

theorem whole_append {recorded : List (SampleWindow cfg.windowSize × ℕ)}
    {files : Spiffs} (hfiles : ∀ file ∈ files, Whole recorded file.2)
    (path : String) {bytes : List Byte} (hbytes : Whole recorded bytes) :
    ∀ file ∈ files.append path bytes, Whole recorded file.2 := by
  induction files with
  | nil =>
      intro file hfile
      rw [List.mem_singleton.mp hfile]
      exact hbytes
  | cons first files ih =>
      have hrest := ih fun file hfile => hfiles file (.tail first hfile)
      unfold Spiffs.append
      split_ifs with hpath
      · intro file hfile
        obtain rfl | hother := List.mem_cons.mp hfile
        · obtain ⟨records, hrecords, hold⟩ := hfiles first (.head files)
          obtain ⟨more, hmore, hnew⟩ := hbytes
          refine ⟨records ++ more, ?_, ?_⟩
          · intro record hrecord
            exact (List.mem_append.mp hrecord).elim (hrecords record)
              (hmore record)
          · rw [List.flatMap_append, ← hold, ← hnew]
        · exact hfiles file (.tail first hother)
      · intro file hfile
        obtain rfl | hother := List.mem_cons.mp hfile
        · exact hfiles first (.head files)
        · exact hrest file hother

theorem whole_take {recorded : List (SampleWindow cfg.windowSize × ℕ)}
    {window : SampleWindow cfg.windowSize} {start room : ℕ}
    (hrecorded : (window, start) ∈ recorded)
    (huncut : room = 0 ∨ SampleWindow.serializedSize cfg.windowSize ≤ room) :
    Whole recorded (window.toBytes.take
      (min room (SampleWindow.serializedSize cfg.windowSize))) := by
  obtain rfl | hroom := huncut
  · refine ⟨[], fun _ hrecord => absurd hrecord List.not_mem_nil, ?_⟩
    rw [Nat.zero_min, List.take_zero]
    rfl
  · refine ⟨[(window, start)], ?_, ?_⟩
    · intro record hrecord
      rw [List.mem_singleton.mp hrecord]
      exact hrecorded
    · rw [Nat.min_eq_right hroom, ← window.length_toBytes, List.take_length,
        List.flatMap_singleton]

theorem inv_write {run : SampleRun cfg} (hrun : run.Inv)
    {outcome : WriteOutcome} (huncut : Uncut cfg (.logger (.write outcome))) :
    (run.step (.logger (.write outcome))).Inv := by
  cases hqueue : run.trace.logger.loggerQueue with
  | nil =>
      have hstep : run.step (.logger (.write outcome)) = run := by
        unfold step SessionTrace.step DataLoggerService.step
          DataLoggerService.loggerTask
        rw [hqueue]
      rw [hstep]
      exact hrun
  | cons window queue =>
      obtain ⟨start, hstart⟩ := hrun.queued window (by simp [hqueue])
      have hstep : run.step (.logger (.write outcome)) =
          { run with
            trace := { run.trace with
              logger := DataLoggerService.processWrite
                { run.trace.logger with loggerQueue := queue }
                window outcome } } := by
        unfold step SessionTrace.step DataLoggerService.step
          DataLoggerService.loggerTask
        rw [hqueue]
      rw [hstep]
      apply hrun.kept
      · rw [DataLoggerService.processWrite_eq]
        exact hrun.exact.kept rfl rfl rfl rfl
      · rw [DataLoggerService.processWrite_eq]
      · rw [DataLoggerService.processWrite_eq, hqueue]
        exact fun _ hother => .tail window hother
      · unfold DataLoggerService.processWrite
        split_ifs
        · exact hrun.files
        · cases outcome with
          | openFailed => exact hrun.files
          | opened room =>
              have hfiles := whole_append hrun.files window.path
                (whole_take hstart huncut)
              dsimp only
              split_ifs <;> exact hfiles

theorem inv_deleteAll {run : SampleRun cfg} (hrun : run.Inv)
    (rootOpens : Bool) (failing : List String) :
    (run.step (.deleteAll rootOpens failing)).Inv := by
  obtain ⟨state, -, hlogger⟩ :=
    run.trace.logger.deleteAll_eq rootOpens failing
  apply hrun.kept
  · rw [hlogger]
    split
    · exact hrun.exact.kept rfl rfl rfl rfl
    · exact hrun.exact.kept rfl rfl rfl rfl
  · rw [hlogger]
    split <;> rfl
  · rw [hlogger]
    intro window hwindow
    split at hwindow <;> exact hwindow
  · intro file hfile
    rw [hlogger] at hfile
    split at hfile
    · exact hrun.files file (List.mem_of_mem_filter hfile)
    · exact hrun.files file hfile

theorem inv_reboot {run : SampleRun cfg} (hrun : run.Inv)
    (mounted rootOpens : Bool) (bootCount : UInt8) :
    (run.step (.reboot mounted rootOpens bootCount)).Inv :=
  hrun.reset rfl rfl (fun _ hwindow => absurd hwindow List.not_mem_nil) rfl

theorem inv_step {run : SampleRun cfg} (hrun : run.Inv)
    (hsize : cfg.windowSize ≤ 255) (hpos : 0 < cfg.windowStride)
    (hstride : cfg.windowStride ≤ cfg.windowSize) {event : StoreEvent}
    (huncut : Uncut cfg event) : (run.step event).Inv := by
  cases event with
  | logger event =>
      cases event with
      | appendSample sample env =>
          exact inv_appendSample hrun hsize hpos hstride sample env
      | startSession label => exact inv_startSession hrun label
      | stopSession =>
          unfold step SessionTrace.step DataLoggerService.step
          dsimp only
          rw [DataLoggerService.stopSession_eq]
          exact hrun.kept (hrun.exact.kept rfl rfl rfl rfl) rfl
            (fun _ hwindow => hwindow) hrun.files
      | setRuntimeFlags flags =>
          exact hrun.kept (hrun.exact.kept rfl rfl rfl rfl) rfl
            (fun _ hwindow => hwindow) hrun.files
      | write outcome => exact inv_write hrun huncut
  | deleteAll rootOpens failing => exact inv_deleteAll hrun rootOpens failing
  | reboot mounted rootOpens bootCount =>
      exact inv_reboot hrun mounted rootOpens bootCount

theorem inv_run (hsize : 1 ≤ cfg.windowSize ∧ cfg.windowSize ≤ 255)
    (hstride : 1 ≤ cfg.windowStride ∧ cfg.windowStride ≤ cfg.windowSize)
    {events : List StoreEvent} (huncut : ∀ event ∈ events, Uncut cfg event) :
    (GuardedRun.run step (new cfg) events).Inv := by
  have hstep : ∀ (run : SampleRun cfg) (event : StoreEvent), run.Inv →
      Uncut cfg event → (run.step event).Inv :=
    fun _ _ hrun hevent => inv_step hrun hsize.2 hstride.1 hstride.2 hevent
  have hstart : (new cfg).Inv := inv_new hsize.1
  exact invariant_run hstep hstart (guarded_of_forall_mem huncut _)

end SampleRun

/-! ## The files -/

variable {stride depth period : ℕ}

open FixedRecords in
/-- The tool finds the windows that a file consists of. -/
theorem extractFile_of_whole
    {recorded : List
      (SampleWindow (toolConfig stride depth period).windowSize × ℕ)}
    (hfinal : ∀ record ∈ recorded, record.1.Finalised) {bytes : List Byte}
    (hwhole : SampleRun.Whole recorded bytes) {name : String}
    {window : ExtractedWindow} (hwindow : window ∈ extractFile name bytes) :
    ∃ record ∈ recorded, window.header = record.1.extracted.header ∧
      window.samples = record.1.extracted.samples := by
  obtain ⟨records, hrecords, rfl⟩ := hwhole
  have hmapped : (window.header, window.samples) ∈
      (extractFile name (records.flatMap fun record => record.1.toBytes)).map
        fun window => (window.header, window.samples) :=
    List.mem_map_of_mem hwindow
  have hlength : ∀ raw ∈ records.map fun record => record.1.toBytes,
      raw.length = sampleWindowSize := by
    intro raw hraw
    obtain ⟨record, -, rfl⟩ := List.mem_map.mp hraw
    exact record.1.length_toBytes
  rw [map_extractFile, List.flatMap_def,
    blocks_flatten (by decide) hlength] at hmapped
  obtain ⟨raw, hraw, hvalue⟩ := List.mem_filterMap.mp hmapped
  obtain ⟨record, hrecord, rfl⟩ := List.mem_map.mp hraw
  have hin := hrecords record hrecord
  rw [windowValue, validateWindow_toBytes (hfinal record hin)] at hvalue
  obtain ⟨hheader, hsamples⟩ := Prod.mk.inj (Option.some.inj hvalue)
  exact ⟨record, hin, hheader.symm, hsamples.symm⟩

/-! ## The rows -/

/-- The files on the computer that trains. -/
def dump (rename : String → String) (files : Spiffs) :
    List (String × List Byte) :=
  files.map fun file => (rename file.1, file.2)

/-- The row is of a recorded window: it has the number of its session, and its
proximities are the samples from the place on at which the window was recorded. -/
def RowAt (device : SampleRun (toolConfig stride depth period))
    (row : DatasetRow) (place : ℕ) : Prop :=
  ∃ record ∈ device.recorded, place = record.2 ∧
    row.sessionId = (record.1.header.sessionId.toNat : ℤ) ∧
    row.proximityValues = ((device.stream.drop place).take windowSize).map
      fun sample => (sample.proximity.toNat : ℤ)

theorem rowAt_datasetRow
    {device : SampleRun (toolConfig stride depth period)} (hdevice : device.Inv)
    {rename : String → String} {window : ExtractedWindow}
    (hwindow : window ∈ extractAll (dump rename device.trace.logger.spiffs))
    (label : Option ℤ) :
    ∃ place, RowAt device (datasetRow label window) place := by
  obtain ⟨file, hfile, hin⟩ := List.mem_flatMap.mp hwindow
  have hdumped : file ∈ dump rename device.trace.logger.spiffs :=
    List.mem_of_mem_filter ((List.mergeSort_perm _ _).mem_iff.mp hfile)
  obtain ⟨stored, hstored, rfl⟩ := List.mem_map.mp hdumped
  obtain ⟨record, hrecord, hheader, hsamples⟩ := extractFile_of_whole
    (fun record hrecord => (hdevice.placed record hrecord).finalised)
    (hdevice.files stored hstored) hin
  have hplaced := hdevice.placed record hrecord
  have hlength : window.samples.length = windowSize := by
    rw [hsamples]
    exact (List.length_map ..).trans Vector.length_toList
  have hall : padded window.samples = window.samples := by
    rw [padded, hlength, Nat.sub_self]
    exact List.append_nil _
  refine ⟨record.2, record, hrecord, rfl, ?_, ?_⟩
  · change (window.header.sessionId : ℤ) = _
    rw [hheader]
    rfl
  · change (padded window.samples).map (fun sample => (sample.1 : ℤ)) = _
    rw [hall, hsamples]
    change (record.1.samples.toList.map SampleRecord.extracted).map _ = _
    rw [List.map_map, hplaced.samples]
    rfl

theorem exists_places {α : Type*} {P : α → ℕ → Prop} {l : List α}
    (hall : ∀ a ∈ l, ∃ place, P a place) :
    ∃ placed : List (α × ℕ), placed.map Prod.fst = l ∧
      ∀ entry ∈ placed, P entry.1 entry.2 := by
  induction l with
  | nil => exact ⟨[], rfl, fun _ hentry => absurd hentry List.not_mem_nil⟩
  | cons a l ih =>
      obtain ⟨place, hplace⟩ := hall a (.head l)
      obtain ⟨placed, hplaced, hentries⟩ :=
        ih fun other hother => hall other (.tail a hother)
      refine ⟨(a, place) :: placed, ?_, ?_⟩
      · rw [List.map_cons, hplaced]
      · exact List.forall_mem_cons.mpr ⟨hplace, hentries⟩

/-- The readers keep rows of extracted windows. -/
theorem rows_of_load (files : List (String × List Byte))
    {load : List Char → Option (List DatasetRow)}
    (hload : load ∈ [TrainBaseline.loadCsv, TrainModel.loadDataset,
      EvaluateModel.loadDataset]) :
    ∃ rows, load (writeCsv (extractAll files)) = some rows ∧
      ∀ row ∈ rows, ∃ window ∈ extractAll files, ∃ label,
        row = datasetRow label window := by
  have hrows : ∀ (p : ExtractedWindow → Bool)
      (label : ExtractedWindow → Option ℤ),
      ∀ row ∈ ((extractAll files).filter p).map
        (fun window => datasetRow (label window) window),
        ∃ window ∈ extractAll files, ∃ label,
          row = datasetRow label window := by
    intro p label row hrow
    obtain ⟨window, hwindow, rfl⟩ := List.mem_map.mp hrow
    exact ⟨window, List.mem_of_mem_filter hwindow, label window, rfl⟩
  simp only [List.mem_cons, List.not_mem_nil, or_false] at hload
  obtain rfl | rfl | rfl := hload
  · exact ⟨_, loadCsv_writeCsv files,
      hrows _ fun window => some window.header.label⟩
  · exact ⟨_, trainModel_loadDataset_writeCsv files,
      hrows _ fun window => some window.header.label⟩
  · exact ⟨_, evaluateModel_loadDataset_writeCsv files, hrows _ fun _ => none⟩

/-- However the device records, restarts and deletes, as long as no write is cut
short: each row of the data set is a stretch of the sensor's samples, at the
place of the window it was recorded from, and no sample is both in a row to
train on and in a row to test with. -/
theorem no_sample_on_both_sides (hstride : 1 ≤ stride ∧ stride ≤ 40)
    {events : List StoreEvent}
    (huncut : ∀ event ∈ events,
      SampleRun.Uncut (toolConfig stride depth period) event)
    (rename : String → String) (part : ℕ → ℤ)
    {load : List Char → Option (List DatasetRow)}
    (hload : load ∈ [TrainBaseline.loadCsv, TrainModel.loadDataset,
      EvaluateModel.loadDataset]) :
    let device := run SampleRun.step
      (.new (toolConfig stride depth period)) events
    ∃ placed : List (DatasetRow × ℕ),
      load (writeCsv (extractAll
          (dump rename device.trace.logger.spiffs))) =
        some (placed.map Prod.fst) ∧
      (∀ entry ∈ placed, RowAt device entry.1 entry.2 ∧
        entry.2 + windowSize ≤ device.stream.length ∧
        entry.1.proximityValues =
          ((device.stream.drop entry.2).take windowSize).map
            fun sample => (sample.proximity.toNat : ℤ)) ∧
      ∀ first ∈ placed, ∀ second ∈ placed,
        first.1 ∈ (TrainBaseline.sessionSplit part
          (placed.map Prod.fst)).1 →
        second.1 ∈ (TrainBaseline.sessionSplit part
          (placed.map Prod.fst)).2 →
        first.2 + windowSize ≤ second.2 ∨
          second.2 + windowSize ≤ first.2 := by
  intro device
  have hsize : 1 ≤ (toolConfig stride depth period).windowSize ∧
      (toolConfig stride depth period).windowSize ≤ 255 := by
    change 1 ≤ 40 ∧ 40 ≤ 255
    decide
  have hdevice : device.Inv := SampleRun.inv_run hsize hstride huncut
  obtain ⟨rows, hrows, hwindows⟩ := rows_of_load
    (dump rename device.trace.logger.spiffs) hload
  have hat : ∀ row ∈ rows, ∃ place, RowAt device row place := by
    intro row hrow
    obtain ⟨window, hwindow, label, rfl⟩ := hwindows row hrow
    exact rowAt_datasetRow hdevice hwindow label
  obtain ⟨placed, rfl, hplaced⟩ := exists_places hat
  refine ⟨placed, hrows, ?_, ?_⟩
  · intro entry hentry
    obtain ⟨record, hrecord, hplace, -, hprox⟩ := hplaced entry hentry
    have hwithin := (hdevice.placed record hrecord).within
    exact ⟨hplaced entry hentry, hplace ▸ hwithin, hprox⟩
  · intro first hfirst second hsecond htrain htest
    obtain ⟨record, hrecord, hplace, hid, -⟩ := hplaced first hfirst
    obtain ⟨other, hother, hplace', hid', -⟩ := hplaced second hsecond
    have hlt := train_lt_test part (placed.map Prod.fst) htrain htest
    have hne : record.1.header.sessionId ≠ other.1.header.sessionId := by
      intro hsame
      rw [hid, hid', hsame] at hlt
      exact lt_irrefl _ hlt
    rw [hplace, hplace']
    exact hdevice.apart record hrecord other hother hne

/-- The one session is trained on, and the other one is held out. -/
theorem no_sample_on_both_sides_twoSessions :
    let device := run SampleRun.step (.new (toolConfig 20 4 50))
      (twoSessions .idle .hover)
    device.recorded.map Prod.snd = [0, 40] ∧
      ∃ placed : List (DatasetRow × ℕ),
        TrainModel.loadDataset (writeCsv (extractAll
            (dump id device.trace.logger.spiffs))) =
          some (placed.map Prod.fst) ∧
        ∀ first ∈ placed, ∀ second ∈ placed,
          first.1 ∈ (TrainBaseline.sessionSplit (fun _ => 1)
            (placed.map Prod.fst)).1 →
          second.1 ∈ (TrainBaseline.sessionSplit (fun _ => 1)
            (placed.map Prod.fst)).2 →
          first.2 + windowSize ≤ second.2 ∨
            second.2 + windowSize ≤ first.2 := by
  intro device
  have huncut : ∀ event ∈ twoSessions .idle .hover,
      SampleRun.Uncut (toolConfig 20 4 50) event := by decide
  have hload : TrainModel.loadDataset ∈ [TrainBaseline.loadCsv,
      TrainModel.loadDataset, EvaluateModel.loadDataset] := by simp
  obtain ⟨placed, hplaced, -, hapart⟩ := no_sample_on_both_sides
    (by decide : 1 ≤ 20 ∧ 20 ≤ 40) huncut id (fun _ => 1) hload
  exact ⟨by decide +kernel, placed, hplaced, hapart⟩

end SensorFirmware
