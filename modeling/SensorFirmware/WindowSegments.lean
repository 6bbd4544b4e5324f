import SensorFirmware.DataLogger
import SensorFirmware.StrideWindows

/-!
# The windows of a recording session

The buffer of the data logger segments the samples since its index was last
reset, whatever the other tasks do with the service, and the windows that the
queue accepts in one session are numbered from zero.
-/

namespace SensorFirmware

open GuardedRun StrideWindows

variable {cfg : MLConfig}

namespace DataLoggerService

/-- The samples that the next window starts with. -/
def buffered (logger : DataLoggerService cfg) : List SampleRecord :=
  logger.sampleBuf.toList.take logger.sampleIndex

/-- The buffer that the sample completes, if it does. -/
def completes (logger : DataLoggerService cfg) (sample : SampleRecord)
    (env : SampleEnv) : List (Vector SampleRecord cfg.windowSize) :=
  if cfg.windowSize ≤ (logger.storeSample sample env).sampleIndex then
    [(logger.storeSample sample env).sampleBuf]
  else []

/-- The windows that the call puts into the queue. -/
def accepts (logger : DataLoggerService cfg) (sample : SampleRecord)
    (env : SampleEnv) : List (SampleWindow cfg.windowSize) :=
  (logger.appendSample sample env).loggerQueue.drop logger.loggerQueue.length

/-- A session that was not yet recording starts. -/
def starts (logger : DataLoggerService cfg) (label : GestureLabel) : Bool :=
  decide (logger.state ≠ .recording) && (logger.startSession label).2

/-! ## The buffer -/

theorem length_buffered {logger : DataLoggerService cfg}
    (hindex : logger.sampleIndex < cfg.windowSize) :
    logger.buffered.length = logger.sampleIndex := by
  rw [buffered, List.length_take, Vector.length_toList]
  omega

theorem u8_succ_sampleIndex {logger : DataLoggerService cfg}
    (hsize : cfg.windowSize ≤ 255)
    (hindex : logger.sampleIndex < cfg.windowSize) :
    u8 (logger.sampleIndex + 1) = logger.sampleIndex + 1 :=
  Nat.mod_eq_of_lt (by omega)

theorem take_storeSample {logger : DataLoggerService cfg}
    (hindex : logger.sampleIndex < cfg.windowSize) (sample : SampleRecord)
    (env : SampleEnv) :
    (logger.storeSample sample env).sampleBuf.toList.take
        (logger.sampleIndex + 1) = logger.buffered ++ [sample] := by
  have hlength : logger.sampleIndex < logger.sampleBuf.toList.length := by
    rw [Vector.length_toList]
    exact hindex
  have hbuf : (logger.storeSample sample env).sampleBuf.toList =
      logger.sampleBuf.toList.set logger.sampleIndex sample :=
    Vector.toList_setIfInBounds
  rw [hbuf, List.take_add_one, List.take_set_of_le le_rfl,
    List.getElem?_set_self hlength]
  rfl

/-- The `memmove` brings the samples from the stride on to the front. -/
theorem take_sampleBuf_slideWindow (logger : DataLoggerService cfg)
    (hstride : cfg.windowStride < cfg.windowSize) :
    logger.slideWindow.sampleBuf.toList.take
        (cfg.windowSize - cfg.windowStride) =
      logger.sampleBuf.toList.drop cfg.windowStride := by
  apply List.ext_getElem?
  intro i
  unfold slideWindow
  rw [if_pos hstride, List.getElem?_take, List.getElem?_drop,
    Vector.getElem?_toList, Vector.getElem?_toList]
  split
  next hi =>
    have hfrom : cfg.windowStride + i < cfg.windowSize := by omega
    have hto : i < cfg.windowSize := by omega
    rw [Vector.getElem?_ofFn, dif_pos hto, Nat.add_comm i,
      Vector.getElem?_eq_getElem hfrom]
    rfl
  next hi => exact (Vector.getElem?_eq_none (by omega)).symm

theorem buffered_slideWindow {logger : DataLoggerService cfg}
    (hsize : cfg.windowSize ≤ 255) (hpos : 0 < cfg.windowStride)
    (hstride : cfg.windowStride ≤ cfg.windowSize) :
    logger.slideWindow.buffered =
      logger.sampleBuf.toList.drop cfg.windowStride := by
  unfold buffered
  rw [sampleIndex_slideWindow]
  split
  next hlt =>
    have hkeep : u8 (cfg.windowSize - cfg.windowStride) =
        cfg.windowSize - cfg.windowStride := Nat.mod_eq_of_lt (by omega)
    rw [hkeep, take_sampleBuf_slideWindow logger hlt]
  next hge =>
    rw [List.take_zero, List.drop_of_length_le]
    rw [Vector.length_toList]
    omega

/-- Appending a sample is one step of the segmenter. -/
theorem push_buffered {logger : DataLoggerService cfg}
    (hsize : cfg.windowSize ≤ 255) (hpos : 0 < cfg.windowStride)
    (hstride : cfg.windowStride ≤ cfg.windowSize)
    (hindex : logger.sampleIndex < cfg.windowSize) (sample : SampleRecord)
    (env : SampleEnv) (windows : List (List SampleRecord)) :
    Segmenter.push cfg.windowSize cfg.windowStride
        ⟨logger.buffered, windows⟩ sample =
      ⟨(logger.appendSample sample env).buffered,
        windows ++ (logger.completes sample env).map Vector.toList⟩ := by
  have htake := take_storeSample hindex sample env
  have hnext := u8_succ_sampleIndex hsize hindex
  have hstored : (logger.storeSample sample env).sampleIndex =
      logger.sampleIndex + 1 := hnext
  unfold Segmenter.push completes
  rw [length_buffered hindex, hstored]
  split
  next hfull =>
    have hwhole : (logger.storeSample sample env).sampleBuf.toList =
        logger.buffered ++ [sample] := by
      rw [← htake, List.take_of_length_le]
      rw [Vector.length_toList]
      exact hfull
    have hbuf : ((logger.filled sample env).queueWindow env.record).sampleBuf =
        (logger.storeSample sample env).sampleBuf := by
      rw [queueWindow_eq, filled_eq]
    rw [appendSample_of_le (by rw [hnext]; exact hfull),
      buffered_slideWindow hsize hpos hstride, hbuf, hwhole,
      List.map_singleton, hwhole]
  next hroom =>
    have hkept : (logger.storeSample sample env).buffered =
        logger.buffered ++ [sample] := by
      rw [← htake, buffered, hstored]
    rw [appendSample_of_lt (by omega), hkept, List.map_nil,
      List.append_nil]

theorem sampleIndex_lt_appendSample {logger : DataLoggerService cfg}
    (hpos : 0 < cfg.windowStride)
    (hstride : cfg.windowStride ≤ cfg.windowSize) (sample : SampleRecord)
    (env : SampleEnv) :
    (logger.appendSample sample env).sampleIndex < cfg.windowSize := by
  have hkeep : u8 (cfg.windowSize - cfg.windowStride) ≤
      cfg.windowSize - cfg.windowStride := Nat.mod_le _ _
  rw [sampleIndex_appendSample]
  split_ifs <;> omega

/-! ## The queue -/

theorem accepts_eq (logger : DataLoggerService cfg) (sample : SampleRecord)
    (env : SampleEnv) :
    logger.accepts sample env =
      if cfg.windowSize ≤ u8 (logger.sampleIndex + 1) ∧
          logger.state = .recording ∧
          logger.loggerQueue.length < cfg.loggerQueueDepth then
        [(logger.filled sample env).writeWindow env.record]
      else [] := by
  rw [accepts, loggerQueue_appendSample, List.drop_left]

/-- A window that the queue accepts holds the completed buffer. -/
theorem samples_accepts (logger : DataLoggerService cfg)
    (sample : SampleRecord) (env : SampleEnv) :
    ((logger.accepts sample env).map (·.samples)).Sublist
      (logger.completes sample env) := by
  have hstored : (logger.storeSample sample env).sampleIndex =
      u8 (logger.sampleIndex + 1) := rfl
  rw [accepts_eq, completes, hstored]
  split
  next hqueued =>
    rw [if_pos hqueued.1, List.map_singleton]
    have hbuf : ((logger.filled sample env).writeWindow env.record).samples =
        (logger.storeSample sample env).sampleBuf := by
      rw [filled_eq]
      rfl
    rw [hbuf]
  next hnot => exact List.nil_sublist _

/-- The window says the session and the number that the service has. -/
theorem header_accepts {logger : DataLoggerService cfg}
    {sample : SampleRecord} {env : SampleEnv}
    {window : SampleWindow cfg.windowSize}
    (hwindow : window ∈ logger.accepts sample env) :
    window.header.sessionId = logger.currentSessionId ∧
      window.header.windowId = logger.currentWindowId := by
  rw [accepts_eq] at hwindow
  split at hwindow
  next hqueued =>
    rw [List.mem_singleton.mp hwindow, filled_eq]
    exact ⟨rfl, rfl⟩
  next hnot => cases hwindow

/-- The number goes up by one with an accepted window, and only with one. -/
theorem currentWindowId_appendSample (logger : DataLoggerService cfg)
    (sample : SampleRecord) (env : SampleEnv) :
    (logger.appendSample sample env).currentWindowId =
      logger.currentWindowId +
        UInt16.ofNat (logger.accepts sample env).length := by
  rw [accepts_eq]
  by_cases hindex : cfg.windowSize ≤ u8 (logger.sampleIndex + 1)
  · rw [appendSample_of_le hindex, slideWindow_eq]
    dsimp only
    rw [filled_eq]
    unfold queueWindow storeSample
    by_cases hrecording : logger.state = .recording
    · by_cases hroom : logger.loggerQueue.length < cfg.loggerQueueDepth <;>
        simp [hindex, hrecording, hroom]
    · simp [hrecording]
  · rw [appendSample_of_lt (not_le.mp hindex)]
    simp [storeSample, hindex]

theorem length_accepts_le (logger : DataLoggerService cfg)
    (sample : SampleRecord) (env : SampleEnv) :
    (logger.accepts sample env).length ≤ 1 := by
  rw [accepts_eq]
  split
  · exact le_rfl
  · exact Nat.zero_le 1

/-! ## Sessions -/

theorem startSession_cases (logger : DataLoggerService cfg)
    (label : GestureLabel) :
    logger.starts label = true ∧
        (logger.startSession label).1.sampleIndex = 0 ∧
        (logger.startSession label).1.currentWindowId = 0 ∨
      logger.starts label = false ∧
        (logger.startSession label).1 =
          { logger with state := (logger.startSession label).1.state } := by
  by_cases hbusy : logger.state = .recording ∨ logger.state = .armed
  · right
    have hstays : logger.startSession label =
        (logger, decide (logger.state = .recording ∧
          logger.currentLabel = label)) := if_pos hbusy
    unfold starts
    rw [hstays]
    refine ⟨?_, rfl⟩
    by_cases hrecording : logger.state = .recording <;> simp [hrecording]
  · have hidle : logger.state ≠ .recording := fun h => hbusy (.inl h)
    by_cases hmounted : (!logger.spiffsMounted) = true
    · have hfailed : logger.startSession label =
          ({ logger with state := .error }, false) := by
        rw [startSession, if_neg hbusy, if_pos hmounted]
      unfold starts
      rw [hfailed]
      exact Or.inr ⟨Bool.and_false _, rfl⟩
    · by_cases hlabel : label = .invalid
      · have hstays : logger.startSession label = (logger, false) := by
          rw [startSession, if_neg hbusy, if_neg hmounted, if_pos hlabel]
        unfold starts
        rw [hstays]
        exact Or.inr ⟨Bool.and_false _, rfl⟩
      · left
        unfold starts startSession
        rw [if_neg hbusy, if_neg hmounted, if_neg hlabel]
        exact ⟨by simp [hidle], rfl, rfl⟩

end DataLoggerService

/-- Everything that the tasks do with the service. -/
inductive ServiceEvent where
  | logger (event : LoggerEvent)
  | deleteAll (rootOpens : Bool) (failing : List String)
  deriving DecidableEq, Repr

/-- The service with the samples since its index was last reset, the buffers
that they completed and the windows that the queue accepted. -/
structure SessionTrace (cfg : MLConfig) where
  logger : DataLoggerService cfg
  stream : List SampleRecord
  completed : List (Vector SampleRecord cfg.windowSize)
  accepted : List (SampleWindow cfg.windowSize)
  deriving DecidableEq, Repr

namespace SessionTrace

def start (logger : DataLoggerService cfg) : SessionTrace cfg :=
  ⟨logger, [], [], []⟩

def step (trace : SessionTrace cfg) : ServiceEvent → SessionTrace cfg
  | .logger (.appendSample sample env) =>
      { logger := trace.logger.appendSample sample env
        stream := trace.stream ++ [sample]
        completed := trace.completed ++ trace.logger.completes sample env
        accepted := trace.accepted ++ trace.logger.accepts sample env }
  | .logger (.startSession label) =>
      let logger := (trace.logger.startSession label).1
      if trace.logger.starts label then start logger
      else { trace with logger := logger }
  | .logger event => { trace with logger := trace.logger.step event }
  | .deleteAll rootOpens failing =>
      { trace with logger := (trace.logger.deleteAll rootOpens failing).1 }

/-- What the segmenter holds where the buffer is the service's. -/
def segmenter (trace : SessionTrace cfg) : Segmenter SampleRecord :=
  ⟨trace.logger.buffered, trace.completed.map Vector.toList⟩

structure Exact (trace : SessionTrace cfg) : Prop where
  index : trace.logger.sampleIndex < cfg.windowSize
  segmented : Segmented cfg.windowSize cfg.windowStride trace.stream
    trace.segmenter
  windowIds : trace.accepted.map (fun window => window.header.windowId) =
    (List.range trace.accepted.length).map UInt16.ofNat
  nextId : trace.logger.currentWindowId = UInt16.ofNat trace.accepted.length
  session : ∀ window ∈ trace.accepted,
    window.header.sessionId = trace.logger.currentSessionId
  samples : (trace.accepted.map (·.samples)).Sublist trace.completed

theorem exact_start {logger : DataLoggerService cfg}
    (hsize : 0 < cfg.windowSize) (hindex : logger.sampleIndex = 0)
    (hid : logger.currentWindowId = 0) : (start logger).Exact where
  index := by
    rw [start, hindex]
    exact hsize
  segmented := by
    have hempty : (start logger).segmenter = ⟨[], []⟩ := by
      rw [segmenter, start, DataLoggerService.buffered, hindex]
      rfl
    rw [hempty]
    exact Segmented.nil hsize
  windowIds := rfl
  nextId := hid
  session := fun _ hwindow => absurd hwindow List.not_mem_nil
  samples := List.Sublist.slnil

/-- What leaves the buffer and the numbers alone keeps the invariant. -/
theorem Exact.kept {trace : SessionTrace cfg} (htrace : trace.Exact)
    {logger : DataLoggerService cfg}
    (hbuf : logger.sampleBuf = trace.logger.sampleBuf)
    (hindex : logger.sampleIndex = trace.logger.sampleIndex)
    (hid : logger.currentWindowId = trace.logger.currentWindowId)
    (hsession : logger.currentSessionId = trace.logger.currentSessionId) :
    ({ trace with logger := logger } : SessionTrace cfg).Exact where
  index := hindex.trans_lt htrace.index
  segmented := by
    have hsame : ({ trace with logger := logger } :
        SessionTrace cfg).segmenter = trace.segmenter := by
      unfold segmenter DataLoggerService.buffered
      rw [hbuf, hindex]
    rw [hsame]
    exact htrace.segmented
  windowIds := htrace.windowIds
  nextId := hid.trans htrace.nextId
  session := fun window hwindow =>
    (htrace.session window hwindow).trans hsession.symm
  samples := htrace.samples

theorem Exact.windowIds_append {trace : SessionTrace cfg}
    (htrace : trace.Exact) (sample : SampleRecord) (env : SampleEnv) :
    (trace.accepted ++ trace.logger.accepts sample env).map
        (fun window => window.header.windowId) =
      (List.range (trace.accepted ++
        trace.logger.accepts sample env).length).map UInt16.ofNat := by
  have hone := trace.logger.length_accepts_le sample env
  have hheader := fun window => @DataLoggerService.header_accepts cfg
    trace.logger sample env window
  cases haccepts : trace.logger.accepts sample env with
  | nil =>
      rw [List.append_nil]
      exact htrace.windowIds
  | cons window rest =>
      rw [haccepts, List.length_cons] at hone
      have hrest : rest = [] := List.length_eq_zero_iff.mp (by omega)
      subst hrest
      have hid : window.header.windowId =
          UInt16.ofNat trace.accepted.length := by
        rw [← htrace.nextId]
        exact (hheader window (by simp [haccepts])).2
      rw [List.map_append, List.length_append, List.length_singleton,
        List.range_succ, List.map_append, htrace.windowIds,
        List.map_singleton, List.map_singleton, hid]

theorem Exact.appendSample {trace : SessionTrace cfg} (htrace : trace.Exact)
    (hsize : cfg.windowSize ≤ 255) (hpos : 0 < cfg.windowStride)
    (hstride : cfg.windowStride ≤ cfg.windowSize) (sample : SampleRecord)
    (env : SampleEnv) :
    (trace.step (.logger (.appendSample sample env))).Exact where
  index :=
    DataLoggerService.sampleIndex_lt_appendSample hpos hstride sample env
  segmented := by
    have hpush := DataLoggerService.push_buffered hsize hpos hstride
      htrace.index sample env (trace.completed.map Vector.toList)
    have hnext : (trace.step (.logger (.appendSample sample env))).segmenter =
        trace.segmenter.push cfg.windowSize cfg.windowStride sample := by
      rw [segmenter, segmenter, hpush, ← List.map_append]
      rfl
    rw [hnext]
    exact htrace.segmented.push hpos hstride sample
  windowIds := htrace.windowIds_append sample env
  nextId := by
    change (trace.logger.appendSample sample env).currentWindowId =
      UInt16.ofNat (trace.accepted ++
        trace.logger.accepts sample env).length
    rw [DataLoggerService.currentWindowId_appendSample, htrace.nextId,
      List.length_append, UInt16.ofNat_add]
  session := by
    intro window hwindow
    have hkept : (trace.logger.appendSample sample env).currentSessionId =
        trace.logger.currentSessionId :=
      (trace.logger.appendSample_kept sample env).2.1
    change _ = (trace.logger.appendSample sample env).currentSessionId
    rw [hkept]
    obtain hold | hnew := List.mem_append.mp hwindow
    · exact htrace.session window hold
    · exact (DataLoggerService.header_accepts hnew).1
  samples := by
    change ((trace.accepted ++ trace.logger.accepts sample env).map
      (·.samples)).Sublist
        (trace.completed ++ trace.logger.completes sample env)
    rw [List.map_append]
    exact htrace.samples.append (trace.logger.samples_accepts sample env)

theorem Exact.startSession {trace : SessionTrace cfg} (htrace : trace.Exact)
    (label : GestureLabel) :
    (trace.step (.logger (.startSession label))).Exact := by
  have hsize : 0 < cfg.windowSize := (Nat.zero_le _).trans_lt htrace.index
  unfold step
  dsimp only
  obtain ⟨hstarts, hindex, hid⟩ | ⟨hstays, hsame⟩ :=
    trace.logger.startSession_cases label
  · rw [if_pos hstarts]
    exact exact_start hsize hindex hid
  · rw [if_neg (by simp [hstays]), hsame]
    exact htrace.kept rfl rfl rfl rfl

theorem Exact.step {trace : SessionTrace cfg} (htrace : trace.Exact)
    (hsize : cfg.windowSize ≤ 255) (hpos : 0 < cfg.windowStride)
    (hstride : cfg.windowStride ≤ cfg.windowSize) (event : ServiceEvent) :
    (trace.step event).Exact := by
  cases event with
  | logger event =>
      cases event with
      | appendSample sample env =>
          exact htrace.appendSample hsize hpos hstride sample env
      | startSession label => exact htrace.startSession label
      | stopSession =>
          unfold SessionTrace.step DataLoggerService.step
          dsimp only
          rw [DataLoggerService.stopSession_eq]
          exact htrace.kept rfl rfl rfl rfl
      | setRuntimeFlags flags => exact htrace.kept rfl rfl rfl rfl
      | write outcome =>
          unfold SessionTrace.step DataLoggerService.step
            DataLoggerService.loggerTask
          dsimp only
          split
          · exact htrace
          · rw [DataLoggerService.processWrite_eq]
            exact htrace.kept rfl rfl rfl rfl
  | deleteAll rootOpens failing =>
      obtain ⟨state, -, hdeleted⟩ :=
        trace.logger.deleteAll_eq rootOpens failing
      unfold SessionTrace.step
      dsimp only
      rw [hdeleted]
      split
      · exact htrace.kept rfl rfl rfl rfl
      · exact htrace.kept rfl rfl rfl rfl

end SessionTrace

/-- After any calls since the boot, the index is within the buffer, the windows
completed since its last reset are the whole windows of the samples, in order,
and those of them that the queue accepted in the session are numbered from
zero. -/
theorem segmentation_exact (hsize : 1 ≤ cfg.windowSize ∧ cfg.windowSize ≤ 255)
    (hstride : 1 ≤ cfg.windowStride ∧ cfg.windowStride ≤ cfg.windowSize)
    (mounted : Bool) (nextSessionId : UInt16) (bootCount : UInt8)
    (files : Spiffs) (events : List ServiceEvent) :
    let trace := run SessionTrace.step (.start
      (.boot cfg mounted nextSessionId bootCount files)) events
    trace.logger.sampleIndex < cfg.windowSize ∧
      trace.completed.length =
        count cfg.windowSize cfg.windowStride trace.stream.length ∧
      (∀ k window, trace.completed[k]? = some window →
        k * cfg.windowStride + cfg.windowSize ≤ trace.stream.length ∧
          ∀ i < cfg.windowSize,
            window[i]? = trace.stream[k * cfg.windowStride + i]?) ∧
      (trace.accepted.map (·.samples)).Sublist trace.completed ∧
      (∀ window ∈ trace.accepted,
        window.header.sessionId = trace.logger.currentSessionId) ∧
      trace.accepted.map (fun window => window.header.windowId) =
        (List.range trace.accepted.length).map UInt16.ofNat := by
  intro trace
  have hstep : ∀ (trace : SessionTrace cfg) (event : ServiceEvent),
      trace.Exact → (trace.step event).Exact :=
    fun _ event htrace => htrace.step hsize.2 hstride.1 hstride.2 event
  have hexact : trace.Exact :=
    invariant_run' hstep events (SessionTrace.exact_start hsize.1 rfl rfl)
  have hsegmented := hexact.segmented
  refine ⟨hexact.index, ?_, ?_, hexact.samples, hexact.session,
    hexact.windowIds⟩
  · rw [← hsegmented.length_windows]
    exact (List.length_map ..).symm
  · intro k window hwindow
    have hmapped : trace.segmenter.windows[k]? = some window.toList := by
      change (trace.completed.map Vector.toList)[k]? = _
      rw [List.getElem?_map, hwindow]
      rfl
    have hk := (List.getElem?_eq_some_iff.mp hmapped).1
    refine ⟨hsegmented.end_le hk, ?_⟩
    intro i hi
    rw [← Vector.getElem?_toList, hsegmented.getElem?_windows hmapped,
      getElem?_windowAt hi]

/-- Windows of three samples, two samples apart, and a queue that holds two. -/
def shortWindows : MLConfig := ⟨3, 2, 0x4D4C, 1, 2, 50⟩

def shortEvents : List ServiceEvent :=
  .logger (.startSession .idle) ::
    (List.range 10).map fun n =>
      .logger (.appendSample ⟨UInt16.ofNat n, 50⟩
        ⟨0, false, ⟨0, 0, none, none⟩, ⟨0, 0, none, none⟩⟩)

def shortTrace : SessionTrace shortWindows :=
  run SessionTrace.step (.start (.boot shortWindows true 1 0 [])) shortEvents

/-- Four windows are completed, and the queue accepts the first two. -/
theorem segmentation_exact_shortTrace :
    shortTrace.completed.map
        (fun window => window.toList.map (·.proximity)) =
      [[0, 1, 2], [2, 3, 4], [4, 5, 6], [6, 7, 8]] ∧
    shortTrace.accepted.length = 2 ∧
    shortTrace.completed.length = count 3 2 shortTrace.stream.length ∧
    shortTrace.accepted.map (fun window => window.header.windowId) =
      (List.range shortTrace.accepted.length).map UInt16.ofNat := by
  have hsize : 1 ≤ shortWindows.windowSize ∧ shortWindows.windowSize ≤ 255 :=
    by decide
  have hstride : 1 ≤ shortWindows.windowStride ∧
      shortWindows.windowStride ≤ shortWindows.windowSize := by decide
  have hexact := segmentation_exact hsize hstride true 1 0 [] shortEvents
  exact ⟨by decide +kernel, by decide +kernel, hexact.2.1,
    hexact.2.2.2.2.2⟩

end SensorFirmware
