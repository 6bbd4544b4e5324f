import SensorFirmware.NotifiedRegister
import SensorFirmware.WindowSegments

/-!
# The inference service

`InferenceService`: the sensor task publishes each complete window under a lock
and notifies the inference task, which copies the window under the same lock
and puts its result into a queue of one element.  The main loop copies the
window under that lock too, for a calibration.  The sensor task does not wait
for the lock, and it keeps the handle of the task for good.  The features, which
are all zero in the repository, are left out.
-/

namespace SensorFirmware

open GuardedRun NotifiedRegister

variable {cfg : MLConfig}

/-- The two raw numbers of floating point, which stay zero, are left out. -/
structure InferenceResult where
  predictedLabel : UInt8
  confidence : UInt8
  latencyUs : UInt16
  timestampMs : UInt32
  globalConfidence : UInt8
  localConfidence : UInt8
  adaptationQuality : UInt8
  flags : UInt8
  deriving DecidableEq, Repr

namespace InferenceResult

def zero : InferenceResult := ⟨0, 0, 0, 0, 0, 0, 0, 0⟩

def flagBelowThreshold : UInt8 := 0x02

end InferenceResult

/-- Where `inferenceTask` is: not created, not yet run, in
`ulTaskNotifyTake`, before the lock, with the lock, or after it with its copy
of the window; `ended` is after `vTaskDelete`. -/
inductive InferencePhase (size : ℕ) where
  | absent
  | created
  | waiting
  | locking
  | copying
  | inferring (window : SampleWindow size)
  | ended
  deriving DecidableEq, Repr

structure InferenceService (cfg : MLConfig) where
  taskRunning : Bool
  initialized : Bool
  phase : InferencePhase cfg.windowSize
  resultQueue : Option InferenceResult
  lastResult : InferenceResult
  inferenceCount : UInt32
  totalLatencyUs : UInt32
  deriving DecidableEq, Repr

namespace InferenceService

/-- The constructor and `init`, which may fail to create the task. -/
def init (cfg : MLConfig) (created : Bool) : InferenceService cfg where
  taskRunning := created
  initialized := created
  phase := if created then .created else .absent
  resultQueue := none
  lastResult := .zero
  inferenceCount := 0
  totalLatencyUs := 0

/-- The waiting for the end of the task is left to the order of the steps. -/
def shutdown (service : InferenceService cfg) : InferenceService cfg :=
  if !service.initialized then service
  else { service with taskRunning := false, initialized := false }

/-- The condition of the task's loop. -/
def loop (service : InferenceService cfg) : InferenceService cfg :=
  { service with phase := if service.taskRunning then .waiting else .ended }

/-- The prediction, which does not depend on the window in the repository. -/
def predictHybrid : InferenceResult :=
  { InferenceResult.zero with
    predictedLabel := GestureLabel.unknown.toByte
    confidence := 0
    flags := InferenceResult.flagBelowThreshold }

def latencyUs (startUs endUs : UInt32) : UInt32 :=
  if startUs ≤ endUs then endUs - startUs else 0

def result (startUs endUs uptime : UInt32) : InferenceResult :=
  { predictHybrid with
    latencyUs :=
      if 65535 < latencyUs startUs endUs then 65535
      else (latencyUs startUs endUs).toUInt16
    timestampMs := uptime }

/-- The end of `runInference`, where `xQueueOverwrite` replaces a result that
nobody has received. -/
def publishResult (service : InferenceService cfg)
    (startUs endUs uptime : UInt32) : InferenceService cfg :=
  { service with
    resultQueue := some (result startUs endUs uptime)
    lastResult := result startUs endUs uptime
    inferenceCount := service.inferenceCount + 1
    totalLatencyUs := service.totalLatencyUs + latencyUs startUs endUs }

end InferenceService

/-- The two services with `_inferenceMutex`, which the main loop may have, the
task's notifications, and how often a task that has ended was notified.  From
`samples` on it is what has happened: `skipped` are the complete windows that
were not published for want of the lock, and `missed` says that the window
published last was not notified to a task, or that the task has failed to get
the lock since. -/
structure InferenceDevice (cfg : MLConfig) where
  trace : SessionTrace cfg
  mutexCreated : Bool
  loopReading : Bool
  handleSet : Bool
  service : InferenceService cfg
  notifications : ℕ
  staleNotifies : ℕ
  samples : List SampleRecord
  published : List (SampleWindow cfg.windowSize)
  skipped : ℕ
  analysed : List (SampleWindow cfg.windowSize)
  results : List InferenceResult
  received : List InferenceResult
  missed : Bool
  deriving DecidableEq, Repr

/-- `take` is a return of `ulTaskNotifyTake`, `lock` one of `xSemaphoreTake`,
which may also time out.  With `loopLock` and `loopUnlock` the main loop is in
`getCurrentWindow`. -/
inductive InferenceEvent where
  | service (event : ServiceEvent)
  | unmountSpiffs
  | taskStart
  | take
  | lock (inTime : Bool)
  | copyWindow
  | loopLock
  | loopUnlock
  | publishResult (startUs endUs uptime : UInt32)
  | getLatestResult
  | shutdown
  deriving DecidableEq, Repr

namespace InferenceDevice

def logger (device : InferenceDevice cfg) : DataLoggerService cfg :=
  device.trace.logger

/-- A boot, with the locks and the tasks that could be created. -/
def boot (logger : DataLoggerService cfg) (mutexCreated taskCreated : Bool) :
    InferenceDevice cfg where
  trace := .start logger
  mutexCreated := mutexCreated
  loopReading := false
  handleSet := false
  service := .init cfg taskCreated
  notifications := 0
  staleNotifies := 0
  samples := []
  published := []
  skipped := 0
  analysed := []
  results := []
  received := []
  missed := false

/-- `xSemaphoreTake` without waiting. -/
def mutexFree (device : InferenceDevice cfg) : Bool :=
  device.mutexCreated && !decide (device.service.phase = .copying) &&
    !device.loopReading

/-- The sample fills the buffer. -/
def fills (device : InferenceDevice cfg) : Bool :=
  decide (cfg.windowSize ≤ u8 (device.logger.sampleIndex + 1))

/-- `xTaskNotifyGive`, where there is a handle. -/
def notifyGive (device : InferenceDevice cfg) : InferenceDevice cfg :=
  if !device.handleSet then { device with missed := true }
  else if device.service.phase = .ended then
    { device with
      staleNotifies := device.staleNotifies + 1
      missed := true }
  else
    { device with
      notifications := device.notifications + 1
      missed := false }

def appendSample (device : InferenceDevice cfg) (sample : SampleRecord)
    (env : SampleEnv) : InferenceDevice cfg :=
  let env := { env with inferenceLock := device.mutexFree }
  let trace := device.trace.step (.logger (.appendSample sample env))
  let appended :=
    { device with
      trace := trace
      samples := device.samples ++ [sample] }
  if device.fills && device.mutexFree then
    { appended with
      published := device.published ++ [trace.logger.inferenceWindow]
        }.notifyGive
  else if device.fills then { appended with skipped := device.skipped + 1 }
  else appended

def unmountSpiffs (device : InferenceDevice cfg) : InferenceDevice cfg :=
  { device with
    trace := { device.trace with
      logger := { device.trace.logger with spiffsMounted := false } } }

def take (device : InferenceDevice cfg) : InferenceDevice cfg :=
  if 0 < device.notifications then
    { device with
      notifications := 0
      service := { device.service with phase := .locking } }
  else { device with service := device.service.loop }

/-- The task waits as long as the main loop has the lock. -/
def lock (device : InferenceDevice cfg) (inTime : Bool) :
    InferenceDevice cfg :=
  if device.mutexCreated && inTime then
    if device.loopReading then device
    else { device with service := { device.service with phase := .copying } }
  else { device with service := device.service.loop, missed := true }

def copyWindow (device : InferenceDevice cfg) : InferenceDevice cfg :=
  { device with
    service := { device.service with
      phase := .inferring device.logger.inferenceWindow }
    analysed := device.analysed ++ [device.logger.inferenceWindow] }

def publishResult (device : InferenceDevice cfg)
    (startUs endUs uptime : UInt32) : InferenceDevice cfg :=
  { device with
    service := (device.service.publishResult startUs endUs uptime).loop
    results := device.results ++
      [InferenceService.result startUs endUs uptime] }

def getLatestResult (device : InferenceDevice cfg) : InferenceDevice cfg :=
  { device with
    service := { device.service with resultQueue := none }
    received := device.received ++ device.service.resultQueue.toList }

/-- Each step of the task is taken where the task is. -/
def step (device : InferenceDevice cfg) :
    InferenceEvent → InferenceDevice cfg
  | .service (.logger (.appendSample sample env)) =>
      device.appendSample sample env
  | .service event => { device with trace := device.trace.step event }
  | .unmountSpiffs => device.unmountSpiffs
  | .taskStart =>
      if device.service.phase = .created then
        { device with handleSet := true, service := device.service.loop }
      else device
  | .take =>
      if device.service.phase = .waiting then device.take else device
  | .lock inTime =>
      if device.service.phase = .locking then device.lock inTime else device
  | .copyWindow =>
      if device.service.phase = .copying then device.copyWindow else device
  | .loopLock =>
      if device.mutexFree then { device with loopReading := true } else device
  | .loopUnlock => { device with loopReading := false }
  | .publishResult startUs endUs uptime =>
      match device.service.phase with
      | .inferring _ => device.publishResult startUs endUs uptime
      | _ => device
  | .getLatestResult => device.getLatestResult
  | .shutdown => { device with service := device.service.shutdown }

end InferenceDevice

end SensorFirmware
