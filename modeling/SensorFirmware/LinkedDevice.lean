import SensorFirmware.DeliverySession
import SensorFirmware.ProtocolDispatch

/-!
# The device behind its write callback

`onWrite` decides which writes of a peer reach `processReceived`.  Everything
else that changes the services is an event of the device itself.  Each write
and each event is one step here.
-/

namespace SensorFirmware

/-! ## The write callback -/

/-- The `sec_state` of a connection. -/
structure LinkSecurity where
  encrypted : Bool
  bonded : Bool
  deriving DecidableEq

/-- What becomes of a write; a rejected one may ask for security. -/
inductive WriteVerdict where
  | empty
  | rejected (securityRequested : Bool)
  | accepted
  deriving DecidableEq

def isHandshakeMessage : List Byte → Bool
  | sof :: msgType :: _ =>
      sof == 0xA5#8 &&
        (msgType == 0x00#8 || msgType == 0x02#8 || msgType == 0x04#8)
  | _ => false

/-- An accepted write of either characteristic goes to `processReceived`. -/
def onWrite (desc : Option LinkSecurity) (data : List Byte) : WriteVerdict :=
  if data.length = 0 then .empty
  else if (desc.any fun desc => !desc.encrypted) &&
      !isHandshakeMessage data then
    .rejected (desc.any fun desc => !desc.bonded)
  else .accepted

/-! ## What the device does by itself -/

/-- The device with the blob of its configuration. -/
structure LinkedDevice (cfg : HistoryConfig) (σ : Type) extends
    ProtocolDevice cfg σ where
  blob : ConfigBlob
  lastPumpAttemptMs : ℕ

/-- What a storage command meets. -/
structure StorageEnv (cfg : HistoryConfig) where
  flush : FlushEnv
  stack : Vector DetectionEvent cfg.bufferSize

/-- What `setup` meets.  The RTC region is kept unless power was lost. -/
structure SetupEnv (cfg : HistoryConfig) (σ : Type) where
  resetReason : ResetReason
  lostRtc : Option (RTCState cfg)
  stack : Vector DetectionEvent cfg.bufferSize
  locked : Bool
  taskOk : Bool
  random : ℕ
  config : ConfigBootEnv
  otaInitialized : Bool
  updater : σ

/-- What `enterDeepSleep` meets. -/
structure SleepSaveEnv (cfg : HistoryConfig) where
  configWrite : ConfigWrite
  storage : ℕ → StorageEnv cfg
  locked : Bool
  flush : FlushEnv

variable {cfg : HistoryConfig} {σ : Type}

namespace HistoryService

def clearNvs (nvs : HistoryNvs cfg) (beginOk : Bool) : HistoryNvs cfg :=
  if beginOk then { HistoryNvs.empty cfg with namespaceExists := true }
  else nvs

def processStorageCommand (service : HistoryService cfg)
    (nvs : HistoryNvs cfg) (env : StorageEnv cfg) :
    StorageCmd → HistoryService cfg × HistoryNvs cfg
  | .saveHit | .forceFlush =>
      let flushed := service.flushToNvs nvs env.flush
      ({ flushed.1 with flushPending := false }, flushed.2.1)
  | .restore =>
      ((service.restoreFromNvs nvs env.stack env.flush.locked).1, nvs)
  | .clearNvs => (service, clearNvs nvs env.flush.beginOk)

/-- `stopStorageWorker` processes what is left in the queue. -/
def drainStorage (env : ℕ → StorageEnv cfg) :
    List StorageMessage → HistoryService cfg × HistoryNvs cfg →
      HistoryService cfg × HistoryNvs cfg
  | [], storage => storage
  | message :: rest, storage =>
      drainStorage env rest
        (({ storage.1 with storageQueue := rest }).processStorageCommand
          storage.2 (env rest.length) message.cmd)

end HistoryService

namespace LinkedDevice

/-- Take over what a reaction has done. -/
def afterReaction (device : LinkedDevice cfg σ) (r : Reaction cfg σ) :
    LinkedDevice cfg σ :=
  { device with toProtocolDevice := r.toProtocolDevice }

def logDetection (device : LinkedDevice cfg σ) (locked configLocked : Bool)
    (clock : ClockMicros) (durationMs : ℕ) : Option (LinkedDevice cfg σ) :=
  (device.history.logDetection locked clock durationMs).map fun logged =>
    { device with
      history := logged.1
      config :=
        match logged.2.lastKnownEpoch with
        | some epoch => device.config.updateLastKnownEpoch configLocked epoch
        | none => device.config }

/-- `onSystemTimeSynced`, over the network. -/
def systemTimeSynced (device : LinkedDevice cfg σ) (locked : Bool)
    (millis currentEpoch : ℕ) : Option (LinkedDevice cfg σ) :=
  (device.history.applyTimeSync locked millis currentEpoch).map fun synced =>
    { device with history := synced.1 }

def onBLEConnect (device : LinkedDevice cfg σ) (locked : Bool) (now : ℕ) :
    LinkedDevice cfg σ :=
  { device with
    handler := device.handler.resetForNewConnection locked
    history := device.history.setBleConnected true now }

def onBLEDisconnect (device : LinkedDevice cfg σ) (locked : Bool)
    (now : ℕ) : LinkedDevice cfg σ :=
  { device with
    handler := device.handler.clearAllPending locked
    history := device.history.setBleConnected false now }

/-- `DetectionDeliveryPump::update`. -/
def pump (device : LinkedDevice cfg σ) (locked : Bool) (now : ℕ)
    (link : BleLink) (env : SendEnv) : Option (LinkedDevice cfg σ) :=
  if sub32 now device.lastPumpAttemptMs <
      DetectionDeliveryPumpConfig.minPumpIntervalMs then some device
  else
    let attempted := { device with lastPumpAttemptMs := now }
    if !link.ready then some attempted
    else if DetectionDeliveryPumpConfig.maxPendingBeforeBackoff ≤
        attempted.handler.getPendingCount then some attempted
    else
      (attempted.history.getNextUnsynced locked).map fun event? =>
        match event? with
        | some event =>
            { attempted with
              handler := (attempted.handler.sendDetectionEvent env.connected
                env.link env.locked env.now event false).handler }
        | none => attempted

/-- Any message of the device that asks for no ACK. -/
def sendMessage (device : LinkedDevice cfg σ) (env : SendEnv)
    (type : MessageType) (payload : List Byte) : LinkedDevice cfg σ :=
  { device with
    handler := (device.handler.sendMessage env.connected env.link env.locked
      env.now type payload false).handler }

def processRetries (timing : TimingConfig) (device : LinkedDevice cfg σ)
    (env : RetryEnv) : LinkedDevice cfg σ :=
  { device with handler := (device.handler.processRetries timing env).1 }

/-- One command of the storage worker. -/
def storageWorker (device : LinkedDevice cfg σ) (env : StorageEnv cfg) :
    LinkedDevice cfg σ :=
  if device.history.storageWorkerRunning then
    match device.history.storageQueue with
    | [] => device
    | message :: rest =>
        let processed :=
          ({ device.history with storageQueue := rest }).processStorageCommand
            device.nvs env message.cmd
        { device with history := processed.1, nvs := processed.2 }
  else device

def stopStorageWorker (device : LinkedDevice cfg σ)
    (env : ℕ → StorageEnv cfg) : LinkedDevice cfg σ :=
  if device.history.storageWorkerRunning then
    let drained := HistoryService.drainStorage env device.history.storageQueue
      ({ device.history with storageWorkerRunning := false }, device.nvs)
    { device with history := drained.1, nvs := drained.2 }
  else device

def forceNvsSync (device : LinkedDevice cfg σ) (env : FlushEnv) :
    LinkedDevice cfg σ :=
  let flushed := device.history.flushToNvs device.nvs env
  { device with history := flushed.1, nvs := flushed.2.1 }

/-- The commit of the configuration worker. -/
def saveConfig (device : LinkedDevice cfg σ) (write : ConfigWrite) :
    LinkedDevice cfg σ :=
  let saved := device.config.saveIfDirty device.blob write
  { device with config := saved.1, blob := saved.2 }

def flushDirtyConfig (device : LinkedDevice cfg σ) (write : ConfigWrite) :
    LinkedDevice cfg σ :=
  if device.config.dirty then
    let flushed := device.config.forceFlush device.blob write
    { device with config := flushed.1, blob := flushed.2.1 }
  else device

/-- What `enterDeepSleep` saves. -/
def prepareSleep (device : LinkedDevice cfg σ) (env : SleepSaveEnv cfg) :
    Option (LinkedDevice cfg σ) :=
  let device := (device.flushDirtyConfig env.configWrite).stopStorageWorker
    env.storage
  (device.history.hasPendingData env.locked).map fun pending =>
    if pending then device.forceNvsSync env.flush else device

/-- The chunk timeout of the update manager. -/
def updateOta (ota : OtaConfig) (lib : UpdateLibrary σ Byte)
    (device : LinkedDevice cfg σ) (env : MessageEnv) : LinkedDevice cfg σ :=
  device.afterReaction
    (device.react.afterOta env (device.ota.update ota lib env.now))

/-- `setup` after any kind of reset. -/
def setup (device : LinkedDevice cfg σ) (env : SetupEnv cfg σ) :
    LinkedDevice cfg σ :=
  let config := (ConfigService.construct env.random).init device.blob
    env.config
  { handler := .construct
    history := HistoryService.boot
      (env.lostRtc.getD device.history.state)
      { resetReason := env.resetReason
        nvs := device.nvs
        stack := env.stack
        locked := env.locked
        taskOk := env.taskOk }
    nvs := device.nvs
    config := config.1
    ota := .fresh env.otaInitialized env.updater
    restarting := false
    blob := config.2.1
    lastPumpAttemptMs := 0 }

end LinkedDevice

inductive DeviceEvent (cfg : HistoryConfig) (σ : Type) where
  | logDetection (locked configLocked : Bool) (clock : ClockMicros)
      (durationMs : ℕ)
  | systemTimeSynced (locked : Bool) (millis currentEpoch : ℕ)
  | connect (locked : Bool) (now : ℕ)
  | disconnect (locked : Bool) (now : ℕ)
  | pump (locked : Bool) (now : ℕ) (link : BleLink) (env : SendEnv)
  | sendMessage (env : SendEnv) (type : MessageType) (payload : List Byte)
  | processRetries (env : RetryEnv)
  | storageWorker (env : StorageEnv cfg)
  | forceNvsSync (env : FlushEnv)
  | saveConfig (write : ConfigWrite)
  | prepareSleep (env : SleepSaveEnv cfg)
  | updateOta (env : MessageEnv)
  | setup (env : SetupEnv cfg σ)

/-- Events that may write into the ring whatever is queued. -/
def DeviceEvent.touchesRing : DeviceEvent cfg σ → Bool
  | logDetection .. => true
  | systemTimeSynced .. => true
  | setup _ => true
  | _ => false

/-- An event of the device, or a write over a link that is not encrypted. -/
inductive LinkTurn (cfg : HistoryConfig) (σ : Type) where
  | device (event : DeviceEvent cfg σ)
  | write (bonded : Bool) (data : List Byte) (env : MessageEnv)

def LinkTurn.isDevice : LinkTurn cfg σ → Bool
  | device _ => true
  | write _ _ _ => false

namespace LinkedDevice

variable (timing : TimingConfig) (ota : OtaConfig)
  (lib : UpdateLibrary σ Byte)

/-- A device that restarts does nothing more until its `setup`. -/
def happen (device : LinkedDevice cfg σ) (event : DeviceEvent cfg σ) :
    Option (LinkedDevice cfg σ) :=
  match event, device.restarting with
  | .setup env, _ => some (device.setup env)
  | _, true => some device
  | .logDetection locked configLocked clock durationMs, false =>
      device.logDetection locked configLocked clock durationMs
  | .systemTimeSynced locked millis currentEpoch, false =>
      device.systemTimeSynced locked millis currentEpoch
  | .connect locked now, false => some (device.onBLEConnect locked now)
  | .disconnect locked now, false => some (device.onBLEDisconnect locked now)
  | .pump locked now link env, false => device.pump locked now link env
  | .sendMessage env type payload, false =>
      some (device.sendMessage env type payload)
  | .processRetries env, false => some (device.processRetries timing env)
  | .storageWorker env, false => some (device.storageWorker env)
  | .forceNvsSync env, false => some (device.forceNvsSync env)
  | .saveConfig write, false => some (device.saveConfig write)
  | .prepareSleep env, false => device.prepareSleep env
  | .updateOta env, false => some (device.updateOta ota lib env)

def receive (device : LinkedDevice cfg σ) (security : LinkSecurity)
    (data : List Byte) (env : MessageEnv) : Option (LinkedDevice cfg σ) :=
  if device.restarting then some device
  else if onWrite (some security) data = .accepted then
    (device.react.processReceived env ota lib data).map device.afterReaction
  else some device

def step (device : LinkedDevice cfg σ) :
    LinkTurn cfg σ → Option (LinkedDevice cfg σ)
  | .device event => device.happen timing ota lib event
  | .write bonded data env => device.receive ota lib ⟨false, bonded⟩ data env

end LinkedDevice

end SensorFirmware
