import SensorFirmware.OtaManager
import SensorFirmware.PowerManager

/-!
# The power manager over its loop

What decides on deep sleep: the periodic update, the sensor task and the
callbacks of the connection, beside the update manager whose transfer the
sleep must wait for.  The times of `Config.h` are a parameter.  The detection
algorithm is not in the repository and LED, battery and the proximity average
are left out: a pass of the sensor task says where detection moved the state
and whether the reading was above the threshold.
-/

namespace SensorFirmware

structure PowerTiming where
  sleepPrepTimeMs : ℕ
  forceSleepTimeoutMs : ℕ
  maxSleepCancelCount : ℕ
  disconnectedSleepTimeoutMs : ℕ
  sensorWakeBondedTimeoutMs : ℕ
  sensorWakeQuickSleepTimeoutMs : ℕ
  connectedIdleTimeoutMs : ℕ
  sleepRerequestDebounceMs : ℕ
  heartbeatTimeoutMs : ℕ
  deriving DecidableEq, Repr

/-- The states that detection and its watchdog move to. -/
inductive AwakeState where
  | wakeMode
  | active
  | detectionActive
  deriving DecidableEq, Repr

def AwakeState.powerState : AwakeState → PowerState
  | wakeMode => .wakeMode
  | active => .active
  | detectionActive => .detectionActive

namespace PowerManager

/-- The constructed manager after `init`. -/
def init (sensorWake : Bool) (ms : ℕ) : PowerManager where
  currentState := .boot
  previousState := .boot
  stateEntryTime := ms
  sleepPrepStartTime := 0
  sleepDeferred := false
  consecutiveDetections := 0
  lastHitTime := 0
  partyModeActive := false
  sleepCancelCount := 0
  wokeFromSensor := sensorWake
  lastSleepCancellationTime := 0
  lastActivityTime := 0

def getTimeInState (power : PowerManager) (ms : ℕ) : ℕ :=
  sub32 ms power.stateEntryTime

def getSleepPrepRemaining (timing : PowerTiming) (power : PowerManager)
    (ms : ℕ) : ℕ :=
  if power.currentState ≠ .sleepPrep then 0
  else
    let elapsed := sub32 ms power.sleepPrepStartTime
    if timing.sleepPrepTimeMs ≤ elapsed then 0
    else timing.sleepPrepTimeMs - elapsed

def shouldForceSleep (timing : PowerTiming) (power : PowerManager)
    (connected : Bool) (ms : ℕ) : Bool :=
  if timing.maxSleepCancelCount ≤ power.sleepCancelCount then true
  else if power.currentState = .wakeMode ∨ power.currentState = .sleepPrep then
    !connected && decide (timing.forceSleepTimeoutMs ≤ power.getTimeInState ms)
  else false

/-- The manager, and whether the limit is reached. -/
def incrementSleepCancelCount (timing : PowerTiming) (power : PowerManager) :
    PowerManager × Bool :=
  let count := u8 (power.sleepCancelCount + 1)
  ({ power with sleepCancelCount := count },
    timing.maxSleepCancelCount ≤ count)

def canSafelyEnterSleep (pendingCount : ℕ) (otaInProgress : Bool) : Bool :=
  let blockReasons : ℕ :=
    (if 0 < pendingCount then 0x01 else 0) |||
      (if otaInProgress then 0x02 else 0)
  blockReasons == 0

def idleTimeout (timing : PowerTiming) (power : PowerManager)
    (bondCount : ℕ) : ℕ :=
  if power.wokeFromSensor then
    if 0 < bondCount then timing.sensorWakeBondedTimeoutMs
    else timing.sensorWakeQuickSleepTimeoutMs
  else timing.disconnectedSleepTimeoutMs

def checkIdleTimeout (timing : PowerTiming) (power : PowerManager)
    (connected : Bool) (bondCount ms : ℕ) : PowerManager :=
  if power.currentState ≠ .wakeMode then power
  else if connected then power
  else if sub32 ms power.lastSleepCancellationTime <
      timing.sleepRerequestDebounceMs then power
  else if power.idleTimeout timing bondCount ≤
      sub32 ms power.lastActivityTime then power.requestSleep ms
  else power

def notifyActivity (power : PowerManager) (connected : Bool) (ms : ℕ) :
    PowerManager :=
  let power := { power with lastActivityTime := ms }
  if power.currentState = .sleepPrep then power.cancelSleep connected ms
  else power

def moveTo (power : PowerManager) (ms : ℕ) :
    Option AwakeState → PowerManager
  | none => power
  | some state => power.transitionTo state.powerState ms

/-- What the sensor task does in `SLEEP_PREP`. -/
def cancelOnActivity (timing : PowerTiming) (power : PowerManager)
    (connected elevated : Bool) (ms : ℕ) : PowerManager :=
  if power.shouldForceSleep timing connected ms then power
  else if elevated then
    let counted := power.incrementSleepCancelCount timing
    if counted.2 then counted.1 else counted.1.cancelSleep connected ms
  else power

end PowerManager

def OtaManager.isInProgress (manager : OtaManager) : Bool :=
  manager.state == .receiving

/-! ## The device -/

/-- The device once every link of the power manager is set.  `sleptInTransfer`
says that `enterDeepSleep` was called while an update was in progress. -/
structure PoweredDevice (σ : Type*) where
  power : PowerManager
  connected : Bool
  lastHeartbeatReceived : ℕ
  ota : Ota σ
  asleep : Bool
  sleptInTransfer : Bool

/-- How a call of `enterDeepSleep` ends. -/
inductive SleepOutcome where
  | proximityElevated
  | wakePinLow
  | asleep
  deriving DecidableEq, Repr

/-- What a call of `enterDeepSleep` meets: whether the callback of the
disconnect comes before it ends, and its ending. -/
structure SleepTry where
  disconnectSeen : Bool
  outcome : SleepOutcome
  deriving DecidableEq, Repr

/-- What `update` reads of the other services. -/
structure UpdateEnv where
  pendingCount : ℕ
  bondCount : ℕ
  flushing : Bool
  sleep : SleepTry
  deriving DecidableEq, Repr

/-- One pass of the sensor task after the warm-up. -/
structure SensorPass where
  detection : Option AwakeState
  recovery : Option AwakeState
  elevated : Bool
  deriving DecidableEq, Repr

/-- A received message by what it asks of the power or the update manager. -/
inductive AppMessage where
  | rejected
  | heartbeatOrAck
  | sleep
  | ota (call : Ota.Call)
  | other
  deriving DecidableEq, Repr

inductive PowerEvent where
  | setupDone
  | bleConnect
  | bleDisconnect
  | received (message : AppMessage)
  | sensor (pass : SensorPass)
  | update (env : UpdateEnv)
  | otaUpdate
  | checkHeartbeatTimeout (detecting : Bool) (bondCount : ℕ)
  deriving DecidableEq, Repr

/-- An event and the time it happens at. -/
structure PowerInput where
  ms : ℕ
  event : PowerEvent
  deriving DecidableEq, Repr

namespace PoweredDevice

variable {σ : Type*}

def setup (updater : σ) (sensorWake : Bool) (ms : ℕ) :
    PoweredDevice σ where
  power := .init sensorWake ms
  connected := false
  lastHeartbeatReceived := ms
  ota := .fresh true updater
  asleep := false
  sleptInTransfer := false

def onBleConnect (device : PoweredDevice σ) (ms : ℕ) : PoweredDevice σ :=
  { device with
    connected := true
    lastHeartbeatReceived := ms
    power := device.power.transitionTo .active ms }

def onBleDisconnect (device : PoweredDevice σ) (ms : ℕ) :
    PoweredDevice σ :=
  { device with
    connected := false
    power :=
      if device.power.currentState ≠ .sleepPrep then
        device.power.transitionTo .wakeMode ms
      else device.power }

def enterDeepSleep (device : PoweredDevice σ) (ms : ℕ) (env : SleepTry) :
    PoweredDevice σ :=
  let device := { device with
    sleptInTransfer :=
      device.sleptInTransfer || device.ota.manager.isInProgress }
  let device :=
    if device.connected && env.disconnectSeen then device.onBleDisconnect ms
    else device
  match env.outcome with
  | .proximityElevated => { device with power :=
      { device.power.transitionTo .wakeMode ms with lastActivityTime := ms } }
  | .wakePinLow => { device with power :=
      { device.power.transitionTo .detectionActive ms with
        lastActivityTime := ms } }
  | .asleep => { device with asleep := true }

def updateActive (timing : PowerTiming) (device : PoweredDevice σ)
    (ms : ℕ) (env : UpdateEnv) : PowerManager :=
  let power := device.power
  if device.ota.manager.isInProgress then
    { power with lastActivityTime := ms }
  else if env.flushing then { power with lastActivityTime := ms }
  else if 0 < power.lastActivityTime ∧
      timing.connectedIdleTimeoutMs ≤ sub32 ms power.lastActivityTime then
    power.requestSleep ms
  else power

def updateSleepPrep (timing : PowerTiming) (device : PoweredDevice σ)
    (ms : ℕ) (env : UpdateEnv) : PoweredDevice σ :=
  let power := device.power
  let forcesSleepReady := power.shouldForceSleep timing device.connected ms
  if power.getSleepPrepRemaining timing ms = 0 ∨ forcesSleepReady = true then
    let canSleepNow := PowerManager.canSafelyEnterSleep env.pendingCount
      device.ota.manager.isInProgress
    if canSleepNow || forcesSleepReady then
      { device with
        power := power.transitionTo .deepSleep ms }.enterDeepSleep ms env.sleep
    else { device with power :=
      { power with sleepDeferred := true, sleepPrepStartTime := ms } }
  else device

def update (timing : PowerTiming) (device : PoweredDevice σ) (ms : ℕ)
    (env : UpdateEnv) : PoweredDevice σ :=
  match device.power.currentState with
  | .wakeMode => { device with power :=
      device.power.checkIdleTimeout timing device.connected env.bondCount ms }
  | .active => { device with power := device.updateActive timing ms env }
  | .sleepPrep => device.updateSleepPrep timing ms env
  | .boot | .detectionActive | .deepSleep => device

/-- The task reads the state before detection, which may move on. -/
def sensorPass (timing : PowerTiming) (device : PoweredDevice σ) (ms : ℕ)
    (pass : SensorPass) : PoweredDevice σ :=
  let power :=
    if device.power.currentState = .wakeMode ∧ device.connected = true then
      device.power.transitionTo .active ms
    else device.power
  let state := power.currentState
  let power :=
    if state = .active ∨ state = .detectionActive ∨ state = .wakeMode ∨
        state = .sleepPrep then power.moveTo ms pass.detection
    else power
  let power :=
    if state = .detectionActive then power.moveTo ms pass.recovery
    else power
  { device with power :=
    if state = .sleepPrep then
      power.cancelOnActivity timing device.connected pass.elevated ms
    else power }

def notifyActivity (device : PoweredDevice σ) (ms : ℕ) : PoweredDevice σ :=
  { device with power := device.power.notifyActivity device.connected ms }

def receive (cfg : OtaConfig) (lib : UpdateLibrary σ Byte)
    (device : PoweredDevice σ) (ms : ℕ) (message : AppMessage) :
    PoweredDevice σ :=
  let device := { device with lastHeartbeatReceived := ms }
  match message with
  | .rejected | .heartbeatOrAck => device
  | .other => device.notifyActivity ms
  | .sleep =>
      let device := device.notifyActivity ms
      { device with power := device.power.requestSleep ms }
  | .ota call =>
      let device := device.notifyActivity ms
      { device with ota := device.ota.step cfg lib call }

/-- The loop makes this check in `ACTIVE`. -/
def checkHeartbeatTimeout (timing : PowerTiming) (device : PoweredDevice σ)
    (ms : ℕ) (detecting : Bool) (bondCount : ℕ) : PoweredDevice σ :=
  if device.power.currentState = .active ∧ device.connected = true ∧
      detecting = false ∧ bondCount = 0 ∧
      timing.heartbeatTimeoutMs < sub32 ms device.lastHeartbeatReceived then
    { device with power := device.power.requestSleep ms }
  else device

/-- A deep sleep or a restart has begun. -/
def halted (device : PoweredDevice σ) : Bool :=
  device.asleep || device.ota.restarted

def step (cfg : OtaConfig) (lib : UpdateLibrary σ Byte)
    (timing : PowerTiming) (device : PoweredDevice σ) (input : PowerInput) :
    PoweredDevice σ :=
  let ms := u32 input.ms
  if device.halted then device
  else
    match input.event with
    | .setupDone =>
        { device with power := device.power.transitionTo .wakeMode ms }
    | .bleConnect => device.onBleConnect ms
    | .bleDisconnect => device.onBleDisconnect ms
    | .received message => device.receive cfg lib ms message
    | .sensor pass => device.sensorPass timing ms pass
    | .update env => device.update timing ms env
    | .otaUpdate =>
        { device with ota := device.ota.step cfg lib (.update ms) }
    | .checkHeartbeatTimeout detecting bondCount =>
        device.checkHeartbeatTimeout timing ms detecting bondCount

end PoweredDevice

end SensorFirmware
