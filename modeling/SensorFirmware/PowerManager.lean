import SensorFirmware.StorageWorker

/-!
# Going to sleep

The power manager with what it shuts down on the way to deep sleep: the
machine-learning services, the storage worker, BLE and the sensor.  A sleep
attempt is cancelled in `SLEEP_PREP`, given up in `enterDeepSleep`, or ends in
deep sleep.  LED, battery and the proximity average are left out.
-/

namespace SensorFirmware

open GuardedRun

inductive PowerState where
  | boot
  | wakeMode
  | active
  | detectionActive
  | sleepPrep
  | deepSleep
  deriving DecidableEq, Repr

structure PowerManager where
  currentState : PowerState
  previousState : PowerState
  stateEntryTime : ℕ
  sleepPrepStartTime : ℕ
  sleepDeferred : Bool
  consecutiveDetections : ℕ
  lastHitTime : ℕ
  partyModeActive : Bool
  sleepCancelCount : ℕ
  wokeFromSensor : Bool
  lastSleepCancellationTime : ℕ
  lastActivityTime : ℕ
  deriving DecidableEq, Repr

namespace PowerManager

def partyModeWindowMs : ℕ := 30000
def partyModeDetectionThreshold : ℕ := 3

/-- The part of `transitionTo` that depends on the new state. -/
def enter (power : PowerManager) (ms : ℕ) : PowerState → PowerManager
  | .wakeMode => { power with lastActivityTime := ms }
  | .active =>
      { power with
        sleepCancelCount := 0
        wokeFromSensor := false
        lastActivityTime := ms }
  | .detectionActive =>
      let consecutive :=
        if sub32 ms power.lastHitTime < partyModeWindowMs then
          u8 (power.consecutiveDetections + 1)
        else 1
      { power with
        wokeFromSensor := false
        consecutiveDetections := consecutive
        lastHitTime := ms
        partyModeActive := power.partyModeActive ||
          partyModeDetectionThreshold ≤ consecutive }
  | .sleepPrep => { power with sleepPrepStartTime := ms }
  | .deepSleep => { power with sleepCancelCount := 0 }
  | .boot => power

def transitionTo (power : PowerManager) (newState : PowerState) (ms : ℕ) :
    PowerManager :=
  if power.currentState = newState then power
  else
    let endsParty := (newState = .sleepPrep ∨ newState = .deepSleep) ∧
      power.partyModeActive = true
    { power with
        partyModeActive := power.partyModeActive && !endsParty
        consecutiveDetections :=
          if endsParty then 0 else power.consecutiveDetections
        previousState := power.currentState
        currentState := newState
        stateEntryTime := ms
        sleepDeferred := false }.enter ms newState

def requestSleep (power : PowerManager) (ms : ℕ) : PowerManager :=
  if power.currentState ≠ .sleepPrep then power.transitionTo .sleepPrep ms
  else power

def cancelSleep (power : PowerManager) (connected : Bool) (ms : ℕ) :
    PowerManager :=
  if power.currentState = .sleepPrep then
    { power with lastSleepCancellationTime := ms }.transitionTo
      (if connected then .active else .wakeMode) ms
  else power

end PowerManager

/-! ## What is shut down -/

/-- Whether each of the three services is initialised. -/
structure MlServices where
  inference : Bool
  personalization : Bool
  dataLogger : Bool
  deriving DecidableEq, Repr

def MlServices.shutdown (_ml : MlServices) : MlServices where
  inference := false
  personalization := false
  dataLogger := false

structure BleRadio where
  initialized : Bool
  deviceConnected : Bool
  advertising : Bool
  deriving DecidableEq, Repr

def BleRadio.startAdvertising (ble : BleRadio) : BleRadio :=
  if ble.initialized && !ble.deviceConnected then
    { ble with advertising := true }
  else ble

def BleRadio.stopAdvertising (ble : BleRadio) : BleRadio :=
  if ble.initialized then { ble with advertising := false } else ble

structure SensorRegisters where
  conf1 : BitVec 16
  conf3 : BitVec 16
  highThreshold : ℕ
  lowThreshold : ℕ
  deriving DecidableEq, Repr

structure Sensor where
  initialized : Bool
  registers : SensorRegisters
  deriving DecidableEq, Repr

/-- The register values of `configureForDeepSleep`, and the bits that it
checks. -/
structure SleepRegisters where
  shutdownBit : BitVec 16
  interruptBit : BitVec 16
  activeForceBit : BitVec 16
  conf1 : BitVec 16
  conf3 : BitVec 16
  minThreshold : ℕ

/-- Which operations on the bus succeed in one attempt, in their order. -/
structure BusAttempt where
  readConf1 : Bool
  writeShutdown : Bool
  writeHighThreshold : Bool
  writeLowThreshold : Bool
  writeConf3 : Bool
  writeConf1 : Bool
  readBack : Bool
  deriving DecidableEq, Repr

/-- The threshold's formula is not in the repository; what stands there is
zero, raised to the minimum. -/
def SleepRegisters.threshold (cfg : SleepRegisters) : ℕ := cfg.minThreshold

def SensorRegisters.sleepAttempt (cfg : SleepRegisters)
    (registers : SensorRegisters) (bus : BusAttempt) :
    SensorRegisters × Bool :=
  if !bus.readConf1 || !bus.writeShutdown then (registers, false)
  else
    let registers := { registers with
      conf1 := registers.conf1 ||| cfg.shutdownBit }
    if !bus.writeHighThreshold then (registers, false)
    else
      let registers := { registers with highThreshold := cfg.threshold }
      if !bus.writeLowThreshold then (registers, false)
      else
        let registers := { registers with lowThreshold := 0 }
        if !bus.writeConf3 then (registers, false)
        else
          let registers := { registers with conf3 := cfg.conf3 }
          if !bus.writeConf1 then (registers, false)
          else
            let registers := { registers with conf1 := cfg.conf1 }
            (registers, bus.readBack &&
              registers.conf1 &&& cfg.shutdownBit == 0 &&
              registers.conf1 &&& cfg.interruptBit != 0 &&
              registers.conf1 &&& cfg.activeForceBit == 0)

/-- Attempts until one succeeds; the source makes three. -/
def Sensor.configureForDeepSleep (cfg : SleepRegisters) (sensor : Sensor) :
    List BusAttempt → Sensor
  | [] => sensor
  | bus :: rest =>
      if !sensor.initialized then sensor
      else
        let attempt := sensor.registers.sleepAttempt cfg bus
        let sensor := { sensor with registers := attempt.1 }
        if attempt.2 then sensor else sensor.configureForDeepSleep cfg rest

structure PowerDevice where
  power : PowerManager
  ml : MlServices
  ble : BleRadio
  sensor : Sensor
  storage : StorageTasks
  deriving DecidableEq, Repr

/-- The steps that other tasks take meanwhile. -/
def StorageEvent.concurrent : StorageEvent → Bool
  | .start _ => false
  | .stop => false
  | _ => true

structure Interleaving where
  events : List StorageEvent
  concurrent : ∀ event ∈ events, event.concurrent = true

/-- What `enterDeepSleep` meets: the steps of the tasks until
`stopStorageWorker` has returned, whether the disconnect callback comes after
the delay, and the readings that decide on the sleep. -/
structure SleepEnv where
  ms : ℕ
  shutdown : Interleaving
  disconnectLate : Bool
  bus : List BusAttempt
  proximityElevated : Bool
  wakePinLow : Bool

namespace PowerDevice

def runStorage (depth : ℕ) (device : PowerDevice)
    (meanwhile : Interleaving) : PowerDevice :=
  { device with
    storage := run (StorageTasks.step depth) device.storage
      meanwhile.events }

/-- `onSleepCommandReceived`. -/
def sleepCommand (device : PowerDevice) (ms : ℕ) : PowerDevice :=
  { device with
    ml := device.ml.shutdown
    power := device.power.requestSleep ms }

def onDisconnect (device : PowerDevice) (ms : ℕ) : PowerDevice :=
  let ble := { device.ble with deviceConnected := false }
  let power :=
    if device.power.currentState ≠ .sleepPrep then
      device.power.transitionTo .wakeMode ms
    else device.power
  { device with ble := ble.startAdvertising, power := power }

def shutdownBle (device : PowerDevice) (env : SleepEnv) : PowerDevice :=
  let device :=
    if device.ble.initialized && device.ble.deviceConnected &&
        !env.disconnectLate then
      device.onDisconnect env.ms
    else device
  { device with ble := device.ble.stopAdvertising }

def giveUp (device : PowerDevice) (env : SleepEnv) (state : PowerState) :
    PowerDevice :=
  { device with power :=
    { device.power.transitionTo state env.ms with
      lastActivityTime := env.ms } }

def lateDisconnect (device : PowerDevice) (env : SleepEnv) : PowerDevice :=
  if device.ble.initialized && device.ble.deviceConnected &&
      env.disconnectLate then
    device.onDisconnect env.ms
  else device

/-- The device afterwards, and whether the sleep was given up.  There is no
result while the storage shutdown has not returned. -/
def enterDeepSleep (cfg : SleepRegisters) (depth : ℕ)
    (device : PowerDevice) (env : SleepEnv) :
    Option (PowerDevice × Bool) :=
  let device := { device with ml := device.ml.shutdown }
  let device := { device with
    storage := device.storage.step depth .stop }.runStorage depth env.shutdown
  if device.storage.stopper ≠ .returned then none
  else
    let device := device.shutdownBle env
    let device := { device with
      sensor := device.sensor.configureForDeepSleep cfg (env.bus.take 3) }
    if env.proximityElevated then
      some ((device.giveUp env .wakeMode).lateDisconnect env, true)
    else if env.wakePinLow then
      some ((device.giveUp env .detectionActive).lateDisconnect env, true)
    else some (device, false)

end PowerDevice

/-! ## Attempts -/

inductive SleepEnding where
  | cancelled (ms : ℕ)
  | entered (env : SleepEnv)

/-- One way to deep sleep, begun by a sleep command or by an idle timeout. -/
structure SleepAttempt where
  commanded : Bool
  ms : ℕ
  meanwhile : Interleaving
  ending : SleepEnding

namespace PowerDevice

/-- The device in `SLEEP_PREP`, after some steps of the storage tasks. -/
def prepare (depth : ℕ) (device : PowerDevice) (attempt : SleepAttempt) :
    PowerDevice :=
  (if attempt.commanded then device.sleepCommand attempt.ms
    else { device with
      power := device.power.requestSleep attempt.ms }).runStorage depth
        attempt.meanwhile

/-- The device after the attempt, and whether it is awake. -/
def attemptSleep (cfg : SleepRegisters) (depth : ℕ) (device : PowerDevice)
    (attempt : SleepAttempt) : Option (PowerDevice × Bool) :=
  let prepared := device.prepare depth attempt
  match attempt.ending with
  | .cancelled ms =>
      some ({ prepared with
        power := prepared.power.cancelSleep prepared.ble.deviceConnected
          ms }, true)
  | .entered env =>
      { prepared with
        power := prepared.power.transitionTo .deepSleep
          env.ms }.enterDeepSleep cfg depth env

end PowerDevice

end SensorFirmware
