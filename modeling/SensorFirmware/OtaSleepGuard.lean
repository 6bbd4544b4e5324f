import SensorFirmware.OtaCommitIntegrity
import SensorFirmware.PowerUpdate

/-!
# Deep sleep during a transfer

The idle timeouts and requests all end in `SLEEP_PREP`, which waits while an
update is in progress.  A forced sleep does not: it passes over the check, by
the count of cancelled sleeps or by the time without a connection.
-/

namespace SensorFirmware

open GuardedRun

namespace PoweredDevice

variable {σ : Type*}

/-- The periodic update finds a forced sleep due in `SLEEP_PREP` while an image
is received. -/
def forcedInTransfer (timing : PowerTiming) (device : PoweredDevice σ)
    (input : PowerInput) : Bool :=
  (input.event matches .update _) && !device.halted &&
    device.ota.manager.isInProgress &&
    device.power.currentState == .sleepPrep &&
    device.power.shouldForceSleep timing device.connected (u32 input.ms)

def Unforced (timing : PowerTiming) (device : PoweredDevice σ)
    (input : PowerInput) : Prop :=
  device.forcedInTransfer timing input = false

instance (timing : PowerTiming) (device : PoweredDevice σ)
    (input : PowerInput) : Decidable (device.Unforced timing input) :=
  inferInstanceAs (Decidable (_ = _))

@[simp] theorem onBleDisconnect_slept (device : PoweredDevice σ) (ms : ℕ) :
    (device.onBleDisconnect ms).sleptInTransfer = device.sleptInTransfer :=
  rfl

@[simp] theorem enterDeepSleep_slept (device : PoweredDevice σ) (ms : ℕ)
    (env : SleepTry) :
    (device.enterDeepSleep ms env).sleptInTransfer =
      (device.sleptInTransfer || device.ota.manager.isInProgress) := by
  unfold enterDeepSleep
  by_cases hseen : (device.connected && env.disconnectSeen) = true
  · cases env.outcome <;> simp [hseen]
  · cases env.outcome <;> simp [hseen]

theorem canSafelyEnterSleep_inProgress (pendingCount : ℕ) :
    PowerManager.canSafelyEnterSleep pendingCount true = false := by
  unfold PowerManager.canSafelyEnterSleep
  by_cases hpending : 0 < pendingCount <;> simp [hpending]

/-- Without a transfer a sleep is no fault, and in one the check refuses, so
that only a forced sleep goes on. -/
theorem updateSleepPrep_slept (timing : PowerTiming)
    (device : PoweredDevice σ) (ms : ℕ) (env : UpdateEnv) :
    (device.updateSleepPrep timing ms env).sleptInTransfer =
      (device.sleptInTransfer || device.ota.manager.isInProgress &&
        device.power.shouldForceSleep timing device.connected ms) := by
  unfold updateSleepPrep
  cases hforce : device.power.shouldForceSleep timing device.connected ms with
  | true => simp [hforce]
  | false =>
      cases hota : device.ota.manager.isInProgress with
      | true =>
          simp only [hforce, canSafelyEnterSleep_inProgress]
          split <;> simp
      | false =>
          simp only [hforce]
          split
          · split <;> simp [hota]
          · simp

theorem update_slept (timing : PowerTiming) (device : PoweredDevice σ)
    (ms : ℕ) (env : UpdateEnv) :
    (device.update timing ms env).sleptInTransfer =
      (device.sleptInTransfer || device.ota.manager.isInProgress &&
        device.power.currentState == .sleepPrep &&
        device.power.shouldForceSleep timing device.connected ms) := by
  unfold update
  cases hstate : device.power.currentState with
  | sleepPrep => simp [updateSleepPrep_slept]
  | boot | wakeMode | active | detectionActive | deepSleep => simp

@[simp] theorem receive_slept (cfg : OtaConfig) (lib : UpdateLibrary σ Byte)
    (device : PoweredDevice σ) (ms : ℕ) (message : AppMessage) :
    (device.receive cfg lib ms message).sleptInTransfer =
      device.sleptInTransfer := by
  cases message <;> rfl

@[simp] theorem checkHeartbeatTimeout_slept (timing : PowerTiming)
    (device : PoweredDevice σ) (ms : ℕ) (detecting : Bool)
    (bondCount : ℕ) :
    (device.checkHeartbeatTimeout timing ms detecting
      bondCount).sleptInTransfer = device.sleptInTransfer := by
  unfold checkHeartbeatTimeout
  split <;> rfl

/-- A deep sleep in a transfer begins in a forced sleep and nowhere else. -/
theorem step_slept (cfg : OtaConfig) (lib : UpdateLibrary σ Byte)
    (timing : PowerTiming) (device : PoweredDevice σ) (input : PowerInput) :
    (device.step cfg lib timing input).sleptInTransfer =
      (device.sleptInTransfer || device.forcedInTransfer timing input) := by
  unfold step
  cases hhalted : device.halted with
  | true => simp [forcedInTransfer, hhalted]
  | false =>
      cases hevent : input.event with
      | update env => simp [forcedInTransfer, hhalted, hevent, update_slept]
      | received message => simp [forcedInTransfer, hevent]
      | checkHeartbeatTimeout detecting bondCount =>
          simp [forcedInTransfer, hevent]
      | setupDone => simp [forcedInTransfer, hevent]
      | bleConnect => simp [forcedInTransfer, hevent, onBleConnect]
      | bleDisconnect => simp [forcedInTransfer, hevent]
      | sensor pass => simp [forcedInTransfer, hevent, sensorPass]
      | otaUpdate => simp [forcedInTransfer, hevent]

/-- Over every run, `enterDeepSleep` is called during a transfer exactly if a
forced sleep falls due in one. -/
theorem awake_in_transfers_iff (cfg : OtaConfig) (lib : UpdateLibrary σ Byte)
    (timing : PowerTiming) (updater : σ) (sensorWake : Bool) (ms : ℕ)
    (inputs : List PowerInput) :
    (run (step cfg lib timing) (setup updater sensorWake ms)
        inputs).sleptInTransfer = false ↔
      Guarded (step cfg lib timing)
        (fun device input => device.Unforced timing input)
        (setup updater sensorWake ms) inputs := by
  have hgood : ∀ (device : PoweredDevice σ) (input : PowerInput), True →
      ((device.step cfg lib timing input).sleptInTransfer = false ↔
        device.sleptInTransfer = false ∧ device.Unforced timing input) := by
    intro device input _
    rw [step_slept, Bool.or_eq_false_iff]
    exact Iff.rfl
  have hrun := @run_iff_guarded _ _ (step cfg lib timing) _ (fun _ => True)
    (fun device => device.sleptInTransfer = false)
    (fun _ _ _ => trivial) hgood (setup updater sensorWake ms) trivial inputs
  rw [hrun]
  exact and_iff_right rfl

/-! ## Forced sleeps -/

def benchPower : PowerTiming where
  sleepPrepTimeMs := 5000
  forceSleepTimeoutMs := 20000
  maxSleepCancelCount := 3
  disconnectedSleepTimeoutMs := 60000
  sensorWakeBondedTimeoutMs := 45000
  sensorWakeQuickSleepTimeoutMs := 30000
  connectedIdleTimeoutMs := 60000
  sleepRerequestDebounceMs := 10000
  heartbeatTimeoutMs := 7200000

def calmUpdate : UpdateEnv where
  pendingCount := 0
  bondCount := 1
  flushing := false
  sleep := ⟨true, .asleep⟩

def startsImage : AppMessage :=
  .ota (.start (leBytes 4 3 ++ leBytes 4 0x55BC801D ++ leBytes 3 0x010702 ++
    leBytes 2 2 ++ [0]) (some 1310720) 3000)

/-- The app begins an update and asks for sleep, and the connection is lost. -/
def lostConnection : List PowerInput :=
  [⟨1000, .setupDone⟩, ⟨2000, .bleConnect⟩, ⟨3000, .received startsImage⟩,
    ⟨4000, .received .sleep⟩, ⟨9000, .update calmUpdate⟩,
    ⟨10000, .bleDisconnect⟩, ⟨24000, .otaUpdate⟩, ⟨24000, .update calmUpdate⟩]

/-- Hits begin in `SLEEP_PREP`, and the app asks for sleep again. -/
def repeatedHits : List PowerInput :=
  let hit : SensorPass := ⟨some .detectionActive, none, true⟩
  [⟨1000, .setupDone⟩, ⟨2000, .bleConnect⟩, ⟨3000, .received startsImage⟩,
    ⟨4000, .received .sleep⟩, ⟨4020, .sensor hit⟩,
    ⟨4100, .received .sleep⟩, ⟨4120, .sensor hit⟩,
    ⟨4200, .received .sleep⟩, ⟨4220, .sensor hit⟩,
    ⟨4300, .received .sleep⟩, ⟨4310, .update calmUpdate⟩]

def benchRun (inputs : List PowerInput) :
    PoweredDevice (UpdateLibrary.WornFlash Byte) :=
  run (step Ota.benchOta (UpdateLibrary.wornFlash Byte) benchPower)
    (setup ⟨0, [], 100, false⟩ false 500) inputs

/-- Both runs end asleep in the middle of the image. -/
theorem sleeps_in_transfer :
    (benchRun lostConnection).sleptInTransfer = true ∧
      (benchRun lostConnection).asleep = true ∧
      (benchRun lostConnection).ota.manager.state = .receiving ∧
      (benchRun repeatedHits).sleptInTransfer = true ∧
      (benchRun repeatedHits).ota.manager.state = .receiving := by
  decide +kernel

end PoweredDevice

end SensorFirmware
