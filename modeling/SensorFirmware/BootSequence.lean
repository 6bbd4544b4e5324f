import Mathlib.Tactic

/-!
# The boot sequence

One boot runs the crash recovery check, loads the boot recovery counter and
then either enters the flasher or goes on to the application.  Four words in
uninitialised RTC memory and one counter in NVS carry state from boot to
boot.
-/

namespace SensorFirmware

inductive EspResetReason where
  | unknown
  | powerOn
  | ext
  | sw
  | panic
  | intWdt
  | taskWdt
  | wdt
  | deepSleep
  | brownout
  | sdio
  deriving DecidableEq, Repr

inductive OtaImgState where
  | new
  | pendingVerify
  | valid
  | invalid
  | aborted
  | undefined
  deriving DecidableEq, Repr

/-- The constants of `BootConfig`. -/
structure BootConfig where
  rtcMagicKey : UInt32
  modeNormal : UInt32
  modeFlasher : UInt32
  recoveryTriggerCount : UInt32
  stabilityWindowMs : UInt32
  deriving DecidableEq, Repr

/-- The words marked `RTC_NOINIT_ATTR`. -/
structure RtcNoInit where
  crashCounter : UInt32
  rtcMagic : UInt32
  bootMode : UInt32
  stabilityCounter : UInt32
  deriving DecidableEq, Repr

/-- What one boot meets: `otaState` is absent where there is no running
partition or its state cannot be read, and `powerLoss` is what the RTC memory
holds after its supply was gone. -/
structure BootReset where
  reason : EspResetReason
  otaState : Option OtaImgState
  powerLoss : Option RtcNoInit
  eraseOk : Bool
  nvsInitOk : Bool
  nvsOpenOk : Bool
  nvsGetOk : Bool
  incrementOk : Bool
  resetOk : Bool
  rtc_retained : powerLoss.isSome → reason = .powerOn ∨ reason = .brownout
  deriving DecidableEq, Repr

def EspResetReason.isColdBoot (reason : EspResetReason) : Bool :=
  reason == .powerOn || reason == .brownout

def EspResetReason.wasCrashReset (reason : EspResetReason) : Bool :=
  reason == .panic || reason == .intWdt || reason == .taskWdt ||
    reason == .wdt

/-! ## The crash recovery check -/

def crashRecoveryThreshold : UInt32 := 3

def countCrash (crashCounter : UInt32) (reason : EspResetReason) : UInt32 :=
  if reason.wasCrashReset then crashCounter + 1 else crashCounter

/-- The crash counter afterwards, and the outcome of `nvs_flash_erase` where
it was called. -/
def performCrashRecoveryCheck (crashCounter : UInt32) (boot : BootReset) :
    UInt32 × Option Bool :=
  if boot.otaState = some .pendingVerify then (crashCounter, none)
  else if boot.reason.isColdBoot then (0, none)
  else
    let counted := countCrash crashCounter boot.reason
    if crashRecoveryThreshold ≤ counted then
      if boot.eraseOk then (0, some true) else (counted, some false)
    else (counted, none)

/-! ## The boot recovery tracker -/

structure BootRecoveryTracker where
  initialized : Bool
  available : Bool
  counter : UInt32
  deriving DecidableEq, Repr

namespace BootRecoveryTracker

def construct : BootRecoveryTracker := ⟨false, false, 0⟩

/-- A key that is not found counts as zero. -/
def init (tracker : BootRecoveryTracker) (nvsCounter : Option UInt32)
    (boot : BootReset) : BootRecoveryTracker :=
  if tracker.initialized then tracker
  else if boot.nvsInitOk && boot.nvsOpenOk && boot.nvsGetOk then
    { initialized := true, available := true, counter := nvsCounter.getD 0 }
  else { tracker with initialized := true }

def shouldIncrement (reason : EspResetReason) : Bool :=
  reason == .powerOn || reason == .sw

def persistCounter (tracker : BootRecoveryTracker)
    (nvsCounter : Option UInt32) (writeOk : Bool) : Option UInt32 :=
  if tracker.available && writeOk then some tracker.counter else nvsCounter

def incrementIfEligible (tracker : BootRecoveryTracker)
    (reason : EspResetReason) (nvsCounter : Option UInt32) (writeOk : Bool) :
    BootRecoveryTracker × Option UInt32 :=
  if tracker.available && shouldIncrement reason then
    let counted := { tracker with counter := tracker.counter + 1 }
    (counted, counted.persistCounter nvsCounter writeOk)
  else (tracker, nvsCounter)

def resetCounter (tracker : BootRecoveryTracker)
    (nvsCounter : Option UInt32) (writeOk : Bool) :
    BootRecoveryTracker × Option UInt32 :=
  if tracker.available = false then ({ tracker with counter := 0 }, nvsCounter)
  else if tracker.counter = 0 then (tracker, nvsCounter)
  else
    let cleared := { tracker with counter := 0 }
    (cleared, cleared.persistCounter nvsCounter writeOk)

end BootRecoveryTracker

/-! ## The device -/

inductive BootPhase where
  | stopped
  | application
  | flasher
  deriving DecidableEq, Repr

structure BootDevice where
  rtc : RtcNoInit
  nvsCounter : Option UInt32
  tracker : BootRecoveryTracker
  phase : BootPhase
  deriving DecidableEq, Repr

inductive FlasherEntry where
  | appRequested
  | recoveryTrigger
  deriving DecidableEq, Repr

namespace BootDevice

def setStabilityCounter (device : BootDevice) (value : UInt32) : BootDevice :=
  { device with rtc := { device.rtc with stabilityCounter := value } }

def resetCounter (device : BootDevice) (writeOk : Bool) : BootDevice :=
  let reset := device.tracker.resetCounter device.nvsCounter writeOk
  { device with tracker := reset.1, nvsCounter := reset.2 }

/-- Static objects are constructed anew; the RTC memory is kept unless its
supply was gone. -/
def powerUp (device : BootDevice) (boot : BootReset) : BootDevice :=
  { device with
    rtc := boot.powerLoss.getD device.rtc
    tracker := .construct
    phase := .application }

def crashRecovery (device : BootDevice) (boot : BootReset) :
    BootDevice × Option Bool :=
  let check := performCrashRecoveryCheck device.rtc.crashCounter boot
  ({ device with
      rtc := { device.rtc with crashCounter := check.1 }
      nvsCounter :=
        if check.2 = some true then none else device.nvsCounter },
    check.2)

def initTracker (device : BootDevice) (boot : BootReset) : BootDevice :=
  { device with tracker := device.tracker.init device.nvsCounter boot }

def initBootState (cfg : BootConfig) (device : BootDevice) : BootDevice :=
  if device.rtc.rtcMagic = cfg.rtcMagicKey then device
  else
    { device with
      rtc := { device.rtc with
        rtcMagic := cfg.rtcMagicKey
        bootMode := cfg.modeNormal
        stabilityCounter :=
          if device.tracker.available then device.tracker.counter else 0 } }

def countBoot (device : BootDevice) (boot : BootReset) : BootDevice :=
  if boot.reason = .powerOn ∨ boot.reason = .sw then
    if device.tracker.available then
      let counted := device.tracker.incrementIfEligible boot.reason
        device.nvsCounter boot.incrementOk
      { device with tracker := counted.1, nvsCounter := counted.2 }
        |>.setStabilityCounter counted.1.counter
    else device.setStabilityCounter (device.rtc.stabilityCounter + 1)
  else device

def takeRequest (cfg : BootConfig) (device : BootDevice) :
    BootDevice × Bool :=
  if device.rtc.bootMode = cfg.modeFlasher then
    ({ device with rtc := { device.rtc with bootMode := cfg.modeNormal } },
      true)
  else (device, false)

def takeTrigger (cfg : BootConfig) (device : BootDevice) (resetOk : Bool) :
    BootDevice × Bool :=
  if cfg.recoveryTriggerCount ≤ device.rtc.stabilityCounter then
    ((device.setStabilityCounter 0).resetCounter resetOk, true)
  else (device, false)

/-- The trigger overwrites the reason of a request. -/
def checkEntry (cfg : BootConfig) (device : BootDevice) (resetOk : Bool) :
    BootDevice × Option FlasherEntry :=
  let request := device.takeRequest cfg
  let trigger := request.1.takeTrigger cfg resetOk
  let entry : Option FlasherEntry :=
    if trigger.2 then some .recoveryTrigger
    else if request.2 then some .appRequested
    else none
  if entry.isSome then
    ({ trigger.1.resetCounter resetOk with phase := .flasher }, entry)
  else (trigger.1, none)

theorem checkEntry_rtc (cfg : BootConfig) (device : BootDevice)
    (resetOk : Bool) :
    (device.checkEntry cfg resetOk).1.rtc =
      ((device.takeRequest cfg).1.takeTrigger cfg resetOk).1.rtc := by
  unfold checkEntry
  dsimp only
  generalize (if ((device.takeRequest cfg).1.takeTrigger cfg resetOk).2
    then some FlasherEntry.recoveryTrigger
    else if (device.takeRequest cfg).2 then some .appRequested
    else none) = entry
  cases entry <;> rfl

/-- A brownout boot goes to deep sleep. -/
def brownoutRecovery (device : BootDevice) (boot : BootReset) : BootDevice :=
  if device.phase = .application ∧ boot.reason = .brownout then
    { device with phase := .stopped }
  else device

end BootDevice

structure BootOutcome where
  device : BootDevice
  erase : Option Bool
  entry : Option FlasherEntry
  deriving DecidableEq, Repr

/-- `setup` up to the start of the services. -/
def BootDevice.setup (cfg : BootConfig) (device : BootDevice)
    (boot : BootReset) : BootOutcome :=
  let check := (device.powerUp boot).crashRecovery boot
  let counted :=
    ((check.1.initTracker boot).initBootState cfg).countBoot boot
  let entered := counted.checkEntry cfg boot.resetOk
  { device := entered.1.brownoutRecovery boot
    erase := check.2
    entry := entered.2 }

/-! ## Everything between two boots -/

inductive BootEvent where
  | reset (boot : BootReset)
  | setupCompleted
  | loopPass (now : UInt32) (writeOk : Bool)
  | enterOtaMode
  deriving DecidableEq, Repr

namespace BootDevice

/-- The last statement of `setup` on the crash counter. -/
def completeSetup (device : BootDevice) : BootDevice :=
  { device with rtc := { device.rtc with crashCounter := 0 } }

def loopPass (cfg : BootConfig) (device : BootDevice) (now : UInt32)
    (writeOk : Bool) : BootDevice :=
  if 0 < device.rtc.stabilityCounter ∧ cfg.stabilityWindowMs < now then
    (device.setStabilityCounter 0).resetCounter writeOk
  else device

/-- `ProtocolHandler::handleEnterOtaMode` up to its restart. -/
def enterOtaMode (cfg : BootConfig) (device : BootDevice) : BootDevice :=
  { device with
    rtc := { device.rtc with
      rtcMagic := cfg.rtcMagicKey
      bootMode := cfg.modeFlasher } }

/-- Only a running application finishes `setup`, passes through `loop` or
takes a request. -/
def step (cfg : BootConfig) (device : BootDevice) :
    BootEvent → BootDevice
  | .reset boot => (device.setup cfg boot).device
  | .setupCompleted =>
      if device.phase = .application then device.completeSetup else device
  | .loopPass now writeOk =>
      if device.phase = .application then device.loopPass cfg now writeOk
      else device
  | .enterOtaMode =>
      if device.phase = .application then device.enterOtaMode cfg
      else device

end BootDevice

end SensorFirmware
