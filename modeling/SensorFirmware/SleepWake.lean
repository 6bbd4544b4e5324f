import SensorFirmware.BootSequence
import SensorFirmware.PowerManager

/-!
# Sleep and wake

What `enterDeepSleep` leaves armed when the device falls asleep, and what
`detectWakeReason` makes of the wake-up.  The sensor task goes on measuring
until the device sleeps.  The sleep functions of the chip are a parameter; what
they have armed is lost at every boot.  LED, battery and the pull-ups of the
I²C pins are left out.
-/

namespace SensorFirmware

open GuardedRun

/-! ## The sensor -/

/-- The bits and values of `configureForDeepSleep`. -/
def sleepRegisters (minDeepSleepThreshold : ℕ) : SleepRegisters where
  shutdownBit := 0x0001
  interruptBit := 0x0002
  activeForceBit := 0x0008
  conf1 := 0x0FC2
  conf3 := 0x1301
  minThreshold := minDeepSleepThreshold

/-- The value of CONF3 that triggers a measurement. -/
def measureConf3 : BitVec 16 := 0x1715

structure SensorHal where
  sensor : Sensor
  powerOn : Bool
  i2cInitialized : Bool
  lastReading : ℕ
  deriving DecidableEq, Repr

/-- Which transfers of a measurement succeed, and the value that is read. -/
structure ProximityRead where
  writeOk : Bool
  readOk : Bool
  value : ℕ
  deriving DecidableEq, Repr

namespace SensorHal

def isReady (hal : SensorHal) : Bool :=
  hal.sensor.initialized && hal.powerOn && hal.i2cInitialized

def triggerMeasurement (hal : SensorHal) : SensorHal :=
  { hal with sensor := { hal.sensor with registers :=
      { hal.sensor.registers with conf3 := measureConf3 } } }

def readProximity (hal : SensorHal) (read : ProximityRead) :
    SensorHal × ℕ :=
  if !hal.isReady then (hal, 0)
  else if !read.writeOk then (hal, hal.lastReading)
  else if !read.readOk then (hal.triggerMeasurement, hal.lastReading)
  else ({ hal.triggerMeasurement with lastReading := read.value }, read.value)

def isProximityBelowThreshold (hal : SensorHal) (threshold : ℕ)
    (read : ProximityRead) : SensorHal × Bool :=
  if !hal.isReady then (hal, true)
  else
    let current := hal.readProximity read
    (current.1, decide (current.2 < threshold))

/-- The measurements of the sensor task, one after the other. -/
def measure (hal : SensorHal) (reads : List ProximityRead) : SensorHal :=
  reads.foldl (fun hal read => (hal.readProximity read).1) hal

end SensorHal

/-- What `configureForDeepSleep` returns: an attempt was verified. -/
def Sensor.sleepReady (cfg : SleepRegisters) (sensor : Sensor) :
    List BusAttempt → Bool
  | [] => false
  | bus :: rest =>
      if !sensor.initialized then false
      else
        let attempt := sensor.registers.sleepAttempt cfg bus
        if attempt.2 then true
        else Sensor.sleepReady cfg { sensor with registers := attempt.1 } rest

/-! ## The chip -/

inductive WakePin where
  | button
  | proximityInt
  deriving DecidableEq, Repr

inductive WakeSource where
  | pin (pin : WakePin)
  | timer
  deriving DecidableEq, Repr

inductive WakeReason where
  | powerOn
  | button
  | sensor
  | timer
  | brownout
  | software
  | unknown
  deriving DecidableEq, Repr

/-- The reason that `WakeReason` has for a source. -/
def WakeSource.reason : WakeSource → WakeReason
  | .pin .button => .button
  | .pin .proximityInt => .sensor
  | .timer => .timer

/-- `esp_sleep_wakeup_cause_t`, as far as the device can see it. -/
inductive WakeupCause where
  | undefined
  | ext0
  | ext1
  | timer
  deriving DecidableEq, Repr

/-- What is armed: EXT0 on the button, the mask of EXT1 and the timer. -/
structure WakeSources where
  ext0 : Bool
  ext1 : List WakePin
  timerUs : Option ℕ
  deriving DecidableEq, Repr

def WakeSources.none : WakeSources := ⟨false, [], .none⟩

/-- The sleep functions of ESP-IDF, which arm the sources or fail, and the cause
that the next boot reports for a source that wakes the device. -/
structure EspSleep where
  enableExt0 : WakeSources → WakeSources
  enableExt1 : WakeSources → List WakePin → Bool → WakeSources
  enableTimer : WakeSources → ℕ → Bool → WakeSources
  disableTimer : WakeSources → WakeSources
  cause : WakeSources → WakeSource → Option WakeupCause

/-- The documented behaviour: a call arms its own source alone, one that fails
arms nothing, and only an armed source wakes the device, under its own cause. -/
structure EspSleep.Lawful (esp : EspSleep) : Prop where
  enableExt0 : ∀ sources, (esp.enableExt0 sources).ext1 = sources.ext1 ∧
    (esp.enableExt0 sources).timerUs = sources.timerUs
  enableExt1 : ∀ sources mask ok, esp.enableExt1 sources mask ok =
    if ok then { sources with ext1 := mask } else sources
  enableTimer : ∀ sources intervalUs ok,
    esp.enableTimer sources intervalUs ok =
      if ok then { sources with timerUs := some intervalUs } else sources
  disableTimer : ∀ sources,
    esp.disableTimer sources = { sources with timerUs := none }
  defined : ∀ sources source, esp.cause sources source ≠ some .undefined
  ext0 : ∀ sources source, esp.cause sources source = some .ext0 →
    sources.ext0 = true ∧ source = .pin .button
  ext1 : ∀ sources source, esp.cause sources source = some .ext1 →
    ∃ pin ∈ sources.ext1, source = .pin pin
  timer : ∀ sources source, esp.cause sources source = some .timer →
    sources.timerUs.isSome ∧ source = .timer

namespace WakeSources

/-- Where a pin is on both, EXT0 goes first. -/
def cause (sources : WakeSources) : WakeSource → Option WakeupCause
  | .pin pin =>
      if sources.ext0 && pin == .button then some .ext0
      else if pin ∈ sources.ext1 then some .ext1
      else .none
  | .timer => if sources.timerUs.isSome then some .timer else .none

theorem cause_eq_some {sources : WakeSources} {source : WakeSource}
    {cause : WakeupCause} (hcause : sources.cause source = some cause) :
    (cause = .ext0 ∧ sources.ext0 = true ∧ source = .pin .button) ∨
      (cause = .ext1 ∧ ∃ pin ∈ sources.ext1, source = .pin pin) ∨
      (cause = .timer ∧ sources.timerUs.isSome ∧ source = .timer) := by
  cases source with
  | pin pin =>
      rw [WakeSources.cause] at hcause
      split at hcause
      · next hbutton =>
        simp only [Bool.and_eq_true, beq_iff_eq] at hbutton
        obtain ⟨hext0, rfl⟩ := hbutton
        exact .inl ⟨(Option.some.inj hcause).symm, hext0, rfl⟩
      · split at hcause
        · next hmask =>
          exact .inr (.inl ⟨(Option.some.inj hcause).symm, pin, hmask, rfl⟩)
        · cases hcause
  | timer =>
      rw [WakeSources.cause] at hcause
      split at hcause
      · next harmed =>
        exact .inr (.inr ⟨(Option.some.inj hcause).symm, harmed, rfl⟩)
      · cases hcause

end WakeSources

/-- Sleep functions that behave as documented. -/
def EspSleep.standard : EspSleep where
  enableExt0 sources := { sources with ext0 := true }
  enableExt1 sources mask ok :=
    if ok then { sources with ext1 := mask } else sources
  enableTimer sources intervalUs ok :=
    if ok then { sources with timerUs := some intervalUs } else sources
  disableTimer sources := { sources with timerUs := none }
  cause := WakeSources.cause

theorem EspSleep.lawful_standard : EspSleep.standard.Lawful where
  enableExt0 _ := ⟨rfl, rfl⟩
  enableExt1 _ _ _ := rfl
  enableTimer _ _ _ := rfl
  disableTimer _ := rfl
  defined _ _ hcause := by simpa using WakeSources.cause_eq_some hcause
  ext0 _ _ hcause := by simpa using WakeSources.cause_eq_some hcause
  ext1 _ _ hcause := by simpa using WakeSources.cause_eq_some hcause
  timer _ _ hcause := by simpa using WakeSources.cause_eq_some hcause

/-! ## The power manager -/

/-- The second component is `_brownoutDetected`. -/
def detectWakeReason (reset : EspResetReason) (cause : WakeupCause) :
    WakeReason × Bool :=
  if reset = .brownout then (.brownout, true)
  else
    match cause with
    | .ext0 => (.button, false)
    | .ext1 => (.sensor, false)
    | .timer => (.timer, false)
    | .undefined =>
        match reset with
        | .powerOn => (.powerOn, false)
        | .sw => (.software, false)
        | _ => (.unknown, false)

structure SleepConfig where
  buttonIsRtc : Bool
  proximityIntIsRtc : Bool
  minDeepSleepThreshold : ℕ
  maxDeepSleepThreshold : ℕ
  failsafeWakeUs : ℕ
  emergencyWakeUs : ℕ
  deriving DecidableEq, Repr

namespace SleepConfig

/-- The formula is not in the repository; what stands there is zero. -/
def deepSleepThreshold (cfg : SleepConfig) : ℕ :=
  if 0 < cfg.minDeepSleepThreshold then cfg.minDeepSleepThreshold
  else if cfg.maxDeepSleepThreshold < 0 then cfg.maxDeepSleepThreshold
  else 0

def wakeupMask (cfg : SleepConfig) : List WakePin :=
  (if cfg.buttonIsRtc then [.button] else []) ++
    (if cfg.proximityIntIsRtc then [.proximityInt] else [])

def registers (cfg : SleepConfig) : SleepRegisters :=
  sleepRegisters cfg.minDeepSleepThreshold

def configureWakeSources (esp : EspSleep) (cfg : SleepConfig)
    (sources : WakeSources) (ext1Ok : Bool) : WakeSources :=
  if 0 < cfg.wakeupMask.length then
    esp.enableExt1 sources cfg.wakeupMask ext1Ok
  else sources

end SleepConfig

/-- What `enterDeepSleep` meets from the sensor on.  The sensor task measures
`meanwhile`, after the last write of CONF3 in the configuration and before the
proximity check, and `afterwards`, until the chip sleeps. -/
structure SleepEntry where
  bus : List BusAttempt
  ext1Ok : Bool
  timerOk : Bool
  meanwhile : List ProximityRead
  proximity : ProximityRead
  intPinLow : Bool
  afterwards : List ProximityRead
  deriving DecidableEq, Repr

/-- The measurements since the configuration of the sensor. -/
def SleepEntry.reads (entry : SleepEntry) : List ProximityRead :=
  entry.meanwhile ++ entry.proximity :: entry.afterwards

/-- `ready` says whether the sensor was verified, and `measured` whether the
proximity check or the sensor task has started a measurement since. -/
inductive SleepMode where
  | awake
  | asleep (ready measured : Bool)
  | brownoutSleep
  deriving DecidableEq, Repr

/-- `wokenBy` is what really woke the device, and whether out of the sleep
after a brownout. -/
structure SleepingDevice where
  hal : SensorHal
  sources : WakeSources
  mode : SleepMode
  wakeReason : WakeReason
  brownoutDetected : Bool
  wokenBy : Option (WakeSource × Bool)
  deriving DecidableEq, Repr

namespace SleepingDevice

def enterDeepSleep (esp : EspSleep) (cfg : SleepConfig)
    (device : SleepingDevice) (entry : SleepEntry) : SleepingDevice :=
  let attempts := entry.bus.take 3
  let ready := device.hal.sensor.sleepReady cfg.registers attempts
  let hal := { device.hal with
    sensor := device.hal.sensor.configureForDeepSleep cfg.registers attempts }
  let sources := esp.enableTimer
    (cfg.configureWakeSources esp device.sources entry.ext1Ok)
    (if ready then cfg.failsafeWakeUs else cfg.emergencyWakeUs) entry.timerOk
  let checked := (hal.measure entry.meanwhile).isProximityBelowThreshold
    cfg.deepSleepThreshold entry.proximity
  if !checked.2 || entry.intPinLow then
    { device with
      hal := checked.1
      sources := esp.disableTimer sources }
  else
    { device with
      hal := checked.1.measure entry.afterwards
      sources := sources
      mode := .asleep ready
        (hal.isReady && entry.reads.any ProximityRead.writeOk) }

/-- A boot of the application, or the sleep after a brownout. -/
def boot (esp : EspSleep) (reset : EspResetReason) (cause : WakeupCause)
    (hal : SensorHal) (wokenBy : Option (WakeSource × Bool)) :
    SleepingDevice :=
  if reset = .brownout then
    { hal := hal
      sources := esp.enableExt0 .none
      mode := .brownoutSleep
      wakeReason := .unknown
      brownoutDetected := false
      wokenBy := wokenBy }
  else
    { hal := hal
      sources := .none
      mode := .awake
      wakeReason := (detectWakeReason reset cause).1
      brownoutDetected := (detectWakeReason reset cause).2
      wokenBy := wokenBy }

end SleepingDevice

/-- Boots come with a sensor in any state. -/
inductive SleepEvent where
  | enterDeepSleep (entry : SleepEntry)
  | readProximity (read : ProximityRead)
  | wake (source : WakeSource) (hal : SensorHal)
  | reset (reason : EspResetReason) (hal : SensorHal)
  deriving DecidableEq, Repr

namespace SleepingDevice

/-- Only a device that is awake goes to sleep or measures, and only an armed
source wakes it; the reset after a wake-up is the only one from deep sleep. -/
def step (esp : EspSleep) (cfg : SleepConfig) (device : SleepingDevice) :
    SleepEvent → SleepingDevice
  | .enterDeepSleep entry =>
      if device.mode = .awake then device.enterDeepSleep esp cfg entry
      else device
  | .readProximity read =>
      if device.mode = .awake then
        { device with hal := (device.hal.readProximity read).1 }
      else device
  | .wake source hal =>
      match device.mode, esp.cause device.sources source with
      | .awake, _ | _, none => device
      | .asleep _ _, some cause =>
          boot esp .deepSleep cause hal (some (source, false))
      | .brownoutSleep, some cause =>
          boot esp .deepSleep cause hal (some (source, true))
  | .reset reason hal =>
      if reason = .deepSleep then device
      else boot esp reason .undefined hal none

def start (esp : EspSleep) (hal : SensorHal) : SleepingDevice :=
  boot esp .powerOn .undefined hal none

end SleepingDevice

/-! ## Configuring the sensor -/

def BusAttempt.AllOk (bus : BusAttempt) : Prop :=
  bus = ⟨true, true, true, true, true, true, true⟩

instance (bus : BusAttempt) : Decidable bus.AllOk :=
  inferInstanceAs (Decidable (_ = _))

/-- The registers of a sensor that is ready to wake the device. -/
def SleepConfig.sleepFile (cfg : SleepConfig) : SensorRegisters where
  conf1 := 0x0FC2
  conf3 := 0x1301
  highThreshold := cfg.minDeepSleepThreshold
  lowThreshold := 0

theorem sleepAttempt_iff (cfg : SleepConfig) (registers : SensorRegisters)
    (bus : BusAttempt) :
    (registers.sleepAttempt cfg.registers bus).2 = true ↔ bus.AllOk := by
  obtain ⟨read, shutdown, high, low, conf3, conf1, back⟩ := bus
  unfold SensorRegisters.sleepAttempt BusAttempt.AllOk
  cases read <;> cases shutdown <;> cases high <;> cases low <;>
    cases conf3 <;> cases conf1 <;> cases back <;>
    simp [SleepConfig.registers, sleepRegisters]

theorem sleepAttempt_of_allOk (cfg : SleepConfig)
    (registers : SensorRegisters) {bus : BusAttempt} (hok : bus.AllOk) :
    (registers.sleepAttempt cfg.registers bus).1 = cfg.sleepFile := by
  rw [hok]
  rfl

/-- The sensor is ready exactly if one attempt went through. -/
theorem sleepReady_iff (cfg : SleepConfig) (sensor : Sensor)
    (attempts : List BusAttempt) :
    sensor.sleepReady cfg.registers attempts = true ↔
      sensor.initialized = true ∧ ∃ bus ∈ attempts, bus.AllOk := by
  induction attempts generalizing sensor with
  | nil => simp [Sensor.sleepReady]
  | cons bus attempts ih =>
      have hbus := sleepAttempt_iff cfg sensor.registers bus
      rw [Sensor.sleepReady]
      cases hinit : sensor.initialized with
      | false => simp
      | true =>
          simp only [Bool.not_true, Bool.false_eq_true, if_false, true_and,
            List.mem_cons, exists_eq_or_imp]
          by_cases hok : bus.AllOk
          · simp [hbus.mpr hok, hok]
          · rw [if_neg (hbus.not.mpr hok), ih]
            simp [hok]

theorem configured_of_ready (cfg : SleepConfig) {sensor : Sensor}
    {attempts : List BusAttempt}
    (hready : sensor.sleepReady cfg.registers attempts = true) :
    (sensor.configureForDeepSleep cfg.registers attempts).registers =
      cfg.sleepFile := by
  induction attempts generalizing sensor with
  | nil => cases hready
  | cons bus attempts ih =>
      have hinit := ((sleepReady_iff cfg sensor (bus :: attempts)).mp hready).1
      have hbus := sleepAttempt_iff cfg sensor.registers bus
      rw [Sensor.sleepReady] at hready
      rw [Sensor.configureForDeepSleep]
      simp only [hinit, Bool.not_true, Bool.false_eq_true, if_false]
        at hready ⊢
      by_cases hok : bus.AllOk
      · rw [if_pos (hbus.mpr hok)]
        exact sleepAttempt_of_allOk cfg sensor.registers hok
      · rw [if_neg (hbus.not.mpr hok)] at hready ⊢
        exact ih hready

/-! ## The measurements -/

namespace SensorHal

theorem readProximity_spec (hal : SensorHal) (read : ProximityRead) :
    (hal.readProximity read).1.isReady = hal.isReady ∧
      (hal.readProximity read).1.sensor.registers =
        if hal.isReady && read.writeOk then
          { hal.sensor.registers with conf3 := measureConf3 }
        else hal.sensor.registers := by
  unfold readProximity
  cases hready : hal.isReady with
  | false => exact ⟨hready, rfl⟩
  | true =>
      cases hwrite : read.writeOk with
      | false => exact ⟨hready, rfl⟩
      | true => cases hread : read.readOk <;> exact ⟨hready, rfl⟩

theorem isProximityBelowThreshold_fst (hal : SensorHal) (threshold : ℕ)
    (read : ProximityRead) :
    (hal.isProximityBelowThreshold threshold read).1 =
      (hal.readProximity read).1 := by
  unfold isProximityBelowThreshold readProximity
  cases hready : hal.isReady <;> rfl

/-- CONF3 holds the trigger from the first measurement on that is started. -/
theorem registers_measure (hal : SensorHal) (reads : List ProximityRead) :
    (hal.measure reads).sensor.registers =
      if hal.isReady && reads.any ProximityRead.writeOk then
        { hal.sensor.registers with conf3 := measureConf3 }
      else hal.sensor.registers := by
  induction reads generalizing hal with
  | nil => simp [measure]
  | cons read reads ih =>
      obtain ⟨hready, hregisters⟩ := hal.readProximity_spec read
      have hrest := ih (hal.readProximity read).1
      rw [hready, hregisters] at hrest
      rw [List.any_cons]
      refine hrest.trans ?_
      cases hal.isReady <;> cases read.writeOk <;>
        cases reads.any ProximityRead.writeOk <;> rfl

theorem measure_append (hal : SensorHal) (first second : List ProximityRead) :
    hal.measure (first ++ second) = (hal.measure first).measure second :=
  List.foldl_append

end SensorHal

/-! ## What is armed -/

namespace SleepingDevice

/-- What the wake sources and the registers are in each mode. -/
structure Armed (cfg : SleepConfig) (device : SleepingDevice) : Prop where
  ext0 : device.sources.ext0 = true → device.mode = .brownoutSleep
  ext1 : device.sources.ext1 = [] ∨ device.sources.ext1 = cfg.wakeupMask
  brownout : device.mode = .brownoutSleep → device.sources.ext1 = []
  timer : ∀ interval, device.sources.timerUs = some interval →
    ∃ ready measured, device.mode = .asleep ready measured ∧
      interval = if ready then cfg.failsafeWakeUs else cfg.emergencyWakeUs
  registers : ∀ measured, device.mode = .asleep true measured →
    device.hal.sensor.registers =
      if measured then { cfg.sleepFile with conf3 := measureConf3 }
      else cfg.sleepFile

theorem configureWakeSources_spec {esp : EspSleep} (hesp : esp.Lawful)
    (cfg : SleepConfig) (sources : WakeSources) (ext1Ok : Bool) :
    let after := cfg.configureWakeSources esp sources ext1Ok
    after.ext0 = sources.ext0 ∧ after.timerUs = sources.timerUs ∧
      (after.ext1 = sources.ext1 ∨ after.ext1 = cfg.wakeupMask) := by
  intro after
  unfold after SleepConfig.configureWakeSources
  rw [hesp.enableExt1]
  split
  · cases ext1Ok
    · exact ⟨rfl, rfl, .inl rfl⟩
    · exact ⟨rfl, rfl, .inr rfl⟩
  · exact ⟨rfl, rfl, .inl rfl⟩

theorem enableTimer_spec {esp : EspSleep} (hesp : esp.Lawful)
    {sources : WakeSources} (hnone : sources.timerUs = none)
    (intervalUs : ℕ) (ok : Bool) :
    let after := esp.enableTimer sources intervalUs ok
    after.ext0 = sources.ext0 ∧ after.ext1 = sources.ext1 ∧
      ∀ armed, after.timerUs = some armed → armed = intervalUs := by
  intro after
  unfold after
  rw [hesp.enableTimer]
  cases ok with
  | false =>
      refine ⟨rfl, rfl, fun armed harmed => ?_⟩
      rw [if_neg Bool.false_ne_true, hnone] at harmed
      cases harmed
  | true => exact ⟨rfl, rfl, fun armed harmed => (Option.some.inj harmed).symm⟩

variable {esp : EspSleep} {cfg : SleepConfig} {device : SleepingDevice}

theorem armed_boot (hesp : esp.Lawful) (cfg : SleepConfig)
    (reset : EspResetReason) (cause : WakeupCause) (hal : SensorHal)
    (wokenBy : Option (WakeSource × Bool)) :
    (boot esp reset cause hal wokenBy).Armed cfg := by
  obtain ⟨hext1, htimer⟩ := hesp.enableExt0 .none
  unfold boot
  split
  · constructor
    · exact fun _ => rfl
    · exact .inl hext1
    · exact fun _ => hext1
    · intro interval harmed
      dsimp only at harmed
      rw [htimer] at harmed
      cases harmed
    · intro measured hmode
      cases hmode
  · constructor <;> simp [WakeSources.none]

/-- A device that is awake has no timer armed, whatever it gave up before. -/
theorem Armed.timer_awake (harmed : device.Armed cfg)
    (hawake : device.mode = .awake) : device.sources.timerUs = none := by
  cases htimer : device.sources.timerUs with
  | none => rfl
  | some interval =>
      obtain ⟨ready, measured, hmode, -⟩ := harmed.timer interval htimer
      rw [hawake] at hmode
      cases hmode

theorem Armed.ext0_eq_false (harmed : device.Armed cfg)
    (hmode : device.mode ≠ .brownoutSleep) : device.sources.ext0 = false := by
  rw [← Bool.not_eq_true]
  exact fun hext0 => hmode (harmed.ext0 hext0)

theorem Armed.enterDeepSleep (hesp : esp.Lawful) (harmed : device.Armed cfg)
    (hawake : device.mode = .awake) (entry : SleepEntry) :
    (device.enterDeepSleep esp cfg entry).Armed cfg := by
  have hext0 : device.sources.ext0 = false :=
    harmed.ext0_eq_false (by rw [hawake]; decide)
  obtain ⟨hsame, hkept, hmask⟩ :=
    configureWakeSources_spec hesp cfg device.sources entry.ext1Ok
  rw [hext0] at hsame
  rw [harmed.timer_awake hawake] at hkept
  have hext1 : (cfg.configureWakeSources esp device.sources
      entry.ext1Ok).ext1 = [] ∨ (cfg.configureWakeSources esp device.sources
        entry.ext1Ok).ext1 = cfg.wakeupMask := by
    rcases hmask with hold | hnew
    · rw [hold]
      exact harmed.ext1
    · exact .inr hnew
  unfold SleepingDevice.enterDeepSleep
  extract_lets attempts ready _ hal sources checked
  obtain ⟨hext0', hext1', htimer⟩ := enableTimer_spec hesp hkept
    (if ready then cfg.failsafeWakeUs else cfg.emergencyWakeUs) entry.timerOk
  rw [hsame] at hext0'
  rw [← hext1'] at hext1
  split
  · rw [hesp.disableTimer]
    constructor
    · exact fun hon => absurd (hext0'.symm.trans hon) Bool.false_ne_true
    · exact hext1
    · intro hmode
      exact absurd (hawake.symm.trans hmode) nofun
    · exact fun interval harm => absurd harm nofun
    · intro measured hmode
      exact absurd (hawake.symm.trans hmode) nofun
  · constructor
    · exact fun hon => absurd (hext0'.symm.trans hon) Bool.false_ne_true
    · exact hext1
    · exact fun hmode => absurd hmode nofun
    · exact fun interval harm => ⟨_, _, rfl, htimer interval harm⟩
    · intro measured hmode
      obtain ⟨hready, hmeasured⟩ := SleepMode.asleep.inj hmode
      have hfile : hal.sensor.registers = cfg.sleepFile :=
        configured_of_ready cfg hready
      have hreads : checked.1.measure entry.afterwards =
          hal.measure entry.reads := by
        rw [SleepEntry.reads, SensorHal.measure_append]
        exact congrArg (SensorHal.measure · entry.afterwards)
          (SensorHal.isProximityBelowThreshold_fst _ _ _)
      change (checked.1.measure entry.afterwards).sensor.registers = _
      rw [hreads, SensorHal.registers_measure, hmeasured, hfile]

theorem Armed.step (hesp : esp.Lawful) (harmed : device.Armed cfg)
    (event : SleepEvent) : (device.step esp cfg event).Armed cfg := by
  cases event with
  | enterDeepSleep entry =>
      rw [SleepingDevice.step]
      split
      · next hawake => exact harmed.enterDeepSleep hesp hawake entry
      · exact harmed
  | readProximity read =>
      rw [SleepingDevice.step]
      split
      · next hawake =>
        obtain ⟨hext0, hext1, hbrownout, htimer, -⟩ := harmed
        refine ⟨hext0, hext1, hbrownout, htimer, ?_⟩
        simp [hawake]
      · exact harmed
  | wake source hal =>
      rw [SleepingDevice.step]
      split
      · exact harmed
      · exact harmed
      · exact armed_boot hesp cfg _ _ _ _
      · exact armed_boot hesp cfg _ _ _ _
  | reset reason hal =>
      rw [SleepingDevice.step]
      split
      · exact harmed
      · exact armed_boot hesp cfg _ _ _ _

/-- What the device has made of the source that woke it. -/
def Named (device : SleepingDevice) : Prop :=
  device.brownoutDetected = false ∧
    ∀ source afterBrownout, device.wokenBy = some (source, afterBrownout) →
      (device.wakeReason = source.reason ↔
        source ≠ .pin .button ∨ afterBrownout = true)

/-- Out of deep sleep only the mask of EXT1 and the timer report a cause. -/
theorem cause_asleep (hesp : esp.Lawful) {sources : WakeSources}
    {source : WakeSource} {cause : WakeupCause}
    (hext0 : sources.ext0 = false)
    (hcause : esp.cause sources source = some cause) :
    (detectWakeReason .deepSleep cause).1 = source.reason ↔
      source ≠ .pin .button := by
  cases cause with
  | undefined => exact absurd hcause (hesp.defined sources source)
  | ext0 =>
      have hon := (hesp.ext0 sources source hcause).1
      rw [hext0] at hon
      cases hon
  | ext1 =>
      obtain ⟨pin, -, rfl⟩ := hesp.ext1 sources source hcause
      cases pin <;> decide
  | timer =>
      obtain ⟨-, rfl⟩ := hesp.timer sources source hcause
      decide

/-- After a brownout only the button on EXT0 does. -/
theorem cause_brownout (hesp : esp.Lawful) {sources : WakeSources}
    {source : WakeSource} {cause : WakeupCause}
    (hext1 : sources.ext1 = []) (htimer : sources.timerUs = none)
    (hcause : esp.cause sources source = some cause) :
    (detectWakeReason .deepSleep cause).1 = source.reason := by
  cases cause with
  | undefined => exact absurd hcause (hesp.defined sources source)
  | ext0 =>
      obtain ⟨-, rfl⟩ := hesp.ext0 sources source hcause
      rfl
  | ext1 =>
      obtain ⟨pin, hpin, -⟩ := hesp.ext1 sources source hcause
      rw [hext1] at hpin
      cases hpin
  | timer =>
      have harmed := (hesp.timer sources source hcause).1
      rw [htimer] at harmed
      cases harmed

theorem detectWakeReason_brownout {reset : EspResetReason}
    (hreset : reset ≠ .brownout) (cause : WakeupCause) :
    (detectWakeReason reset cause).2 = false := by
  unfold detectWakeReason
  rw [if_neg hreset]
  cases cause <;> cases reset <;> rfl

@[simp]
theorem boot_deepSleep_wakeReason (esp : EspSleep) (cause : WakeupCause)
    (hal : SensorHal) (wokenBy : Option (WakeSource × Bool)) :
    (boot esp .deepSleep cause hal wokenBy).wakeReason =
      (detectWakeReason .deepSleep cause).1 := rfl

theorem named_boot {reset : EspResetReason} (cause : WakeupCause)
    (hal : SensorHal) : (boot esp reset cause hal none).Named := by
  unfold boot
  split
  · refine ⟨rfl, fun source afterBrownout hwoken => by cases hwoken⟩
  · next hreset =>
    exact ⟨detectWakeReason_brownout hreset cause,
      fun source afterBrownout hwoken => by cases hwoken⟩

theorem Named.step (hesp : esp.Lawful) (hnamed : device.Named)
    (harmed : device.Armed cfg) (event : SleepEvent) :
    (device.step esp cfg event).Named := by
  cases event with
  | enterDeepSleep entry =>
      rw [SleepingDevice.step]
      split
      · unfold SleepingDevice.enterDeepSleep
        dsimp only
        split <;> exact hnamed
      · exact hnamed
  | readProximity read =>
      rw [SleepingDevice.step]
      split <;> exact hnamed
  | wake source hal =>
      rw [SleepingDevice.step]
      split
      · exact hnamed
      · exact hnamed
      · next ready measured cause hmode hcause =>
        have hext0 : device.sources.ext0 = false :=
          harmed.ext0_eq_false (by rw [hmode]; nofun)
        refine ⟨detectWakeReason_brownout (by decide) cause, ?_⟩
        intro woken afterBrownout hwoken
        cases hwoken
        rw [boot_deepSleep_wakeReason]
        simpa using cause_asleep hesp hext0 hcause
      · next cause hmode hcause =>
        have htimer : device.sources.timerUs = none := by
          cases htimer : device.sources.timerUs with
          | none => rfl
          | some interval =>
              obtain ⟨ready, measured, hasleep, -⟩ :=
                harmed.timer interval htimer
              rw [hmode] at hasleep
              cases hasleep
        refine ⟨detectWakeReason_brownout (by decide) cause, ?_⟩
        intro woken afterBrownout hwoken
        cases hwoken
        rw [boot_deepSleep_wakeReason,
          cause_brownout hesp (harmed.brownout hmode) htimer hcause]
        simp
  | reset reason hal =>
      rw [SleepingDevice.step]
      split
      · exact hnamed
      · exact named_boot _ hal

/-- Over any run the wake reason names what really woke the device, except
that a press of the button out of an ordinary deep sleep is taken for the
sensor; no boot of the application ever reports the brownout. -/
theorem wake_reason_iff (hesp : esp.Lawful) (cfg : SleepConfig)
    (hal : SensorHal) (events : List SleepEvent) :
    let device := run (step esp cfg) (start esp hal) events
    device.brownoutDetected = false ∧
      ∀ source afterBrownout,
        device.wokenBy = some (source, afterBrownout) →
          (device.wakeReason = source.reason ↔
            source ≠ .pin .button ∨ afterBrownout = true) := by
  intro device
  have hstep : ∀ (before : SleepingDevice) (event : SleepEvent),
      before.Armed cfg ∧ before.Named →
        (before.step esp cfg event).Armed cfg ∧
          (before.step esp cfg event).Named :=
    fun before event hbefore =>
      ⟨hbefore.1.step hesp event, hbefore.2.step hesp hbefore.1 event⟩
  have hstart : (start esp hal).Armed cfg ∧ (start esp hal).Named :=
    ⟨armed_boot hesp cfg _ _ _ _, named_boot _ hal⟩
  exact (invariant_run' hstep events hstart).2

/-- A press of the button after an ordinary sleep. -/
theorem wake_reason_iff_button :
    let cfg : SleepConfig := ⟨true, true, 30, 200, 7200, 30⟩
    let hal : SensorHal := ⟨⟨true, ⟨0, 0, 0, 0⟩⟩, true, true, 0⟩
    let entry : SleepEntry :=
      ⟨[⟨true, true, true, true, true, true, true⟩], true, true, [],
        ⟨true, true, 12⟩, false, []⟩
    (run (step .standard cfg) (start .standard hal)
        [.enterDeepSleep entry, .wake (.pin .button) hal]).wakeReason =
      (WakeSource.pin .button).reason ↔
        WakeSource.pin .button ≠ .pin .button ∨ false = true := by
  intro cfg hal entry
  exact (wake_reason_iff EspSleep.lawful_standard cfg hal
    [.enterDeepSleep entry, .wake (.pin .button) hal]).2 (.pin .button) false
      (by decide)

end SleepingDevice

end SensorFirmware
