import SensorFirmware.LedHal
import SensorFirmware.SleepCancels

/-!
# What the LED says about the device

The LED beside the state of the power manager.  Its colours are parameters, as
they are in `Config.h`.  The task of `loop` updates, flashes and goes to sleep,
one after the other; the other tasks move the state at any time.
-/

namespace SensorFirmware

open GuardedRun

/-- A colour of the configuration. -/
structure LedColor where
  value : ℕ
  pos : 0 < value
  lt : value < 2 ^ 24
  deriving DecidableEq, Repr

/-- The colours of `LEDConfig` but black. -/
structure LedColors where
  pairing : LedColor
  active : LedColor
  hit : LedColor
  sleepPrep : LedColor
  error : LedColor

/-- The LED calls of `transitionTo` for the new state. -/
def LedColors.enter (colors : LedColors) (advertising : Bool) :
    PowerState → List LedCall
  | .wakeMode =>
      if advertising then [.setPattern colors.pairing.value .slowBlink]
      else [.setColor colors.pairing.value]
  | .active => [.setColor colors.active.value]
  | .detectionActive => [.setColor colors.hit.value]
  | .sleepPrep => [.setPattern colors.sleepPrep.value .fastBlink]
  | .boot | .deepSleep => []

/-- What `enterDeepSleep` meets: whether BLE advertises at the callback of its
disconnect, if that comes first, and in the end, whether the sensor is
configured, and the ending. -/
structure LedSleep where
  disconnect : Option Bool
  advertising : Bool
  sensorReady : Bool
  outcome : SleepOutcome
  deriving DecidableEq, Repr

def LedColors.sleep (colors : LedColors) (sensorReady : Bool) :
    List LedCall :=
  [.setPattern colors.sleepPrep.value .fastBlink, .prepareForSleep] ++
    if sensorReady then []
    else
      (List.replicate 3
        [.setColor colors.error.value, .setColor 0]).flatten ++
          [.prepareForSleep]

inductive IndicatorEvent where
  | reset (sensorWake : Bool)
  | setup (call : LedCall)
  | moveTo (state : AwakeState) (advertising : Bool)
  | requestSleep
  | update (advertising pairing : Bool)
  | ledUpdate
  | beginFlash (color : LedColor)
  | endFlash
  | enterDeepSleep (sleep : LedSleep)
  deriving DecidableEq, Repr

structure IndicatorInput where
  ms : ℕ
  event : IndicatorEvent
  deriving DecidableEq, Repr

structure IndicatedDevice where
  power : PowerManager
  led : LedRun
  asleep : Bool
  deriving DecidableEq, Repr

namespace IndicatedDevice

/-- At power on, with what the LED and its pad were left at. -/
def start (shown : ℕ) (held : Bool) : IndicatedDevice :=
  ⟨.init false 0, .start shown held, false⟩

def call (palette : LedPalette) (device : IndicatedDevice) (ms : ℕ)
    (calls : List LedCall) : IndicatedDevice :=
  { device with
    led := run (LedRun.step palette) device.led
      (calls.map fun call => ⟨ms, call⟩) }

def transitionTo (palette : LedPalette) (colors : LedColors)
    (device : IndicatedDevice) (state : PowerState) (advertising : Bool)
    (ms : ℕ) : IndicatedDevice :=
  if device.power.currentState = state then device
  else
    { device with
      power := device.power.transitionTo state (u32 ms) }.call palette ms
        (colors.enter advertising state)

/-- The calls of `update` before it updates the LED. -/
def wakeCalls (colors : LedColors) (device : IndicatedDevice)
    (advertising pairing : Bool) : List LedCall :=
  let pattern := device.led.hal.currentPattern
  let color := device.led.hal.currentColor
  if advertising && pairing then
    if pattern ≠ .slowBlink ∨ color ≠ colors.pairing.value then
      [.setPattern colors.pairing.value .slowBlink]
    else []
  else if pattern ≠ .solid ∨ color ≠ colors.pairing.value then
    [.setColor colors.pairing.value]
  else []

/-- The LED in `PowerManager::update`. -/
def update (palette : LedPalette) (colors : LedColors)
    (device : IndicatedDevice) (advertising pairing : Bool) (ms : ℕ) :
    IndicatedDevice :=
  match device.power.currentState with
  | .wakeMode =>
      device.call palette ms
        (device.wakeCalls colors advertising pairing ++ [.update])
  | .sleepPrep => device.call palette ms [.update]
  | .boot | .active | .detectionActive | .deepSleep => device

/-- The LED in `enterDeepSleep`, which comes from `SLEEP_PREP` by way of
`DEEP_SLEEP`. -/
def prepareSleep (palette : LedPalette) (colors : LedColors)
    (device : IndicatedDevice) (sleep : LedSleep) (ms : ℕ) :
    IndicatedDevice :=
  let device := device.transitionTo palette colors .deepSleep
    sleep.advertising ms
  let device :=
    match sleep.disconnect with
    | none => device
    | some advertising =>
        device.transitionTo palette colors .wakeMode advertising ms
  device.call palette ms (colors.sleep sleep.sensorReady)

def enterDeepSleep (palette : LedPalette) (colors : LedColors)
    (device : IndicatedDevice) (sleep : LedSleep) (ms : ℕ) :
    IndicatedDevice :=
  let device := device.prepareSleep palette colors sleep ms
  match sleep.outcome with
  | .proximityElevated =>
      device.transitionTo palette colors .wakeMode sleep.advertising ms
  | .wakePinLow =>
      device.transitionTo palette colors .detectionActive
        sleep.advertising ms
  | .asleep => { device with asleep := true }

/-- A step of a device that is awake. -/
def stepAwake (palette : LedPalette) (colors : LedColors)
    (device : IndicatedDevice) (ms : ℕ) :
    IndicatorEvent → IndicatedDevice
  | .reset _ => device
  | .setup call =>
      if device.power.currentState = .boot then
        device.call palette ms [call]
      else device
  | .moveTo state advertising =>
      device.transitionTo palette colors state.powerState advertising ms
  | .requestSleep => device.transitionTo palette colors .sleepPrep false ms
  | .update advertising pairing =>
      if device.led.flash = none then
        device.update palette colors advertising pairing ms
      else device
  | .ledUpdate =>
      if device.led.flash = none then device.call palette ms [.update]
      else device
  | .beginFlash color => device.call palette ms [.beginFlash color.value]
  | .endFlash => device.call palette ms [.endFlash]
  | .enterDeepSleep sleep =>
      if device.led.flash = none ∧ device.power.currentState = .sleepPrep then
        device.enterDeepSleep palette colors sleep ms
      else device

def step (palette : LedPalette) (colors : LedColors)
    (device : IndicatedDevice) (input : IndicatorInput) : IndicatedDevice :=
  match input.event with
  | .reset sensorWake =>
      ⟨.init sensorWake (u32 input.ms),
        .start device.led.hal.shown device.led.hal.held, false⟩
  | event =>
      if device.asleep then device
      else device.stepAwake palette colors input.ms event

/-- No task moves the state while the LED flashes, or before it is
initialised. -/
def Undisturbed (device : IndicatedDevice) (input : IndicatorInput) : Prop :=
  match input.event with
  | .setup call => call.Usable
  | .moveTo _ _ | .requestSleep =>
      device.led.flash = none ∧ device.led.hal.initialized = true
  | .reset _ | .update _ _ | .ledUpdate | .beginFlash _ | .endFlash
  | .enterDeepSleep _ => True

instance (device : IndicatedDevice) :
    ∀ input : IndicatorInput, Decidable (device.Undisturbed input)
  | ⟨_, .setup call⟩ => inferInstanceAs (Decidable call.Usable)
  | ⟨_, .moveTo _ _⟩ | ⟨_, .requestSleep⟩ => inferInstanceAs (Decidable (_ ∧ _))
  | ⟨_, .reset _⟩ | ⟨_, .update _ _⟩ | ⟨_, .ledUpdate⟩ | ⟨_, .beginFlash _⟩
  | ⟨_, .endFlash⟩ | ⟨_, .enterDeepSleep _⟩ => isTrue trivial

end IndicatedDevice

/-! ## What a call does to the pattern -/

namespace LedRun

variable {led : LedRun} (palette : LedPalette)

theorem step_setColor (hinit : led.hal.initialized = true) {color : ℕ}
    (hcolor : 0 < color) (ms : ℕ) :
    let after := led.step palette ⟨ms, .setColor color⟩
    after.hal.currentPattern = .solid ∧ after.hal.currentColor = color ∧
      after.hal.initialized = true ∧ after.flash = led.flash ∧
        after.slept = led.slept := by
  have hset : led.hal.setColor color (u32 ms) =
      ({ led.hal with
        currentPattern := .solid
        currentColor := color
        lastBlinkTime := u32 ms
        blinkPhase := 0 } : LedHal).writeColor color := by
    unfold LedHal.setColor
    rw [if_neg (by simp [hinit]), if_pos hcolor.ne']
  refine ⟨?_, ?_, ?_, rfl, rfl⟩
  · exact (congrArg LedHal.currentPattern hset).trans
      (LedHal.currentPattern_writeColor _ _)
  · exact (congrArg LedHal.currentColor hset).trans
      (LedHal.currentColor_writeColor _ _)
  · exact (congrArg LedHal.initialized hset).trans
      ((LedHal.initialized_writeColor _ _).trans hinit)

theorem step_setPattern (hinit : led.hal.initialized = true) {color : ℕ}
    (hcolor : 0 < color) (pattern : BlinkPattern) (ms : ℕ) :
    let after := led.step palette ⟨ms, .setPattern color pattern⟩
    after.hal.currentPattern = pattern ∧ after.hal.currentColor = color ∧
      after.hal.initialized = true ∧ after.flash = led.flash ∧
        after.slept = led.slept := by
  have hset : led.hal.setPattern color pattern (u32 ms) =
      ({ led.hal with
        currentPattern := pattern
        currentColor := color
        lastBlinkTime := u32 ms
        blinkPhase := 0 } : LedHal).writeColor
          (if pattern = BlinkPattern.off then 0 else color) := by
    unfold LedHal.setPattern
    rw [if_neg (by simp [hinit]), if_pos hcolor.ne']
  refine ⟨?_, ?_, ?_, rfl, rfl⟩
  · exact (congrArg LedHal.currentPattern hset).trans
      (LedHal.currentPattern_writeColor _ _)
  · exact (congrArg LedHal.currentColor hset).trans
      (LedHal.currentColor_writeColor _ _)
  · exact (congrArg LedHal.initialized hset).trans
      ((LedHal.initialized_writeColor _ _).trans hinit)

/-- Updating leaves the pattern alone. -/
theorem update_frame (hal : LedHal) (now : ℕ) :
    (hal.update palette now).currentPattern = hal.currentPattern ∧
      (hal.update palette now).currentColor = hal.currentColor ∧
      (hal.update palette now).initialized = hal.initialized := by
  have hblink : ∀ duration newPhase shouldBeOn,
      (hal.blink now duration newPhase shouldBeOn).currentPattern =
          hal.currentPattern ∧
        (hal.blink now duration newPhase shouldBeOn).currentColor =
          hal.currentColor ∧
        (hal.blink now duration newPhase shouldBeOn).initialized =
          hal.initialized := by
    intro duration newPhase shouldBeOn
    unfold LedHal.blink
    split
    · exact ⟨LedHal.currentPattern_writeColor _ _,
        LedHal.currentColor_writeColor _ _, LedHal.initialized_writeColor _ _⟩
    · exact ⟨rfl, rfl, rfl⟩
  unfold LedHal.update
  split
  · exact ⟨rfl, rfl, rfl⟩
  · split
    · exact ⟨rfl, rfl, rfl⟩
    · exact ⟨rfl, rfl, rfl⟩
    · exact hblink ..
    · exact hblink ..
    · exact hblink ..
    · exact ⟨LedHal.currentPattern_writeColor _ _,
        LedHal.currentColor_writeColor _ _, LedHal.initialized_writeColor _ _⟩
    · unfold LedHal.showLeds
      split <;> exact ⟨rfl, rfl, rfl⟩

theorem dark_run (hslept : led.slept = true) (hdark : led.hal.Dark)
    (inputs : List LedInput) :
    (run (step palette) led inputs).slept = true ∧
      (run (step palette) led inputs).hal.Dark := by
  have hstep : ∀ (led : LedRun) (input : LedInput),
      led.slept = true ∧ led.hal.Dark →
        (led.step palette input).slept = true ∧
          (led.step palette input).hal.Dark :=
    fun _ input hled => dark_step palette hled.1 hled.2 input
  exact invariant_run' hstep inputs ⟨hslept, hdark⟩

end LedRun

/-! ## The invariant -/

/-- The pattern and the colour of a state of the power manager. -/
def LedColors.Belongs (colors : LedColors) (hal : LedHal) :
    PowerState → Prop
  | .wakeMode => hal.currentColor = colors.pairing.value ∧
      (hal.currentPattern = .solid ∨ hal.currentPattern = .slowBlink)
  | .active => hal.currentColor = colors.active.value ∧
      hal.currentPattern = .solid
  | .detectionActive => hal.currentColor = colors.hit.value ∧
      hal.currentPattern = .solid
  | .sleepPrep => hal.currentColor = colors.sleepPrep.value ∧
      hal.currentPattern = .fastBlink
  | .boot => True
  | .deepSleep => False

namespace IndicatedDevice

structure Inv (colors : LedColors) (device : IndicatedDevice) : Prop where
  led : device.led.Inv
  initialized : device.power.currentState ≠ .boot →
    device.led.hal.initialized = true
  belongs : device.led.slept = false → device.power.currentState ≠ .boot →
    colors.Belongs device.led.hal device.power.currentState
  saved : device.led.slept = false → device.power.currentState ≠ .boot →
    ∀ saved, device.led.flash = some saved →
      saved = (device.led.hal.currentPattern, device.led.hal.currentColor)

variable {colors : LedColors} {device : IndicatedDevice}
  (palette : LedPalette)

theorem inv_of_dark (hslept : device.led.slept = true)
    (hdark : device.led.hal.Dark) : device.Inv colors where
  led := LedRun.inv_of_dark hslept hdark
  initialized := fun _ => hdark.initialized
  belongs := fun hnot => absurd (hslept.symm.trans hnot) (by decide)
  saved := fun hnot => absurd (hslept.symm.trans hnot) (by decide)

theorem usable_enter (colors : LedColors) (advertising : Bool)
    (state : PowerState) :
    ∀ call ∈ colors.enter advertising state, call.Usable := by
  intro call hcall
  cases state with
  | boot | deepSleep => exact absurd hcall List.not_mem_nil
  | wakeMode =>
      cases advertising with
      | true =>
          rw [List.mem_singleton.mp hcall]
          exact ⟨colors.pairing.lt, by decide⟩
      | false =>
          rw [List.mem_singleton.mp hcall]
          exact colors.pairing.lt
  | active =>
      rw [List.mem_singleton.mp hcall]
      exact colors.active.lt
  | detectionActive =>
      rw [List.mem_singleton.mp hcall]
      exact colors.hit.lt
  | sleepPrep =>
      rw [List.mem_singleton.mp hcall]
      exact ⟨colors.sleepPrep.lt, by decide⟩

theorem inv_led_call (hled : device.led.Inv) {calls : List LedCall}
    (husable : ∀ call ∈ calls, call.Usable) (ms : ℕ) :
    (device.call palette ms calls).led.Inv := by
  apply LedRun.inv_run palette ?_ hled
  intro input hinput
  obtain ⟨call, hcall, rfl⟩ := List.mem_map.mp hinput
  exact husable call hcall

/-- A new state gives the LED its pattern. -/
theorem belongs_enter (colors : LedColors) {led : LedRun}
    (hinit : led.hal.initialized = true)
    (advertising : Bool) {state : PowerState} (hboot : state ≠ .boot)
    (hsleep : state ≠ .deepSleep) (ms : ℕ) :
    let after := run (LedRun.step palette) led
      ((colors.enter advertising state).map fun call => ⟨ms, call⟩)
    after.hal.initialized = true ∧ after.flash = led.flash ∧
      after.slept = led.slept ∧ colors.Belongs after.hal state := by
  have hcolor := fun color : LedColor =>
    LedRun.step_setColor palette hinit color.pos ms
  have hpattern := fun color : LedColor =>
    LedRun.step_setPattern palette hinit color.pos
  cases state with
  | boot => exact absurd rfl hboot
  | deepSleep => exact absurd rfl hsleep
  | wakeMode =>
      cases advertising with
      | true =>
          obtain ⟨hset, hvalue, hstill, hflash, hslept⟩ :=
            hpattern colors.pairing .slowBlink ms
          exact ⟨hstill, hflash, hslept, hvalue, .inr hset⟩
      | false =>
          obtain ⟨hset, hvalue, hstill, hflash, hslept⟩ := hcolor colors.pairing
          exact ⟨hstill, hflash, hslept, hvalue, .inl hset⟩
  | active =>
      obtain ⟨hset, hvalue, hstill, hflash, hslept⟩ := hcolor colors.active
      exact ⟨hstill, hflash, hslept, hvalue, hset⟩
  | detectionActive =>
      obtain ⟨hset, hvalue, hstill, hflash, hslept⟩ := hcolor colors.hit
      exact ⟨hstill, hflash, hslept, hvalue, hset⟩
  | sleepPrep =>
      obtain ⟨hset, hvalue, hstill, hflash, hslept⟩ :=
        hpattern colors.sleepPrep .fastBlink ms
      exact ⟨hstill, hflash, hslept, hvalue, hset⟩

theorem inv_enter (hled : device.led.Inv)
    (hinit : device.led.hal.initialized = true)
    (hflash : device.led.flash = none)
    (hboot : device.power.currentState ≠ .boot)
    (hsleep : device.power.currentState ≠ .deepSleep) (advertising : Bool)
    (ms : ℕ) :
    (device.call palette ms
      (colors.enter advertising device.power.currentState)).Inv colors := by
  obtain ⟨hstill, hnone, -, hbelongs⟩ :=
    belongs_enter palette colors hinit advertising hboot hsleep ms
  have hcalled := inv_led_call palette hled
    (usable_enter colors advertising device.power.currentState) ms
  refine ⟨hcalled, fun _ => hstill, fun _ _ => hbelongs,
    fun _ _ saved hsaved => ?_⟩
  have hsome := hnone.symm.trans hsaved
  rw [hflash] at hsome
  cases hsome

theorem inv_transitionTo (hdevice : device.Inv colors)
    (hinit : device.led.hal.initialized = true)
    (hflash : device.led.flash = none) {state : PowerState}
    (hboot : state ≠ .boot) (hsleep : state ≠ .deepSleep)
    (advertising : Bool) (ms : ℕ) :
    (device.transitionTo palette colors state advertising ms).Inv colors := by
  unfold transitionTo
  split
  · exact hdevice
  · have hstate : (device.power.transitionTo state (u32 ms)).currentState =
        state := PowerManager.currentState_transitionTo ..
    have hentered := @inv_enter colors { device with
      power := device.power.transitionTo state (u32 ms) } palette hdevice.led
        hinit hflash (by rw [hstate]; exact hboot) (by rw [hstate]; exact hsleep)
        advertising ms
    rw [hstate] at hentered
    exact hentered

/-- Updating the LED, or its flash, leaves the state's pattern. -/
theorem inv_of_same (hdevice : device.Inv colors) {led : LedRun}
    (hled : led.Inv) (hslept : led.slept = device.led.slept)
    (hinit : led.hal.initialized = device.led.hal.initialized)
    (hsame : device.led.slept = false →
      device.power.currentState ≠ .boot →
        led.hal.currentPattern = device.led.hal.currentPattern ∧
          led.hal.currentColor = device.led.hal.currentColor)
    (hsaved : ∀ saved, led.flash = some saved →
      device.led.flash = some saved ∨
        saved = (device.led.hal.currentPattern, device.led.hal.currentColor)) :
    ({ device with led } : IndicatedDevice).Inv colors where
  led := hled
  initialized := fun hboot => hinit.trans (hdevice.initialized hboot)
  belongs := by
    intro hawake hboot
    have hbelongs := hdevice.belongs (hslept.symm.trans hawake) hboot
    obtain ⟨hpattern, hcolor⟩ := hsame (hslept.symm.trans hawake) hboot
    change colors.Belongs led.hal device.power.currentState
    unfold LedColors.Belongs at hbelongs ⊢
    rw [hpattern, hcolor]
    exact hbelongs
  saved := by
    intro hawake hboot saved hsome
    obtain ⟨hpattern, hcolor⟩ := hsame (hslept.symm.trans hawake) hboot
    change saved = (led.hal.currentPattern, led.hal.currentColor)
    rw [hpattern, hcolor]
    obtain hold | hnew := hsaved saved hsome
    · exact hdevice.saved (hslept.symm.trans hawake) hboot saved hold
    · exact hnew

theorem call_single (device : IndicatedDevice) (ms : ℕ) (call : LedCall) :
    device.call palette ms [call] =
      { device with led := device.led.step palette ⟨ms, call⟩ } := rfl

theorem inv_ledUpdate (hdevice : device.Inv colors) (ms : ℕ) :
    (device.call palette ms [.update]).Inv colors := by
  obtain ⟨hpattern, hcolor, hinit⟩ :=
    LedRun.update_frame palette device.led.hal (u32 ms)
  have hled : (device.led.step palette ⟨ms, .update⟩).Inv :=
    LedRun.inv_step palette hdevice.led trivial
  rw [call_single]
  exact inv_of_same hdevice hled rfl hinit
    (fun _ _ => ⟨hpattern, hcolor⟩) fun _ hsome => .inl hsome

theorem inv_beginFlash (hdevice : device.Inv colors) (color : LedColor)
    (ms : ℕ) : (device.call palette ms [.beginFlash color.value]).Inv colors := by
  have hled : (device.led.step palette ⟨ms, .beginFlash color.value⟩).Inv :=
    LedRun.inv_step palette hdevice.led color.lt
  by_cases hbegins : device.led.hal.initialized = true ∧ device.led.flash = none
  · have hstep : device.led.step palette ⟨ms, .beginFlash color.value⟩ =
        { device.led with
          hal := device.led.hal.writeColor color.value
          flash := some (device.led.hal.currentPattern,
            device.led.hal.currentColor) } := if_pos hbegins
    rw [hstep] at hled
    rw [call_single, hstep]
    exact inv_of_same hdevice hled rfl (LedHal.initialized_writeColor _ _)
      (fun _ _ => ⟨LedHal.currentPattern_writeColor _ _,
        LedHal.currentColor_writeColor _ _⟩)
      fun _ hsome => .inr (Option.some.inj hsome).symm
  · have hstep : device.led.step palette ⟨ms, .beginFlash color.value⟩ =
        device.led := if_neg hbegins
    rw [call_single, hstep]
    exact hdevice

theorem inv_endFlash (hdevice : device.Inv colors) (ms : ℕ) :
    (device.call palette ms [.endFlash]).Inv colors := by
  have hled : (device.led.step palette ⟨ms, .endFlash⟩).Inv :=
    LedRun.inv_step palette hdevice.led trivial
  rw [call_single]
  cases hflash : device.led.flash with
  | none =>
      have hstep : device.led.step palette ⟨ms, .endFlash⟩ = device.led := by
        simp [LedRun.step, hflash]
      rw [hstep]
      exact hdevice
  | some saved =>
      have hstep : device.led.step palette ⟨ms, .endFlash⟩ =
          { device.led with
            hal := device.led.hal.endFlash saved (u32 ms)
            flash := none
            flashed := true } := by
        simp [LedRun.step, hflash]
      rw [hstep] at hled ⊢
      refine inv_of_same hdevice hled rfl
        (LedHal.initialized_writeColor _ _) (fun hawake hboot => ?_)
        fun other hsome => absurd hsome (Option.some_ne_none other).symm
      have hsaved := hdevice.saved hawake hboot saved hflash
      exact ⟨congrArg Prod.fst hsaved, congrArg Prod.snd hsaved⟩

theorem wakeCalls_cases (colors : LedColors) (device : IndicatedDevice)
    (advertising pairing : Bool) :
    device.wakeCalls colors advertising pairing = [] ∨
      ∃ advertises, device.wakeCalls colors advertising pairing =
        colors.enter advertises .wakeMode := by
  unfold wakeCalls
  dsimp only
  split_ifs
  · exact .inr ⟨true, rfl⟩
  · exact .inl rfl
  · exact .inr ⟨false, rfl⟩
  · exact .inl rfl

theorem inv_update (hdevice : device.Inv colors)
    (hflash : device.led.flash = none) (advertising pairing : Bool) (ms : ℕ) :
    (device.update palette colors advertising pairing ms).Inv colors := by
  unfold update
  cases hstate : device.power.currentState with
  | boot | active | detectionActive | deepSleep => exact hdevice
  | sleepPrep => exact inv_ledUpdate palette hdevice ms
  | wakeMode =>
      have hboot : device.power.currentState ≠ .boot := by
        rw [hstate]
        decide
      have hinit := hdevice.initialized hboot
      have hset : (device.call palette ms
          (device.wakeCalls colors advertising pairing)).Inv colors := by
        obtain hnone | ⟨advertises, hcalls⟩ :=
          wakeCalls_cases colors device advertising pairing
        · rw [hnone]
          exact hdevice
        · have hentered := @inv_enter colors device palette hdevice.led hinit
            hflash hboot (by rw [hstate]; decide) advertises ms
          rw [hstate] at hentered
          rw [hcalls]
          exact hentered
      have hcalls : device.call palette ms
          (device.wakeCalls colors advertising pairing ++ [.update]) =
            (device.call palette ms
              (device.wakeCalls colors advertising pairing)).call palette ms
                [.update] := by
        unfold call
        rw [List.map_append, run_append]
      dsimp only
      rw [hcalls]
      exact inv_ledUpdate palette hset ms

/-- From the preparation on it is dark. -/
theorem dark_sleep (colors : LedColors) {led : LedRun} (hled : led.Inv)
    (hinit : led.hal.initialized = true) (sensorReady : Bool) (ms : ℕ) :
    let after := run (LedRun.step palette) led
      ((colors.sleep sensorReady).map fun call => ⟨ms, call⟩)
    after.slept = true ∧ after.hal.Dark := by
  intro after
  have hsplit : after = run (LedRun.step palette)
      (run (LedRun.step palette) led
        [⟨ms, .setPattern colors.sleepPrep.value .fastBlink⟩,
          ⟨ms, .prepareForSleep⟩])
      ((if sensorReady then []
        else (List.replicate 3
          [LedCall.setColor colors.error.value, .setColor 0]).flatten ++
            [.prepareForSleep]).map fun call => ⟨ms, call⟩) := by
    unfold after LedColors.sleep
    rw [List.map_append, run_append]
    rfl
  obtain ⟨-, -, hstill, -, -⟩ := LedRun.step_setPattern palette hinit
    colors.sleepPrep.pos .fastBlink ms
  have hset : (led.step palette
      ⟨ms, .setPattern colors.sleepPrep.value .fastBlink⟩).Inv :=
    LedRun.inv_step palette hled ⟨colors.sleepPrep.lt, by decide⟩
  have hready : ((led.step palette
      ⟨ms, .setPattern colors.sleepPrep.value .fastBlink⟩).step palette
        ⟨ms, .prepareForSleep⟩).Inv :=
    LedRun.inv_step palette hset trivial
  have hprepared : ((led.step palette
      ⟨ms, .setPattern colors.sleepPrep.value .fastBlink⟩).step palette
        ⟨ms, .prepareForSleep⟩).hal.initialized = true :=
    (LedHal.initialized_prepareForSleep _).trans hstill
  rw [hsplit]
  exact LedRun.dark_run palette (by rfl) (hready.dark rfl hprepared) _

theorem dark_transitionTo (hslept : device.led.slept = true)
    (hdark : device.led.hal.Dark) (state : PowerState) (advertising : Bool)
    (ms : ℕ) :
    (device.transitionTo palette colors state advertising ms).led.slept =
        true ∧
      (device.transitionTo palette colors state advertising ms).led.hal.Dark := by
  unfold transitionTo
  split
  · exact ⟨hslept, hdark⟩
  · exact LedRun.dark_run palette hslept hdark _

theorem led_transitionTo (hled : device.led.Inv)
    (hinit : device.led.hal.initialized = true) {state : PowerState}
    (hboot : state ≠ .boot) (hsleep : state ≠ .deepSleep)
    (advertising : Bool) (ms : ℕ) :
    (device.transitionTo palette colors state advertising ms).led.Inv ∧
      (device.transitionTo palette colors state advertising
        ms).led.hal.initialized = true := by
  unfold transitionTo
  split
  · exact ⟨hled, hinit⟩
  · obtain ⟨hstill, -⟩ := belongs_enter palette colors hinit advertising hboot
      hsleep ms
    have hcalled := @inv_led_call { device with
      power := device.power.transitionTo state (u32 ms) } palette hled _
        (usable_enter colors advertising state) ms
    exact ⟨hcalled, hstill⟩

theorem dark_prepareSleep (hled : device.led.Inv)
    (hinit : device.led.hal.initialized = true) (sleep : LedSleep) (ms : ℕ) :
    (device.prepareSleep palette colors sleep ms).led.slept = true ∧
      (device.prepareSleep palette colors sleep ms).led.hal.Dark := by
  have hdeep : (device.transitionTo palette colors .deepSleep
      sleep.advertising ms).led = device.led := by
    unfold transitionTo
    split <;> rfl
  unfold prepareSleep
  dsimp only
  rw [← hdeep] at hled hinit
  cases sleep.disconnect with
  | none => exact dark_sleep palette colors hled hinit _ ms
  | some advertising =>
      obtain ⟨hinv, hstill⟩ := @led_transitionTo colors _ palette hled hinit
        .wakeMode (by decide) (by decide) advertising ms
      exact dark_sleep palette colors hinv hstill _ ms

theorem inv_enterDeepSleep (hled : device.led.Inv)
    (hinit : device.led.hal.initialized = true) (sleep : LedSleep) (ms : ℕ) :
    (device.enterDeepSleep palette colors sleep ms).Inv colors := by
  obtain ⟨hslept, hdark⟩ := @dark_prepareSleep colors device palette hled hinit
    sleep ms
  unfold enterDeepSleep
  cases sleep.outcome with
  | asleep => exact inv_of_dark hslept hdark
  | proximityElevated =>
      obtain ⟨hstill, hblack⟩ := @dark_transitionTo colors _ palette hslept
        hdark .wakeMode sleep.advertising ms
      exact inv_of_dark hstill hblack
  | wakePinLow =>
      obtain ⟨hstill, hblack⟩ := @dark_transitionTo colors _ palette hslept
        hdark .detectionActive sleep.advertising ms
      exact inv_of_dark hstill hblack

/-! ## Runs -/

theorem inv_setup (hdevice : device.Inv colors)
    (hboot : device.power.currentState = .boot) {call : LedCall}
    (husable : call.Usable) (ms : ℕ) :
    (device.call palette ms [call]).Inv colors where
  led := LedRun.inv_step palette hdevice.led husable
  initialized := fun hnot => absurd hboot hnot
  belongs := fun _ hnot => absurd hboot hnot
  saved := fun _ hnot => absurd hboot hnot

theorem inv_reset (sensorWake : Bool) (ms shown : ℕ) (held : Bool) :
    (⟨.init sensorWake ms, .start shown held, false⟩ : IndicatedDevice).Inv
      colors where
  led := LedRun.inv_start shown held
  initialized := fun hnot => absurd rfl hnot
  belongs := fun _ hnot => absurd rfl hnot
  saved := fun _ hnot => absurd rfl hnot

theorem inv_stepAwake (hdevice : device.Inv colors) {input : IndicatorInput}
    (hundisturbed : device.Undisturbed input) :
    (device.stepAwake palette colors input.ms input.event).Inv colors := by
  obtain ⟨ms, event⟩ := input
  cases event with
  | reset sensorWake => exact hdevice
  | setup call =>
      unfold stepAwake
      dsimp only
      split
      · exact inv_setup palette hdevice ‹_› hundisturbed ms
      · exact hdevice
  | moveTo state advertising =>
      obtain ⟨hflash, hinit⟩ := hundisturbed
      cases state <;>
        exact inv_transitionTo palette hdevice hinit hflash (by decide)
          (by decide) advertising ms
  | requestSleep =>
      obtain ⟨hflash, hinit⟩ := hundisturbed
      exact inv_transitionTo palette hdevice hinit hflash (by decide)
        (by decide) false ms
  | update advertising pairing =>
      unfold stepAwake
      dsimp only
      split
      · exact inv_update palette hdevice ‹_› advertising pairing ms
      · exact hdevice
  | ledUpdate =>
      unfold stepAwake
      dsimp only
      split
      · exact inv_ledUpdate palette hdevice ms
      · exact hdevice
  | beginFlash color => exact inv_beginFlash palette hdevice color ms
  | endFlash => exact inv_endFlash palette hdevice ms
  | enterDeepSleep sleep =>
      unfold stepAwake
      dsimp only
      split
      · rename_i hprep
        have hboot : device.power.currentState ≠ .boot := by
          rw [hprep.2]
          decide
        exact inv_enterDeepSleep palette hdevice.led
          (hdevice.initialized hboot) sleep ms
      · exact hdevice

/-- A reset, a device asleep and a device awake. -/
theorem step_cases (colors : LedColors) (device : IndicatedDevice)
    (input : IndicatorInput) :
    (∃ sensorWake, device.step palette colors input =
      ⟨.init sensorWake (u32 input.ms),
        .start device.led.hal.shown device.led.hal.held, false⟩) ∨
    (device.asleep = true ∧ device.step palette colors input = device) ∨
    (device.asleep = false ∧ device.step palette colors input =
      device.stepAwake palette colors input.ms input.event) := by
  unfold step
  cases hevent : input.event with
  | reset sensorWake => exact .inl ⟨sensorWake, rfl⟩
  | setup _ | moveTo _ _ | requestSleep | update _ _ | ledUpdate
  | beginFlash _ | endFlash | enterDeepSleep _ =>
      cases device.asleep with
      | true => exact .inr (.inl ⟨rfl, rfl⟩)
      | false => exact .inr (.inr ⟨rfl, rfl⟩)

theorem inv_step (hdevice : device.Inv colors) {input : IndicatorInput}
    (hundisturbed : device.Undisturbed input) :
    (device.step palette colors input).Inv colors := by
  obtain ⟨sensorWake, hstep⟩ | ⟨-, hstep⟩ | ⟨-, hstep⟩ :=
    step_cases palette colors device input
  · rw [hstep]
    exact inv_reset ..
  · rw [hstep]
    exact hdevice
  · rw [hstep]
    exact inv_stepAwake palette hdevice hundisturbed

theorem asleep_transitionTo (colors : LedColors) (device : IndicatedDevice)
    (state : PowerState) (advertising : Bool) (ms : ℕ) :
    (device.transitionTo palette colors state advertising ms).asleep =
      device.asleep := by
  unfold transitionTo
  split <;> rfl

/-- Only deep sleep ends a run until the reset, and the LED is dark then. -/
theorem asleep_stepAwake (hdevice : device.Inv colors)
    (hawake : device.asleep = false) (ms : ℕ) (event : IndicatorEvent)
    (hasleep : (device.stepAwake palette colors ms event).asleep = true) :
    (device.stepAwake palette colors ms event).led.slept = true := by
  have hnever : ∀ {after : IndicatedDevice}, after.asleep = device.asleep →
      after.asleep = true → after.led.slept = true := by
    intro after hsame hafter
    rw [hsame, hawake] at hafter
    cases hafter
  cases event with
  | reset _ => exact hnever rfl hasleep
  | setup call =>
      refine hnever ?_ hasleep
      unfold stepAwake
      dsimp only
      split <;> rfl
  | moveTo state advertising =>
      exact hnever (asleep_transitionTo palette ..) hasleep
  | requestSleep => exact hnever (asleep_transitionTo palette ..) hasleep
  | update advertising pairing =>
      refine hnever ?_ hasleep
      unfold stepAwake update
      dsimp only
      split
      · split <;> rfl
      · rfl
  | ledUpdate =>
      refine hnever ?_ hasleep
      unfold stepAwake
      dsimp only
      split <;> rfl
  | beginFlash _ | endFlash => exact hnever rfl hasleep
  | enterDeepSleep sleep =>
      unfold stepAwake at hasleep ⊢
      dsimp only at hasleep ⊢
      by_cases hprep : device.led.flash = none ∧
          device.power.currentState = .sleepPrep
      · rw [if_pos hprep]
        have hboot : device.power.currentState ≠ .boot := by
          rw [hprep.2]
          decide
        obtain ⟨hslept, hdark⟩ := @dark_prepareSleep colors device palette
          hdevice.led (hdevice.initialized hboot) sleep ms
        unfold enterDeepSleep
        cases sleep.outcome with
        | asleep => exact hslept
        | proximityElevated | wakePinLow =>
            exact (dark_transitionTo palette hslept hdark _ _ ms).1
      · rw [if_neg hprep] at hasleep ⊢
        exact hnever rfl hasleep

theorem asleep_step (hdevice : device.Inv colors)
    (hdark : device.asleep = true → device.led.slept = true)
    (input : IndicatorInput)
    (hasleep : (device.step palette colors input).asleep = true) :
    (device.step palette colors input).led.slept = true := by
  obtain ⟨sensorWake, hstep⟩ | ⟨hsleeping, hstep⟩ | ⟨hawake, hstep⟩ :=
    step_cases palette colors device input
  · rw [hstep] at hasleep
    cases hasleep
  · rw [hstep]
    exact hdark hsleeping
  · rw [hstep] at hasleep ⊢
    exact asleep_stepAwake palette hdevice hawake input.ms input.event hasleep

theorem inv_run {inputs : List IndicatorInput} (hdevice : device.Inv colors)
    (hdark : device.asleep = true → device.led.slept = true)
    (hundisturbed : Guarded (step palette colors) Undisturbed device inputs) :
    (run (step palette colors) device inputs).Inv colors ∧
      ((run (step palette colors) device inputs).asleep = true →
        (run (step palette colors) device inputs).led.slept = true) := by
  have hstep : ∀ (device : IndicatedDevice) (input : IndicatorInput),
      device.Inv colors ∧ (device.asleep = true → device.led.slept = true) →
        device.Undisturbed input →
          (device.step palette colors input).Inv colors ∧
            ((device.step palette colors input).asleep = true →
              (device.step palette colors input).led.slept = true) :=
    fun _ input hinv hguard => ⟨inv_step palette hinv.1 hguard,
      asleep_step palette hinv.1 hinv.2 input⟩
  exact invariant_run hstep ⟨hdevice, hdark⟩ hundisturbed

end IndicatedDevice

/-- What the LED shows in a state of the power manager.  A flash ends a steady
colour. -/
def LedColors.Shows (colors : LedColors) (led : LedRun) : PowerState → Prop
  | .wakeMode => led.hal.shown =
      if led.hal.currentPattern = .solid then
        if led.flashed then 0 else colors.pairing.value
      else if led.hal.ledOn then colors.pairing.value else 0
  | .active => led.hal.shown = if led.flashed then 0 else colors.active.value
  | .detectionActive =>
      led.hal.shown = if led.flashed then 0 else colors.hit.value
  | .sleepPrep =>
      led.hal.shown = if led.hal.ledOn then colors.sleepPrep.value else 0
  | .boot => True
  | .deepSleep => False

namespace IndicatedDevice

variable {colors : LedColors} {device : IndicatedDevice}
  (palette : LedPalette)

theorem Inv.shows (hdevice : device.Inv colors)
    (hslept : device.led.slept = false) (hflash : device.led.flash = none)
    (hboot : device.power.currentState ≠ .boot) :
    colors.Shows device.led device.power.currentState := by
  have hinit := hdevice.initialized hboot
  have hbelongs := hdevice.belongs hslept hboot
  have hsolid := LedRun.shown_of_solid hdevice.led hslept hinit hflash
  have hblinks := LedRun.shown_of_blinks hdevice.led hslept hinit hflash
  unfold LedColors.Belongs at hbelongs
  unfold LedColors.Shows
  cases hstate : device.power.currentState with
  | boot => trivial
  | deepSleep =>
      rw [hstate] at hbelongs
      exact hbelongs
  | wakeMode =>
      rw [hstate] at hbelongs
      obtain ⟨hcolor, hpattern | hpattern⟩ := hbelongs
      · dsimp only
        rw [if_pos hpattern, hsolid hpattern, hcolor]
      · dsimp only
        rw [if_neg (by rw [hpattern]; decide), hblinks (by rw [hpattern]; rfl),
          hcolor]
  | active | detectionActive =>
      rw [hstate] at hbelongs
      obtain ⟨hcolor, hpattern⟩ := hbelongs
      dsimp only
      rw [hsolid hpattern, hcolor]
  | sleepPrep =>
      rw [hstate] at hbelongs
      obtain ⟨hcolor, hpattern⟩ := hbelongs
      dsimp only
      rw [hblinks (by rw [hpattern]; rfl), hcolor]

/-- A connection, a flash and the request to sleep. -/
def connectedFlashed : List IndicatorInput :=
  [⟨0, .setup .init⟩, ⟨10, .setup (.setColor 0xFFFFFF)⟩,
    ⟨20, .moveTo .wakeMode true⟩, ⟨80, .update true true⟩,
    ⟨1080, .ledUpdate⟩, ⟨2000, .moveTo .active false⟩,
    ⟨3000, .beginFlash ⟨0xFF0000, by decide, by decide⟩⟩, ⟨3200, .endFlash⟩,
    ⟨4000, .requestSleep⟩]

def primaryColors : LedColors where
  pairing := ⟨0x0000FF, by decide, by decide⟩
  active := ⟨0x00FF00, by decide, by decide⟩
  hit := ⟨0xFF00FF, by decide, by decide⟩
  sleepPrep := ⟨0xFFFF00, by decide, by decide⟩
  error := ⟨0xFF0000, by decide, by decide⟩

end IndicatedDevice

end SensorFirmware
