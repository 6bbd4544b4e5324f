import SensorFirmware.Checksum
import SensorFirmware.GuardedRun

/-!
# The LED

`LED_HAL` with the LED behind it.  `writeColor` skips what it has written last,
and the pad is held while the device sleeps.  A call is one step, except for
`flash`: it waits, and other tasks go on meanwhile.
-/

namespace SensorFirmware

open GuardedRun

inductive BlinkPattern where
  | solid
  | slowBlink
  | fastBlink
  | doubleBlink
  | breathe
  | rainbowBreathe
  | off
  deriving DecidableEq, Repr

def BlinkPattern.blinks : BlinkPattern → Bool
  | .slowBlink | .fastBlink | .doubleBlink => true
  | .solid | .breathe | .rainbowBreathe | .off => false

/-- The colours that `update` computes in floating point, of three bytes each. -/
structure LedPalette where
  breathe : ℕ → ℕ → ℕ
  rainbow : ℕ → ℕ
  breathe_lt : ∀ now color, breathe now color < 2 ^ 24
  rainbow_lt : ∀ now, rainbow now < 2 ^ 24

/-- `leds` is the buffer of the library and `shown` what the LED latched last;
`held` is the hold of the pad, which a reset does not end. -/
structure LedHal where
  initialized : Bool
  currentPattern : BlinkPattern
  currentColor : ℕ
  lastBlinkTime : ℕ
  ledOn : Bool
  blinkPhase : ℕ
  lastWrittenColor : ℕ
  leds : ℕ
  shown : ℕ
  held : Bool
  deriving DecidableEq, Repr

namespace LedHal

def slowBlinkPeriod : ℕ := 1000
def fastBlinkPeriod : ℕ := 250
def doubleBlinkOn : ℕ := 100
def doubleBlinkOff : ℕ := 100
def doubleBlinkPause : ℕ := 500

/-- The constructed driver after a reset. -/
def new (shown : ℕ) (held : Bool) : LedHal where
  initialized := false
  currentPattern := .off
  currentColor := 0
  lastBlinkTime := 0
  ledOn := false
  blinkPhase := 0
  lastWrittenColor := 0xFFFFFFFF
  leds := 0
  shown := shown
  held := held

/-- `FastLED.show`, which drives the pin once the LED was added. -/
def showLeds (hal : LedHal) : LedHal :=
  if hal.initialized && !hal.held then { hal with shown := hal.leds } else hal

/-- A colour has the low three bytes of its number. -/
def crgb (color : ℕ) : ℕ := color % 2 ^ 24

def init (hal : LedHal) (now : ℕ) : LedHal :=
  if hal.initialized then hal
  else
    { hal with
      initialized := true
      held := false
      leds := 0
      shown := 0
      currentPattern := .off
      currentColor := 0
      ledOn := false
      lastBlinkTime := now
      blinkPhase := 0 }

def writeColor (hal : LedHal) (color : ℕ) : LedHal :=
  if !hal.initialized then hal
  else if color = hal.lastWrittenColor then hal
  else
    { ({ hal with leds := crgb color } : LedHal).showLeds with
      lastWrittenColor := color
      ledOn := color != 0 }

def setColor (hal : LedHal) (color now : ℕ) : LedHal :=
  if !hal.initialized then hal
  else
    { hal with
      currentPattern :=
        if color ≠ 0 then BlinkPattern.solid else BlinkPattern.off
      currentColor := color
      lastBlinkTime := now
      blinkPhase := 0 }.writeColor color

def setPattern (hal : LedHal) (color : ℕ) (pattern : BlinkPattern)
    (now : ℕ) : LedHal :=
  if !hal.initialized then hal
  else
    let color := if color ≠ 0 then color else 0xFFFFFF
    { hal with
      currentPattern := pattern
      currentColor := color
      lastBlinkTime := now
      blinkPhase := 0 }.writeColor
        (if pattern = BlinkPattern.off then 0 else color)

def off (hal : LedHal) : LedHal :=
  if !hal.initialized then hal
  else
    { hal with
      currentPattern := .off
      currentColor := 0
      blinkPhase := 0 }.writeColor 0

/-- The end of `flash`, with the pattern and the colour that it saved. -/
def endFlash (hal : LedHal) (saved : BlinkPattern × ℕ) (now : ℕ) : LedHal :=
  { hal.writeColor 0 with
    currentPattern := saved.1
    currentColor := saved.2
    lastBlinkTime := now
    blinkPhase := 0 }

def phaseDuration : ℕ → ℕ
  | 0 => doubleBlinkOn
  | 1 => doubleBlinkOff
  | 2 => doubleBlinkOn
  | 3 => doubleBlinkOff
  | 4 => doubleBlinkPause
  | _ => doubleBlinkOn

/-- The end of `update` where a phase may be over. -/
def blink (hal : LedHal) (now duration newPhase : ℕ) (shouldBeOn : Bool) :
    LedHal :=
  if duration ≤ sub32 now hal.lastBlinkTime then
    { hal with
      lastBlinkTime := now
      blinkPhase := newPhase }.writeColor
        (if shouldBeOn then hal.currentColor else 0)
  else hal

def update (palette : LedPalette) (hal : LedHal) (now : ℕ) : LedHal :=
  if !hal.initialized then hal
  else
    match hal.currentPattern with
    | .solid | .off => hal
    | .slowBlink => hal.blink now slowBlinkPeriod hal.blinkPhase !hal.ledOn
    | .fastBlink => hal.blink now fastBlinkPeriod hal.blinkPhase !hal.ledOn
    | .doubleBlink =>
        let newPhase := (hal.blinkPhase + 1) % 5
        hal.blink now (phaseDuration hal.blinkPhase) newPhase
          (newPhase = 0 ∨ newPhase = 2)
    | .breathe => hal.writeColor (palette.breathe now hal.currentColor)
    | .rainbowBreathe =>
        { ({ hal with leds := palette.rainbow now } : LedHal).showLeds with
          ledOn := palette.rainbow now != 0 }

def prepareForSleep (hal : LedHal) : LedHal :=
  { ({ hal with leds := 0 } : LedHal).showLeds with
    held := true
    currentPattern := .off
    currentColor := 0
    ledOn := false
    blinkPhase := 0 }

end LedHal

/-! ## Runs -/

inductive LedCall where
  | init
  | setColor (color : ℕ)
  | setPattern (color : ℕ) (pattern : BlinkPattern)
  | off
  | beginFlash (color : ℕ)
  | endFlash
  | update
  | prepareForSleep
  deriving DecidableEq, Repr

structure LedInput where
  ms : ℕ
  call : LedCall
  deriving DecidableEq, Repr

/-- The driver with what a `flash` under way has saved.  `flashed` says that one
has ended since the pattern was set, and `slept` that the LED was prepared for
sleep since `init`. -/
structure LedRun where
  hal : LedHal
  flash : Option (BlinkPattern × ℕ)
  flashed : Bool
  slept : Bool
  deriving DecidableEq, Repr

namespace LedRun

def start (shown : ℕ) (held : Bool) : LedRun :=
  ⟨.new shown held, none, false, false⟩

def step (palette : LedPalette) (led : LedRun) (input : LedInput) : LedRun :=
  let now := u32 input.ms
  match input.call with
  | .init =>
      if led.hal.initialized then led
      else { led with
        hal := led.hal.init now
        flashed := false
        slept := false }
  | .setColor color =>
      { led with
        hal := led.hal.setColor color now
        flashed := led.flashed && !led.hal.initialized }
  | .setPattern color pattern =>
      { led with
        hal := led.hal.setPattern color pattern now
        flashed := led.flashed && !led.hal.initialized }
  | .off =>
      { led with
        hal := led.hal.off
        flashed := led.flashed && !led.hal.initialized }
  | .beginFlash color =>
      if led.hal.initialized ∧ led.flash = none then
        { led with
          hal := led.hal.writeColor color
          flash := some (led.hal.currentPattern, led.hal.currentColor) }
      else led
  | .endFlash =>
      match led.flash with
      | none => led
      | some saved =>
          { led with
            hal := led.hal.endFlash saved now
            flash := none
            flashed := true }
  | .update => { led with hal := led.hal.update palette now }
  | .prepareForSleep =>
      { led with hal := led.hal.prepareForSleep, slept := true }

end LedRun

/-! ## The cache -/

namespace LedHal

variable {hal : LedHal}

/-- The colour that was written last, black at first. -/
def written (hal : LedHal) : ℕ :=
  if hal.lastWrittenColor = 0xFFFFFFFF then 0 else hal.lastWrittenColor

/-- The LED shows what was written last. -/
structure Coherent (hal : LedHal) : Prop where
  initialized : hal.initialized = true
  free : hal.held = false
  shown : hal.shown = hal.written
  ledOn : hal.ledOn = (hal.written != 0)

theorem writeColor_frame (hal : LedHal) (color : ℕ) :
    ∃ leds shown lastWrittenColor ledOn, hal.writeColor color =
      { hal with
        leds := leds
        shown := shown
        lastWrittenColor := lastWrittenColor
        ledOn := ledOn } := by
  unfold writeColor showLeds
  split_ifs <;> exact ⟨_, _, _, _, rfl⟩

@[simp] theorem currentPattern_writeColor (hal : LedHal) (color : ℕ) :
    (hal.writeColor color).currentPattern = hal.currentPattern := by
  obtain ⟨_, _, _, _, hframe⟩ := hal.writeColor_frame color
  rw [hframe]

@[simp] theorem currentColor_writeColor (hal : LedHal) (color : ℕ) :
    (hal.writeColor color).currentColor = hal.currentColor := by
  obtain ⟨_, _, _, _, hframe⟩ := hal.writeColor_frame color
  rw [hframe]

@[simp] theorem initialized_writeColor (hal : LedHal) (color : ℕ) :
    (hal.writeColor color).initialized = hal.initialized := by
  obtain ⟨_, _, _, _, hframe⟩ := hal.writeColor_frame color
  rw [hframe]

/-- What is skipped is shown already. -/
theorem Coherent.writeColor (hhal : hal.Coherent) {color : ℕ}
    (hcolor : color < 2 ^ 24) :
    (hal.writeColor color).Coherent ∧ (hal.writeColor color).written = color := by
  have hother : color ≠ 0xFFFFFFFF := by omega
  have hinit := hhal.initialized
  have hfree := hhal.free
  by_cases hsame : color = hal.lastWrittenColor
  · have hskip : hal.writeColor color = hal := by
      unfold LedHal.writeColor
      rw [if_neg (by simp [hinit]), if_pos hsame]
    rw [hskip]
    refine ⟨hhal, ?_⟩
    rw [written, ← hsame, if_neg hother]
  · have hwrite : hal.writeColor color =
        { hal with
          leds := crgb color
          shown := crgb color
          lastWrittenColor := color
          ledOn := color != 0 } := by
      unfold LedHal.writeColor showLeds
      rw [if_neg (by simp [hinit]), if_neg hsame, if_pos (by simp [hinit, hfree])]
    have hcrgb : crgb color = color := Nat.mod_eq_of_lt hcolor
    have hwritten : (hal.writeColor color).written = color := by
      rw [written, hwrite]
      exact if_neg hother
    refine ⟨⟨?_, ?_, ?_, ?_⟩, hwritten⟩
    · rw [hwrite]
      exact hinit
    · rw [hwrite]
      exact hfree
    · rw [hwritten, hwrite, hcrgb]
    · rw [hwritten, hwrite]

/-- The fields of the pattern are no part of it. -/
theorem Coherent.of_fields (hhal : hal.Coherent) (pattern : BlinkPattern)
    (color lastBlinkTime blinkPhase : ℕ) :
    ({ hal with
      currentPattern := pattern
      currentColor := color
      lastBlinkTime := lastBlinkTime
      blinkPhase := blinkPhase } : LedHal).Coherent :=
  ⟨hhal.initialized, hhal.free, hhal.shown, hhal.ledOn⟩

/-- The pad is held and the LED is black. -/
structure Dark (hal : LedHal) : Prop where
  initialized : hal.initialized = true
  held : hal.held = true
  shown : hal.shown = 0

theorem Dark.writeColor (hhal : hal.Dark) (color : ℕ) :
    (hal.writeColor color).Dark := by
  have hheld := hhal.held
  unfold LedHal.writeColor showLeds
  split_ifs with _ _ hfree
  · exact hhal
  · exact hhal
  · simp [hheld] at hfree
  · exact ⟨hhal.initialized, hheld, hhal.shown⟩

theorem Dark.of_fields (hhal : hal.Dark) (pattern : BlinkPattern)
    (color lastBlinkTime blinkPhase : ℕ) :
    ({ hal with
      currentPattern := pattern
      currentColor := color
      lastBlinkTime := lastBlinkTime
      blinkPhase := blinkPhase } : LedHal).Dark :=
  ⟨hhal.initialized, hhal.held, hhal.shown⟩

theorem Dark.blink (hhal : hal.Dark) (now duration newPhase : ℕ)
    (shouldBeOn : Bool) :
    (hal.blink now duration newPhase shouldBeOn).Dark := by
  unfold LedHal.blink
  split
  · exact (hhal.of_fields hal.currentPattern hal.currentColor now
      newPhase).writeColor _
  · exact hhal

theorem Dark.setColor (hhal : hal.Dark) (color now : ℕ) :
    (hal.setColor color now).Dark := by
  unfold LedHal.setColor
  split
  · exact hhal
  · exact (hhal.of_fields _ color now 0).writeColor color

theorem Dark.setPattern (hhal : hal.Dark) (color : ℕ)
    (pattern : BlinkPattern) (now : ℕ) :
    (hal.setPattern color pattern now).Dark := by
  unfold LedHal.setPattern
  dsimp only
  split
  · exact hhal
  · exact (hhal.of_fields pattern _ now 0).writeColor _

theorem Dark.off (hhal : hal.Dark) : hal.off.Dark := by
  unfold LedHal.off
  split
  · exact hhal
  · exact (hhal.of_fields .off 0 hal.lastBlinkTime 0).writeColor 0

theorem Dark.endFlash (hhal : hal.Dark) (saved : BlinkPattern × ℕ) (now : ℕ) :
    (hal.endFlash saved now).Dark :=
  (hhal.writeColor 0).of_fields saved.1 saved.2 now 0

theorem Dark.update (palette : LedPalette) (hhal : hal.Dark) (now : ℕ) :
    (hal.update palette now).Dark := by
  have hheld := hhal.held
  unfold LedHal.update
  split_ifs
  · exact hhal
  · cases hpattern : hal.currentPattern with
    | solid | off => exact hhal
    | slowBlink | fastBlink | doubleBlink => exact hhal.blink ..
    | breathe => exact hhal.writeColor _
    | rainbowBreathe =>
        unfold showLeds
        split_ifs with hfree
        · simp [hheld] at hfree
        · exact ⟨hhal.initialized, hheld, hhal.shown⟩

@[simp] theorem initialized_prepareForSleep (hal : LedHal) :
    hal.prepareForSleep.initialized = hal.initialized := by
  unfold prepareForSleep showLeds
  split_ifs <;> rfl

/-- Also where it was dark before. -/
theorem dark_prepareForSleep (hinit : hal.initialized = true)
    (hhal : hal.held = false ∨ hal.Dark) : hal.prepareForSleep.Dark := by
  unfold prepareForSleep showLeds
  obtain hfree | hdark := hhal
  · rw [if_pos (by simp [hinit, hfree])]
    exact ⟨hinit, rfl, rfl⟩
  · rw [if_neg (by simp [hdark.held])]
    exact ⟨hinit, rfl, hdark.shown⟩

/-! ## The pattern -/

structure Awake (hal : LedHal) : Prop extends Coherent hal where
  color : hal.currentColor < 2 ^ 24
  pattern : hal.currentPattern ≠ .rainbowBreathe

/-- What the pattern shows; after a flash, a steady colour is not written
again. -/
def Lit (hal : LedHal) (flashed : Bool) : Prop :=
  match hal.currentPattern with
  | .off => hal.written = 0
  | .solid => hal.written = if flashed then 0 else hal.currentColor
  | .slowBlink | .fastBlink | .doubleBlink =>
      hal.written = 0 ∨ hal.written = hal.currentColor
  | .breathe | .rainbowBreathe => True

/-- What the three setters do. -/
theorem Awake.set (hhal : hal.Awake) {pattern : BlinkPattern}
    {color shown : ℕ} (hcolor : color < 2 ^ 24) (hshown : shown < 2 ^ 24)
    (hpattern : pattern ≠ .rainbowBreathe) (lastBlinkTime blinkPhase : ℕ)
    (hlit : shown = 0 ∧ pattern = .off ∨ shown = color ∧ pattern ≠ .off) :
    let after := ({ hal with
      currentPattern := pattern
      currentColor := color
      lastBlinkTime := lastBlinkTime
      blinkPhase := blinkPhase } : LedHal).writeColor shown
    after.Awake ∧ after.Lit false := by
  intro after
  obtain ⟨hcoherent, hwritten⟩ := (hhal.toCoherent.of_fields pattern color
    lastBlinkTime blinkPhase).writeColor hshown
  have hafterPattern : after.currentPattern = pattern :=
    currentPattern_writeColor _ _
  have hafterColor : after.currentColor = color := currentColor_writeColor _ _
  refine ⟨⟨hcoherent, ?_, ?_⟩, ?_⟩
  · rw [hafterColor]
    exact hcolor
  · rw [hafterPattern]
    exact hpattern
  · have hw : after.written = shown := hwritten
    unfold Lit
    rw [hafterPattern, hafterColor, hw]
    obtain ⟨rfl, rfl⟩ | ⟨rfl, hoff⟩ := hlit
    · rfl
    · cases pattern with
      | off => exact absurd rfl hoff
      | solid => rfl
      | slowBlink | fastBlink | doubleBlink => exact .inr rfl
      | breathe | rainbowBreathe => trivial

theorem Awake.setColor (hhal : hal.Awake) {color : ℕ}
    (hcolor : color < 2 ^ 24) (now : ℕ) :
    (hal.setColor color now).Awake ∧ (hal.setColor color now).Lit false := by
  unfold LedHal.setColor
  rw [if_neg (by simp [hhal.initialized])]
  by_cases hblack : color = 0
  · subst hblack
    exact hhal.set hcolor hcolor (by decide) now 0 (.inl ⟨rfl, rfl⟩)
  · rw [if_pos hblack]
    exact hhal.set hcolor hcolor (by decide) now 0 (.inr ⟨rfl, by decide⟩)

theorem Awake.setPattern (hhal : hal.Awake) {color : ℕ}
    (hcolor : color < 2 ^ 24) {pattern : BlinkPattern}
    (hpattern : pattern ≠ .rainbowBreathe) (now : ℕ) :
    (hal.setPattern color pattern now).Awake ∧
      (hal.setPattern color pattern now).Lit false := by
  have hwhite : (if color ≠ 0 then color else 0xFFFFFF) < 2 ^ 24 := by
    split_ifs
    · exact hcolor
    · decide
  unfold LedHal.setPattern
  dsimp only
  rw [if_neg (by simp [hhal.initialized])]
  by_cases hoff : pattern = .off
  · rw [if_pos hoff]
    exact hhal.set hwhite (by decide) hpattern now 0 (.inl ⟨rfl, hoff⟩)
  · rw [if_neg hoff]
    exact hhal.set hwhite hwhite hpattern now 0 (.inr ⟨rfl, hoff⟩)

theorem Awake.off (hhal : hal.Awake) : hal.off.Awake ∧ hal.off.Lit false := by
  unfold LedHal.off
  rw [if_neg (by simp [hhal.initialized])]
  exact hhal.set (by decide) (by decide) (by decide) hal.lastBlinkTime 0
    (.inl ⟨rfl, rfl⟩)

theorem Awake.endFlash (hhal : hal.Awake) {saved : BlinkPattern × ℕ}
    (hcolor : saved.2 < 2 ^ 24) (hpattern : saved.1 ≠ .rainbowBreathe)
    (now : ℕ) :
    (hal.endFlash saved now).Awake ∧ (hal.endFlash saved now).Lit true := by
  obtain ⟨hcoherent, hwritten⟩ := hhal.toCoherent.writeColor
    (by decide : 0 < 2 ^ 24)
  refine ⟨⟨hcoherent.of_fields .., hcolor, hpattern⟩, ?_⟩
  have hw : (hal.endFlash saved now).written = 0 := hwritten
  have hsaved : (hal.endFlash saved now).currentPattern = saved.1 := rfl
  unfold Lit
  rw [hw, hsaved]
  cases saved.1 with
  | off | solid => rfl
  | slowBlink | fastBlink | doubleBlink => exact .inl rfl
  | breathe | rainbowBreathe => trivial

theorem lit_iff_of_blinks (hblinks : hal.currentPattern.blinks = true)
    (flashed : Bool) :
    hal.Lit flashed ↔ hal.written = 0 ∨ hal.written = hal.currentColor := by
  unfold Lit
  cases hpattern : hal.currentPattern with
  | slowBlink | fastBlink | doubleBlink => exact Iff.rfl
  | solid | breathe | rainbowBreathe | off =>
      rw [hpattern] at hblinks
      cases hblinks

theorem Awake.blink (hhal : hal.Awake)
    (hblinks : hal.currentPattern.blinks = true) (flashed : Bool)
    (now duration newPhase : ℕ) (shouldBeOn : Bool) :
    (hal.blink now duration newPhase shouldBeOn).Awake ∧
      (hal.Lit flashed →
        (hal.blink now duration newPhase shouldBeOn).Lit flashed) := by
  have hshown : (if shouldBeOn then hal.currentColor else 0) < 2 ^ 24 := by
    split_ifs
    · exact hhal.color
    · decide
  unfold LedHal.blink
  split
  · obtain ⟨hcoherent, hwritten⟩ := (hhal.toCoherent.of_fields
      hal.currentPattern hal.currentColor now newPhase).writeColor hshown
    refine ⟨⟨hcoherent, ?_, ?_⟩, ?_⟩
    · rw [currentColor_writeColor]
      exact hhal.color
    · rw [currentPattern_writeColor]
      exact hhal.pattern
    · intro _
      rw [lit_iff_of_blinks (by rw [currentPattern_writeColor]; exact hblinks),
        currentColor_writeColor]
      cases shouldBeOn with
      | true => exact .inr hwritten
      | false => exact .inl hwritten
  · exact ⟨hhal, id⟩

theorem Awake.update (palette : LedPalette) (hhal : hal.Awake) (flashed : Bool)
    (now : ℕ) :
    (hal.update palette now).Awake ∧
      (hal.Lit flashed → (hal.update palette now).Lit flashed) := by
  unfold LedHal.update
  rw [if_neg (by simp [hhal.initialized])]
  cases hpattern : hal.currentPattern with
  | solid | off => exact ⟨hhal, id⟩
  | slowBlink | fastBlink | doubleBlink =>
      exact hhal.blink (by rw [hpattern]; rfl) ..
  | breathe =>
      obtain ⟨hcoherent, -⟩ := hhal.toCoherent.writeColor
        (palette.breathe_lt now hal.currentColor)
      refine ⟨⟨hcoherent, ?_, ?_⟩, ?_⟩
      · rw [currentColor_writeColor]
        exact hhal.color
      · rw [currentPattern_writeColor]
        exact hhal.pattern
      · intro _
        unfold Lit
        rw [currentPattern_writeColor, hpattern]
        trivial
  | rainbowBreathe => exact absurd hpattern hhal.pattern

theorem awake_init (hfresh : hal.initialized = false)
    (hnever : hal.lastWrittenColor = 0xFFFFFFFF) (now : ℕ) :
    (hal.init now).Awake ∧ (hal.init now).Lit false := by
  have hwritten : (hal.init now).written = 0 := by
    unfold written init
    rw [hfresh]
    exact if_pos hnever
  have hinit : hal.init now =
      { hal with
        initialized := true
        held := false
        leds := 0
        shown := 0
        currentPattern := .off
        currentColor := 0
        ledOn := false
        lastBlinkTime := now
        blinkPhase := 0 } := by
    unfold init
    rw [hfresh]
    rfl
  refine ⟨⟨⟨?_, ?_, ?_, ?_⟩, ?_, ?_⟩, ?_⟩
  · rw [hinit]
  · rw [hinit]
  · rw [hwritten, hinit]
  · rw [hwritten, hinit]
    rfl
  · rw [hinit]
    exact (by decide : 0 < 2 ^ 24)
  · rw [hinit]
    exact (by decide : BlinkPattern.off ≠ .rainbowBreathe)
  · unfold Lit
    rw [hwritten, hinit]

end LedHal

/-! ## The invariant -/

/-- Colours of three bytes, and no rainbow: it writes past the cache, and nothing
asks for it. -/
def LedCall.Usable : LedCall → Prop
  | .setColor color | .beginFlash color => color < 2 ^ 24
  | .setPattern color pattern =>
      color < 2 ^ 24 ∧ pattern ≠ .rainbowBreathe
  | .init | .off | .endFlash | .update | .prepareForSleep => True

instance : DecidablePred LedCall.Usable := fun call => by
  cases call <;> unfold LedCall.Usable <;> infer_instance

namespace LedRun

structure Inv (led : LedRun) : Prop where
  fresh : led.hal.initialized = false →
    led.hal.lastWrittenColor = 0xFFFFFFFF ∧ led.flash = none
  dark : led.slept = true → led.hal.initialized = true → led.hal.Dark
  awake : led.slept = false → led.hal.initialized = true → led.hal.Awake
  lit : led.slept = false → led.hal.initialized = true → led.flash = none →
    led.hal.Lit led.flashed
  saved : led.slept = false → ∀ saved, led.flash = some saved →
    saved.2 < 2 ^ 24 ∧ saved.1 ≠ .rainbowBreathe

theorem inv_start (shown : ℕ) (held : Bool) : (start shown held).Inv where
  fresh := fun _ => ⟨rfl, rfl⟩
  dark := fun _ hinit => nomatch hinit
  awake := fun _ hinit => nomatch hinit
  lit := fun _ hinit => nomatch hinit
  saved := fun _ _ hsaved => nomatch hsaved

/-- The LED was prepared for sleep. -/
theorem inv_of_dark {led : LedRun} (hslept : led.slept = true)
    (hdark : led.hal.Dark) : led.Inv where
  fresh := fun hfresh =>
    absurd (hdark.initialized.symm.trans hfresh) (by decide)
  dark := fun _ _ => hdark
  awake := fun hnot => absurd (hslept.symm.trans hnot) (by decide)
  lit := fun hnot => absurd (hslept.symm.trans hnot) (by decide)
  saved := fun hnot => absurd (hslept.symm.trans hnot) (by decide)

theorem inv_of_awake {led : LedRun} (hslept : led.slept = false)
    (hawake : led.hal.Awake) (hlit : led.flash = none → led.hal.Lit led.flashed)
    (hsaved : ∀ saved, led.flash = some saved →
      saved.2 < 2 ^ 24 ∧ saved.1 ≠ .rainbowBreathe) : led.Inv where
  fresh := fun hfresh =>
    absurd (hawake.initialized.symm.trans hfresh) (by decide)
  dark := fun hnot => absurd (hslept.symm.trans hnot) (by decide)
  awake := fun _ _ => hawake
  lit := fun _ _ => hlit
  saved := fun _ => hsaved

variable {led : LedRun} (palette : LedPalette)

/-- Before `init` nothing is written. -/
theorem inv_step_fresh (hled : led.Inv)
    (hfresh : led.hal.initialized = false) (input : LedInput) :
    (led.step palette input).Inv := by
  obtain ⟨hnever, hflash⟩ := hled.fresh hfresh
  have hsame : (led.step palette input) = led ∨
      input.call = .init ∨ input.call = .prepareForSleep := by
    cases hcall : input.call with
    | init => exact .inr (.inl rfl)
    | prepareForSleep => exact .inr (.inr rfl)
    | setColor color =>
        left
        simp [step, hcall, LedHal.setColor, hfresh]
    | setPattern color pattern =>
        left
        simp [step, hcall, LedHal.setPattern, hfresh]
    | off =>
        left
        simp [step, hcall, LedHal.off, hfresh]
    | beginFlash color =>
        left
        simp [step, hcall, hfresh]
    | endFlash =>
        left
        simp [step, hcall, hflash]
    | update =>
        left
        simp [step, hcall, LedHal.update, hfresh]
  obtain hsame | hcall | hcall := hsame
  · rw [hsame]
    exact hled
  · obtain ⟨hawake, hlit⟩ := LedHal.awake_init hfresh hnever (u32 input.ms)
    have hstep : led.step palette input =
        { led with
          hal := led.hal.init (u32 input.ms)
          flashed := false
          slept := false } := by
      unfold step
      rw [hcall]
      exact if_neg (by simp [hfresh])
    rw [hstep]
    refine inv_of_awake rfl hawake (fun _ => hlit) fun saved hsaved => ?_
    have hnone : led.flash = some saved := hsaved
    rw [hflash] at hnone
    cases hnone
  · have hstep : led.step palette input =
        { led with hal := led.hal.prepareForSleep, slept := true } := by
      unfold step
      rw [hcall]
    have hstill : led.hal.prepareForSleep.initialized = false :=
      led.hal.initialized_prepareForSleep.trans hfresh
    have hunwritten : led.hal.prepareForSleep.lastWrittenColor = 0xFFFFFFFF := by
      unfold LedHal.prepareForSleep LedHal.showLeds
      split <;> exact hnever
    rw [hstep]
    exact
      { fresh := fun _ => ⟨hunwritten, hflash⟩
        dark := fun _ hinit => absurd (hinit.symm.trans hstill) (by decide)
        awake := fun hnot => nomatch hnot
        lit := fun hnot => nomatch hnot
        saved := fun hnot => nomatch hnot }

/-- After it was prepared for sleep, the LED stays black. -/
theorem dark_step (hslept : led.slept = true) (hdark : led.hal.Dark)
    (input : LedInput) :
    (led.step palette input).slept = true ∧
      (led.step palette input).hal.Dark := by
  have hinit := hdark.initialized
  unfold step
  cases input.call with
  | init =>
      dsimp only
      rw [if_pos hinit]
      exact ⟨hslept, hdark⟩
  | setColor color => exact ⟨hslept, hdark.setColor ..⟩
  | setPattern color pattern => exact ⟨hslept, hdark.setPattern ..⟩
  | off => exact ⟨hslept, hdark.off⟩
  | beginFlash color =>
      dsimp only
      split
      · exact ⟨hslept, hdark.writeColor color⟩
      · exact ⟨hslept, hdark⟩
  | endFlash =>
      cases led.flash with
      | none => exact ⟨hslept, hdark⟩
      | some saved => exact ⟨hslept, hdark.endFlash ..⟩
  | update => exact ⟨hslept, hdark.update palette _⟩
  | prepareForSleep =>
      exact ⟨rfl, LedHal.dark_prepareForSleep hinit (.inr hdark)⟩

theorem inv_step_awake (hled : led.Inv) (hslept : led.slept = false)
    (hinit : led.hal.initialized = true) {input : LedInput}
    (husable : input.call.Usable) : (led.step palette input).Inv := by
  have hawake := hled.awake hslept hinit
  have hlit := hled.lit hslept hinit
  have hsaved := hled.saved hslept
  have hreset : (led.flashed && !led.hal.initialized) = false := by
    rw [hinit]
    exact Bool.and_false _
  unfold step
  cases hcall : input.call with
  | init =>
      dsimp only
      rw [if_pos hinit]
      exact hled
  | setColor color =>
      rw [hcall] at husable
      obtain ⟨hset, hshown⟩ := hawake.setColor husable (u32 input.ms)
      dsimp only
      rw [hreset]
      exact inv_of_awake hslept hset (fun _ => hshown) hsaved
  | setPattern color pattern =>
      rw [hcall] at husable
      obtain ⟨hset, hshown⟩ :=
        hawake.setPattern husable.1 husable.2 (u32 input.ms)
      dsimp only
      rw [hreset]
      exact inv_of_awake hslept hset (fun _ => hshown) hsaved
  | off =>
      obtain ⟨hset, hshown⟩ := hawake.off
      dsimp only
      rw [hreset]
      exact inv_of_awake hslept hset (fun _ => hshown) hsaved
  | beginFlash color =>
      rw [hcall] at husable
      dsimp only
      split
      · obtain ⟨hcoherent, -⟩ := hawake.toCoherent.writeColor husable
        refine inv_of_awake hslept ⟨hcoherent, ?_, ?_⟩
          (fun hnone => nomatch hnone) fun saved heq => ?_
        · rw [LedHal.currentColor_writeColor]
          exact hawake.color
        · rw [LedHal.currentPattern_writeColor]
          exact hawake.pattern
        · cases heq
          exact ⟨hawake.color, hawake.pattern⟩
      · exact hled
  | endFlash =>
      cases hflash : led.flash with
      | none => exact hled
      | some saved =>
          obtain ⟨hcolor, hpattern⟩ := hsaved saved hflash
          obtain ⟨hset, hshown⟩ :=
            hawake.endFlash hcolor hpattern (u32 input.ms)
          exact inv_of_awake hslept hset (fun _ => hshown)
            fun _ hnone => nomatch hnone
  | update =>
      obtain ⟨hupdated, hshown⟩ :=
        hawake.update palette led.flashed (u32 input.ms)
      exact inv_of_awake hslept hupdated (fun hnone => hshown (hlit hnone))
        hsaved
  | prepareForSleep =>
      exact inv_of_dark rfl
        (LedHal.dark_prepareForSleep hinit (.inl hawake.free))

theorem inv_step (hled : led.Inv) {input : LedInput}
    (husable : input.call.Usable) : (led.step palette input).Inv := by
  cases hinit : led.hal.initialized with
  | false => exact inv_step_fresh palette hled hinit input
  | true =>
      cases hslept : led.slept with
      | false => exact inv_step_awake palette hled hslept hinit husable
      | true =>
          obtain ⟨hstill, hdark⟩ :=
            dark_step palette hslept (hled.dark hslept hinit) input
          exact inv_of_dark hstill hdark

theorem inv_run {inputs : List LedInput}
    (husable : ∀ input ∈ inputs, input.call.Usable) (hled : led.Inv) :
    (run (step palette) led inputs).Inv := by
  have hstep : ∀ (led : LedRun) (input : LedInput), led.Inv →
      input.call.Usable → (led.step palette input).Inv :=
    fun _ _ hled husable => inv_step palette hled husable
  exact invariant_run hstep hled (guarded_of_forall_mem husable _)

section Shown

variable (hled : led.Inv) (hslept : led.slept = false)
  (hinit : led.hal.initialized = true)
include hled hslept hinit

theorem ledOn_iff : led.hal.ledOn = true ↔ led.hal.shown ≠ 0 := by
  have hawake := hled.awake hslept hinit
  rw [hawake.ledOn, hawake.shown]
  exact bne_iff_ne

theorem shown_of_solid (hflash : led.flash = none)
    (hsolid : led.hal.currentPattern = .solid) :
    led.hal.shown = if led.flashed then 0 else led.hal.currentColor := by
  have hlit := hled.lit hslept hinit hflash
  rw [(hled.awake hslept hinit).shown]
  unfold LedHal.Lit at hlit
  rw [hsolid] at hlit
  exact hlit

theorem shown_of_blinks (hflash : led.flash = none)
    (hblinks : led.hal.currentPattern.blinks = true) :
    led.hal.shown = if led.hal.ledOn then led.hal.currentColor else 0 := by
  have hon := ledOn_iff hled hslept hinit
  have hlit := hled.lit hslept hinit hflash
  rw [LedHal.lit_iff_of_blinks hblinks] at hlit
  rw [(hled.awake hslept hinit).shown] at hon ⊢
  split_ifs with hledOn
  · exact hlit.resolve_left (hon.mp hledOn)
  · exact not_not.mp (mt hon.mpr hledOn)

end Shown

/-- After any calls, from a reset on: once it was prepared for sleep the LED stays
black, and before that it shows its pattern; but a flash ends a steady colour
until the next call that sets one. -/
theorem shows_pattern (shown : ℕ) (held : Bool) {inputs : List LedInput}
    (husable : ∀ input ∈ inputs, input.call.Usable) :
    let led := run (step palette) (start shown held) inputs
    led.hal.initialized = true →
      (led.slept = true → led.hal.shown = 0) ∧
      (led.slept = false →
        (led.hal.ledOn = true ↔ led.hal.shown ≠ 0) ∧
        (led.flash = none →
          (led.hal.currentPattern = .off → led.hal.shown = 0) ∧
          (led.hal.currentPattern = .solid → led.hal.shown =
            if led.flashed then 0 else led.hal.currentColor) ∧
          (led.hal.currentPattern.blinks = true → led.hal.shown =
            if led.hal.ledOn then led.hal.currentColor else 0))) := by
  intro led hinit
  have hled : led.Inv := inv_run palette husable (inv_start shown held)
  refine ⟨fun hslept => (hled.dark hslept hinit).shown, fun hslept => ?_⟩
  refine ⟨ledOn_iff hled hslept hinit, fun hflash => ⟨fun hoff => ?_,
    shown_of_solid hled hslept hinit hflash,
    shown_of_blinks hled hslept hinit hflash⟩⟩
  have hlit := hled.lit hslept hinit hflash
  rw [(hled.awake hslept hinit).shown]
  unfold LedHal.Lit at hlit
  rw [hoff] at hlit
  exact hlit

end LedRun

def blackPalette : LedPalette where
  breathe := fun _ _ => 0
  rainbow := fun _ => 0
  breathe_lt := fun _ _ => by decide
  rainbow_lt := fun _ => by decide

def flashedSolid : List LedInput :=
  [⟨0, .init⟩, ⟨5, .setColor 0xFF⟩, ⟨9, .beginFlash 0xFF00⟩, ⟨109, .endFlash⟩]

/-- A steady colour is gone after a flash. -/
theorem LedRun.shows_pattern_flashed :
    let led := run (step blackPalette) (start 7 true) flashedSolid
    led.hal.currentPattern = .solid ∧ led.hal.currentColor = 0xFF ∧
      led.hal.shown = 0 := by
  intro led
  have husable : ∀ input ∈ flashedSolid, input.call.Usable := by decide
  obtain ⟨-, hawake⟩ := shows_pattern blackPalette 7 true husable (by decide)
  obtain ⟨-, hshown⟩ := hawake (by decide)
  obtain ⟨-, hsolid, -⟩ := hshown (by decide)
  exact ⟨by decide, by decide, hsolid (by decide)⟩

end SensorFirmware
