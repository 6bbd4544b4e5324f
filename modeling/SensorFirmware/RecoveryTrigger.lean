import SensorFirmware.CrashRecovery

/-!
# The power-cycle trigger against a count of boots

The trigger reads the RTC copy of a counter whose other copy is in NVS.  A
ghost count of eligible boots since the last stability reset or flasher entry
says when recovery is due.  The NVS copy equals that count after every event;
the RTC copy equals it too, or it is a remainder below the trigger that only
boots which do not count can see.
-/

namespace SensorFirmware

open GuardedRun

def EspResetReason.isEligible (reason : EspResetReason) : Bool :=
  reason == .powerOn || reason == .sw

/-- The device with the eligible boots since the last stability reset or
flasher entry. -/
structure CountedDevice where
  device : BootDevice
  count : ℕ
  deriving DecidableEq, Repr

def countEligible (count : ℕ) (reason : EspResetReason) : ℕ :=
  if reason.isEligible then count + 1 else count

namespace CountedDevice

def start (device : BootDevice) : CountedDevice := ⟨device, 0⟩

def countAfter (cfg : BootConfig) (state : CountedDevice) : BootEvent → ℕ
  | .reset boot =>
      if (state.device.setup cfg boot).entry.isSome then 0
      else countEligible state.count boot.reason
  | .loopPass now _ =>
      if state.device.phase = .application ∧ cfg.stabilityWindowMs < now
      then 0 else state.count
  | _ => state.count

def step (cfg : BootConfig) (state : CountedDevice) (event : BootEvent) :
    CountedDevice :=
  ⟨state.device.step cfg event, state.countAfter cfg event⟩

/-- A lost supply invalidates the RTC copy, NVS is available and takes every
write, and no erase happens. -/
def Undisturbed (cfg : BootConfig) (state : CountedDevice) :
    BootEvent → Prop
  | .reset boot =>
      (∀ found ∈ boot.powerLoss, found.rtcMagic ≠ cfg.rtcMagicKey) ∧
        boot.nvsInitOk ∧ boot.nvsOpenOk ∧ boot.nvsGetOk ∧
        boot.incrementOk ∧ boot.resetOk ∧
        (state.device.setup cfg boot).erase = none
  | .loopPass _ writeOk => writeOk
  | _ => True

instance (cfg : BootConfig) (state : CountedDevice) :
    ∀ event, Decidable (state.Undisturbed cfg event)
  | .reset _ => inferInstanceAs (Decidable (_ ∧ _))
  | .setupCompleted => isTrue trivial
  | .loopPass _ writeOk => inferInstanceAs (Decidable (writeOk = true))
  | .enterOtaMode => isTrue trivial

end CountedDevice

/-! ## The two copies -/

/-- The counters of a booted device against the count. -/
structure Synced (cfg : BootConfig) (device : BootDevice) (count : ℕ) :
    Prop where
  magic : device.rtc.rtcMagic = cfg.rtcMagicKey
  available : device.tracker.available = true
  counted : device.tracker.counter.toNat = count
  stored : device.nvsCounter.getD 0 = device.tracker.counter
  copied : device.rtc.stabilityCounter.toNat = count ∨ count = 0

structure TriggerInv (cfg : BootConfig) (state : CountedDevice) : Prop where
  below : state.count < cfg.recoveryTriggerCount.toNat
  stored : (state.device.nvsCounter.getD 0).toNat = state.count
  rtc : state.device.rtc.rtcMagic = cfg.rtcMagicKey →
    state.device.rtc.stabilityCounter < cfg.recoveryTriggerCount ∧
      (state.device.rtc.stabilityCounter.toNat = state.count ∨
        state.count = 0)
  booted : state.device.phase ≠ .stopped →
    Synced cfg state.device state.count

namespace Synced

variable {cfg : BootConfig} {device : BootDevice} {count : ℕ}

theorem resetCounter (hsync : Synced cfg device count) :
    Synced cfg (device.resetCounter true) 0 := by
  have havailable := hsync.available
  by_cases hzero : device.tracker.counter = 0
  · have hsame : device.resetCounter true = device := by
      simp [BootDevice.resetCounter, BootRecoveryTracker.resetCounter,
        havailable, hzero]
    rw [hsame]
    exact ⟨hsync.magic, havailable, by simp [hzero], hsync.stored, .inr rfl⟩
  · constructor <;>
      simp [BootDevice.resetCounter, BootRecoveryTracker.resetCounter,
        BootRecoveryTracker.persistCounter, havailable, hzero, hsync.magic]

theorem setStabilityCounter (hsync : Synced cfg device 0)
    (value : UInt32) :
    Synced cfg (device.setStabilityCounter value) 0 :=
  ⟨hsync.magic, hsync.available, hsync.counted, hsync.stored, .inr rfl⟩

theorem clearBoth (hsync : Synced cfg device count) :
    Synced cfg ((device.setStabilityCounter 0).resetCounter true) 0 :=
  hsync.resetCounter.setStabilityCounter 0

theorem withPhase (hsync : Synced cfg device count) (phase : BootPhase) :
    Synced cfg { device with phase := phase } count :=
  ⟨hsync.magic, hsync.available, hsync.counted, hsync.stored, hsync.copied⟩

/-- A boot that counts writes both copies from the NVS one. -/
theorem countBoot (hsync : Synced cfg device count) {boot : BootReset}
    (heligible : boot.reason.isEligible) (hwrite : boot.incrementOk)
    (hroom : count + 1 < 2 ^ 32) :
    Synced cfg (device.countBoot boot) (count + 1) ∧
      (device.countBoot boot).rtc.stabilityCounter.toNat = count + 1 := by
  have hreason : boot.reason = .powerOn ∨ boot.reason = .sw := by
    simpa [EspResetReason.isEligible] using heligible
  have hcounts : BootRecoveryTracker.shouldIncrement boot.reason = true :=
    heligible
  have hnext : (device.tracker.counter + 1).toNat = count + 1 := by
    rw [UInt32.toNat_add, hsync.counted]
    exact Nat.mod_eq_of_lt hroom
  have hboot : device.countBoot boot =
      { device with
        rtc := { device.rtc with
          stabilityCounter := device.tracker.counter + 1 }
        tracker := { device.tracker with
          counter := device.tracker.counter + 1 }
        nvsCounter := some (device.tracker.counter + 1) } := by
    simp [BootDevice.countBoot, hreason, hsync.available, hcounts, hwrite,
      BootRecoveryTracker.incrementIfEligible,
      BootRecoveryTracker.persistCounter, BootDevice.setStabilityCounter]
  rw [hboot]
  exact ⟨⟨hsync.magic, hsync.available, hnext, rfl, .inl hnext⟩, hnext⟩

end Synced

theorem BootDevice.countBoot_of_ineligible (device : BootDevice)
    {boot : BootReset} (hreason : boot.reason.isEligible = false) :
    device.countBoot boot = device := by
  have hnot : ¬ (boot.reason = .powerOn ∨ boot.reason = .sw) := by
    simpa [EspResetReason.isEligible] using hreason
  simp [BootDevice.countBoot, hnot]

/-! ## One boot -/

section Boot

variable {cfg : BootConfig} {state : CountedDevice} {boot : BootReset}

/-- The device once the counters are loaded, before this boot is counted. -/
def CountedDevice.loaded (cfg : BootConfig) (state : CountedDevice)
    (boot : BootReset) : BootDevice :=
  (((state.device.powerUp boot).crashRecovery boot).1.initTracker
    boot).initBootState cfg

/-- The tracker has read the NVS copy, which the crash check did not erase. -/
theorem tracker_undisturbed
    (hguard : state.Undisturbed cfg (.reset boot)) :
    (((state.device.powerUp boot).crashRecovery boot).1.initTracker
        boot).tracker = ⟨true, true, state.device.nvsCounter.getD 0⟩ ∧
      (((state.device.powerUp boot).crashRecovery boot).1.initTracker
        boot).nvsCounter = state.device.nvsCounter := by
  obtain ⟨-, hinit, hopen, hget, -, -, herase⟩ := hguard
  have hkept : (performCrashRecoveryCheck
      (state.device.powerUp boot).rtc.crashCounter boot).2 = none := herase
  have hnot : ¬ (performCrashRecoveryCheck
      (state.device.powerUp boot).rtc.crashCounter boot).2 =
        some true := by simp [hkept]
  have hnvs : ((state.device.powerUp boot).crashRecovery boot).1.nvsCounter =
      state.device.nvsCounter := if_neg hnot
  refine ⟨?_, hnvs⟩
  rw [← hnvs]
  simp [BootDevice.initTracker, BootRecoveryTracker.init,
    BootDevice.crashRecovery, BootDevice.powerUp,
    BootRecoveryTracker.construct, hinit, hopen, hget]

/-- Only retained memory has the magic word, as lost memory never has it. -/
theorem retained_of_magic (hguard : state.Undisturbed cfg (.reset boot))
    (hmagic : (((state.device.powerUp boot).crashRecovery boot).1.initTracker
      boot).rtc.rtcMagic = cfg.rtcMagicKey) :
    state.device.rtc.rtcMagic = cfg.rtcMagicKey ∧
      (((state.device.powerUp boot).crashRecovery boot).1.initTracker
        boot).rtc.stabilityCounter = state.device.rtc.stabilityCounter := by
  have hretained : boot.powerLoss = none := by
    cases hlost : boot.powerLoss with
    | none => rfl
    | some found =>
        have hfound : found.rtcMagic = cfg.rtcMagicKey := by
          simpa [BootDevice.crashRecovery, BootDevice.powerUp, hlost]
            using hmagic
        exact absurd hfound (hguard.1 found (by simp [hlost]))
  refine ⟨?_, ?_⟩
  · simpa [BootDevice.crashRecovery, BootDevice.powerUp, hretained]
      using hmagic
  · simp [BootDevice.crashRecovery, BootDevice.powerUp, hretained]

theorem loaded_synced (hinv : TriggerInv cfg state)
    (hguard : state.Undisturbed cfg (.reset boot)) :
    Synced cfg (state.loaded cfg boot) state.count ∧
      (state.loaded cfg boot).rtc.stabilityCounter <
        cfg.recoveryTriggerCount := by
  obtain ⟨htracker, hstored⟩ := tracker_undisturbed hguard
  have hretained := retained_of_magic hguard
  have hbelow : state.device.nvsCounter.getD 0 <
      cfg.recoveryTriggerCount := by
    rw [UInt32.lt_iff_toNat_lt, hinv.stored]
    exact hinv.below
  unfold CountedDevice.loaded
  generalize ((state.device.powerUp boot).crashRecovery boot).1.initTracker
    boot = tracked at htracker hstored hretained ⊢
  by_cases hmagic : tracked.rtc.rtcMagic = cfg.rtcMagicKey
  · -- The RTC memory was retained, and nothing is copied to it.
    obtain ⟨hold, hsame⟩ := hretained hmagic
    have hrtc := hinv.rtc hold
    have hkept : tracked.initBootState cfg = tracked := by
      simp [BootDevice.initBootState, hmagic]
    rw [hkept]
    refine ⟨⟨hmagic, ?_, ?_, ?_, ?_⟩, ?_⟩
    · rw [htracker]
    · rw [htracker]
      exact hinv.stored
    · rw [htracker, hstored]
    · rw [hsame]
      exact hrtc.2
    · rw [hsame]
      exact hrtc.1
  · have hrestored : tracked.initBootState cfg =
        { tracked with
          rtc := { tracked.rtc with
            rtcMagic := cfg.rtcMagicKey
            bootMode := cfg.modeNormal
            stabilityCounter := state.device.nvsCounter.getD 0 } } := by
      simp [BootDevice.initBootState, hmagic, htracker]
    rw [hrestored]
    refine ⟨⟨rfl, ?_, ?_, ?_, .inl hinv.stored⟩, hbelow⟩
    · rw [htracker]
    · rw [htracker]
      exact hinv.stored
    · change tracked.nvsCounter.getD 0 = _
      rw [htracker, hstored]

/-- What is found before the entry check: the count with this boot, both
copies of it on a boot that counts, and otherwise no reason to trigger. -/
theorem counted_synced (hinv : TriggerInv cfg state)
    (hguard : state.Undisturbed cfg (.reset boot)) :
    let counted := (state.loaded cfg boot).countBoot boot
    Synced cfg counted (countEligible state.count boot.reason) ∧
      (cfg.recoveryTriggerCount ≤ counted.rtc.stabilityCounter ↔
        boot.reason.isEligible ∧
          state.count + 1 = cfg.recoveryTriggerCount.toNat) := by
  obtain ⟨hsync, hlow⟩ := loaded_synced hinv hguard
  have hbelow := hinv.below
  cases hreason : boot.reason.isEligible with
  | false =>
      rw [BootDevice.countBoot_of_ineligible _ hreason]
      simp only [countEligible, hreason, Bool.false_eq_true, if_false,
        false_and, iff_false, UInt32.not_le]
      exact ⟨hsync, hlow⟩
  | true =>
      have hroom : state.count + 1 < 2 ^ 32 :=
        Nat.lt_of_le_of_lt hbelow cfg.recoveryTriggerCount.toNat_lt
      obtain ⟨hnext, hcopy⟩ :=
        hsync.countBoot hreason hguard.2.2.2.2.1 hroom
      simp only [countEligible, hreason, if_true, true_and]
      refine ⟨hnext, ?_⟩
      rw [UInt32.le_iff_toNat_le, hcopy]
      omega

/-- The entry check on the counters of one boot. -/
theorem checkEntry_synced {device : BootDevice} {count : ℕ}
    (hsync : Synced cfg device count) :
    ((device.checkEntry cfg true).2 = some .recoveryTrigger ↔
        cfg.recoveryTriggerCount ≤ device.rtc.stabilityCounter) ∧
      Synced cfg (device.checkEntry cfg true).1
        (if (device.checkEntry cfg true).2.isSome then 0 else count) ∧
      (device.checkEntry cfg true).1.rtc.stabilityCounter =
        (if cfg.recoveryTriggerCount ≤ device.rtc.stabilityCounter then 0
          else device.rtc.stabilityCounter) := by
  have hrequested : Synced cfg (device.takeRequest cfg).1 count ∧
      (device.takeRequest cfg).1.rtc.stabilityCounter =
        device.rtc.stabilityCounter := by
    unfold BootDevice.takeRequest
    split
    · exact ⟨⟨hsync.magic, hsync.available, hsync.counted, hsync.stored,
        hsync.copied⟩, rfl⟩
    · exact ⟨hsync, rfl⟩
  by_cases htrigger :
      cfg.recoveryTriggerCount ≤ device.rtc.stabilityCounter
  · have htake : (device.takeRequest cfg).1.takeTrigger cfg true =
        (((device.takeRequest cfg).1.setStabilityCounter 0).resetCounter
          true, true) := by
      simp [BootDevice.takeTrigger, hrequested.2, htrigger]
    have hcleared := (hrequested.1.clearBoth.resetCounter).withPhase .flasher
    simp only [BootDevice.checkEntry, htake, if_true, Option.isSome_some,
      htrigger]
    exact ⟨trivial, hcleared, rfl⟩
  · have htake : (device.takeRequest cfg).1.takeTrigger cfg true =
        ((device.takeRequest cfg).1, false) := by
      simp [BootDevice.takeTrigger, hrequested.2, htrigger]
    cases hasked : (device.takeRequest cfg).2 with
    | false =>
        simp only [BootDevice.checkEntry, htake, hasked, htrigger,
          Bool.false_eq_true, if_false, Option.isSome_none]
        exact ⟨by simp, hrequested.1, hrequested.2⟩
    | true =>
        have hentered := hrequested.1.resetCounter.withPhase .flasher
        simp only [BootDevice.checkEntry, htake, hasked, htrigger,
          Bool.false_eq_true, if_false, if_true, Option.isSome_some]
        exact ⟨by simp, hentered, hrequested.2⟩

end Boot

/-! ## Every run -/

theorem TriggerInv.of_synced {cfg : BootConfig} {state : CountedDevice}
    (hsync : Synced cfg state.device state.count)
    (hbelow : state.count < cfg.recoveryTriggerCount.toNat)
    (hlow : state.device.rtc.stabilityCounter < cfg.recoveryTriggerCount) :
    TriggerInv cfg state where
  below := hbelow
  stored := by rw [hsync.stored, hsync.counted]
  rtc := fun _ => ⟨hlow, hsync.copied⟩
  booted := fun _ => hsync

theorem brownoutRecovery_synced {cfg : BootConfig} {device : BootDevice}
    {count : ℕ} (hsync : Synced cfg device count) (boot : BootReset) :
    Synced cfg (device.brownoutRecovery boot) count := by
  unfold BootDevice.brownoutRecovery
  split
  · exact hsync.withPhase .stopped
  · exact hsync

section Run

variable {cfg : BootConfig} {state : CountedDevice}

theorem setup_entry {boot : BootReset} (hreset : boot.resetOk = true) :
    (state.device.setup cfg boot).entry =
      (((state.loaded cfg boot).countBoot boot).checkEntry cfg true).2 := by
  rw [← hreset]
  rfl

theorem entry_iff {boot : BootReset} (hinv : TriggerInv cfg state)
    (hguard : state.Undisturbed cfg (.reset boot)) :
    (state.device.setup cfg boot).entry = some .recoveryTrigger ↔
      boot.reason.isEligible ∧
        state.count + 1 = cfg.recoveryTriggerCount.toNat := by
  have hreset : boot.resetOk = true := hguard.2.2.2.2.2.1
  have hcounted := counted_synced hinv hguard
  rw [setup_entry hreset]
  exact (checkEntry_synced hcounted.1).1.trans hcounted.2

theorem reset_keeps (hpos : 0 < cfg.recoveryTriggerCount)
    {boot : BootReset} (hinv : TriggerInv cfg state)
    (hguard : state.Undisturbed cfg (.reset boot)) :
    TriggerInv cfg (state.step cfg (.reset boot)) := by
  have hreset : boot.resetOk = true := hguard.2.2.2.2.2.1
  obtain ⟨hsync, htrigger⟩ := counted_synced hinv hguard
  obtain ⟨hentry, hafter, hcopy⟩ := checkEntry_synced hsync
  have hdevice : (state.device.setup cfg boot).device =
      (((state.loaded cfg boot).countBoot boot).checkEntry cfg
        true).1.brownoutRecovery boot := by
    rw [← hreset]
    rfl
  have hcount : (state.step cfg (.reset boot)).count =
      if (((state.loaded cfg boot).countBoot boot).checkEntry cfg
        true).2.isSome then 0
      else countEligible state.count boot.reason := by
    rw [← setup_entry hreset]
    rfl
  have hpositive : 0 < cfg.recoveryTriggerCount.toNat := by
    rw [UInt32.lt_iff_toNat_lt] at hpos
    exact hpos
  apply TriggerInv.of_synced
  · change Synced cfg (state.device.setup cfg boot).device _
    rw [hcount, hdevice]
    exact brownoutRecovery_synced hafter boot
  · rw [hcount]
    split
    · exact hpositive
    case isFalse hstay =>
      -- A boot that reached the count would have entered.
      have hnot : ¬ (boot.reason.isEligible ∧
          state.count + 1 = cfg.recoveryTriggerCount.toNat) := by
        intro hreached
        have hsome := hentry.mpr (htrigger.mpr hreached)
        exact hstay (by simp [hsome])
      have hbelow := hinv.below
      unfold countEligible
      split
      case isTrue heligible =>
        have hne : state.count + 1 ≠ cfg.recoveryTriggerCount.toNat :=
          fun heq => hnot ⟨heligible, heq⟩
        omega
      case isFalse => exact hbelow
  · change (state.device.setup cfg boot).device.rtc.stabilityCounter < _
    rw [hdevice, BootDevice.brownoutRecovery_rtc, hcopy]
    split
    · exact hpos
    case isFalse hlow => exact UInt32.not_le.mp hlow

theorem loopPass_keeps {now : UInt32} {writeOk : Bool}
    (hpos : 0 < cfg.recoveryTriggerCount) (hinv : TriggerInv cfg state)
    (hwrite : writeOk = true) :
    TriggerInv cfg (state.step cfg (.loopPass now writeOk)) := by
  subst hwrite
  by_cases hrunning : state.device.phase = .application
  · have hsync : Synced cfg state.device state.count :=
      hinv.booted (by simp [hrunning])
    have hlow := (hinv.rtc hsync.magic).1
    have hpositive : 0 < cfg.recoveryTriggerCount.toNat := by
      rw [UInt32.lt_iff_toNat_lt] at hpos
      exact hpos
    by_cases hstable : cfg.stabilityWindowMs < now
    · have hcount : (state.step cfg (.loopPass now true)).count = 0 := by
        simp [CountedDevice.step, CountedDevice.countAfter, hrunning,
          hstable]
      have hdevice : (state.step cfg (.loopPass now true)).device =
          state.device.loopPass cfg now true := by
        simp [CountedDevice.step, BootDevice.step, hrunning]
      by_cases hcopy : 0 < state.device.rtc.stabilityCounter
      · have hcleared : state.device.loopPass cfg now true =
            (state.device.setStabilityCounter 0).resetCounter true :=
          if_pos ⟨hcopy, hstable⟩
        apply TriggerInv.of_synced
        · rw [hcount, hdevice, hcleared]
          exact hsync.clearBoth
        · rw [hcount]
          exact hpositive
        · rw [hdevice, hcleared]
          exact hpos
      · -- With the RTC copy at zero, the count is zero already.
        have hsame : state.device.loopPass cfg now true = state.device :=
          if_neg (fun hboth => hcopy hboth.1)
        have hzero : state.count = 0 := by
          rcases hsync.copied with heq | heq
          · have hnone : state.device.rtc.stabilityCounter.toNat = 0 := by
              rw [UInt32.lt_iff_toNat_lt] at hcopy
              simpa using hcopy
            omega
          · exact heq
        apply TriggerInv.of_synced
        · rw [hcount, hdevice, hsame, ← hzero]
          exact hsync
        · rw [hcount]
          exact hpositive
        · rw [hdevice, hsame]
          exact hlow
    · have hsame : state.step cfg (.loopPass now true) = state := by
        simp [CountedDevice.step, CountedDevice.countAfter, BootDevice.step,
          BootDevice.loopPass, hstable]
      rw [hsame]
      exact hinv
  · have hsame : state.step cfg (.loopPass now true) = state := by
      simp [CountedDevice.step, CountedDevice.countAfter, BootDevice.step,
        hrunning]
    rw [hsame]
    exact hinv

theorem enterOtaMode_keeps (hinv : TriggerInv cfg state) :
    TriggerInv cfg (state.step cfg .enterOtaMode) := by
  by_cases hrunning : state.device.phase = .application
  · have hsync : Synced cfg state.device state.count :=
      hinv.booted (by simp [hrunning])
    have hdevice : (state.step cfg .enterOtaMode).device =
        state.device.enterOtaMode cfg := by
      simp [CountedDevice.step, BootDevice.step, hrunning]
    apply TriggerInv.of_synced
    · rw [hdevice]
      exact ⟨rfl, hsync.available, hsync.counted, hsync.stored,
        hsync.copied⟩
    · exact hinv.below
    · rw [hdevice]
      exact (hinv.rtc hsync.magic).1
  · have hsame : state.step cfg .enterOtaMode = state := by
      simp [CountedDevice.step, CountedDevice.countAfter, BootDevice.step,
        hrunning]
    rw [hsame]
    exact hinv

theorem completeSetup_keeps (hinv : TriggerInv cfg state) :
    TriggerInv cfg (state.step cfg .setupCompleted) := by
  by_cases hrunning : state.device.phase = .application
  · have hsync : Synced cfg state.device state.count :=
      hinv.booted (by simp [hrunning])
    have hdevice : (state.step cfg .setupCompleted).device =
        state.device.completeSetup := by
      simp [CountedDevice.step, BootDevice.step, hrunning]
    apply TriggerInv.of_synced
    · rw [hdevice]
      exact ⟨hsync.magic, hsync.available, hsync.counted, hsync.stored,
        hsync.copied⟩
    · exact hinv.below
    · rw [hdevice]
      exact (hinv.rtc hsync.magic).1
  · have hsame : state.step cfg .setupCompleted = state := by
      simp [CountedDevice.step, CountedDevice.countAfter, BootDevice.step,
        hrunning]
    rw [hsame]
    exact hinv

theorem trigger_step_keeps (hpos : 0 < cfg.recoveryTriggerCount)
    (state : CountedDevice) (event : BootEvent)
    (hinv : TriggerInv cfg state) (hguard : state.Undisturbed cfg event) :
    TriggerInv cfg (state.step cfg event) := by
  cases event with
  | reset boot => exact reset_keeps hpos hinv hguard
  | setupCompleted => exact completeSetup_keeps hinv
  | loopPass now writeOk => exact loopPass_keeps hpos hinv hguard
  | enterOtaMode => exact enterOtaMode_keeps hinv

end Run

/-- A device that has no power yet: nothing counted, and no valid magic in
the RTC memory. -/
structure BootDevice.Unpowered (cfg : BootConfig) (device : BootDevice) :
    Prop where
  phase : device.phase = .stopped
  uncounted : device.nvsCounter.getD 0 = 0
  magic : device.rtc.rtcMagic ≠ cfg.rtcMagicKey

theorem TriggerInv.start {cfg : BootConfig} {device : BootDevice}
    (hpos : 0 < cfg.recoveryTriggerCount)
    (hunpowered : device.Unpowered cfg) :
    TriggerInv cfg (.start device) where
  below := by
    rw [UInt32.lt_iff_toNat_lt] at hpos
    exact hpos
  stored := by simp [CountedDevice.start, hunpowered.uncounted]
  rtc := fun hmagic => absurd hmagic hunpowered.magic
  booted := fun hbooted => absurd hunpowered.phase hbooted

/-- After any run, the next boot enters the flasher by the power-cycle
trigger exactly if it is eligible and brings the count to the trigger. -/
theorem recovery_trigger_exact (cfg : BootConfig)
    (hpos : 0 < cfg.recoveryTriggerCount) (device : BootDevice)
    (hunpowered : device.Unpowered cfg) (events : List BootEvent)
    (hrun : Guarded (CountedDevice.step cfg)
      (CountedDevice.Undisturbed cfg) (.start device) events)
    (boot : BootReset)
    (hboot : (run (CountedDevice.step cfg) (.start device)
      events).Undisturbed cfg (.reset boot)) :
    ((run (CountedDevice.step cfg) (.start device) events).device.setup cfg
        boot).entry = some .recoveryTrigger ↔
      boot.reason.isEligible ∧
        (run (CountedDevice.step cfg) (.start device) events).count + 1 =
          cfg.recoveryTriggerCount.toNat := by
  have hinv := invariant_run (trigger_step_keeps hpos)
    (TriggerInv.start hpos hunpowered) hrun
  exact entry_iff hinv hboot

/-- A requested flasher session starts the count anew, and a crash in between
does not count. -/
theorem third_boot_after_request_triggers :
    ((run (CountedDevice.step smallBootConfig) (.start emptyDevice)
        [.reset (powerOnReset (some .valid) garbageRtc), .enterOtaMode,
          .reset (warmReset .sw none), .reset (warmReset .sw none),
          .reset (warmReset .panic none),
          .reset (powerOnReset none garbageRtc)]).device.setup
        smallBootConfig (warmReset .sw none)).entry =
      some .recoveryTrigger :=
  (recovery_trigger_exact smallBootConfig (by decide) emptyDevice
    ⟨rfl, rfl, by decide⟩
    [.reset (powerOnReset (some .valid) garbageRtc), .enterOtaMode,
      .reset (warmReset .sw none), .reset (warmReset .sw none),
      .reset (warmReset .panic none),
      .reset (powerOnReset none garbageRtc)]
    (by decide) (warmReset .sw none) (by decide)).mpr (by decide)

end SensorFirmware
