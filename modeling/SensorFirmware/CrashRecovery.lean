import SensorFirmware.BootSequence
import SensorFirmware.GuardedRun

/-!
# The emergency erase and the crash count

The check erases NVS once its counter, kept in uninitialised RTC memory,
reaches the threshold.  A ghost count of crash resets bounds that counter as
long as every cold boot leaves it at zero.  A cold boot of an image pending
verification returns before it clears the counter, so the counter may then be
ahead of the count.
-/

namespace SensorFirmware

open GuardedRun

/-- The device with the crash resets since the last cold boot or completed
setup, and with that number at each erase. -/
structure CrashHistory where
  device : BootDevice
  crashResets : ℕ
  eraseCounts : List ℕ
  deriving DecidableEq, Repr

/-- The number of crash resets once this reset is counted. -/
def countReset (crashResets : ℕ) (reason : EspResetReason) : ℕ :=
  if reason.isColdBoot then 0
  else if reason.wasCrashReset then crashResets + 1
  else crashResets

namespace CrashHistory

def start (device : BootDevice) : CrashHistory := ⟨device, 0, []⟩

def reset (cfg : BootConfig) (history : CrashHistory) (boot : BootReset) :
    CrashHistory :=
  let outcome := history.device.setup cfg boot
  let counted := countReset history.crashResets boot.reason
  { device := outcome.device
    crashResets := counted
    eraseCounts :=
      if outcome.erase.isSome then history.eraseCounts ++ [counted]
      else history.eraseCounts }

def step (cfg : BootConfig) (history : CrashHistory) :
    BootEvent → CrashHistory
  | .reset boot => history.reset cfg boot
  | .setupCompleted =>
      { history with
        device := history.device.step cfg .setupCompleted
        crashResets :=
          if history.device.phase = .application then 0
          else history.crashResets }
  | event => { history with device := history.device.step cfg event }

/-- The crash counter as a boot finds it. -/
def counterAt (history : CrashHistory) (boot : BootReset) : UInt32 :=
  (history.device.powerUp boot).rtc.crashCounter

end CrashHistory

/-- The early return of the check on a boot that should clear the counter. -/
def BootReset.skipsClearing (boot : BootReset) : Bool :=
  boot.reason.isColdBoot && boot.otaState == some .pendingVerify

/-- A cold boot that skips the clearing finds the counter at zero. -/
def CrashHistory.Cleared (history : CrashHistory) : BootEvent → Prop
  | .reset boot => boot.skipsClearing → history.counterAt boot = 0
  | _ => True

instance (history : CrashHistory) :
    ∀ event, Decidable (history.Cleared event)
  | .reset boot =>
      inferInstanceAs
        (Decidable (boot.skipsClearing → history.counterAt boot = 0))
  | .setupCompleted => isTrue trivial
  | .loopPass _ _ => isTrue trivial
  | .enterOtaMode => isTrue trivial

/-! ## The crash counter over one boot -/

namespace BootDevice

@[simp] theorem resetCounter_rtc (device : BootDevice) (writeOk : Bool) :
    (device.resetCounter writeOk).rtc = device.rtc := rfl

@[simp] theorem setStabilityCounter_crashCounter (device : BootDevice)
    (value : UInt32) :
    (device.setStabilityCounter value).rtc.crashCounter =
      device.rtc.crashCounter := rfl

@[simp] theorem initTracker_rtc (device : BootDevice) (boot : BootReset) :
    (device.initTracker boot).rtc = device.rtc := rfl

@[simp] theorem initBootState_crashCounter (cfg : BootConfig)
    (device : BootDevice) :
    (device.initBootState cfg).rtc.crashCounter =
      device.rtc.crashCounter := by
  unfold initBootState
  split <;> rfl

@[simp] theorem countBoot_crashCounter (device : BootDevice)
    (boot : BootReset) :
    (device.countBoot boot).rtc.crashCounter = device.rtc.crashCounter := by
  unfold countBoot
  split
  · split <;> rfl
  · rfl

@[simp] theorem takeRequest_crashCounter (cfg : BootConfig)
    (device : BootDevice) :
    (device.takeRequest cfg).1.rtc.crashCounter =
      device.rtc.crashCounter := by
  unfold takeRequest
  split <;> rfl

@[simp] theorem takeTrigger_crashCounter (cfg : BootConfig)
    (device : BootDevice) (resetOk : Bool) :
    (device.takeTrigger cfg resetOk).1.rtc.crashCounter =
      device.rtc.crashCounter := by
  unfold takeTrigger
  split <;> rfl

@[simp] theorem checkEntry_crashCounter (cfg : BootConfig)
    (device : BootDevice) (resetOk : Bool) :
    (device.checkEntry cfg resetOk).1.rtc.crashCounter =
      device.rtc.crashCounter := by
  rw [checkEntry_rtc]
  simp

@[simp] theorem brownoutRecovery_rtc (device : BootDevice)
    (boot : BootReset) : (device.brownoutRecovery boot).rtc = device.rtc := by
  unfold brownoutRecovery
  split <;> rfl

/-- A boot leaves the counter as its check does. -/
theorem setup_crashCounter (cfg : BootConfig) (device : BootDevice)
    (boot : BootReset) :
    (device.setup cfg boot).device.rtc.crashCounter =
      (performCrashRecoveryCheck
        (device.powerUp boot).rtc.crashCounter boot).1 := by
  simp [setup, crashRecovery]

@[simp] theorem loopPass_crashCounter (cfg : BootConfig)
    (device : BootDevice) (now : UInt32) (writeOk : Bool) :
    (device.loopPass cfg now writeOk).rtc.crashCounter =
      device.rtc.crashCounter := by
  unfold loopPass
  split <;> rfl

end BootDevice

/-! ## The count bounds the counter -/

theorem countCrash_le {crashCounter : UInt32} {crashResets : ℕ}
    (hbound : crashCounter.toNat ≤ crashResets) {reason : EspResetReason}
    (hwarm : reason.isColdBoot = false) :
    (countCrash crashCounter reason).toNat ≤
      countReset crashResets reason := by
  cases hcrash : reason.wasCrashReset with
  | false => simpa [countCrash, countReset, hcrash, hwarm] using hbound
  | true =>
      have hwrap : (crashCounter + 1).toNat ≤ crashCounter.toNat + 1 := by
        rw [UInt32.toNat_add]
        exact Nat.mod_le _ _
      simp only [countCrash, countReset, hcrash, hwarm, if_true, if_false,
        Bool.false_eq_true]
      omega

/-- What the check does, given a counter within the count of the resets
before it. -/
theorem performCrashRecoveryCheck_bound {crashCounter : UInt32}
    {crashResets : ℕ} {boot : BootReset}
    (hbound : boot.reason.isColdBoot = false →
      crashCounter.toNat ≤ crashResets)
    (hclear : boot.skipsClearing → crashCounter = 0) :
    (performCrashRecoveryCheck crashCounter boot).1.toNat ≤
        countReset crashResets boot.reason ∧
      ((performCrashRecoveryCheck crashCounter boot).2.isSome →
        crashRecoveryThreshold.toNat ≤
          countReset crashResets boot.reason) := by
  unfold performCrashRecoveryCheck
  cases hcold : boot.reason.isColdBoot with
  | true =>
      split
      case isTrue hpending =>
        have hzero : crashCounter = 0 :=
          hclear (by simp [BootReset.skipsClearing, hcold, hpending])
        simp [hzero]
      case isFalse => simp
  | false =>
      have hcount := countCrash_le (hbound hcold) hcold
      have hkept : crashCounter.toNat ≤
          countReset crashResets boot.reason := by
        have hle : crashResets ≤ countReset crashResets boot.reason := by
          simp only [countReset, hcold, Bool.false_eq_true, if_false]
          split <;> omega
        exact (hbound hcold).trans hle
      split
      · exact ⟨hkept, by simp⟩
      simp only [Bool.false_eq_true, if_false]
      split
      case isTrue hreached =>
        have hthreshold : crashRecoveryThreshold.toNat ≤
            countReset crashResets boot.reason :=
          (UInt32.le_iff_toNat_le.mp hreached).trans hcount
        split
        · exact ⟨by simp, fun _ => hthreshold⟩
        · exact ⟨hcount, fun _ => hthreshold⟩
      case isFalse => exact ⟨hcount, by simp⟩

namespace CrashHistory

structure Bounded (history : CrashHistory) : Prop where
  counter : history.device.rtc.crashCounter.toNat ≤ history.crashResets
  erases : ∀ count ∈ history.eraseCounts,
    crashRecoveryThreshold.toNat ≤ count

theorem counterAt_of_warm (history : CrashHistory) {boot : BootReset}
    (hwarm : boot.reason.isColdBoot = false) :
    history.counterAt boot = history.device.rtc.crashCounter := by
  have hretained : boot.powerLoss = none := by
    cases hloss : boot.powerLoss with
    | none => rfl
    | some found =>
        have hreason := boot.rtc_retained (by simp [hloss])
        simp [EspResetReason.isColdBoot] at hwarm
        simp [hwarm] at hreason
  simp [counterAt, BootDevice.powerUp, hretained]

/-- A reset keeps the bound; a cold boot makes it true of any counter. -/
theorem reset_bounded (cfg : BootConfig) {history : CrashHistory}
    {boot : BootReset}
    (herases : ∀ count ∈ history.eraseCounts,
      crashRecoveryThreshold.toNat ≤ count)
    (hbound : boot.reason.isColdBoot = false →
      history.device.rtc.crashCounter.toNat ≤ history.crashResets)
    (hclear : history.Cleared (.reset boot)) :
    (history.reset cfg boot).Bounded := by
  have hfound : boot.reason.isColdBoot = false →
      (history.counterAt boot).toNat ≤ history.crashResets := by
    intro hwarm
    rw [history.counterAt_of_warm hwarm]
    exact hbound hwarm
  have hcheck := performCrashRecoveryCheck_bound hfound hclear
  refine ⟨?_, ?_⟩
  · change ((history.device.setup cfg boot).device.rtc.crashCounter).toNat ≤ _
    rw [BootDevice.setup_crashCounter]
    exact hcheck.1
  · intro count hcount
    have herased : (history.device.setup cfg boot).erase.isSome →
        crashRecoveryThreshold.toNat ≤
          countReset history.crashResets boot.reason := hcheck.2
    simp only [reset] at hcount
    split at hcount
    case isTrue herase =>
      rcases List.mem_append.mp hcount with hold | hnew
      · exact herases count hold
      · rw [List.mem_singleton.mp hnew]
        exact herased herase
    case isFalse => exact herases count hcount

theorem step_bounded (cfg : BootConfig) (history : CrashHistory)
    (event : BootEvent) (hinv : history.Bounded)
    (hclear : history.Cleared event) : (history.step cfg event).Bounded := by
  cases event with
  | reset boot =>
      exact reset_bounded cfg hinv.erases (fun _ => hinv.counter) hclear
  | setupCompleted =>
      refine ⟨?_, hinv.erases⟩
      simp only [step, BootDevice.step]
      split
      · exact Nat.le_of_eq rfl
      · exact hinv.counter
  | loopPass now writeOk =>
      refine ⟨?_, hinv.erases⟩
      simp only [step, BootDevice.step]
      split
      · simpa using hinv.counter
      · exact hinv.counter
  | enterOtaMode =>
      refine ⟨?_, hinv.erases⟩
      simp only [step, BootDevice.step]
      split <;> exact hinv.counter

end CrashHistory

/-! ## The erase -/

/-- From a power-on with anything in the crash counter, each erase follows
enough crash resets, provided no cold boot of an image pending verification
finds a counter that it leaves uncleared. -/
theorem erase_after_repeated_crashes (cfg : BootConfig) (device : BootDevice)
    (first : BootReset) (events : List BootEvent)
    (hpower : first.reason = .powerOn)
    (hclear : Guarded (CrashHistory.step cfg) CrashHistory.Cleared
      (.start device) (.reset first :: events)) :
    ∀ count ∈ (run (CrashHistory.step cfg) (.start device)
        (.reset first :: events)).eraseCounts,
      crashRecoveryThreshold.toNat ≤ count := by
  have hfirst : ((CrashHistory.start device).reset cfg first).Bounded := by
    have hcold : first.reason.isColdBoot = true := by
      rw [hpower]
      rfl
    exact CrashHistory.reset_bounded cfg (by simp [CrashHistory.start])
      (by simp [hcold]) hclear.1
  exact (invariant_run (CrashHistory.step_bounded cfg) hfirst
    hclear.2).erases

/-! ## A rollback after a power failure -/

def smallBootConfig : BootConfig :=
  { rtcMagicKey := 0xB007B007
    modeNormal := 0
    modeFlasher := 1
    recoveryTriggerCount := 3
    stabilityWindowMs := 5000 }

/-- A boot with a working NVS and nothing lost. -/
def warmReset (reason : EspResetReason) (otaState : Option OtaImgState) :
    BootReset :=
  { reason := reason
    otaState := otaState
    powerLoss := none
    eraseOk := true
    nvsInitOk := true
    nvsOpenOk := true
    nvsGetOk := true
    incrementOk := true
    resetOk := true
    rtc_retained := by simp }

def powerOnReset (otaState : Option OtaImgState) (found : RtcNoInit) :
    BootReset :=
  { warmReset .powerOn otaState with
    powerLoss := some found
    rtc_retained := fun _ => .inl rfl }

def garbageRtc : RtcNoInit := ⟨0x5A17, 0x3C3C, 0x77, 0x91⟩

def emptyDevice : BootDevice :=
  ⟨garbageRtc, none, .construct, .stopped⟩

def threePanics : List BootEvent :=
  .reset (powerOnReset (some .valid) garbageRtc) ::
    List.replicate 3 (.reset (warmReset .panic (some .valid)))

theorem erase_after_three_panics :
    (run (CrashHistory.step smallBootConfig) (.start emptyDevice)
        threePanics).eraseCounts = [3] ∧
      ∀ count ∈ (run (CrashHistory.step smallBootConfig) (.start emptyDevice)
          threePanics).eraseCounts,
        crashRecoveryThreshold.toNat ≤ count :=
  ⟨by decide, erase_after_repeated_crashes smallBootConfig emptyDevice
    (powerOnReset (some .valid) garbageRtc)
    (List.replicate 3 (.reset (warmReset .panic (some .valid))))
    rfl (by decide)⟩

/-- The supply fails before the first boot of a new image; the self-test of
that boot fails, and the restored image erases NVS without one crash. -/
theorem erase_on_rollback_without_crash :
    ¬ ∀ (cfg : BootConfig) (device : BootDevice) (first : BootReset)
        (events : List BootEvent), first.reason = .powerOn →
        ∀ count ∈ (run (CrashHistory.step cfg) (.start device)
            (.reset first :: events)).eraseCounts,
          crashRecoveryThreshold.toNat ≤ count := by
  intro hclaim
  have hearly := hclaim smallBootConfig emptyDevice
    (powerOnReset (some .pendingVerify) garbageRtc)
    [.reset (warmReset .sw (some .valid))] rfl 0 (by decide)
  exact absurd hearly (by decide)

end SensorFirmware
