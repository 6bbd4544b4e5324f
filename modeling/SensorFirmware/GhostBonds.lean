import SensorFirmware.PairingWindow

/-!
# Clearing bonds after failed wake cycles

The count of failed bonds is kept over deep sleep and clears the bonds at the
next boot when it has reached five.  It goes up on the way to sleep whenever
a peer is connected, and is cleared by a successful encryption earlier in the
same cycle.  Beside it a ghost history counts the wake cycles that really
failed.
-/

namespace SensorFirmware

open GuardedRun

/-- The device within a wake cycle.  `streak` is the number of failed cycles
right before this one, `wronglyCleared` says that a boot cleared the bonds
after fewer than five, and `notRestarted` that a cycle with a successful
encryption ended with failures on the count. -/
structure GhostBondRun where
  device : BleDevice
  nowMs : ℕ
  connected : Bool
  encrypted : Bool
  counted : Bool
  streak : ℕ
  wronglyCleared : Bool
  notRestarted : Bool
  deriving DecidableEq, Repr

namespace GhostBondRun

/-- The first boot after power-on. -/
def start (bonds : List PeerAddress) (millis : ℕ) : GhostBondRun where
  device := ((⟨.construct, bonds, false, ⟨0, 0⟩⟩ : BleDevice).reset
    none).init millis
  nowMs := millis
  connected := false
  encrypted := false
  counted := false
  streak := 0
  wronglyCleared := false
  notRestarted := false

/-- A peer was connected in this cycle and no encryption succeeded. -/
def failed (state : GhostBondRun) : Bool :=
  state.connected && !state.encrypted

def failedCycles (state : GhostBondRun) : ℕ :=
  if state.failed then state.streak + 1 else 0

/-- `init` deletes the bonds. -/
def clearsBonds (state : GhostBondRun) (powerLoss : Option GhostBondRtc)
    (millis : ℕ) : Bool :=
  !state.device.bonds.isEmpty &&
    ((state.device.reset powerLoss).init millis).bonds.isEmpty

def boot (state : GhostBondRun) (powerLoss : Option GhostBondRtc)
    (millis : ℕ) : GhostBondRun where
  device := (state.device.reset powerLoss).init millis
  nowMs := millis
  connected := false
  encrypted := false
  counted := false
  streak := state.failedCycles
  wronglyCleared := state.wronglyCleared ||
    (state.clearsBonds powerLoss millis && decide (state.failedCycles < 5))
  notRestarted := state.notRestarted ||
    (state.encrypted &&
      state.device.rtc.consecutiveBondFailures != 0)

/-- `enterDeepSleep` counts this cycle as failed. -/
def countsFailure (state : GhostBondRun) : Bool :=
  decide (0 < state.device.bonds.length) &&
    state.device.rtc.ghostBondMagic == ghostBondMagicKey &&
    state.device.manager.deviceConnected

def step (pairingWindowMs : ℕ) (state : GhostBondRun)
    (input : TimedBleEvent) : GhostBondRun :=
  let nowMs := state.nowMs + input.elapsedMs
  let after := { state with
    device := (state.device.step pairingWindowMs (u32 nowMs) input.event).1
    nowMs := nowMs }
  match input.event with
  | .boot powerLoss => state.boot powerLoss (u32 nowMs)
  | .connected _ _ _ => { after with connected := true }
  | .authenticationComplete _ desc =>
      { after with encrypted := state.encrypted || desc.encrypted }
  | .enterDeepSleep =>
      { after with counted := state.counted || state.countsFailure }
  | _ => after

/-- A cycle is counted at most once and not after a success, a success is of
a bonded peer, and the count does not outlast a cycle that has not failed. -/
def CountedRightly (state : GhostBondRun) : BleEvent → Prop
  | .boot powerLoss =>
      (∀ found ∈ powerLoss, found.ghostBondMagic ≠ ghostBondMagicKey) ∧
        (state.failed = true ∨
          state.device.rtc.consecutiveBondFailures = 0)
  | .authenticationComplete _ desc =>
      desc.encrypted = true → desc.bonded = true ∨
        state.device.rtc.consecutiveBondFailures = 0
  | .enterDeepSleep =>
      state.countsFailure = true →
        state.encrypted = false ∧ state.counted = false
  | _ => True

instance (state : GhostBondRun) :
    ∀ event, Decidable (state.CountedRightly event)
  | .boot _ => inferInstanceAs (Decidable (_ ∧ _))
  | .authenticationComplete _ _ => inferInstanceAs (Decidable (_ → _))
  | .enterDeepSleep => inferInstanceAs (Decidable (_ → _))
  | .setEventHandler => isTrue trivial
  | .connected _ _ _ => isTrue trivial
  | .disconnected _ => isTrue trivial
  | .bondCreated _ => isTrue trivial
  | .bondDeleted _ => isTrue trivial
  | .deleteAllBonds => isTrue trivial
  | .enablePairingMode => isTrue trivial
  | .disablePairingMode => isTrue trivial
  | .update _ => isTrue trivial

end GhostBondRun

/-! ## What one event does to the count -/

namespace BleDevice

theorem init_of_reset (device : BleDevice) (powerLoss : Option GhostBondRtc)
    (millis : ℕ) :
    let rtc := initGhostBondRtc (powerLoss.getD device.rtc)
    let after := (device.reset powerLoss).init millis
    after.manager.deviceConnected = false ∧
      (0 < device.bonds.length ∧ 5 ≤ rtc.consecutiveBondFailures ∧
          after.bonds = [] ∧ after.rtc = { rtc with
            consecutiveBondFailures := 0 } ∨
        ¬(0 < device.bonds.length ∧ 5 ≤ rtc.consecutiveBondFailures) ∧
          after.bonds = device.bonds ∧ after.rtc = rtc) := by
  dsimp only
  have hfresh : (device.reset powerLoss).manager.initialized = false := rfl
  unfold init
  rw [hfresh]
  simp only [Bool.false_eq_true, if_false, startAdvertising_manager,
    startAdvertising_bonds, startAdvertising_rtc]
  unfold clearGhostBonds ghostBondDetected
  simp only [Bool.and_eq_true, decide_eq_true_eq]
  split
  case isTrue hdetected =>
    exact ⟨rfl, .inl ⟨hdetected.1, hdetected.2, rfl, rfl⟩⟩
  case isFalse hnone => exact ⟨rfl, .inr ⟨hnone, rfl, rfl⟩⟩

theorem initGhostBondRtc_magic (rtc : GhostBondRtc) :
    (initGhostBondRtc rtc).ghostBondMagic = ghostBondMagicKey := by
  unfold initGhostBondRtc
  split
  · rfl
  case isFalse hvalid => exact not_not.mp hvalid

theorem onConnectInternal_rtc (device : BleDevice)
    (connHandle millis : ℕ) (desc : LinkSecurity) :
    (device.onConnectInternal connHandle millis desc).1.rtc =
      device.rtc := by
  unfold onConnectInternal
  dsimp only
  split <;> simp

theorem onAuthenticationComplete_connected (device : BleDevice)
    (connHandle : ℕ) (desc : LinkSecurity) :
    (device.onAuthenticationComplete connHandle
        desc).1.manager.deviceConnected =
      device.manager.deviceConnected := by
  unfold onAuthenticationComplete
  dsimp only
  split_ifs <;> simp

/-- Only a success of a bonded peer touches the count. -/
theorem onAuthenticationComplete_rtc (device : BleDevice)
    (connHandle : ℕ) (desc : LinkSecurity) :
    (device.onAuthenticationComplete connHandle desc).1.rtc =
      if desc.bonded && desc.encrypted then device.resetGhostBondCounter.rtc
      else device.rtc := by
  unfold onAuthenticationComplete
  dsimp only
  cases desc.bonded <;> cases desc.encrypted <;> simp only [Bool.not_true,
    Bool.not_false, Bool.and_true, Bool.and_false, Bool.and_self, if_true,
    if_false, Bool.false_eq_true]
  split <;> simp

theorem resetGhostBondCounter_cleared {device : BleDevice}
    (hmagic : device.rtc.ghostBondMagic = ghostBondMagicKey) :
    device.resetGhostBondCounter.rtc = ⟨0, ghostBondMagicKey⟩ := by
  unfold resetGhostBondCounter
  split
  · simp [hmagic]
  case isFalse hnone =>
    have hzero : device.rtc.consecutiveBondFailures = 0 := by
      by_contra hsome
      exact hnone ⟨hmagic, by omega⟩
    cases hrtc : device.rtc
    simp_all

theorem update_connected (pairingWindowMs : ℕ) (device : BleDevice)
    (millis : ℕ) (link : Option LinkSecurity) :
    (device.update pairingWindowMs millis
        link).1.manager.deviceConnected =
      device.manager.deviceConnected := by
  have hsecurity : ∀ other : BleDevice,
      (other.watchSecurity millis link).1.manager.deviceConnected =
        other.manager.deviceConnected := by
    intro other
    unfold watchSecurity
    dsimp only
    split
    · cases link with
      | none => rfl
      | some desc => dsimp only; split_ifs <;> rfl
    · rfl
  have hparams : ∀ other : BleDevice,
      (other.applyConnParams millis).1.manager.deviceConnected =
        other.manager.deviceConnected := by
    intro other
    unfold applyConnParams
    split <;> rfl
  unfold update
  split
  · dsimp only
    rw [hsecurity, hparams]
    unfold closePairingWindow closeBootWindow
    dsimp only
    split_ifs <;> rfl
  · rfl

end BleDevice

namespace GhostBondRun

/-! ## The count against the history -/

structure Bounded (state : GhostBondRun) : Prop where
  magic : state.device.rtc.ghostBondMagic = ghostBondMagicKey
  connected : state.device.manager.deviceConnected = true →
    state.connected = true
  counted : state.counted = true → state.connected = true
  failures : state.device.rtc.consecutiveBondFailures ≤
    state.streak + if state.counted then 1 else 0
  encrypted : state.encrypted = true →
    state.device.rtc.consecutiveBondFailures = 0
  rightly : state.wronglyCleared = false ∧ state.notRestarted = false

/-- The part of the invariant that most events leave as it is. -/
theorem Bounded.of_same {state next : GhostBondRun}
    (hbounded : state.Bounded) (hrtc : next.device.rtc = state.device.rtc)
    (hdevice : next.device.manager.deviceConnected = true →
      next.connected = true)
    (hconnected : state.connected = true → next.connected = true)
    (hsame : next.encrypted = state.encrypted ∧
      next.counted = state.counted ∧ next.streak = state.streak ∧
      next.wronglyCleared = state.wronglyCleared ∧
      next.notRestarted = state.notRestarted) : next.Bounded := by
  obtain ⟨hencrypted, hcounted, hstreak, hcleared, hrestarted⟩ := hsame
  refine ⟨?_, hdevice, ?_, ?_, ?_, ?_⟩
  · rw [hrtc]
    exact hbounded.magic
  · rw [hcounted]
    exact fun hcount => hconnected (hbounded.counted hcount)
  · rw [hrtc, hstreak, hcounted]
    exact hbounded.failures
  · rw [hencrypted, hrtc]
    exact hbounded.encrypted
  · rw [hcleared, hrestarted]
    exact hbounded.rightly

/-- The count that `init` finds is within the failed cycles. -/
theorem Bounded.failures_found {state : GhostBondRun}
    (hbounded : state.Bounded) {powerLoss : Option GhostBondRtc}
    (hrightly : state.CountedRightly (.boot powerLoss)) :
    (BleDevice.initGhostBondRtc
      (powerLoss.getD state.device.rtc)).consecutiveBondFailures ≤
        state.failedCycles := by
  obtain ⟨hinvalid, hfailed⟩ := hrightly
  cases powerLoss with
  | some found =>
      have hlost := hinvalid found rfl
      simp [BleDevice.initGhostBondRtc, hlost]
  | none =>
      have hkept : BleDevice.initGhostBondRtc state.device.rtc =
          state.device.rtc := by
        simp [BleDevice.initGhostBondRtc, hbounded.magic]
      rw [Option.getD_none, hkept]
      rcases hfailed with hfailed | hzero
      · have hfailures := hbounded.failures
        have hone : state.failedCycles = state.streak + 1 := by
          simp [failedCycles, hfailed]
        rw [hone]
        split at hfailures <;> omega
      · omega

theorem Bounded.boot {state : GhostBondRun} (hbounded : state.Bounded)
    {powerLoss : Option GhostBondRtc}
    (hrightly : state.CountedRightly (.boot powerLoss)) (millis : ℕ) :
    (state.boot powerLoss millis).Bounded := by
  have hinit :=
    BleDevice.init_of_reset state.device powerLoss millis
  dsimp only at hinit
  have hcount := hbounded.failures_found hrightly
  have hmagic := BleDevice.initGhostBondRtc_magic
    (powerLoss.getD state.device.rtc)
  generalize BleDevice.initGhostBondRtc
    (powerLoss.getD state.device.rtc) = rtc at hinit hcount hmagic
  have hnew : ((state.device.reset powerLoss).init
      millis).rtc.consecutiveBondFailures ≤ state.failedCycles ∧
        ((state.device.reset powerLoss).init millis).rtc.ghostBondMagic =
          ghostBondMagicKey := by
    rcases hinit.2 with ⟨-, -, -, hafter⟩ | ⟨-, -, hafter⟩
    · simp [hafter, hmagic]
    · rw [hafter]
      exact ⟨hcount, hmagic⟩
  refine ⟨hnew.2, ?_, ?_, ?_, ?_, ?_, ?_⟩
  · intro hconnected
    change ((state.device.reset powerLoss).init
      millis).manager.deviceConnected = true at hconnected
    rw [hinit.1] at hconnected
    cases hconnected
  · simp [GhostBondRun.boot]
  · exact hnew.1
  · simp [GhostBondRun.boot]
  · -- Bonds are only deleted with five failures on the count.
    have hlong : state.clearsBonds powerLoss millis = true →
        5 ≤ state.failedCycles := by
      intro hclears
      simp only [clearsBonds, Bool.and_eq_true, Bool.not_eq_true',
        List.isEmpty_eq_false_iff, List.isEmpty_iff] at hclears
      rcases hinit.2 with ⟨-, hfive, -, -⟩ | ⟨-, hbonds, -⟩
      · omega
      · rw [hbonds] at hclears
        exact absurd hclears.2 hclears.1
    simp only [GhostBondRun.boot, hbounded.rightly.1, Bool.false_or,
      Bool.and_eq_false_imp, decide_eq_false_iff_not, Nat.not_lt]
    exact hlong
  · simp only [GhostBondRun.boot, hbounded.rightly.2, Bool.false_or,
      Bool.and_eq_false_imp, bne_eq_false_iff_eq]
    exact hbounded.encrypted

theorem Bounded.authenticated {state : GhostBondRun}
    (hbounded : state.Bounded) {pairingWindowMs elapsedMs connHandle : ℕ}
    {desc : LinkSecurity}
    (hrightly : state.CountedRightly
      (.authenticationComplete connHandle desc)) :
    (state.step pairingWindowMs
      ⟨elapsedMs, .authenticationComplete connHandle desc⟩).Bounded := by
  have hrtc := BleDevice.onAuthenticationComplete_rtc state.device
    connHandle desc
  have hdevice := BleDevice.onAuthenticationComplete_connected state.device
    connHandle desc
  have hconnected : (state.device.onAuthenticationComplete connHandle
      desc).1.manager.deviceConnected = true → state.connected = true := by
    rw [hdevice]
    exact hbounded.connected
  by_cases hsuccess : desc.bonded = true ∧ desc.encrypted = true
  · rw [hsuccess.1, hsuccess.2] at hrtc
    simp only [Bool.and_self, if_true,
      BleDevice.resetGhostBondCounter_cleared hbounded.magic] at hrtc
    refine ⟨?_, hconnected, hbounded.counted, ?_, ?_, hbounded.rightly⟩
    · change (state.device.onAuthenticationComplete connHandle
        desc).1.rtc.ghostBondMagic = _
      rw [hrtc]
    · change (state.device.onAuthenticationComplete connHandle
        desc).1.rtc.consecutiveBondFailures ≤ _
      rw [hrtc]
      exact Nat.zero_le _
    · intro _
      change (state.device.onAuthenticationComplete connHandle
        desc).1.rtc.consecutiveBondFailures = 0
      rw [hrtc]
  · have hsame : (state.device.onAuthenticationComplete connHandle
        desc).1.rtc = state.device.rtc := by
      rw [hrtc, if_neg (by simpa using hsuccess)]
    refine ⟨?_, hconnected, hbounded.counted, ?_, ?_, hbounded.rightly⟩
    · change (state.device.onAuthenticationComplete connHandle
        desc).1.rtc.ghostBondMagic = _
      rw [hsame]
      exact hbounded.magic
    · change (state.device.onAuthenticationComplete connHandle
        desc).1.rtc.consecutiveBondFailures ≤ _
      rw [hsame]
      exact hbounded.failures
    · intro hencrypted
      change (state.device.onAuthenticationComplete connHandle
        desc).1.rtc.consecutiveBondFailures = 0
      rw [hsame]
      simp only [step, Bool.or_eq_true] at hencrypted
      rcases hencrypted with hbefore | hnow
      · exact hbounded.encrypted hbefore
      · exact (hrightly hnow).resolve_left
          (fun hbonded => hsuccess ⟨hbonded, hnow⟩)

theorem Bounded.sleeps {state : GhostBondRun} (hbounded : state.Bounded)
    {pairingWindowMs elapsedMs : ℕ}
    (hrightly : state.CountedRightly .enterDeepSleep) :
    (state.step pairingWindowMs ⟨elapsedMs, .enterDeepSleep⟩).Bounded := by
  cases hcounts : state.countsFailure with
  | false =>
      have hsame : state.device.incrementGhostBondCounter = state.device := by
        unfold BleDevice.incrementGhostBondCounter
        exact if_neg (by simpa [countsFailure] using hcounts)
      have hdevice : (state.step pairingWindowMs
          ⟨elapsedMs, .enterDeepSleep⟩).device = state.device := hsame
      apply hbounded.of_same
      · rw [hdevice]
      · rw [hdevice]
        exact hbounded.connected
      · exact id
      · simp [step, hcounts]
  | true =>
      obtain ⟨hencrypted, hcounted⟩ := hrightly hcounts
      have hfailures := hbounded.failures
      have hincremented : state.device.incrementGhostBondCounter =
          { state.device with rtc := { state.device.rtc with
            consecutiveBondFailures :=
              u8 (state.device.rtc.consecutiveBondFailures + 1) } } := by
        unfold BleDevice.incrementGhostBondCounter
        exact if_pos (by simpa [countsFailure] using hcounts)
      have hdevice : (state.step pairingWindowMs
          ⟨elapsedMs, .enterDeepSleep⟩).device =
            state.device.incrementGhostBondCounter := rfl
      have hlink : state.connected = true := by
        apply hbounded.connected
        simp only [countsFailure, Bool.and_eq_true] at hcounts
        exact hcounts.2
      have hwrap : u8 (state.device.rtc.consecutiveBondFailures + 1) ≤
          state.device.rtc.consecutiveBondFailures + 1 := Nat.mod_le _ _
      refine ⟨?_, ?_, ?_, ?_, ?_, hbounded.rightly⟩
      · rw [hdevice, hincremented]
        exact hbounded.magic
      · exact fun _ => hlink
      · exact fun _ => hlink
      · rw [hdevice, hincremented]
        simp only [step, hcounts, Bool.or_true, if_true]
        rw [hcounted] at hfailures
        simp only [Bool.false_eq_true, if_false] at hfailures
        omega
      · intro hstill
        change state.encrypted = true at hstill
        rw [hencrypted] at hstill
        cases hstill

theorem Bounded.step {pairingWindowMs : ℕ} (state : GhostBondRun)
    (input : TimedBleEvent) (hbounded : state.Bounded)
    (hrightly : state.CountedRightly input.event) :
    (state.step pairingWindowMs input).Bounded := by
  obtain ⟨elapsedMs, event⟩ := input
  have hsame {next : BleDevice}
      (hdevice : (state.device.step pairingWindowMs
        (u32 (state.nowMs + elapsedMs)) event).1 = next)
      (hrtc : next.rtc = state.device.rtc)
      (hlink : next.manager.deviceConnected = true →
        state.device.manager.deviceConnected = true) :
      ({ state with
        device := next
        nowMs := state.nowMs + elapsedMs } : GhostBondRun).Bounded := by
    apply hbounded.of_same
    · exact hrtc
    · exact fun hnext => hbounded.connected (hlink hnext)
    · exact id
    · exact ⟨rfl, rfl, rfl, rfl, rfl⟩
  cases event with
  | boot powerLoss => exact hbounded.boot hrightly _
  | setEventHandler => exact hsame rfl rfl id
  | connected connHandle peer desc =>
      apply hbounded.of_same
      · exact BleDevice.onConnectInternal_rtc _ _ _ _
      · exact fun _ => rfl
      · exact fun _ => rfl
      · exact ⟨rfl, rfl, rfl, rfl, rfl⟩
  | disconnected connHandle =>
      refine hsame rfl ?_ ?_
      · simp [BleDevice.step, BleDevice.onDisconnectInternal]
      · simp [BleDevice.step, BleDevice.onDisconnectInternal]
  | authenticationComplete connHandle desc =>
      exact hbounded.authenticated hrightly
  | bondCreated peer => exact hsame rfl rfl id
  | bondDeleted peer => exact hsame rfl rfl id
  | deleteAllBonds => exact hsame rfl rfl id
  | enablePairingMode =>
      refine hsame rfl ?_ ?_ <;>
        simp [BleDevice.step, BleDevice.enablePairingMode]
  | disablePairingMode => exact hsame rfl rfl id
  | update link =>
      refine hsame rfl ?_ ?_
      · exact (BleDevice.update_kept _ _ _ _).2
      · simp [BleDevice.step, BleDevice.update_connected]
  | enterDeepSleep => exact hbounded.sleeps hrightly

theorem bounded_start (bonds : List PeerAddress) (millis : ℕ) :
    (start bonds millis).Bounded := by
  have hinit := BleDevice.init_of_reset
    ⟨.construct, bonds, false, ⟨0, 0⟩⟩ none millis
  have hrtc : (start bonds millis).device.rtc = ⟨0, ghostBondMagicKey⟩ := by
    rcases hinit.2 with ⟨-, hfive, -, -⟩ | ⟨-, -, hafter⟩
    · simp [BleDevice.initGhostBondRtc, ghostBondMagicKey] at hfive
    · exact hafter.trans rfl
  refine ⟨by rw [hrtc], ?_, by simp [start], ?_, ?_, rfl, rfl⟩
  · intro hconnected
    have hnone : (start bonds millis).device.manager.deviceConnected =
      false := hinit.1
    rw [hnone] at hconnected
    cases hconnected
  · rw [hrtc]
    exact Nat.zero_le _
  · intro _
    rw [hrtc]

/-- In every run in which cycles are counted rightly, bonds are only cleared
after five failed cycles, and each success restarts the count. -/
theorem ghost_bonds_cleared_rightly (pairingWindowMs : ℕ)
    (bonds : List PeerAddress) (millis : ℕ) (inputs : List TimedBleEvent)
    (hrightly : Guarded (step pairingWindowMs)
      (fun state input => state.CountedRightly input.event)
      (start bonds millis) inputs) :
    (run (step pairingWindowMs) (start bonds millis)
        inputs).wronglyCleared = false ∧
      (run (step pairingWindowMs) (start bonds millis)
        inputs).notRestarted = false :=
  (invariant_run Bounded.step (bounded_start bonds millis) hrightly).rightly

/-! ## Wake cycles of the owner -/

/-- The owner connects without encrypting, and the device goes to sleep. -/
def failedCycle : List TimedBleEvent :=
  [⟨900, .connected 1 7 ⟨false, false⟩⟩, ⟨60000, .enterDeepSleep⟩,
    ⟨200, .disconnected 1⟩, ⟨50, .boot none⟩]

/-- The owner encrypts and is still connected when the device goes to sleep.
-/
def encryptedCycle : List TimedBleEvent :=
  [⟨900, .connected 1 7 ⟨false, false⟩⟩,
    ⟨400, .authenticationComplete 1 ⟨true, true⟩⟩, ⟨60000, .enterDeepSleep⟩,
    ⟨200, .disconnected 1⟩, ⟨50, .boot none⟩]

theorem cleared_after_five_failed_cycles :
    (run (step 30000) (start [7] 2000)
        (failedCycle ++ failedCycle ++ failedCycle ++ failedCycle ++
          failedCycle)).wronglyCleared = false ∧
      (run (step 30000) (start [7] 2000)
        (failedCycle ++ failedCycle ++ failedCycle ++ failedCycle ++
          failedCycle)).notRestarted = false :=
  ghost_bonds_cleared_rightly 30000 [7] 2000
    (failedCycle ++ failedCycle ++ failedCycle ++ failedCycle ++ failedCycle)
    (by decide)

/-- The cycle with the encryption is counted on the way to sleep, so four
failed cycles after it clear the bonds of the owner. -/
theorem cleared_after_four_failed_cycles :
    (run (step 30000) (start [7] 2000)
        (encryptedCycle ++ failedCycle ++ failedCycle ++ failedCycle ++
          failedCycle)).wronglyCleared = true ∧
      (run (step 30000) (start [7] 2000)
        (encryptedCycle ++ failedCycle ++ failedCycle ++ failedCycle ++
          failedCycle)).notRestarted = true := by
  decide

end GhostBondRun

end SensorFirmware
