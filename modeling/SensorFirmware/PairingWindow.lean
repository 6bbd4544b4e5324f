import SensorFirmware.BleManager

/-!
# When the pairing window closes

Real time runs beside the readings of `millis`.  An update is due to close
pairing once a bond exists and both windows have passed, and from then on
pairing stays closed until it is enabled again or no bond is left.  The two
windows share one flag, and the explicit one needs a start time: when the
boot window ends without a bond, nothing ever closes pairing.
-/

namespace SensorFirmware

open GuardedRun

/-- An event and the time since the one before. -/
structure TimedBleEvent where
  elapsedMs : ℕ
  event : BleEvent
  deriving DecidableEq

/-- `nowMs` counts from the last reset.  `closed` says that an update was due
to close pairing and nothing has opened it since, and `reopened` that pairing
was allowed nevertheless. -/
structure PairingRun where
  device : BleDevice
  nowMs : ℕ
  bootMs : ℕ
  lastEnable : Option ℕ
  closed : Bool
  reopened : Bool
  deriving DecidableEq, Repr

namespace PairingRun

/-- Before the first boot. -/
def start (bonds : List PeerAddress) (rtc : GhostBondRtc) : PairingRun where
  device := ⟨.construct, bonds, false, rtc⟩
  nowMs := 0
  bootMs := 0
  lastEnable := none
  closed := false
  reopened := false

/-- The clock starts anew at a boot. -/
def timeOf (state : PairingRun) (input : TimedBleEvent) : ℕ :=
  match input.event with
  | .boot _ => input.elapsedMs
  | _ => state.nowMs + input.elapsedMs

/-- A bond exists, and neither window is open by the clock. -/
def due (pairingWindowMs : ℕ) (state : PairingRun) (nowMs : ℕ) : Bool :=
  decide (0 < state.device.bonds.length) &&
    decide (bootPairingWindowMs < nowMs - state.bootMs) &&
    state.lastEnable.all fun enabled => pairingWindowMs < nowMs - enabled

def closedAfter (pairingWindowMs : ℕ) (state : PairingRun) (nowMs : ℕ) :
    BleEvent → Bool
  | .boot _ => false
  | .enablePairingMode => false
  | .update _ =>
      state.closed || state.device.manager.initialized &&
        state.due pairingWindowMs nowMs
  | _ => state.closed

def step (pairingWindowMs : ℕ) (state : PairingRun) (input : TimedBleEvent) :
    PairingRun :=
  let nowMs := state.timeOf input
  let device :=
    (state.device.step pairingWindowMs (u32 nowMs) input.event).1
  let closed := state.closedAfter pairingWindowMs nowMs input.event &&
    decide (0 < device.bonds.length)
  { device := device
    nowMs := nowMs
    bootMs := if input.event matches .boot _ then nowMs else state.bootMs
    lastEnable :=
      match input.event with
      | .boot _ => none
      | .enablePairingMode => some nowMs
      | _ => state.lastEnable
    closed := closed
    reopened := state.reopened || (closed && device.isPairingAllowed) }

end PairingRun

namespace BleDevice

/-- Pairing is disabled already, or the window that is open has a start and
has passed it by its length, as the 32-bit clock measures it. -/
def WindowEnds (pairingWindowMs : ℕ) (device : BleDevice) (millis : ℕ) :
    Prop :=
  device.manager.pairingModeEnabled = false ∨
    (device.manager.bootPairingWindowActive = true ∧
      bootPairingWindowMs < sub32 millis device.manager.bootTime) ∨
    (device.manager.bootPairingWindowActive = false ∧
      0 < device.manager.pairingModeStartTime ∧
      pairingWindowMs < sub32 millis device.manager.pairingModeStartTime)

instance (pairingWindowMs : ℕ) (device : BleDevice) (millis : ℕ) :
    Decidable (device.WindowEnds pairingWindowMs millis) :=
  inferInstanceAs (Decidable (_ ∨ _))

end BleDevice

namespace PairingRun

/-- An update that is due to close pairing. -/
def dueAt (pairingWindowMs : ℕ) (state : PairingRun)
    (input : TimedBleEvent) : Bool :=
  (input.event matches .update _) && state.device.manager.initialized &&
    state.due pairingWindowMs (state.timeOf input)

def ClosesInTime (pairingWindowMs : ℕ) (state : PairingRun)
    (input : TimedBleEvent) : Prop :=
  state.dueAt pairingWindowMs input = true →
    state.device.WindowEnds pairingWindowMs (u32 (state.timeOf input))

instance (pairingWindowMs : ℕ) (state : PairingRun)
    (input : TimedBleEvent) :
    Decidable (state.ClosesInTime pairingWindowMs input) :=
  inferInstanceAs (Decidable (_ → _))

end PairingRun

/-! ## What one event does to the flag -/

namespace BleDevice

@[simp] theorem startAdvertising_manager (device : BleDevice) :
    device.startAdvertising.manager = device.manager := by
  unfold startAdvertising
  split <;> rfl

@[simp] theorem startAdvertising_bonds (device : BleDevice) :
    device.startAdvertising.bonds = device.bonds := by
  unfold startAdvertising
  split <;> rfl

@[simp] theorem startAdvertising_rtc (device : BleDevice) :
    device.startAdvertising.rtc = device.rtc := by
  unfold startAdvertising
  split <;> rfl

@[simp] theorem stopAdvertising_manager (device : BleDevice) :
    device.stopAdvertising.manager = device.manager := by
  unfold stopAdvertising
  split <;> rfl

@[simp] theorem stopAdvertising_rtc (device : BleDevice) :
    device.stopAdvertising.rtc = device.rtc := by
  unfold stopAdvertising
  split <;> rfl

@[simp] theorem resetGhostBondCounter_manager (device : BleDevice) :
    device.resetGhostBondCounter.manager = device.manager := by
  unfold resetGhostBondCounter
  split <;> rfl

@[simp] theorem incrementGhostBondCounter_manager (device : BleDevice) :
    device.incrementGhostBondCounter.manager = device.manager := by
  unfold incrementGhostBondCounter
  split <;> rfl

/-- Everything but a boot, an update and the two commands leaves the flag. -/
theorem onConnectInternal_pairing (device : BleDevice)
    (connHandle millis : ℕ) (desc : LinkSecurity) :
    (device.onConnectInternal connHandle millis
        desc).1.manager.pairingModeEnabled =
      device.manager.pairingModeEnabled := by
  unfold onConnectInternal
  dsimp only
  split <;> simp

theorem onAuthenticationComplete_pairing (device : BleDevice)
    (connHandle : ℕ) (desc : LinkSecurity) :
    (device.onAuthenticationComplete connHandle
        desc).1.manager.pairingModeEnabled =
      device.manager.pairingModeEnabled := by
  unfold onAuthenticationComplete
  dsimp only
  split_ifs <;> simp

theorem applyConnParams_kept (device : BleDevice) (millis : ℕ) :
    (device.applyConnParams millis).1.manager.pairingModeEnabled =
        device.manager.pairingModeEnabled ∧
      (device.applyConnParams millis).1.bonds = device.bonds ∧
      (device.applyConnParams millis).1.rtc = device.rtc := by
  unfold applyConnParams
  split <;> simp

theorem watchSecurity_kept (device : BleDevice) (millis : ℕ)
    (link : Option LinkSecurity) :
    (device.watchSecurity millis link).1.manager.pairingModeEnabled =
        device.manager.pairingModeEnabled ∧
      (device.watchSecurity millis link).1.bonds = device.bonds ∧
      (device.watchSecurity millis link).1.rtc = device.rtc := by
  unfold watchSecurity
  dsimp only
  split
  · cases link with
    | none => simp
    | some desc => dsimp only; split_ifs <;> simp
  · simp

/-- The two windows leave the bonds and the RTC words. -/
theorem closeWindows_kept (pairingWindowMs : ℕ) (device : BleDevice)
    (millis : ℕ) :
    ((device.closeBootWindow millis).closePairingWindow pairingWindowMs
        millis).bonds = device.bonds ∧
      ((device.closeBootWindow millis).closePairingWindow pairingWindowMs
        millis).rtc = device.rtc := by
  have hboot : (device.closeBootWindow millis).bonds = device.bonds ∧
      (device.closeBootWindow millis).rtc = device.rtc := by
    unfold closeBootWindow
    dsimp only
    split_ifs <;> exact ⟨rfl, rfl⟩
  unfold closePairingWindow
  split
  · exact hboot
  · exact hboot

theorem update_kept (pairingWindowMs : ℕ) (device : BleDevice)
    (millis : ℕ) (link : Option LinkSecurity) :
    (device.update pairingWindowMs millis link).1.bonds = device.bonds ∧
      (device.update pairingWindowMs millis link).1.rtc = device.rtc := by
  have hwindows := closeWindows_kept pairingWindowMs device millis
  unfold update
  split
  · dsimp only
    rw [(watchSecurity_kept _ millis link).2.1,
      (watchSecurity_kept _ millis link).2.2,
      (applyConnParams_kept _ millis).2.1,
      (applyConnParams_kept _ millis).2.2]
    exact hwindows
  · exact ⟨rfl, rfl⟩

theorem closePairingWindow_disables_iff (pairingWindowMs : ℕ)
    (device : BleDevice) (millis : ℕ) :
    (device.closePairingWindow pairingWindowMs
        millis).manager.pairingModeEnabled = false ↔
      device.manager.pairingModeEnabled = false ∨
        (device.manager.bootPairingWindowActive = false ∧
          0 < device.manager.pairingModeStartTime ∧
          pairingWindowMs <
            sub32 millis device.manager.pairingModeStartTime) := by
  unfold closePairingWindow
  simp only [Bool.and_eq_true, Bool.not_eq_true', decide_eq_true_eq]
  split
  case isTrue hends => simp [disablePairingMode, hends]
  case isFalse hopen =>
    constructor
    · exact .inl
    · rintro (hdisabled | ⟨hboot, hstart, hlate⟩)
      · exact hdisabled
      · by_contra henabled
        exact hopen ⟨⟨⟨by simpa using henabled, hboot⟩, hstart⟩, hlate⟩

/-- With a bond, an update leaves pairing disabled exactly if a window ends.
-/
theorem update_disables_iff {pairingWindowMs : ℕ} {device : BleDevice}
    {millis : ℕ} (link : Option LinkSecurity)
    (hinit : device.manager.initialized = true)
    (hbonds : 0 < device.bonds.length) :
    (device.update pairingWindowMs millis
        link).1.manager.pairingModeEnabled = false ↔
      device.WindowEnds pairingWindowMs millis := by
  have hupdate : (device.update pairingWindowMs millis
      link).1.manager.pairingModeEnabled =
        ((device.closeBootWindow millis).closePairingWindow pairingWindowMs
          millis).manager.pairingModeEnabled := by
    unfold update
    rw [if_pos hinit]
    dsimp only
    rw [(watchSecurity_kept _ millis link).1,
      (applyConnParams_kept _ millis).1]
  rw [hupdate, closePairingWindow_disables_iff]
  by_cases hboot : device.manager.bootPairingWindowActive = true ∧
      bootPairingWindowMs < sub32 millis device.manager.bootTime
  · -- The boot window ends, and with a bond that disables pairing.
    have hends : (device.closeBootWindow
        millis).manager.pairingModeEnabled = false := by
      simp [closeBootWindow, hboot, hbonds, disablePairingMode]
    exact iff_of_true (.inl hends) (.inr (.inl hboot))
  · have hsame : device.closeBootWindow millis = device := by
      simp only [closeBootWindow, Bool.and_eq_true, decide_eq_true_eq]
      exact if_neg hboot
    rw [hsame]
    unfold WindowEnds
    simp [hboot]

theorem update_keeps_disabled {pairingWindowMs : ℕ} {device : BleDevice}
    {millis : ℕ} (link : Option LinkSecurity)
    (hbonds : 0 < device.bonds.length)
    (hdisabled : device.manager.pairingModeEnabled = false) :
    (device.update pairingWindowMs millis
      link).1.manager.pairingModeEnabled = false := by
  cases hinit : device.manager.initialized with
  | true => exact (update_disables_iff link hinit hbonds).mpr (.inl hdisabled)
  | false => simpa [update, hinit] using hdisabled

theorem disabled_of_event {pairingWindowMs : ℕ} {device : BleDevice}
    {millis : ℕ} {event : BleEvent} (hbonds : 0 < device.bonds.length)
    (hdisabled : device.manager.pairingModeEnabled = false)
    (hboot : ∀ powerLoss, event ≠ .boot powerLoss)
    (henable : event ≠ .enablePairingMode) :
    (device.step pairingWindowMs millis
      event).1.manager.pairingModeEnabled = false := by
  cases event with
  | boot powerLoss => exact absurd rfl (hboot powerLoss)
  | setEventHandler => exact hdisabled
  | connected connHandle peer desc =>
      exact (onConnectInternal_pairing device connHandle millis desc).trans
        hdisabled
  | disconnected connHandle =>
      simpa [step, onDisconnectInternal] using hdisabled
  | authenticationComplete connHandle desc =>
      exact (onAuthenticationComplete_pairing device connHandle desc).trans
        hdisabled
  | bondCreated peer => exact hdisabled
  | bondDeleted peer => exact hdisabled
  | deleteAllBonds => exact hdisabled
  | enablePairingMode => exact absurd rfl henable
  | disablePairingMode => rfl
  | update link => exact update_keeps_disabled link hbonds hdisabled
  | enterDeepSleep => simpa [step] using hdisabled

end BleDevice

/-! ## Every run -/

namespace PairingRun

variable {pairingWindowMs : ℕ} {state : PairingRun} {input : TimedBleEvent}

/-- As long as pairing stays closed, it is disabled and a bond is left. -/
def Kept (state : PairingRun) : Prop :=
  state.closed = true → state.reopened = false →
    state.device.manager.pairingModeEnabled = false ∧
      0 < state.device.bonds.length

theorem isPairingAllowed_of_bonds {device : BleDevice}
    (hbonds : 0 < device.bonds.length) :
    device.isPairingAllowed = device.manager.pairingModeEnabled := by
  have hsome : (device.bonds.length == 0) = false := by
    simp only [beq_eq_false_iff_ne]
    omega
  simp [BleDevice.isPairingAllowed, hsome]

theorem kept_step (state : PairingRun) (input : TimedBleEvent) :
    (state.step pairingWindowMs input).Kept := by
  intro hclosed hreopened
  simp only [step, Bool.and_eq_true, decide_eq_true_eq, Bool.or_eq_false_iff]
    at hclosed hreopened
  have hbonds := hclosed.2
  refine ⟨?_, hbonds⟩
  have hnot := hreopened.2
  rw [hclosed.1, isPairingAllowed_of_bonds hbonds] at hnot
  change (state.device.step pairingWindowMs (u32 (state.timeOf input))
    input.event).1.manager.pairingModeEnabled = false
  simpa [hbonds] using hnot

/-- What was closed before the event stays closed. -/
theorem Kept.not_reopened (hkept : state.Kept)
    (hreopened : state.reopened = false)
    (hclosed : state.closedAfter pairingWindowMs (state.timeOf input)
      input.event = true → state.closed = true) :
    (state.step pairingWindowMs input).reopened = false := by
  let device := (state.device.step pairingWindowMs
    (u32 (state.timeOf input)) input.event).1
  change (state.reopened || (state.closedAfter pairingWindowMs
    (state.timeOf input) input.event && decide (0 < device.bonds.length) &&
      device.isPairingAllowed)) = false
  rw [hreopened, Bool.false_or]
  cases hafter : state.closedAfter pairingWindowMs (state.timeOf input)
    input.event with
  | false => rfl
  | true =>
      by_cases hbonds : 0 < device.bonds.length
      · have hbefore := hkept (hclosed hafter) hreopened
        have hboot : ∀ powerLoss, input.event ≠ .boot powerLoss := by
          intro powerLoss heq
          simp [heq, closedAfter] at hafter
        have henable : input.event ≠ .enablePairingMode := by
          intro heq
          simp [heq, closedAfter] at hafter
        have hdisabled : device.manager.pairingModeEnabled = false :=
          BleDevice.disabled_of_event hbefore.2 hbefore.1 hboot henable
        rw [isPairingAllowed_of_bonds hbonds, hdisabled, Bool.and_false]
      · simp [hbonds]

theorem closedAfter_of_not_due
    (hdue : state.dueAt pairingWindowMs input = false)
    (hafter : state.closedAfter pairingWindowMs (state.timeOf input)
      input.event = true) : state.closed = true := by
  unfold dueAt at hdue
  cases hevent : input.event with
  | update link =>
      simp only [hevent, closedAfter, Bool.or_eq_true, Bool.and_eq_true]
        at hafter
      rcases hafter with hclosed | ⟨hinit, hlate⟩
      · exact hclosed
      · simp [hevent, hinit, hlate] at hdue
  | boot powerLoss => simp [hevent, closedAfter] at hafter
  | enablePairingMode => simp [hevent, closedAfter] at hafter
  | _ => simpa [hevent, closedAfter] using hafter

/-- An update that is due leaves pairing closed exactly if a window ends. -/
theorem reopened_of_due (hreopened : state.reopened = false)
    (hdue : state.dueAt pairingWindowMs input = true) :
    (state.step pairingWindowMs input).reopened = false ↔
      state.device.WindowEnds pairingWindowMs
        (u32 (state.timeOf input)) := by
  obtain ⟨elapsedMs, event⟩ := input
  cases event with
  | update link =>
      simp only [dueAt, Bool.and_eq_true] at hdue
      obtain ⟨⟨-, hinit⟩, hlate⟩ := hdue
      have hbonds : 0 < state.device.bonds.length := by
        have hlate' := hlate
        simp only [due, Bool.and_eq_true, decide_eq_true_eq] at hlate'
        exact hlate'.1.1
      rw [← BleDevice.update_disables_iff link hinit hbonds]
      generalize hnow : state.timeOf ⟨elapsedMs, .update link⟩ = nowMs
        at hlate ⊢
      have hafter : 0 < (state.device.update pairingWindowMs (u32 nowMs)
          link).1.bonds.length := by
        rw [(BleDevice.update_kept _ _ _ _).1]
        exact hbonds
      have hstep : (state.step pairingWindowMs
          ⟨elapsedMs, .update link⟩).reopened =
            (state.device.update pairingWindowMs (u32 nowMs)
              link).1.isPairingAllowed := by
        simp [step, hreopened, hnow, closedAfter, hinit, hlate,
          BleDevice.step, hafter]
      rw [hstep, isPairingAllowed_of_bonds hafter]
  | _ => simp [dueAt] at hdue

theorem Kept.reopened_iff (hkept : state.Kept) (input : TimedBleEvent) :
    (state.step pairingWindowMs input).reopened = false ↔
      state.reopened = false ∧
        state.ClosesInTime pairingWindowMs input := by
  cases hreopened : state.reopened with
  | true => simp [step, hreopened]
  | false =>
      unfold ClosesInTime
      cases hdue : state.dueAt pairingWindowMs input with
      | false =>
          have hstill := hkept.not_reopened hreopened
            (closedAfter_of_not_due hdue)
          simp [hstill]
      | true => simp [reopened_of_due hreopened hdue]

/-- In every run, pairing stays closed once it is due to, if and only if each
update that is due to close it finds a window that ends. -/
theorem stays_closed_iff (pairingWindowMs : ℕ) (bonds : List PeerAddress)
    (rtc : GhostBondRtc) (inputs : List TimedBleEvent) :
    (run (step pairingWindowMs) (start bonds rtc) inputs).reopened = false ↔
      Guarded (step pairingWindowMs) (ClosesInTime pairingWindowMs)
        (start bonds rtc) inputs := by
  have hstep : ∀ (state : PairingRun) input, state.Kept →
      (state.step pairingWindowMs input).Kept :=
    fun state input _ => kept_step state input
  have hgood : ∀ (state : PairingRun) input, state.Kept →
      ((state.step pairingWindowMs input).reopened = false ↔
        state.reopened = false ∧
          state.ClosesInTime pairingWindowMs input) :=
    fun _ input hkept => hkept.reopened_iff input
  have hstart : (start bonds rtc).Kept := by
    intro hclosed
    simp [start] at hclosed
  rw [@run_iff_guarded _ _ _ _ Kept (fun state => state.reopened = false)
    hstep hgood _ hstart inputs]
  exact and_iff_right rfl

/-! ## A first bond after the boot window -/

/-- The device boots without a bond, and its first peer pairs after the boot
window has ended: pairing stays open for everyone. -/
theorem stays_open_after_late_bond :
    (run (step 30000) (start [] ⟨0, 0⟩)
      [⟨2000, .boot none⟩, ⟨65000, .update none⟩, ⟨1000, .bondCreated 7⟩,
        ⟨600000, .update none⟩]).reopened = true := by
  decide

end PairingRun

end SensorFirmware
