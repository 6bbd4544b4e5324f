import SensorFirmware.PairingWindow

/-!
# Strangers outside the pairing window

A stranger is a peer without a bond that connects to a device that has one.
While pairing is closed it should be disconnected when its authentication is
reported, and never be reported as authenticated.  The callback sees only the
flags of the link after the stack has paired, so it rejects exactly the
authentications that failed.
-/

namespace SensorFirmware

open GuardedRun

/-- The device with the connection of a stranger, and whether one was
admitted while pairing was closed. -/
structure AdmissionRun where
  device : BleDevice
  nowMs : ℕ
  stranger : Option ℕ
  admitted : Bool
  deriving DecidableEq, Repr

namespace BleDevice

/-- A peer without a bond, where some peer has one. -/
def isStranger (device : BleDevice) (peer : PeerAddress) : Bool :=
  !device.bonds.isEmpty && !device.bonds.contains peer

end BleDevice

/-- The connection is ended, and nobody was told that it is authenticated. -/
def Excluded (connHandle : ℕ) (calls : List BleCall) : Prop :=
  .disconnect connHandle ∈ calls ∧ .reportAuthentication true ∉ calls

instance (connHandle : ℕ) (calls : List BleCall) :
    Decidable (Excluded connHandle calls) :=
  inferInstanceAs (Decidable (_ ∧ _))

namespace AdmissionRun

/-- Any device, before anyone connects. -/
def start (device : BleDevice) (nowMs : ℕ) : AdmissionRun where
  device := device
  nowMs := nowMs
  stranger := none
  admitted := false

def strangerAfter (state : AdmissionRun) : BleEvent → Option ℕ
  | .boot _ => none
  | .connected connHandle peer _ =>
      if state.device.isStranger peer then some connHandle else none
  | .disconnected _ => none
  | _ => state.stranger

/-- A stranger authenticates while pairing is closed. -/
def strangerAuthenticates (state : AdmissionRun) : BleEvent → Bool
  | .authenticationComplete connHandle _ =>
      state.stranger == some connHandle && !state.device.isPairingAllowed
  | _ => false

def admits (state : AdmissionRun) (event : BleEvent)
    (calls : List BleCall) : Bool :=
  state.strangerAuthenticates event &&
    match event with
    | .authenticationComplete connHandle _ =>
        !decide (Excluded connHandle calls)
    | _ => false

def step (pairingWindowMs : ℕ) (state : AdmissionRun)
    (input : TimedBleEvent) : AdmissionRun :=
  let nowMs := state.nowMs + input.elapsedMs
  let after := state.device.step pairingWindowMs (u32 nowMs) input.event
  { device := after.1
    nowMs := nowMs
    stranger := state.strangerAfter input.event
    admitted := state.admitted || state.admits input.event after.2 }

/-- The stack reports an authentication that failed. -/
def ReportedAsFailed (state : AdmissionRun) (input : TimedBleEvent) : Prop :=
  state.strangerAuthenticates input.event = true →
    ∀ connHandle desc,
      input.event = .authenticationComplete connHandle desc →
      desc.bonded = false ∧ desc.encrypted = false

end AdmissionRun

namespace BleDevice

theorem not_allowed {device : BleDevice}
    (hclosed : device.isPairingAllowed = false) :
    0 < device.bonds.length := by
  simp only [isPairingAllowed, Bool.or_eq_false_iff, beq_eq_false_iff_ne]
    at hclosed
  omega

/-- While pairing is closed, the callback excludes the peer exactly if it is
neither bonded nor encrypted. -/
theorem excluded_iff {device : BleDevice}
    (hclosed : device.isPairingAllowed = false) (connHandle : ℕ)
    (desc : LinkSecurity) :
    Excluded connHandle
        (device.onAuthenticationComplete connHandle desc).2 ↔
      desc.bonded = false ∧ desc.encrypted = false := by
  have hbonds := not_allowed hclosed
  have hnever : ∀ outcome,
      .disconnect connHandle ∉ device.reportOutcome outcome := by
    intro outcome
    unfold reportOutcome report
    split <;> simp
  have hfalse : .reportAuthentication true ∉
      device.reportOutcome false ++ [.disconnect connHandle] := by
    unfold reportOutcome report
    split <;> simp
  unfold onAuthenticationComplete
  by_cases hfailed : desc.bonded = false ∧ desc.encrypted = false
  · simp only [hfailed.1, hfailed.2, hclosed, hbonds, Bool.not_false,
      Bool.and_self, decide_true, if_true]
    exact iff_of_true ⟨by simp, hfalse⟩ ⟨trivial, trivial⟩
  · have hpassed : (!desc.bonded && !desc.encrypted) = false := by
      simpa using hfailed
    rw [hpassed]
    exact iff_of_false (fun hexcluded => hnever _ hexcluded.1) hfailed

end BleDevice

namespace AdmissionRun

theorem admitted_step (pairingWindowMs : ℕ) (state : AdmissionRun)
    (input : TimedBleEvent) :
    (state.step pairingWindowMs input).admitted = false ↔
      state.admitted = false ∧ state.ReportedAsFailed input := by
  obtain ⟨elapsedMs, event⟩ := input
  have hstep : (state.step pairingWindowMs ⟨elapsedMs, event⟩).admitted =
      (state.admitted || state.admits event
        (state.device.step pairingWindowMs
          (u32 (state.nowMs + elapsedMs)) event).2) := rfl
  rw [hstep, Bool.or_eq_false_iff]
  apply and_congr_right
  intro _
  unfold admits ReportedAsFailed
  cases event with
  | authenticationComplete connHandle desc =>
      cases hcloses : state.strangerAuthenticates
          (.authenticationComplete connHandle desc) with
      | false => simp
      | true =>
          have hclosed : state.device.isPairingAllowed = false := by
            simp only [strangerAuthenticates, Bool.and_eq_true,
              Bool.not_eq_true'] at hcloses
            exact hcloses.2
          have hexcluded :=
            BleDevice.excluded_iff hclosed connHandle desc
          simp only [BleDevice.step, Bool.true_and, Bool.not_eq_false',
            decide_eq_true_eq, hexcluded]
          constructor
          · rintro hfailed _ _ _ ⟨⟩
            exact hfailed
          · intro hall
            exact hall trivial connHandle desc rfl
  | _ => simp [strangerAuthenticates]

/-- In every run, no stranger is admitted outside the pairing window if and
only if the stack reports each of their authentications as failed. -/
theorem strangers_excluded_iff (pairingWindowMs : ℕ) (device : BleDevice)
    (nowMs : ℕ) (inputs : List TimedBleEvent) :
    (run (step pairingWindowMs) (start device nowMs)
        inputs).admitted = false ↔
      Guarded (step pairingWindowMs) ReportedAsFailed (start device nowMs)
        inputs := by
  have hgood : ∀ (state : AdmissionRun) input, True →
      ((state.step pairingWindowMs input).admitted = false ↔
        state.admitted = false ∧ state.ReportedAsFailed input) :=
    fun state input _ => admitted_step pairingWindowMs state input
  rw [@run_iff_guarded _ _ _ _ (fun _ : AdmissionRun => True)
    (fun state => state.admitted = false) (fun _ _ _ => trivial) hgood _
    trivial inputs]
  exact and_iff_right rfl

/-- A stranger pairs long after the boot window has closed: the stack bonds
and encrypts, and the callback reports an authenticated session. -/
theorem stranger_admitted :
    (run (step 30000) (start ⟨.construct, [1], false, ⟨0, 0⟩⟩ 0)
      [⟨2000, .boot none⟩, ⟨10, .setEventHandler⟩, ⟨65000, .update none⟩,
        ⟨5000, .connected 1 2 ⟨false, false⟩⟩, ⟨400, .bondCreated 2⟩,
        ⟨10, .authenticationComplete 1 ⟨true, true⟩⟩]).admitted = true := by
  decide

end AdmissionRun

end SensorFirmware
