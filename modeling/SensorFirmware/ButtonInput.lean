import SensorFirmware.GuardedRun
import SensorFirmware.BleManager

/-!
# The button

The main loop polls one button.  A level counts once it has been read without
a change for longer than the debounce time: a press that is released toggles
pairing, and one held for more than three seconds deletes every bond.  The
polls are run beside the other events of the BLE manager, and real time beside
the 32-bit clock.
-/

namespace SensorFirmware

open GuardedRun

/-- What `digitalRead` returns. -/
inductive PinLevel where
  | low
  | high
  deriving DecidableEq, Repr

/-- The static variables of `handleButtonInput`. -/
structure ButtonInput where
  lastButtonState : PinLevel
  lastDebounceTime : ℕ
  buttonPressStartTime : ℕ
  longPressHandled : Bool
  buttonState : PinLevel
  deriving DecidableEq, Repr

inductive ButtonAction where
  | pressed
  | shortPress
  | longPress
  deriving DecidableEq, Repr

def longPressMs : ℕ := 3000

namespace ButtonInput

def boot : ButtonInput where
  lastButtonState := .high
  lastDebounceTime := 0
  buttonPressStartTime := 0
  longPressHandled := false
  buttonState := .high

def noteEdge (button : ButtonInput) (reading : PinLevel) (millis : ℕ) :
    ButtonInput :=
  if reading ≠ button.lastButtonState then
    { button with lastDebounceTime := millis }
  else button

def settle (button : ButtonInput) (reading : PinLevel) (millis : ℕ) :
    ButtonInput × List ButtonAction :=
  if reading ≠ button.buttonState then
    match reading with
    | .low =>
        ({ button with
            buttonState := .low
            buttonPressStartTime := millis
            longPressHandled := false }, [.pressed])
    | .high =>
        ({ button with buttonState := .high },
          if button.longPressHandled then [] else [.shortPress])
  else (button, [])

def checkHold (button : ButtonInput) (millis : ℕ) :
    ButtonInput × List ButtonAction :=
  if button.buttonState = .low ∧ button.longPressHandled = false ∧
      longPressMs < sub32 millis button.buttonPressStartTime then
    ({ button with longPressHandled := true }, [.longPress])
  else (button, [])

/-- Each reading of `millis` is an argument of its own. -/
def handleButtonInput (debounceMs : ℕ) (button : ButtonInput)
    (reading : PinLevel) (edge check press hold : ℕ) :
    ButtonInput × List ButtonAction :=
  let noted := button.noteEdge reading edge
  if debounceMs < sub32 check noted.lastDebounceTime then
    let settled := noted.settle reading press
    let held := settled.1.checkHold hold
    ({ held.1 with lastButtonState := reading }, settled.2 ++ held.2)
  else ({ noted with lastButtonState := reading }, [])

end ButtonInput

namespace BleDevice

/-- The connection that is closed has handle 0. -/
def disconnectPeer (device : BleDevice) : List BleCall :=
  if device.manager.initialized && device.manager.deviceConnected then
    [.disconnect 0]
  else []

/-- What the manager is asked to do for a press. -/
def onButton (device : BleDevice) (millis : ℕ) :
    ButtonAction → BleDevice × List BleCall
  | .pressed => (device, [])
  | .shortPress =>
      (if device.manager.pairingModeEnabled then device.disablePairingMode
        else device.enablePairingMode millis, [])
  | .longPress =>
      (device.deleteAllBonds.enablePairingMode millis,
        device.disconnectPeer)

end BleDevice

/-- One call of `handleButtonInput`: each time is that since the reading of
the clock before it, and `actAfter` leads to the call of the manager. -/
structure ButtonPoll where
  reading : PinLevel
  after : ℕ
  checkAfter : ℕ
  pressAfter : ℕ
  holdAfter : ℕ
  actAfter : ℕ
  deriving DecidableEq, Repr

inductive ButtonEvent where
  | poll (poll : ButtonPoll)
  | ble (after : ℕ) (event : BleEvent)
  deriving DecidableEq

/-- The button and the manager, with the time since the last boot and the
levels read since then, newest first. -/
structure ButtonRun where
  button : ButtonInput
  ble : BleDevice
  nowMs : ℕ
  samples : List (PinLevel × ℕ)
  deriving DecidableEq, Repr

namespace ButtonRun

def start (ble : BleDevice) : ButtonRun where
  button := .boot
  ble := ble
  nowMs := 0
  samples := []

def edgeAt (state : ButtonRun) (poll : ButtonPoll) : ℕ :=
  state.nowMs + poll.after

def checkAt (state : ButtonRun) (poll : ButtonPoll) : ℕ :=
  state.edgeAt poll + poll.checkAfter

def pressAt (state : ButtonRun) (poll : ButtonPoll) : ℕ :=
  state.checkAt poll + poll.pressAfter

def holdAt (state : ButtonRun) (poll : ButtonPoll) : ℕ :=
  state.pressAt poll + poll.holdAfter

def actAt (state : ButtonRun) (poll : ButtonPoll) : ℕ :=
  state.holdAt poll + poll.actAfter

def handled (debounceMs : ℕ) (state : ButtonRun) (poll : ButtonPoll) :
    ButtonInput × List ButtonAction :=
  state.button.handleButtonInput debounceMs poll.reading
    (u32 (state.edgeAt poll)) (u32 (state.checkAt poll))
    (u32 (state.pressAt poll)) (u32 (state.holdAt poll))

def actions (debounceMs : ℕ) (state : ButtonRun) :
    ButtonEvent → List ButtonAction
  | .poll poll => (state.handled debounceMs poll).2
  | .ble _ _ => []

/-- A boot starts the clock and the static variables anew. -/
def step (debounceMs pairingWindowMs : ℕ) (state : ButtonRun) :
    ButtonEvent → ButtonRun
  | .poll poll =>
      let handled := state.handled debounceMs poll
      let actAt := state.actAt poll
      { button := handled.1
        ble := handled.2.foldl
          (fun ble action => (ble.onButton (u32 actAt) action).1) state.ble
        nowMs := actAt
        samples := (poll.reading, state.edgeAt poll) :: state.samples }
  | .ble after (.boot powerLoss) =>
      { button := .boot
        ble := (state.ble.step pairingWindowMs (u32 after)
          (.boot powerLoss)).1
        nowMs := after
        samples := [] }
  | .ble after event =>
      { state with
        ble := (state.ble.step pairingWindowMs (u32 (state.nowMs + after))
          event).1
        nowMs := state.nowMs + after }

end ButtonRun

/-! ## What one poll does -/

namespace ButtonInput

variable {debounceMs edge check press hold : ℕ} {button : ButtonInput}
  {reading : PinLevel}

/-- The level has not changed for longer than the debounce time. -/
def Settled (debounceMs : ℕ) (button : ButtonInput) (reading : PinLevel)
    (edge check : ℕ) : Prop :=
  debounceMs < sub32 check (button.noteEdge reading edge).lastDebounceTime

@[simp] theorem settle_lastDebounceTime :
    (button.settle reading press).1.lastDebounceTime =
      button.lastDebounceTime := by
  unfold settle
  split
  · cases reading <;> rfl
  · rfl

@[simp] theorem checkHold_lastDebounceTime :
    (button.checkHold hold).1.lastDebounceTime = button.lastDebounceTime := by
  unfold checkHold
  split <;> rfl

@[simp] theorem handle_lastButtonState :
    (button.handleButtonInput debounceMs reading edge check press
      hold).1.lastButtonState = reading := by
  unfold handleButtonInput
  dsimp only
  split <;> rfl

@[simp] theorem handle_lastDebounceTime :
    (button.handleButtonInput debounceMs reading edge check press
        hold).1.lastDebounceTime =
      (button.noteEdge reading edge).lastDebounceTime := by
  unfold handleButtonInput
  dsimp only
  split
  · simp
  · rfl

end ButtonInput

/-! ## The press -/

/-- The button without the bounces of its contact. -/
inductive PressPhase where
  | released
  | held (since : ℕ) (handled : Bool)
  deriving DecidableEq, Repr

namespace PressPhase

/-- A press that is held is answered once it has lasted. -/
def answer (since : ℕ) (handled : Bool) (hold : ℕ) :
    PressPhase × List ButtonAction :=
  if handled = false ∧ longPressMs < sub32 hold since then
    (.held since true, [.longPress])
  else (.held since handled, [])

/-- One level that has settled. -/
def next (press hold : ℕ) : PinLevel → PressPhase →
    PressPhase × List ButtonAction
  | .high, .released => (.released, [])
  | .high, .held _ handled =>
      (.released, if handled then [] else [.shortPress])
  | .low, .released =>
      ((answer press false hold).1, .pressed :: (answer press false hold).2)
  | .low, .held since handled => answer since handled hold

variable {press hold since : ℕ} {handled : Bool} {reading : PinLevel}
  {phase : PressPhase}

/-- An answer never dates a press anew. -/
theorem answer_since (since : ℕ) (handled : Bool) (hold : ℕ) :
    ∃ after, (answer since handled hold).1 = .held since after := by
  unfold answer
  split
  · exact ⟨true, rfl⟩
  · exact ⟨handled, rfl⟩

theorem long_of_answer
    (hlong : .longPress ∈ (answer since handled hold).2) :
    (answer since handled hold).1 = .held since true ∧
      longPressMs < sub32 hold since := by
  unfold answer at hlong ⊢
  split at hlong
  next hlasted =>
    rw [if_pos hlasted]
    exact ⟨rfl, hlasted.2⟩
  next => cases hlong

/-- A button that is down was down, or this level has pressed it. -/
theorem held_of_next
    (hheld : (next press hold reading phase).1 = .held since handled) :
    (∃ before, phase = .held since before) ∨
      (reading = .low ∧ since = press) := by
  cases reading with
  | high => cases phase <;> cases hheld
  | low =>
      cases phase with
      | released =>
          obtain ⟨after, hafter⟩ := answer_since press false hold
          have hsame := hafter.symm.trans hheld
          exact .inr ⟨rfl, (PressPhase.held.inj hsame).1.symm⟩
      | held first was =>
          obtain ⟨after, hafter⟩ := answer_since first was hold
          have hsame := hafter.symm.trans hheld
          exact .inl ⟨was, by rw [(PressPhase.held.inj hsame).1]⟩

theorem long_of_next
    (hlong : .longPress ∈ (next press hold reading phase).2) :
    reading = .low ∧
      ∃ since, (next press hold reading phase).1 = .held since true ∧
        longPressMs < sub32 hold since := by
  cases reading with
  | high =>
      cases phase with
      | released => cases hlong
      | held since handled => cases handled <;> simp [next] at hlong
  | low =>
      cases phase with
      | released =>
          have hanswer : .longPress ∈ (answer press false hold).2 := by
            simpa [next] using hlong
          exact ⟨rfl, press, long_of_answer hanswer⟩
      | held since handled => exact ⟨rfl, since, long_of_answer hlong⟩

end PressPhase

namespace ButtonInput

variable {debounceMs edge check press hold : ℕ} {button : ButtonInput}
  {reading : PinLevel}

def phase (button : ButtonInput) : PressPhase :=
  match button.buttonState with
  | .high => .released
  | .low => .held button.buttonPressStartTime button.longPressHandled

@[simp] theorem phase_noteEdge :
    (button.noteEdge reading edge).phase = button.phase := by
  unfold noteEdge
  split <;> rfl

theorem phase_lastButtonState :
    { button with lastButtonState := reading }.phase = button.phase := rfl

theorem checkHold_spec :
    (button.checkHold hold).1.phase = (match button.phase with
      | .released => PressPhase.released
      | .held since handled => (PressPhase.answer since handled hold).1) ∧
    (button.checkHold hold).2 = (match button.phase with
      | .released => []
      | .held since handled => (PressPhase.answer since handled hold).2) := by
  cases hlevel : button.buttonState with
  | high => simp [checkHold, phase, hlevel]
  | low =>
      by_cases hlong : button.longPressHandled = false ∧
          longPressMs < sub32 hold button.buttonPressStartTime
      · simp [checkHold, phase, PressPhase.answer, hlevel, hlong]
      · simp [checkHold, phase, PressPhase.answer, hlevel, hlong]

theorem handle_unsettled
    (hbounce : ¬Settled debounceMs button reading edge check)
    (press hold : ℕ) :
    (button.handleButtonInput debounceMs reading edge check press
        hold).1.phase = button.phase ∧
      (button.handleButtonInput debounceMs reading edge check press
        hold).2 = [] := by
  have hskip : button.handleButtonInput debounceMs reading edge check press
      hold = ({ button.noteEdge reading edge with
        lastButtonState := reading }, []) := if_neg hbounce
  rw [hskip]
  exact ⟨phase_noteEdge, rfl⟩

/-- A poll whose level has settled moves the press by that level. -/
theorem handle_settled
    (hsettled : Settled debounceMs button reading edge check)
    (press hold : ℕ) :
    (button.handleButtonInput debounceMs reading edge check press
        hold).1.phase = (PressPhase.next press hold reading button.phase).1 ∧
      (button.handleButtonInput debounceMs reading edge check press
        hold).2 = (PressPhase.next press hold reading button.phase).2 := by
  have hpoll : button.handleButtonInput debounceMs reading edge check press
      hold =
        let settled := (button.noteEdge reading edge).settle reading press
        ({ (settled.1.checkHold hold).1 with lastButtonState := reading },
          settled.2 ++ (settled.1.checkHold hold).2) := if_pos hsettled
  rw [hpoll]
  dsimp only
  rw [phase_lastButtonState, checkHold_spec.1, checkHold_spec.2]
  generalize hnoted : button.noteEdge reading edge = noted
  have hphase : button.phase = noted.phase := by
    rw [← hnoted, phase_noteEdge]
  rw [hphase]
  unfold settle phase
  cases reading <;> cases hlevel : noted.buttonState <;>
    simp [PressPhase.next, hlevel]

end ButtonInput

end SensorFirmware
