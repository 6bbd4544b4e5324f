import SensorFirmware.ButtonInput
import SensorFirmware.PairingWindow

/-!
# Presses of the button

The last change of the level dates every settled reading, and every press is
dated by the reading that registered it.  Over any run of polls and other
events, a bond that a poll removes is therefore removed by a press that has
been held for more than three seconds.
-/

namespace SensorFirmware

open GuardedRun

namespace ButtonRun

variable {debounceMs pairingWindowMs : ℕ} {state : ButtonRun}

/-- Every level read in the debounce time before `time` was this one. -/
def Steady (debounceMs : ℕ) (state : ButtonRun) (level : PinLevel)
    (time : ℕ) : Prop :=
  ∀ sample ∈ state.samples, time ≤ sample.2 + debounceMs → sample.1 = level

instance (debounceMs : ℕ) (state : ButtonRun) (level : PinLevel)
    (time : ℕ) : Decidable (state.Steady debounceMs level time) :=
  inferInstanceAs (Decidable (∀ sample ∈ state.samples, _))

/-- The poll is acted upon. -/
def Settles (debounceMs : ℕ) (state : ButtonRun) (poll : ButtonPoll) : Prop :=
  state.button.Settled debounceMs poll.reading (u32 (state.edgeAt poll))
    (u32 (state.checkAt poll))

/-- The time of the earliest reading of a level, from `time` back through the
samples that show no other one; a level that is high since the boot counts from
there. -/
def firstRead (level : PinLevel) (time : ℕ) : List (PinLevel × ℕ) → ℕ
  | [] => if level = .high then 0 else time
  | sample :: older =>
      if sample.1 = level then firstRead level sample.2 older else time

/-- Since when the level that the poll reads has stood. -/
def stoodSince (state : ButtonRun) (poll : ButtonPoll) : ℕ :=
  firstRead poll.reading (state.edgeAt poll) state.samples

/-- By the samples, the level has stood for longer than the debounce time; what
is measured goes round with the clock. -/
def Stands (debounceMs : ℕ) (state : ButtonRun) (poll : ButtonPoll) : Prop :=
  debounceMs < u32 (state.checkAt poll - state.stoodSince poll)

instance (debounceMs : ℕ) (state : ButtonRun) (poll : ButtonPoll) :
    Decidable (state.Stands debounceMs poll) :=
  inferInstanceAs (Decidable (_ < _))

/-- The level has not changed since the edge. -/
structure Tracks (state : ButtonRun) : Prop where
  past : ∀ sample ∈ state.samples, sample.2 ≤ state.nowMs
  edge : ∃ edge, edge ≤ state.nowMs ∧
    state.button.lastDebounceTime = u32 edge ∧
    ∀ sample ∈ state.samples, edge < sample.2 →
      sample.1 = state.button.lastButtonState

theorem tracks_start (ble : BleDevice) : (start ble).Tracks where
  past := by simp [start]
  edge := ⟨0, le_rfl, by simp [start, ButtonInput.boot, u32],
    by simp [start]⟩

/-- The edge after a poll that reads this level. -/
theorem exists_edge (htracks : state.Tracks) (poll : ButtonPoll) :
    ∃ edge, edge ≤ state.edgeAt poll ∧
      (state.button.noteEdge poll.reading
        (u32 (state.edgeAt poll))).lastDebounceTime = u32 edge ∧
      ∀ sample ∈ state.samples, edge < sample.2 →
        sample.1 = poll.reading := by
  have hnow : state.nowMs ≤ state.edgeAt poll := Nat.le_add_right _ _
  by_cases hsame : poll.reading = state.button.lastButtonState
  · obtain ⟨edge, hedge, hlast, hsteady⟩ := htracks.edge
    refine ⟨edge, hedge.trans hnow, ?_, ?_⟩
    · rw [← hlast]
      simp [ButtonInput.noteEdge, hsame]
    · rw [hsame]
      exact hsteady
  · refine ⟨state.edgeAt poll, le_rfl, ?_, ?_⟩
    · simp [ButtonInput.noteEdge, hsame]
    · intro sample hsample hlater
      have hpast := htracks.past sample hsample
      omega

theorem edgeAt_le_actAt (poll : ButtonPoll) :
    state.edgeAt poll ≤ state.actAt poll := by
  unfold actAt holdAt pressAt checkAt
  omega

theorem tracks_poll (htracks : state.Tracks) (poll : ButtonPoll) :
    (state.step debounceMs pairingWindowMs (.poll poll)).Tracks where
  past := by
    intro sample hsample
    have hact := state.edgeAt_le_actAt poll
    rcases List.mem_cons.mp hsample with rfl | hold
    · exact hact
    · have hpast := htracks.past sample hold
      have hnow : state.nowMs ≤ state.edgeAt poll := Nat.le_add_right _ _
      exact hpast.trans (hnow.trans hact)
  edge := by
    obtain ⟨edge, hedge, hlast, hsteady⟩ := state.exists_edge htracks poll
    refine ⟨edge, hedge.trans (state.edgeAt_le_actAt poll), ?_, ?_⟩
    · rw [← hlast]
      simp [step, handled]
    · intro sample hsample hlater
      have hreading : (state.step debounceMs pairingWindowMs
          (.poll poll)).button.lastButtonState = poll.reading := by
        simp [step, handled]
      rw [hreading]
      rcases List.mem_cons.mp hsample with rfl | hold
      · rfl
      · exact hsteady sample hold hlater

theorem tracks_step (state : ButtonRun) (event : ButtonEvent)
    (htracks : state.Tracks) :
    (state.step debounceMs pairingWindowMs event).Tracks := by
  have hlater : ∀ after, (∀ sample ∈ state.samples,
      sample.2 ≤ state.nowMs + after) := fun after sample hsample =>
    (htracks.past sample hsample).trans (Nat.le_add_right _ _)
  obtain ⟨edge, hedge, hlast, hsteady⟩ := htracks.edge
  cases event with
  | poll poll => exact tracks_poll htracks poll
  | ble after event =>
      cases event with
      | boot powerLoss =>
          exact ⟨by simp [step], 0, Nat.zero_le _,
            by simp [step, ButtonInput.boot, u32], by simp [step]⟩
      | _ =>
          exact ⟨hlater after, edge, hedge.trans (Nat.le_add_right _ _),
            hlast, hsteady⟩

theorem firstRead_le {level : PinLevel} {time bound : ℕ}
    {samples : List (PinLevel × ℕ)} (htime : time ≤ bound)
    (hpast : ∀ sample ∈ samples, sample.2 ≤ bound) :
    firstRead level time samples ≤ bound := by
  induction samples generalizing time with
  | nil =>
      unfold firstRead
      split
      · exact Nat.zero_le bound
      · exact htime
  | cons sample older ih =>
      unfold firstRead
      split
      · exact ih (hpast sample List.mem_cons_self) fun other hother =>
          hpast other (List.mem_cons_of_mem _ hother)
      · exact htime

/-- The edge that the button has noted, and the level after it, are those of
the samples. -/
def Dated (state : ButtonRun) : Prop :=
  match state.samples with
  | [] => state.button.lastButtonState = .high ∧
      state.button.lastDebounceTime = 0
  | sample :: older => state.button.lastButtonState = sample.1 ∧
      state.button.lastDebounceTime =
        u32 (firstRead sample.1 sample.2 older)

theorem lastDebounceTime_noteEdge (hdated : state.Dated)
    (poll : ButtonPoll) :
    (state.button.noteEdge poll.reading
        (u32 (state.edgeAt poll))).lastDebounceTime =
      u32 (state.stoodSince poll) := by
  unfold Dated at hdated
  unfold stoodSince ButtonInput.noteEdge
  split at hdated
  next hsamples =>
    rw [hsamples, hdated.1, firstRead]
    cases poll.reading with
    | low => rfl
    | high => simp [hdated.2, u32]
  next sample older hsamples =>
    rw [hsamples, hdated.1, firstRead]
    by_cases hsame : sample.1 = poll.reading
    · rw [if_pos hsame, if_neg (not_not_intro hsame.symm), hdated.2, hsame]
    · rw [if_neg hsame, if_pos (Ne.symm hsame)]

theorem dated_step (state : ButtonRun) (event : ButtonEvent)
    (hdated : state.Dated) :
    (state.step debounceMs pairingWindowMs event).Dated := by
  cases event with
  | poll poll =>
      have hedge := lastDebounceTime_noteEdge hdated poll
      have hlast : (state.handled debounceMs poll).1.lastDebounceTime =
          u32 (state.stoodSince poll) := by
        rw [← hedge]
        simp [handled]
      exact ⟨by simp [step, handled], hlast⟩
  | ble after event =>
      cases event with
      | boot powerLoss => exact ⟨rfl, rfl⟩
      | _ => exact hdated

/-- The button acts on exactly the levels that have stood. -/
theorem settles_iff_stands (htracks : state.Tracks) (hdated : state.Dated)
    (poll : ButtonPoll) :
    state.Settles debounceMs poll ↔ state.Stands debounceMs poll := by
  have hnow : state.nowMs ≤ state.edgeAt poll := Nat.le_add_right _ _
  have hedge : state.stoodSince poll ≤ state.edgeAt poll :=
    firstRead_le le_rfl fun sample hsample =>
      (htracks.past sample hsample).trans hnow
  have hcheck : state.stoodSince poll ≤ state.checkAt poll :=
    hedge.trans (Nat.le_add_right _ _)
  unfold Settles ButtonInput.Settled Stands
  rw [lastDebounceTime_noteEdge hdated, sub32_u32 hcheck]

/-- A level that has settled was steady for the debounce time. -/
theorem steady_of_settles (htracks : state.Tracks) {poll : ButtonPoll}
    (hsettles : state.Settles debounceMs poll) :
    state.Steady debounceMs poll.reading (state.checkAt poll) := by
  obtain ⟨edge, hedge, hlast, hsteady⟩ := state.exists_edge htracks poll
  have hcheck : edge ≤ state.checkAt poll :=
    hedge.trans (Nat.le_add_right _ _)
  unfold Settles ButtonInput.Settled at hsettles
  rw [hlast, sub32_u32 hcheck] at hsettles
  have hwrap : u32 (state.checkAt poll - edge) ≤ state.checkAt poll - edge :=
    Nat.mod_le _ _
  intro sample hsample hrecent
  exact hsteady sample hsample (by omega)

/-! ## Where a press comes from -/

/-- A poll either leaves the button as pressed as it was, or registers the
press itself. -/
theorem held_of_poll {poll : ButtonPoll} {since : ℕ} {handled : Bool}
    (hheld : (state.handled debounceMs poll).1.phase = .held since handled) :
    (∃ before, state.button.phase = .held since before) ∨
      (state.Settles debounceMs poll ∧ poll.reading = .low ∧
        since = u32 (state.pressAt poll)) := by
  by_cases hsettles : state.Settles debounceMs poll
  · have hnext := (ButtonInput.handle_settled hsettles _ _).1.symm.trans hheld
    rcases PressPhase.held_of_next hnext with hbefore | hpress
    · exact .inl hbefore
    · exact .inr ⟨hsettles, hpress⟩
  · have hkept :=
      (ButtonInput.handle_unsettled hsettles _ _).1.symm.trans hheld
    exact .inl ⟨handled, hkept⟩

/-- A long press is taken by a settled poll of a button that is down, once the
press has lasted. -/
theorem long_of_poll {poll : ButtonPoll}
    (hlong : .longPress ∈ (state.handled debounceMs poll).2) :
    state.Settles debounceMs poll ∧ poll.reading = .low ∧
      ∃ since, (state.handled debounceMs poll).1.phase = .held since true ∧
        longPressMs < sub32 (u32 (state.holdAt poll)) since := by
  unfold handled at hlong ⊢
  by_cases hsettles : state.Settles debounceMs poll
  · obtain ⟨hphase, hactions⟩ := ButtonInput.handle_settled hsettles
      (u32 (state.pressAt poll)) (u32 (state.holdAt poll))
    rw [hactions] at hlong
    rw [hphase]
    exact ⟨hsettles, PressPhase.long_of_next hlong⟩
  · rw [(ButtonInput.handle_unsettled hsettles _ _).2] at hlong
    cases hlong

/-- The button is down by its settled level. -/
def Down (state : ButtonRun) : Prop := state.button.buttonState = .low

instance (state : ButtonRun) : Decidable state.Down :=
  inferInstanceAs (Decidable (_ = _))

theorem down_iff : state.Down ↔
    ∃ since handled, state.button.phase = .held since handled := by
  unfold Down ButtonInput.phase
  cases state.button.buttonState <;> simp

/-- The state that the events lead to from the construction of the objects. -/
def reached (debounceMs pairingWindowMs : ℕ) (ble : BleDevice)
    (events : List ButtonEvent) : ButtonRun :=
  run (step debounceMs pairingWindowMs) (start ble) events

theorem reached_concat (ble : BleDevice) (events : List ButtonEvent)
    (event : ButtonEvent) :
    reached debounceMs pairingWindowMs ble (events ++ [event]) =
      (reached debounceMs pairingWindowMs ble events).step debounceMs
        pairingWindowMs event :=
  run_append _ _ _ _

theorem tracks_reached (debounceMs pairingWindowMs : ℕ) (ble : BleDevice)
    (events : List ButtonEvent) :
    (reached debounceMs pairingWindowMs ble events).Tracks :=
  invariant_run' tracks_step events (tracks_start ble)

theorem dated_reached (debounceMs pairingWindowMs : ℕ) (ble : BleDevice)
    (events : List ButtonEvent) :
    (reached debounceMs pairingWindowMs ble events).Dated :=
  invariant_run' dated_step events ⟨rfl, rfl⟩

/-- By the samples, the event ends a press: a level high that has stood, or a
boot. -/
def Releases (debounceMs : ℕ) (state : ButtonRun) : ButtonEvent → Prop
  | .poll poll => poll.reading = .high ∧ state.Stands debounceMs poll
  | .ble _ (.boot _) => True
  | .ble _ _ => False

theorem not_releases_of_held (htracks : state.Tracks) (hdated : state.Dated)
    {event : ButtonEvent} {since : ℕ} {handled : Bool}
    (hheld : (state.step debounceMs pairingWindowMs event).button.phase =
      .held since handled) : ¬state.Releases debounceMs event := by
  cases event with
  | poll poll =>
      rintro ⟨hhigh, hstands⟩
      have hsettles := (settles_iff_stands htracks hdated poll).mpr hstands
      have hnext :=
        (ButtonInput.handle_settled hsettles _ _).1.symm.trans hheld
      rw [hhigh] at hnext
      cases hphase : state.button.phase <;> rw [hphase] at hnext <;>
        cases hnext
  | ble after event =>
      cases event with
      | boot powerLoss => cases hheld
      | _ => exact id

/-- The poll registers a press, a level low that has stood.  While the later
events are taken no level high stands for so long, and the button stays down. -/
structure HeldSince (debounceMs pairingWindowMs : ℕ) (ble : BleDevice)
    (earlier : List ButtonEvent) (press : ButtonPoll)
    (later : List ButtonEvent) : Prop where
  low : press.reading = .low
  stands : (reached debounceMs pairingWindowMs ble earlier).Stands debounceMs
    press
  steady : (reached debounceMs pairingWindowMs ble earlier).Steady debounceMs
    .low ((reached debounceMs pairingWindowMs ble earlier).checkAt press)
  unreleased : Guarded (step debounceMs pairingWindowMs)
    (fun state event => ¬state.Releases debounceMs event)
    (reached debounceMs pairingWindowMs ble (earlier ++ [.poll press])) later
  down : Guarded (step debounceMs pairingWindowMs) (fun state _ => state.Down)
    (reached debounceMs pairingWindowMs ble (earlier ++ [.poll press])) later

/-- The button was down, and one more event is taken that keeps it down. -/
theorem HeldSince.concat {ble : BleDevice}
    {earlier later : List ButtonEvent} {press : ButtonPoll}
    (hheld : HeldSince debounceMs pairingWindowMs ble earlier press later)
    (hdown : (reached debounceMs pairingWindowMs ble
      (earlier ++ .poll press :: later)).Down) {event : ButtonEvent}
    (hkept : ¬(reached debounceMs pairingWindowMs ble
      (earlier ++ .poll press :: later)).Releases debounceMs event) :
    HeldSince debounceMs pairingWindowMs ble earlier press
      (later ++ [event]) := by
  have hsplit : run (step debounceMs pairingWindowMs)
      (reached debounceMs pairingWindowMs ble (earlier ++ [.poll press]))
      later = reached debounceMs pairingWindowMs ble
        (earlier ++ .poll press :: later) := by
    unfold reached
    rw [← run_append, List.append_assoc, List.singleton_append]
  refine ⟨hheld.low, hheld.stands, hheld.steady, ?_, ?_⟩
  · rw [guarded_append, hsplit]
    exact ⟨hheld.unreleased, hkept, trivial⟩
  · rw [guarded_append, hsplit]
    exact ⟨hheld.down, hdown, trivial⟩

/-- Every press that stands was registered by a settled poll. -/
theorem press_of_held (ble : BleDevice) (events : List ButtonEvent)
    {since : ℕ} {handled : Bool}
    (hphase : (reached debounceMs pairingWindowMs ble events).button.phase =
      .held since handled) :
    ∃ earlier press later, events = earlier ++ .poll press :: later ∧
      HeldSince debounceMs pairingWindowMs ble earlier press later ∧
      since = u32 ((reached debounceMs pairingWindowMs ble
        earlier).pressAt press) ∧
      (reached debounceMs pairingWindowMs ble earlier).pressAt press ≤
        (reached debounceMs pairingWindowMs ble events).nowMs := by
  induction events using List.reverseRecOn generalizing since handled with
  | nil => cases hphase
  | append_singleton events event ih =>
      rw [reached_concat] at hphase ⊢
      generalize hstate : reached debounceMs pairingWindowMs ble events =
        state at ih hphase ⊢
      have htracks : state.Tracks :=
        hstate ▸ tracks_reached debounceMs pairingWindowMs ble events
      have hdated : state.Dated :=
        hstate ▸ dated_reached debounceMs pairingWindowMs ble events
      have hkept := not_releases_of_held htracks hdated hphase
      -- The press is older than this event, and stands while it is taken.
      have holder : ∀ {before}, state.button.phase = .held since before →
          state.nowMs ≤ (state.step debounceMs pairingWindowMs event).nowMs →
          ∃ earlier press later,
            events ++ [event] = earlier ++ .poll press :: later ∧
            HeldSince debounceMs pairingWindowMs ble earlier press later ∧
            since = u32 ((reached debounceMs pairingWindowMs ble
              earlier).pressAt press) ∧
            (reached debounceMs pairingWindowMs ble earlier).pressAt press ≤
              (state.step debounceMs pairingWindowMs event).nowMs := by
        intro before hbefore hnow
        obtain ⟨earlier, press, later, rfl, hheld, hsince, hle⟩ := ih hbefore
        have hdown : (reached debounceMs pairingWindowMs ble
            (earlier ++ .poll press :: later)).Down := by
          rw [hstate]
          exact down_iff.mpr ⟨since, before, hbefore⟩
        rw [← hstate] at hkept
        exact ⟨earlier, press, later ++ [event], by simp,
          hheld.concat hdown hkept, hsince, hle.trans hnow⟩
      cases event with
      | ble after event =>
          cases event with
          | boot powerLoss => cases hphase
          | _ => exact holder hphase (Nat.le_add_right _ _)
      | poll poll =>
          have hlater : state.pressAt poll ≤ state.actAt poll := by
            unfold actAt holdAt
            omega
          rcases held_of_poll hphase with ⟨before, hbefore⟩ |
            ⟨hsettles, hlow, hsince⟩
          · have hnow : state.nowMs ≤ state.actAt poll :=
              (Nat.le_add_right _ _).trans (state.edgeAt_le_actAt poll)
            exact holder hbefore hnow
          · have hsteady := steady_of_settles htracks hsettles
            rw [hlow] at hsteady
            refine ⟨events, poll, [], rfl,
              ⟨hlow, ?_, ?_, trivial, trivial⟩, ?_, ?_⟩
            · rw [hstate]
              exact (settles_iff_stands htracks hdated poll).mp hsettles
            · rw [hstate]
              exact hsteady
            · rw [hstate]
              exact hsince
            · rw [hstate]
              exact hlater

end ButtonRun

/-! ## What a press does to the bonds -/

namespace BleDevice

@[simp] theorem enablePairingMode_bonds (device : BleDevice) (millis : ℕ) :
    (device.enablePairingMode millis).bonds = device.bonds :=
  startAdvertising_bonds _

theorem onButton_bonds (device : BleDevice) (millis : ℕ)
    (action : ButtonAction) :
    (device.onButton millis action).1.bonds =
      if action = .longPress then [] else device.bonds := by
  cases action with
  | pressed => rfl
  | shortPress =>
      simp only [onButton, reduceCtorEq, if_false]
      split
      · rfl
      · exact device.enablePairingMode_bonds millis
  | longPress => exact enablePairingMode_bonds _ millis

/-- Of all actions only the long press takes bonds, and it takes all. -/
theorem onButtons_bonds (device : BleDevice) (millis : ℕ)
    (actions : List ButtonAction) :
    (actions.foldl (fun ble action => (ble.onButton millis action).1)
      device).bonds =
      if .longPress ∈ actions then [] else device.bonds := by
  induction actions generalizing device with
  | nil => rfl
  | cons action actions ih =>
      rw [List.foldl_cons, ih, onButton_bonds]
      cases action <;> simp

end BleDevice

namespace ButtonRun

variable {debounceMs pairingWindowMs : ℕ}

/-- Over any run of polls and events of the manager, also across wraps of the
clock: a poll that removes a bond removes them all, for a press that a steady
level registered more than three seconds before, that no level high has ended
since and that a steady level still shows. -/
theorem bond_removed_by_long_press (ble : BleDevice)
    (events : List ButtonEvent) (poll : ButtonPoll) {peer : PeerAddress}
    (hbefore : peer ∈
      (reached debounceMs pairingWindowMs ble events).ble.bonds)
    (hafter : peer ∉ (reached debounceMs pairingWindowMs ble
      (events ++ [.poll poll])).ble.bonds) :
    (reached debounceMs pairingWindowMs ble
        (events ++ [.poll poll])).ble.bonds = [] ∧
      poll.reading = .low ∧
      (reached debounceMs pairingWindowMs ble events).Steady debounceMs .low
        ((reached debounceMs pairingWindowMs ble events).checkAt poll) ∧
      ∃ earlier press later,
        events ++ [.poll poll] = earlier ++ .poll press :: later ∧
        HeldSince debounceMs pairingWindowMs ble earlier press later ∧
        (reached debounceMs pairingWindowMs ble earlier).pressAt press +
            longPressMs <
          (reached debounceMs pairingWindowMs ble events).holdAt poll := by
  have htracks := tracks_reached debounceMs pairingWindowMs ble events
  have hdated := dated_reached debounceMs pairingWindowMs ble events
  rw [reached_concat] at hafter ⊢
  generalize hstate : reached debounceMs pairingWindowMs ble events =
    state at hbefore hafter htracks hdated ⊢
  have hbonds : (state.step debounceMs pairingWindowMs
      (.poll poll)).ble.bonds =
        if .longPress ∈ (state.handled debounceMs poll).2 then []
        else state.ble.bonds := BleDevice.onButtons_bonds _ _ _
  have hlong : .longPress ∈ (state.handled debounceMs poll).2 := by
    by_contra hnone
    rw [hbonds, if_neg hnone] at hafter
    exact hafter hbefore
  obtain ⟨hsettles, hlow, since, hphase, hlasted⟩ := long_of_poll hlong
  have hsteady := steady_of_settles htracks hsettles
  rw [hlow] at hsteady
  -- Wrapped or not, the counter shows no more than the time that has passed.
  have hpassed : ∀ {time}, time ≤ state.holdAt poll → since = u32 time →
      time + longPressMs < state.holdAt poll := by
    intro time hle hsince
    rw [hsince, sub32_u32 hle] at hlasted
    have hwrap : u32 (state.holdAt poll - time) ≤ state.holdAt poll - time :=
      Nat.mod_le _ _
    omega
  refine ⟨by rw [hbonds, if_pos hlong], hlow, hsteady, ?_⟩
  rcases held_of_poll hphase with ⟨before, hheld⟩ | ⟨-, -, hsince⟩
  · rw [← hstate] at hheld
    obtain ⟨earlier, press, later, rfl, hpress, hsince, hle⟩ :=
      press_of_held ble events hheld
    have hdown : (reached debounceMs pairingWindowMs ble
        (earlier ++ .poll press :: later)).Down :=
      down_iff.mpr ⟨since, before, hheld⟩
    have hnow : state.nowMs ≤ state.holdAt poll := by
      unfold holdAt pressAt checkAt edgeAt
      omega
    have hkept : ¬state.Releases debounceMs (.poll poll) :=
      @not_releases_of_held debounceMs pairingWindowMs state htracks hdated
        _ _ _ hphase
    rw [← hstate] at hkept
    rw [hstate] at hle
    exact ⟨earlier, press, later ++ [.poll poll], by simp,
      hpress.concat hdown hkept, hpassed (hle.trans hnow) hsince⟩
  · have hnow : state.pressAt poll ≤ state.holdAt poll :=
      Nat.le_add_right _ _
    refine ⟨events, poll, [], rfl, ⟨hlow, ?_, ?_, trivial, trivial⟩, ?_⟩
    · rw [hstate]
      exact (settles_iff_stands htracks hdated poll).mp hsettles
    · rw [hstate]
      exact hsteady
    · rw [hstate]
      exact hpassed hnow hsince

/-- Held from the first poll on: registered by the second, and taken for a
long press by the third. -/
theorem bond_removed_by_long_press_held :
    let ble : BleDevice := ⟨.construct, [7], false, ⟨0, 0⟩⟩
    let events : List ButtonEvent :=
      [.poll ⟨.low, 500, 0, 0, 0, 0⟩, .poll ⟨.low, 60, 0, 0, 0, 0⟩]
    let poll : ButtonPoll := ⟨.low, 3001, 0, 0, 0, 0⟩
    (reached 50 60000 ble (events ++ [.poll poll])).ble.bonds = [] :=
  (@bond_removed_by_long_press 50 60000 _ _ _ 7 (by decide) (by decide)).1

end ButtonRun

end SensorFirmware
