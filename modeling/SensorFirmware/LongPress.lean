import SensorFirmware.ButtonPresses

/-!
# Answers to a press

Between two boots every press is answered once, by a change of pairing or by
the deletion of the bonds.  Which answer a button gets that is held down from
some poll on is read off the times of the polls.
-/

namespace SensorFirmware

open GuardedRun

namespace ButtonRun

/-- What the polls of a run ask of the manager, in order. -/
def trace (debounceMs pairingWindowMs : ℕ) :
    ButtonRun → List ButtonEvent → List ButtonAction
  | _, [] => []
  | state, event :: events =>
      state.actions debounceMs event ++
        trace debounceMs pairingWindowMs
          (state.step debounceMs pairingWindowMs event) events

end ButtonRun

/-- Presses and answers in turn, beginning with a press. -/
def Alternating : List ButtonAction → Prop
  | [] => True
  | [action] => action = .pressed
  | press :: answer :: rest =>
      press = .pressed ∧ answer ≠ .pressed ∧ Alternating rest

namespace PressPhase

/-- What may follow in a phase: the answer that is owed comes first. -/
def Owes : PressPhase → List ButtonAction → Prop
  | .held _ false, actions => Alternating (.pressed :: actions)
  | _, actions => Alternating actions

/-- The answers that are owed. -/
def owed : PressPhase → ℕ
  | .held _ false => 1
  | _ => 0

variable {press hold since : ℕ} {handled : Bool} {reading : PinLevel}
  {phase : PressPhase} {actions : List ButtonAction}

theorem owes_answer
    (howes : (answer since handled hold).1.Owes actions) :
    (PressPhase.held since handled).Owes
      ((answer since handled hold).2 ++ actions) := by
  unfold answer at howes ⊢
  split at howes
  next hlasted =>
    rw [if_pos hlasted, hlasted.1]
    exact ⟨rfl, by simp, howes⟩
  next hshort =>
    rw [if_neg hshort]
    exact howes

theorem owes_next
    (howes : (next press hold reading phase).1.Owes actions) :
    phase.Owes ((next press hold reading phase).2 ++ actions) := by
  cases reading with
  | high =>
      cases phase with
      | released => exact howes
      | held since handled =>
          cases handled with
          | false => exact ⟨rfl, by simp, howes⟩
          | true => exact howes
  | low =>
      cases phase with
      | released => exact owes_answer howes
      | held since handled => exact owes_answer howes

theorem owed_answer (since : ℕ) (handled : Bool) (hold : ℕ) :
    (answer since handled hold).2.length +
        (answer since handled hold).1.owed =
      (PressPhase.held since handled).owed := by
  unfold answer
  split
  next hlasted =>
    rw [hlasted.1]
    rfl
  next => exact Nat.zero_add _

theorem even_next (press hold : ℕ) (reading : PinLevel) (phase : PressPhase) :
    Even (phase.owed + (next press hold reading phase).2.length +
      (next press hold reading phase).1.owed) := by
  cases reading with
  | high =>
      cases phase with
      | released => exact Even.zero
      | held since handled =>
          cases handled with
          | false => exact ⟨1, rfl⟩
          | true => exact ⟨0, rfl⟩
  | low =>
      cases phase with
      | released =>
          have howed := owed_answer press false hold
          change (answer press false hold).2.length + _ = 1 at howed
          change Even (0 + ((answer press false hold).2.length + 1) +
            (answer press false hold).1.owed)
          rw [Nat.even_iff]
          omega
      | held since handled =>
          rw [Nat.add_assoc]
          change Even (_ + ((answer since handled hold).2.length +
            (answer since handled hold).1.owed))
          rw [owed_answer]
          exact Even.add_self _

end PressPhase

namespace ButtonRun

variable {debounceMs pairingWindowMs : ℕ} {state : ButtonRun}

theorem phase_poll (poll : ButtonPoll)
    {actions : List ButtonAction}
    (howes : (state.step debounceMs pairingWindowMs
      (.poll poll)).button.phase.Owes actions) :
    state.button.phase.Owes
      (state.actions debounceMs (.poll poll) ++ actions) := by
  simp only [step, ButtonRun.actions, handled] at howes ⊢
  by_cases hsettles : state.Settles debounceMs poll
  · obtain ⟨hphase, hactions⟩ := ButtonInput.handle_settled hsettles
      (u32 (state.pressAt poll)) (u32 (state.holdAt poll))
    rw [hphase] at howes
    rw [hactions]
    exact PressPhase.owes_next howes
  · obtain ⟨hphase, hactions⟩ := ButtonInput.handle_unsettled hsettles
      (u32 (state.pressAt poll)) (u32 (state.holdAt poll))
    rw [hphase] at howes
    rw [hactions]
    exact howes

theorem owes_trace (state : ButtonRun) (events : List ButtonEvent)
    (hboot : ∀ after powerLoss,
      ButtonEvent.ble after (.boot powerLoss) ∉ events) :
    state.button.phase.Owes
      (state.trace debounceMs pairingWindowMs events) := by
  induction events generalizing state with
  | nil =>
      unfold trace PressPhase.Owes
      cases state.button.phase with
      | released => trivial
      | held since handled => cases handled <;> trivial
  | cons event events ih =>
      have hrest : ∀ after powerLoss,
          ButtonEvent.ble after (.boot powerLoss) ∉ events :=
        fun after powerLoss hmem =>
          hboot after powerLoss (List.mem_cons_of_mem _ hmem)
      have hnext := ih (state.step debounceMs pairingWindowMs event) hrest
      cases event with
      | poll poll => exact phase_poll poll hnext
      | ble after event =>
          cases event with
          | boot powerLoss =>
              exact absurd List.mem_cons_self (hboot after powerLoss)
          | _ => exact hnext

/-! ### A level that has stood -/

theorem even_poll (debounceMs pairingWindowMs : ℕ) (state : ButtonRun)
    (poll : ButtonPoll) :
    Even (state.button.phase.owed +
      (state.actions debounceMs (.poll poll)).length +
      (state.step debounceMs pairingWindowMs
        (.poll poll)).button.phase.owed) := by
  simp only [step, ButtonRun.actions, handled]
  by_cases hsettles : state.Settles debounceMs poll
  · obtain ⟨hphase, hactions⟩ := ButtonInput.handle_settled hsettles
      (u32 (state.pressAt poll)) (u32 (state.holdAt poll))
    rw [hphase, hactions]
    exact PressPhase.even_next _ _ _ _
  · obtain ⟨hphase, hactions⟩ := ButtonInput.handle_unsettled hsettles
      (u32 (state.pressAt poll)) (u32 (state.holdAt poll))
    rw [hphase, hactions, List.length_nil, Nat.add_zero]
    exact Even.add_self _

/-- An answer is owed at the end of a run where it was not at the beginning, or
the other way round, exactly if the actions are odd in number. -/
theorem even_trace (debounceMs pairingWindowMs : ℕ) (state : ButtonRun)
    (events : List ButtonEvent)
    (hboot : ∀ after powerLoss,
      ButtonEvent.ble after (.boot powerLoss) ∉ events) :
    Even (state.button.phase.owed +
      (state.trace debounceMs pairingWindowMs events).length +
      (run (step debounceMs pairingWindowMs) state
        events).button.phase.owed) := by
  induction events generalizing state with
  | nil => exact Even.add_self _
  | cons event events ih =>
      have hrest : ∀ after powerLoss,
          ButtonEvent.ble after (.boot powerLoss) ∉ events :=
        fun after powerLoss hmem =>
          hboot after powerLoss (List.mem_cons_of_mem _ hmem)
      have hnext := ih (state.step debounceMs pairingWindowMs event) hrest
      have hhere : Even (state.button.phase.owed +
          (state.actions debounceMs event).length +
          (state.step debounceMs pairingWindowMs
            event).button.phase.owed) := by
        cases event with
        | poll poll => exact even_poll debounceMs pairingWindowMs state poll
        | ble after event =>
            cases event with
            | boot powerLoss =>
                exact absurd List.mem_cons_self (hboot after powerLoss)
            | _ => exact Even.add_self _
      rw [trace, List.length_append, run_cons]
      rw [Nat.even_iff] at hhere hnext ⊢
      omega

/-- A level high that has stood releases the button. -/
theorem released_of_high (htracks : state.Tracks) (hdated : state.Dated)
    {poll : ButtonPoll} (hhigh : poll.reading = .high)
    (hstands : state.Stands debounceMs poll) :
    (state.step debounceMs pairingWindowMs (.poll poll)).button.phase =
      .released := by
  have hsettles := (settles_iff_stands htracks hdated poll).mpr hstands
  have hnext : (state.handled debounceMs poll).1.phase = _ :=
    (ButtonInput.handle_settled hsettles _ _).1
  change (state.handled debounceMs poll).1.phase = _
  rw [hnext, hhigh]
  cases state.button.phase <;> rfl

/-- A press that is released, with a bounce between. -/
def bouncedPress : List ButtonEvent :=
  [.poll ⟨.low, 500, 0, 0, 0, 0⟩, .poll ⟨.high, 3, 0, 0, 0, 0⟩,
    .poll ⟨.low, 2, 0, 0, 0, 0⟩, .poll ⟨.low, 60, 0, 0, 0, 0⟩,
    .poll ⟨.high, 60, 0, 0, 0, 0⟩]

end ButtonRun

/-! ## A button that is held down -/

/-- The readings of the clock that one poll may compare. -/
structure PollTimes where
  check : ℕ
  press : ℕ
  hold : ℕ
  deriving DecidableEq, Repr

namespace ButtonRun

def times (state : ButtonRun) (poll : ButtonPoll) : PollTimes :=
  ⟨state.checkAt poll, state.pressAt poll, state.holdAt poll⟩

def timeline (debounceMs pairingWindowMs : ℕ) :
    ButtonRun → List ButtonPoll → List PollTimes
  | _, [] => []
  | state, poll :: polls =>
      state.times poll :: timeline debounceMs pairingWindowMs
        (state.step debounceMs pairingWindowMs (.poll poll)) polls

/-- Some poll finds the press longer than three seconds. -/
def Lasts (since : ℕ) (polls : List PollTimes) : Prop :=
  ∃ last ∈ polls, since + longPressMs < last.hold

/-- Some poll finds the level settled, and that one or a later one finds the
press longer than three seconds. -/
def SettlesAndLasts (debounceMs edge : ℕ) (polls : List PollTimes) : Prop :=
  ∃ earlier press later, polls = earlier ++ press :: later ∧
    edge + debounceMs < press.check ∧ Lasts press.press (press :: later)

@[simp] theorem lasts_cons {since : ℕ} (poll : PollTimes)
    (polls : List PollTimes) :
    Lasts since (poll :: polls) ↔
      since + longPressMs < poll.hold ∨ Lasts since polls := by
  simp [Lasts]

theorem settlesAndLasts_cons {debounceMs edge : ℕ} (poll : PollTimes)
    (polls : List PollTimes) :
    SettlesAndLasts debounceMs edge (poll :: polls) ↔
      (edge + debounceMs < poll.check ∧ Lasts poll.press (poll :: polls)) ∨
        SettlesAndLasts debounceMs edge polls := by
  constructor
  · rintro ⟨earlier, press, later, hpolls, hsettled, hlasts⟩
    cases earlier with
    | nil =>
        obtain ⟨rfl, rfl⟩ := List.cons.inj hpolls
        exact .inl ⟨hsettled, hlasts⟩
    | cons first earlier =>
        obtain ⟨-, hrest⟩ := List.cons.inj hpolls
        exact .inr ⟨earlier, press, later, hrest, hsettled, hlasts⟩
  · rintro (⟨hsettled, hlasts⟩ |
      ⟨earlier, press, later, rfl, hsettled, hlasts⟩)
    · exact ⟨[], poll, polls, rfl, hsettled, hlasts⟩
    · exact ⟨poll :: earlier, press, later, rfl, hsettled, hlasts⟩

variable {debounceMs pairingWindowMs edge since : ℕ} {state : ButtonRun}
  {poll : ButtonPoll} {polls : List ButtonPoll}

theorem pressAt_le_nowMs (debounceMs pairingWindowMs : ℕ)
    (state : ButtonRun) (poll : ButtonPoll) :
    state.pressAt poll ≤
      (state.step debounceMs pairingWindowMs (.poll poll)).nowMs := by
  change state.pressAt poll ≤ state.pressAt poll + poll.holdAfter +
    poll.actAfter
  omega

theorem nowMs_le_press {times : PollTimes}
    (hmem : times ∈ timeline debounceMs pairingWindowMs state polls) :
    state.nowMs ≤ times.press := by
  induction polls generalizing state with
  | nil => cases hmem
  | cons poll polls ih =>
      have hfirst : state.nowMs ≤ state.pressAt poll := by
        unfold pressAt checkAt edgeAt
        omega
      rcases List.mem_cons.mp hmem with rfl | hrest
      · exact hfirst
      · exact hfirst.trans ((pressAt_le_nowMs _ _ state poll).trans (ih hrest))

/-- The press is dated by the first settled poll: no later one has to be
looked at. -/
theorem lasts_of_settlesAndLasts (hsince : since ≤ state.nowMs)
    (hlasts : SettlesAndLasts debounceMs edge
      (timeline debounceMs pairingWindowMs state polls)) :
    Lasts since (timeline debounceMs pairingWindowMs state polls) := by
  obtain ⟨earlier, press, later, hpolls, -, last, hlast, hlong⟩ := hlasts
  have hpress : press ∈ timeline debounceMs pairingWindowMs state polls := by
    rw [hpolls]
    simp
  have hdated := nowMs_le_press hpress
  refine ⟨last, ?_, by omega⟩
  rw [hpolls]
  exact List.mem_append_right earlier hlast

/-- Within one period of the counter an answer is due by real time. -/
theorem answer_period {hold : ℕ} (hle : since ≤ hold)
    (hperiod : hold < since + 2 ^ 32) :
    PressPhase.answer (u32 since) false (u32 hold) =
      if since + longPressMs < hold then
        (.held (u32 since) true, [.longPress])
      else (.held (u32 since) false, []) := by
  have hpassed : longPressMs < sub32 (u32 hold) (u32 since) ↔
      since + longPressMs < hold := by
    rw [sub32_u32 hle, u32_of_lt (by omega)]
    omega
  simp only [PressPhase.answer, true_and, hpassed]

/-- The poll reads low, and the level has been low since the edge. -/
structure LowSince (state : ButtonRun) (poll : ButtonPoll) (edge : ℕ) :
    Prop where
  reading : poll.reading = .low
  noted : (state.button.noteEdge poll.reading
    (u32 (state.edgeAt poll))).lastDebounceTime = u32 edge
  past : edge ≤ state.edgeAt poll

theorem LowSince.settles_iff (hlow : state.LowSince poll edge)
    (hperiod : state.holdAt poll < edge + 2 ^ 32) :
    state.Settles debounceMs poll ↔
      edge + debounceMs < state.checkAt poll := by
  have hcheck : edge ≤ state.checkAt poll :=
    hlow.past.trans (Nat.le_add_right _ _)
  have hhold : state.checkAt poll ≤ state.holdAt poll := by
    unfold holdAt pressAt
    omega
  unfold Settles ButtonInput.Settled
  rw [hlow.noted, sub32_u32 hcheck, u32_of_lt (by omega)]
  omega

theorem LowSince.next (hlow : state.LowSince poll edge) {next : ButtonPoll}
    (hnext : next.reading = .low) :
    (state.step debounceMs pairingWindowMs (.poll poll)).LowSince next
      edge where
  reading := hnext
  noted := by
    have hlevel : (state.step debounceMs pairingWindowMs
        (.poll poll)).button.lastButtonState = .low := by
      simp [step, handled, hlow.reading]
    have hkept : ∀ millis, (state.step debounceMs pairingWindowMs
        (.poll poll)).button.noteEdge next.reading millis =
          (state.step debounceMs pairingWindowMs (.poll poll)).button := by
      intro millis
      rw [hnext, ← hlevel]
      exact if_neg (by simp)
    rw [hkept, ← hlow.noted]
    simp [step, handled]
  past := by
    have hact := state.edgeAt_le_actAt poll
    exact hlow.past.trans (hact.trans (Nat.le_add_right _ _))

/-- What a poll of a button that is down since the edge does to the press. -/
theorem LowSince.poll_spec (debounceMs pairingWindowMs : ℕ)
    (hlow : state.LowSince poll edge)
    (hperiod : state.holdAt poll < edge + 2 ^ 32) :
    ((state.step debounceMs pairingWindowMs (.poll poll)).button.phase,
        state.actions debounceMs (.poll poll)) =
      if edge + debounceMs < state.checkAt poll then
        PressPhase.next (u32 (state.pressAt poll)) (u32 (state.holdAt poll))
          .low state.button.phase
      else (state.button.phase, []) := by
  simp only [step, ButtonRun.actions, handled]
  by_cases hsettles : state.Settles debounceMs poll
  · obtain ⟨hphase, hactions⟩ := ButtonInput.handle_settled hsettles
      (u32 (state.pressAt poll)) (u32 (state.holdAt poll))
    rw [if_pos ((hlow.settles_iff hperiod).mp hsettles), hphase, hactions,
      hlow.reading]
  · obtain ⟨hphase, hactions⟩ := ButtonInput.handle_unsettled hsettles
      (u32 (state.pressAt poll)) (u32 (state.holdAt poll))
    rw [if_neg (mt (hlow.settles_iff hperiod).mpr hsettles), hphase,
      hactions]

/-- The press stands and the level has settled: it is answered once it has
lasted. -/
theorem long_iff_lasts (hphase : state.button.phase = .held (u32 since) false)
    (hlow : ∀ poll ∈ polls, poll.reading = .low)
    (hsince : ∀ poll ∈ polls.head?, state.LowSince poll edge)
    (hsettled : edge + debounceMs < state.nowMs)
    (hdate : edge ≤ since) (hpast : since ≤ state.nowMs)
    (hperiod : ∀ times ∈ timeline debounceMs pairingWindowMs state polls,
      times.hold < edge + 2 ^ 32) :
    .longPress ∈ state.trace debounceMs pairingWindowMs
        (polls.map .poll) ↔
      Lasts since (timeline debounceMs pairingWindowMs state polls) := by
  induction polls generalizing state with
  | nil => simp [trace, timeline, Lasts]
  | cons poll polls ih =>
      have hhere := hsince poll rfl
      have hhold : state.holdAt poll < edge + 2 ^ 32 :=
        hperiod _ List.mem_cons_self
      have hcheck : state.nowMs ≤ state.checkAt poll := by
        unfold checkAt edgeAt
        omega
      have hle : since ≤ state.holdAt poll := by
        unfold holdAt pressAt
        omega
      have hspec := LowSince.poll_spec debounceMs pairingWindowMs hhere hhold
      rw [if_pos (by omega), hphase] at hspec
      change _ = PressPhase.answer _ _ _ at hspec
      rw [answer_period hle (by omega)] at hspec
      simp only [List.map_cons, trace, List.mem_append, timeline, lasts_cons]
      change _ ↔ since + longPressMs < state.holdAt poll ∨ _
      by_cases hlong : since + longPressMs < state.holdAt poll
      · rw [if_pos hlong] at hspec
        have hactions := congrArg Prod.snd hspec
        dsimp only at hactions
        simp [hactions, hlong]
      · rw [if_neg hlong] at hspec
        obtain ⟨hnext, hactions⟩ := Prod.mk.inj hspec
        have hrest := ih hnext (fun next hmem => hlow next (.tail _ hmem))
          (fun next hmem => hhere.next
            (hlow next (.tail _ (List.mem_of_mem_head? hmem))))
          (by
            have hlater :=
              pressAt_le_nowMs debounceMs pairingWindowMs state poll
            have hpress : state.checkAt poll ≤ state.pressAt poll :=
              Nat.le_add_right _ _
            omega)
          (by
            have hlater :=
              pressAt_le_nowMs debounceMs pairingWindowMs state poll
            have hpress : state.checkAt poll ≤ state.pressAt poll :=
              Nat.le_add_right _ _
            omega)
          (fun times hmem => hperiod times (.tail _ hmem))
        rw [hactions, hrest]
        simp [hlong]

/-- The time that the polls after this one start from. -/
theorem checkAt_le_nowMs (debounceMs pairingWindowMs : ℕ)
    (state : ButtonRun) (poll : ButtonPoll) :
    state.checkAt poll ≤
      (state.step debounceMs pairingWindowMs (.poll poll)).nowMs :=
  (Nat.le_add_right _ _).trans (pressAt_le_nowMs _ _ state poll)

/-- The button is still released: the first settled poll registers the
press. -/
theorem long_iff_settlesAndLasts (hphase : state.button.phase = .released)
    (hlow : ∀ poll ∈ polls, poll.reading = .low)
    (hsince : ∀ poll ∈ polls.head?, state.LowSince poll edge)
    (hperiod : ∀ times ∈ timeline debounceMs pairingWindowMs state polls,
      times.hold < edge + 2 ^ 32) :
    .longPress ∈ state.trace debounceMs pairingWindowMs
        (polls.map .poll) ↔
      SettlesAndLasts debounceMs edge
        (timeline debounceMs pairingWindowMs state polls) := by
  induction polls generalizing state with
  | nil => simp [trace, timeline, SettlesAndLasts]
  | cons poll polls ih =>
      have hhere := hsince poll rfl
      have hhold : state.holdAt poll < edge + 2 ^ 32 :=
        hperiod _ List.mem_cons_self
      have hle : state.pressAt poll ≤ state.holdAt poll :=
        Nat.le_add_right _ _
      have hdate : edge ≤ state.pressAt poll := by
        have hpast := hhere.past
        unfold pressAt checkAt
        omega
      have hlater : ∀ next ∈ polls, next.reading = .low :=
        fun next hmem => hlow next (.tail _ hmem)
      have hnextSince : ∀ next ∈ polls.head?,
          (state.step debounceMs pairingWindowMs (.poll poll)).LowSince next
            edge :=
        fun next hmem => hhere.next (hlater next (List.mem_of_mem_head? hmem))
      have hnextPeriod : ∀ times ∈ timeline debounceMs pairingWindowMs
          (state.step debounceMs pairingWindowMs (.poll poll)) polls,
          times.hold < edge + 2 ^ 32 :=
        fun times hmem => hperiod times (.tail _ hmem)
      have hspec := LowSince.poll_spec debounceMs pairingWindowMs hhere hhold
      simp only [List.map_cons, trace, List.mem_append, timeline,
        settlesAndLasts_cons, lasts_cons]
      change _ ↔ (edge + debounceMs < state.checkAt poll ∧
        (state.pressAt poll + longPressMs < state.holdAt poll ∨ _)) ∨ _
      by_cases hsettled : edge + debounceMs < state.checkAt poll
      · have hpressed :=
          pressAt_le_nowMs debounceMs pairingWindowMs state poll
        have hmono : SettlesAndLasts debounceMs edge (timeline debounceMs
            pairingWindowMs (state.step debounceMs pairingWindowMs
              (.poll poll)) polls) → Lasts (state.pressAt poll) _ :=
          lasts_of_settlesAndLasts hpressed
        have hanswer := answer_period hle (by omega)
        rw [if_pos hsettled, hphase] at hspec
        change _ = ((PressPhase.answer _ _ _).1,
          .pressed :: (PressPhase.answer _ _ _).2) at hspec
        rw [hanswer] at hspec
        by_cases hlong : state.pressAt poll + longPressMs < state.holdAt poll
        · rw [if_pos hlong] at hspec
          have hactions := congrArg Prod.snd hspec
          dsimp only at hactions
          simp [hactions, hlong, hsettled]
        · rw [if_neg hlong] at hspec
          obtain ⟨hnext, hactions⟩ := Prod.mk.inj hspec
          have hcheck :=
            checkAt_le_nowMs debounceMs pairingWindowMs state poll
          have hrest := long_iff_lasts hnext hlater hnextSince (by omega)
            hdate hpressed hnextPeriod
          rw [hactions, hrest]
          simp only [hsettled, hlong, false_or, true_and, List.mem_cons,
            reduceCtorEq, List.not_mem_nil, or_false]
          exact (or_iff_left_of_imp hmono).symm
      · rw [if_neg hsettled] at hspec
        obtain ⟨hnext, hactions⟩ := Prod.mk.inj hspec
        have hrest := ih (hnext.trans hphase) hlater hnextSince hnextPeriod
        rw [hactions, hrest]
        simp [hsettled]

theorem bonds_of_polls (state : ButtonRun) (polls : List ButtonPoll) :
    (run (step debounceMs pairingWindowMs) state
        (polls.map .poll)).ble.bonds =
      if .longPress ∈ state.trace debounceMs pairingWindowMs
          (polls.map .poll) then []
      else state.ble.bonds := by
  induction polls generalizing state with
  | nil => rfl
  | cons poll polls ih =>
      have hhere : (state.step debounceMs pairingWindowMs
          (.poll poll)).ble.bonds =
            if .longPress ∈ state.actions debounceMs (.poll poll) then []
            else state.ble.bonds := BleDevice.onButtons_bonds _ _ _
      rw [List.map_cons, run_cons, ih, hhere]
      simp only [trace, List.mem_append]
      split_ifs <;> simp_all

/-- A released button that is read low from one poll on, for less than a
period of the counter: the bonds are deleted exactly if some poll finds the
level settled and that poll or a later one finds the press of the former longer
than three seconds. -/
theorem bonds_deleted_iff_held (state : ButtonRun) (first : ButtonPoll)
    (polls : List ButtonPoll)
    (hreleased : state.button.buttonState = .high)
    (hlevel : state.button.lastButtonState = .high)
    (hlow : ∀ poll ∈ first :: polls, poll.reading = .low)
    (hperiod : ∀ times ∈ timeline debounceMs pairingWindowMs state
      (first :: polls), times.hold < state.edgeAt first + 2 ^ 32) :
    (run (step debounceMs pairingWindowMs) state
        ((first :: polls).map .poll)).ble.bonds = [] ↔
      state.ble.bonds = [] ∨
        SettlesAndLasts debounceMs (state.edgeAt first)
          (timeline debounceMs pairingWindowMs state (first :: polls)) := by
  have hphase : state.button.phase = .released := by
    simp [ButtonInput.phase, hreleased]
  have hreading := hlow first List.mem_cons_self
  have hfirst : state.LowSince first (state.edgeAt first) :=
    ⟨hreading, by simp [ButtonInput.noteEdge, hreading, hlevel], le_rfl⟩
  have hsince : ∀ poll ∈ (first :: polls).head?,
      state.LowSince poll (state.edgeAt first) := by
    intro poll hpoll
    cases Option.some.inj hpoll
    exact hfirst
  rw [bonds_of_polls,
    ← long_iff_settlesAndLasts hphase hlow hsince hperiod]
  split_ifs with hlong
  · exact iff_of_true rfl (.inr hlong)
  · exact (or_iff_left hlong).symm

/-- Three polls: at the edge, after the debounce time, and three seconds after
that. -/
theorem bonds_deleted_iff_held_twice :
    let state := start ⟨.construct, [7, 8], false, ⟨0, 0⟩⟩
    let polls : List ButtonPoll :=
      [⟨.low, 500, 0, 0, 0, 0⟩, ⟨.low, 51, 0, 0, 0, 0⟩,
        ⟨.low, 3001, 0, 0, 0, 0⟩]
    (run (step 50 60000) state (polls.map .poll)).ble.bonds = [] :=
  (bonds_deleted_iff_held _ _ _ rfl rfl (by decide) (by decide)).mpr
    (.inr ⟨[⟨500, 500, 500⟩], ⟨551, 551, 551⟩, [⟨3552, 3552, 3552⟩],
      by decide, by decide, ⟨3552, 3552, 3552⟩, by decide, by decide⟩)

end ButtonRun

end SensorFirmware
