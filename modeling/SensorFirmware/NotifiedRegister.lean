import SensorFirmware.GuardedRun

/-!
# A register with notifications

A register holds the value written last.  The writer notifies a reader, and the
reader takes all notifications at once, then the lock, and then reads.  While it
has the lock, what is to be written is dropped.
-/

namespace NotifiedRegister

open GuardedRun

variable {α : Type*}

/-- Where the reader is; `busy` is anywhere else. -/
inductive Phase where
  | waiting
  | locking
  | reading
  | busy
  | gone
  deriving DecidableEq, Repr

/-- `missed` says that the value written last was not notified, or that the
reader has given up a lock since. -/
structure Register (α : Type*) where
  written : List α
  notified : ℕ
  phase : Phase
  read : List α
  missed : Bool

inductive Event (α : Type*) where
  | write (value : α) (notify : Bool)
  | wake
  | lock
  | giveUp
  | read
  | resume
  | leave

namespace Register

def start : Register α := ⟨[], 0, .busy, [], false⟩

def step (r : Register α) : Event α → Register α
  | .write value notify =>
      if r.phase = .reading then r
      else
        { r with
          written := r.written ++ [value]
          notified := if notify then r.notified + 1 else r.notified
          missed := !notify }
  | .wake =>
      if r.phase = .waiting ∧ 0 < r.notified then
        { r with notified := 0, phase := .locking }
      else r
  | .lock => if r.phase = .locking then { r with phase := .reading } else r
  | .giveUp =>
      if r.phase = .locking then { r with phase := .busy, missed := true }
      else r
  | .read =>
      if r.phase = .reading then
        { r with
          phase := .busy
          read := r.read ++ r.written.getLast?.toList }
      else r
  | .resume => if r.phase = .busy then { r with phase := .waiting } else r
  | .leave =>
      if r.phase = .busy ∨ r.phase = .waiting then { r with phase := .gone }
      else r

/-- How often the reader will still read without a further notification. -/
def turns (r : Register α) : ℕ :=
  (if 0 < r.notified then 1 else 0) +
    if r.phase = .locking ∨ r.phase = .reading then 1 else 0

def twice (value : α) : List α := [value, value]

/-- What may have been read: the values before the last one twice, and the last
one as often as is left of two. -/
def allowed (r : Register α) : List α :=
  r.written.dropLast.flatMap twice ++
    r.written.getLast?.toList.flatMap (List.replicate (2 - r.turns))

structure Sound (r : Register α) : Prop where
  read : r.read.Sublist r.allowed
  nothing : r.written = [] → r.turns = 0
  latest : r.turns = 0 → r.missed = false →
    r.read.getLast? = r.written.getLast?

variable {r : Register α}

theorem sound_start : (start : Register α).Sound where
  read := List.nil_sublist _
  nothing := fun _ => rfl
  latest := fun _ _ => rfl

theorem turns_le (r : Register α) : r.turns ≤ 2 := by
  unfold turns
  split <;> split <;> omega

theorem allowed_sublist_of_turns {r s : Register α}
    (hwritten : s.written = r.written) (hturns : s.turns ≤ r.turns) :
    r.allowed.Sublist s.allowed := by
  unfold allowed
  rw [hwritten]
  apply List.Sublist.append_left
  cases r.written.getLast? with
  | none => exact List.Sublist.refl _
  | some last =>
      simp only [Option.toList_some, List.flatMap_cons, List.flatMap_nil,
        List.append_nil]
      exact List.replicate_sublist_replicate last |>.mpr (by omega)

theorem allowed_sublist (r : Register α) :
    r.allowed.Sublist (r.written.flatMap twice) := by
  unfold allowed
  cases hlast : r.written.getLast? with
  | none =>
      rw [List.getLast?_eq_none_iff] at hlast
      simp [hlast]
  | some last =>
      have hsplit : r.written = r.written.dropLast ++ [last] :=
        (List.dropLast_append_getLast? last hlast).symm
      conv_rhs => rw [hsplit, List.flatMap_append]
      apply List.Sublist.append_left
      simp only [Option.toList_some, List.flatMap_cons, List.flatMap_nil,
        List.append_nil]
      have htwo : twice last = List.replicate 2 last := rfl
      rw [htwo, List.replicate_sublist_replicate]
      omega

/-- What neither writes nor reads, and takes no turn without an excuse. -/
theorem Sound.kept (hr : r.Sound) {s : Register α}
    (hwritten : s.written = r.written) (hread : s.read = r.read)
    (hturns : s.turns ≤ r.turns)
    (hexcuse : s.turns = r.turns ∧ s.missed = r.missed ∨ s.missed = true) :
    s.Sound where
  read := by
    rw [hread]
    exact hr.read.trans (allowed_sublist_of_turns hwritten hturns)
  nothing := by
    intro hnil
    rw [hwritten] at hnil
    have hnone := hr.nothing hnil
    omega
  latest := by
    intro hnone hmissed
    rcases hexcuse with ⟨hsame, hold⟩ | htrue
    · rw [hread, hwritten]
      exact hr.latest (hsame ▸ hnone) (hold ▸ hmissed)
    · rw [htrue] at hmissed
      cases hmissed

theorem Sound.write (hr : r.Sound) (hphase : r.phase ≠ .reading) (value : α)
    (notify : Bool) : (r.step (.write value notify)).Sound := by
  rw [step, if_neg hphase]
  constructor
  · have hall := hr.read.trans r.allowed_sublist
    unfold allowed
    rw [List.dropLast_concat]
    exact hall.trans (List.sublist_append_left _ _)
  · intro hnil
    exact absurd hnil (List.append_ne_nil_of_right_ne_nil _ (List.cons_ne_nil _ _))
  · intro hnone hmissed
    cases notify with
    | false => cases hmissed
    | true => simp [turns] at hnone

theorem Sound.readLast (hr : r.Sound) (hphase : r.phase = .reading) :
    (r.step .read).Sound := by
  have hturns : r.turns = (r.step .read).turns + 1 := by
    rw [step, if_pos hphase]
    simp [turns, hphase]
  obtain ⟨last, hlast⟩ : ∃ last, r.written.getLast? = some last := by
    cases hlast : r.written.getLast? with
    | none =>
        have hnone := hr.nothing (List.getLast?_eq_none_iff.mp hlast)
        omega
    | some last => exact ⟨last, rfl⟩
  have hwritten : (r.step .read).written = r.written := by
    rw [step, if_pos hphase]
  have hread : (r.step .read).read = r.read ++ [last] := by
    rw [step, if_pos hphase, hlast]
    rfl
  constructor
  · have hle := r.turns_le
    have hleft : 2 - (r.step .read).turns = 2 - r.turns + 1 := by omega
    unfold allowed
    rw [hread, hwritten, hlast, hleft]
    have hold := hr.read
    unfold allowed at hold
    rw [hlast] at hold
    simp only [Option.toList_some, List.flatMap_cons, List.flatMap_nil,
      List.append_nil] at hold ⊢
    rw [List.replicate_succ', ← List.append_assoc]
    exact hold.append (List.Sublist.refl _)
  · intro hnil
    rw [hwritten] at hnil
    rw [hnil] at hlast
    cases hlast
  · intro _ _
    rw [hread, hwritten, hlast]
    exact List.getLast?_concat ..

theorem Sound.step (hr : r.Sound) (event : Event α) : (r.step event).Sound := by
  cases event with
  | write value notify =>
      by_cases hphase : r.phase = .reading
      · rw [Register.step, if_pos hphase]
        exact hr
      · exact hr.write hphase value notify
  | wake =>
      rw [Register.step]
      split
      · next hwake =>
        refine hr.kept rfl rfl ?_ (.inl ⟨?_, rfl⟩) <;>
          simp [turns, hwake.1, hwake.2]
      · exact hr
  | lock =>
      rw [Register.step]
      split
      · next hphase =>
        refine hr.kept rfl rfl ?_ (.inl ⟨?_, rfl⟩) <;> simp [turns, hphase]
      · exact hr
  | giveUp =>
      rw [Register.step]
      split
      · next hphase =>
        refine hr.kept rfl rfl ?_ (.inr rfl)
        simp [turns]
      · exact hr
  | read =>
      by_cases hphase : r.phase = .reading
      · exact hr.readLast hphase
      · rw [Register.step, if_neg hphase]
        exact hr
  | resume =>
      rw [Register.step]
      split
      · next hphase =>
        refine hr.kept rfl rfl ?_ (.inl ⟨?_, rfl⟩) <;> simp [turns, hphase]
      · exact hr
  | leave =>
      rw [Register.step]
      split
      · next hphase =>
        refine hr.kept rfl rfl ?_ (.inl ⟨?_, rfl⟩) <;>
          rcases hphase with hphase | hphase <;> simp [turns, hphase]
      · exact hr

theorem Sound.run (hr : r.Sound) (events : List (Event α)) :
    (GuardedRun.run Register.step r events).Sound :=
  invariant_run' (fun _ event hr => hr.step event) events hr

end Register

end NotifiedRegister
