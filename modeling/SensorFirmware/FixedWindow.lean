import SensorFirmware.EventTrace

/-!
# Calls counted in fixed windows

A limiter opens a window with the first call that comes late enough after the
beginning of the window before, and rejects a call whose window has used up its
budget.  How far two readings of the clock are apart is a parameter, so the
clock may go round.  Lists of calls have the newest call first.
-/

namespace FixedWindow

open EventTrace

structure Window where
  start : ℕ
  calls : ℕ
  deriving DecidableEq, Repr

structure Limit where
  elapsed : ℕ → ℕ → ℕ
  width : ℕ
  budget : ℕ

namespace Limit

variable (limit : Limit)

/-- The window that a call made now belongs to. -/
def renew (window : Window) (now : ℕ) : Window :=
  if limit.width < limit.elapsed now window.start then ⟨now, 0⟩ else window

def count (window : Window) (now : ℕ) : Window :=
  ⟨(limit.renew window now).start, (limit.renew window now).calls + 1⟩

def Admits (window : Window) (now : ℕ) : Prop :=
  (limit.renew window now).calls < limit.budget

/-- The window of the newest call, when no call was left out. -/
def windowOf (first : Window) : List ℕ → Window
  | [] => first
  | now :: past => limit.count (windowOf first past) now

/-- No window takes more calls than the budget allows. -/
def Paced (first : Window) : List ℕ → Prop :=
  Always fun past now =>
    (limit.windowOf first (now :: past)).calls ≤ limit.budget

instance (first : Window) (calls : List ℕ) :
    Decidable (limit.Paced first calls) :=
  inferInstanceAs (Decidable (Always _ calls))

/-! ### Times at which there may be a call -/

/-- More times than the budget fall into the window that begins at `start`. -/
def Crowds (start : ℕ) (times : List ℕ) : Prop :=
  limit.budget < times.length ∧
    ∀ time ∈ times, limit.elapsed time start ≤ limit.width

/-- No window that begins at `first`, or at the earliest of some of the times,
takes more of them than the budget. -/
def Uncrowded (first : ℕ) (times : List ℕ) : Prop :=
  ∀ chosen, chosen.Sublist times →
    ¬limit.Crowds first chosen ∧
      ∀ earliest ∈ chosen.getLast?, ¬limit.Crowds earliest chosen

instance (start : ℕ) (times : List ℕ) : Decidable (limit.Crowds start times) :=
  inferInstanceAs (Decidable (_ ∧ _))

instance (first : ℕ) (times : List ℕ) :
    Decidable (limit.Uncrowded first times) :=
  decidable_of_iff
    (∀ chosen ∈ times.sublists, ¬limit.Crowds first chosen ∧
      ∀ earliest ∈ chosen.getLast?, ¬limit.Crowds earliest chosen)
    (by simp only [Uncrowded, List.mem_sublists])

section Crowding

variable {limit}

/-- The calls that the window of the newest call has counted. -/
theorem windowOf_counts (hself : ∀ now, limit.elapsed now now ≤ limit.width)
    (first : ℕ) (calls : List ℕ) :
    ∃ counted before, calls = counted ++ before ∧
      counted.length = (limit.windowOf ⟨first, 0⟩ calls).calls ∧
      (∀ call ∈ counted, limit.elapsed call
        (limit.windowOf ⟨first, 0⟩ calls).start ≤ limit.width) ∧
      ((limit.windowOf ⟨first, 0⟩ calls).start = first ∨
        (limit.windowOf ⟨first, 0⟩ calls).start ∈ counted.getLast?) := by
  induction calls with
  | nil =>
      have hnone : ∀ call ∈ ([] : List ℕ), limit.elapsed call first ≤
          limit.width := fun _ hcall => absurd hcall List.not_mem_nil
      exact ⟨[], [], rfl, rfl, hnone, .inl rfl⟩
  | cons now past ih =>
      obtain ⟨counted, before, hpast, hlength, hinside, hbegins⟩ := ih
      rw [windowOf]
      generalize limit.windowOf ⟨first, 0⟩ past = window at *
      unfold count renew
      split
      next =>
        -- a new window, which has counted this call alone
        refine ⟨[now], past, rfl, rfl, ?_, .inr rfl⟩
        intro call hcall
        cases List.mem_singleton.mp hcall
        exact hself now
      next hopen =>
        refine ⟨now :: counted, before, by rw [hpast]; rfl, ?_, ?_, ?_⟩
        · rw [List.length_cons, hlength]
        · intro call hcall
          rcases List.mem_cons.mp hcall with rfl | hearlier
          · exact Nat.le_of_not_lt hopen
          · exact hinside call hearlier
        · refine hbegins.imp_right fun hlast => ?_
          rw [List.getLast?_cons, Option.mem_def.mp hlast]
          rfl

/-- Whichever of the times have a call, no window gets more than its budget. -/
theorem Uncrowded.paced (hself : ∀ now, limit.elapsed now now ≤ limit.width)
    {first : ℕ} {times calls : List ℕ}
    (huncrowded : limit.Uncrowded first times)
    (hcalls : calls.Sublist times) : limit.Paced ⟨first, 0⟩ calls := by
  rw [Paced, EventTrace.always_iff]
  intro newer now past hsplit
  obtain ⟨counted, before, hcounted, hlength, hinside, hbegins⟩ :=
    windowOf_counts hself first (now :: past)
  rw [← hlength]
  by_contra hover
  have hchosen : counted.Sublist times := by
    have hwindow : counted.Sublist (now :: past) :=
      hcounted ▸ List.sublist_append_left counted before
    have hsuffix : (now :: past).Sublist calls :=
      hsplit ▸ List.sublist_append_right newer (now :: past)
    exact (hwindow.trans hsuffix).trans hcalls
  obtain ⟨hfirst, hearliest⟩ := huncrowded counted hchosen
  have hcrowds := And.intro (Nat.lt_of_not_le hover) hinside
  rcases hbegins with hbegin | hbegin
  · rw [hbegin] at hcrowds
    exact hfirst hcrowds
  · exact hearliest _ hbegin hcrowds

/-- Calls in one window that the earliest of them opens are all counted. -/
theorem windowOf_eq_of_within {first earliest : ℕ} {calls : List ℕ}
    (hopens : limit.width < limit.elapsed earliest first)
    (hearliest : earliest ∈ calls.getLast?)
    (hwithin : ∀ call ∈ calls, limit.elapsed call earliest ≤ limit.width) :
    limit.windowOf ⟨first, 0⟩ calls = ⟨earliest, calls.length⟩ := by
  induction calls with
  | nil => cases hearliest
  | cons now past ih =>
      cases past with
      | nil =>
          have hnow : now = earliest := Option.some.inj hearliest
          have hrenewed : limit.renew ⟨first, 0⟩ now = ⟨now, 0⟩ :=
            if_pos (hnow ▸ hopens)
          rw [windowOf, windowOf, count, hrenewed, hnow]
          rfl
      | cons previous older =>
          have hpast : limit.windowOf ⟨first, 0⟩ (previous :: older) =
              ⟨earliest, (previous :: older).length⟩ := by
            refine ih ?_ fun call hcall => hwithin call (.tail _ hcall)
            rwa [List.getLast?_cons_cons] at hearliest
          have hkept : limit.renew ⟨earliest, (previous :: older).length⟩ now =
              ⟨earliest, (previous :: older).length⟩ :=
            if_neg (Nat.not_lt.mpr (hwithin now (.head _)))
          rw [windowOf, hpast, count, hkept]
          rfl

/-- Where each of the times is late enough to open a window, a part of them
that crowds one is not admitted as a whole. -/
theorem uncrowded_iff_paced (hself : ∀ now, limit.elapsed now now ≤ limit.width)
    {first : ℕ} {times : List ℕ}
    (hlate : ∀ time ∈ times, limit.width < limit.elapsed time first) :
    limit.Uncrowded first times ↔
      ∀ calls, calls.Sublist times → limit.Paced ⟨first, 0⟩ calls := by
  constructor
  · exact fun huncrowded calls hcalls => huncrowded.paced hself hcalls
  · intro hpaced chosen hchosen
    refine ⟨fun hcrowds => ?_, fun earliest hearliest hcrowds => ?_⟩
    · cases chosen with
      | nil => exact Nat.not_lt_zero _ hcrowds.1
      | cons now past =>
          have hwithin := hcrowds.2 now (.head past)
          have hopens := hlate now (hchosen.subset (.head past))
          omega
    · have hmem : earliest ∈ chosen := List.mem_of_getLast? hearliest
      have hwindow := windowOf_eq_of_within
        (hlate earliest (hchosen.subset hmem)) hearliest hcrowds.2
      have hbudget := hpaced chosen hchosen
      cases chosen with
      | nil => cases hmem
      | cons now past =>
          rw [Paced, EventTrace.always_cons, hwindow] at hbudget
          exact Nat.not_lt.mpr hbudget.1 hcrowds.1

end Crowding

/-- What holds of a limiter that was in the window `first` before all calls. -/
structure Limited (first window : Window) (calls rejected : List ℕ) :
    Prop where
  none_iff : rejected = [] ↔ limit.Paced first calls
  window : rejected = [] → window = limit.windowOf first calls

variable {limit} {first window : Window} {calls rejected : List ℕ} {now : ℕ}

theorem limited_start (first : Window) : limit.Limited first first [] [] :=
  ⟨iff_of_true rfl trivial, fun _ => rfl⟩

theorem Limited.admit (hlimited : limit.Limited first window calls rejected)
    (hadmits : limit.Admits window now) :
    limit.Limited first (limit.count window now) (now :: calls) rejected := by
  constructor
  · constructor
    · intro hnone
      have hwindow := hlimited.window hnone
      refine ⟨?_, hlimited.none_iff.mp hnone⟩
      rw [hwindow] at hadmits
      exact hadmits
    · intro hpaced
      exact hlimited.none_iff.mpr hpaced.2
  · intro hnone
    rw [hlimited.window hnone]
    rfl

theorem Limited.reject (hlimited : limit.Limited first window calls rejected)
    (hfull : ¬limit.Admits window now) {next : Window} :
    limit.Limited first next (now :: calls) (now :: rejected) := by
  refine ⟨iff_of_false (List.cons_ne_nil _ _) ?_, ?_⟩
  · intro hpaced
    -- all earlier calls were counted, so this one would have been admitted
    have hnone := hlimited.none_iff.mpr hpaced.2
    have hroom := hpaced.1
    rw [hlimited.window hnone] at hfull
    exact hfull hroom
  · intro hnone
    cases hnone

end Limit

end FixedWindow
