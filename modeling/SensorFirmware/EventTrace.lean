import Mathlib.Tactic

/-!
# Traces of events

A trace has its newest event first, so the tail of a trace is the past of its
head.  `Always` says that every event was allowed by its past; `Extends` says
how a computation has lengthened a trace.
-/

namespace EventTrace

variable {ε : Type*} {allowed permitted : ε → Prop}
  {P : List ε → ε → Prop}

/-- Every event satisfies `P` together with the events before it. -/
def Always (P : List ε → ε → Prop) : List ε → Prop
  | [] => True
  | event :: past => P past event ∧ Always P past

@[simp] theorem always_nil : Always P [] := trivial

@[simp] theorem always_cons (event : ε) (past : List ε) :
    Always P (event :: past) ↔ P past event ∧ Always P past := Iff.rfl

instance decidableAlways [∀ past event, Decidable (P past event)] :
    ∀ trace : List ε, Decidable (Always P trace)
  | [] => isTrue trivial
  | event :: past =>
      have : Decidable (Always P past) := decidableAlways past
      inferInstanceAs (Decidable (P past event ∧ _))

theorem always_of_append {newer older : List ε}
    (halways : Always P (newer ++ older)) : Always P older := by
  induction newer with
  | nil => exact halways
  | cons event newer ih => exact ih halways.2

/-- What `Always` says, read off a trace cut at any event. -/
theorem always_iff (trace : List ε) :
    Always P trace ↔
      ∀ newer event past, trace = newer ++ event :: past →
        P past event := by
  constructor
  · intro halways newer event past htrace
    rw [htrace] at halways
    exact (always_of_append halways).1
  · intro hall
    induction trace with
    | nil => trivial
    | cons event past ih =>
        refine ⟨hall [] event past rfl, ih ?_⟩
        intro newer other older hpast
        exact hall (event :: newer) other older (by rw [hpast]; rfl)

/-- The newer trace is the older one with allowed events added. -/
def Extends (allowed : ε → Prop) (older newer : List ε) : Prop :=
  ∃ events, newer = events ++ older ∧ ∀ event ∈ events, allowed event

namespace Extends

theorem refl (trace : List ε) : Extends allowed trace trace :=
  ⟨[], rfl, by simp⟩

theorem of_eq {older newer : List ε} (heq : newer = older) :
    Extends allowed older newer := by
  rw [heq]
  exact refl older

theorem cons {older newer : List ε} (hext : Extends allowed older newer)
    {event : ε} (hevent : allowed event) :
    Extends allowed older (event :: newer) := by
  obtain ⟨events, rfl, hall⟩ := hext
  refine ⟨event :: events, rfl, ?_⟩
  intro other hother
  rcases List.mem_cons.mp hother with rfl | hold
  · exact hevent
  · exact hall other hold

theorem trans {first second third : List ε}
    (hfirst : Extends allowed first second)
    (hsecond : Extends allowed second third) :
    Extends allowed first third := by
  obtain ⟨events, rfl, hall⟩ := hsecond
  induction events with
  | nil => exact hfirst
  | cons event events ih =>
      have hrest : Extends allowed first (events ++ second) :=
        ih fun other hother => hall other (List.mem_cons_of_mem _ hother)
      exact hrest.cons (hall event List.mem_cons_self)

theorem mono {older newer : List ε} (hext : Extends allowed older newer)
    (hsub : ∀ event, allowed event → permitted event) :
    Extends permitted older newer := by
  obtain ⟨events, hnewer, hall⟩ := hext
  exact ⟨events, hnewer, fun event hmem => hsub event (hall event hmem)⟩

theorem mem_of_mem {older newer : List ε}
    (hext : Extends allowed older newer) {event : ε}
    (hmem : event ∈ older) : event ∈ newer := by
  obtain ⟨events, rfl, -⟩ := hext
  exact List.mem_append_right events hmem

theorem mem_older {older newer : List ε}
    (hext : Extends allowed older newer) {event : ε}
    (hmem : event ∈ newer) (hother : ¬allowed event) :
    event ∈ older := by
  obtain ⟨events, rfl, hall⟩ := hext
  rcases List.mem_append.mp hmem with hnew | hold
  · exact absurd (hall event hnew) hother
  · exact hold

/-- Events that satisfy `P` over any past leave `Always P` as it is. -/
theorem always_iff {older newer : List ε}
    (hext : Extends allowed older newer)
    (hfree : ∀ event, allowed event → ∀ past, P past event) :
    Always P newer ↔ Always P older := by
  constructor
  · intro halways
    obtain ⟨events, rfl, -⟩ := hext
    exact always_of_append halways
  · intro halways
    obtain ⟨events, rfl, hall⟩ := hext
    induction events with
    | nil => exact halways
    | cons event events ih =>
        refine ⟨hfree event (hall event List.mem_cons_self) _, ih ?_⟩
        intro other hother
        exact hall other (List.mem_cons_of_mem _ hother)

end Extends

end EventTrace
