import Mathlib.Tactic

/-!
# Runs of a step function

A system is a step function over a stream of inputs.  The invariant rule says
that a property which every guarded step keeps holds after every guarded run.
The simulation rule compares a step that may fault with an abstract step that
cannot: if each abstract step is matched, then a whole run ends without a
fault, in a related state, and gives the same outputs.
-/

namespace GuardedRun

variable {σ α ι ω : Type*}

/-! ## Invariants -/

def run (step : σ → ι → σ) (s : σ) (inputs : List ι) : σ :=
  inputs.foldl step s

@[simp] theorem run_nil (step : σ → ι → σ) (s : σ) :
    run step s [] = s := rfl

@[simp] theorem run_cons (step : σ → ι → σ) (s : σ) (i : ι)
    (inputs : List ι) :
    run step s (i :: inputs) = run step (step s i) inputs := rfl

theorem run_append (step : σ → ι → σ) (s : σ) (first second : List ι) :
    run step s (first ++ second) = run step (run step s first) second :=
  List.foldl_append

/-- Each input of the run meets the guard in the state it is taken in. -/
def Guarded (step : σ → ι → σ) (guard : σ → ι → Prop) :
    σ → List ι → Prop
  | _, [] => True
  | s, i :: inputs => guard s i ∧ Guarded step guard (step s i) inputs

theorem guarded_append {step : σ → ι → σ} {guard : σ → ι → Prop} (s : σ)
    (first second : List ι) :
    Guarded step guard s (first ++ second) ↔
      Guarded step guard s first ∧
        Guarded step guard (run step s first) second := by
  induction first generalizing s with
  | nil => simp [Guarded]
  | cons i first ih =>
      have hrest := ih (step s i)
      simp only [List.cons_append, Guarded, run_cons, hrest, and_assoc]

theorem invariant_run {step : σ → ι → σ} {guard : σ → ι → Prop}
    {Inv : σ → Prop}
    (hstep : ∀ s i, Inv s → guard s i → Inv (step s i))
    {s : σ} {inputs : List ι} (hinit : Inv s)
    (hguard : Guarded step guard s inputs) :
    Inv (run step s inputs) := by
  induction inputs generalizing s with
  | nil => exact hinit
  | cons i inputs ih =>
      obtain ⟨hhere, hrest⟩ := hguard
      exact ih (hstep s i hinit hhere) hrest

theorem guarded_of_forall {step : σ → ι → σ} {guard : σ → ι → Prop}
    (hall : ∀ s i, guard s i) (s : σ) (inputs : List ι) :
    Guarded step guard s inputs := by
  induction inputs generalizing s with
  | nil => trivial
  | cons i inputs ih => exact ⟨hall s i, ih (step s i)⟩

theorem guarded_of_forall_mem {step : σ → ι → σ} {guard : ι → Prop}
    {inputs : List ι} (hall : ∀ i ∈ inputs, guard i) (s : σ) :
    Guarded step (fun _ i => guard i) s inputs := by
  induction inputs generalizing s with
  | nil => trivial
  | cons i inputs ih =>
      exact ⟨hall i (.head inputs),
        ih (fun other hother => hall other (.tail i hother)) (step s i)⟩

/-- What holds of each guarded step from a state with the invariant holds of each
step of a guarded run. -/
theorem guarded_of_invariant {step : σ → ι → σ} {guard good : σ → ι → Prop}
    {Inv : σ → Prop}
    (hstep : ∀ s i, Inv s → guard s i → Inv (step s i))
    (hgood : ∀ s i, Inv s → guard s i → good s i)
    {s : σ} {inputs : List ι} (hinit : Inv s)
    (hguard : Guarded step guard s inputs) :
    Guarded step good s inputs := by
  induction inputs generalizing s with
  | nil => trivial
  | cons i inputs ih =>
      obtain ⟨hhere, hrest⟩ := hguard
      exact ⟨hgood s i hinit hhere, ih (hstep s i hinit hhere) hrest⟩

theorem guarded_take {step : σ → ι → σ} {guard : σ → ι → Prop} {s : σ}
    {inputs : List ι} (hguard : Guarded step guard s inputs) (k : ℕ) :
    Guarded step guard s (inputs.take k) := by
  rw [← List.take_append_drop k inputs, guarded_append] at hguard
  exact hguard.1

theorem invariant_run' {step : σ → ι → σ} {Inv : σ → Prop}
    (hstep : ∀ s i, Inv s → Inv (step s i))
    {s : σ} (inputs : List ι) (hinit : Inv s) :
    Inv (run step s inputs) := by
  have hguard : Guarded step (fun _ _ => True) s inputs :=
    guarded_of_forall (fun _ _ => trivial) s inputs
  exact invariant_run (fun s i hs _ => hstep s i hs) hinit hguard

/-- Where a step keeps a property exactly when it meets the guard, so does a
run. -/
theorem run_iff_guarded {step : σ → ι → σ} {guard : σ → ι → Prop}
    {Inv Good : σ → Prop}
    (hstep : ∀ s i, Inv s → Inv (step s i))
    (hgood : ∀ s i, Inv s →
      (Good (step s i) ↔ Good s ∧ guard s i))
    {s : σ} (hinit : Inv s) (inputs : List ι) :
    Good (run step s inputs) ↔ Good s ∧ Guarded step guard s inputs := by
  induction inputs generalizing s with
  | nil => simp [Guarded]
  | cons i inputs ih =>
      have hrest := ih (hstep s i hinit)
      have hhere := hgood s i hinit
      rw [run_cons, hrest, hhere]
      exact and_assoc

/-- Where a step from a good state ends in a good state exactly when it meets
the guard, all states of a run are good exactly if the run is guarded. -/
theorem always_iff_guarded {step : σ → ι → σ} {guard : σ → ι → Prop}
    {Inv Good : σ → Prop}
    (hstep : ∀ s i, Inv s → Inv (step s i))
    (hgood : ∀ s i, Inv s → Good s → (Good (step s i) ↔ guard s i))
    {s : σ} (hinit : Inv s) (hs : Good s) (inputs : List ι) :
    (∀ k, Good (run step s (inputs.take k))) ↔
      Guarded step guard s inputs := by
  induction inputs generalizing s with
  | nil => simp [Guarded, hs]
  | cons i inputs ih =>
      have hhere := hgood s i hinit hs
      constructor
      · intro hall
        have hnext : Good (step s i) := hall 1
        have hrest := ih (hstep s i hinit) hnext
        exact ⟨hhere.mp hnext, hrest.mp fun k => hall (k + 1)⟩
      · rintro ⟨hguard, hrest⟩ k
        have hnext := hhere.mpr hguard
        cases k with
        | zero => exact hs
        | succ k => exact (ih (hstep s i hinit) hnext).mpr hrest k

theorem guarded_congr {step : σ → ι → σ} {left right : σ → ι → Prop}
    (hsame : ∀ s i, left s i ↔ right s i) (s : σ) (inputs : List ι) :
    Guarded step left s inputs ↔ Guarded step right s inputs := by
  induction inputs generalizing s with
  | nil => exact Iff.rfl
  | cons i inputs ih => exact and_congr (hsame s i) (ih (step s i))

/-- Two guards that agree wherever the first one has been met so far. -/
theorem guarded_iff_of_invariant {step : σ → ι → σ}
    {left right : σ → ι → Prop} {Inv : σ → Prop}
    (hstep : ∀ s i, Inv s → left s i → Inv (step s i))
    (hsame : ∀ s i, Inv s → (left s i ↔ right s i))
    {s : σ} (hinit : Inv s) (inputs : List ι) :
    Guarded step left s inputs ↔ Guarded step right s inputs := by
  induction inputs generalizing s with
  | nil => exact Iff.rfl
  | cons i inputs ih =>
      constructor
      · rintro ⟨hleft, hrest⟩
        have hnext := hstep s i hinit hleft
        exact ⟨(hsame s i hinit).mp hleft, (ih hnext).mp hrest⟩
      · rintro ⟨hright, hrest⟩
        have hleft := (hsame s i hinit).mpr hright
        have hnext := hstep s i hinit hleft
        exact ⟨hleft, (ih hnext).mpr hrest⟩

/-- Two runs whose inputs correspond meet their guards together. -/
theorem guarded_map_iff {step : σ → ι → σ} {guard : σ → ι → Prop}
    {f : ι → ι} {R : σ → σ → Prop}
    (hstep : ∀ s t i, R s t → R (step s i) (step t (f i)))
    (hguard : ∀ s t i, R s t → (guard s i ↔ guard t (f i)))
    {s t : σ} (hrel : R s t) (inputs : List ι) :
    Guarded step guard s inputs ↔ Guarded step guard t (inputs.map f) := by
  induction inputs generalizing s t with
  | nil => exact Iff.rfl
  | cons i inputs ih =>
      exact and_congr (hguard s t i hrel) (ih (hstep s t i hrel))

instance decidableGuarded {step : σ → ι → σ} {guard : σ → ι → Prop}
    [∀ s i, Decidable (guard s i)] :
    ∀ (s : σ) (inputs : List ι), Decidable (Guarded step guard s inputs)
  | _, [] => isTrue trivial
  | s, i :: inputs =>
      have : Decidable (Guarded step guard (step s i) inputs) :=
        decidableGuarded (step s i) inputs
      inferInstanceAs (Decidable (guard s i ∧ _))

/-! ## Steps that may fault -/

/-- Run a step that may fault. -/
def attempt (step : σ → ι → Option σ) : σ → List ι → Option σ
  | s, [] => some s
  | s, i :: inputs => (step s i).bind fun s' => attempt step s' inputs

theorem attempt_cons {step : σ → ι → Option σ} {s s' : σ} {i : ι}
    (hstep : step s i = some s') (inputs : List ι) :
    attempt step s (i :: inputs) = attempt step s' inputs := by
  simp only [attempt, hstep, Option.bind_some]

theorem attempt_append {step : σ → ι → Option σ} {s t : σ}
    {first : List ι} (hrun : attempt step s first = some t)
    (second : List ι) :
    attempt step s (first ++ second) = attempt step t second := by
  induction first generalizing s with
  | nil =>
      cases hrun
      rfl
  | cons i first ih =>
      obtain ⟨next, hnext, hrest⟩ := Option.bind_eq_some_iff.mp hrun
      exact (attempt_cons hnext _).trans (ih hrest)

def GuardedAttempt (step : σ → ι → Option σ) (guard : σ → ι → Prop) :
    σ → List ι → Prop
  | _, [] => True
  | s, i :: inputs =>
      guard s i ∧
        ∀ s', step s i = some s' → GuardedAttempt step guard s' inputs

instance decidableGuardedAttempt {step : σ → ι → Option σ}
    {guard : σ → ι → Prop} [∀ s i, Decidable (guard s i)] :
    ∀ (s : σ) (inputs : List ι),
      Decidable (GuardedAttempt step guard s inputs)
  | _, [] => isTrue trivial
  | s, i :: inputs =>
      match hstep : step s i with
      | none => decidable_of_iff (guard s i)
          (by simp [GuardedAttempt, hstep])
      | some s' =>
          have : Decidable (GuardedAttempt step guard s' inputs) :=
            decidableGuardedAttempt s' inputs
          decidable_of_iff
            (guard s i ∧ GuardedAttempt step guard s' inputs)
            (by simp [GuardedAttempt, hstep])

theorem guardedAttempt_of_forall_mem {step : σ → ι → Option σ}
    {guard : ι → Prop} {inputs : List ι}
    (hall : ∀ i ∈ inputs, guard i) (s : σ) :
    GuardedAttempt step (fun _ i => guard i) s inputs := by
  induction inputs generalizing s with
  | nil => trivial
  | cons i inputs ih =>
      have hrest : ∀ other ∈ inputs, guard other :=
        fun other hother => hall other (.tail _ hother)
      exact ⟨hall i (.head inputs), fun s' _ => ih hrest s'⟩

/-- Where every guarded step succeeds and keeps the invariant, so does every
guarded run. -/
theorem invariant_attempt {step : σ → ι → Option σ}
    {guard : σ → ι → Prop} {Inv : σ → Prop}
    (hstep : ∀ s i, Inv s → guard s i →
      ∃ s', step s i = some s' ∧ Inv s')
    {s : σ} {inputs : List ι} (hinit : Inv s)
    (hguard : GuardedAttempt step guard s inputs) :
    ∃ final, attempt step s inputs = some final ∧ Inv final := by
  induction inputs generalizing s with
  | nil => exact ⟨s, rfl, hinit⟩
  | cons i inputs ih =>
      obtain ⟨hhere, hrest⟩ := hguard
      obtain ⟨s', hs', hinv⟩ := hstep s i hinit hhere
      obtain ⟨final, hfinal, hlast⟩ := ih hinv (hrest s' hs')
      exact ⟨final, (attempt_cons hs' inputs).trans hfinal, hlast⟩

theorem invariant_attempt' {step : σ → ι → Option σ} {Inv : σ → Prop}
    (hstep : ∀ s i, Inv s → ∃ s', step s i = some s' ∧ Inv s')
    {s : σ} (inputs : List ι) (hinit : Inv s) :
    ∃ final, attempt step s inputs = some final ∧ Inv final := by
  have hguard : GuardedAttempt step (fun _ _ => True) s inputs :=
    guardedAttempt_of_forall_mem (fun _ _ => trivial) s
  exact invariant_attempt (fun s i hs _ => hstep s i hs) hinit hguard

/-- Where a step from a good state ends in a good state exactly when it meets
the guard, all states of a run are good exactly if the first one is and the run
is guarded. -/
theorem always_iff_guardedAttempt {step : σ → ι → Option σ}
    {guard : σ → ι → Prop} {Inv Good : σ → Prop}
    (hstep : ∀ s i, Inv s → ∃ s', step s i = some s' ∧ Inv s')
    (hgood : ∀ s i s', Inv s → Good s → step s i = some s' →
      (Good s' ↔ guard s i))
    {s : σ} (hinit : Inv s) (inputs : List ι) :
    (∀ k, ∃ s', attempt step s (inputs.take k) = some s' ∧ Good s') ↔
      Good s ∧ GuardedAttempt step guard s inputs := by
  have hstart : (∃ s', attempt step s [] = some s' ∧ Good s') ↔ Good s := by
    simp [attempt]
  induction inputs generalizing s with
  | nil => simpa [GuardedAttempt] using hstart
  | cons i inputs ih =>
      obtain ⟨next, hnext, hinv⟩ := hstep s i hinit
      have hrest := ih hinv (by simp [attempt])
      have htail : ∀ k, attempt step s ((i :: inputs).take (k + 1)) =
          attempt step next (inputs.take k) := by
        intro k
        rw [List.take_succ_cons]
        exact attempt_cons hnext _
      constructor
      · intro hall
        have hs : Good s := hstart.mp (hall 0)
        have hlater : ∀ k, ∃ s', attempt step next (inputs.take k) =
            some s' ∧ Good s' := by
          intro k
          rw [← htail k]
          exact hall (k + 1)
        obtain ⟨hgoodNext, hguarded⟩ := hrest.mp hlater
        refine ⟨hs, (hgood s i next hinit hs hnext).mp hgoodNext, ?_⟩
        intro s' hs'
        rw [hnext] at hs'
        cases Option.some.inj hs'
        exact hguarded
      · rintro ⟨hs, hhere, hguarded⟩ k
        cases k with
        | zero => exact hstart.mpr hs
        | succ k =>
            rw [htail k]
            have hgoodNext := (hgood s i next hinit hs hnext).mpr hhere
            exact hrest.mpr ⟨hgoodNext, hguarded next hnext⟩ k

/-- A run and the same run without some of its inputs end in related states,
if the steps that both take keep the relation, and so do those that only the
first takes. -/
theorem attempt_filter_related {step : σ → ι → Option σ} {keep : ι → Bool}
    {guard : σ → ι → Prop} {R : σ → σ → Prop}
    (hboth : ∀ s t i s' t', keep i = true → guard s i → R s t →
      step s i = some s' → step t i = some t' → R s' t')
    (hleft : ∀ s t i s', keep i = false → guard s i → R s t →
      step s i = some s' → R s' t)
    {s t s' t' : σ} {inputs : List ι} (hrel : R s t)
    (hguard : GuardedAttempt step guard s inputs)
    (hs : attempt step s inputs = some s')
    (ht : attempt step t (inputs.filter keep) = some t') : R s' t' := by
  induction inputs generalizing s t with
  | nil =>
      cases Option.some.inj hs
      cases Option.some.inj ht
      exact hrel
  | cons i inputs ih =>
      obtain ⟨hhere, hrest⟩ := hguard
      obtain ⟨next, hnext, hs⟩ := Option.bind_eq_some_iff.mp hs
      cases hkeep : keep i with
      | true =>
          rw [List.filter_cons_of_pos hkeep] at ht
          obtain ⟨next', hnext', ht⟩ := Option.bind_eq_some_iff.mp ht
          have hnow := hboth s t i next next' hkeep hhere hrel hnext hnext'
          exact ih hnow (hrest next hnext) hs ht
      | false =>
          rw [List.filter_cons_of_neg (by simp [hkeep])] at ht
          have hnow := hleft s t i next hkeep hhere hrel hnext
          exact ih hnow (hrest next hnext) hs ht

/-! ## Simulation of a step that may fault -/

/-- Run a step that may fault, collecting the outputs. -/
def perform (step : σ → ι → Option (σ × ω)) :
    σ → List ι → Option (σ × List ω)
  | s, [] => some (s, [])
  | s, i :: inputs =>
      (step s i).bind fun (s', out) =>
        (perform step s' inputs).map fun (s'', outs) =>
          (s'', out :: outs)

def performSpec (spec : α → ι → α × ω) : α → List ι → α × List ω
  | a, [] => (a, [])
  | a, i :: inputs =>
      ((performSpec spec (spec a i).1 inputs).1,
        (spec a i).2 :: (performSpec spec (spec a i).1 inputs).2)

def GuardedSpec (spec : α → ι → α × ω) (guard : α → ι → Prop) :
    α → List ι → Prop
  | _, [] => True
  | a, i :: inputs =>
      guard a i ∧ GuardedSpec spec guard (spec a i).1 inputs

instance decidableGuardedSpec {spec : α → ι → α × ω}
    {guard : α → ι → Prop} [∀ a i, Decidable (guard a i)] :
    ∀ (a : α) (inputs : List ι), Decidable (GuardedSpec spec guard a inputs)
  | _, [] => isTrue trivial
  | a, i :: inputs =>
      have : Decidable (GuardedSpec spec guard (spec a i).1 inputs) :=
        decidableGuardedSpec (spec a i).1 inputs
      inferInstanceAs (Decidable (guard a i ∧ _))

/-- Two runs give the same outputs when their first steps do and their
remainders do. -/
theorem outputs_perform_cons {step : σ → ι → Option (σ × ω)}
    {R : σ × ω → σ × ω → Prop} {s t : σ} {i : ι} {inputs : List ι}
    (hsteps : Option.Rel R (step s i) (step t i))
    (hsame : ∀ left right, R left right → left.2 = right.2 ∧
      (perform step left.1 inputs).map Prod.snd =
        (perform step right.1 inputs).map Prod.snd) :
    (perform step s (i :: inputs)).map Prod.snd =
      (perform step t (i :: inputs)).map Prod.snd := by
  unfold perform
  generalize step s i = left at hsteps ⊢
  generalize step t i = right at hsteps ⊢
  cases hsteps with
  | none => rfl
  | @some left right hrel =>
      obtain ⟨hout, hrest⟩ := hsame left right hrel
      rw [Option.bind_some, Option.bind_some, Option.map_map, Option.map_map]
      have hcons := congrArg (Option.map (left.2 :: ·)) hrest
      rw [Option.map_map, Option.map_map] at hcons
      rw [hout] at hcons ⊢
      exact hcons

theorem invariant_perform {step : σ → ι → Option (σ × ω)} {ok : ι → Prop}
    {Inv : σ → Prop}
    (hstep : ∀ s i, Inv s → ok i → ∃ next, step s i = some next ∧ Inv next.1)
    {s : σ} {inputs : List ι} (hinit : Inv s) (hok : ∀ i ∈ inputs, ok i) :
    ∃ final, perform step s inputs = some final ∧ Inv final.1 := by
  induction inputs generalizing s with
  | nil => exact ⟨_, rfl, hinit⟩
  | cons i inputs ih =>
      obtain ⟨next, hnext, hinv⟩ := hstep s i hinit (hok i (.head inputs))
      obtain ⟨final, hfinal, hlast⟩ :=
        ih hinv fun other hother => hok other (.tail i hother)
      refine ⟨(final.1, next.2 :: final.2), ?_, hlast⟩
      simp only [perform, hnext, hfinal, Option.bind_some, Option.map_some]

/-- Runs that give the same outputs do so in their first steps and in their
remainders. -/
theorem outputs_of_perform_cons {step : σ → ι → Option (σ × ω)} {s t : σ}
    {i : ι} {inputs : List ι} {left right : σ × ω} {final : σ × List ω}
    (hleft : step s i = some left) (hright : step t i = some right)
    (hfinal : perform step left.1 inputs = some final)
    (hsame : (perform step s (i :: inputs)).map Prod.snd =
      (perform step t (i :: inputs)).map Prod.snd) :
    left.2 = right.2 ∧
      (perform step left.1 inputs).map Prod.snd =
        (perform step right.1 inputs).map Prod.snd := by
  unfold perform at hsame
  rw [hleft, hright, Option.bind_some, Option.bind_some] at hsame
  dsimp only at hsame
  rw [hfinal] at hsame ⊢
  cases hother : perform step right.1 inputs with
  | none =>
      rw [hother] at hsame
      cases hsame
  | some final' =>
      rw [hother] at hsame
      obtain ⟨hout, hrest⟩ := List.cons.inj (Option.some.inj hsame)
      exact ⟨hout, congrArg some hrest⟩

theorem perform_refines {step : σ → ι → Option (σ × ω)}
    {spec : α → ι → α × ω} {guard : α → ι → Prop} {R : σ → α → Prop}
    (hsim : ∀ s a i, R s a → guard a i →
      ∃ s', step s i = some (s', (spec a i).2) ∧ R s' (spec a i).1)
    {s : σ} {a : α} {inputs : List ι} (hrel : R s a)
    (hguard : GuardedSpec spec guard a inputs) :
    ∃ s',
      perform step s inputs =
          some (s', (performSpec spec a inputs).2) ∧
        R s' (performSpec spec a inputs).1 := by
  induction inputs generalizing s a with
  | nil => exact ⟨s, rfl, hrel⟩
  | cons i inputs ih =>
      obtain ⟨hhere, hrest⟩ := hguard
      obtain ⟨next, hstep, hnext⟩ := hsim s a i hrel hhere
      obtain ⟨last, hlast, hlastRel⟩ := ih hnext hrest
      refine ⟨last, ?_, hlastRel⟩
      simp [perform, performSpec, hstep, hlast]

end GuardedRun
