import SensorFirmware.FlushAccounting

/-!
# What a flush reports

`flushToNvs` collects the results of its puts with a bitwise operation, but a put
answers with the number of bytes that it stored.
-/

namespace SensorFirmware

variable {cfg : HistoryConfig}

/-- Only the lowest bit of the number of bytes counts. -/
theorem andStored_eq (success : Bool) (stored : ℕ) :
    andStored success stored = (success && stored % 2 == 1) := by
  cases success with
  | false =>
      rw [andStored, Bool.toNat_false, Nat.zero_and]
      rfl
  | true =>
      have hbit : 1 &&& stored = stored % 2 := Nat.one_and_eq_mod_two stored
      rw [andStored, Bool.toNat_true, hbit, Bool.true_and]
      rcases Nat.mod_two_eq_zero_or_one stored with heven | hodd
      · rw [heven]
        rfl
      · rw [hodd]
        rfl

/-- A long and a short have an even number of bytes. -/
theorem PutOutcomes.returned_eq_false (outcomes : PutOutcomes) :
    outcomes.returned = false := by
  have hshort (success ok : Bool) :
      andStored success (putUShort ok) = false := by
    rw [andStored_eq]
    cases ok <;> simp [putUShort]
  unfold PutOutcomes.returned
  dsimp only
  rw [hshort, Bool.and_false]

namespace HistoryService

theorem flushToNvs_returns_false (service : HistoryService cfg)
    (nvs : HistoryNvs cfg) (env : FlushEnv) :
    (service.flushToNvs nvs env).2.2 = false := by
  unfold flushToNvs
  split
  · rfl
  · dsimp only
    split
    · exact env.outcomes.returned_eq_false
    · rfl

/-- The three tries of the blob count as one put. -/
theorem stored_eventPuts (ok : Fin 3 → Bool) (key : NvsKey) :
    stored (eventPuts ok) key =
      ((ok 0 || ok 1 || ok 2) && NvsKey.events == key) := by
  unfold eventPuts
  cases hfirst : ok 0 <;> cases hsecond : ok 1 <;> simp [stored]

/-- The puts that store the key. -/
theorem stored_flushPuts (outcomes : PutOutcomes) (key : NvsKey) :
    stored (flushPuts outcomes) key = true ↔
      (outcomes.bootCnt = true ∧ .bootCnt = key) ∨
        (outcomes.eventId = true ∧ .eventId = key) ∨
        (outcomes.head = true ∧ .head = key) ∨
        (outcomes.tail = true ∧ .tail = key) ∨
        ((outcomes.events 0 || outcomes.events 1 || outcomes.events 2) = true ∧
          .events = key) := by
  have hblob := stored_eventPuts outcomes.events key
  unfold stored at hblob ⊢
  rw [flushPuts, List.any_append, hblob]
  simp only [List.any_cons, List.any_nil, Bool.or_false, Bool.or_eq_true,
    Bool.and_eq_true, beq_iff_eq, or_assoc]

theorem complete_iff_stored (outcomes : PutOutcomes) :
    outcomes.complete = true ↔
      ∀ key, stored (flushPuts outcomes) key = true := by
  have hboot := stored_flushPuts outcomes .bootCnt
  have hid := stored_flushPuts outcomes .eventId
  have hhead := stored_flushPuts outcomes .head
  have htail := stored_flushPuts outcomes .tail
  have hevents := stored_flushPuts outcomes .events
  simp only [reduceCtorEq, and_false, and_true, or_false, false_or]
    at hboot hid hhead htail hevents
  rw [PutOutcomes.complete]
  simp only [Bool.and_eq_true, ← hboot, ← hid, ← hhead, ← htail, ← hevents]
  constructor
  · rintro ⟨hblob, ⟨⟨hbootCnt, heventId⟩, hheadKey⟩, htailKey⟩ key
    cases key <;> assumption
  · intro hall
    exact ⟨hall .events, ⟨⟨hall .bootCnt, hall .eventId⟩, hall .head⟩,
      hall .tail⟩

/-- A flush that gets to its puts stores exactly the keys whose puts write all
their bytes; what it returns tells whether all of them were stored exactly if
some put failed, since it returns false in any case. -/
theorem flush_outcome_faithful_iff {service : HistoryService cfg}
    (hinit : service.initialized = true) (nvs : HistoryNvs cfg)
    {env : FlushEnv} (hproceeds : env.proceeds = true)
    (hopen : env.beginOk = true) :
    (service.flushToNvs nvs env).2.1 =
        { nvs with namespaceExists := true }.applyPuts service.state.snapshot
          (flushPuts env.outcomes) ∧
      (((service.flushToNvs nvs env).2.2 = true ↔
          ∀ key, stored (flushPuts env.outcomes) key = true) ↔
        env.outcomes.complete = false) := by
  constructor
  · have hguards : (!service.initialized ||
        (env.batteryCritical && !env.charging) ||
          env.pairingModeEnabled || !env.locked) = false := by
      unfold FlushEnv.proceeds at hproceeds
      rw [hinit]
      cases hcritical : env.batteryCritical && !env.charging <;>
        simp_all
    rw [flushToNvs, hguards, hopen]
    rfl
  · rw [flushToNvs_returns_false, ← complete_iff_stored]
    cases env.outcomes.complete <;> decide

/-- A service on an empty ring. -/
def emptyRing : HistoryService .fourSlots :=
  { construct (RTCState.resetState .fourSlots) with initialized := true }

/-- The put of the last scalar fails. -/
def tailFails : FlushEnv :=
  { FlushEnv.good with outcomes := { PutOutcomes.allOk with tail := false } }

theorem tailFails_outcome_faithful :
    (emptyRing.flushToNvs (.empty _) tailFails).2.1 =
        { HistoryNvs.empty .fourSlots with namespaceExists := true }.applyPuts
          emptyRing.state.snapshot (flushPuts tailFails.outcomes) ∧
      (((emptyRing.flushToNvs (.empty _) tailFails).2.2 = true ↔
          ∀ key, stored (flushPuts tailFails.outcomes) key = true) ↔
        tailFails.outcomes.complete = false) :=
  flush_outcome_faithful_iff rfl (.empty _) rfl rfl

/-- All five keys are stored, and the flush reports a failure. -/
theorem complete_flush_reports_failure :
    ¬((emptyRing.flushToNvs (.empty _) .good).2.2 = true ↔
      ∀ key, stored (flushPuts FlushEnv.good.outcomes) key = true) := by
  rw [flushToNvs_returns_false, ← complete_iff_stored]
  decide

end HistoryService

end SensorFirmware
