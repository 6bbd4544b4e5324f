import Mathlib.Data.List.Dedup
import Mathlib.Data.List.ReduceOption
import Mathlib.Data.List.Sort
import SensorFirmware.DatasetFile

/-!
# Held-out sessions

How the three tools divide the rows of the data set by their sessions.  The
number of sessions that the fraction gives is computed in floating point, and
is any function of their number here.
-/

namespace SensorFirmware

/-- `sorted(set(ids))`. -/
def sortedSet (ids : List ℤ) : List ℤ :=
  ids.dedup.mergeSort fun a b => decide (a ≤ b)

def sessionsOf (data : List DatasetRow) : List ℤ :=
  sortedSet (data.map (·.sessionId))

/-- `max(1, int(len(sessions) * test_fraction))`; `part` is the second of the
two. -/
def nTest (part : ℕ → ℤ) (sessions : List ℤ) : ℕ :=
  (max 1 (part sessions.length)).toNat

/-- `sessions[-n:]` for a positive number. -/
def lastSessions (n : ℕ) (sessions : List ℤ) : List ℤ :=
  sessions.drop (sessions.length - n)

/-- `sessions[:-n]` for a positive number. -/
def exceptLast (n : ℕ) (sessions : List ℤ) : List ℤ :=
  sessions.take (sessions.length - n)

def rowsIn (sessions : List ℤ) (data : List DatasetRow) : List DatasetRow :=
  data.filter fun row => decide (row.sessionId ∈ sessions)

namespace TrainBaseline

/-- The rows to train on and the rows to test with. -/
def sessionSplit (part : ℕ → ℤ) (data : List DatasetRow) :
    List DatasetRow × List DatasetRow :=
  let sessions := sessionsOf data
  let n := nTest part sessions
  (rowsIn (exceptLast n sessions) data, rowsIn (lastSessions n sessions) data)

end TrainBaseline

namespace TrainModel

/-- Without rows the mask is an array of no numbers in floating point, which has
no complement. -/
def sessionSplit (part : ℕ → ℤ) (data : List DatasetRow) :
    Option (List DatasetRow × List DatasetRow) :=
  let sessions := sessionsOf data
  let testSess := lastSessions (nTest part sessions) sessions
  let trainMask := data.map fun row => decide (row.sessionId ∉ testSess)
  if data.isEmpty then none
  else
    some (((data.zip trainMask).filter (·.2)).map (·.1),
      ((data.zip trainMask).filter fun row => !row.2).map (·.1))

end TrainModel

namespace EvaluateModel

def testData (part : ℕ → ℤ) (rows : List DatasetRow) : List DatasetRow :=
  let sessions := sessionsOf rows
  rowsIn (lastSessions (nTest part sessions) sessions) rows

end EvaluateModel

/-! ## The sessions -/

theorem mem_sortedSet {ids : List ℤ} {id : ℤ} : id ∈ sortedSet ids ↔ id ∈ ids := by
  rw [sortedSet, List.mem_mergeSort, List.mem_dedup]

theorem sortedSet_strict (ids : List ℤ) : (sortedSet ids).Pairwise (· < ·) := by
  have hsorted : (sortedSet ids).Pairwise fun a b => decide (a ≤ b) = true :=
    List.pairwise_mergeSort (fun a b c hab hbc => by
      have hac := (of_decide_eq_true hab).trans (of_decide_eq_true hbc)
      exact decide_eq_true hac) (fun a b => by
      have htotal := le_total a b
      simpa using htotal) _
  have hnodup : (sortedSet ids).Nodup :=
    (List.mergeSort_perm _ _).nodup_iff.mpr ids.nodup_dedup
  exact hsorted.imp₂ (fun a b hle hne =>
    lt_of_le_of_ne (of_decide_eq_true hle) hne) hnodup

theorem exceptLast_append_lastSessions (n : ℕ) (sessions : List ℤ) :
    exceptLast n sessions ++ lastSessions n sessions = sessions :=
  List.take_append_drop ..

theorem exceptLast_lt_lastSessions {n : ℕ} {ids : List ℤ} {a b : ℤ}
    (ha : a ∈ exceptLast n (sortedSet ids))
    (hb : b ∈ lastSessions n (sortedSet ids)) : a < b := by
  have hstrict := sortedSet_strict ids
  rw [← exceptLast_append_lastSessions n (sortedSet ids),
    List.pairwise_append] at hstrict
  exact hstrict.2.2 a ha b hb

/-- A session is held out or not. -/
theorem mem_exceptLast_iff {n : ℕ} {ids : List ℤ} {id : ℤ} (hid : id ∈ ids) :
    id ∈ exceptLast n (sortedSet ids) ↔ id ∉ lastSessions n (sortedSet ids) := by
  constructor
  · intro hkept hheld
    exact lt_irrefl id (exceptLast_lt_lastSessions hkept hheld)
  · intro hnot
    have hmem := mem_sortedSet.mpr hid
    rw [← exceptLast_append_lastSessions n (sortedSet ids)] at hmem
    exact (List.mem_append.mp hmem).resolve_right hnot

theorem nTest_pos (part : ℕ → ℤ) (sessions : List ℤ) :
    0 < nTest part sessions := by
  unfold nTest
  omega

theorem length_lastSessions (n : ℕ) (sessions : List ℤ) :
    (lastSessions n sessions).length = min n sessions.length := by
  rw [lastSessions, List.length_drop]
  omega

/-! ## The rows -/

/-- The sessions that are held out. -/
def heldOut (part : ℕ → ℤ) (data : List DatasetRow) : List ℤ :=
  lastSessions (nTest part (sessionsOf data)) (sessionsOf data)

theorem heldOut_strict (part : ℕ → ℤ) (data : List DatasetRow) :
    (heldOut part data).Pairwise (· < ·) := (sortedSet_strict _).drop

theorem mem_of_heldOut {part : ℕ → ℤ} {data : List DatasetRow} {id : ℤ}
    (hid : id ∈ heldOut part data) : id ∈ data.map (·.sessionId) :=
  mem_sortedSet.mp (List.mem_of_mem_drop hid)

theorem sessionsOf_rowsIn {sessions : List ℤ} {data : List DatasetRow}
    (hstrict : sessions.Pairwise (· < ·))
    (hsub : ∀ id ∈ sessions, id ∈ data.map (·.sessionId)) :
    sessionsOf (rowsIn sessions data) = sessions := by
  refine (sortedSet_strict _).eq_of_mem_iff hstrict fun id => ?_
  rw [mem_sortedSet]
  constructor
  · intro hid
    obtain ⟨row, hrow, rfl⟩ := List.mem_map.mp hid
    exact of_decide_eq_true (List.mem_filter.mp hrow).2
  · intro hid
    obtain ⟨row, hrow, rfl⟩ := List.mem_map.mp (hsub id hid)
    exact List.mem_map_of_mem
      (List.mem_filter.mpr ⟨hrow, decide_eq_true hid⟩)

theorem train_eq (part : ℕ → ℤ) (data : List DatasetRow) :
    (TrainBaseline.sessionSplit part data).1 =
      data.filter fun row => !decide (row.sessionId ∈ heldOut part data) := by
  apply List.filter_congr
  intro row hrow
  have hid : row.sessionId ∈ data.map (·.sessionId) :=
    List.mem_map_of_mem hrow
  rw [← decide_not]
  exact decide_eq_decide.mpr (mem_exceptLast_iff hid)

/-- The values where a mask is set, or where it is not. -/
theorem map_filter_zip {α : Type*} (p : α → Bool) (l : List α)
    (q : Bool → Bool) :
    ((l.zip (l.map p)).filter fun row => q row.2).map (·.1) =
      l.filter fun a => q (p a) := by
  induction l with
  | nil => rfl
  | cons a l ih =>
      rw [List.map_cons, List.zip_cons_cons, List.filter_cons,
        List.filter_cons]
      split_ifs
      · rw [List.map_cons, ih]
      · exact ih

/-- The complement of the one mask is what the other tool selects. -/
theorem TrainModel.sessionSplit_eq (part : ℕ → ℤ) (data : List DatasetRow) :
    TrainModel.sessionSplit part data =
      if data = [] then none
      else some (TrainBaseline.sessionSplit part data) := by
  have hmask := map_filter_zip (fun row : DatasetRow =>
    decide (row.sessionId ∉ heldOut part data)) data
  have htrain := hmask fun masked => masked
  have htest := hmask fun masked => !masked
  simp only [decide_not, Bool.not_not] at htrain htest
  unfold sessionSplit
  dsimp only
  by_cases hdata : data = []
  · rw [if_pos hdata, hdata]
    rfl
  · have hsome : ¬data.isEmpty = true := fun hempty =>
      hdata (List.isEmpty_iff.mp hempty)
    rw [if_neg hdata, if_neg hsome]
    refine congrArg some (Prod.ext ?_ ?_)
    · rw [train_eq, ← htrain]
      simp only [decide_not]
      rfl
    · refine Eq.trans ?_ htest
      simp only [decide_not]
      rfl

theorem train_lt_test (part : ℕ → ℤ) (data : List DatasetRow)
    {row other : DatasetRow}
    (hrow : row ∈ (TrainBaseline.sessionSplit part data).1)
    (hother : other ∈ (TrainBaseline.sessionSplit part data).2) :
    row.sessionId < other.sessionId := by
  have hkept := of_decide_eq_true (List.mem_filter.mp hrow).2
  have hheld := of_decide_eq_true (List.mem_filter.mp hother).2
  exact exceptLast_lt_lastSessions hkept hheld

/-- The rows go to one side or the other, the last sessions to the tests, and the
three tools do the same. -/
theorem sessionSplit_partitions (part : ℕ → ℤ) (data : List DatasetRow) :
    let train := (TrainBaseline.sessionSplit part data).1
    let test := (TrainBaseline.sessionSplit part data).2
    train.Sublist data ∧ test.Sublist data ∧ (train ++ test).Perm data ∧
      (∀ row ∈ train, ∀ other ∈ test, row.sessionId < other.sessionId) ∧
      (sessionsOf test).length =
        min (nTest part (sessionsOf data)) (sessionsOf data).length ∧
      (test = [] ↔ data = []) ∧
      TrainModel.sessionSplit part data =
        (if data = [] then none else some (train, test)) ∧
      EvaluateModel.testData part data = test := by
  intro train test
  have hlength : (sessionsOf test).length =
      min (nTest part (sessionsOf data)) (sessionsOf data).length := by
    have hsessions : sessionsOf test = heldOut part data :=
      sessionsOf_rowsIn (heldOut_strict part data) fun _ => mem_of_heldOut
    rw [hsessions, heldOut, length_lastSessions]
  refine ⟨List.filter_sublist, List.filter_sublist, ?_, ?_, hlength, ?_,
    TrainModel.sessionSplit_eq part data, rfl⟩
  · have hperm := List.filter_append_perm
      (fun row => decide (row.sessionId ∈ heldOut part data)) data
    rw [← train_eq] at hperm
    exact List.perm_append_comm.trans hperm
  · exact fun row hrow other hother => train_lt_test part data hrow hother
  · constructor
    · intro hempty
      have hpos := nTest_pos part (sessionsOf data)
      have hnone : (sessionsOf test).length = 0 := by
        rw [hempty, sessionsOf, List.map_nil, sortedSet, List.dedup_nil,
          List.mergeSort_nil, List.length_nil]
      have hsessions : sessionsOf data = [] :=
        List.length_eq_zero_iff.mp (by omega)
      refine List.eq_nil_iff_forall_not_mem.mpr fun row hrow => ?_
      have hmem : row.sessionId ∈ sessionsOf data :=
        mem_sortedSet.mpr (List.mem_map_of_mem hrow)
      rw [hsessions] at hmem
      exact absurd hmem List.not_mem_nil
    · intro hempty
      change rowsIn _ data = []
      rw [hempty]
      rfl

/-! ## One data set, three tools -/

/-- A row without the number of its label, which `evaluate.py` does not keep. -/
def DatasetRow.unnumbered (row : DatasetRow) : DatasetRow :=
  { row with labelInt := none }

theorem heldOut_unnumbered (part : ℕ → ℤ) (data : List DatasetRow) :
    heldOut part (data.map DatasetRow.unnumbered) = heldOut part data := by
  unfold heldOut sessionsOf
  rw [List.map_map]
  rfl

theorem testData_unnumbered (part : ℕ → ℤ) (data : List DatasetRow) :
    EvaluateModel.testData part (data.map DatasetRow.unnumbered) =
      (EvaluateModel.testData part data).map DatasetRow.unnumbered := by
  change rowsIn (heldOut part (data.map DatasetRow.unnumbered)) _ = _
  rw [heldOut_unnumbered, rowsIn, List.filter_map]
  rfl

theorem mapM_map_option {α β γ : Type*} (f : α → Option β) (g : β → γ)
    (l : List α) :
    l.mapM (fun a => (f a).map g) = (l.mapM f).map (List.map g) := by
  induction l with
  | nil => rfl
  | cons a l ih =>
      rw [List.mapM_cons, List.mapM_cons, ih]
      cases f a with
      | none => rfl
      | some b => cases l.mapM f <;> rfl

/-- The number of the label makes no difference to which rows there are. -/
theorem EvaluateModel.loadDataset_eq (text : List Char) :
    EvaluateModel.loadDataset text =
      (TrainModel.loadDataset text).map (List.map DatasetRow.unnumbered) := by
  have hrow : loadRow TrainModel.wanted (fun _ => some none) =
      fun row => (loadRow TrainModel.wanted
        (fun row => (dictGet row "label_name".toList).map fun labelName =>
          labelName.map fun name => (classNames.idxOf name : ℤ)) row).map
            (Option.map DatasetRow.unnumbered) := by
    funext row
    unfold loadRow
    cases hname : dictGet row "label_name".toList with
    | none => rfl
    | some labelName =>
        simp only [Option.bind_some, Option.map_some, hname]
        by_cases hwanted : TrainModel.wanted labelName = true
        · rw [if_pos hwanted, if_pos hwanted]
          cases proximityValues row with
          | none => rfl
          | some prox =>
              cases dictInt row "session_id".toList <;> rfl
        · rw [if_neg hwanted, if_neg hwanted]
          rfl
  unfold loadDataset TrainModel.loadDataset loadRows
  rw [hrow, mapM_map_option, Option.map_map, Option.map_map]
  congr 1
  funext rows
  exact List.reduceOption_map

/-! ## The baseline -/

/-- A label that has no name. -/
def Unnamed (label : ℕ) : Prop := 8 < label ∧ label ≠ 254 ∧ label ≠ 255

open ExtractWindows

/-- The baseline leaves the windows out that the learner leaves out, or those
without a name for their label are more. -/
theorem loadCsv_eq_iff (files : List (String × List Byte)) :
    TrainBaseline.loadCsv (writeCsv (extractAll files)) =
        TrainModel.loadDataset (writeCsv (extractAll files)) ↔
      ∀ window ∈ extractAll files, ¬Unnamed window.header.label := by
  rw [loadCsv_writeCsv, trainModel_loadDataset_writeCsv]
  constructor
  · intro heq window hmem hunnamed
    have hlength := congrArg List.length (Option.some.inj heq)
    rw [List.length_map, List.length_map] at hlength
    have hsame : (extractAll files).filter (fun window =>
          decide (window.header.label ≤ 8)) =
        (extractAll files).filter fun window =>
          decide (window.header.label ≠ 254 ∧ window.header.label ≠ 255) := by
      refine List.Sublist.eq_of_length ?_ hlength.symm
      apply List.monotone_filter_right
      intro window hclass
      have hle := of_decide_eq_true hclass
      exact decide_eq_true (by omega)
    have hkept : window ∈ (extractAll files).filter fun window =>
        decide (window.header.label ≤ 8) := by
      rw [hsame]
      exact List.mem_filter.mpr ⟨hmem, decide_eq_true hunnamed.2⟩
    have hle := of_decide_eq_true (List.mem_filter.mp hkept).2
    exact absurd hunnamed.1 (by omega)
  · intro hnamed
    refine congrArg (fun kept : List ExtractedWindow =>
      some (kept.map fun window =>
        datasetRow (some (window.header.label : ℤ)) window)) ?_
    apply List.filter_congr
    intro window hmem
    have hlabel := hnamed window hmem
    unfold Unnamed at hlabel
    exact decide_eq_decide.mpr (by omega)

/-- The model is tested on the windows that its training held out, whatever the
file; and the rule baseline, which it has to beat, loads the same windows exactly
where no label is without a name. -/
theorem tools_agree (part : ℕ → ℤ) :
    (∀ text, (EvaluateModel.loadDataset text).map
        (EvaluateModel.testData part) =
      (TrainModel.loadDataset text).map fun rows =>
        (((TrainModel.sessionSplit part rows).map (·.2)).getD []).map
          DatasetRow.unnumbered) ∧
      ∀ files, TrainBaseline.loadCsv (writeCsv (extractAll files)) =
          TrainModel.loadDataset (writeCsv (extractAll files)) ↔
        ∀ window ∈ extractAll files, ¬Unnamed window.header.label := by
  refine ⟨fun text => ?_, loadCsv_eq_iff⟩
  rw [EvaluateModel.loadDataset_eq, Option.map_map]
  congr 1
  funext rows
  rw [Function.comp_apply, testData_unnumbered, TrainModel.sessionSplit_eq]
  by_cases hrows : rows = []
  · rw [if_pos hrows, hrows]
    rfl
  · rw [if_neg hrows]
    rfl

end SensorFirmware
