import Mathlib.Data.List.DropRight
import SensorFirmware.CsvFormat
import SensorFirmware.TextNumbers
import SensorFirmware.WindowExtraction

/-!
# The dataset file

What `extract_windows.py` writes as comma-separated values and the training and
evaluation tools read.  Of a row they keep the label, the session and the
proximities; the features that they compute from these in floating point are
left out.
-/

namespace SensorFirmware

open CsvFormat

/-! ## Writing -/

/-- `str` of a number that is not negative. -/
def decimal (n : ℕ) : Field := Nat.toDigits 10 n

namespace ExtractWindows

/-- `extract_all`, over the files of a directory. -/
def extractAll (files : List (String × List Byte)) : List ExtractedWindow :=
  ((files.filter fun file => file.1.endsWith ".bin").mergeSort
    fun a b => decide (a.1 ≤ b.1)).flatMap fun file =>
      extractFile file.1 file.2

def csvHeader : Row :=
  (["source_file", "session_id", "window_id", "label", "label_name",
    "start_uptime_ms", "sensitivity", "wake_threshold", "hit_threshold",
    "critical_hit_threshold", "flags"].map String.toList) ++
    (List.range windowSize).flatMap fun i =>
      ["prox_".toList ++ decimal i, "dt_".toList ++ decimal i]

/-- The samples, with zeros up to the window size. -/
def padded (samples : List (ℕ × ℕ)) : List (ℕ × ℕ) :=
  samples ++ List.replicate (windowSize - samples.length) (0, 0)

def csvRow (window : ExtractedWindow) : Row :=
  [window.sourceFile.toList, decimal window.header.sessionId,
    decimal window.header.windowId, decimal window.header.label,
    window.labelName.toList, decimal window.header.startUptimeMs,
    decimal window.header.sensitivity, decimal window.header.wakeThreshold,
    decimal window.header.hitThreshold,
    decimal window.header.criticalHitThreshold,
    decimal window.header.flags] ++
    (padded window.samples).flatMap fun sample =>
      [decimal sample.1, decimal sample.2]

def writeCsv (windows : List ExtractedWindow) : List Char :=
  write (csvHeader :: windows.map csvRow)

end ExtractWindows

/-! ## Reading -/

/-- White space of `str.strip`, as far as it is ASCII. -/
def isPySpace (c : Char) : Bool :=
  isSpace c || ('\x1c' ≤ c && c ≤ '\x1f')

/-- The digits of `int`, with an underscore allowed between two. -/
def pyDigits (value : ℕ) (afterDigit : Bool) : List Char → Option ℕ
  | [] => if afterDigit then some value else none
  | c :: rest =>
      if c.isDigit then pyDigits (value * 10 + (c.toNat - 48)) true rest
      else if c = '_' ∧ afterDigit = true then pyDigits value false rest
      else none

/-- `int` of a text, as far as it is ASCII; `none` is a `ValueError`. -/
def pyInt (text : List Char) : Option ℤ :=
  match (text.dropWhile isPySpace).rdropWhile isPySpace with
  | '-' :: rest => (pyDigits 0 false rest).map fun n => -(n : ℤ)
  | '+' :: rest => (pyDigits 0 false rest).map Int.ofNat
  | rest => (pyDigits 0 false rest).map Int.ofNat

/-- A row of `csv.DictReader`, the last entry first. -/
abbrev DictRow := List (Field × Option Field)

/-- Values that the row is too short for are `None`. -/
def dictRow (names row : Row) : DictRow :=
  (names.zip (row.map some ++
    List.replicate (names.length - row.length) none)).reverse

/-- The rows of `csv.DictReader`, which skips empty ones. -/
def dictRows (text : List Char) : List DictRow :=
  match read (universalNewlines text) with
  | [] => []
  | names :: rows => (rows.filter fun row => !row.isEmpty).map (dictRow names)

/-- `row[name]`; of equal names the last counts. -/
def dictGet (row : DictRow) (name : Field) : Option (Option Field) :=
  row.lookup name

/-- `int(row[name])`. -/
def dictInt (row : DictRow) (name : Field) : Option ℤ :=
  (dictGet row name).join.bind pyInt

structure DatasetRow where
  labelName : Option Field
  labelInt : Option ℤ
  sessionId : ℤ
  proximityValues : List ℤ
  deriving DecidableEq, Repr

def proximityValues (row : DictRow) : Option (List ℤ) :=
  (List.range ExtractWindows.windowSize).mapM fun i =>
    dictInt row ("prox_".toList ++ decimal i)

/-- A pass of the loops of the three readers: a row with a label name that is
not wanted is skipped before anything else of it is read. -/
def loadRow (wanted : Option Field → Bool)
    (labelInt : DictRow → Option (Option ℤ)) (row : DictRow) :
    Option (Option DatasetRow) :=
  (dictGet row "label_name".toList).bind fun labelName =>
    if wanted labelName then
      (proximityValues row).bind fun prox =>
        (dictInt row "session_id".toList).bind fun sessionId =>
          (labelInt row).map fun label =>
            some ⟨labelName, label, sessionId, prox⟩
    else some none

/-- `none` when a row raises an error. -/
def loadRows (wanted : Option Field → Bool)
    (labelInt : DictRow → Option (Option ℤ)) (text : List Char) :
    Option (List DatasetRow) :=
  ((dictRows text).mapM (loadRow wanted labelInt)).map List.reduceOption

/-- The label names of the tools that learn; the index is the number. -/
def classNames : List Field :=
  ["idle", "approach", "hover", "quick_pass", "cover_hold",
    "confirmed_event", "surface_reflection", "noise", "unknown"].map
      String.toList

namespace TrainBaseline

def wanted (labelName : Option Field) : Bool :=
  labelName != some "unlabeled".toList && labelName != some "invalid".toList

def loadCsv (text : List Char) : Option (List DatasetRow) :=
  loadRows wanted (fun row => (dictInt row "label".toList).map some) text

end TrainBaseline

namespace TrainModel

def wanted (labelName : Option Field) : Bool :=
  labelName.any classNames.contains

/-- The number is `NAME_TO_ID[label_name]`. -/
def loadDataset (text : List Char) : Option (List DatasetRow) :=
  loadRows wanted
    (fun row => (dictGet row "label_name".toList).map fun labelName =>
      labelName.map fun name => (classNames.idxOf name : ℤ)) text

end TrainModel

namespace EvaluateModel

/-- The rows of `main`, which keeps no number of the label. -/
def loadDataset (text : List Char) : Option (List DatasetRow) :=
  loadRows TrainModel.wanted (fun _ => some none) text

end EvaluateModel

/-! ## Numbers -/

theorem isDigit_of_mem_decimal {n : ℕ} {c : Char} (hc : c ∈ decimal n) :
    c.isDigit = true :=
  Nat.isDigit_of_mem_toDigits (by decide) (by decide) hc

theorem ne_of_isDigit {c other : Char} (hdigit : c.isDigit = true)
    (hother : other.isDigit = false) : c ≠ other := by
  rintro rfl
  rw [hdigit] at hother
  cases hother

theorem not_isPySpace {c : Char} (hdigit : c.isDigit = true) :
    isPySpace c = false := by
  obtain ⟨hzero, -⟩ := Char.isDigit_iff_toNat.mp hdigit
  have hlow : 48 ≤ c.toNat := hzero
  have hblank : c ≠ ' ' := ne_of_isDigit hdigit rfl
  have hreturn : ¬c ≤ '\r' := by
    intro hle
    have hhigh : c.toNat ≤ 13 := hle
    omega
  have hunit : ¬c ≤ '\x1f' := by
    intro hle
    have hhigh : c.toNat ≤ 31 := hle
    omega
  simp [isPySpace, isSpace, hblank, hreturn, hunit]

theorem pyDigits_digits {digits : List Char}
    (hdigits : ∀ c ∈ digits, c.isDigit = true) (value : ℕ) :
    pyDigits value true digits =
      some (Nat.ofDigitChars 10 digits value) := by
  induction digits generalizing value with
  | nil => rfl
  | cons c digits ih =>
      have hzero : '0'.toNat = 48 := rfl
      have hlater := ih fun other hother => hdigits other (.tail c hother)
      rw [pyDigits, if_pos (hdigits c (.head digits)), hlater,
        Nat.ofDigitChars_cons, Nat.mul_comm value 10, hzero]

/-- `int` reads what `str` has written. -/
theorem pyInt_decimal (n : ℕ) : pyInt (decimal n) = some (n : ℤ) := by
  have hdigits : ∀ c ∈ decimal n, c.isDigit = true :=
    fun c hc => isDigit_of_mem_decimal hc
  have hvalue : Nat.ofDigitChars 10 (decimal n) 0 = n :=
    Nat.ofDigitChars_ten_toDigits
  have hleft : (decimal n).dropWhile isPySpace = decimal n := by
    rw [List.dropWhile_eq_self_iff]
    intro hlength
    rw [not_isPySpace (hdigits _ (List.getElem_mem hlength))]
    exact Bool.false_ne_true
  have hright : (decimal n).rdropWhile isPySpace = decimal n := by
    rw [List.rdropWhile_eq_self_iff]
    intro hnonempty
    rw [not_isPySpace (hdigits _ (List.getLast_mem hnonempty))]
    exact Bool.false_ne_true
  cases htext : decimal n with
  | nil => exact absurd htext Nat.toDigits_ne_nil
  | cons c rest =>
      rw [htext] at hdigits hvalue hleft hright
      have hc := hdigits c (.head rest)
      have hread : pyDigits 0 false (c :: rest) = some n := by
        have hall := pyDigits_digits hdigits 0
        rw [pyDigits, if_pos hc] at hall ⊢
        rw [hall, hvalue]
      unfold pyInt
      rw [hleft, hright]
      split
      · next heq => exact absurd (List.cons.inj heq).1 (ne_of_isDigit hc rfl)
      · next heq => exact absurd (List.cons.inj heq).1 (ne_of_isDigit hc rfl)
      · rw [hread]
        rfl

theorem universalNewlines_decimal (n : ℕ) :
    universalNewlines (decimal n) = decimal n :=
  universalNewlines_of_plain fun _ hc =>
    ne_of_isDigit (isDigit_of_mem_decimal hc) rfl

/-! ## Columns -/

theorem lookup_of_mem {α β : Type*} [BEq α] [LawfulBEq α]
    {l : List (α × β)} (hnodup : (l.map Prod.fst).Nodup) {a : α} {b : β}
    (hmem : (a, b) ∈ l) : l.lookup a = some b := by
  obtain ⟨before, after, rfl⟩ := List.append_of_mem hmem
  rw [List.lookup_eq_some_iff]
  refine ⟨before, after, rfl, fun pair hpair => ?_⟩
  rw [List.map_append, List.map_cons] at hnodup
  have hother : a ∉ before.map Prod.fst := fun hin =>
    List.disjoint_of_nodup_append hnodup hin (.head _)
  have hne : a ≠ pair.1 := by
    rintro rfl
    exact hother (List.mem_map_of_mem hpair)
  exact bne_iff_ne.mpr hne

theorem getElem?_flatMap_pair {α β : Type*} (f g : α → β) (l : List α)
    (i : ℕ) :
    (l.flatMap fun a => [f a, g a])[2 * i]? = l[i]?.map f := by
  induction l generalizing i with
  | nil => rfl
  | cons a l ih =>
      cases i with
      | zero => rfl
      | succ i => exact ih i

/-- A row that is as long as the names gives each of them its value. -/
theorem dictGet_dictRow {names row : Row} (hnodup : names.Nodup)
    (hlength : row.length = names.length) {k : ℕ} {name value : Field}
    (hname : names[k]? = some name) (hvalue : row[k]? = some value) :
    dictGet (dictRow names row) name = some (some value) := by
  have hvalues : row.map some ++
      List.replicate (names.length - row.length) none = row.map some := by
    rw [hlength, Nat.sub_self]
    exact List.append_nil _
  have hnames : (names.zip (row.map some)).map Prod.fst = names := by
    apply List.map_fst_zip
    rw [List.length_map, hlength]
  have hmem : (name, some value) ∈ names.zip (row.map some) := by
    refine List.mem_iff_getElem?.mpr ⟨k, ?_⟩
    rw [List.getElem?_zip_eq_some]
    refine ⟨hname, ?_⟩
    rw [List.getElem?_map, hvalue]
    rfl
  unfold dictGet dictRow
  rw [hvalues]
  apply lookup_of_mem
  · rw [List.map_reverse, hnames]
    exact List.nodup_reverse.mpr hnodup
  · exact List.mem_reverse.mpr hmem

/-! ## Label names -/

namespace ExtractWindows

theorem labelName_unknown {label : ℕ}
    (hlabel : label ∉ labelNames.map Prod.fst) :
    (labelName label).toList = "unknown_".toList ++ decimal label := by
  have hlookup : labelNames.lookup label = none := by
    rw [List.lookup_eq_none_iff]
    intro pair hpair
    refine bne_iff_ne.mpr ?_
    rintro rfl
    exact hlabel (List.mem_map_of_mem hpair)
  have htext : labelName label = "unknown_" ++ toString label := by
    unfold labelName
    rw [hlookup]
    rfl
  rw [htext, String.toList_append, Nat.toString_eq_repr, Nat.toList_repr]
  rfl

theorem universalNewlines_labelName (label : ℕ) :
    universalNewlines (labelName label).toList = (labelName label).toList := by
  by_cases hlabel : label ∈ labelNames.map Prod.fst
  · have hnames : ∀ label ∈ labelNames.map Prod.fst,
        universalNewlines (labelName label).toList =
          (labelName label).toList := by
      decide +kernel
    exact hnames label hlabel
  · apply universalNewlines_of_plain
    rw [labelName_unknown hlabel]
    intro c hc
    obtain hword | hnumber := List.mem_append.mp hc
    · rintro rfl
      revert hword
      decide +kernel
    · exact ne_of_isDigit (isDigit_of_mem_decimal hnumber) rfl

theorem labelName_notMem {label : ℕ} (names : List Field)
    (hnames : ∀ name ∈ names, name.take 8 ≠ "unknown_".toList)
    (hlabel : label ∉ labelNames.map Prod.fst) :
    (labelName label).toList ∉ names := by
  rw [labelName_unknown hlabel]
  intro hmem
  exact hnames _ hmem rfl

end ExtractWindows

open ExtractWindows

theorem TrainBaseline.wanted_labelName (label : ℕ) :
    wanted (some (labelName label).toList) =
      decide (label ≠ 254 ∧ label ≠ 255) := by
  by_cases hlabel : label ∈ labelNames.map Prod.fst
  · have hnames : ∀ label ∈ labelNames.map Prod.fst,
        wanted (some (labelName label).toList) =
          decide (label ≠ 254 ∧ label ≠ 255) := by
      decide +kernel
    exact hnames label hlabel
  · have hother := labelName_notMem
      ["unlabeled".toList, "invalid".toList] (by decide +kernel) hlabel
    simp only [List.mem_cons, not_or] at hother
    have hrest : label ≠ 254 ∧ label ≠ 255 := by
      constructor <;>
        · rintro rfl
          exact hlabel (by decide)
    rw [decide_eq_true hrest]
    simp only [wanted, Bool.and_eq_true, bne_iff_ne, ne_eq,
      Option.some.injEq]
    exact ⟨hother.1, hother.2.1⟩

theorem TrainModel.wanted_labelName (label : ℕ) :
    wanted (some (labelName label).toList) = decide (label ≤ 8) := by
  by_cases hlabel : label ∈ labelNames.map Prod.fst
  · have hnames : ∀ label ∈ labelNames.map Prod.fst,
        wanted (some (labelName label).toList) = decide (label ≤ 8) := by
      decide +kernel
    exact hnames label hlabel
  · have hother := labelName_notMem classNames (by decide +kernel) hlabel
    have hlarge : ¬label ≤ 8 := by
      intro hle
      have hsmall : ∀ label < 9, label ∈ labelNames.map Prod.fst := by decide
      exact hlabel (hsmall label (by omega))
    rw [decide_eq_false hlarge]
    simpa [wanted] using hother

theorem idxOf_labelName {label : ℕ} (hlabel : label ≤ 8) :
    classNames.idxOf (labelName label).toList = label := by
  have hnames : ∀ label < 9,
      classNames.idxOf (labelName label).toList = label := by
    decide +kernel
  exact hnames label (by omega)

/-! ## Windows through the file -/

namespace ExtractWindows

/-- What every kept window has. -/
structure Kept (window : ExtractedWindow) : Prop where
  samples : window.samples.length ≤ windowSize
  labelName : window.labelName = labelName window.header.label

theorem length_parseSamples_le (data : List Byte) (count : ℕ) :
    (parseSamples data count).length ≤ count := by
  induction count generalizing data with
  | zero => exact le_rfl
  | succ count ih =>
      rw [parseSamples]
      split_ifs
      · exact Nat.zero_le _
      · exact Nat.succ_le_succ (ih _)

theorem labelName_of_validateWindow {raw : List Byte} {window : Window}
    (hkept : validateWindow raw = some window) :
    window.labelName = labelName window.header.label := by
  unfold validateWindow at hkept
  split_ifs at hkept
  cases hheader : parseHeader (raw.take windowHeaderSize) with
  | none =>
      rw [hheader] at hkept
      cases hkept
  | some header =>
      rw [hheader] at hkept
      dsimp only at hkept
      split_ifs at hkept
      cases hkept
      rfl

theorem kept_of_mem {files : List (String × List Byte)}
    {window : ExtractedWindow} (hmem : window ∈ extractAll files) :
    Kept window := by
  obtain ⟨file, -, hfile⟩ := List.mem_flatMap.mp hmem
  obtain ⟨i, -, hi⟩ := List.mem_filterMap.mp hfile
  obtain ⟨plain, hplain, rfl⟩ := Option.map_eq_some_iff.mp hi
  have haccepted := accepted_of_validateWindow hplain
  have hcount := haccepted.sampleCount
  have hsamples := length_parseSamples_le
    (((((file.2.drop (i * sampleWindowSize)).take sampleWindowSize).take
      sampleWindowSize).drop windowHeaderSize)) plain.header.sampleCount
  rw [← haccepted.samples] at hsamples
  exact ⟨hsamples.trans hcount, labelName_of_validateWindow hplain⟩

theorem length_padded {window : ExtractedWindow} (hkept : Kept window) :
    (padded window.samples).length = windowSize := by
  have hsamples := hkept.samples
  rw [padded, List.length_append, List.length_replicate]
  omega

/-- A row of the file as the readers get it. -/
def rowText (window : ExtractedWindow) : Row :=
  (csvRow window).map universalNewlines

theorem length_rowText {window : ExtractedWindow} (hkept : Kept window) :
    (rowText window).length = csvHeader.length := by
  have hheader : csvHeader.length = 11 + windowSize * 2 := by decide
  rw [hheader, ← length_padded hkept]
  simp [rowText, csvRow, List.length_flatMap]
  omega

theorem nodup_csvHeader : csvHeader.Nodup := by decide +kernel

theorem dictGet_rowText {window : ExtractedWindow} (hkept : Kept window)
    {k : ℕ} {name value : Field} (hname : csvHeader[k]? = some name)
    (hvalue : (rowText window)[k]? = some value) :
    dictGet (dictRow csvHeader (rowText window)) name = some (some value) :=
  dictGet_dictRow nodup_csvHeader (length_rowText hkept) hname hvalue

theorem dictInt_rowText {window : ExtractedWindow} (hkept : Kept window)
    {k : ℕ} {name : Field} {n : ℕ} (hname : csvHeader[k]? = some name)
    (hvalue : (csvRow window)[k]? = some (decimal n)) :
    dictInt (dictRow csvHeader (rowText window)) name = some (n : ℤ) := by
  have hread : (rowText window)[k]? = some (decimal n) := by
    rw [rowText, List.getElem?_map, hvalue, Option.map_some,
      universalNewlines_decimal]
  rw [dictInt, dictGet_rowText hkept hname hread]
  exact pyInt_decimal n

theorem dictGet_labelName {window : ExtractedWindow} (hkept : Kept window) :
    dictGet (dictRow csvHeader (rowText window)) "label_name".toList =
      some (some window.labelName.toList) := by
  have hname : csvHeader[4]? = some "label_name".toList := by decide +kernel
  have hvalue : (rowText window)[4]? = some window.labelName.toList := by
    rw [rowText, List.getElem?_map, hkept.labelName]
    change some (universalNewlines window.labelName.toList) = _
    rw [hkept.labelName, universalNewlines_labelName]
  exact dictGet_rowText hkept hname hvalue

theorem dictInt_label {window : ExtractedWindow} (hkept : Kept window) :
    dictInt (dictRow csvHeader (rowText window)) "label".toList =
      some (window.header.label : ℤ) := by
  have hname : csvHeader[3]? = some "label".toList := by decide +kernel
  exact dictInt_rowText hkept hname rfl

theorem dictInt_sessionId {window : ExtractedWindow} (hkept : Kept window) :
    dictInt (dictRow csvHeader (rowText window)) "session_id".toList =
      some (window.header.sessionId : ℤ) := by
  have hname : csvHeader[1]? = some "session_id".toList := by decide +kernel
  exact dictInt_rowText hkept hname rfl

theorem csvHeader_prox {i : ℕ} (hi : i < windowSize) :
    csvHeader[11 + 2 * i]? = some ("prox_".toList ++ decimal i) := by
  have hpair := getElem?_flatMap_pair
    (fun i => "prox_".toList ++ decimal i)
    (fun i => "dt_".toList ++ decimal i) (List.range windowSize) i
  rw [List.getElem?_range hi, Option.map_some] at hpair
  rw [csvHeader, List.getElem?_append_right (by simp)]
  simpa using hpair

theorem csvRow_prox {window : ExtractedWindow} {i : ℕ}
    {sample : ℕ × ℕ} (hsample : (padded window.samples)[i]? = some sample) :
    (csvRow window)[11 + 2 * i]? = some (decimal sample.1) := by
  have hpair := getElem?_flatMap_pair (fun sample => decimal sample.1)
    (fun sample => decimal sample.2) (padded window.samples) i
  rw [hsample, Option.map_some] at hpair
  rw [csvRow, List.getElem?_append_right (by simp)]
  simpa using hpair

end ExtractWindows

theorem mapM_some {α β : Type*} {f : α → Option β} {g : α → β} {l : List α}
    (hf : ∀ a ∈ l, f a = some (g a)) : l.mapM f = some (l.map g) := by
  induction l with
  | nil => rfl
  | cons a l ih =>
      have hrest := ih fun b hb => hf b (.tail a hb)
      rw [List.mapM_cons, hf a (.head l), hrest]
      rfl

def proximities (window : ExtractedWindow) : List ℤ :=
  (padded window.samples).map fun sample => (sample.1 : ℤ)

theorem proximityValues_rowText {window : ExtractedWindow}
    (hkept : Kept window) :
    proximityValues (dictRow csvHeader (rowText window)) =
      some (proximities window) := by
  have hlength := length_padded hkept
  have hread : ∀ i ∈ List.range windowSize,
      dictInt (dictRow csvHeader (rowText window))
          ("prox_".toList ++ decimal i) =
        some (((padded window.samples).getD i (0, 0)).1 : ℤ) := by
    intro i hi
    have hlt := List.mem_range.mp hi
    have hsample : (padded window.samples)[i]? =
        some ((padded window.samples).getD i (0, 0)) := by
      rw [List.getD_eq_getElem?_getD,
        List.getElem?_eq_getElem (hlength.symm ▸ hlt)]
      rfl
    exact dictInt_rowText hkept (csvHeader_prox hlt) (csvRow_prox hsample)
  have hall : (List.range windowSize).map
        (fun i => (((padded window.samples).getD i (0, 0)).1 : ℤ)) =
      proximities window := by
    rw [← hlength]
    apply List.ext_getElem
    · simp [proximities]
    · intro i hi hi'
      simp only [proximities, List.getElem_map, List.getElem_range,
        List.getD_eq_getElem?_getD]
      rw [List.getElem?_eq_getElem]
      rfl
  rw [proximityValues, mapM_some hread, hall]

/-- What the readers keep of a window. -/
def datasetRow (labelInt : Option ℤ) (window : ExtractedWindow) : DatasetRow :=
  ⟨some window.labelName.toList, labelInt, window.header.sessionId,
    proximities window⟩

theorem loadRow_rowText {wanted : Option Field → Bool}
    {labelInt : DictRow → Option (Option ℤ)} {window : ExtractedWindow}
    (hkept : Kept window) {label : Option ℤ}
    (hlabel : labelInt (dictRow csvHeader (rowText window)) = some label) :
    loadRow wanted labelInt (dictRow csvHeader (rowText window)) =
      some (if wanted (some window.labelName.toList) then
        some (datasetRow label window) else none) := by
  rw [loadRow, dictGet_labelName hkept, Option.bind_some]
  by_cases hwanted : wanted (some window.labelName.toList)
  · rw [if_pos hwanted, if_pos hwanted, proximityValues_rowText hkept,
      Option.bind_some, dictInt_sessionId hkept, Option.bind_some, hlabel]
    rfl
  · rw [if_neg hwanted, if_neg hwanted]

theorem dictRows_of_read {text : List Char} {names : Row} {rows : List Row}
    (hread : read (universalNewlines text) = names :: rows) :
    dictRows text =
      (rows.filter fun row => !row.isEmpty).map (dictRow names) := by
  rw [dictRows, hread]

theorem loadRows_writeCsv (wanted : Option Field → Bool)
    (labelInt : DictRow → Option (Option ℤ)) {windows : List ExtractedWindow}
    (hkept : ∀ window ∈ windows, Kept window) (label : ℕ → Option ℤ)
    (hlabel : ∀ window ∈ windows,
      labelInt (dictRow csvHeader (rowText window)) =
        some (label window.header.label)) :
    loadRows wanted labelInt (writeCsv windows) =
      some ((windows.filter fun window =>
        wanted (some window.labelName.toList)).map fun window =>
          datasetRow (label window.header.label) window) := by
  have hheader : csvHeader.map universalNewlines = csvHeader := by
    decide +kernel
  have hread : read (universalNewlines (writeCsv windows)) =
      csvHeader :: windows.map rowText := by
    rw [writeCsv, read_write, List.map_cons, hheader, List.map_map]
    rfl
  have hall : (windows.map rowText).filter (fun row => !row.isEmpty) =
      windows.map rowText := by
    rw [List.filter_eq_self]
    intro row hrow
    obtain ⟨window, -, rfl⟩ := List.mem_map.mp hrow
    rfl
  have hload : ∀ window ∈ windows,
      loadRow wanted labelInt (dictRow csvHeader (rowText window)) =
        some (if wanted (some window.labelName.toList) then
          some (datasetRow (label window.header.label) window) else none) :=
    fun window hmem => loadRow_rowText (hkept window hmem)
      (hlabel window hmem)
  rw [loadRows, dictRows_of_read hread, hall, List.mapM_map, List.mapM_map]
  unfold Function.comp
  rw [mapM_some hload, Option.map_some]
  refine congrArg some ?_
  change List.filterMap id (windows.map _) = _
  rw [List.filterMap_map, ← List.filterMap_eq_filter, List.map_filterMap]
  apply List.filterMap_congr
  intro window _
  simp only [Function.comp_apply, id_eq, Option.guard]
  split_ifs <;> rfl

theorem loadCsv_writeCsv (files : List (String × List Byte)) :
    TrainBaseline.loadCsv (writeCsv (extractAll files)) =
      some (((extractAll files).filter fun window =>
        decide (window.header.label ≠ 254 ∧ window.header.label ≠ 255)).map
          fun window => datasetRow (some window.header.label) window) := by
  have hkept : ∀ window ∈ extractAll files, Kept window :=
    fun window hmem => kept_of_mem hmem
  have hlabelled : (extractAll files).filter (fun window =>
        TrainBaseline.wanted (some window.labelName.toList)) =
      (extractAll files).filter fun window =>
        decide (window.header.label ≠ 254 ∧ window.header.label ≠ 255) := by
    apply List.filter_congr
    intro window hmem
    rw [(hkept window hmem).labelName, TrainBaseline.wanted_labelName]
  have hload := loadRows_writeCsv TrainBaseline.wanted
    (fun row => (dictInt row "label".toList).map some) hkept
    (fun label => some label) fun window hmem => by
      rw [dictInt_label (hkept window hmem), Option.map_some]
  rw [TrainBaseline.loadCsv, hload, hlabelled]

theorem filter_wanted (files : List (String × List Byte)) :
    (extractAll files).filter (fun window =>
        TrainModel.wanted (some window.labelName.toList)) =
      (extractAll files).filter fun window =>
        decide (window.header.label ≤ 8) := by
  apply List.filter_congr
  intro window hmem
  rw [(kept_of_mem hmem).labelName, TrainModel.wanted_labelName]

theorem trainModel_loadDataset_writeCsv (files : List (String × List Byte)) :
    TrainModel.loadDataset (writeCsv (extractAll files)) =
      some (((extractAll files).filter fun window =>
        decide (window.header.label ≤ 8)).map
          fun window => datasetRow (some window.header.label) window) := by
  have hkept : ∀ window ∈ extractAll files, Kept window :=
    fun window hmem => kept_of_mem hmem
  have hload := loadRows_writeCsv TrainModel.wanted
    (fun row => (dictGet row "label_name".toList).map fun labelName =>
      labelName.map fun name => (classNames.idxOf name : ℤ)) hkept
    (fun label => some (classNames.idxOf (labelName label).toList : ℤ))
    fun window hmem => by
      rw [dictGet_labelName (hkept window hmem), Option.map_some,
        Option.map_some, (hkept window hmem).labelName]
  rw [TrainModel.loadDataset, hload, filter_wanted]
  refine congrArg some ?_
  apply List.map_congr_left
  intro window hmem
  have hle : window.header.label ≤ 8 :=
    of_decide_eq_true (List.mem_filter.mp hmem).2
  rw [idxOf_labelName hle]

theorem evaluateModel_loadDataset_writeCsv
    (files : List (String × List Byte)) :
    EvaluateModel.loadDataset (writeCsv (extractAll files)) =
      some (((extractAll files).filter fun window =>
        decide (window.header.label ≤ 8)).map
          fun window => datasetRow none window) := by
  have hkept : ∀ window ∈ extractAll files, Kept window :=
    fun window hmem => kept_of_mem hmem
  have hload := loadRows_writeCsv TrainModel.wanted
    (fun _ => some none) hkept (fun _ => none) fun _ _ => rfl
  rw [EvaluateModel.loadDataset, hload, filter_wanted]

/-- The three readers get from the file what was extracted, less the windows
whose label they do not use. -/
theorem dataset_round_trip (files : List (String × List Byte)) :
    TrainBaseline.loadCsv (writeCsv (extractAll files)) =
        some (((extractAll files).filter fun window =>
          decide (window.header.label ≠ 254 ∧ window.header.label ≠ 255)).map
            fun window => datasetRow (some window.header.label) window) ∧
      TrainModel.loadDataset (writeCsv (extractAll files)) =
        some (((extractAll files).filter fun window =>
          decide (window.header.label ≤ 8)).map
            fun window => datasetRow (some window.header.label) window) ∧
      EvaluateModel.loadDataset (writeCsv (extractAll files)) =
        some (((extractAll files).filter fun window =>
          decide (window.header.label ≤ 8)).map
            fun window => datasetRow none window) :=
  ⟨loadCsv_writeCsv files, trainModel_loadDataset_writeCsv files,
    evaluateModel_loadDataset_writeCsv files⟩

end SensorFirmware
