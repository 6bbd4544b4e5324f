import Mathlib.Tactic

/-!
# Comma-separated values

The writer that quotes only where it must, and the reader as a state machine
over the characters.  A reader of a text file sees each line end as one newline
character, inside the quotes as well; up to that, what is written is read back.
-/

namespace CsvFormat

abbrev Field := List Char

abbrev Row := List Field

def delimiter : Char := ','

def quotechar : Char := '\x22'

/-! ## The writer -/

def isSpecial (c : Char) : Bool :=
  c == delimiter || c == quotechar || c == '\r' || c == '\n'

def needsQuotes (field : Field) : Bool := field.any isSpecial

def escape (field : Field) : List Char :=
  field.flatMap fun c => if c = quotechar then [quotechar, quotechar] else [c]

def quoted (field : Field) : List Char :=
  quotechar :: (escape field ++ [quotechar])

def writeField (field : Field) : List Char :=
  if needsQuotes field then quoted field else field

def writeFields : Row → List Char
  | [] => []
  | [field] => writeField field
  | field :: rest => writeField field ++ delimiter :: writeFields rest

/-- A row of one empty field is quoted, since a row without fields is an empty
line. -/
def writeRow (row : Row) : List Char :=
  (if row = [[]] then quoted [] else writeFields row) ++ ['\r', '\n']

def write (rows : List Row) : List Char := rows.flatMap writeRow

/-! ## Line ends -/

/-- Every line end as one newline; `afterReturn` says that the character before
was a carriage return, which has given the newline already. -/
def translate (afterReturn : Bool) : List Char → List Char
  | [] => []
  | c :: rest =>
      if c = '\r' then '\n' :: translate true rest
      else if c = '\n' ∧ afterReturn = true then translate false rest
      else c :: translate false rest

def universalNewlines (text : List Char) : List Char := translate false text

/-! ## The reader -/

inductive Place where
  | startRecord
  | startField
  | inField
  | inQuoted
  | quoteInQuoted
  deriving DecidableEq, Repr

structure Reader where
  place : Place
  field : Field
  row : Row
  rows : List Row
  deriving DecidableEq, Repr

namespace Reader

def start : Reader := ⟨.startRecord, [], [], []⟩

def add (r : Reader) (c : Char) (place : Place) : Reader :=
  { r with place := place, field := r.field ++ [c] }

def saveField (r : Reader) : Reader :=
  { r with place := .startField, field := [], row := r.row ++ [r.field] }

def endRow (r : Reader) : Reader :=
  { r with place := .startRecord, row := [], rows := r.rows ++ [r.row] }

def stepField (r : Reader) (c : Char) : Reader :=
  if c = '\n' then r.saveField.endRow
  else if c = quotechar then { r with place := .inQuoted }
  else if c = delimiter then r.saveField
  else r.add c .inField

def step (r : Reader) (c : Char) : Reader :=
  match r.place with
  | .startRecord => if c = '\n' then r.endRow else r.stepField c
  | .startField => r.stepField c
  | .inField =>
      if c = '\n' then r.saveField.endRow
      else if c = delimiter then r.saveField
      else r.add c .inField
  | .inQuoted =>
      if c = quotechar then { r with place := .quoteInQuoted }
      else r.add c .inQuoted
  | .quoteInQuoted =>
      if c = quotechar then r.add c .inQuoted
      else if c = delimiter then r.saveField
      else if c = '\n' then r.saveField.endRow
      else r.add c .inField

/-- The end of the text ends a row that was begun. -/
def finish (r : Reader) : Reader :=
  if r.place = .startRecord then r else r.saveField.endRow

end Reader

def read (text : List Char) : List Row :=
  (text.foldl Reader.step .start).finish.rows

/-! ## What is written as it is read -/

/-- A field as the reader sees it. -/
def fieldText (field : Field) : List Char :=
  if needsQuotes field then quoted (universalNewlines field) else field

def fieldsText : Row → List Char
  | [] => []
  | [field] => fieldText field
  | field :: rest => fieldText field ++ delimiter :: fieldsText rest

theorem translate_of_plain {field : Field}
    (hplain : ∀ c ∈ field, c ≠ '\r') (rest : List Char) :
    translate false (field ++ rest) = field ++ translate false rest := by
  induction field with
  | nil => rfl
  | cons c field ih =>
      have hc := hplain c (.head field)
      have hfield := ih fun other hother => hplain other (.tail c hother)
      rw [List.cons_append, translate, if_neg hc, if_neg (by simp), hfield]
      rfl

theorem universalNewlines_of_plain {field : Field}
    (hplain : ∀ c ∈ field, c ≠ '\r') : universalNewlines field = field := by
  have hwhole := translate_of_plain hplain []
  rw [List.append_nil] at hwhole
  exact hwhole.trans (List.append_nil field)

theorem translate_escape (afterReturn : Bool) (field : Field)
    (rest : List Char) :
    translate afterReturn (escape field ++ quotechar :: rest) =
      escape (translate afterReturn field) ++
        quotechar :: translate false rest := by
  have hquote : ∀ (afterReturn : Bool) (rest : List Char),
      translate afterReturn (quotechar :: rest) =
        quotechar :: translate false rest := by
    intro afterReturn rest
    rw [translate, if_neg (by decide), if_neg (by simp [quotechar])]
  induction field generalizing afterReturn with
  | nil => exact hquote afterReturn rest
  | cons c field ih =>
      unfold escape at ih ⊢
      rw [List.flatMap_cons]
      by_cases hc : c = quotechar
      · subst hc
        rw [if_pos rfl, hquote, List.flatMap_cons, if_pos rfl]
        simp only [List.cons_append, List.nil_append, hquote]
        rw [ih]
      · rw [if_neg hc, List.singleton_append, List.cons_append]
        by_cases hreturn : c = '\r'
        · subst hreturn
          rw [translate, if_pos rfl, translate, if_pos rfl, ih,
            List.flatMap_cons, if_neg (by decide)]
          rfl
        · by_cases hskip : c = '\n' ∧ afterReturn = true
          · rw [translate, if_neg hreturn, if_pos hskip, translate,
              if_neg hreturn, if_pos hskip, ih]
          · rw [translate, if_neg hreturn, if_neg hskip, translate,
              if_neg hreturn, if_neg hskip, ih, List.flatMap_cons, if_neg hc]
            rfl

theorem not_special {field : Field} (hplain : needsQuotes field = false)
    {c : Char} (hc : c ∈ field) :
    c ≠ delimiter ∧ c ≠ quotechar ∧ c ≠ '\r' ∧ c ≠ '\n' := by
  unfold needsQuotes at hplain
  rw [List.any_eq_false] at hplain
  have hspecial := hplain c hc
  simpa [isSpecial, not_or, and_assoc] using hspecial

theorem translate_writeField (field : Field) (rest : List Char) :
    translate false (writeField field ++ rest) =
      fieldText field ++ translate false rest := by
  unfold writeField fieldText
  cases hquotes : needsQuotes field with
  | false =>
      rw [if_neg (by simp), if_neg (by simp)]
      exact translate_of_plain (fun c hc => (not_special hquotes hc).2.2.1)
        rest
  | true =>
      have hopen : quotechar ≠ '\r' := by decide
      rw [if_pos rfl, if_pos rfl, quoted, quoted, List.cons_append,
        translate, if_neg hopen, if_neg (by simp), List.append_assoc,
        List.singleton_append, translate_escape, universalNewlines,
        List.cons_append, List.append_assoc, List.singleton_append]

theorem translate_delimiter (rest : List Char) :
    translate false (delimiter :: rest) = delimiter :: translate false rest :=
  by rw [translate, if_neg (by decide), if_neg (by simp)]

theorem translate_writeFields (row : Row) (rest : List Char) :
    translate false (writeFields row ++ rest) =
      fieldsText row ++ translate false rest := by
  induction row with
  | nil => rfl
  | cons field row ih =>
      cases row with
      | nil => exact translate_writeField field rest
      | cons second row =>
          have hwrite : writeFields (field :: second :: row) =
            writeField field ++ delimiter :: writeFields (second :: row) := rfl
          have htext : fieldsText (field :: second :: row) =
            fieldText field ++ delimiter :: fieldsText (second :: row) := rfl
          rw [hwrite, htext, List.append_assoc, translate_writeField,
            List.cons_append, translate_delimiter, ih, List.append_assoc,
            List.cons_append]

/-! ## Reading back -/

namespace Reader

variable {r : Reader}

theorem foldl_escape (hplace : r.place = .inQuoted) (field : Field)
    (rest : List Char) :
    (escape field ++ rest).foldl step r =
      rest.foldl step { r with field := r.field ++ field } := by
  induction field generalizing r with
  | nil =>
      rw [List.append_nil]
      rfl
  | cons c field ih =>
      unfold escape at ih ⊢
      rw [List.flatMap_cons, List.append_assoc]
      by_cases hc : c = quotechar
      · subst hc
        have hstep : ([quotechar, quotechar] : List Char).foldl step r =
            r.add quotechar .inQuoted := by
          simp [step, hplace, add]
        rw [if_pos rfl, List.foldl_append, hstep, ih rfl]
        simp [add, hplace]
      · have hstep : step r c = r.add c .inQuoted := by
          simp [step, hplace, hc]
        rw [if_neg hc, List.singleton_append, List.foldl_cons, hstep, ih rfl]
        simp [add, hplace]

theorem foldl_plain (hplace : r.place = .inField) {field : Field}
    (hplain : ∀ c ∈ field, c ≠ delimiter ∧ c ≠ '\n') (rest : List Char) :
    (field ++ rest).foldl step r =
      rest.foldl step { r with field := r.field ++ field } := by
  induction field generalizing r with
  | nil =>
      rw [List.append_nil]
      rfl
  | cons c field ih =>
      obtain ⟨hdelimiter, hnewline⟩ := hplain c (.head field)
      have hstep : step r c = r.add c .inField := by
        simp [step, hplace, hdelimiter, hnewline]
      rw [List.cons_append, List.foldl_cons, hstep,
        ih rfl fun other hother => hplain other (.tail c hother)]
      simp [add, hplace]

/-- At the start of a field, the text of a field with what ends it. -/
theorem foldl_fieldText (hplace : r.place = .startField)
    (hempty : r.field = []) (field : Field) {ending : Char}
    (hending : ending = delimiter ∨ ending = '\n') (rest : List Char) :
    (fieldText field ++ ending :: rest).foldl step r =
      rest.foldl step
        (if ending = '\n' then
          { r with
            place := .startRecord
            row := []
            rows := r.rows ++ [r.row ++ [universalNewlines field]] }
        else { r with row := r.row ++ [universalNewlines field] }) := by
  unfold fieldText
  cases hquotes : needsQuotes field with
  | true =>
      have hopen : step r quotechar = { r with place := .inQuoted } := by
        simp [step, hplace, stepField, quotechar]
      rw [if_pos rfl, quoted, List.cons_append, List.foldl_cons, hopen,
        List.append_assoc, foldl_escape rfl]
      rcases hending with rfl | rfl <;>
        simp [step, hplace, hempty, saveField, endRow, quotechar, delimiter]
  | false =>
      have hspecial := fun c hc => @not_special field hquotes c hc
      have hsame : universalNewlines field = field :=
        universalNewlines_of_plain fun c hc => (hspecial c hc).2.2.1
      rw [if_neg (by simp), hsame]
      cases field with
      | nil =>
          rcases hending with rfl | rfl <;>
            simp [step, hplace, hempty, stepField, saveField, endRow,
              quotechar, delimiter]
      | cons c field =>
          obtain ⟨hdelimiter, hquote, -, hnewline⟩ := hspecial c (.head field)
          have hfirst : step r c = r.add c .inField := by
            simp [step, hplace, stepField, hdelimiter, hquote, hnewline]
          have hplain : ∀ other ∈ field,
              other ≠ delimiter ∧ other ≠ '\n' := fun other hother =>
            ⟨(hspecial other (.tail c hother)).1,
              (hspecial other (.tail c hother)).2.2.2⟩
          rw [List.cons_append, List.foldl_cons, hfirst,
            foldl_plain rfl hplain]
          rcases hending with rfl | rfl <;>
            simp [step, add, hplace, hempty, saveField, endRow, delimiter]

theorem foldl_fieldsText (hplace : r.place = .startField)
    (hempty : r.field = []) {row : Row} (hrow : row ≠ [])
    (rest : List Char) :
    (fieldsText row ++ '\n' :: rest).foldl step r =
      rest.foldl step
        { r with
          place := .startRecord
          row := []
          rows := r.rows ++ [r.row ++ row.map universalNewlines] } := by
  induction row generalizing r with
  | nil => exact absurd rfl hrow
  | cons field row ih =>
      cases row with
      | nil =>
          exact (foldl_fieldText hplace hempty field (.inr rfl) rest).trans
            (by rw [if_pos rfl]; rfl)
      | cons second row =>
          have htext : fieldsText (field :: second :: row) =
            fieldText field ++ delimiter :: fieldsText (second :: row) := rfl
          have hend : delimiter ≠ '\n' := by decide
          have hrest := @ih { r with row := r.row ++ [universalNewlines field] }
            hplace hempty (List.cons_ne_nil second row)
          rw [htext, List.append_assoc, List.cons_append,
            foldl_fieldText hplace hempty field (.inl rfl), if_neg hend, hrest]
          simp

/-- A row that does not begin with a newline is read as if a field had begun. -/
theorem foldl_startRecord (rows : List Row) {c : Char} (hc : c ≠ '\n')
    (rest : List Char) :
    (c :: rest).foldl step ⟨.startRecord, [], [], rows⟩ =
      (c :: rest).foldl step ⟨.startField, [], [], rows⟩ := by
  rw [List.foldl_cons, List.foldl_cons]
  congr 1
  simp only [step, if_neg hc]
  unfold stepField saveField endRow add
  rfl

end Reader

theorem head_fieldText {field : Field} (hfield : field ≠ []) :
    ∃ c rest, fieldText field = c :: rest ∧ c ≠ '\n' := by
  unfold fieldText
  cases hquotes : needsQuotes field with
  | true => exact ⟨quotechar, _, rfl, by decide⟩
  | false =>
      cases field with
      | nil => exact absurd rfl hfield
      | cons c field =>
          exact ⟨c, field, rfl, (not_special hquotes (.head field)).2.2.2⟩

theorem head_fieldsText {row : Row} (hrow : row ≠ []) (hone : row ≠ [[]]) :
    ∃ c rest, fieldsText row = c :: rest ∧ c ≠ '\n' := by
  cases row with
  | nil => exact absurd rfl hrow
  | cons field row =>
      cases row with
      | nil => exact head_fieldText fun hfield => hone (by rw [hfield])
      | cons second row =>
          cases field with
          | nil => exact ⟨delimiter, _, rfl, by decide⟩
          | cons c field =>
              obtain ⟨first, rest, htext, hfirst⟩ :=
                head_fieldText (List.cons_ne_nil c field)
              have hfields : fieldsText ((c :: field) :: second :: row) =
                  first :: (rest ++ delimiter :: fieldsText (second :: row)) :=
                congrArg (· ++ delimiter :: fieldsText (second :: row)) htext
              exact ⟨first, _, hfields, hfirst⟩

/-- One row, with the line end that the writer gives it. -/
theorem foldl_writeRow (row : Row) (rows : List Row) (rest : List Char) :
    (translate false (writeRow row ++ rest)).foldl Reader.step
        ⟨.startRecord, [], [], rows⟩ =
      (translate false rest).foldl Reader.step
        ⟨.startRecord, [], [], rows ++ [row.map universalNewlines]⟩ := by
  have hend : ∀ rest, translate false ('\r' :: '\n' :: rest) =
      '\n' :: translate false rest := fun _ => rfl
  unfold writeRow
  by_cases hone : row = [[]]
  · subst hone
    rfl
  · rw [if_neg hone, List.append_assoc, translate_writeFields]
    change (fieldsText row ++
      translate false ('\r' :: '\n' :: rest)).foldl _ _ = _
    rw [hend]
    by_cases hrow : row = []
    · subst hrow
      rfl
    · obtain ⟨c, text, htext, hc⟩ := head_fieldsText hrow hone
      have hbegin : (fieldsText row ++ '\n' :: translate false rest).foldl
            Reader.step ⟨.startRecord, [], [], rows⟩ =
          (fieldsText row ++ '\n' :: translate false rest).foldl
            Reader.step ⟨.startField, [], [], rows⟩ := by
        rw [htext, List.cons_append]
        exact Reader.foldl_startRecord rows hc _
      rw [hbegin, Reader.foldl_fieldsText rfl rfl hrow]
      rfl

/-- What is written is read back, with its line ends as a text file has them. -/
theorem read_write (rows : List Row) :
    read (universalNewlines (write rows)) =
      rows.map (·.map universalNewlines) := by
  have hrows : ∀ before : List Row,
      (universalNewlines (write rows)).foldl Reader.step
          ⟨.startRecord, [], [], before⟩ =
        ⟨.startRecord, [], [],
          before ++ rows.map (·.map universalNewlines)⟩ := by
    induction rows with
    | nil =>
        intro before
        rw [List.map_nil, List.append_nil]
        rfl
    | cons row rows ih =>
        intro before
        unfold universalNewlines write at ih ⊢
        rw [List.flatMap_cons, foldl_writeRow, ih, List.map_cons,
          List.append_assoc]
        rfl
  unfold read
  rw [Reader.start, hrows []]
  rfl

end CsvFormat
