import Mathlib.Data.List.Basic

/-! Rows of comma-separated values. A field is quoted where it has to be, a quote in it is doubled, and a row ends in CR LF;
the reader takes a row back from any of the usual line ends. -/

set_option autoImplicit false

namespace Foundation.Csv

def comma : Char := ','
def quote : Char := '\x22'
def cr : Char := '\r'
def lf : Char := '\n'

abbrev Row : Type := List (List Char)

/-- A character that a field without quotes cannot have. -/
def special (c : Char) : Bool := c == comma || c == quote || c == cr || c == lf

def doubled (field : List Char) : List Char := field.flatMap fun c => if c == quote then [quote, quote] else [c]

def writeField (field : List Char) : List Char :=
  if field.any special then quote :: doubled field ++ [quote] else field

def writeFields : Row → List Char
  | [] => []
  | [field] => writeField field
  | field :: next :: rest => writeField field ++ comma :: writeFields (next :: rest)

/-- A row of one empty field would be an empty line, so that one is quoted. -/
def writeRow (row : Row) : List Char :=
  (if row = [[]] then [quote, quote] else writeFields row) ++ [cr, lf]

def writeRows (rows : List Row) : List Char := rows.flatMap writeRow

inductive Mode where
  | startRecord | startField | inField | inQuotedField | quoteInQuotedField | afterReturn
  deriving DecidableEq

structure Reader where
  rows : List Row
  row : Row
  field : List Char
  mode : Mode
  deriving DecidableEq

namespace Reader

def start (rows : List Row) : Reader := ⟨rows, [], [], .startRecord⟩

def add (reader : Reader) (c : Char) (mode : Mode) : Reader := { reader with field := reader.field ++ [c], mode }

def endField (reader : Reader) : Reader := { reader with row := reader.row ++ [reader.field], field := [], mode := .startField }

def endRow (reader : Reader) (mode : Mode) : Reader := ⟨reader.rows ++ [reader.row ++ [reader.field]], [], [], mode⟩

def plain (reader : Reader) (c : Char) : Reader :=
  if c = comma then reader.endField
  else if c = cr then reader.endRow .afterReturn
  else if c = lf then reader.endRow .startRecord
  else reader.add c .inField

def openField (reader : Reader) (c : Char) : Reader :=
  if c = quote then { reader with mode := .inQuotedField } else reader.plain c

/-- Empty lines are skipped. -/
def openRecord (reader : Reader) (c : Char) : Reader :=
  if c = cr then { reader with mode := .afterReturn }
  else if c = lf then { reader with mode := .startRecord }
  else reader.openField c

def step (reader : Reader) (c : Char) : Reader :=
  match reader.mode with
  | .startRecord | .afterReturn => reader.openRecord c
  | .startField => reader.openField c
  | .inField => reader.plain c
  | .inQuotedField => if c = quote then { reader with mode := .quoteInQuotedField } else reader.add c .inQuotedField
  | .quoteInQuotedField => if c = quote then reader.add c .inQuotedField else reader.plain c

def run (reader : Reader) (text : List Char) : Reader := text.foldl step reader

/-- At the end of the text; a quote is still open when there is no value. -/
def finish (reader : Reader) : Option (List Row) :=
  match reader.mode with
  | .startRecord | .afterReturn => some reader.rows
  | .inQuotedField => none
  | _ => some (reader.rows ++ [reader.row ++ [reader.field]])

end Reader

def read (text : List Char) : Option (List Row) := ((Reader.start []).run text).finish

section RoundTrip

open Reader

variable {reader : Reader} {field : List Char}

theorem run_cons (reader : Reader) (c : Char) (text : List Char) : reader.run (c :: text) = (reader.step c).run text := rfl

theorem run_append (reader : Reader) (first second : List Char) : reader.run (first ++ second) = (reader.run first).run second :=
  List.foldl_append ..

theorem special_eq_false {c : Char} : special c = false ↔ c ≠ comma ∧ c ≠ quote ∧ c ≠ cr ∧ c ≠ lf := by
  simp [special, and_assoc]

theorem plain_of_not_special {c : Char} (ordinary : special c = false) : reader.plain c = reader.add c .inField := by
  obtain ⟨no_comma, _, no_cr, no_lf⟩ := special_eq_false.mp ordinary
  rw [plain, if_neg no_comma, if_neg no_cr, if_neg no_lf]

def Closed (reader : Reader) : Prop := ∀ c, c ≠ quote → reader.step c = reader.plain c

/-- A field without quotes, from its second character on. -/
theorem run_inField (ordinary : ∀ c ∈ field, special c = false) (inside : reader.mode = .inField) :
    reader.run field = { reader with field := reader.field ++ field } := by
  induction field generalizing reader with
  | nil => rw [List.append_nil]; rfl
  | cons c rest ih =>
    have stepped : reader.step c = reader.add c .inField := by
      rw [step, inside]
      exact plain_of_not_special (ordinary c List.mem_cons_self)
    rw [run_cons, stepped, ih (fun other member => ordinary other (List.mem_cons_of_mem _ member)) rfl, add, ← inside]
    simp

theorem run_doubled (inside : reader.mode = .inQuotedField) :
    reader.run (doubled field) = { reader with field := reader.field ++ field } := by
  induction field generalizing reader with
  | nil => rw [List.append_nil]; rfl
  | cons c rest ih =>
    have taken : reader.run (if c == quote then [quote, quote] else [c]) = reader.add c .inQuotedField := by
      by_cases quoted : c = quote
      · subst quoted
        simp [step, inside, add, run]
      · simp [quoted, step, inside, run]
    rw [doubled, List.flatMap_cons, run_append, taken, ← doubled, ih rfl, add, ← inside]
    simp

theorem run_writeField (starts : reader.mode = .startField) (empty : reader.field = []) :
    ∃ mode, reader.run (writeField field) = { reader with field, mode } ∧ Closed { reader with field, mode } := by
  rw [writeField]
  split
  · -- After the last quote another one would go on with the field, so what follows must be none.
    rename_i quoted
    refine ⟨.quoteInQuotedField, ?_, fun c other => by rw [step]; exact if_neg other⟩
    have opened : reader.step quote = { reader with mode := .inQuotedField } := by
      rw [step, starts]
      exact if_pos rfl
    rw [List.cons_append, run_cons, opened, run_append, run_doubled rfl]
    simp [run, step, empty]
  · rename_i unquoted
    have ordinary : ∀ c ∈ field, special c = false := by simpa using unquoted
    cases field with
    | nil =>
      refine ⟨.startField, ?_, fun c other => by rw [step]; exact if_neg other⟩
      exact (congrArg (fun text => ({ reader with field := text } : Reader)) empty).trans (congrArg _ starts)
    | cons c rest =>
      refine ⟨.inField, ?_, fun c other => by rw [step]⟩
      have first := ordinary c List.mem_cons_self
      have opened : reader.step c = reader.add c .inField := by
        rw [step, starts]
        exact (if_neg (special_eq_false.mp first).2.1).trans (plain_of_not_special first)
      rw [run_cons, opened, run_inField (fun other member => ordinary other (List.mem_cons_of_mem _ member)) rfl, add, empty]
      rfl

theorem run_writeFields {row : Row} (some_field : row ≠ []) (starts : reader.mode = .startField) (empty : reader.field = []) :
    reader.run (writeFields row ++ [cr, lf]) = .start (reader.rows ++ [reader.row ++ row]) := by
  induction row generalizing reader with
  | nil => exact absurd rfl some_field
  | cons field rest ih =>
    obtain ⟨mode, ran, closed⟩ := @run_writeField reader field starts empty
    cases rest with
    | nil =>
      rw [writeFields, run_append, ran, run_cons, closed cr (by decide)]
      rfl
    | cons next others =>
      have ended : ({ reader with field, mode } : Reader).plain comma =
          { reader with row := reader.row ++ [field], field := [], mode := .startField } := rfl
      rw [writeFields, List.append_assoc, run_append, ran, List.cons_append, run_cons, closed comma (by decide), ended]
      rw [ih (List.cons_ne_nil _ _) rfl rfl]
      simp

theorem run_start {rows : List Row} {c : Char} (no_cr : c ≠ cr) (no_lf : c ≠ lf) (text : List Char) :
    (start rows).run (c :: text) = ({ start rows with mode := .startField } : Reader).run (c :: text) := by
  have same : (start rows).step c = ({ start rows with mode := .startField } : Reader).step c := by
    show (start rows).openRecord c = _
    rw [openRecord, if_neg no_cr, if_neg no_lf]
    rfl
  rw [run_cons, run_cons, same]

theorem writeFields_head {row : Row} (some_field : row ≠ []) (some_text : row ≠ [[]]) :
    ∃ c text, writeFields row = c :: text ∧ c ≠ cr ∧ c ≠ lf := by
  have of_field {field : List Char} (nonempty : field ≠ []) : ∃ c text, writeField field = c :: text ∧ c ≠ cr ∧ c ≠ lf := by
    rw [writeField]
    split
    · exact ⟨quote, _, rfl, by decide, by decide⟩
    · rename_i unquoted
      obtain ⟨c, rest, rfl⟩ := List.exists_cons_of_ne_nil nonempty
      have ordinary : special c = false := by
        simpa using fun marked => unquoted (List.any_eq_true.mpr ⟨c, List.mem_cons_self, marked⟩)
      exact ⟨c, rest, rfl, (special_eq_false.mp ordinary).2.2⟩
  rcases row with _ | ⟨field, _ | ⟨next, others⟩⟩
  · exact absurd rfl some_field
  · refine of_field fun empty => some_text ?_
    rw [empty]
  · cases field with
    | nil => exact ⟨comma, _, rfl, by decide, by decide⟩
    | cons d rest =>
      obtain ⟨c, text, written, first⟩ := of_field (List.cons_ne_nil d rest)
      exact ⟨c, text ++ comma :: writeFields (next :: others), by rw [writeFields, written]; rfl, first⟩

theorem run_writeRow {rows : List Row} {row : Row} (some_field : row ≠ []) :
    (start rows).run (writeRow row) = start (rows ++ [row]) := by
  rw [writeRow]
  split
  · rename_i only
    rw [only]
    rfl
  · rename_i some_text
    obtain ⟨c, text, written, no_cr, no_lf⟩ := writeFields_head some_field some_text
    rw [written, List.cons_append, run_start no_cr no_lf, ← List.cons_append, ← written]
    exact run_writeFields some_field rfl rfl

theorem run_writeRows {rows : List Row} (some_fields : ∀ row ∈ rows, row ≠ []) (before : List Row) :
    (start before).run (writeRows rows) = start (before ++ rows) := by
  induction rows generalizing before with
  | nil => rw [List.append_nil]; rfl
  | cons row rest ih =>
    rw [writeRows, List.flatMap_cons, run_append, run_writeRow (some_fields row List.mem_cons_self), ← writeRows]
    rw [ih (fun other member => some_fields other (List.mem_cons_of_mem _ member)), List.append_assoc]
    rfl

theorem read_writeRows {rows : List Row} (some_fields : ∀ row ∈ rows, row ≠ []) : read (writeRows rows) = some rows := by
  rw [read, run_writeRows some_fields]
  rfl

end RoundTrip

end Foundation.Csv
