import Rustasea.Excel.Cells
import Rustasea.Library.Utf8

namespace Rustasea.Excel

open List

/-!
# Files of records

A CSV file holds records of fields.  How fields are quoted is left to the
library that writes and reads such files; here is what is asked of it, and a
format that does it.
-/

inductive ExcelError where
  | parse (row : Nat) (message : String)
  | serialization (message : String)
  | invalidChunkSize (size : Nat)
  | csv (message : String)
  deriving DecidableEq

abbrev Bytes := List UInt8

/-- Writing records of fields to a file, and reading them from it. -/
structure Csv where
  write : List (List Text) → Except ExcelError Bytes
  read : Bytes → List (Except ExcelError (List Text))

def bom : Char := '\uFEFF'

/-- Records of one width are read as they were written, but for a mark. -/
def Csv.Documented (csv : Csv) : Prop :=
  ∀ (width : Nat) (first : Text) (others : List Text) (records : List (List Text)),
    (∀ record ∈ (first :: others) :: records, record.length = width) → first.head? ≠ some bom →
        ∃ bytes, csv.write ((first :: others) :: records) = .ok bytes ∧
            csv.read bytes = ((first :: others) :: records).map .ok

/-! ## Quoting -/

def isLineEnd (char : Char) : Bool := char = '\n' ∨ char = '\r'

/-- Characters that end an unquoted field, or would be taken for quotes. -/
def isSpecial (char : Char) : Bool := char = ',' ∨ char = '"' ∨ isLineEnd char

def doubled (field : Text) : Text :=
  field.flatMap fun char => if char = '"' then ['"', '"'] else [char]

def quote (field : Text) : Text := '"' :: doubled field ++ ['"']

def writeField (field : Text) : Text :=
  if field.any isSpecial then quote field
  else field

@[grind =] def writeFields : List Text → Text
  | [] => ['\n']
  | [field] => writeField field ++ ['\n']
  | field :: rest => writeField field ++ ',' :: writeFields rest

def writeRecord (record : List Text) : Text :=
  if record = [[]] then quote [] ++ ['\n']
  else writeFields record

/-! ## Reading -/

/-- Where a reader is; `closed` is after a quote within quotes. -/
inductive Position where
  | recordStart
  | fieldStart
  | unquoted
  | quoted
  | closed
  deriving DecidableEq

/-- What was read of a field, of a record, and of the file. -/
structure Reader where
  position : Position
  field : Text
  record : List Text
  records : List (List Text)

namespace Reader

def start : Reader :=
  { position := .recordStart, field := [], record := [], records := [] }

def endField (reader : Reader) : Reader :=
  { reader with position := .fieldStart, field := [], record := reader.record ++ [reader.field] }

def endRecord (reader : Reader) : Reader :=
  { position := .recordStart
    field := []
    record := []
    records := reader.records ++ [reader.record ++ [reader.field]] }

def readPlain (reader : Reader) (char : Char) : Reader :=
  if char = ',' then reader.endField
  else if isLineEnd char then reader.endRecord
  else { reader with position := .unquoted, field := reader.field ++ [char] }

def readFirst (reader : Reader) (char : Char) : Reader :=
  if char = '"' then { reader with position := .quoted }
  else reader.readPlain char

@[grind =] def step (reader : Reader) (char : Char) : Reader :=
  match reader.position with
  | .recordStart =>
    if isLineEnd char then reader
    else reader.readFirst char
  | .fieldStart => reader.readFirst char
  | .unquoted => reader.readPlain char
  | .quoted =>
    if char = '"' then { reader with position := .closed }
    else { reader with field := reader.field ++ [char] }
  | .closed =>
    if char = '"' then { reader with position := .quoted, field := reader.field ++ ['"'] }
    else reader.readPlain char

/-- The records of a file; the last line may be left open. -/
def finish (reader : Reader) : List (List Text) :=
  if reader.position = .recordStart then reader.records
  else reader.endRecord.records

end Reader

/-- Lines of fields between commas, with quotes where they are needed. -/
@[grind =] def plainCsv : Csv :=
  { write := fun records =>
      .ok ((records.flatMap writeRecord).flatMap String.utf8EncodeChar)
    read := fun bytes =>
      match Utf8.decode bytes with
      | some text => (text.foldl Reader.step .start).finish.map .ok
      | none => [.error (.csv "invalid UTF-8")] }

/-! ## What is written is read -/

namespace Reader

def AtStart (reader : Reader) : Prop :=
  (reader.position = .recordStart ∨ reader.position = .fieldStart) ∧ reader.field = []

def AtEnd (reader : Reader) : Prop := reader.position = .unquoted ∨ reader.position = .closed

variable {reader : Reader} {char : Char}

theorem readPlain_of_not_special (plain : isSpecial char = false) :
    reader.readPlain char =
      { reader with position := .unquoted, field := reader.field ++ [char] } := by
  simp only [isSpecial, decide_eq_false_iff_not, not_or] at plain
  rw [readPlain, if_neg plain.1, if_neg plain.2.2]

theorem foldl_step_unquoted {text : Text} (plain : text.any isSpecial = false)
    (isUnquoted : reader.position = .unquoted) :
    text.foldl step reader = { reader with field := reader.field ++ text } := by
  induction text generalizing reader with
  | nil =>
    rw [append_nil]
    rfl
  | cons char rest ih =>
    rw [any_cons, Bool.or_eq_false_iff] at plain
    have stepped : reader.step char =
          { reader with
            position := .unquoted, field := reader.field ++ [char] } := by
      rw [step, isUnquoted]
      exact readPlain_of_not_special plain.1
    rw [foldl_cons, stepped, ih plain.2 rfl, append_assoc, ← isUnquoted]
    rfl

theorem foldl_step_doubled (text : Text) (isQuoted : reader.position = .quoted) :
    (doubled text).foldl step reader = { reader with field := reader.field ++ text } := by
  induction text generalizing reader with
  | nil =>
    rw [append_nil]
    rfl
  | cons char rest ih =>
    have stepped : (if char = '"' then ['"', '"'] else [char]).foldl step reader =
        { reader with field := reader.field ++ [char] } := by
      obtain ⟨position, field, record, records⟩ := reader
      obtain rfl : position = .quoted := isQuoted
      by_cases isQuote : char = '"'
      · subst char
        rfl
      · rw [if_neg isQuote, foldl_cons]
        exact if_neg isQuote
    rw [doubled, flatMap_cons, foldl_append, stepped]
    have later := @ih
        { reader with field := reader.field ++ [char] } isQuoted
    rw [append_assoc] at later
    exact later

variable {field : Text}

theorem foldl_step_writeField (isSome : field ≠ []) (atStart : reader.AtStart) :
    ∃ position, (position = .unquoted ∨ position = .closed) ∧
      (writeField field).foldl step reader =
        { reader with position := position, field := field } := by
  obtain ⟨position, held, record, records⟩ := reader
  obtain ⟨isStart, rfl⟩ : _ ∧ held = [] := atStart
  have first (char : Char)
      (isNoEnd : isLineEnd char = false) : step ⟨position, [], record, records⟩ char =
        readFirst ⟨position, [], record, records⟩ char := by
    rcases isStart with rfl | rfl
    · simp [step, isNoEnd]
    · rfl
  unfold writeField
  split
  · refine ⟨.closed, .inr rfl, ?_⟩
    rw [quote, cons_append, foldl_cons, foldl_append, first _ rfl, readFirst,
      foldl_step_doubled _ rfl]
    rfl
  · next isPlain =>
    refine ⟨.unquoted, .inl rfl, ?_⟩
    obtain ⟨char, rest, rfl⟩ := exists_cons_of_ne_nil isSome
    rw [Bool.not_eq_true, any_cons, Bool.or_eq_false_iff] at isPlain
    have plain := isPlain.1
    simp only [isSpecial, decide_eq_false_iff_not, not_or, Bool.not_eq_true] at plain
    rw [foldl_cons, first _ plain.2.2, readFirst, if_neg plain.2.1,
      readPlain_of_not_special isPlain.1, foldl_step_unquoted isPlain.2 rfl]
    rfl

theorem step_of_atEnd (atEnd : reader.AtEnd) (noQuote : char ≠ '"') :
    reader.step char = reader.readPlain char := by
  unfold step
  rcases atEnd with isEnd | isEnd
  · rw [isEnd]
  · rw [isEnd]
    exact if_neg noQuote

theorem step_comma (field : Text) (atStart : reader.AtStart) :
    ((writeField field).foldl step reader).step ',' = { reader with field := field }.endField := by
  by_cases isSome : field = []
  · subst field
    obtain ⟨position, held, record, records⟩ := reader
    obtain ⟨isStart, rfl⟩ : _ ∧ held = [] := atStart
    rcases isStart with rfl | rfl <;> rfl
  · obtain ⟨position, isEnd, read⟩ := foldl_step_writeField isSome atStart
    have atEnd : { reader with position := position, field := field }.AtEnd := isEnd
    rw [read, step_of_atEnd atEnd (by decide)]
    rfl

theorem step_lineEnd (atStart : reader.AtStart)
    (notBlank : reader.position = .fieldStart ∨ field ≠ []) :
    ((writeField field).foldl step reader).step '\n' =
      { reader with field := field }.endRecord := by
  by_cases isSome : field = []
  · subst field
    obtain ⟨position, held, record, records⟩ := reader
    obtain ⟨-, rfl⟩ : _ ∧ held = [] := atStart
    obtain rfl : position = .fieldStart := notBlank.resolve_right (· rfl)
    rfl
  · obtain ⟨position, isEnd, read⟩ := foldl_step_writeField isSome atStart
    have atEnd : { reader with position := position, field := field }.AtEnd := isEnd
    rw [read, step_of_atEnd atEnd (by decide)]
    rfl

theorem foldl_step_writeFields {fields : List Text} (isSome : fields ≠ [])
    (atStart : reader.AtStart) (notBlank : reader.position = .fieldStart ∨ fields ≠ [[]]) :
    (writeFields fields).foldl step reader =
      { start with records := reader.records ++ [reader.record ++ fields] } := by
  induction fields generalizing reader with
  | nil => exact absurd rfl isSome
  | cons field rest ih =>
    cases rest with
    | nil =>
      have notEmpty : reader.position = .fieldStart ∨ field ≠ [] :=
        notBlank.imp_right (mt (congrArg (fun field => [field])))
      rw [writeFields, foldl_append, foldl_cons, step_lineEnd atStart notEmpty]
      rfl
    | cons next others =>
      have nextStart : { reader with field := field }.endField.AtStart := ⟨.inr rfl, rfl⟩
      rw [writeFields, foldl_append, foldl_cons, step_comma field atStart,
        ih (cons_ne_nil _ _) nextStart (.inl rfl)]
      · simp [endField]
      · exact cons_ne_nil _ _

theorem foldl_step_writeRecord
    {record : List Text} (isSome : record ≠ []) (records : List (List Text)) :
    (writeRecord record).foldl step { start with records := records } =
      { start with records := records ++ [record] } := by
  unfold writeRecord
  split
  · next isBlank =>
    subst record
    rfl
  · next notBlank => exact foldl_step_writeFields isSome ⟨.inl rfl, rfl⟩ (.inr notBlank)

theorem foldl_step_flatMap {written : List (List Text)} (isSome : ∀ record ∈ written, record ≠ [])
    (records : List (List Text)) :
    (written.flatMap writeRecord).foldl step { start with records := records } =
      { start with records := records ++ written } := by
  induction written generalizing records with
  | nil =>
    rw [append_nil]
    rfl
  | cons record rest ih =>
    rw [forall_mem_cons] at isSome
    rw [flatMap_cons, foldl_append, foldl_step_writeRecord isSome.1, ih isSome.2,
      append_assoc]
    rfl

end Reader

theorem plainCsv_documented : plainCsv.Documented := by
  intro width first others records sameWidth _
  refine ⟨_, rfl, ?_⟩
  have isSome : ∀ record ∈ (first :: others) :: records, record ≠ [] := by
    rintro _ isRecord rfl
    have header := sameWidth _ mem_cons_self
    rw [← sameWidth _ isRecord] at header
    cases header
  have read := Reader.foldl_step_flatMap isSome []
  simp only [plainCsv, Utf8.decode_flatMap_utf8EncodeChar]
  rw [show Reader.start = { Reader.start with records := [] } from rfl, read]
  rfl

end Rustasea.Excel
