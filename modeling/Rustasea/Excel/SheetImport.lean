import Rustasea.Excel.CsvRoundTrip

namespace Rustasea.Excel

open List

/-!
# Importing a sheet

Rows are checked by rules and deserialized.  Those that pass are handed out in
chunks, and the errors of the others bear the place of their row among the rows
that the reader delivers, which is its number in the file when the reader skips
no row in front of it.  A row's object holds all of its cells when no two
columns have one name.
-/

variable {floats : Floats} {Target : Type}

/-! ## Checking a row -/

structure ValidationError where
  code : Text
  message : Text
  deriving DecidableEq

abbrev ErrorBag := List (Text × List ValidationError)

def validationErrors (physicalRow : Nat) (bag : ErrorBag) : List RowError :=
  bag.flatMap fun field =>
    field.2.map fun error =>
      { row := physicalRow, field := some field.1, code := error.code, message := error.message }

/-- The name of a missing field, if an error is about one, and a code. -/
def parseMissingField (message : Text) : Option Text × Text :=
  let start := "missing field `".toList
  if start <+: message ∧ '\x60' ∈ message.drop start.length then
    (some ((message.drop start.length).takeWhile (· ≠ '\x60')), "missing_field".toList)
  else (none, "type_mismatch".toList)

def deserializeError (physicalRow : Nat) (message : Text) : RowError :=
  let classified := parseMissingField message
  { row := physicalRow, field := classified.1, code := classified.2, message := message }

/-- The rules of an import, and how its rows are deserialized. -/
structure RowChecks (floats : Floats) (Target : Type) where
  rules : Option (Object floats → Except ErrorBag Unit)
  fromValue : Object floats → Except Text Target

@[grind =]
def RowChecks.acceptRow (checks : RowChecks floats Target) (physicalRow : Nat)
    (object : Object floats) : Except (List RowError) Target :=
  match (checks.rules.map fun validate => validate object).getD (.ok ()) with
  | .error bag => .error (validationErrors physicalRow bag)
  | .ok () =>
    match checks.fromValue object with
    | .ok value => .ok value
    | .error message => .error [deserializeError physicalRow message]

def ImportBuilder.runSheet (builder : ImportBuilder floats Target)
    (sheet : List (Except ExcelError (List (Value floats)))) :
    Except ExcelError (ImportState Target) := do
  if builder.chunkSize = 0 then throw (.invalidChunkSize 0)
  let (header, rows) ← builder.resolveHeader sheet
  builder.importRows header .new rows

/-! ## What an import is to do -/

abbrev SheetRow (floats : Floats) := List (Value floats) × Nat

namespace ImportBuilder

variable (builder : ImportBuilder floats Target)

/-- The rows behind the header, with their places among the delivered ones. -/
def dataRows (sheet : List (List (Value floats))) : List (SheetRow floats) :=
  (sheet.zipIdx 1).drop (if builder.hasHeaders then 1 else 0)

@[grind =] def headerOf (sheet : List (List (Value floats))) : List Text :=
  match builder.columns with
  | some columns => columns
  | none => if builder.hasHeaders then (sheet.head?.getD []).mapIdx cellToHeader else []

def accepted (header : List Text) (row : SheetRow floats) : Option Target :=
  (builder.accept row.2 (rowObject header row.1)).toOption

@[grind =]
def rejections (header : List Text) (row : SheetRow floats) : List RowError :=
  match builder.accept row.2 (rowObject header row.1) with
  | .ok _ => []
  | .error errors => errors

end ImportBuilder

def columnsOf (header : List Text) (cells : List (Value floats)) : List (Text × Value floats) :=
  cells.zipIdx.map fun cell => (header[cell.2]?.getD (columnName cell.2), cell.1)

structure Reports (builder : ImportBuilder floats Target) (sheet : List (List (Value floats)))
    (report : ImportState Target) : Prop where
  counted : report.total = report.imported + report.failed
  handed : report.chunks.flatten =
      (builder.dataRows sheet).filterMap (builder.accepted (builder.headerOf sheet))
  whole : ∀ chunk ∈ report.chunks.dropLast, chunk.length = builder.chunkSize
  errors : report.errors =
      (builder.dataRows sheet).flatMap (builder.rejections (builder.headerOf sheet))

/-- The object of an accepted row holds each cell under the name of its column. -/
def KeepsColumns (builder : ImportBuilder floats Target)
    (sheet : List (List (Value floats))) : Prop :=
  ∀ row ∈ builder.dataRows sheet, (builder.accepted (builder.headerOf sheet) row).isSome →
      (rowObject (builder.headerOf sheet) row.1).entries = columnsOf (builder.headerOf sheet) row.1

/-! ## The rows of the file -/

/--
The rows of a file, as a spreadsheet counts them.  The reader skips some of them:
blank lines of a CSV file, and the empty rows that lead a worksheet.
-/
abbrev FileRows (floats : Floats) := List (Option (List (Value floats)))

/-- The delivered rows, each with its place among these and its number in the file. -/
def FileRows.from (place number : Nat) : FileRows floats → List (List (Value floats) × Nat × Nat)
  | [] => []
  | none :: rest => FileRows.from place (number + 1) rest
  | some cells :: rest => (cells, place, number) :: FileRows.from (place + 1) (number + 1) rest

def FileRows.delivered (file : FileRows floats) : List (List (Value floats)) := file.reduceOption

/-- The rows behind the header row, with their places and their numbers. -/
def ImportBuilder.fileRows (builder : ImportBuilder floats Target) (file : FileRows floats) :
    List (List (Value floats) × Nat × Nat) :=
  (file.from 1 1).drop (if builder.hasHeaders then 1 else 0)

/-- The reported errors are those of the rows, each with the number of its row in the file. -/
def NumbersRows (builder : ImportBuilder floats Target) (file : FileRows floats)
    (report : ImportState Target) : Prop :=
  report.errors = (builder.fileRows file).flatMap fun row =>
    builder.rejections (builder.headerOf file.delivered) (row.1, row.2.2)

variable {builder : ImportBuilder floats Target}

/-! ## Columns -/

variable (header : List Text)

theorem rowObject_eq_foldl_columnsOf (cells : List (Value floats)) :
    rowObject header cells =
      (columnsOf header cells).foldl (fun object pair => object.insert pair.1 pair.2) .empty := by
  rw [columnsOf, foldl_map, rowObject]

theorem entries_rowObject_iff (cells : List (Value floats)) :
    (rowObject header cells).entries = columnsOf header cells ↔
      ((columnsOf header cells).map Prod.fst).Nodup := by
  constructor
  · intro kept
    rw [← kept]
    exact (rowObject header cells).distinct
  · intro distinct
    rw [rowObject_eq_foldl_columnsOf]
    exact OrderedMap.entries_foldl_insert distinct

/-! ## Errors -/

theorem row_of_mem_validationErrors {physicalRow : Nat} {bag : ErrorBag} {error : RowError}
    (isError : error ∈ validationErrors physicalRow bag) : error.row = physicalRow := by
  obtain ⟨field, -, isField⟩ := mem_flatMap.mp isError
  obtain ⟨found, -, rfl⟩ := mem_map.mp isField
  rfl

theorem validationErrors_renumber (place number : Nat) (bag : ErrorBag) :
    validationErrors number bag =
      (validationErrors place bag).map fun error => { error with row := number } := by
  simp [validationErrors, map_flatMap, Function.comp_def]

variable {checks : RowChecks floats Target}

theorem row_of_acceptRow {physicalRow : Nat} {object : Object floats} {errors : List RowError}
    (rejected : checks.acceptRow physicalRow object = .error errors) :
    ∀ error ∈ errors, error.row = physicalRow := by
  unfold RowChecks.acceptRow at rejected
  split at rejected
  · cases rejected
    exact fun _ => row_of_mem_validationErrors
  · split at rejected
    · cases rejected
    · cases rejected
      intro error isError
      rw [mem_singleton.mp isError, deserializeError]

theorem row_of_mem_rejections (isAccept : builder.accept = checks.acceptRow)
    (row : SheetRow floats) : ∀ error ∈ builder.rejections header row, error.row = row.2 := by
  unfold ImportBuilder.rejections
  rw [isAccept]
  split
  · exact fun _ isError => nomatch isError
  · next rejected => exact row_of_acceptRow rejected

theorem rejections_renumber (isAccept : builder.accept = checks.acceptRow)
    (cells : List (Value floats)) (place number : Nat) :
    builder.rejections header (cells, number) =
      (builder.rejections header (cells, place)).map fun error => { error with row := number } := by
  simp only [ImportBuilder.rejections, isAccept, RowChecks.acceptRow]
  cases (checks.rules.map fun validate => validate (rowObject header cells)).getD (.ok ()) with
  | error bag => exact validationErrors_renumber place number bag
  | ok _ =>
    cases checks.fromValue (rowObject header cells) with
    | ok value => rfl
    | error message => rfl

/-- The places serve as numbers exactly when each row with an error has its own number. -/
theorem flatMap_rejections_iff (isAccept : builder.accept = checks.acceptRow)
    (rows : List (List (Value floats) × Nat × Nat)) :
    (rows.flatMap fun row => builder.rejections header (row.1, row.2.1)) =
        (rows.flatMap fun row => builder.rejections header (row.1, row.2.2)) ↔
      ∀ row ∈ rows, builder.rejections header (row.1, row.2.1) ≠ [] → row.2.1 = row.2.2 := by
  have own : ∀ row : List (Value floats) × Nat × Nat,
      builder.rejections header (row.1, row.2.1) = builder.rejections header (row.1, row.2.2) ↔
        (builder.rejections header (row.1, row.2.1) ≠ [] → row.2.1 = row.2.2) := by
    rintro ⟨cells, place, number⟩
    constructor
    · intro same someError
      obtain ⟨error, isError⟩ := exists_mem_of_ne_nil _ someError
      have atPlace := row_of_mem_rejections header isAccept _ error isError
      rw [same] at isError
      exact atPlace.symm.trans (row_of_mem_rejections header isAccept _ error isError)
    · intro sameNumber
      by_cases noError : builder.rejections header (cells, place) = []
      · rw [rejections_renumber header isAccept cells place number, noError, map_nil]
      · rw [show place = number from sameNumber noError]
  induction rows with
  | nil => simp
  | cons row rest ih =>
    have sameLength : (builder.rejections header (row.1, row.2.1)).length =
        (builder.rejections header (row.1, row.2.2)).length := by
      rw [rejections_renumber header isAccept row.1 row.2.1 row.2.2, length_map]
    rw [flatMap_cons, flatMap_cons, forall_mem_cons, ← own row]
    constructor
    · intro same
      obtain ⟨sameFirst, sameRest⟩ := append_inj same sameLength
      exact ⟨sameFirst, ih.mp sameRest⟩
    · rintro ⟨sameFirst, numbered⟩
      rw [sameFirst, ih.mpr numbered]

theorem map_place_from (place number : Nat) (file : FileRows floats) :
    (file.from place number).map (fun row => (row.1, row.2.1)) = file.delivered.zipIdx place := by
  induction file generalizing place number with
  | nil => rfl
  | cons row rest ih =>
    cases row with
    | none => exact ih place (number + 1)
    | some cells =>
      rw [FileRows.from, map_cons, ih]
      rfl

theorem map_place_fileRows (builder : ImportBuilder floats Target) (file : FileRows floats) :
    (builder.fileRows file).map (fun row => (row.1, row.2.1)) =
      builder.dataRows file.delivered := by
  rw [ImportBuilder.fileRows, map_drop, map_place_from]
  rfl

/-! ## Rows, one after another -/

def ImportBuilder.rowNumber (builder : ImportBuilder floats Target) (rows : Nat) : Nat :=
  rows + 1 + if builder.hasHeaders then 1 else 0

/-- What an import has done with the rows so far. -/
structure Processed (builder : ImportBuilder floats Target) (header : List Text)
    (rows : List (SheetRow floats)) (state : ImportState Target) : Prop where
  total : state.total = rows.length
  counted : state.total = state.imported + state.failed
  handed : state.values = rows.filterMap (builder.accepted header)
  errors : state.errors = rows.flatMap (builder.rejections header)
  whole : ∀ chunk ∈ state.chunks, chunk.length = builder.chunkSize
  buffered : state.buffer.length < builder.chunkSize

namespace Processed

variable {header : List Text} {rows : List (SheetRow floats)} {state : ImportState Target}

theorem ofNew (header : List Text) (isPositive : 0 < builder.chunkSize) :
    Processed builder header [] .new :=
  { total := rfl
    counted := rfl
    handed := rfl
    errors := rfl
    whole := fun _ isChunk => nomatch isChunk
    buffered := isPositive }

theorem acceptedRow (processed : Processed builder header rows state)
    (row : SheetRow floats) {value : Target}
    (outcome : builder.accept row.2 (rowObject header row.1) = .ok value) :
    let accepted : ImportState Target :=
      { state with
        total := state.total + 1
        imported := state.imported + 1
        buffer := state.buffer ++ [value] }
    Processed builder header (rows ++ [row])
      (if builder.chunkSize ≤ accepted.buffer.length then accepted.flush else accepted) := by
  intro accepted
  have isAccepted : builder.accepted header row = some value := by
    rw [ImportBuilder.accepted, outcome, Except.toOption]
  have notRejected : builder.rejections header row = [] := by
    simp only [ImportBuilder.rejections, outcome]
  have total : accepted.total = (rows ++ [row]).length := by simp [accepted, processed.total]
  have counted : accepted.total = accepted.imported + accepted.failed := by
    have counted := processed.counted
    simp only [accepted]
    omega
  have handed : accepted.values = (rows ++ [row]).filterMap (builder.accepted header) := by
    rw [filterMap_append, ← processed.handed]
    simp [isAccepted, accepted, ImportState.values]
  have errors : accepted.errors = (rows ++ [row]).flatMap (builder.rejections header) := by
    rw [flatMap_append, ← processed.errors]
    simp [notRejected, accepted]
  have length : accepted.buffer.length = state.buffer.length + 1 := by simp [accepted]
  have buffered := processed.buffered
  split
  · next isFull =>
    have flushed : accepted.flush =
        { accepted with buffer := [], chunks := state.chunks ++ [accepted.buffer] } :=
      if_neg (ne_nil_of_length_pos (by omega))
    have values := accepted.values_flush
    rw [flushed] at values ⊢
    refine
      { total := total
        counted := counted
        handed := values.trans handed
        errors := errors
        whole := ?_
        buffered := Nat.lt_of_le_of_lt (Nat.zero_le _) buffered }
    intro chunk isChunk
    rcases mem_append.mp isChunk with isOld | isNew
    · exact processed.whole chunk isOld
    · rw [mem_singleton.mp isNew]
      omega
  · next isOpen =>
    exact
      { total := total
        counted := counted
        handed := handed
        errors := errors
        whole := processed.whole
        buffered := Nat.not_le.mp isOpen }

theorem rejectedRow (processed : Processed builder header rows state)
    (row : SheetRow floats) {errors : List RowError}
    (outcome : builder.accept row.2 (rowObject header row.1) = .error errors) :
    Processed builder header (rows ++ [row])
      { state with
        total := state.total + 1
        failed := state.failed + 1
        errors := state.errors ++ errors } := by
  have notAccepted : builder.accepted header row = none := by
    rw [ImportBuilder.accepted, outcome, Except.toOption]
  have isRejected : builder.rejections header row = errors := by
    simp [ImportBuilder.rejections, outcome]
  have counted := processed.counted
  exact
    { total := by simp [processed.total]
      counted := by
        simp only
        omega
      handed := by
        rw [filterMap_append, ← processed.handed]
        simp [notAccepted, ImportState.values]
      errors := by
        rw [flatMap_append, ← processed.errors]
        simp [isRejected]
      whole := processed.whole
      buffered := processed.buffered }

theorem importRow (processed : Processed builder header rows state) (cells : List (Value floats)) :
    Processed builder header (rows ++ [(cells, builder.rowNumber rows.length)])
      (builder.importRow header state cells) := by
  have number :
      (state.total + 1 + if builder.hasHeaders then 1 else 0) = builder.rowNumber rows.length := by
    rw [processed.total, ImportBuilder.rowNumber]
  simp only [ImportBuilder.importRow, number]
  split
  · next value outcome => exact processed.acceptedRow (cells, _) outcome
  · next errors outcome => exact processed.rejectedRow (cells, _) outcome

theorem importRows (processed : Processed builder header rows state)
    (rest : List (List (Value floats))) :
    ∃ last, builder.importRows header state (rest.map .ok) = .ok last.flush ∧
      Processed builder header (rows ++ rest.zipIdx (builder.rowNumber rows.length)) last := by
  induction rest generalizing rows state with
  | nil => exact ⟨state, rfl, by simpa using processed⟩
  | cons cells rest ih =>
    obtain ⟨last, isLast, isProcessed⟩ := ih (processed.importRow cells)
    have number : builder.rowNumber (rows ++ [(cells, builder.rowNumber rows.length)]).length =
        builder.rowNumber rows.length + 1 := by
      simp only [ImportBuilder.rowNumber, length_append, length_singleton]
      omega
    refine ⟨last, isLast, ?_⟩
    rwa [number, append_assoc, singleton_append] at isProcessed

end Processed

/-! ## The whole sheet -/

variable {sheet : List (List (Value floats))}

theorem resolveHeader_map_ok (isHeaded : builder.columns = none → builder.hasHeaders → sheet ≠ []) :
    builder.resolveHeader (sheet.map .ok) =
      .ok (builder.headerOf sheet, (if builder.hasHeaders then sheet.tail else sheet).map .ok) := by
  unfold ImportBuilder.resolveHeader ImportBuilder.headerOf
  cases isSet : builder.columns with
  | some columns => by_cases headed : builder.hasHeaders <;> simp [headed]
  | none =>
    by_cases headed : builder.hasHeaders
    · obtain ⟨first, rest, rfl⟩ := exists_cons_of_ne_nil (isHeaded isSet headed)
      simp [headed]
    · simp [headed]

theorem dataRows_eq_zipIdx (builder : ImportBuilder floats Target)
    (sheet : List (List (Value floats))) :
    builder.dataRows sheet =
      (if builder.hasHeaders then sheet.tail else sheet).zipIdx (builder.rowNumber 0) := by
  unfold ImportBuilder.dataRows ImportBuilder.rowNumber
  by_cases headed : builder.hasHeaders
  · cases sheet <;> simp [headed]
  · simp [headed]

theorem runSheet_reports (builder : ImportBuilder floats Target)
    (isPositive : 0 < builder.chunkSize)
    (isHeaded : builder.columns = none → builder.hasHeaders → sheet ≠ []) :
    ∃ report, builder.runSheet (sheet.map .ok) = .ok report ∧ Reports builder sheet report := by
  obtain ⟨last, isRun, processed⟩ :=
    (Processed.ofNew (builder.headerOf sheet) isPositive).importRows
      (if builder.hasHeaders then sheet.tail else sheet)
  rw [length_nil, ← dataRows_eq_zipIdx] at processed
  refine ⟨last.flush, ?_, ?_⟩
  · rw [ImportBuilder.runSheet, if_neg (Nat.ne_of_gt isPositive), resolveHeader_map_ok isHeaded]
    exact isRun
  · have values := last.values_flush
    rw [ImportState.values, last.buffer_flush, append_nil] at values
    exact
      { counted := by
          unfold ImportState.flush
          split <;> exact processed.counted
        handed := values.trans processed.handed
        whole := by
          unfold ImportState.flush
          split
          · exact fun chunk isChunk => processed.whole chunk (dropLast_subset _ isChunk)
          · simpa using processed.whole
        errors := last.errors_flush.trans processed.errors }

theorem Reports.numbersRows_iff {file : FileRows floats} {report : ImportState Target}
    (reports : Reports builder file.delivered report)
    (isAccept : builder.accept = checks.acceptRow) :
    NumbersRows builder file report ↔
      ∀ row ∈ builder.fileRows file,
        builder.rejections (builder.headerOf file.delivered) (row.1, row.2.1) ≠ [] →
          row.2.1 = row.2.2 := by
  rw [NumbersRows, reports.errors, ← map_place_fileRows, flatMap_map]
  exact flatMap_rejections_iff _ isAccept _

/--
A file is imported as it is to be exactly when the reader skips no row in front
of one that has an error, and no accepted row has two columns of one name.
-/
theorem import_keeps_columns_iff (checks : RowChecks floats Target) (hasHeaders : Bool)
    (columns : Option (List Text)) {chunkSize : Nat} (isPositive : 0 < chunkSize)
    (file : FileRows floats)
    (isHeaded : columns = none → hasHeaders → file.delivered ≠ []) :
    let builder : ImportBuilder floats Target :=
      { hasHeaders := hasHeaders
        columns := columns
        chunkSize := chunkSize
        accept := checks.acceptRow }
    ∃ report, builder.runSheet (file.delivered.map .ok) = .ok report ∧
      Reports builder file.delivered report ∧
      (NumbersRows builder file report ↔ ∀ row ∈ builder.fileRows file,
        builder.rejections (builder.headerOf file.delivered) (row.1, row.2.1) ≠ [] →
          row.2.1 = row.2.2) ∧
      (KeepsColumns builder file.delivered ↔ ∀ row ∈ builder.dataRows file.delivered,
        (builder.accepted (builder.headerOf file.delivered) row).isSome →
          ((columnsOf (builder.headerOf file.delivered) row.1).map Prod.fst).Nodup) := by
  intro builder
  obtain ⟨report, isRun, reports⟩ := runSheet_reports builder isPositive isHeaded
  refine ⟨report, isRun, reports, reports.numbersRows_iff rfl, ?_⟩
  simp only [KeepsColumns, entries_rowObject_iff]

/-- Rows of any objects are accepted, or none of them. -/
def importAll (rejects : Bool) : ImportBuilder oneFloat (Object oneFloat) :=
  { hasHeaders := true
    columns := none
    chunkSize := 1
    accept :=
      RowChecks.acceptRow
        { rules := none
          fromValue := fun object => if rejects then .error "no number".toList else .ok object } }

/-- A file of two columns, the second of which has no name. -/
def namedFile (name : String) : FileRows oneFloat :=
  [some [.string name.toList, .null], some [.string "a".toList, .string "b".toList], none]

/-- A header, a blank line and a row. -/
def gappedFile : FileRows oneFloat :=
  [some [.string "name".toList], none, some [.string "ada".toList]]

theorem blank_header_is_kept :
    ∃ report, (importAll false).runSheet ((namedFile "name").delivered.map .ok) = .ok report ∧
      Reports (importAll false) (namedFile "name").delivered report ∧
      NumbersRows (importAll false) (namedFile "name") report ∧
      KeepsColumns (importAll false) (namedFile "name").delivered := by
  obtain ⟨report, isRun, reports, numbers, kept⟩ :=
    import_keeps_columns_iff { rules := none, fromValue := .ok } true none Nat.one_pos
      (namedFile "name") fun _ _ => cons_ne_nil _ _
  refine ⟨report, isRun, reports, numbers.mpr ?_, kept.mpr ?_⟩
  · intro row isRow _
    obtain rfl := mem_singleton.mp isRow
    rfl
  · intro row isRow _
    obtain rfl := mem_singleton.mp isRow
    decide

/--
The name that a blank header gets is the name of the column in front of it; and
the error of a row behind a blank line has the number of the blank line.
-/
theorem generated_name_collides :
    (¬∃ report,
      (importAll false).runSheet ((namedFile "column_1").delivered.map .ok) = .ok report ∧
      Reports (importAll false) (namedFile "column_1").delivered report ∧
      KeepsColumns (importAll false) (namedFile "column_1").delivered) ∧
    ∃ report, (importAll true).runSheet (gappedFile.delivered.map .ok) = .ok report ∧
      report.errors.map (·.row) = [2] ∧ ¬NumbersRows (importAll true) gappedFile report := by
  refine ⟨?_, _, rfl, rfl, ?_⟩
  · rintro ⟨report, -, -, keeps⟩
    have kept := keeps ([.string "a".toList, .string "b".toList], 2) mem_cons_self rfl
    rw [entries_rowObject_iff] at kept
    exact absurd kept (by decide)
  · intro numbers
    have rows := congrArg (List.map (·.row)) numbers
    exact absurd rows (by decide)

end Rustasea.Excel
