import Rustasea.Excel.Csv
import Rustasea.Library.OrderedMap

namespace Rustasea.Excel

open List

open DecimalText (inI64)

/-!
# Exporting rows and importing them again

Rows are JSON objects.  An export writes a header row and a field for each
cell; an import reads the header row, guesses what each cell contains, and
makes an object of every row.
-/

variable {floats : Floats}

abbrev Object (floats : Floats) := OrderedMap Text (Value floats)

/-! ## Export -/

/-- A row that was serialized. -/
inductive Row (floats : Floats) where
  | object (object : Object floats)
  | other (value : Value floats)

def deriveHeaders : Row floats → Except ExcelError (List Text)
  | .object object => .ok object.keys
  | .other _ =>
    .error (.serialization "cannot derive headers: rows are not JSON objects; set `.headers(..)`")

def rowCells (row : Row floats)
    (headers : List Text) : Except ExcelError (List (ExportCell floats)) :=
  match row with
  | .object object =>
    .ok (headers.map fun header => ((object.get header).map valueToExportCell).getD .blank)
  | .other value =>
    if headers.length = 1 then .ok [valueToExportCell value]
    else
      .error (.serialization "row is not a JSON object and headers are not single-column")

/-- The headers of an export; those of the first row when none are set. -/
def exportHeaders (headers : Option (List Text))
    (rows : List (Row floats)) : Except ExcelError (List Text) :=
  match headers, rows with
  | some headers, _ => .ok headers
  | none, [] => .ok []
  | none, first :: _ => deriveHeaders first

def renderCsv (csv : Csv) (headers : List Text)
    (rows : List (Row floats)) : Except ExcelError Bytes := do
  let records ← rows.mapM fun row => do
    let cells ← rowCells row headers
    pure (cells.map fun cell => cell.toCsvField.getD [])
  csv.write ((if headers = [] then [] else [headers]) ++ records)

def exportCsv (csv : Csv) (headers : Option (List Text))
    (rows : List (Row floats)) : Except ExcelError Bytes := do
  renderCsv csv (← exportHeaders headers rows) rows

/-! ## Import -/

/-- A mark at the start of the first cell is left out. -/
@[grind =] def stripBom : List (Value floats) → List (Value floats)
  | .string first :: rest => .string (if first.head? = some bom then first.tail else first) :: rest
  | cells => cells

/-- The rows of a file; `started` once the first one was read. -/
@[grind =] def sheetRows (floats : Floats) (started : Bool) : List (Except ExcelError (List Text)) →
    List (Except ExcelError (List (Value floats)))
  | [] => []
  | .error error :: rest => .error error :: sheetRows floats started rest
  | .ok record :: rest =>
    let cells := record.map (coerceCsvCell floats)
    .ok (if started then cells else stripBom cells) :: sheetRows floats true rest

def columnName (index : Nat) : Text := "column_".toList ++ decimal index

@[grind =] def cellToHeader (index : Nat) : Value floats → Text
  | .string text =>
    if text = [] then columnName index
    else text
  | .null => columnName index
  | other => other.printed

/-- Errors of a row, by the number of the row in the file. -/
structure RowError where
  row : Nat
  field : Option Text
  code : Text
  message : Text
  deriving DecidableEq

/-- Options of an import, with the rules and the type of its rows. -/
structure ImportBuilder (floats : Floats) (Target : Type) where
  hasHeaders : Bool
  columns : Option (List Text)
  chunkSize : Nat
  accept : Nat → Object floats → Except (List RowError) Target

variable {Target : Type}

/-- The names of the columns, and the rows that are left. -/
@[grind =]
def ImportBuilder.resolveHeader (builder : ImportBuilder floats Target)
    (rows : List (Except ExcelError (List (Value floats)))) :
    Except ExcelError (List Text × List (Except ExcelError (List (Value floats)))) :=
  match builder.columns with
  | some columns => .ok (columns, if builder.hasHeaders then rows.tail else rows)
  | none =>
    if builder.hasHeaders then
      match rows with
      | [] => .error (.parse 1 "empty source: header row expected")
      | .error error :: _ => .error error
      | .ok cells :: rest => .ok (cells.mapIdx cellToHeader, rest)
    else .ok ([], rows)

def rowObject (header : List Text) (cells : List (Value floats)) : Object floats :=
  cells.zipIdx.foldl
    (fun object cell => object.insert (header[cell.2]?.getD (columnName cell.2)) cell.1)
    .empty

/-- What an import has done so far; `chunks` went to the chunk sink. -/
structure ImportState (Target : Type) where
  total : Nat
  imported : Nat
  failed : Nat
  errors : List RowError
  buffer : List Target
  chunks : List (List Target)

def ImportState.new : ImportState Target :=
  { total := 0, imported := 0, failed := 0, errors := [], buffer := [], chunks := [] }

/-- Hand the buffer to the chunk sink, unless it is empty. -/
def ImportState.flush (state : ImportState Target) : ImportState Target :=
  if state.buffer = [] then state
  else { state with buffer := [], chunks := state.chunks ++ [state.buffer] }

def ImportBuilder.importRow (builder : ImportBuilder floats Target) (header : List Text)
    (state : ImportState Target) (cells : List (Value floats)) : ImportState Target :=
  let physicalRow := state.total + 1 + if builder.hasHeaders then 1 else 0
  match builder.accept physicalRow (rowObject header cells) with
  | .ok value =>
    let accepted :=
      { state with
        total := state.total + 1
        imported := state.imported + 1
        buffer := state.buffer ++ [value] }
    if builder.chunkSize ≤ accepted.buffer.length then accepted.flush
    else accepted
  | .error errors =>
    { state with
      total := state.total + 1
      failed := state.failed + 1
      errors := state.errors ++ errors }

/-- Process the rows; a row that cannot be read ends the import. -/
def ImportBuilder.importRows (builder : ImportBuilder floats Target) (header : List Text) :
    ImportState Target → List (Except ExcelError (List (Value floats))) →
    Except ExcelError (ImportState Target)
  | state, [] => .ok state.flush
  | _, .error error :: _ => .error error
  | state, .ok cells :: rest =>
    importRows builder header (builder.importRow header state cells) rest

def ImportBuilder.run (builder : ImportBuilder floats Target) (csv : Csv)
    (bytes : Bytes) : Except ExcelError (ImportState Target) := do
  if builder.chunkSize = 0 then throw (.invalidChunkSize 0)
  let (header, rows) ← builder.resolveHeader (sheetRows floats false (csv.read bytes))
  builder.importRows header .new rows

/-! ## Header rows -/

/-- A column's name is read from the cell that it was written to. -/
def KeySurvives (floats : Floats) (key : Text) : Prop :=
  key ≠ [] ∧ (floatOf floats key).all fun number => number.printed = key

instance : DecidablePred (KeySurvives floats) := fun _ => inferInstanceAs (Decidable (_ ∧ _))

theorem printed_ofInt {n : Int} (inRange : inI64 n) :
    (Number.ofInt n inRange : Number floats).printed = decimal n := by
  unfold Number.ofInt
  split
  · rfl
  · next notNegative => rw [Number.printed, Int.toNat_of_nonneg (by omega)]

theorem floatOf_of_parse {cell : Text} (notRead : floats.parse cell = none) :
    floatOf floats cell = none := by
  unfold floatOf
  rw [notRead]
  split <;> rfl

theorem cellToHeader_eq_iff (documented : floats.Documented) {index : Nat} {key : Text} :
    cellToHeader index (coerceCsvCell floats key) = key ↔ KeySurvives floats key := by
  have named : columnName index ≠ [] := cons_ne_nil _ _
  have survives (isSome : key ≠ [])
      (notFloat : floatOf floats key = none) :
      KeySurvives floats key := by
    refine ⟨isSome, ?_⟩
    rw [notFloat]
    rfl
  unfold coerceCsvCell
  split_ifs with isEmpty isTrue isFalse
  · subst key
    exact iff_of_false named fun survives => survives.1 rfl
  · subst key
    exact iff_of_true rfl (survives isEmpty (floatOf_of_parse documented.parse_true))
  · subst key
    exact iff_of_true rfl (survives isEmpty (floatOf_of_parse documented.parse_false))
  · cases isInteger : integerOf key with
    | some n =>
      have isDecimal := decimal_of_integerOf isInteger
      refine iff_of_true ((printed_ofInt n.2).trans isDecimal) (survives isEmpty ?_)
      unfold floatOf
      rw [← isDecimal, hasFloatMarker_decimal]
      rfl
    | none =>
      cases isFloat : floatOf floats key with
      | some number => simp [KeySurvives, isEmpty, isFloat, cellToHeader, Value.printed]
      | none => exact iff_of_true (if_neg isEmpty) (survives isEmpty isFloat)

theorem stripBom_eq {first : Text} (noMark : first.head? ≠ some bom) (rest : List (Value floats)) :
    stripBom (coerceCsvCell floats first :: rest) = coerceCsvCell floats first :: rest := by
  cases isRead : coerceCsvCell floats first with
  | string text =>
    have same : text = first := by
      unfold coerceCsvCell at isRead
      split_ifs at isRead
      split at isRead
      · cases isRead
      · split at isRead <;> cases isRead
        rfl
    subst text
    rw [stripBom, if_neg noMark]
  | _ => rfl

/-! ## Reading rows back -/

def fieldOf (row : Object floats) (header : Text) : Text := ((row.get header).map csvField).getD []

theorem rowCells_object (row : Object floats) (headers : List Text) :
    ∃ cells, rowCells (.object row) headers = .ok cells ∧
      cells.map (fun cell => cell.toCsvField.getD []) = headers.map (fieldOf row) := by
  refine ⟨_, rfl, ?_⟩
  rw [map_map]
  refine map_congr_left fun header _ => ?_
  rw [Function.comp_apply, fieldOf]
  cases row.get header <;> rfl

variable {headers : List Text}

theorem renderCsv_objects (csv : Csv) (hasHeaders : headers ≠ []) (rows : List (Object floats)) :
    renderCsv csv headers (rows.map .object) =
      csv.write (headers :: rows.map fun row => headers.map (fieldOf row)) := by
  have records :
      ((rows.map Row.object).mapM fun row => do
        let cells ← rowCells row headers
        pure (cells.map fun cell => cell.toCsvField.getD [])) =
        @Except.ok ExcelError _ (rows.map fun row => headers.map (fieldOf row)) := by
    induction rows with
    | nil => rfl
    | cons row rest ih =>
      obtain ⟨cells, isCells, fields⟩ := rowCells_object row headers
      rw [map_cons, mapM_cons, ih, isCells, map_cons, ← fields]
      rfl
  rw [renderCsv, records, if_neg hasHeaders]
  rfl

theorem rowObject_eq_foldl {header : List Text} {cells : List (Value floats)}
    (sameLength : header.length = cells.length) :
    rowObject header cells =
      (header.zip cells).foldl (fun object pair => object.insert pair.1 pair.2) .empty := by
  have suffixes (before : List Text)
      (object : Object floats) : ∀ (left : List Text) (cells : List (Value floats)),
        left.length = cells.length → (cells.zipIdx before.length).foldl
              (fun object cell =>
                object.insert ((before ++ left)[cell.2]?.getD (columnName cell.2)) cell.1)
              object =
            (left.zip cells).foldl (fun object pair => object.insert pair.1 pair.2) object := by
    intro left cells sameLength
    induction left generalizing before object cells with
    | nil =>
      obtain rfl : cells = [] := length_eq_zero_iff.mp sameLength.symm
      rfl
    | cons name rest ih =>
      cases cells with
      | nil => cases sameLength
      | cons cell others =>
        have stepped := ih (before ++ [name]) (object.insert name cell)
            others (Nat.succ.inj sameLength)
        simpa using stepped
  exact suffixes [] .empty header cells sameLength

def readBack (headers : List Text) (row : Object floats) : Object floats :=
  rowObject headers ((headers.map (fieldOf row)).map (coerceCsvCell floats))

variable {row : Object floats}

theorem get_readBack (distinct : headers.Nodup)
    (sameKeys : ∀ key, key ∈ row.keys ↔ key ∈ headers) (key : Text) :
    (readBack headers row).get key =
      (row.get key).map fun value => coerceCsvCell floats (csvField value) := by
  rw [readBack, rowObject_eq_foldl (by simp), map_map,
    OrderedMap.get_foldl_insert, OrderedMap.lookup_zip_map]
  · have isKey := OrderedMap.get_isSome_iff.trans (sameKeys key)
    cases isGet : row.get key with
    | none =>
      rw [isGet] at isKey
      rw [if_neg fun isHeader => nomatch isKey.mpr isHeader]
      rfl
    | some value =>
      rw [isGet] at isKey
      rw [if_pos (isKey.mp rfl), Function.comp_apply, fieldOf, isGet]
      rfl
  · rw [map_fst_zip (by simp)]
    exact distinct

theorem same_readBack_iff (documented : floats.Documented) (distinct : headers.Nodup)
    (sameKeys : ∀ key, key ∈ row.keys ↔ key ∈ headers) :
    OrderedMap.Same row (readBack headers row) ↔ ∀ value ∈ row.values, value.Survives := by
  constructor
  · intro same value isValue
    obtain ⟨key, isGet⟩ := OrderedMap.mem_values_iff.mp isValue
    have isRead := same key
    rw [get_readBack distinct sameKeys, isGet] at isRead
    exact (coerceCsvCell_csvField documented value).mp (Option.some.inj isRead).symm
  · intro survive key
    rw [get_readBack distinct sameKeys]
    cases isGet : row.get key with
    | none => rfl
    | some value =>
      have isValue := OrderedMap.mem_values_iff.mpr ⟨key, isGet⟩
      rw [Option.map_some, (coerceCsvCell_csvField documented value).mpr (survive value isValue)]

theorem mapIdx_cellToHeader (documented : floats.Documented)
    (survive : ∀ key ∈ headers, KeySurvives floats key) :
    (headers.map (coerceCsvCell floats)).mapIdx cellToHeader = headers := by
  refine ext_getElem (by simp) fun index _ isColumn => ?_
  rw [getElem_mapIdx, getElem_map]
  exact (cellToHeader_eq_iff documented).mpr (survive _ (getElem_mem isColumn))

/-! ## Imports -/

def ImportBuilder.objects (floats : Floats)
    (chunkSize : Nat) : ImportBuilder floats (Object floats) :=
  { hasHeaders := true
    columns := none
    chunkSize := chunkSize
    accept := fun _ object => .ok object }

def ImportState.values (state : ImportState Target) : List Target :=
  state.chunks.flatten ++ state.buffer

variable (state : ImportState Target)

theorem ImportState.values_flush : state.flush.values = state.values := by
  unfold flush
  split
  · rfl
  · simp [values]

theorem ImportState.buffer_flush : state.flush.buffer = [] := by
  unfold flush
  split
  · assumption
  · rfl

theorem ImportState.errors_flush : state.flush.errors = state.errors := by
  unfold flush
  split <;> rfl

theorem importRow_objects (chunkSize : Nat) (header : List Text)
    (state : ImportState (Object floats)) (cells : List (Value floats)) :
    ((ImportBuilder.objects floats chunkSize).importRow header state cells).values =
        state.values ++ [rowObject header cells] ∧
      ((ImportBuilder.objects floats chunkSize).importRow header state cells).errors =
        state.errors := by
  let accepted : ImportState (Object floats) :=
    { state with
      total := state.total + 1
      imported := state.imported + 1
      buffer := state.buffer ++ [rowObject header cells] }
  have isAfter : (ImportBuilder.objects floats chunkSize).importRow header state cells =
        if chunkSize ≤ accepted.buffer.length then accepted.flush
        else
          accepted :=
    rfl
  have values : accepted.values = state.values ++ [rowObject header cells] :=
    (append_assoc _ _ _).symm
  rw [isAfter]
  split
  · rw [accepted.values_flush, accepted.errors_flush]
    exact ⟨values, rfl⟩
  · exact ⟨values, rfl⟩

theorem importRows_objects (chunkSize : Nat) (header : List Text)
    (rows : List (List (Value floats))) (state : ImportState (Object floats)) :
    ∃ report,
      (ImportBuilder.objects floats chunkSize).importRows header state (rows.map .ok) = .ok report ∧
      report.chunks.flatten = state.values ++ rows.map (rowObject header) ∧
      report.errors = state.errors := by
  induction rows generalizing state with
  | nil =>
    refine ⟨state.flush, rfl, ?_, state.errors_flush⟩
    have flushed := state.values_flush
    rw [ImportState.values, state.buffer_flush] at flushed
    simpa using flushed
  | cons cells rest ih =>
    obtain ⟨values, errors⟩ := importRow_objects chunkSize header state cells
    obtain ⟨report, isReport, handed, reported⟩ := ih
        ((ImportBuilder.objects floats chunkSize).importRow header state cells)
    refine ⟨report, isReport, ?_, reported.trans errors⟩
    rw [handed, values, append_assoc]
    rfl

theorem sheetRows_started (records : List (List Text)) :
    sheetRows floats true (records.map .ok) =
      (records.map fun record => record.map (coerceCsvCell floats)).map .ok := by
  induction records with
  | nil => rfl
  | cons record rest ih =>
    rw [map_cons, sheetRows, ih]
    rfl

theorem run_objects (documented : floats.Documented) {csv : Csv} {bytes : Bytes} {name : Text}
    {names : List Text} {records : List (List Text)}
    (isRead : csv.read bytes = ((name :: names) :: records).map .ok)
    (survive : ∀ key ∈ name :: names, KeySurvives floats key)
    (noMark : name.head? ≠ some bom) {chunkSize : Nat} (isPositive : 0 < chunkSize) :
    ∃ report, (ImportBuilder.objects floats chunkSize).run csv bytes = .ok report ∧
      report.chunks.flatten =
        records.map (fun record => rowObject (name :: names) (record.map (coerceCsvCell floats))) ∧
      report.errors = [] := by
  obtain ⟨report, isReport, handed, errors⟩ := importRows_objects chunkSize (name :: names)
      (records.map fun record => record.map (coerceCsvCell floats)) .new
  refine ⟨report, ?_, ?_, errors⟩
  · have columns := mapIdx_cellToHeader documented survive
    rw [map_cons] at columns
    rw [ImportBuilder.run, isRead, map_cons, sheetRows, sheetRows_started]
    simp only [ImportBuilder.objects, Nat.ne_of_gt isPositive, if_false, Bool.false_eq_true,
      map_cons, stripBom_eq noMark, ImportBuilder.resolveHeader, columns]
    exact isReport
  · rw [handed, map_map]
    rfl

/-! ## The round trip -/

/--
Rows with the same keys are imported as they were exported, each cell read as
what its field looks like; they are the same rows exactly when all values
survive.
-/
theorem import_of_export {csv : Csv} (csvDocumented : csv.Documented)
    (floatsDocumented : floats.Documented) {first : Object floats} {others : List (Object floats)}
    (sameKeys : ∀ row ∈ others, ∀ key, key ∈ row.keys ↔ key ∈ first.keys)
    (hasKeys : first.keys ≠ []) (keysSurvive : ∀ key ∈ first.keys, KeySurvives floats key)
    (noMark : (first.keys.head hasKeys).head? ≠ some bom) {chunkSize : Nat}
    (isPositive : 0 < chunkSize) :
    ∃ bytes report,
      exportCsv csv none ((first :: others).map .object) = .ok bytes ∧
      (ImportBuilder.objects floats chunkSize).run csv bytes = .ok report ∧ report.errors = [] ∧
      List.Forall₂ (fun row imported => ∀ key, imported.get key =
          (row.get key).map fun value => coerceCsvCell floats (csvField value))
        (first :: others) report.chunks.flatten ∧
      (List.Forall₂ OrderedMap.Same (first :: others) report.chunks.flatten ↔
        ∀ row ∈ first :: others, ∀ value ∈ row.values, value.Survives) := by
  have ofRow : ∀ row ∈ first :: others, ∀ key, key ∈ row.keys ↔ key ∈ first.keys := by
    rw [forall_mem_cons]
    exact ⟨fun _ => Iff.rfl, sameKeys⟩
  have distinct : first.keys.Nodup := first.distinct
  have rendered := renderCsv_objects csv hasKeys (first :: others)
  obtain ⟨name, names, isHeader⟩ := exists_cons_of_ne_nil hasKeys
  have unmarked : name.head? ≠ some bom := by simpa [isHeader] using noMark
  obtain ⟨bytes, isWritten, isRead⟩ := csvDocumented first.keys.length name names
      ((first :: others).map fun row => first.keys.map (fieldOf row))
      (by simp [isHeader])
      unmarked
  obtain ⟨report, isReport, handed, errors⟩ :=
    run_objects floatsDocumented isRead (isHeader ▸ keysSurvive) unmarked isPositive
  have imported : report.chunks.flatten = (first :: others).map (readBack first.keys) := by
    rw [handed, map_map, isHeader]
    rfl
  refine ⟨bytes, report, ?_, isReport, errors, ?_, ?_⟩
  · rw [← isWritten, ← isHeader, ← rendered]
    rfl
  · rw [imported, forall₂_map_right_iff, forall₂_same]
    exact fun row isRow => get_readBack distinct (ofRow row isRow)
  · rw [imported, forall₂_map_right_iff, forall₂_same]
    exact
      forall₂_congr fun row isRow => same_readBack_iff floatsDocumented distinct (ofRow row isRow)

def oneFloat : Floats :=
  { Float := Unit
    isFinite := fun _ => true
    display := fun _ => "3.5".toList
    parse := fun text => if text = "3.5".toList then some () else none
    ofInt := fun _ => ()
    printed := fun _ => "3.5".toList }

theorem oneFloat_documented : oneFloat.Documented :=
  { parse_display := fun _ _ => rfl, parse_true := rfl, parse_false := rfl }

def personRow (name : Text) (age note : Value oneFloat) : Object oneFloat :=
  { entries :=
      [("name".toList, .string name), ("age".toList, age),
        ("score".toList, .number (.float () rfl)), ("active".toList, .bool true),
        ("note".toList, note)]
    distinct := by
      change ["name".toList, "age".toList, "score".toList, "active".toList, "note".toList].Nodup
      decide }

def ada : Object oneFloat :=
  personRow "Ada, \"first\"\n".toList (.number (.posInt 36 (by decide))) .null

def agent : Object oneFloat := personRow "007".toList .null (.string "1,5".toList)

theorem people_survive :
    ∃ bytes report, exportCsv plainCsv none ([ada, agent].map .object) = .ok bytes ∧
      (ImportBuilder.objects oneFloat 1).run plainCsv bytes = .ok report ∧
      List.Forall₂ OrderedMap.Same [ada, agent] report.chunks.flatten := by
  have sameKeys : ∀ row ∈ [agent], ∀ key, key ∈ row.keys ↔ key ∈ ada.keys := by
    intro row isRow key
    rw [mem_singleton.mp isRow]
    rfl
  obtain ⟨bytes, report, exported, imported, -, -, same⟩ :=
    import_of_export plainCsv_documented oneFloat_documented sameKeys
      (by decide) (by decide +kernel) (by decide) Nat.one_pos
  exact ⟨bytes, report, exported, imported, same.mpr (by decide +kernel)⟩

def codeRow : Object oneFloat := OrderedMap.empty.insert "code".toList (.string "42".toList)

theorem digits_come_back_as_number :
    ∃ bytes report,
      exportCsv plainCsv none ([codeRow].map .object) = .ok bytes ∧
        (ImportBuilder.objects oneFloat 1).run plainCsv bytes = .ok report ∧
        codeRow.get "code".toList = some (.string "42".toList) ∧
        report.chunks.flatten.map (fun row : Object oneFloat => row.get "code".toList) =
          [some (.number (.posInt 42 (by decide)))] ∧
        ¬ List.Forall₂ OrderedMap.Same [codeRow] report.chunks.flatten := by
  refine ⟨_, _, rfl, rfl, rfl, rfl, ?_⟩
  intro same
  cases same with
  | cons first _ => exact nomatch first "code".toList

end Rustasea.Excel
