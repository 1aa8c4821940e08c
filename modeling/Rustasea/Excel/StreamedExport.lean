import Rustasea.Excel.CsvRoundTrip

namespace Rustasea.Excel

/-!
# Streaming an export

An export is written to a file while its rows are pulled, or it is encoded in
memory once all of them are there.
-/

variable {floats : Floats}

/-- A writer of records; what it wrote is handed out at the end. -/
structure CsvWriter where
  State : Type
  fromWriter : State
  writeRecord : State → List Text → Except ExcelError State
  intoInner : State → Except ExcelError Bytes

def CsvWriter.csv (writer : CsvWriter)
    (read : Bytes → List (Except ExcelError (List Text))) : Csv :=
  { write := fun records => do
      writer.intoInner (← records.foldlM writer.writeRecord writer.fromWriter)
    read := read }

def recordOf (cells : List (ExportCell floats)) : List Text :=
  cells.map fun cell => cell.toCsvField.getD []

def CsvWriter.writeHeaders (writer : CsvWriter) (state : writer.State)
    (headers : List Text) : Except ExcelError writer.State :=
  if headers = [] then .ok state
  else writer.writeRecord state headers

/-- Write rows as they are pulled; headers that are not set are those of the first row. -/
def CsvWriter.streamRows (writer : CsvWriter) :
    Option (List Text) → writer.State → List (Except ExcelError (Row floats)) →
    Except ExcelError writer.State
  | _, state, [] => .ok state
  | headers, state, row :: rest => do
    let value ← row
    let (headers, state) ←
      match headers with
      | some headers => .ok (headers, state)
      | none => do
        let derived ← deriveHeaders value
        pure (derived, ← writer.writeHeaders state derived)
    let cells ← rowCells value headers
    writer.streamRows (some headers) (← writer.writeRecord state (recordOf cells)) rest

def CsvWriter.streamCsvToPath (writer : CsvWriter) (headers : Option (List Text))
    (rows : List (Except ExcelError (Row floats))) : Except ExcelError Bytes := do
  let state ← writer.writeHeaders writer.fromWriter (headers.getD [])
  writer.intoInner (← writer.streamRows headers state rows)

def CsvWriter.toBytes (writer : CsvWriter)
    (read : Bytes → List (Except ExcelError (List Text))) (headers : Option (List Text))
    (rows : List (Except ExcelError (Row floats))) : Except ExcelError Bytes := do
  exportCsv (writer.csv read) headers (← rows.mapM id)

variable {writer : CsvWriter}

theorem toOption_bind {ε α β : Type} (first : Except ε α) (next : α → Except ε β) :
    (first >>= next).toOption = first.toOption.bind fun value => (next value).toOption := by
  cases first <;> rfl

def recordsOf (headers : List Text)
    (rows : List (Row floats)) : Except ExcelError (List (List Text)) :=
  rows.mapM fun row => do
    let cells ← rowCells row headers
    pure (recordOf cells)

theorem toOption_recordsOf_cons (headers : List Text) (row : Row floats)
    (rest : List (Row floats)) :
    (recordsOf headers (row :: rest)).toOption =
      (rowCells row headers).toOption.bind fun cells =>
        (recordsOf headers rest).toOption.map (recordOf cells :: ·) := by
  rw [recordsOf, List.mapM_cons, ← recordsOf]
  cases rowCells row headers with
  | error error => rfl
  | ok cells => cases recordsOf headers rest <;> rfl

theorem toOption_streamRows (headers : List Text) (state : writer.State)
    (rows : List (Except ExcelError (Row floats))) :
    (writer.streamRows (some headers) state rows).toOption =
      (rows.mapM id).toOption.bind fun values =>
        (recordsOf headers values).toOption.bind fun records =>
          (records.foldlM writer.writeRecord state).toOption := by
  induction rows generalizing state with
  | nil => rfl
  | cons row rest ih =>
    cases row with
    | error error => rfl
    | ok value =>
      have isStep : (writer.streamRows (some headers) state (.ok value :: rest)).toOption =
            (rowCells value headers).toOption.bind fun cells =>
              (writer.writeRecord state (recordOf cells)).toOption.bind fun written =>
                (writer.streamRows (some headers) written rest).toOption := by
        simp only [← toOption_bind]
        rfl
      have isMapped : ((Except.ok value :: rest).mapM id).toOption =
          (rest.mapM id).toOption.map (value :: ·) := by
        rw [List.mapM_cons]
        cases rest.mapM id <;> rfl
      rw [isStep, isMapped, Option.bind_map]
      simp only [Function.comp_def, toOption_recordsOf_cons, ih]
      generalize (rowCells value headers).toOption = found
      generalize (rest.mapM id).toOption = pulled
      cases found with
      | none => cases pulled <;> rfl
      | some cells =>
        simp only [Option.bind_some, Option.bind_map, Function.comp_def, List.foldlM_cons,
          toOption_bind]
        generalize (writer.writeRecord state (recordOf cells)).toOption = written
        cases written with
        | none => simp
        | some next => rfl

theorem toOption_renderCsv (read : Bytes → List (Except ExcelError (List Text)))
    (headers : List Text) (rows : List (Row floats)) :
    (renderCsv (writer.csv read) headers rows).toOption =
      (recordsOf headers rows).toOption.bind fun records =>
        (writer.writeHeaders writer.fromWriter headers).toOption.bind fun state =>
          (records.foldlM writer.writeRecord state).toOption.bind fun written =>
            (writer.intoInner written).toOption := by
  have isRendered : renderCsv (writer.csv read) headers rows =
        recordsOf headers rows >>= fun records =>
          (writer.csv read).write ((if headers = [] then [] else [headers]) ++ records) :=
    rfl
  rw [isRendered, toOption_bind]
  congr 1
  funext records
  have isWritten (records : List (List Text)) : ((writer.csv read).write records).toOption =
        (records.foldlM writer.writeRecord writer.fromWriter).toOption.bind fun written =>
          (writer.intoInner written).toOption :=
    toOption_bind _ _
  rw [isWritten, List.foldlM_append, CsvWriter.writeHeaders]
  split
  · rfl
  · rw [List.foldlM_cons]
    cases writer.writeRecord writer.fromWriter headers <;> rfl

variable (writer) (read : Bytes → List (Except ExcelError (List Text)))

theorem streamed_of_headers (headers : List Text) (rows : List (Except ExcelError (Row floats))) :
    (writer.streamCsvToPath (some headers) rows).toOption =
      (writer.toBytes read (some headers) rows).toOption := by
  have isBuffered : (writer.toBytes read (some headers) rows).toOption =
        (rows.mapM id).toOption.bind fun values =>
          (renderCsv (writer.csv read) headers values).toOption :=
    toOption_bind _ _
  rw [isBuffered, CsvWriter.streamCsvToPath, Option.getD_some]
  simp only [toOption_bind, toOption_streamRows, toOption_renderCsv]
  generalize (writer.writeHeaders writer.fromWriter headers).toOption = started
  cases started with
  | none => simp
  | some state => simp [Option.bind_assoc]

/-- Both ways of exporting rows yield the same bytes, or both fail. -/
theorem streamed_csv_eq_bytes (headers : Option (List Text))
    (rows : List (Except ExcelError (Row floats))) :
    (writer.streamCsvToPath headers rows).toOption =
      (writer.toBytes read headers rows).toOption := by
  cases headers with
  | some headers => exact streamed_of_headers writer read headers rows
  | none =>
    cases rows with
    | nil => rfl
    | cons row rest =>
      cases row with
      | error error => rfl
      | ok value =>
        have isStreamed : writer.streamCsvToPath none (.ok value :: rest) =
              deriveHeaders value >>= fun derived =>
                writer.streamCsvToPath (some derived) (.ok value :: rest) := by
          have isFirst : writer.streamRows none writer.fromWriter (.ok value :: rest) =
                deriveHeaders value >>= fun derived =>
                  writer.writeHeaders writer.fromWriter derived >>= fun state =>
                    writer.streamRows (some derived) state (.ok value :: rest) :=
            rfl
          have isSecond : writer.streamCsvToPath none (.ok value :: rest) =
              writer.streamRows none writer.fromWriter (.ok value :: rest) >>=
                writer.intoInner :=
            rfl
          rw [isSecond, isFirst, bind_assoc]
          congr 1
          funext derived
          exact bind_assoc _ _ _
        have isBuffered : (writer.toBytes read none (.ok value :: rest)).toOption =
              (deriveHeaders value).toOption.bind fun derived =>
                (writer.toBytes read (some derived) (.ok value :: rest)).toOption := by
          simp only [CsvWriter.toBytes, toOption_bind, List.mapM_cons]
          cases rest.mapM id with
          | error error => simp [Except.toOption]
          | ok values =>
            exact toOption_bind (deriveHeaders value) fun derived =>
              renderCsv (writer.csv read) derived (value :: values)
        rw [isStreamed, toOption_bind, isBuffered]
        simp [streamed_of_headers writer read]

end Rustasea.Excel
