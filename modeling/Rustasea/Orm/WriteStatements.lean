import Rustasea.Orm.SqlText

namespace Rustasea.Orm

/-!
# The statements of the write path

Every statement `ModelOps` and its cascades emit, with its bind values.  The
pieces of a statement are what the format strings write, the table and column
names spliced in, and the printed placeholders.
-/

variable {Json : Type}

/-- `join(separator)` on texts that are already pieces. -/
def joinSeparated (separator : String) : List (List Piece) → List Piece
  | [] => []
  | [only] => only
  | first :: second :: rest => first ++ .text separator :: joinSeparated separator (second :: rest)

/-- A statement and its bind values, the first one for `$1`. -/
structure Statement (Json : Type) where
  pieces : List Piece
  bindings : List (Value Json)

def Statement.sql (statement : Statement Json) : String := printPieces statement.pieces

def equalities (first : Nat) (columns : List String) : List (List Piece) :=
  (columns.zipIdx first).map fun (column, index) =>
    [.text column, .text " = ", .placeholder index]

def countedPlaceholders (count : Nat) : List (List Piece) :=
  (List.range' 1 count).map fun index => [.placeholder index]

def namePieces (names : List String) : List (List Piece) := names.map fun name => [.text name]

/-! ## The model -/

/-- A resolved primary-key filter: a value for every column. -/
structure KeyFilter (Json : Type) where
  columns : List String
  values : List (Value Json)
  aligned : columns.length = values.length

/-- What the write path reads of a model instance. -/
structure ModelRow (Json : Type) where
  table : String
  id : String
  object : List (String × Value Json)
  key : KeyFilter Json
  insertTimestamps : List (String × Value Json)
  updatedColumn : Option String
  now : Value Json

/-- Fields managed by the ORM and never written as user columns. -/
def reservedColumns : List String := ["id", "created_at", "updated_at", "deleted_at", "relations"]

def columnsFromObjectExcluding (object : List (String × Value Json)) (excluded : List String) :
    List (String × Value Json) :=
  object.filter fun (column, _) =>
    !(reservedColumns.contains column || excluded.contains column)

/-- The columns of the SET list of an update, with their values. -/
def ModelRow.assigned (row : ModelRow Json) (excluded : List String) : List (String × Value Json) :=
  columnsFromObjectExcluding row.object excluded ++
    match row.updatedColumn with
    | none => []
    | some updated => [(updated, row.now)]

/-! ## The single key -/

def insertColumnsAndBindings (row : ModelRow Json) : List (String × Value Json) :=
  ("id", .uuid row.id) :: columnsFromObjectExcluding row.object [] ++ row.insertTimestamps

def insertPieces (table : String) (names : List String) : List Piece :=
  .text "INSERT INTO " :: .text table :: .text " (" :: joinSeparated ", " (namePieces names) ++
    .text ") VALUES (" :: joinSeparated ", " (countedPlaceholders names.length) ++ [.text ")"]

def mysqlUpsertSqlExcluding (table : String) (columns keyColumns : List String) : List Piece :=
  let updates := columns.filter fun column =>
    decide (column ≠ "created_at") && !keyColumns.contains column
  .text "INSERT INTO " :: .text table :: .text " (" :: joinSeparated ", " (namePieces columns) ++
    .text ") VALUES (" :: joinSeparated ", " (countedPlaceholders columns.length) ++
      .text ") ON DUPLICATE KEY UPDATE " ::
        joinSeparated ", " (updates.map fun column =>
          [.text column, .text " = VALUES(", .text column, .text ")"])

def buildInsert (row : ModelRow Json) : Statement Json :=
  let columns := insertColumnsAndBindings row
  {
    pieces := insertPieces row.table (columns.map Prod.fst)
    bindings := columns.map Prod.snd
  }

/-- The upsert of a model with one key, in the dialect of MySQL. -/
def buildUpsert (row : ModelRow Json) : Statement Json :=
  let columns := insertColumnsAndBindings row
  {
    pieces := mysqlUpsertSqlExcluding row.table (columns.map Prod.fst) ["id"]
    bindings := columns.map Prod.snd
  }

/-- The update of a model with one key: the key is `$1`, after the columns. -/
def buildUpdate (row : ModelRow Json) : Statement Json :=
  let columns := row.assigned []
  {
    pieces :=
      .text "UPDATE " :: .text row.table :: .text " SET " ::
        joinSeparated ", " (equalities 2 (columns.map Prod.fst)) ++
        [.text " WHERE id = ", .placeholder 1]
    bindings := .uuid row.id :: columns.map Prod.snd
  }

/-! ## The composite key -/

/-- `col1 = $offset+1 AND col2 = $offset+2 …`. -/
def KeyFilter.whereSqlFrom (key : KeyFilter Json) (offset : Nat) : List Piece :=
  joinSeparated " AND " (equalities (offset + 1) key.columns)

def KeyFilter.whereSql (key : KeyFilter Json) : List Piece := key.whereSqlFrom 0

def compositeColumnsAndBindings (row : ModelRow Json) : List (String × Value Json) :=
  row.key.columns.zip row.key.values ++
    columnsFromObjectExcluding row.object row.key.columns ++ row.insertTimestamps

def compositeBuildInsert (row : ModelRow Json) : Statement Json :=
  let columns := compositeColumnsAndBindings row
  {
    pieces := insertPieces row.table (columns.map Prod.fst)
    bindings := columns.map Prod.snd
  }

/-- The upsert of a model with a composite key, in the dialect of MySQL. -/
def compositeBuildUpsert (row : ModelRow Json) : Statement Json :=
  let columns := compositeColumnsAndBindings row
  {
    pieces := mysqlUpsertSqlExcluding row.table (columns.map Prod.fst) row.key.columns
    bindings := columns.map Prod.snd
  }

def compositeBuildUpdate (row : ModelRow Json) : Statement Json :=
  let columns := row.assigned row.key.columns
  {
    pieces :=
      .text "UPDATE " :: .text row.table :: .text " SET " ::
        joinSeparated ", " (equalities 1 (columns.map Prod.fst)) ++
        .text " WHERE " :: row.key.whereSqlFrom columns.length
    bindings := columns.map Prod.snd ++ row.key.values
  }

def buildDelete (table : String) (key : KeyFilter Json) : Statement Json :=
  {
    pieces := .text "DELETE FROM " :: .text table :: .text " WHERE " :: key.whereSql
    bindings := key.values
  }

/-- The soft delete of the row of a key; only sqlite binds the time. -/
def buildSoftDelete (table : String) (key : KeyFilter Json) (dialect : String)
    (now : Value Json) : Statement Json :=
  let (expression, stamps) :=
    if dialect = "sqlite" then (Piece.placeholder (key.values.length + 1), [now])
    else (.text "NOW()", [])
  {
    pieces :=
      .text "UPDATE " :: .text table :: .text " SET deleted_at = " ::
        expression :: .text " WHERE " :: key.whereSql
    bindings := key.values ++ stamps
  }

def buildRestore (table : String) (key : KeyFilter Json) : Statement Json :=
  {
    pieces :=
      .text "UPDATE " :: .text table :: .text " SET deleted_at = NULL WHERE " :: key.whereSql
    bindings := key.values
  }

/-! ## Cascades -/

/-- The operation that a parent hands on to its relations. -/
inductive CascadeMode where
  | softDelete
  | restore
  | forceDelete
  deriving DecidableEq

def childChunk (table : String) (ids : List (Value Json)) (mode : CascadeMode)
    (dialect : String) (now : Value Json) : Statement Json :=
  let list := joinSeparated ", " (countedPlaceholders ids.length)
  match mode with
  | .softDelete =>
    let (expression, stamps) :=
      if dialect = "sqlite" then (Piece.placeholder (ids.length + 1), [now])
      else (.text "NOW()", [])
    {
      pieces :=
        .text "UPDATE " :: .text table :: .text " SET deleted_at = " ::
          expression :: .text " WHERE id IN (" :: list ++ [.text ")"]
      bindings := ids ++ stamps
    }
  | .restore =>
    {
      pieces :=
        .text "UPDATE " :: .text table ::
          .text " SET deleted_at = NULL WHERE id IN (" :: list ++ [.text ")"]
      bindings := ids
    }
  | .forceDelete =>
    {
      pieces := .text "DELETE FROM " :: .text table :: .text " WHERE id IN (" :: list ++ [.text ")"]
      bindings := ids
    }

end Rustasea.Orm
