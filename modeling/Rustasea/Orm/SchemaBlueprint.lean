import Rustasea.Library.SqlLexer
import Rustasea.Orm.CastValues
import Rustasea.Schedule.Cron

/-!
# Schema blueprints

A blueprint collects the columns, keys and indexes of a table.  It is checked
and rendered as a script for a dialect that is named at run time.
-/

namespace Rustasea.Orm.Schema

/-! ## Dialects and errors -/

inductive Dialect where
  | sqlite
  | postgres
  | mySql
  deriving DecidableEq

inductive SchemaError where
  | unknownDialect (dialect : String)
  | emptyTableName
  | emptyColumnName
  | invalidIdentifier (identifier : String)
  | emptyIndexColumns
  | emptyBlueprint (table : String)
  | duplicateColumn (table column : String)
  deriving DecidableEq

def Dialect.resolve (dialect : String) : Except SchemaError Dialect :=
  if dialect = "sqlite" then .ok .sqlite
  else if dialect ∈ ["postgres", "postgresql", "pg"] then .ok .postgres
  else if dialect ∈ ["mysql", "mariadb"] then .ok .mySql
  else .error (.unknownDialect dialect)

/-- Whether nothing is left of a text without whitespace at its ends. -/
def isBlank (text : String) : Bool := (Schedule.trim text.toList).isEmpty

/-- An identifier is a letter or an underscore, and then also digits. -/
def validateIdentifier (name : String) (emptyError : SchemaError) : Except SchemaError Unit :=
  if isBlank name then .error emptyError
  else if SqlLexer.isPlainWord name.toList then .ok ()
  else .error (.invalidIdentifier name)

/-! ## Columns -/

/-- The logical type of a column. -/
inductive ColumnKind where
  | increments
  | string (length : Nat)
  | text
  | integer
  | bigInteger
  | boolean
  | timestamp
  | decimal (precision scale : Nat)
  | json
  | uuid
  | foreignId
  deriving DecidableEq

/-- The literal of a `DEFAULT`. -/
inductive DefaultValue where
  | null
  | bool (flag : Bool)
  | int (number : Int)
  | float (bits : UInt64)
  | text (content : String)
  | raw (expression : String)
  deriving DecidableEq

/-- A column with the modifiers that the emitters read. -/
structure Column where
  name : String
  kind : ColumnKind
  nullable : Bool
  defaultValue : Option DefaultValue
  unique : Bool
  index : Bool
  deriving DecidableEq

def isDecimal (characters : List Char) : Bool :=
  match characters with
  | '-' :: digits => SqlLexer.isNumeral digits
  | digits => SqlLexer.isNumeral digits

structure FloatText where
  display : UInt64 → String
  display_finite : ∀ bits, Casts.isFinite bits = true → isDecimal (display bits).toList = true
  display_other : ∀ bits, Casts.isFinite bits = false → display bits ∈ ["NaN", "inf", "-inf"]

/-! ## Emission -/

/-- The type of a column, with its inline key clauses. -/
def typeSql (kind : ColumnKind) (dialect : Dialect) : String :=
  match kind, dialect with
  | .increments, .sqlite => "INTEGER PRIMARY KEY AUTOINCREMENT"
  | .increments, .postgres => "BIGSERIAL PRIMARY KEY"
  | .increments, .mySql => "BIGINT UNSIGNED AUTO_INCREMENT PRIMARY KEY"
  | .string length, _ => "VARCHAR(" ++ toString length ++ ")"
  | .text, _ => "TEXT"
  | .integer, .mySql => "INT"
  | .integer, _ => "INTEGER"
  | .bigInteger, .sqlite => "INTEGER"
  | .bigInteger, _ => "BIGINT"
  | .boolean, .sqlite => "INTEGER"
  | .boolean, .postgres => "BOOLEAN"
  | .boolean, .mySql => "TINYINT(1)"
  | .timestamp, .sqlite => "TEXT"
  | .timestamp, .postgres => "TIMESTAMPTZ"
  | .timestamp, .mySql => "TIMESTAMP"
  | .decimal precision scale, .mySql =>
    "DECIMAL(" ++ toString precision ++ "," ++ toString scale ++ ")"
  | .decimal precision scale, _ => "NUMERIC(" ++ toString precision ++ "," ++ toString scale ++ ")"
  | .json, .sqlite => "TEXT"
  | .json, .postgres => "JSONB"
  | .json, .mySql => "JSON"
  | .uuid, .sqlite => "TEXT"
  | .uuid, .postgres => "UUID"
  | .uuid, .mySql => "CHAR(36)"
  | .foreignId, .sqlite => "INTEGER"
  | .foreignId, .postgres => "BIGINT"
  | .foreignId, .mySql => "BIGINT UNSIGNED"

/-- `text.replace('\'', "''")`. -/
def escapeQuotes (text : String) : String := String.ofList (SqlLexer.doubleQuotes text.toList)

section Emission

variable (floats : FloatText)

def defaultSql (value : DefaultValue) (dialect : Dialect) : String :=
  match value with
  | .null => "NULL"
  | .bool flag =>
    match dialect with
    | .postgres => if flag then "TRUE" else "FALSE"
    | _ => if flag then "1" else "0"
  | .int number => toString number
  | .float bits => floats.display bits
  | .text content => "'" ++ escapeQuotes content ++ "'"
  | .raw expression => expression

/-- One column of a `CREATE TABLE` or an `ADD COLUMN`. -/
def columnSql (column : Column) (dialect : Dialect) : String :=
  let notNull :=
    if column.kind ≠ .increments ∧ !column.nullable then ["NOT NULL"]
    else []
  let defaultPart :=
    match column.defaultValue with
    | some value => ["DEFAULT " ++ defaultSql floats value dialect]
    | none => []
  " ".intercalate ([column.name, typeSql column.kind dialect] ++ notNull ++ defaultPart)

end Emission

def indexName (table : String) (columns : List String) (unique : Bool) : String :=
  table ++ "_" ++ "_".intercalate columns ++ "_" ++ if unique then "unique" else "index"

def indexStatement (table : String) (columns : List String) (unique : Bool) : String :=
  (if unique then "CREATE UNIQUE INDEX" else "CREATE INDEX") ++ " " ++
    indexName table columns unique ++ " ON " ++ table ++ " (" ++ ", ".intercalate columns ++ ")"

def jsonIndexName (table column : String) (ordinal : Nat) : String :=
  table ++ "_" ++ column ++ "_" ++ toString ordinal ++ "_json"

def jsonExpression (column path : String) (dialect : Dialect) : String :=
  match dialect with
  | .sqlite => "json_extract(" ++ column ++ ", '$." ++ escapeQuotes path ++ "')"
  | .postgres => "(" ++ column ++ " ->> '" ++ escapeQuotes path ++ "')"
  | .mySql =>
    "(CAST(JSON_UNQUOTE(JSON_EXTRACT(" ++ column ++ ", '$." ++
      escapeQuotes path ++ "')) AS CHAR(255)))"

def jsonIndexStatement (table column path : String) (ordinal : Nat) (dialect : Dialect) : String :=
  "CREATE INDEX " ++ jsonIndexName table column ordinal ++ " ON " ++ table ++
    " (" ++ jsonExpression column path dialect ++ ")"

/-! ## Blueprints -/

/-- Whether a blueprint creates or alters its table. -/
inductive Mode where
  | create
  | alter
  deriving DecidableEq

/-- The builder of a table's script. -/
structure Blueprint where
  table : String
  mode : Mode
  columns : List Column
  drops : List String
  primary : List String
  uniqueIndexes : List (List String)
  indexes : List (List String)
  jsonIndexes : List (String × String)
  deriving DecidableEq

namespace Blueprint

/-- The columns are valid identifiers and pairwise distinct. -/
def validatedColumns (table : String) : (seen : List String) → List Column → Except SchemaError Unit
  | _, [] => .ok ()
  | seen, column :: rest => do
    validateIdentifier column.name .emptyColumnName
    if column.name ∈ seen then .error (.duplicateColumn table column.name)
    else validatedColumns table (seen ++ [column.name]) rest

def validateIndexColumns (columns : List String) : Except SchemaError Unit :=
  if columns.isEmpty then .error .emptyIndexColumns
  else columns.forM (validateIdentifier · .emptyColumnName)

variable (floats : FloatText) (blueprint : Blueprint) (dialect : Dialect)

def columnIndex? (column : Column) : Option String :=
  if column.unique then some (indexStatement blueprint.table [column.name] true)
  else if column.index then some (indexStatement blueprint.table [column.name] false)
  else none

def tableIndexes (unique : Bool) (indexes : List (List String)) :
    Except SchemaError (List String) :=
  indexes.mapM fun columns => do
    validateIndexColumns columns
    .ok (indexStatement blueprint.table columns unique)

def emitJsonIndexes : Except SchemaError (List String) :=
  blueprint.jsonIndexes.zipIdx.mapM fun ((column, path), ordinal) => do
    validateIdentifier column .emptyColumnName
    if isBlank path then .error .emptyColumnName
    else .ok (jsonIndexStatement blueprint.table column path ordinal dialect)

def emitIndexes : Except SchemaError (List String) := do
  let unique ← blueprint.tableIndexes true blueprint.uniqueIndexes
  let plain ← blueprint.tableIndexes false blueprint.indexes
  let json ← blueprint.emitJsonIndexes dialect
  .ok (blueprint.columns.filterMap blueprint.columnIndex? ++ unique ++ plain ++ json)

def emitCreate : Except SchemaError (List String) :=
  if blueprint.columns.isEmpty then .error (.emptyBlueprint blueprint.table)
  else do
    validatedColumns blueprint.table [] blueprint.columns
    blueprint.primary.forM (validateIdentifier · .emptyColumnName)
    let keys :=
      if blueprint.primary.isEmpty then []
      else ["PRIMARY KEY (" ++ ", ".intercalate blueprint.primary ++ ")"]
    let definitions := blueprint.columns.map (columnSql floats · dialect) ++ keys
    let engine :=
      match dialect with
      | .mySql => " ENGINE=InnoDB"
      | _ => ""
    let indexes ← blueprint.emitIndexes dialect
    .ok (("CREATE TABLE " ++ blueprint.table ++ " (" ++
      ", ".intercalate definitions ++ ")" ++ engine) :: indexes)

/-- `ALTER TABLE` for dropped and added columns, and the indexes. -/
def emitAlter : Except SchemaError (List String) :=
  if blueprint.columns.isEmpty ∧ blueprint.drops.isEmpty ∧
      blueprint.indexes.isEmpty ∧ blueprint.uniqueIndexes.isEmpty ∧
      blueprint.jsonIndexes.isEmpty then
    .error (.emptyBlueprint blueprint.table)
  else do
    validatedColumns blueprint.table [] blueprint.columns
    let drops ← blueprint.drops.mapM fun name => do
      validateIdentifier name .emptyColumnName
      .ok ("ALTER TABLE " ++ blueprint.table ++ " DROP COLUMN " ++ name)
    let adds := blueprint.columns.map fun column =>
      "ALTER TABLE " ++ blueprint.table ++ " ADD COLUMN " ++ columnSql floats column dialect
    let indexes ← blueprint.emitIndexes dialect
    .ok (drops ++ adds ++ indexes)

def toSql (dialect : String) : Except SchemaError String := do
  let dialect ← Dialect.resolve dialect
  validateIdentifier blueprint.table .emptyTableName
  let emitted :=
    match blueprint.mode with
    | .create => blueprint.emitCreate floats dialect
    | .alter => blueprint.emitAlter floats dialect
  let statements ← emitted
  .ok (";\n".intercalate statements ++ ";")

end Blueprint

end Rustasea.Orm.Schema
