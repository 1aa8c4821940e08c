import Rustasea.Orm.SchemaBlueprint

/-!
# The statements that a blueprint declares

Every declaration of a blueprint is one statement, or a part of one.  A
statement has the text that the emitters write and the tokens that the text is
meant to be.
-/

namespace Rustasea.Orm.Schema

open SqlLexer (Token Rules Spells isPlainWord isNumeral isKept literal)

/-! ## Lexical rules -/

/-- The lexical rules of a dialect, in its default configuration. -/
def Dialect.rules : Dialect → Rules
  | .sqlite =>
    { escapes := false
      doubleIsText := false
      backtick := true
      bracket := true
      hash := false
      spacedDashes := false
      nested := false
      executable := false
      escapeTexts := false
      dollar := false
      nameLength := none }
  | .postgres =>
    { escapes := false
      doubleIsText := false
      backtick := false
      bracket := false
      hash := false
      spacedDashes := false
      nested := true
      executable := false
      escapeTexts := true
      dollar := true
      nameLength := some 63 }
  | .mySql =>
    { escapes := true
      doubleIsText := true
      backtick := true
      bracket := false
      hash := true
      spacedDashes := true
      nested := false
      executable := true
      escapeTexts := false
      dollar := false
      nameLength := none }

/-! ## Tokens -/

def word (text : String) : Token := .word text.toList

def comma : Token := .symbol ','

def parenthesized (tokens : List Token) : List Token := .symbol '(' :: (tokens ++ [.symbol ')'])

def numeralTokens : List Char → List Token
  | '-' :: digits => [.symbol '-', .number digits]
  | digits => [.number digits]

def sizeToken (size : Nat) : Token := .number (toString size).toList

def typeTokens (kind : ColumnKind) (dialect : Dialect) : List Token :=
  match kind, dialect with
  | .increments, .sqlite => [word "INTEGER", word "PRIMARY", word "KEY", word "AUTOINCREMENT"]
  | .increments, .postgres => [word "BIGSERIAL", word "PRIMARY", word "KEY"]
  | .increments, .mySql =>
    [word "BIGINT", word "UNSIGNED", word "AUTO_INCREMENT", word "PRIMARY", word "KEY"]
  | .string length, _ => word "VARCHAR" :: parenthesized [sizeToken length]
  | .text, _ => [word "TEXT"]
  | .integer, .mySql => [word "INT"]
  | .integer, _ => [word "INTEGER"]
  | .bigInteger, .sqlite => [word "INTEGER"]
  | .bigInteger, _ => [word "BIGINT"]
  | .boolean, .sqlite => [word "INTEGER"]
  | .boolean, .postgres => [word "BOOLEAN"]
  | .boolean, .mySql => word "TINYINT" :: parenthesized [sizeToken 1]
  | .timestamp, .sqlite => [word "TEXT"]
  | .timestamp, .postgres => [word "TIMESTAMPTZ"]
  | .timestamp, .mySql => [word "TIMESTAMP"]
  | .decimal precision scale, .mySql =>
    word "DECIMAL" :: parenthesized [sizeToken precision, comma, sizeToken scale]
  | .decimal precision scale, _ =>
    word "NUMERIC" :: parenthesized [sizeToken precision, comma, sizeToken scale]
  | .json, .sqlite => [word "TEXT"]
  | .json, .postgres => [word "JSONB"]
  | .json, .mySql => [word "JSON"]
  | .uuid, .sqlite => [word "TEXT"]
  | .uuid, .postgres => [word "UUID"]
  | .uuid, .mySql => word "CHAR" :: parenthesized [sizeToken 36]
  | .foreignId, .sqlite => [word "INTEGER"]
  | .foreignId, .postgres => [word "BIGINT"]
  | .foreignId, .mySql => [word "BIGINT", word "UNSIGNED"]

def rawTokens (rules : Rules) (expression : String) : List Token :=
  (SqlLexer.run rules .start expression.toList).1 ++
    (SqlLexer.run rules .start expression.toList).2.last

/-- Whether an expression leaves no text, name or comment open. -/
def isClosedRaw (rules : Rules) (expression : String) : Bool :=
  (SqlLexer.run rules .start expression.toList).2.isClosed

section Tokens

variable (floats : FloatText) (dialect : Dialect)

def defaultTokens : DefaultValue → List Token
  | .null => [word "NULL"]
  | .bool flag =>
    match dialect with
    | .postgres => if flag then [word "TRUE"] else [word "FALSE"]
    | _ => if flag then [sizeToken 1] else [sizeToken 0]
  | .int number => numeralTokens (toString number).toList
  | .float bits => numeralTokens (floats.display bits).toList
  | .text content => [.text content.toList]
  | .raw expression => rawTokens dialect.rules expression

def columnTokens (column : Column) : List Token :=
  word column.name :: (typeTokens column.kind dialect ++
    ((if column.kind ≠ .increments ∧ !column.nullable then
        [word "NOT", word "NULL"]
      else []) ++
      match column.defaultValue with
      | some value => word "DEFAULT" :: defaultTokens floats dialect value
      | none => []))

def nameTokens (names : List String) : List Token :=
  [comma].intercalate (names.map fun name => [word name])

def pathText (path : String) : List Char :=
  match dialect with
  | .postgres => path.toList
  | _ => '$' :: '.' :: path.toList

def jsonTokens (column path : String) : List Token :=
  match dialect with
  | .sqlite =>
    word "json_extract" :: parenthesized [word column, comma, .text (pathText dialect path)]
  | .postgres =>
    parenthesized
      [word column, .symbol '-', .symbol '>', .symbol '>', .text (pathText dialect path)]
  | .mySql =>
    parenthesized (word "CAST" ::
      parenthesized (word "JSON_UNQUOTE" ::
        (parenthesized (word "JSON_EXTRACT" ::
            parenthesized [word column, comma, .text (pathText dialect path)]) ++
          word "AS" :: word "CHAR" :: parenthesized [sizeToken 255])))

end Tokens

/-! ## What the quoting keeps -/

/-- Whether quoting keeps a default value; only numbers and texts may lose. -/
def DefaultValue.IsKept (rules : Rules) : DefaultValue → Prop
  | .text content => isKept rules.escapes content.toList = true
  | .float bits => Casts.isFinite bits = true
  | _ => True

/-- Whether an expression among the default values stands by itself. -/
def DefaultValue.IsClosed (rules : Rules) : DefaultValue → Prop
  | .raw expression => isClosedRaw rules expression = true
  | _ => True

def Column.EveryDefault (property : DefaultValue → Prop) (column : Column) : Prop :=
  ∀ value ∈ column.defaultValue, property value

/-! ## Statements -/

/-- A statement of a blueprint. -/
inductive Statement where
  | createTable (columns : List Column) (primary : List String)
  | dropColumn (name : String)
  | addColumn (column : Column)
  | createIndex (columns : List String) (unique : Bool)
  | jsonIndex (column path : String) (ordinal : Nat)

namespace Statement

variable (floats : FloatText) (dialect : Dialect) (table : String)

/-- The definitions between the parentheses of a `CREATE TABLE`. -/
def definitions (columns : List Column) (primary : List String) : List String :=
  columns.map (columnSql floats · dialect) ++
    if primary.isEmpty then []
    else ["PRIMARY KEY (" ++ ", ".intercalate primary ++ ")"]

def engine : String :=
  match dialect with
  | .mySql => " ENGINE=InnoDB"
  | _ => ""

def text : Statement → String
  | .createTable columns primary =>
    "CREATE TABLE " ++ table ++ " (" ++
      ", ".intercalate (definitions floats dialect columns primary) ++ ")" ++ engine dialect
  | .dropColumn name => "ALTER TABLE " ++ table ++ " DROP COLUMN " ++ name
  | .addColumn column =>
    "ALTER TABLE " ++ table ++ " ADD COLUMN " ++ columnSql floats column dialect
  | .createIndex columns unique => indexStatement table columns unique
  | .jsonIndex column path ordinal => jsonIndexStatement table column path ordinal dialect

def primaryTokens (primary : List String) : List Token :=
  word "PRIMARY" :: word "KEY" :: parenthesized (nameTokens primary)

def definitionTokens (columns : List Column) (primary : List String) : List (List Token) :=
  columns.map (columnTokens floats dialect) ++
    if primary.isEmpty then [] else [primaryTokens primary]

def engineTokens : List Token :=
  match dialect with
  | .mySql => [word "ENGINE", .symbol '=', word "InnoDB"]
  | _ => []

def tokens : Statement → List Token
  | .createTable columns primary =>
    [word "CREATE", word "TABLE", word table] ++ (parenthesized
          ([comma].intercalate (definitionTokens floats dialect columns primary)) ++
        engineTokens dialect)
  | .dropColumn name =>
    [word "ALTER", word "TABLE", word table, word "DROP", word "COLUMN", word name]
  | .addColumn column =>
    [word "ALTER", word "TABLE", word table, word "ADD", word "COLUMN"] ++
      columnTokens floats dialect column
  | .createIndex columns unique =>
    (if unique then [word "CREATE", word "UNIQUE", word "INDEX"]
      else [word "CREATE", word "INDEX"]) ++
      ([word (indexName table columns unique), word "ON", word table] ++
        parenthesized (nameTokens columns))
  | .jsonIndex column path ordinal =>
    [word "CREATE", word "INDEX",
        word (jsonIndexName table column ordinal), word "ON", word table] ++
      parenthesized (jsonTokens dialect column path)

def columns : Statement → List Column
  | .createTable columns _ => columns
  | .addColumn column => [column]
  | _ => []

/-- Whether quoting keeps the default values and the path of a statement. -/
def IsKept : Statement → Prop
  | .createTable columns _ => ∀ column ∈ columns, column.EveryDefault (·.IsKept dialect.rules)
  | .addColumn column => column.EveryDefault (·.IsKept dialect.rules)
  | .jsonIndex _ path _ => isKept dialect.rules.escapes (pathText dialect path) = true
  | _ => True

def IsNamed : Statement → Prop
  | .createTable columns primary =>
    columns ≠ [] ∧ (∀ column ∈ columns, isPlainWord column.name.toList = true) ∧
      ∀ name ∈ primary, isPlainWord name.toList = true
  | .dropColumn name => isPlainWord name.toList = true
  | .addColumn column => isPlainWord column.name.toList = true
  | .createIndex columns _ => columns ≠ [] ∧ ∀ name ∈ columns, isPlainWord name.toList = true
  | .jsonIndex column _ _ => isPlainWord column.toList = true

end Statement

namespace Blueprint

variable (blueprint : Blueprint)

def columnIndex (column : Column) : Option Statement :=
  if column.unique then some (.createIndex [column.name] true)
  else if column.index then some (.createIndex [column.name] false)
  else none

def indexStatements : List Statement :=
  blueprint.columns.filterMap columnIndex ++ (blueprint.uniqueIndexes.map (.createIndex · true) ++
      (blueprint.indexes.map (.createIndex · false) ++
        blueprint.jsonIndexes.zipIdx.map fun ((column, path), ordinal) =>
          .jsonIndex column path ordinal))

def statements : List Statement :=
  match blueprint.mode with
  | .create => .createTable blueprint.columns blueprint.primary :: blueprint.indexStatements
  | .alter =>
    blueprint.drops.map .dropColumn ++
      (blueprint.columns.map .addColumn ++ blueprint.indexStatements)

end Blueprint

end Rustasea.Orm.Schema
