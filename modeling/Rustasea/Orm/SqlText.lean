import Rustasea.Library.BooleanText

namespace Rustasea.Orm

open BooleanText (Token)

/-!
# SQL texts, bind values and JSON fragments

A text is kept as pieces: what the caller or the builder wrote, and the `$n`
placeholders the builder printed.  A WHERE text is a boolean text whose atoms
are such pieces; the JSON fragments are atoms too, since the `AND` of the
sqlite ones binds tighter than any `OR` around them.
-/

/-- A written text, or a printed placeholder `$index`. -/
inductive Piece where
  | text (written : String)
  | placeholder (index : Nat)
  deriving DecidableEq

abbrev Atom := List Piece

abbrev Sql := List (Token Atom)

def Piece.print : Piece → String
  | .text written => written
  | .placeholder index => "$" ++ toString index

def printPieces (pieces : List Piece) : String :=
  pieces.foldr (fun piece rest => piece.print ++ rest) ""

def tokenPieces : Token Atom → List Piece
  | .atom pieces => pieces
  | .and => [.text " AND "]
  | .or => [.text " OR "]
  | .not => [.text "NOT "]
  | .lparen => [.text "("]
  | .rparen => [.text ")"]

def sqlPieces (sql : Sql) : List Piece := sql.flatMap tokenPieces

def printSql (sql : Sql) : String := printPieces (sqlPieces sql)

def placeholders (pieces : List Piece) : List Nat :=
  pieces.filterMap fun
    | .text _ => none
    | .placeholder index => some index

def written (text : String) : Sql := [.atom [.text text]]

/--
A raw fragment, spliced into the statement without placeholders.  It is given as
the database reads it: an atom is one predicate, with quotes that are closed in
it, no comment, and no `AND`, `OR` or `NOT` that joins or negates predicates.
-/
abbrev SqlFragment := List (Token String)

def SqlFragment.sql (fragment : SqlFragment) : Sql :=
  fragment.map fun
    | .atom text => .atom [.text text]
    | .and => .and
    | .or => .or
    | .not => .not
    | .lparen => .lparen
    | .rparen => .rparen

/-- `[T]::join(", ")` on texts. -/
def joinComma : List String → String
  | [] => ""
  | [only] => only
  | first :: second :: rest => first ++ ", " ++ joinComma (second :: rest)

/-- `join(", ")` on texts that are already pieces. -/
def joinPieces : List (List Piece) → List Piece
  | [] => []
  | [only] => only
  | first :: second :: rest => first ++ .text ", " :: joinPieces (second :: rest)

/-! ## Bind values -/

/-- A single bind value for a prepared statement. -/
inductive Value (Json : Type) where
  | null
  | bool (flag : Bool)
  | int (number : Int)
  | float (bits : UInt64)
  | text (content : String)
  | uuid (id : String)
  | timestamp (microseconds : Int)
  | json (value : Json)
  deriving DecidableEq

/-- The errors of the builder. -/
inductive OrmError where
  | invalidState (message : String)
  | unsupportedDriver (message : String)
  deriving DecidableEq

/-! ## Bind tokens in fragments -/

def bindToken : String := "\x7b\x7d"

def consPart (character : Char) : List (List Char) → List (List Char)
  | [] => [[character]]
  | first :: rest => (character :: first) :: rest

/-- The parts of a fragment between its bind tokens, from the left. -/
def splitTokens : List Char → List (List Char)
  | [] => [[]]
  | [only] => [[only]]
  | first :: second :: rest =>
    if first = '\x7b' ∧ second = '\x7d' then [] :: splitTokens rest
    else consPart first (splitTokens (second :: rest))

def bindTokens (fragment : String) : Nat := (splitTokens fragment.toList).length - 1

/-- `fragment.replace` of every bind token by one placeholder. -/
def replaceParts (index : Nat) : List (List Char) → List Piece
  | [] => []
  | [only] => [.text (String.ofList only)]
  | first :: second :: rest =>
    .text (String.ofList first) :: .placeholder index :: replaceParts index (second :: rest)

/-- The parts that no value is left for, with their tokens put back. -/
def keepParts : List (List Char) → List Piece
  | [] => []
  | [only] => [.text (String.ofList only)]
  | first :: second :: rest =>
    .text (String.ofList first ++ bindToken) :: keepParts (second :: rest)

/--
The loop of `bind_placeholders`: each value takes the next token; without one
the remainder is kept verbatim and the later values find nothing.
-/
def bindParts : Nat → Nat → List (List Char) → List Piece
  | 0, _, parts => keepParts parts
  | _ + 1, _, [] => []
  | values + 1, next, [only] => .text (String.ofList only) :: bindParts values (next + 1) [[]]
  | values + 1, next, first :: second :: rest =>
    .text (String.ofList first) :: .placeholder next :: bindParts values (next + 1) (second :: rest)

/-! ## JSON filters -/

/-- Filter operator applied to a JSON path expression. -/
inductive JsonFilter (Json : Type) where
  | contains (value : Json)
  | pathEquals (key : String) (value : String)
  | keyExists (key : String)
  deriving DecidableEq

def JsonFilter.bindValue {Json : Type} : JsonFilter Json → Option (Value Json)
  | .contains value => some (.json value)
  | .pathEquals _ value => some (.text value)
  | .keyExists _ => none

/-- Compile the filter to a fragment for the given driver dialect. -/
def JsonFilter.toSql {Json : Type} (filter : JsonFilter Json)
    (column dialect : String) : Except OrmError String :=
  match filter with
  | .contains _ =>
    match dialect with
    | "postgres" => .ok (column ++ " @> " ++ bindToken)
    | "mysql" => .ok ("JSON_CONTAINS(" ++ column ++ ", " ++ bindToken ++ ")")
    | "sqlite" => .error (.unsupportedDriver "sqlite has no native JSON contains operator")
    | other => .error (.unsupportedDriver other)
  | .pathEquals key _ =>
    match dialect with
    | "postgres" => .ok (column ++ " ->> '\x7b" ++ key ++ "\x7d' = " ++ bindToken)
    | "mysql" =>
      .ok ("JSON_UNQUOTE(JSON_EXTRACT(" ++ column ++ ", '$." ++ key ++ "')) = " ++ bindToken)
    | "sqlite" => .ok ("json_extract(" ++ column ++ ", '$." ++ key ++ "') = " ++ bindToken)
    | other => .error (.unsupportedDriver other)
  | .keyExists key =>
    match dialect with
    | "postgres" => .ok (column ++ " ? '" ++ key ++ "'")
    | "mysql" => .ok ("JSON_CONTAINS_PATH(" ++ column ++ ", 'one', '$." ++ key ++ "')")
    | "sqlite" => .ok ("json_type(" ++ column ++ ", '$." ++ key ++ "') IS NOT NULL")
    | other => .error (.unsupportedDriver other)

def escapePath (path : String) : String :=
  String.ofList
    (path.toList.flatMap fun character =>
      if character = '\x27' then [character, character]
      else [character])

def tokenList (count : Nat) : String := "(" ++ joinComma (List.replicate count bindToken) ++ ")"

def arrayLiteral (count : Nat) : String :=
  "ARRAY[" ++ joinComma (List.replicate count bindToken) ++ "]"

/-- A JSON-embedded key set used by the JSON relation predicates. -/
structure JsonRelationFilter where
  path : String
  values : List String
  deriving DecidableEq

/-- The scalar form: match the value at `path` against `values`. -/
def JsonRelationFilter.toSql (filter : JsonRelationFilter)
    (column dialect : String) : Except OrmError (String × Nat) :=
  let path := escapePath filter.path
  let count := filter.values.length
  match dialect with
  | "postgres" => .ok ("(" ++ column ++ " ->> '" ++ path ++ "') IN " ++ tokenList count, count)
  | "mysql" =>
    .ok ("JSON_UNQUOTE(JSON_EXTRACT(" ++ column ++ ", '$." ++ path ++
      "')) IN " ++ tokenList count, count)
  | "sqlite" =>
    .ok ("json_valid(" ++ column ++ ") AND json_extract(" ++ column ++
      ", '$." ++ path ++ "') IN " ++ tokenList count, count)
  | other => .error (.unsupportedDriver other)

/-- The array overlap form: the array at `path` contains any of `values`. -/
def JsonRelationFilter.toSqlArray (filter : JsonRelationFilter)
    (column dialect : String) : Except OrmError (String × Nat) :=
  let path := escapePath filter.path
  let count := filter.values.length
  match dialect with
  | "postgres" =>
    .ok ("((" ++ column ++ ")::jsonb -> '" ++ path ++ "') ?| " ++ arrayLiteral count, count)
  | "mysql" =>
    .ok ("JSON_OVERLAPS(JSON_EXTRACT(" ++ column ++ ", '$." ++ path ++
      "'), CAST(" ++ bindToken ++ " AS JSON))", 1)
  | "sqlite" =>
    .ok ("json_valid(" ++ column ++ ") AND EXISTS (SELECT 1 FROM json_each(" ++ column ++ ", '$." ++
      path ++ "') WHERE json_each.value IN " ++ tokenList count ++ ")",
      count)
  | other => .error (.unsupportedDriver other)

end Rustasea.Orm
