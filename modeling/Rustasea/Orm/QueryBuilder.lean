import Rustasea.Library.PercentEncoding
import Rustasea.Orm.SqlText

namespace Rustasea.Orm

/-!
# The fluent query builder

Every predicate call pushes its bind values and one WHERE condition whose
placeholders are numbered by the bindings collected so far.  Global scopes are
applied to a copy of the builder when it is resolved; a scope body is the
sequence of clause calls its closure makes, and fails where one of them does.
Eager relations, the cache policy and the names of applied named scopes are
left out, and so is the opt-in `vector` feature.
-/

variable {Json : Type}

/-- A compiled-in dialect, and the JSON array of some texts. -/
structure Backend (Json : Type) where
  dialect : String
  jsonArray : List String → Json

/-- Glue in front of a condition. -/
inductive Glue where
  | and
  | or
  deriving DecidableEq

def Glue.token : Glue → BooleanText.Token Atom
  | .and => .and
  | .or => .or

abbrev TypeId := String

/--
A single WHERE condition.  `passed` records the values the caller passed for
it; no function reads it.
-/
structure Condition (Json : Type) where
  glue : Glue
  sql : Sql
  scopeType : Option TypeId
  passed : List (Value Json)
  deriving DecidableEq

/-- Sort direction. -/
inductive OrderDirection where
  | asc
  | desc
  deriving DecidableEq

def OrderDirection.asStr : OrderDirection → String
  | .asc => "ASC"
  | .desc => "DESC"

structure OrderBy where
  column : String
  direction : OrderDirection
  deriving DecidableEq

/-- Pessimistic lock clause. -/
inductive Lock where
  | forUpdate
  | shared
  deriving DecidableEq

def Lock.toSql (lock : Lock) (dialect : String) : Except OrmError String :=
  match dialect with
  | "postgres" =>
    match lock with
    | .forUpdate => .ok "FOR UPDATE"
    | .shared => .ok "FOR SHARE"
  | "mysql" =>
    match lock with
    | .forUpdate => .ok "FOR UPDATE"
    | .shared => .ok "LOCK IN SHARE MODE"
  | "sqlite" => .error (.unsupportedDriver "sqlite has no row locks")
  | other => .error (.unsupportedDriver other)

/-- The builder calls a caller or a scope body makes. -/
inductive Clause (Json : Type) where
  | select (columns : List String)
  | whereEq (column : String) (value : Value Json)
  | orWhereEq (column : String) (value : Value Json)
  | whereBinary (column : String) (value : List UInt8)
  | whereOp (column operator : String) (value : Value Json)
  | whereRaw (fragment : SqlFragment)
  | whereIn (column : String) (values : List (Value Json))
  | whereNull (column : String)
  | whereNotNull (column : String)
  | whereJson (column : String) (filter : JsonFilter Json)
  | whereJsonIn (column path : String) (values : List String)
  | whereJsonContainsAny (column path : String) (values : List String)
  | whereInRows (columns : List String) (rows : List (List (Value Json)))
  | cursor (column : String) (cursor : Value Json)
  | orderBy (column : String) (direction : OrderDirection)
  | limit (count : Nat)
  | offset (count : Nat)
  | lock (lock : Lock)
  | lockWithDialect (lock : Lock) (dialect : String)
  | straightJoin (joinTable on : String)
  | withSoftDeletes (uses : Bool)
  | withTrashed
  | onlyTrashed
  deriving DecidableEq

/-- A registered global scope together with its concrete type identity. -/
structure GlobalScopeEntry (Json : Type) where
  typeId : TypeId
  id : String
  body : List (Clause Json)
  deriving DecidableEq

structure QueryBuilder (Json : Type) where
  table : String
  columns : List String
  conditions : List (Condition Json)
  joins : List String
  orders : List OrderBy
  limit : Option Nat
  offset : Option Nat
  lock : Option Lock
  lockDialect : Option String
  bindings : List (Value Json)
  softDeleteGuard : Option Bool
  globalScopes : List (GlobalScopeEntry Json)
  globalScopesBypassed : Bool
  bypassedScopes : List TypeId
  globalScopesApplied : Bool
  currentScope : Option TypeId
  deriving DecidableEq

namespace QueryBuilder

/-- Start a query against `table`. -/
def ofTable (table : String) : QueryBuilder Json where
  table := table
  columns := []
  conditions := []
  joins := []
  orders := []
  limit := none
  offset := none
  lock := none
  lockDialect := none
  bindings := []
  softDeleteGuard := none
  globalScopes := []
  globalScopesBypassed := false
  bypassedScopes := []
  globalScopesApplied := false
  currentScope := none

/-! ## Conditions and bindings -/

/-- Push a WHERE condition, tagged with the scope currently applying. -/
def pushCondition (glue : Glue) (sql : Sql) (passed : List (Value Json))
    (builder : QueryBuilder Json) : QueryBuilder Json :=
  { builder with
    conditions :=
      builder.conditions ++
        [{ glue := glue, sql := sql, scopeType := builder.currentScope, passed := passed }] }

def pushBinding (value : Value Json) (builder : QueryBuilder Json) : QueryBuilder Json :=
  { builder with bindings := builder.bindings ++ [value] }

/-- Bind one value and push `left $n`. -/
def pushComparison (glue : Glue) (left : String) (value : Value Json)
    (builder : QueryBuilder Json) : QueryBuilder Json :=
  let builder := builder.pushBinding value
  let index := builder.bindings.length
  builder.pushCondition glue [.atom [.text left, .placeholder index]] [value]

def pushText (text : String) (builder : QueryBuilder Json) : QueryBuilder Json :=
  builder.pushCondition .and (written text) []

/-- Bind the values one after the other, collecting their placeholders. -/
def bindAll : List (Value Json) → QueryBuilder Json → List Piece × QueryBuilder Json
  | [], builder => ([], builder)
  | value :: rest, builder =>
    let builder := builder.pushBinding value
    let index := builder.bindings.length
    let (later, builder) := bindAll rest builder
    (.placeholder index :: later, builder)

/-! ## Predicates -/

def whereEq (column : String) (value : Value Json) : QueryBuilder Json → QueryBuilder Json :=
  pushComparison .and (column ++ " = ") value

def orWhereEq (column : String) (value : Value Json) : QueryBuilder Json → QueryBuilder Json :=
  pushComparison .or (column ++ " = ") value

def whereBinary (column : String) (value : List UInt8) : QueryBuilder Json → QueryBuilder Json :=
  pushComparison .and ("encode(" ++ column ++ ", 'hex') = ") (.text (PercentEncoding.hexText value))

/-- The operators `where_op` accepts. -/
def allowedOperators : List String := ["=", "!=", "<>", ">", ">=", "<", "<=", "LIKE", "NOT LIKE"]

def whereOp (column operator : String) (value : Value Json)
    (builder : QueryBuilder Json) : Except OrmError (QueryBuilder Json) :=
  if operator ∈ allowedOperators then
    .ok (builder.pushComparison .and (column ++ " " ++ operator ++ " ") value)
  else .error (.invalidState ("unsupported operator `" ++ operator ++ "`"))

def whereRaw (fragment : SqlFragment) : QueryBuilder Json → QueryBuilder Json :=
  pushCondition .and fragment.sql []

/-- Add a `WHERE column IN (...)` clause. -/
def whereIn (column : String) (values : List (Value Json))
    (builder : QueryBuilder Json) : QueryBuilder Json :=
  let (pieces, builder) := bindAll values builder
  if pieces.isEmpty then builder.pushText "1 = 0"
  else
    builder.pushCondition .and [.atom
        (.text (column ++ " IN (") ::
          (joinPieces (pieces.map fun piece => [piece]) ++ [.text ")"]))]
      values

/-- Add a `WHERE column IS NULL` clause. -/
def whereNull (column : String) : QueryBuilder Json → QueryBuilder Json :=
  pushText (column ++ " IS NULL")

/-- Add a `WHERE column IS NOT NULL` clause. -/
def whereNotNull (column : String) : QueryBuilder Json → QueryBuilder Json :=
  pushText (column ++ " IS NOT NULL")

def whereJson (backend : Backend Json) (column : String) (filter : JsonFilter Json)
    (builder : QueryBuilder Json) : Except OrmError (QueryBuilder Json) :=
  match filter.bindValue with
  | some value =>
    let builder := builder.pushBinding value
    let index := builder.bindings.length
    match filter.toSql column backend.dialect with
    | .error failure => .error failure
    | .ok fragment =>
      .ok (builder.pushCondition .and [.atom (replaceParts index (splitTokens fragment.toList))]
        [value])
  | none =>
    match filter.toSql column backend.dialect with
    | .error failure => .error failure
    | .ok fragment => .ok (builder.pushText fragment)

/-- Substitute each bind token with the next placeholder. -/
def bindPlaceholders (fragment : String) (binds : List (Value Json))
    (builder : QueryBuilder Json) : List Piece × QueryBuilder Json :=
  (bindParts binds.length (builder.bindings.length + 1) (splitTokens fragment.toList),
    { builder with bindings := builder.bindings ++ binds })

def pushFragment (fragment : String) (binds : List (Value Json))
    (builder : QueryBuilder Json) : QueryBuilder Json :=
  let (pieces, builder) := builder.bindPlaceholders fragment binds
  builder.pushCondition .and [.atom pieces] binds

/-- Add a scalar JSON-key `IN` clause. -/
def whereJsonIn (backend : Backend Json) (column path : String) (values : List String)
    (builder : QueryBuilder Json) : Except OrmError (QueryBuilder Json) :=
  if values.isEmpty then .ok (builder.pushText "1 = 0")
  else
    match JsonRelationFilter.toSql { path := path, values := values } column backend.dialect with
    | .error failure => .error failure
    | .ok (fragment, _) => .ok (builder.pushFragment fragment (values.map .text))

/--
The values an array overlap binds: MySQL binds the candidate set as one JSON
array, the other dialects bind each value as its own placeholder.
-/
def overlapBinds (backend : Backend Json) (values : List String) : List (Value Json) :=
  if backend.dialect = "mysql" then [.json (backend.jsonArray values)]
  else values.map .text

def whereJsonContainsAny (backend : Backend Json) (column path : String) (values : List String)
    (builder : QueryBuilder Json) : Except OrmError (QueryBuilder Json) :=
  if values.isEmpty then .ok (builder.pushText "1 = 0")
  else
    match JsonRelationFilter.toSqlArray { path := path, values := values }
        column backend.dialect with
    | .error failure => .error failure
    | .ok (fragment, _) => .ok (builder.pushFragment fragment (overlapBinds backend values))

def bindRows (arity : Nat) : List (List (Value Json)) → QueryBuilder Json →
    List (List Piece) × QueryBuilder Json
  | [], builder => ([], builder)
  | row :: rest, builder =>
    if row.length = arity then
      let (pieces, builder) := bindAll row builder
      let (tuples, builder) := bindRows arity rest builder
      ((.text "(" ::
          (joinPieces (pieces.map fun piece => [piece]) ++ [.text ")"])) :: tuples,
        builder)
    else bindRows arity rest builder

/-- Add a composite `(columns) IN (rows)` clause using SQL row values. -/
def whereInRows (columns : List String) (rows : List (List (Value Json)))
    (builder : QueryBuilder Json) : QueryBuilder Json :=
  if columns.isEmpty then builder.pushText "1 = 0"
  else
    let (tuples, builder) := bindRows columns.length rows builder
    if tuples.isEmpty then builder.pushText "1 = 0"
    else
      builder.pushCondition .and
        [.atom (.text ("(" ++ joinComma columns ++ ") IN (") :: (joinPieces tuples ++ [.text ")"]))]
        (rows.filter fun row => row.length = columns.length).flatten

/-- Cursor pagination window: rows strictly after the cursor. -/
def cursor (column : String) (value : Value Json)
    (builder : QueryBuilder Json) : QueryBuilder Json :=
  let direction :=
    ((builder.orders.find? fun order => order.column = column).map OrderBy.direction).getD .asc
  let operator :=
    match direction with
    | .asc => ">"
    | .desc => "<"
  builder.pushComparison .and (column ++ " " ++ operator ++ " ") value

/-! ## The other clauses -/

def withLock (backend : Backend Json) (lock : Lock) (builder : QueryBuilder Json) :
    Except OrmError (QueryBuilder Json) :=
  match lock.toSql backend.dialect with
  | .error failure => .error failure
  | .ok _ => .ok { builder with lock := some lock, lockDialect := none }

/-- Apply a pessimistic lock validated against a runtime dialect. -/
def lockWithDialect (lock : Lock) (dialect : String) (builder : QueryBuilder Json) :
    Except OrmError (QueryBuilder Json) :=
  match lock.toSql dialect with
  | .error failure => .error failure
  | .ok _ => .ok { builder with lock := some lock, lockDialect := some dialect }

/-- Add a `STRAIGHT_JOIN` hint. -/
def straightJoin (backend : Backend Json) (joinTable on : String)
    (builder : QueryBuilder Json) : Except OrmError (QueryBuilder Json) :=
  if backend.dialect = "mysql" then
    .ok
      { builder with joins := builder.joins ++ ["STRAIGHT_JOIN " ++ joinTable ++ " ON " ++ on] }
  else .error (.unsupportedDriver (backend.dialect ++ " does not support STRAIGHT_JOIN"))

/-! ## Soft deletes -/

def softDeletesType : TypeId := "SoftDeletesScope"

def guardText : String := "deleted_at IS NULL"

/-- Add the soft-delete guard, unless it is there or was lifted. -/
def applySoftDeleteGuard (builder : QueryBuilder Json) : QueryBuilder Json :=
  if builder.softDeleteGuard = some true then builder
  else if builder.conditions.any
      (fun condition => printSql condition.sql == guardText) then
    { builder with softDeleteGuard := some false }
  else
    { builder with
      conditions :=
        builder.conditions ++
          [{ glue := .and
             sql := written guardText
             scopeType := some softDeletesType
             passed := [] }]
      softDeleteGuard := some false }

def withSoftDeletes (uses : Bool) (builder : QueryBuilder Json) : QueryBuilder Json :=
  if uses then builder.applySoftDeleteGuard
  else builder

/-- Remove the conditions that print as the guard, when it was applied. -/
def liftGuard (builder : QueryBuilder Json) : QueryBuilder Json :=
  { builder with
    conditions :=
      if builder.softDeleteGuard = some false then
        builder.conditions.filter fun condition => printSql condition.sql != guardText
      else builder.conditions
    softDeleteGuard := some true }

def withTrashed (builder : QueryBuilder Json) : QueryBuilder Json := builder.liftGuard

/-- Only soft-deleted rows; the condition is the caller's own. -/
def onlyTrashed (builder : QueryBuilder Json) : QueryBuilder Json :=
  let builder := builder.liftGuard
  { builder with
    conditions :=
      builder.conditions ++
        [{ glue := .and
           sql := written "deleted_at IS NOT NULL"
           scopeType := none
           passed := [] }] }

/-! ## Calls -/

def apply (backend : Backend Json) (clause : Clause Json)
    (builder : QueryBuilder Json) : Except OrmError (QueryBuilder Json) :=
  match clause with
  | .select columns => .ok { builder with columns := columns }
  | .whereEq column value => .ok (builder.whereEq column value)
  | .orWhereEq column value => .ok (builder.orWhereEq column value)
  | .whereBinary column value => .ok (builder.whereBinary column value)
  | .whereOp column operator value => builder.whereOp column operator value
  | .whereRaw fragment => .ok (builder.whereRaw fragment)
  | .whereIn column values => .ok (builder.whereIn column values)
  | .whereNull column => .ok (builder.whereNull column)
  | .whereNotNull column => .ok (builder.whereNotNull column)
  | .whereJson column filter => builder.whereJson backend column filter
  | .whereJsonIn column path values => builder.whereJsonIn backend column path values
  | .whereJsonContainsAny column path values =>
    builder.whereJsonContainsAny backend column path values
  | .whereInRows columns rows => .ok (builder.whereInRows columns rows)
  | .cursor column value => .ok (builder.cursor column value)
  | .orderBy column direction =>
    .ok
      { builder with orders := builder.orders ++ [{ column := column, direction := direction }] }
  | .limit count => .ok { builder with limit := some count }
  | .offset count => .ok { builder with offset := some count }
  | .lock lock => builder.withLock backend lock
  | .lockWithDialect lock dialect => builder.lockWithDialect lock dialect
  | .straightJoin joinTable on => builder.straightJoin backend joinTable on
  | .withSoftDeletes uses => .ok (builder.withSoftDeletes uses)
  | .withTrashed => .ok builder.withTrashed
  | .onlyTrashed => .ok builder.onlyTrashed

/-- Make the calls of a scope body; a failing call ends it. -/
def applyBody (backend : Backend Json) : List (Clause Json) → QueryBuilder Json →
    Except OrmError (QueryBuilder Json)
  | [], builder => .ok builder
  | clause :: rest, builder =>
    match builder.apply backend clause with
    | .error failure => .error failure
    | .ok builder => applyBody backend rest builder

/-! ## Global scopes -/

def withGlobalScopes (scopes : List (GlobalScopeEntry Json))
    (builder : QueryBuilder Json) : QueryBuilder Json :=
  { builder with
    globalScopes := scopes
    globalScopesApplied := false
    globalScopesBypassed := false }

def withoutGlobalScopes (builder : QueryBuilder Json) : QueryBuilder Json :=
  { builder with
    globalScopes := []
    globalScopesBypassed := true
    globalScopesApplied := false
    conditions := builder.conditions.filter fun condition => condition.scopeType.isNone
    softDeleteGuard := some true }

def withoutGlobalScope (typeId : TypeId) (builder : QueryBuilder Json) : QueryBuilder Json :=
  { builder with
    globalScopes := builder.globalScopes.filter fun entry => entry.typeId != typeId
    bypassedScopes :=
      if typeId ∈ builder.bypassedScopes then builder.bypassedScopes
      else builder.bypassedScopes ++ [typeId]
    conditions := builder.conditions.filter fun condition => condition.scopeType != some typeId
    softDeleteGuard :=
      if typeId = softDeletesType then some true
      else builder.softDeleteGuard
    globalScopesApplied := false }

/-- Apply the scopes one after the other, skipping the bypassed ones. -/
def applyScopes (backend : Backend Json) : List (GlobalScopeEntry Json) → QueryBuilder Json →
    Except OrmError (QueryBuilder Json)
  | [], builder => .ok builder
  | entry :: rest, builder =>
    if entry.typeId ∈ builder.bypassedScopes then applyScopes backend rest builder
    else
      match applyBody backend entry.body { builder with currentScope := some entry.typeId } with
      | .error failure => .error failure
      | .ok builder => applyScopes backend rest builder

/-- A copy of this builder with every active global scope applied. -/
def resolved (backend : Backend Json) (builder : QueryBuilder Json) :
    Except OrmError (QueryBuilder Json) :=
  if builder.globalScopesApplied || builder.globalScopesBypassed then
    .ok { builder with globalScopesApplied := true }
  else
    match applyScopes backend builder.globalScopes builder with
    | .error failure => .error failure
    | .ok builder => .ok { builder with currentScope := none, globalScopesApplied := true }

/-! ## Rendering -/

/-- Render an ordered run of conditions into a single predicate. -/
def renderConditions : List (Condition Json) → Sql
  | [] => []
  | first :: rest =>
    first.sql ++ rest.flatMap fun condition => condition.glue.token :: condition.sql

def hasOr (conditions : List (Condition Json)) : Bool :=
  (conditions.drop 1).any fun condition => condition.glue == .or

/-- A run, in parentheses when it uses `OR`. -/
def renderRun (conditions : List (Condition Json)) : Sql :=
  if hasOr conditions then .lparen :: (renderConditions conditions ++ [.rparen])
  else renderConditions conditions

def callerConditions (builder : QueryBuilder Json) : List (Condition Json) :=
  builder.conditions.filter fun condition => condition.scopeType.isNone

def scopedConditions (builder : QueryBuilder Json) : List (Condition Json) :=
  builder.conditions.filter fun condition => condition.scopeType.isSome

def renderWhereClause (builder : QueryBuilder Json) : Option Sql :=
  if builder.conditions.isEmpty then none
  else if builder.callerConditions.isEmpty ||
      builder.scopedConditions.isEmpty then
    some (renderConditions builder.conditions)
  else
    some (renderRun builder.callerConditions ++ .and :: renderRun builder.scopedConditions)

def renderSelect (builder : QueryBuilder Json) : List Piece :=
  let columns :=
    if builder.columns.isEmpty then "*" else joinComma builder.columns
  .text ("SELECT " ++ columns ++ " FROM " ++ builder.table) ::
    builder.joins.map fun join => .text (" " ++ join)

def renderFilter (builder : QueryBuilder Json) : List Piece :=
  match builder.renderWhereClause with
  | none => []
  | some clause => .text " WHERE " :: sqlPieces clause

/-- The ORDER BY, LIMIT and OFFSET parts of the statement. -/
def renderWindow (builder : QueryBuilder Json) : List Piece :=
  let order :=
    if builder.orders.isEmpty then ""
    else
      " ORDER BY " ++
        joinComma (builder.orders.map fun order => order.column ++ " " ++ order.direction.asStr)
  let limit :=
    match builder.limit with
    | none => ""
    | some count => " LIMIT " ++ toString count
  let offset :=
    match builder.offset with
    | none => ""
    | some count => " OFFSET " ++ toString count
  [.text (order ++ limit ++ offset)]

def renderLock (backend : Backend Json)
    (builder : QueryBuilder Json) : Except OrmError (List Piece) :=
  match builder.lock with
  | none => .ok []
  | some lock =>
    match lock.toSql (builder.lockDialect.getD backend.dialect) with
    | .error failure => .error failure
    | .ok text => .ok [.text (" " ++ text)]

def renderSql (backend : Backend Json)
    (builder : QueryBuilder Json) : Except OrmError (List Piece) :=
  match builder.renderLock backend with
  | .error failure => .error failure
  | .ok lock => .ok (builder.renderSelect ++ builder.renderFilter ++ builder.renderWindow ++ lock)

/-- Render the SELECT statement, with the global scopes applied. -/
def toSql (backend : Backend Json) (builder : QueryBuilder Json) : Except OrmError (List Piece) :=
  match builder.resolved backend with
  | .error failure => .error failure
  | .ok resolved => resolved.renderSql backend

def resolvedBindings (backend : Backend Json) (builder : QueryBuilder Json) :
    Except OrmError (List (Value Json)) :=
  match builder.resolved backend with
  | .error failure => .error failure
  | .ok resolved => .ok resolved.bindings

end QueryBuilder

def softDeletesScope : GlobalScopeEntry Json where
  typeId := QueryBuilder.softDeletesType
  id := "soft_deletes"
  body := [.withSoftDeletes true]

end Rustasea.Orm
