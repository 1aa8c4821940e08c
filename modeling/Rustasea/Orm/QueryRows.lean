import Mathlib.Algebra.Group.Nat.Defs
import Rustasea.Library.DecimalText
import Rustasea.Library.ListWindows
import Rustasea.Orm.QueryBuilder

namespace Rustasea.Orm

/-!
# The rows of a query

A database gives each part of a statement its meaning: the records of a table,
the joins, the filter, the order and the projection.  `get` runs the statement
of the resolved builder, `count` the `COUNT(*)` of its table and filter.
Neither is cached.  Limits and offsets are literals of the statement, which the
database refuses from some number on: SQLite and Postgres beyond an `i64`.
-/

/-- What the parts of a statement mean to a database that does not change. -/
structure StatementMeaning (Json Record Row : Type) where
  records : String → List Record
  joined : List String → List Record → List Record
  names : List String → Option Sql → Bool
  satisfies : Option Sql → List (Value Json) → Record → Bool
  arrange : List OrderBy → List Record → List Record
  project : List String → List Record → List Row
  offsetStandsAlone : Bool
  greatestNumber : Nat

namespace StatementMeaning

variable {Json Record Row : Type}

/-- The records that the filter of a builder leaves of its joined table. -/
def matching (meaning : StatementMeaning Json Record Row)
    (builder : QueryBuilder Json) : List Record :=
  (meaning.joined builder.joins (meaning.records builder.table)).filter
    (meaning.satisfies builder.renderWhereClause builder.bindings)

/-- The rows of a builder, apart from its limit and its offset. -/
def selection (meaning : StatementMeaning Json Record Row)
    (builder : QueryBuilder Json) : List Row :=
  meaning.project builder.columns (meaning.arrange builder.orders (meaning.matching builder))

end StatementMeaning

/--
A database.  Without a join a table stands for itself, an order only rearranges
the records, `*` shows each record once, and no statement selects more rows
than an `i64` counts, which is a number that a statement may name.
-/
structure QueryDatabase (Json Record Row : Type) extends
    StatementMeaning Json Record Row where
  joined_nil : ∀ records, joined [] records = records
  arrange_perm : ∀ orders records, (arrange orders records).Perm records
  length_project_all : ∀ records, (project [] records).length = records.length
  countable : ∀ builder, (toStatementMeaning.selection builder).length < 2 ^ 63
  takesI64 : 2 ^ 63 - 1 ≤ greatestNumber

/-- Why a query gives no rows. -/
inductive QueryError where
  | orm (error : OrmError)
  | storage (message : String)
  deriving DecidableEq

variable {Json Record Row : Type}

def limitOffset (limit offset : Option Nat) (rows : List Row) : List Row :=
  match limit with
  | some count => ListWindows.window (offset.getD 0) count rows
  | none => rows.drop (offset.getD 0)

namespace QueryDatabase

/-- The numbers of a window are in the range of the database. -/
def takes (database : QueryDatabase Json Record Row) (limit offset : Nat) : Bool :=
  limit ≤ database.greatestNumber ∧ offset ≤ database.greatestNumber

def select (database : QueryDatabase Json Record Row) (builder : QueryBuilder Json) :
    Except QueryError (List Row) :=
  if !database.names builder.joins builder.renderWhereClause then .error (.storage "no such column")
  else if builder.limit.isNone && builder.offset.isSome &&
      !database.offsetStandsAlone then
    .error (.storage "syntax error")
  else if !database.takes (builder.limit.getD 0) (builder.offset.getD 0) then
    .error (.storage "number out of range")
  else .ok (limitOffset builder.limit builder.offset (database.selection builder))

/-- Run `SELECT COUNT(*)` over the table and the filter of a builder. -/
def count (database : QueryDatabase Json Record Row) (builder : QueryBuilder Json) :
    Except QueryError Nat :=
  if database.names [] builder.renderWhereClause then
    .ok ((database.records builder.table).filter
      (database.satisfies builder.renderWhereClause builder.bindings)).length
  else .error (.storage "no such column")

end QueryDatabase

namespace QueryBuilder

def fetchResolved (backend : Backend Json) (database : QueryDatabase Json Record Row)
    (builder : QueryBuilder Json) : Except QueryError (List Row) :=
  match builder.renderSql backend with
  | .error failure => .error (.orm failure)
  | .ok _ => database.select builder

def get (backend : Backend Json) (database : QueryDatabase Json Record Row)
    (builder : QueryBuilder Json) : Except QueryError (List Row) :=
  match builder.resolved backend with
  | .error failure => .error (.orm failure)
  | .ok resolved => resolved.fetchResolved backend database

def withWindow (limit offset : Option Nat) (builder : QueryBuilder Json) : QueryBuilder Json :=
  { builder with limit := limit, offset := offset }

variable {backend : Backend Json}

theorem resolved_globalScopesApplied {builder resolved : QueryBuilder Json}
    (isResolved : builder.resolved backend = .ok resolved) :
    resolved.globalScopesApplied = true := by
  unfold QueryBuilder.resolved at isResolved
  split at isResolved
  next =>
    rw [← Except.ok.inj isResolved]
  next =>
    split at isResolved
    next => cases isResolved
    next => rw [← Except.ok.inj isResolved]

variable {builder : QueryBuilder Json}

theorem resolved_of_globalScopesApplied (backend : Backend Json)
    (isApplied : builder.globalScopesApplied = true) : builder.resolved backend = .ok builder := by
  have same : { builder with globalScopesApplied := true } = builder := by rw [← isApplied]
  rw [QueryBuilder.resolved, isApplied, Bool.true_or, if_pos rfl, same]

variable {database : QueryDatabase Json Record Row}

theorem get_of_resolved {builder resolved : QueryBuilder Json}
    (isResolved : builder.resolved backend = .ok resolved) :
    builder.get backend database = resolved.fetchResolved backend database := by
  rw [get, isResolved]

variable {rows : List Row}

theorem names_of_fetchResolved (fetched : builder.fetchResolved backend database = .ok rows) :
    database.names builder.joins builder.renderWhereClause = true := by
  unfold fetchResolved at fetched
  split at fetched
  next => cases fetched
  next =>
    simp only [QueryDatabase.select] at fetched
    split at fetched
    next => cases fetched
    next named => simpa using named

/-- Any window of a query that can be run is selected, unless its numbers are refused. -/
theorem fetchResolved_withWindow (fetched : builder.fetchResolved backend database = .ok rows)
    (count offset : Nat) :
    (builder.withWindow (some count) (some offset)).fetchResolved backend database =
      if database.takes count offset then
        .ok (ListWindows.window offset count (database.selection builder))
      else .error (.storage "number out of range") := by
  have named := names_of_fetchResolved fetched
  unfold fetchResolved at fetched
  cases locked : builder.renderLock backend with
  | error failure =>
    rw [renderSql, locked] at fetched
    cases fetched
  | ok lock =>
    have lockedToo : (builder.withWindow (some count) (some offset)).renderLock
          backend =
        .ok lock := locked
    have namedToo : database.names (builder.withWindow (some count) (some offset)).joins
          (builder.withWindow (some count) (some offset)).renderWhereClause =
        true := named
    rw [fetchResolved, renderSql, lockedToo]
    simp only [QueryDatabase.select, namedToo]
    cases isTaken : database.takes count offset with
    | true | false =>
      simp only [withWindow, Option.getD_some, isTaken]
      rfl

theorem of_fetchResolved (fetched : builder.fetchResolved backend database = .ok rows) :
    rows = limitOffset builder.limit builder.offset (database.selection builder) ∧
    database.takes (builder.limit.getD 0) (builder.offset.getD 0) = true := by
  unfold fetchResolved at fetched
  split at fetched
  next => cases fetched
  next =>
    simp only [QueryDatabase.select] at fetched
    split at fetched
    next => cases fetched
    next =>
      split at fetched
      next => cases fetched
      next =>
        split at fetched
        next => cases fetched
        next isTaken => exact ⟨(Except.ok.inj fetched).symm, by simpa using isTaken⟩

end QueryBuilder

/-! ## A table of numbers -/

def QueryDatabase.ofNumbers (held : List Nat) (small : held.length < 2 ^ 63) :
    QueryDatabase Unit Nat Nat where
  records := fun _ => held
  joined := fun _ records => records
  names := fun _ _ => true
  satisfies := fun _ _ _ => true
  arrange := fun _ records => records
  project := fun _ records => records
  offsetStandsAlone := false
  greatestNumber := 2 ^ 63 - 1
  joined_nil := fun _ => rfl
  arrange_perm := fun _ _ => List.Perm.refl _
  length_project_all := fun _ => rfl
  countable := by
    intro builder
    refine lt_of_le_of_lt (List.length_filter_le _ _) small
  takesI64 := Nat.le_refl _

def numbersQuery : QueryBuilder Unit :=
  { QueryBuilder.ofTable "numbers" with globalScopesApplied := true }

def unitBackend : Backend Unit where
  dialect := "sqlite"
  jsonArray := fun _ => ()

end Rustasea.Orm
