import Mathlib.Data.List.Basic

namespace Rustasea.Orm.Migrations

/-!
# The migration runner

`run` applies the registered migrations the tracking table does not name and
`rollback` reverts the last batch.  Each migration's script and its tracking row
share one transaction.  The database behind the pool is an engine that executes
scripts on a schema; every statement sent to it may fail.
-/

inductive MigrationError where
  | irreversible (name : String)
  | extensionMissing (extension hint : String)
  | failed (name detail : String)
  deriving DecidableEq

def MigrationError.display : MigrationError → String
  | .irreversible name => "migration " ++ name ++ " is irreversible"
  | .extensionMissing extension hint => "extension " ++ extension ++ " missing: " ++ hint
  | .failed name detail => "migration " ++ name ++ " failed: " ++ detail

/-- An ORM error: a migration error, or any other by its display text. -/
inductive OrmError where
  | migration (inner : MigrationError)
  | other (message : String)
  deriving DecidableEq

def OrmError.display : OrmError → String
  | .migration inner => inner.display
  | .other message => message

/-- Map a driver failure onto a `failed` migration error. -/
def failed (name : String) : OrmError → OrmError
  | .migration inner => .migration inner
  | .other message => .migration (.failed name (OrmError.other message).display)

/-- A versioned migration: its name and what compiling `up` and `down` gives. -/
structure Migration where
  name : String
  up : Except OrmError String
  down : Except OrmError String

/-- The default `down`. -/
def irreversible (name : String) : Except OrmError String :=
  .error (.migration (.irreversible name))

/-- The runner: its migrations in registration order. -/
structure Migrator where
  migrations : List Migration

def Migrator.names (migrator : Migrator) : List String := migrator.migrations.map Migration.name

/-! ## The database -/

/-- The dialects of a pool. -/
inductive Dialect where
  | sqlite
  | postgres
  | mysql
  deriving DecidableEq

/-- Whether schema changes are undone with their transaction. -/
def Dialect.transactionalDdl : Dialect → Bool
  | .sqlite | .postgres => true
  | .mysql => false

/--
The engine behind the pool: what a script makes of the schema, and the error it
stops with.
-/
structure Engine (Schema : Type) where
  dialect : Dialect
  executeScript : String → Schema → Schema × Option OrmError

/-- A row of the tracking table. -/
structure MigrationRecord where
  name : String
  batch : Int
  executedAt : String
  deriving DecidableEq

/-- Which body of a migration ran. -/
inductive Direction where
  | up
  | down

/-- A migration body that ran to its end and stayed. -/
structure SchemaChange where
  name : String
  direction : Direction
  script : String

/--
The schema and the tracking table, which may not exist yet; `history` records
the bodies that took effect, oldest first.
-/
structure Database (Schema : Type) where
  schema : Schema
  tracking : Option (List MigrationRecord)
  history : List SchemaChange

def Database.initial {Schema : Type} (schema : Schema) : Database Schema where
  schema := schema
  tracking := none
  history := []

def Database.records {Schema : Type} (database : Database Schema) : List MigrationRecord :=
  database.tracking.getD []

def Database.recorded {Schema : Type} (database : Database Schema) : List String :=
  database.records.map MigrationRecord.name

/-! ## What can go wrong -/

/-- How the commit of a transaction ends. -/
inductive Commit where
  | done
  | refused (error : OrmError)
  /-- The commit took effect, its confirmation was lost. -/
  | unheard (error : OrmError)

/-- The faults of one migration's transaction. -/
structure StepFaults where
  beginning : Option OrmError
  script : Option OrmError
  record : Option OrmError
  commit : Commit

/-- The faults of one call, the migrations' numbered from zero. -/
structure Faults where
  ensureTable : Option OrmError
  appliedNames : Option OrmError
  maxBatch : Option OrmError
  batchNames : Option OrmError
  step : Nat → StepFaults

def StepFaults.none : StepFaults where
  beginning := .none
  script := .none
  record := .none
  commit := .done

def Faults.none : Faults where
  ensureTable := .none
  appliedNames := .none
  maxBatch := .none
  batchNames := .none
  step := fun _ => StepFaults.none

section Runner

variable {Schema : Type}

def answer {Value : Type} (fault : Option OrmError)
    (value : Except OrmError Value) : Except OrmError Value :=
  match fault with
  | some error => .error error
  | none => value

def ensureTable (fault : Option OrmError) (database : Database Schema) :
    Except OrmError (Database Schema) :=
  answer fault (.ok { database with tracking := some database.records })

/-- What a statement on a missing tracking table answers. -/
def missingTable : OrmError := .other "storage error: no such table"

/-- The rows a `SELECT` on the tracking table reads. -/
def readRecords (fault : Option OrmError) (database : Database Schema) :
    Except OrmError (List MigrationRecord) :=
  answer fault
    (match database.tracking with
    | some records => .ok records
    | none => .error missingTable)

def appliedNames (fault : Option OrmError)
    (database : Database Schema) : Except OrmError (List String) :=
  (readRecords fault database).map fun records => records.map MigrationRecord.name

/-- Highest batch number among the rows, or zero when there are none. -/
def highestBatch (records : List MigrationRecord) : Int :=
  ((records.map MigrationRecord.batch).max?).getD 0

def maxBatch (fault : Option OrmError) (database : Database Schema) : Except OrmError Int :=
  (readRecords fault database).map highestBatch

def namesOfBatch (batch : Int) (records : List MigrationRecord) : List String :=
  (records.filter fun record => record.batch = batch).map MigrationRecord.name

def batchNames (batch : Int) (fault : Option OrmError)
    (database : Database Schema) : Except OrmError (List String) :=
  (readRecords fault database).map (namesOfBatch batch)

/-- `INSERT` of a tracking row; the name is the primary key. -/
def insertRecord (record : MigrationRecord) (records : List MigrationRecord) :
    Except OrmError (List MigrationRecord) :=
  if records.any fun other => other.name = record.name then
    .error (.other "storage error: UNIQUE constraint failed")
  else .ok (records ++ [record])

/-- `DELETE` of the tracking row of a name. -/
def deleteRecord (name : String) (records : List MigrationRecord) :
    Except OrmError (List MigrationRecord) :=
  .ok (records.filter fun record => record.name ≠ name)

/--
One transaction of a script and its tracking statement: both are committed, or
neither is.  Where schema changes are not transactional a script takes effect as
it runs, and ends the transaction, so that the statement commits by itself.
-/
def transaction (engine : Engine Schema) (faults : StepFaults) (change : SchemaChange)
    (track : List MigrationRecord → Except OrmError (List MigrationRecord))
    (database : Database Schema) : Except OrmError Unit × Database Schema :=
  match faults.beginning with
  | some error => (.error error, database)
  | none =>
    let (schema, stopped) :=
      match faults.script with
      | some error => (database.schema, some error)
      | none => engine.executeScript change.script database.schema
    match stopped with
    | some error =>
      (.error (failed change.name error),
        if engine.dialect.transactionalDdl then database
        else { database with schema := schema })
    | none =>
      let history := database.history ++ [change]
      let rolledBack :=
        if engine.dialect.transactionalDdl then database
        else { database with schema := schema, history := history }
      match (readRecords faults.record database).bind track with
      | .error error => (.error error, rolledBack)
      | .ok records =>
        let committed : Database Schema :=
          { schema := schema, tracking := some records, history := history }
        match faults.commit with
        | .done => (.ok (), committed)
        | .unheard error => (.error error, committed)
        | .refused error =>
          (.error error,
            if engine.dialect.transactionalDdl then database
            else committed)

/-- The loop of `run` over the pending migrations. -/
def applyPending (engine : Engine Schema) (batch : Int) (executedAt : Nat → String)
    (faults : Nat → StepFaults) :
    List Migration → Nat → Database Schema → Except OrmError (List String) × Database Schema
  | [], _, database => (.ok [], database)
  | migration :: rest, index, database =>
    match migration.up with
    | .error error => (.error error, database)
    | .ok script =>
      match
        transaction engine (faults index)
          { name := migration.name, direction := .up, script := script }
          (insertRecord { name := migration.name, batch := batch, executedAt := executedAt index })
          database with
      | (.error error, after) => (.error error, after)
      | (.ok (), after) =>
        let (applied, final) := applyPending engine batch executedAt faults rest (index + 1) after
        (applied.map fun names => migration.name :: names, final)

def Migrator.pending (applied : List String) (migrator : Migrator) : List Migration :=
  migrator.migrations.filter fun migration => migration.name ∉ applied

/-- Apply every not-yet-applied migration in registration order. -/
def run (engine : Engine Schema) (migrator : Migrator) (executedAt : Nat → String)
    (faults : Faults) (database : Database Schema) :
    Except OrmError (List String) × Database Schema :=
  match ensureTable faults.ensureTable database with
  | .error error => (.error error, database)
  | .ok database =>
    match appliedNames faults.appliedNames database with
    | .error error => (.error error, database)
    | .ok applied =>
      let pending := migrator.pending applied
      if pending.isEmpty then (.ok [], database)
      else
        match maxBatch faults.maxBatch database with
        | .error error => (.error error, database)
        | .ok highest => applyPending engine (highest + 1) executedAt faults.step pending 0 database

/-- The loop of `rollback` over the registered migrations, last one first. -/
def revertBatch (engine : Engine Schema) (batchNames : List String) (faults : Nat → StepFaults) :
    List Migration → Nat → Database Schema → Except OrmError (List String) × Database Schema
  | [], _, database => (.ok [], database)
  | migration :: rest, index, database =>
    if migration.name ∈ batchNames then
      match migration.down with
      | .error error => (.error error, database)
      | .ok script =>
        match
          transaction engine (faults index)
            { name := migration.name, direction := .down, script := script }
            (deleteRecord migration.name) database with
        | (.error error, after) => (.error error, after)
        | (.ok (), after) =>
          let (reverted, final) := revertBatch engine batchNames faults rest (index + 1) after
          (reverted.map fun names => migration.name :: names, final)
    else revertBatch engine batchNames faults rest index database

/-- Revert the most recent batch in reverse registration order. -/
def rollback (engine : Engine Schema) (migrator : Migrator) (faults : Faults)
    (database : Database Schema) : Except OrmError (List String) × Database Schema :=
  match ensureTable faults.ensureTable database with
  | .error error => (.error error, database)
  | .ok database =>
    match maxBatch faults.maxBatch database with
    | .error error => (.error error, database)
    | .ok batch =>
      if batch = 0 then (.ok [], database)
      else
        match batchNames batch faults.batchNames database with
        | .error error => (.error error, database)
        | .ok names => revertBatch engine names faults.step migrator.migrations.reverse 0 database

end Runner

end Rustasea.Orm.Migrations
