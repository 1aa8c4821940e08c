import Rustasea.Orm.Migrator
import Rustasea.Library.Fallible
import Rustasea.Library.TransitionSystem
import Mathlib.Data.List.Nodup
import Mathlib.Data.List.MinMax

namespace Rustasea.Orm.Migrations

open List

/-!
# The ledger over whole histories

The tracking table is compared with the record of the migration bodies that took
effect.  `standing` says which migrations are in effect and in which order they
came into it; the table lists exactly these, whatever fails and whichever
migrations the runners have registered.
-/

/-- The migrations in effect after a history, in order of application. -/
def standing (history : List SchemaChange) : List String :=
  history.foldl
    (fun names change =>
      match change.direction with
      | .up => names ++ [change.name]
      | .down => names.filter fun name => name ≠ change.name)
    []

/-- An `up` of the name succeeded, and no `down` of it has since. -/
def InEffect (history : List SchemaChange) (name : String) : Prop :=
  ∃ before change after,
    history = before ++ change :: after ∧ change.name = name ∧ change.direction = .up ∧
          ∀ later ∈ after, later.name = name → later.direction = .up

def replay {Schema : Type} (engine : Engine Schema) (schema : Schema)
    (history : List SchemaChange) : Schema :=
  history.foldl (fun schema change => (engine.executeScript change.script schema).1) schema

/-! ## One more change -/

variable {history : List SchemaChange} {change : SchemaChange}

theorem standing_up (isUp : change.direction = .up) :
    standing (history ++ [change]) = standing history ++ [change.name] := by
  simp [standing, isUp]

theorem standing_down (isDown : change.direction = .down) :
    standing (history ++ [change]) = (standing history).filter fun name => name ≠ change.name := by
  simp [standing, isDown]

theorem inEffect_concat {name : String} :
    InEffect (history ++ [change]) name ↔
      (change.name = name ∧ change.direction = .up) ∨
        (InEffect history name ∧ (change.name = name → change.direction = .up)) := by
  constructor
  · rintro ⟨before, last, after, shape, hasName, isUp, undisturbed⟩
    rcases eq_nil_or_concat after with rfl | ⟨rest, final, rfl⟩
    · obtain ⟨-, same⟩ := append_inj' shape rfl
      obtain rfl := head_eq_of_cons_eq same
      exact .inl ⟨hasName, isUp⟩
    · right
      have regrouped : history ++ [change] = (before ++ last :: rest) ++ [final] := by
        simpa using shape
      obtain ⟨rfl, same⟩ := append_inj' regrouped rfl
      obtain rfl := head_eq_of_cons_eq same
      refine ⟨⟨before, last, rest, rfl, hasName, isUp, ?_⟩, ?_⟩
      · intro later isLater
        exact undisturbed later (by simp [isLater])
      · exact undisturbed change (by simp)
  · rintro (⟨hasName, isUp⟩ |
      ⟨⟨before, last, after, rfl, hasName, isUp, undisturbed⟩, keeps⟩)
    · exact ⟨history, change, [], rfl, hasName, isUp, by simp⟩
    · refine ⟨before, last, after ++ [change], by simp, hasName, isUp, ?_⟩
      intro later isLater
      rcases mem_append.mp isLater with inAfter | isLast
      · exact undisturbed later inAfter
      · rw [mem_singleton] at isLast
        exact isLast ▸ keeps

theorem mem_standing {name : String} : name ∈ standing history ↔ InEffect history name := by
  induction history using List.reverseRecOn with
  | nil => simp [standing, InEffect]
  | append_singleton history change ih =>
    rw [inEffect_concat]
    cases direction : change.direction with
    | up =>
      rw [standing_up direction, mem_append, ih, or_comm, eq_comm]
      simp
    | down =>
      rw [standing_down direction, mem_filter, ih]
      simp only [decide_eq_true_eq, reduceCtorEq, and_false, false_or]
      exact and_congr_right fun _ => ne_comm

/-! ## One transaction -/

section Runner

variable {Schema : Type} {engine : Engine Schema}

def Database.changed (engine : Engine Schema) (change : SchemaChange)
    (records : List MigrationRecord) (database : Database Schema) : Database Schema where
  schema := (engine.executeScript change.script database.schema).1
  tracking := some records
  history := database.history ++ [change]

@[simp] theorem records_changed (engine : Engine Schema) (change : SchemaChange)
    (records : List MigrationRecord) (database : Database Schema) :
    (database.changed engine change records).records = records :=
  rfl

variable {database : Database Schema} {records : List MigrationRecord} {fault : Option OrmError}

theorem records_of_readRecords (read : readRecords fault database = .ok records) :
    database.tracking = some records := by
  cases fault with
  | some error => simp [readRecords, answer] at read
  | none =>
    cases tracking : database.tracking with
    | none => simp [readRecords, answer, tracking] at read
    | some found => simpa [readRecords, answer, tracking] using read

theorem records_of_tracking (exists_ : database.tracking = some records) :
    database.records = records := by
  simp [Database.records, exists_]

/--
A transaction takes effect as a whole, whether or not its caller hears of it,
or fails.  A failed one leaves the table, and where schema changes are
transactional the database.
-/
theorem transaction_cases (engine : Engine Schema) (faults : StepFaults) (change : SchemaChange)
    (track : List MigrationRecord → Except OrmError (List MigrationRecord))
    (database : Database Schema) :
    let outcome := transaction engine faults change track database
    (∃ error, outcome.1 = .error error ∧ outcome.2.tracking = database.tracking ∧
      (engine.dialect.transactionalDdl = true → outcome.2 = database)) ∨
    ∃ records tracked, database.tracking = some records ∧ track records = .ok tracked ∧
      outcome.2 = database.changed engine change tracked := by
  dsimp only
  unfold transaction
  split
  · next error _ => exact .inl ⟨error, rfl, rfl, fun _ => rfl⟩
  · split
    next schema stopped outcome =>
    split
    · next error _ =>
      left
      refine ⟨_, rfl, ?_, fun transactional => if_pos transactional⟩
      split <;> rfl
    · have sameSchema : schema = (engine.executeScript change.script database.schema).1 := by
        cases faulty : faults.script with
        | some error => simp [faulty] at outcome
        | none =>
          simp only [faulty] at outcome
          rw [outcome]
      dsimp only
      split
      · next error _ =>
        left
        refine ⟨error, rfl, ?_, fun transactional => if_pos transactional⟩
        split <;> rfl
      · next tracked bound =>
        obtain ⟨records, read, ran⟩ := Fallible.bind_eq_ok.mp bound
        have exists_ := records_of_readRecords read
        subst sameSchema
        cases faults.commit with
        | done | unheard error => exact .inr ⟨records, tracked, exists_, ran, rfl⟩
        | refused error =>
          by_cases transactional : engine.dialect.transactionalDdl = true
          · left
            refine ⟨error, rfl, ?_, fun _ => if_pos transactional⟩
            simp [transactional]
          · right
            exact ⟨records, tracked, exists_, ran, if_neg transactional⟩

variable {database after : Database Schema}

theorem transaction_ok {faults : StepFaults} {change : SchemaChange}
    {track : List MigrationRecord → Except OrmError (List MigrationRecord)}
    (answered : transaction engine faults change track database = (.ok (), after)) :
    ∃ records tracked, database.tracking = some records ∧ track records = .ok tracked ∧
      after = database.changed engine change tracked := by
  rcases transaction_cases engine faults change track database with
    ⟨error, isError, -⟩ | ⟨records, tracked, exists_, ran, effect⟩
  · rw [answered] at isError
    simp at isError
  · rw [answered] at effect
    exact ⟨records, tracked, exists_, ran, effect⟩

/-- A property is kept that survives what a failure leaves, and the change as a whole. -/
theorem transaction_keeps (holds : Database Schema → Prop) {faults : StepFaults}
    {change : SchemaChange} {track : List MigrationRecord → Except OrmError (List MigrationRecord)}
    (failed : ∀ other : Database Schema, other.tracking = database.tracking →
      (engine.dialect.transactionalDdl = true → other = database) → holds other)
    (changed : ∀ tracked, track database.records = .ok tracked →
      holds (database.changed engine change tracked)) :
    holds (transaction engine faults change track database).2 := by
  rcases transaction_cases engine faults change track database with
    ⟨_, -, sameTable, unchanged⟩ | ⟨records, tracked, exists_, ran, effect⟩
  · exact failed _ sameTable unchanged
  · obtain rfl := records_of_tracking exists_
    rw [effect]
    exact changed tracked ran

/-! ## The loops -/

variable {faults : Nat → StepFaults} (holds : Database Schema → Prop)

theorem applyPending_keeps {batch : Int} {executedAt : Nat → String}
    (kept : ∀ index name script database, holds database →
        holds (transaction engine (faults index) { name := name, direction := .up, script := script
          } (insertRecord { name := name, batch := batch, executedAt := executedAt index })
          database).2) {pending : List Migration} {index : Nat} {database : Database Schema}
    (atStart : holds database) :
    holds (applyPending engine batch executedAt faults pending index database).2 := by
  induction pending generalizing index database with
  | nil => exact atStart
  | cons migration rest ih =>
    unfold applyPending
    split
    · exact atStart
    · next script _ =>
      have stepped := kept index migration.name script database atStart
      split
      · next error after outcome =>
        rw [outcome] at stepped
        exact stepped
      · next after outcome =>
        rw [outcome] at stepped
        exact ih stepped

theorem revertBatch_keeps {names : List String}
    (kept : ∀ index name script database, holds database →
        holds (transaction engine (faults index) { name := name, direction := .down, script :=
          script } (deleteRecord name) database).2) {migrations : List Migration} {index : Nat}
    {database : Database Schema} (atStart : holds database) :
    holds (revertBatch engine names faults migrations index database).2 := by
  induction migrations generalizing index database with
  | nil => exact atStart
  | cons migration rest ih =>
    unfold revertBatch
    split
    · split
      · exact atStart
      · next script _ =>
        have stepped := kept index migration.name script database atStart
        split
        · next error after outcome =>
          rw [outcome] at stepped
          exact stepped
        · next after outcome =>
          rw [outcome] at stepped
          exact ih stepped
    · exact ih atStart

/-! ## The calls -/

def Database.ensured (database : Database Schema) : Database Schema :=
  { database with tracking := some database.records }

theorem map_readRecords {Value : Type} {reading : List MigrationRecord → Value} {value : Value}
    (answered : (readRecords fault database.ensured).map reading = .ok value) :
    value = reading database.records := by
  cases fault with
  | some error => simp [readRecords, answer, Except.map] at answered
  | none => simpa [readRecords, answer, Except.map, Database.ensured, eq_comm] using answered

/--
`run` fails on the way, finds nothing to do, or applies the pending migrations
under the batch after the highest.
-/
theorem run_cases (engine : Engine Schema) (migrator : Migrator) (executedAt : Nat → String)
    (faults : Faults) (database : Database Schema) :
    (∃ error, run engine migrator executedAt faults database = (.error error, database) ∨
      run engine migrator executedAt faults database = (.error error, database.ensured)) ∨
    (migrator.pending database.recorded = [] ∧
      run engine migrator executedAt faults database = (.ok [], database.ensured)) ∨
    run engine migrator executedAt faults database =
      applyPending engine (highestBatch database.records + 1) executedAt faults.step
        (migrator.pending database.recorded) 0 database.ensured := by
  unfold run
  cases faults.ensureTable with
  | some error => exact .inl ⟨error, .inl rfl⟩
  | none =>
    have ensured : ensureTable none database = .ok database.ensured := rfl
    simp only [ensured]
    split
    · next error _ => exact .inl ⟨error, .inr rfl⟩
    · next applied read =>
      obtain rfl : applied = database.recorded := map_readRecords read
      split
      · next nothing => exact .inr (.inl ⟨List.isEmpty_iff.mp nothing, rfl⟩)
      · split
        · next error _ => exact .inl ⟨error, .inr rfl⟩
        · next highest read =>
          obtain rfl := map_readRecords read
          exact .inr (.inr rfl)

/--
`rollback` fails on the way, finds no batch, or reverts the registered
migrations of the highest batch.
-/
theorem rollback_cases (engine : Engine Schema) (migrator : Migrator) (faults : Faults)
    (database : Database Schema) :
    (∃ error, rollback engine migrator faults database = (.error error, database) ∨
      rollback engine migrator faults database = (.error error, database.ensured)) ∨
    (highestBatch database.records = 0 ∧
      rollback engine migrator faults database = (.ok [], database.ensured)) ∨
    rollback engine migrator faults database =
      revertBatch engine (namesOfBatch (highestBatch database.records) database.records) faults.step
        migrator.migrations.reverse 0 database.ensured := by
  unfold rollback
  cases faults.ensureTable with
  | some error => exact .inl ⟨error, .inl rfl⟩
  | none =>
    have ensured : ensureTable none database = .ok database.ensured := rfl
    simp only [ensured]
    split
    · next error _ => exact .inl ⟨error, .inr rfl⟩
    · next highest read =>
      obtain rfl := map_readRecords read
      split
      · next noBatch => exact .inr (.inl ⟨noBatch, rfl⟩)
      · split
        · next error _ => exact .inl ⟨error, .inr rfl⟩
        · next names read =>
          obtain rfl := map_readRecords read
          exact .inr (.inr rfl)

theorem run_keeps {migrator : Migrator} {executedAt : Nat → String} {faults : Faults}
    (atStart : holds database) (ensured : holds database.ensured)
    (kept : ∀ index name script other, holds other → holds (transaction engine (faults.step index)
              { name := name, direction := .up, script := script }
              (insertRecord
                { name := name
                  batch := highestBatch database.records + 1
                  executedAt := executedAt index })
              other).2) :
    holds (run engine migrator executedAt faults database).2 := by
  rcases run_cases engine migrator executedAt faults database with
    ⟨error, outcome | outcome⟩ | ⟨-, outcome⟩ | outcome
  · rw [outcome]
    exact atStart
  · rw [outcome]
    exact ensured
  · rw [outcome]
    exact ensured
  · rw [outcome]
    exact applyPending_keeps holds kept ensured

theorem rollback_keeps {migrator : Migrator} {faults : Faults} (atStart : holds database)
    (ensured : holds database.ensured)
    (kept : ∀ index name script other, holds other →
        holds (transaction engine (faults.step index)
          { name := name, direction := .down, script := script } (deleteRecord name) other).2) :
    holds (rollback engine migrator faults database).2 := by
  rcases rollback_cases engine migrator faults database with
    ⟨error, outcome | outcome⟩ | ⟨-, outcome⟩ | outcome
  · rw [outcome]
    exact atStart
  · rw [outcome]
    exact ensured
  · rw [outcome]
    exact ensured
  · rw [outcome]
    exact revertBatch_keeps holds kept ensured

/-! ## The table and the history -/

/-- The rows name different migrations, and their batches are positive. -/
structure Sound (database : Database Schema) : Prop where
  distinct : database.recorded.Nodup
  positive : ∀ record ∈ database.records, 1 ≤ record.batch

/-- The table lists what stands, and the schema is what the history made. -/
structure Accounts (engine : Engine Schema) (schema : Schema)
    (database : Database Schema) : Prop where
  order : database.recorded = standing database.history
  replayed : database.schema = replay engine schema database.history

variable {record : MigrationRecord}

theorem insertRecord_ok {records tracked : List MigrationRecord}
    (inserted : insertRecord record records = .ok tracked) :
    record.name ∉ records.map MigrationRecord.name ∧ tracked = records ++ [record] := by
  unfold insertRecord at inserted
  split at inserted
  · simp at inserted
  · next isNew =>
    refine ⟨?_, (Except.ok.inj inserted).symm⟩
    simpa using isNew

theorem le_highestBatch (isRecord : record ∈ records) : record.batch ≤ highestBatch records := by
  have isBatch : record.batch ∈ records.map MigrationRecord.batch :=
    mem_map.mpr ⟨record, isRecord, rfl⟩
  unfold highestBatch
  cases highest : (records.map MigrationRecord.batch).max? with
  | none =>
    rw [max?_eq_none_iff] at highest
    simp [highest] at isBatch
  | some batch => exact (max?_le_iff highest).mp (Int.le_refl _) _ isBatch

theorem Sound.highestBatch_nonneg (sound : Sound database) : 0 ≤ highestBatch database.records := by
  cases records : database.records with
  | nil => exact Int.le_refl 0
  | cons record rest =>
    have isRecord : record ∈ database.records := by simp [records]
    have positive := sound.positive record isRecord
    have bounded := le_highestBatch isRecord
    rw [records] at bounded
    omega

theorem records_of_sameTable
    (sameTable : after.tracking = database.tracking) : after.records = database.records :=
  congrArg (·.getD []) sameTable

namespace Sound

variable {database : Database Schema}

theorem ensured (sound : Sound database) : Sound database.ensured :=
  ⟨sound.distinct, sound.positive⟩

theorem of_tracking {database after : Database Schema} (sound : Sound database)
    (sameTable : after.tracking = database.tracking) : Sound after := by
  refine ⟨?_, ?_⟩
  · rw [Database.recorded, records_of_sameTable sameTable]
    exact sound.distinct
  · rw [records_of_sameTable sameTable]
    exact sound.positive

theorem up (sound : Sound database) {record : MigrationRecord}
    (positive : 1 ≤ record.batch) (faults : StepFaults) (change : SchemaChange) :
    Sound (transaction engine faults change (insertRecord record) database).2 := by
  refine transaction_keeps Sound (fun _ same _ => sound.of_tracking same) fun tracked inserted => ?_
  obtain ⟨isNew, rfl⟩ := insertRecord_ok inserted
  refine ⟨?_, ?_⟩
  · simp only [Database.recorded, records_changed, map_append, map_cons, map_nil]
    exact nodup_append_comm.mp (nodup_cons.mpr ⟨isNew, sound.distinct⟩)
  · intro other isRecord
    rcases mem_append.mp isRecord with isOld | isLast
    · exact sound.positive other isOld
    · rw [mem_singleton] at isLast
      exact isLast ▸ positive

theorem down (sound : Sound database) (faults : StepFaults) (change : SchemaChange)
    (name : String) : Sound (transaction engine faults change (deleteRecord name) database).2 := by
  refine transaction_keeps Sound (fun _ same _ => sound.of_tracking same) fun tracked deleted => ?_
  obtain rfl := Except.ok.inj deleted
  refine ⟨?_, ?_⟩
  · exact sound.distinct.sublist (filter_sublist.map _)
  · intro other isRecord
    exact sound.positive other (mem_of_mem_filter isRecord)

end Sound

namespace Accounts

variable {schema : Schema}

theorem replayed_changed {database : Database Schema} (accounts : Accounts engine schema database)
    (change : SchemaChange) (tracked : List MigrationRecord) :
    (database.changed engine change tracked).schema =
      replay engine schema (database.changed engine change tracked).history := by
  simp only [Database.changed, replay, foldl_append, foldl_cons, foldl_nil]
  rw [accounts.replayed, replay]

theorem up {database : Database Schema} (accounts : Accounts engine schema database)
    (transactional : engine.dialect.transactionalDdl = true)
    (faults : StepFaults) (name script executedAt : String) (batch : Int) :
    Accounts engine schema
      (transaction engine faults
        { name := name, direction := .up, script := script }
        (insertRecord { name := name, batch := batch, executedAt := executedAt })
        database).2 := by
  refine transaction_keeps (Accounts engine schema)
    (fun _ _ same => (same transactional).symm ▸ accounts) fun tracked inserted => ?_
  obtain ⟨-, rfl⟩ := insertRecord_ok inserted
  refine ⟨?_, accounts.replayed_changed _ _⟩
  rw [Database.changed, standing_up rfl, ← accounts.order]
  simp [Database.recorded, Database.records]

theorem down {database : Database Schema} (accounts : Accounts engine schema database)
    (transactional : engine.dialect.transactionalDdl = true)
    (faults : StepFaults) (name script : String) :
    Accounts engine schema (transaction engine faults
        { name := name, direction := .down, script := script }
        (deleteRecord name) database).2 := by
  refine transaction_keeps (Accounts engine schema)
    (fun _ _ same => (same transactional).symm ▸ accounts) fun tracked deleted => ?_
  obtain rfl := Except.ok.inj deleted
  refine ⟨?_, accounts.replayed_changed _ _⟩
  rw [Database.changed, standing_down rfl, ← accounts.order]
  simp [Database.recorded, Database.records, filter_map, Function.comp_def]

end Accounts

/-! ## Runs of calls -/

/-- A call of the runner, with the faults it meets. -/
inductive Call where
  | run (migrator : Migrator) (executedAt : Nat → String) (faults : Faults)
  | rollback (migrator : Migrator) (faults : Faults)

def step? (engine : Engine Schema) (database : Database Schema) : Call → Option (Database Schema)
  | .run migrator executedAt faults => some (run engine migrator executedAt faults database).2
  | .rollback migrator faults => some (rollback engine migrator faults database).2

theorem sound_of_reachable {schema : Schema}
    (reached : TransitionSystem.Reachable (step? engine) (Database.initial schema) database) :
    Sound database := by
  apply reached.invariant Sound
  · exact ⟨nodup_nil, by simp [Database.records, Database.initial]⟩
  · intro state call after sound _ taken
    cases call with
    | run migrator executedAt faults =>
      obtain rfl := Option.some.inj taken
      apply run_keeps Sound sound sound.ensured
      intro index name script other otherSound
      apply otherSound.up
      have nonneg := sound.highestBatch_nonneg
      exact Int.le_add_of_nonneg_left nonneg
    | rollback migrator faults =>
      obtain rfl := Option.some.inj taken
      apply rollback_keeps Sound sound sound.ensured
      intro index name script other otherSound
      exact otherSound.down _ _ _

theorem accounts_of_reachable
    (transactional : engine.dialect.transactionalDdl = true) {schema : Schema}
    (reached : TransitionSystem.Reachable (step? engine) (Database.initial schema) database) :
    Accounts engine schema database := by
  apply reached.invariant (Accounts engine schema)
  · exact ⟨rfl, rfl⟩
  · intro state call after accounts _ taken
    cases call with
    | run migrator executedAt faults =>
      obtain rfl := Option.some.inj taken
      apply run_keeps (Accounts engine schema) accounts ⟨accounts.order, accounts.replayed⟩
      intro index name script other otherAccounts
      exact otherAccounts.up transactional _ _ _ _ _
    | rollback migrator faults =>
      obtain rfl := Option.some.inj taken
      apply rollback_keeps (Accounts engine schema) accounts ⟨accounts.order, accounts.replayed⟩
      intro index name script other otherAccounts
      exact otherAccounts.down transactional _ _ _

/-! ## What a run records -/

theorem run_records (engine : Engine Schema) (migrator : Migrator) (executedAt : Nat → String)
    (faults : Faults) (database : Database Schema) :
    ∃ new, (run engine migrator executedAt faults database).2.records = database.records ++ new ∧
      ∀ record ∈ new, record.batch = highestBatch database.records + 1 := by
  apply run_keeps fun other : Database Schema =>
    ∃ new, other.records = database.records ++ new ∧
        ∀ record ∈ new, record.batch = highestBatch database.records + 1
  · exact ⟨[], by simp, by simp⟩
  · exact ⟨[], by simp [Database.ensured, Database.records], by simp⟩
  · rintro index name script other ⟨new, added, ofBatch⟩
    refine transaction_keeps
      (fun after : Database Schema => ∃ new, after.records = database.records ++ new ∧
        ∀ record ∈ new, record.batch = highestBatch database.records + 1) ?_ ?_
    · intro after sameTable _
      rw [records_of_sameTable sameTable]
      exact ⟨new, added, ofBatch⟩
    · intro tracked inserted
      obtain ⟨-, rfl⟩ := insertRecord_ok inserted
      rw [added, append_assoc]
      exact ⟨_, rfl, forall_mem_append.mpr ⟨ofBatch, forall_mem_singleton.mpr rfl⟩⟩

variable {batch : Int} {executedAt : Nat → String} {pending : List Migration} {index : Nat}

theorem applyPending_recorded {name : String} (recorded : name ∈ database.recorded) :
    name ∈ (applyPending engine batch executedAt faults pending index database).2.recorded := by
  apply applyPending_keeps fun other : Database Schema => name ∈ other.recorded
  · intro index other script database recorded
    refine transaction_keeps (fun after : Database Schema => name ∈ after.recorded) ?_ ?_
    · intro after sameTable _
      rw [Database.recorded, records_of_sameTable sameTable]
      exact recorded
    · intro tracked inserted
      obtain ⟨-, rfl⟩ := insertRecord_ok inserted
      rw [Database.recorded, records_changed, map_append]
      exact mem_append_left _ recorded
  · exact recorded

variable {applied : List String}

theorem applyPending_ok
    (answered : (applyPending engine batch executedAt faults pending index database).1 =
      .ok applied) :
    ∀ migration ∈ pending, migration.name ∈
        (applyPending engine batch executedAt faults pending index database).2.recorded := by
  induction pending generalizing index database applied with
  | nil => simp
  | cons migration rest ih =>
    unfold applyPending at answered ⊢
    split at answered
    · simp at answered
    · next script compiled =>
      split at answered
      · simp at answered
      · next after outcome =>
        obtain ⟨records, tracked, -, inserted, rfl⟩ := transaction_ok outcome
        obtain ⟨-, rfl⟩ := insertRecord_ok inserted
        intro other isPending
        rcases mem_cons.mp isPending with rfl | inRest
        · apply applyPending_recorded
          simp [Database.recorded]
        · obtain ⟨names, restAnswered, -⟩ := Fallible.map_eq_ok.mp answered
          exact ih restAnswered other inRest

theorem applyPending_ensured (exists_ : database.tracking.isSome = true) :
    (applyPending engine batch executedAt faults pending index
      database).2.tracking.isSome = true := by
  apply applyPending_keeps fun other : Database Schema => other.tracking.isSome = true
  · intro index name script other exists_
    exact transaction_keeps (fun after : Database Schema => after.tracking.isSome = true)
      (fun after same _ => same ▸ exists_) fun _ _ => rfl
  · exact exists_

theorem ensured_of_exists (exists_ : database.tracking.isSome = true) :
    database.ensured = database := by
  obtain ⟨records, isTable⟩ := Option.isSome_iff_exists.mp exists_
  obtain ⟨schema, tracking, history⟩ := database
  obtain rfl : tracking = some records := isTable
  rfl

variable {migrator : Migrator}

theorem run_ok {faults : Faults}
    (answered : run engine migrator executedAt faults database = (.ok applied, after)) :
    (∀ migration ∈ migrator.migrations, migration.name ∈ after.recorded) ∧
    after.tracking.isSome = true := by
  rcases run_cases engine migrator executedAt faults database with
    ⟨error, outcome | outcome⟩ | ⟨nothing, outcome⟩ | outcome
  · simp [outcome] at answered
  · simp [outcome] at answered
  · rw [outcome] at answered
    obtain ⟨-, rfl⟩ := answered
    refine ⟨?_, rfl⟩
    intro migration registered
    by_contra isPending
    have inPending : migration ∈ migrator.pending database.recorded :=
      mem_filter.mpr ⟨registered, decide_eq_true isPending⟩
    rw [nothing] at inPending
    simp at inPending
  · have answeredLoop := outcome.symm.trans answered
    have firstPart := congrArg Prod.fst answeredLoop
    have secondPart := congrArg Prod.snd answeredLoop
    dsimp only at firstPart secondPart
    rw [← secondPart]
    refine ⟨?_, applyPending_ensured rfl⟩
    intro migration registered
    by_cases isRecorded : migration.name ∈ database.recorded
    · exact applyPending_recorded isRecorded
    · apply applyPending_ok firstPart
      exact mem_filter.mpr ⟨registered, decide_eq_true isRecorded⟩

theorem run_settled {faults : Faults}
    (settled : ∀ migration ∈ migrator.migrations, migration.name ∈ database.recorded)
    (exists_ : database.tracking.isSome = true) :
    run engine migrator executedAt faults database = (.ok [], database) ∨
    ∃ error, run engine migrator executedAt faults database = (.error error, database) := by
  have nothing : migrator.pending database.recorded = [] := by
    apply filter_eq_nil_iff.mpr
    intro migration registered
    simpa using settled migration registered
  rcases run_cases engine migrator executedAt faults database with
    ⟨error, outcome | outcome⟩ | ⟨-, outcome⟩ | outcome
  · exact .inr ⟨error, outcome⟩
  · rw [ensured_of_exists exists_] at outcome
    exact .inr ⟨error, outcome⟩
  · rw [ensured_of_exists exists_] at outcome
    exact .inl outcome
  · rw [nothing, ensured_of_exists exists_] at outcome
    exact .inl outcome

theorem run_settled_ok {faults : Faults}
    (settled : ∀ migration ∈ migrator.migrations, migration.name ∈ database.recorded)
    (exists_ : database.tracking.isSome = true)
    (ensures : faults.ensureTable = none) (reads : faults.appliedNames = none) :
    run engine migrator executedAt faults database = (.ok [], database) := by
  have nothing : migrator.pending database.recorded = [] := by
    apply filter_eq_nil_iff.mpr
    intro migration registered
    simpa using settled migration registered
  have ensured : ensureTable none database = .ok database.ensured := rfl
  have read : appliedNames none database.ensured = .ok database.recorded := rfl
  rw [ensured_of_exists exists_] at ensured read
  simp [run, ensures, ensured, reads, read, nothing]

/-! ## What a rollback reverts -/

variable {reverted : List String}

/-- What a rollback without errors reverts, and in which order. -/
theorem revertBatch_ok {batch : List String} {migrations : List Migration}
    (answered : (revertBatch engine batch faults migrations index database).1 = .ok reverted) :
    reverted = (migrations.map Migration.name).filter (fun name => name ∈ batch) ∧
    (revertBatch engine batch faults migrations index database).2.recorded =
      database.recorded.filter (fun name => name ∉ reverted) ∧
    ∃ changes,
      (revertBatch engine batch faults migrations index database).2.history =
        database.history ++ changes ∧
      changes.map SchemaChange.name = reverted ∧ ∀ change ∈ changes, change.direction = .down := by
  induction migrations generalizing index database reverted with
  | nil =>
    obtain rfl := Except.ok.inj answered
    exact ⟨rfl, by simp [revertBatch], [], by simp [revertBatch]⟩
  | cons migration rest ih =>
    unfold revertBatch at answered ⊢
    split at answered
    · next inBatch =>
      simp only [inBatch, if_true]
      split at answered
      · simp at answered
      · next script compiled =>
        split at answered
        · simp at answered
        · next after outcome =>
          obtain ⟨names, restAnswered, rfl⟩ := Fallible.map_eq_ok.mp answered
          obtain ⟨rfl, recorded, changes, history, named, down⟩ := ih restAnswered
          obtain ⟨records, tracked, exists_, deleted, rfl⟩ := transaction_ok outcome
          obtain rfl := records_of_tracking exists_
          obtain rfl := Except.ok.inj deleted
          refine ⟨by simp [inBatch], ?_, ?_⟩
          · rw [recorded]
            simp only [Database.recorded, records_changed, filter_map, filter_filter]
            congr 1
            apply filter_congr
            intro record _
            by_cases same : record.name = migration.name <;> simp [same]
          · refine
              ⟨{ name := migration.name, direction := .down, script := script } :: changes,
                ?_, ?_, ?_⟩
            · rw [history]
              simp [Database.changed]
            · rw [map_cons, named]
            · intro change isChange
              rcases mem_cons.mp isChange with rfl | inRest
              · rfl
              · exact down change inRest
    · next notInBatch =>
      rw [if_neg notInBatch, map_cons, filter_cons_of_neg (by simpa using notInBatch)]
      exact ih answered

theorem filter_mem_of_sublist {part whole : List String} (distinct : whole.Nodup)
    (isPart : part.Sublist whole) : whole.filter (fun name => name ∈ part) = part := by
  induction isPart with
  | slnil => rfl
  | @cons part whole name isPart ih =>
    obtain ⟨isNew, distinctRest⟩ := nodup_cons.mp distinct
    have notKept : name ∉ part := fun kept => isNew (isPart.subset kept)
    rw [filter_cons_of_neg (by simpa using notKept)]
    exact ih distinctRest
  | @cons_cons part whole name isPart ih =>
    obtain ⟨isNew, distinctRest⟩ := nodup_cons.mp distinct
    rw [filter_cons_of_pos (by simp)]
    refine congrArg (name :: ·) ?_
    rw [← ih distinctRest]
    apply filter_congr
    intro other inWhole
    have different : other ≠ name := fun same => isNew (same ▸ inWhole)
    simp [different, ih distinctRest]

/-- The names of the last batch, in order of application. -/
def Database.lastBatch (database : Database Schema) : List String :=
  namesOfBatch (highestBatch database.records) database.records

theorem lastBatch_of_highestBatch (sound : Sound database)
    (noBatch : highestBatch database.records = 0) : database.lastBatch = [] := by
  have noRow :
      (database.records.filter fun record =>
        record.batch = highestBatch database.records) = [] := by
    apply filter_eq_nil_iff.mpr
    intro record isRecord
    have positive := sound.positive record isRecord
    rw [decide_eq_true_eq]
    omega
  rw [Database.lastBatch, namesOfBatch, noRow, map_nil]

/--
A rollback that answers reverts the registered migrations of the last batch in
reverse registration order.
-/
theorem rollback_ok {faults : Faults} (sound : Sound database)
    (answered : rollback engine migrator faults database = (.ok reverted, after)) :
    reverted = migrator.names.reverse.filter (fun name => name ∈ database.lastBatch) ∧
    after.recorded = database.recorded.filter (fun name => name ∉ reverted) ∧
    ∃ changes,
        after.history = database.history ++ changes ∧ changes.map SchemaChange.name = reverted ∧
        ∀ change ∈ changes, change.direction = .down := by
  rcases rollback_cases engine migrator faults database with
    ⟨error, outcome | outcome⟩ | ⟨noBatch, outcome⟩ | outcome
  · simp [outcome] at answered
  · simp [outcome] at answered
  · rw [outcome, Prod.mk.injEq] at answered
    obtain ⟨nothing, rfl⟩ := answered
    obtain rfl := Except.ok.inj nothing
    refine ⟨?_, ?_, [], by simp [Database.ensured], rfl, by simp⟩
    · simp [lastBatch_of_highestBatch sound noBatch]
    · simp [Database.recorded, Database.ensured, Database.records]
  · have answeredLoop := outcome.symm.trans answered
    have firstPart := congrArg Prod.fst answeredLoop
    have secondPart := congrArg Prod.snd answeredLoop
    dsimp only at firstPart secondPart
    rw [← secondPart]
    have result := revertBatch_ok firstPart
    rw [map_reverse] at result
    exact result

/-! ## The ledger in every history -/

/--
What the tracking table of a database is good for.  `exact` and `order` need
schema changes that are undone with their transaction.
-/
structure LedgerKept (engine : Engine Schema) (schema : Schema)
    (database : Database Schema) : Prop where
  /-- It lists the migrations whose `up` succeeded and no `down` since. -/
  inEffect : engine.dialect.transactionalDdl = true →
      ∀ name, name ∈ database.recorded ↔ InEffect database.history name
  /-- It lists them in order of application, and the schema is theirs. -/
  order : engine.dialect.transactionalDdl = true → database.recorded = standing database.history ∧
        database.schema = replay engine schema database.history
  /-- It names no migration twice. -/
  distinct : database.recorded.Nodup
  /-- A run records under one batch above every batch in the table. -/
  batches : ∀ migrator executedAt faults, ∃ new,
        (run engine migrator executedAt faults database).2.records = database.records ++ new ∧
          ∀ record ∈ new, record.batch = highestBatch database.records + 1 ∧
              ∀ old ∈ database.records, old.batch < record.batch
  /-- A second run after a run without errors applies nothing. -/
  idempotent : ∀ migrator executedAt faults applied after,
      run engine migrator executedAt faults database = (.ok applied, after) → ∀ executedAgain again,
          (again.ensureTable = none → again.appliedNames = none →
              run engine migrator executedAgain again after = (.ok [], after)) ∧
            (run engine migrator executedAgain again after = (.ok [], after) ∨
              ∃ error, run engine migrator executedAgain again after = (.error error, after))
  /-- A rollback without errors reverts the registered last batch. -/
  reverts : ∀ migrator faults reverted after, rollback engine migrator faults database =
          (.ok reverted, after) → (reverted = migrator.names.reverse.filter
              (fun name => name ∈ database.lastBatch) ∧
          after.recorded = database.recorded.filter (fun name => name ∉ reverted) ∧ ∃ changes,
              after.history = database.history ++ changes ∧
                changes.map SchemaChange.name = reverted ∧
                  ∀ change ∈ changes, change.direction = .down) ∧
          (migrator.names.Nodup → database.lastBatch.Sublist migrator.names →
              reverted = database.lastBatch.reverse)

end Runner

/-! ## Histories of two migrations -/

def tables (dialect : Dialect) : Engine (List String) where
  dialect := dialect
  executeScript
    | "CREATE TABLE users (id INTEGER PRIMARY KEY);", schema => (schema ++ ["users"], none)
    | "CREATE TABLE posts (id INTEGER PRIMARY KEY);", schema => (schema ++ ["posts"], none)
    | "DROP TABLE users;", schema => (schema.filter fun table => table ≠ "users", none)
    | "DROP TABLE posts;", schema => (schema.filter fun table => table ≠ "posts", none)
    | _, schema => (schema, some (.other "storage error: syntax error"))

def createUsers : Migration where
  name := "0001_create_users_table"
  up := .ok "CREATE TABLE users (id INTEGER PRIMARY KEY);"
  down := .ok "DROP TABLE users;"

def createPosts : Migration where
  name := "0002_create_posts_table"
  up := .ok "CREATE TABLE posts (id INTEGER PRIMARY KEY);"
  down := .ok "DROP TABLE posts;"

def bothTables : Migrator where
  migrations := [createUsers, createPosts]

def executedAtNoon (_ : Nat) : String := "2026-01-01T12:00:00+00:00"

def bothApplied : Database (List String) :=
  (run (tables .sqlite) bothTables executedAtNoon Faults.none (Database.initial [])).2

def appliedAgain : Database (List String) :=
  (run (tables .sqlite) bothTables executedAtNoon Faults.none
    (rollback (tables .sqlite) bothTables Faults.none bothApplied).2).2

/-- A runner that no longer registers the second migration. -/
def usersOnly : Migrator where
  migrations := [createUsers]

def recordFails : Faults :=
  { Faults.none with
    step := fun _ =>
      { StepFaults.none with record := some (.other "storage error: connection reset") } }

/-- The first migration on MySQL, its row never recorded. -/
def unrecorded : Database (List String) :=
  (run (tables .mysql) usersOnly executedAtNoon recordFails (Database.initial [])).2

end Rustasea.Orm.Migrations
