import Rustasea.Orm.MigrationLedger

namespace Rustasea.Orm.Migrations

/-!
# Whether a rollback makes progress

A rollback passes over the rows of the last batch whose migrations are not
registered.  When it passes over all of them it answers without an error and
leaves the table as it was, and so does every rollback after it.
-/

variable {Schema : Type} {engine : Engine Schema}

def Progresses (engine : Engine Schema) (migrator : Migrator) (faults : Faults)
    (database : Database Schema) : Prop :=
  (∃ error, (rollback engine migrator faults database).1 = .error error) ∨
    (rollback engine migrator faults database).2.records.length < database.records.length

/--
A row of the last batch names a registered migration, and the batch is not the
zero that stands for no batch.
-/
def NamesRegistered (migrator : Migrator) (database : Database Schema) : Prop :=
  highestBatch database.records ≠ 0 ∧
    ∃ migration ∈ migrator.migrations, migration.name ∈ database.lastBatch

/-- A statement in front of the loop meets a fault, if it is reached. -/
def FailsBefore (faults : Faults) (database : Database Schema) : Prop :=
  faults.ensureTable ≠ none ∨
    faults.maxBatch ≠ none ∨ highestBatch database.records ≠ 0 ∧ faults.batchNames ≠ none

/-! ## The loop -/

theorem transaction_records_length_le (faults : StepFaults) (change : SchemaChange)
    (name : String) (database : Database Schema) :
    (transaction engine faults change (deleteRecord name) database).2.records.length ≤
      database.records.length := by
  rcases transaction_cases engine faults change (deleteRecord name)
      database with
    ⟨_, -, sameTable, -⟩ | ⟨records, tracked, isTable, deleted, effect⟩
  · have sameRecords :
        (transaction engine faults change (deleteRecord name)
            database).2.records =
          database.records :=
      congrArg (·.getD []) sameTable
    exact Nat.le_of_eq (congrArg List.length sameRecords)
  · obtain rfl := records_of_tracking isTable
    obtain rfl := Except.ok.inj deleted
    rw [effect]
    exact List.length_filter_le _ _

theorem revertBatch_records_length_le
    (engine : Engine Schema) (names : List String) (faults : Nat → StepFaults)
    (migrations : List Migration) (index : Nat) (database : Database Schema) :
    (revertBatch engine names faults migrations index database).2.records.length ≤
      database.records.length :=
  revertBatch_keeps (fun other => other.records.length ≤ database.records.length)
    (fun _ _ _ other small => le_trans (transaction_records_length_le _ _ _ other) small)
    (Nat.le_refl _)

variable {names : List String} {migrations : List Migration}

theorem revertBatch_of_unregistered {faults : Nat → StepFaults}
    (unregistered : ∀ migration ∈ migrations, migration.name ∉ names)
    (index : Nat) (database : Database Schema) :
    revertBatch engine names faults migrations index database = (.ok [], database) := by
  induction migrations with
  | nil => rfl
  | cons migration rest ih =>
    rw [revertBatch, if_neg (unregistered migration List.mem_cons_self)]
    exact ih fun other isRest => unregistered other (List.mem_cons_of_mem _ isRest)

/--
A registered migration is in the batch: the loop fails or deletes its row.  By
induction on the migrations in front of the first one of the batch.
-/
theorem revertBatch_progresses {faults : Nat → StepFaults}
    (isRegistered : ∃ migration ∈ migrations, migration.name ∈ names) {index : Nat}
    {database : Database Schema} (areRecorded : ∀ name ∈ names, name ∈ database.recorded) :
    (∃ error, (revertBatch engine names faults migrations index database).1 = .error error) ∨
    (revertBatch engine names faults migrations index database).2.records.length <
        database.records.length := by
  induction migrations with
  | nil =>
    obtain ⟨migration, isIn, -⟩ := isRegistered
    exact absurd isIn List.not_mem_nil
  | cons migration rest ih =>
    by_cases inBatch : migration.name ∈ names
    · rw [revertBatch, if_pos inBatch]
      cases migration.down with
      | error error => exact .inl ⟨error, rfl⟩
      | ok script =>
        simp only
        split
        next error after _ => exact .inl ⟨error, rfl⟩
        next after outcome =>
          obtain ⟨records, tracked, isTable, deleted, rfl⟩ := transaction_ok outcome
          obtain rfl := records_of_tracking isTable
          obtain rfl := Except.ok.inj deleted
          obtain ⟨record, isRecord, isName⟩ := List.mem_map.mp (areRecorded migration.name inBatch)
          have deletes :
              (database.records.filter fun record =>
                record.name ≠ migration.name).length < database.records.length :=
            List.length_filter_lt_length_iff_exists.mpr ⟨record, isRecord, by simpa using isName⟩
          exact .inr (Nat.lt_of_le_of_lt
            (revertBatch_records_length_le engine names faults rest (index + 1) _) deletes)
    · rw [revertBatch, if_neg inBatch]
      obtain ⟨other, isIn, otherInBatch⟩ := isRegistered
      rcases List.mem_cons.mp isIn with rfl | isRest
      · exact absurd otherInBatch inBatch
      · exact ih ⟨other, isRest, otherInBatch⟩

/-! ## One call -/

theorem names_recorded (database : Database Schema) :
    ∀ name ∈ database.lastBatch, name ∈ database.recorded := by
  intro name inBatch
  obtain ⟨record, isKept, isName⟩ := List.mem_map.mp inBatch
  exact List.mem_map.mpr ⟨record, List.mem_of_mem_filter isKept, isName⟩

variable {migrator : Migrator} {database : Database Schema} {faults : Faults}

theorem rollback_of_answered (answers : ¬FailsBefore faults database) :
    rollback engine migrator faults database =
      if highestBatch database.records = 0 then (.ok [], database.ensured)
      else
        revertBatch engine database.lastBatch faults.step
          migrator.migrations.reverse 0 database.ensured := by
  rw [FailsBefore, not_or, not_or, not_and, not_not, not_not] at answers
  obtain ⟨ensures, counts, names⟩ := answers
  have ensured : ensureTable none database = .ok database.ensured := rfl
  have highest : maxBatch none database.ensured = .ok (highestBatch database.records) := rfl
  simp only [rollback, ensures, ensured, counts, highest]
  split
  next => rfl
  next isBatch =>
    have answered : faults.batchNames = none := by simpa using names isBatch
    rw [answered]
    rfl

theorem rollback_of_failsBefore (fails : FailsBefore faults database) :
    ∃ error, (rollback engine migrator faults database).1 = .error error := by
  have ensured : ensureTable none database = .ok database.ensured := rfl
  have highest : maxBatch none database.ensured = .ok (highestBatch database.records) := rfl
  cases ensures : faults.ensureTable with
  | some error => exact ⟨error, by rw [rollback, ensures]; rfl⟩
  | none =>
    cases counts : faults.maxBatch with
    | some error => exact ⟨error, by simp only [rollback, ensures, counts]; rfl⟩
    | none =>
      rcases fails with atTable | atCount | ⟨isBatch, atNames⟩
      · exact absurd ensures atTable
      · exact absurd counts atCount
      · obtain ⟨error, names⟩ := Option.ne_none_iff_exists'.mp atNames
        refine ⟨error, ?_⟩
        simp only [rollback, ensures, ensured, counts, highest, if_neg isBatch, names]
        rfl

theorem rollback_of_stuck (answers : ¬FailsBefore faults database)
    (unnamed : ¬NamesRegistered migrator database) :
    rollback engine migrator faults database = (.ok [], database.ensured) := by
  rw [rollback_of_answered answers]
  split
  next => rfl
  next isBatch =>
    refine revertBatch_of_unregistered ?_ 0 database.ensured
    intro migration isMigration inBatch
    exact unnamed ⟨isBatch, migration, List.mem_reverse.mp isMigration, inBatch⟩

/--
A rollback fails or removes a row when, and only when, a statement in front of
its loop fails or a row of the last batch names a registered migration.
-/
theorem progresses_iff (engine : Engine Schema) (migrator : Migrator) (faults : Faults)
    (database : Database Schema) :
    Progresses engine migrator faults database ↔
      FailsBefore faults database ∨ NamesRegistered migrator database := by
  constructor
  · intro progresses
    by_contra stuck
    rw [not_or] at stuck
    rw [Progresses, rollback_of_stuck stuck.1 stuck.2] at progresses
    rcases progresses with ⟨error, failed⟩ | fewer
    · cases failed
    · exact absurd fewer (Nat.lt_irrefl _)
  · intro condition
    by_cases fails : FailsBefore faults database
    · exact .inl (rollback_of_failsBefore fails)
    · obtain ⟨isBatch, migration, isMigration, inBatch⟩ := condition.resolve_left fails
      rw [Progresses, rollback_of_answered fails, if_neg isBatch]
      exact revertBatch_progresses ⟨migration, List.mem_reverse.mpr isMigration, inBatch⟩
        (names_recorded database)

/-! ## Rolling back until the table is empty -/

/-- The database after some calls; an empty table and an error end the run. -/
@[grind =] def rollbackTimes (engine : Engine Schema) (migrator : Migrator) (faults : Nat → Faults)
    (database : Database Schema) : Nat → Except OrmError (Database Schema)
  | 0 => .ok database
  | calls + 1 =>
    match rollbackTimes engine migrator faults database calls with
    | .error error => .error error
    | .ok reached =>
      if reached.records = [] then .ok reached
      else
        match rollback engine migrator (faults calls) reached with
        | (.error error, _) => .error error
        | (.ok _, after) => .ok after

/-- The run is over: a call failed, or no row is left. -/
def Over (outcome : Except OrmError (Database Schema)) : Prop :=
  ∀ reached, outcome = .ok reached → reached.records = []

variable {faults : Nat → Faults} {calls : Nat} {database reached : Database Schema}

theorem rollbackTimes_succ
    (isReached : rollbackTimes engine migrator faults database calls = .ok reached)
    (isNonempty : reached.records ≠ []) :
    rollbackTimes engine migrator faults database (calls + 1) =
      (rollback engine migrator (faults calls) reached).1.map fun _ =>
        (rollback engine migrator (faults calls) reached).2 := by
  rw [rollbackTimes, isReached]
  simp only [if_neg isNonempty]
  generalize rollback engine migrator (faults calls) reached = outcome
  obtain ⟨answer, after⟩ := outcome
  cases answer <;> rfl

/-- Every call of the run that is reached with rows left progresses. -/
def ProgressesThroughout (engine : Engine Schema) (migrator : Migrator) (faults : Nat → Faults)
    (database : Database Schema) : Prop :=
  ∀ calls reached, rollbackTimes engine migrator faults database calls = .ok reached →
    reached.records ≠ [] → FailsBefore (faults calls) reached ∨ NamesRegistered migrator reached

theorem records_length_of_rollbackTimes
    (progresses : ProgressesThroughout engine migrator faults database) (calls : Nat) :
    ∀ reached, rollbackTimes engine migrator faults database calls = .ok reached →
      reached.records.length ≤ database.records.length - calls := by
  induction calls with
  | zero =>
    intro reached isReached
    rw [← Except.ok.inj isReached]
    exact Nat.le_refl _
  | succ calls ih =>
    intro reached isReached
    cases before : rollbackTimes engine migrator faults database calls with
    | error error =>
      rw [rollbackTimes, before] at isReached
      cases isReached
    | ok earlier =>
      have bounded := ih earlier before
      by_cases isEmpty : earlier.records = []
      · rw [rollbackTimes, before] at isReached
        simp only [if_pos isEmpty] at isReached
        rw [← Except.ok.inj isReached, isEmpty]
        exact Nat.zero_le _
      · rw [rollbackTimes_succ before isEmpty] at isReached
        have called := (progresses_iff engine migrator (faults calls)
          earlier).mpr (progresses calls earlier before isEmpty)
        rcases called with ⟨error, failed⟩ | fewer
        · rw [failed] at isReached
          cases isReached
        · cases answered :
              (rollback engine migrator (faults calls) earlier).1 with
          | error error =>
            rw [answered] at isReached
            cases isReached
          | ok names =>
            rw [answered] at isReached
            rw [← Except.ok.inj isReached]
            exact Nat.le_sub_one_of_lt (Nat.lt_of_lt_of_le fewer bounded)

theorem over_of_progressesThroughout
    (progresses : ProgressesThroughout engine migrator faults database) :
    Over (rollbackTimes engine migrator faults database database.records.length) := by
  intro reached isReached
  have bounded := records_length_of_rollbackTimes progresses
    database.records.length reached isReached
  rw [Nat.sub_self] at bounded
  exact List.eq_nil_of_length_eq_zero (Nat.le_zero.mp bounded)

theorem over_succ (isOver : Over (rollbackTimes engine migrator faults database calls)) :
    Over (rollbackTimes engine migrator faults database (calls + 1)) := by
  intro reached isReached
  cases before : rollbackTimes engine migrator faults database calls with
  | error error =>
    rw [rollbackTimes, before] at isReached
    cases isReached
  | ok earlier =>
    have isEmpty := isOver earlier before
    rw [rollbackTimes, before] at isReached
    simp only [if_pos isEmpty] at isReached
    rw [← Except.ok.inj isReached]
    exact isEmpty

theorem not_over_of_stuck
    (isReached : rollbackTimes engine migrator (fun _ => Faults.none) database calls = .ok reached)
    (isNonempty : reached.records ≠ []) (unnamed : ¬NamesRegistered migrator reached) (more : Nat) :
    ∃ later,
      rollbackTimes engine migrator (fun _ => Faults.none) database (calls + more) = .ok later ∧
        later.records = reached.records := by
  induction more with
  | zero => exact ⟨reached, isReached, rfl⟩
  | succ more ih =>
    obtain ⟨later, isLater, sameRecords⟩ := ih
    have laterNonempty : later.records ≠ [] := by
      rw [sameRecords]
      exact isNonempty
    have laterUnnamed : ¬NamesRegistered migrator later := by
      rw [NamesRegistered, Database.lastBatch, sameRecords]
      exact unnamed
    have answers : ¬FailsBefore Faults.none later := by simp [FailsBefore, Faults.none]
    refine ⟨later.ensured, ?_, sameRecords⟩
    rw [← Nat.add_assoc, rollbackTimes_succ isLater laterNonempty,
      rollback_of_stuck answers laterUnnamed]
    rfl

theorem over_iff_progressesThroughout (engine : Engine Schema) (migrator : Migrator)
    (database : Database Schema) :
    (∃ calls, Over (rollbackTimes engine migrator (fun _ => Faults.none) database calls)) ↔
      ProgressesThroughout engine migrator (fun _ => Faults.none) database := by
  constructor
  · rintro ⟨calls, isOver⟩ stuckAt reached isReached isNonempty
    by_contra stuck
    obtain ⟨later, isLater, sameRecords⟩ :=
      not_over_of_stuck isReached isNonempty (fun named => stuck (.inr named)) calls
    have overLater : ∀ more,
        Over (rollbackTimes engine migrator (fun _ => Faults.none) database (calls + more)) := by
      intro more
      induction more with
      | zero => exact isOver
      | succ more ih => exact over_succ ih
    have isEmpty := overLater stuckAt later (by
      rw [Nat.add_comm]
      exact isLater)
    exact isNonempty (sameRecords.symm.trans isEmpty)
  · intro progresses
    exact ⟨_, over_of_progressesThroughout progresses⟩

def guestRow : Database (List String) where
  schema := ["guests"]
  tracking := some
    [{ name := "0003_create_guests_table", batch := 1, executedAt := "2026-01-01T12:00:00+00:00" }]
  history := []

end Rustasea.Orm.Migrations
