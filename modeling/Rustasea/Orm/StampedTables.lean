import Rustasea.Library.Timestamp
import Rustasea.Orm.Mutations

namespace Rustasea.Orm.StampedTables

open List

open EffectProgram (Handler Makes Program Takes)
open EffectProgram.Program (run)
open Rustasea.Orm.Mutations
open Timestamp (Instant)

/-!
# Tables whose rows are stamped

A database in which the requests of soft deletes and restores succeed: rows with
a `deleted_at` column, the conditions of the write path, and a clock that gives
every statement its instant.  The statements of the other mutations are left to
the database.
-/

abbrev marker : String := "deleted_at"

/-- The comparisons of the database, where NULL equals nothing. -/
structure Database where
  equal : Value Json → Json → Bool
  null_unequal : ∀ value, equal value .null = false
  other : Write → List Json → List Json × Nat

/-- The instants of the statements; time does not run backwards. -/
structure Clock where
  instant : Nat → Instant
  monotone : Monotone instant

def Clock.stamp (clock : Clock) (statement : Nat) : Json :=
  .string (clock.instant statement).print

/-- The rows of every table, and how many statements were executed. -/
structure World where
  tables : String → List Json
  statements : Nat

/-! ## Conditions -/

def isNullCell (row : Json) (column : String) : Bool :=
  match row.get column with
  | none => true
  | some .null => true
  | some _ => false

def cellEquals (database : Database) (row : Json) (column : String) (value : Value Json) : Bool :=
  match row.get column with
  | some cell => database.equal value cell
  | none => false

def tupleEquals (database : Database) (row : Json) (columns : List String)
    (values : List (Value Json)) : Bool :=
  decide (values.length = columns.length) &&
    (columns.zip values).all fun (column, value) =>
      cellEquals database row column value

def passes (database : Database) (row : Json) : Clause Json → Bool
  | .whereEq column value => cellEquals database row column value
  | .whereIn column values => values.any (cellEquals database row column)
  | .whereInRows columns tuples => !columns.isEmpty && tuples.any (tupleEquals database row columns)
  | .whereNull column => isNullCell row column
  | .whereNotNull column => !isNullCell row column
  | _ => true

def passesAll (database : Database) (clauses : List (Clause Json)) (row : Json) : Bool :=
  clauses.all (passes database row)

/-- The `LIMIT` of a query. -/
def limitOf : List (Clause Json) → Option Nat
  | [] => none
  | .limit count :: _ => some count
  | _ :: rest => limitOf rest

def select (database : Database) (clauses : List (Clause Json)) (rows : List Json) : List Json :=
  let passing := rows.filter (passesAll database clauses)
  match limitOf clauses with
  | some count => passing.take count
  | none => passing

def keyHolds (database : Database) (key : KeyFilter Json) (row : Json) : Bool :=
  passesAll database (keyClauses key) row

def idIn (database : Database) (ids : List (Value Json)) (row : Json) : Bool :=
  ids.any (cellEquals database row "id")

/-! ## Statements -/

def markWhere (picks : Json → Bool) (value : Json) (rows : List Json) : List Json :=
  rows.map fun row => if picks row then row.set marker value else row

def World.statement (table : String) (change : List Json → List Json) (world : World) : World where
  tables := Function.update world.tables table (change (world.tables table))
  statements := world.statements + 1

/-- What a statement does, and how many rows it affects. -/
def perform (database : Database) (clock : Clock) (write : Write) (world : World) : World × Nat :=
  let rows := world.tables write.table
  let mark (picks : Json → Bool) (value : Json) :=
    (world.statement write.table (markWhere picks value), rows.countP picks)
  let remove (picks : Json → Bool) :=
    (world.statement write.table (List.filter fun row => !picks row), rows.countP picks)
  match write with
  | .softDelete _ key => mark (keyHolds database key) (clock.stamp world.statements)
  | .restore _ key => mark (keyHolds database key) .null
  | .delete _ key => remove (keyHolds database key)
  | .childChunk _ ids .softDelete => mark (idIn database ids) (clock.stamp world.statements)
  | .childChunk _ ids .restore => mark (idIn database ids) .null
  | .childChunk _ ids .forceDelete => remove (idIn database ids)
  | other =>
    (world.statement other.table fun rows => (database.other other rows).1,
      (database.other other rows).2)

def handle (database : Database) (clock : Clock) : Handler Request Reply MutationError World
  | .get table clauses, world => (world, .ok (select database clauses (world.tables table)))
  | .execute write, world =>
    let (after, affected) := perform database clock write world
    (after, .ok affected)
  | .serialize _, world => (world, .ok ())
  | .hydrate _, world => (world, .ok ())
  | .record _, world => (world, .ok ())
  | .invalidateTable _, world => (world, .ok ())

/-! ## Marked rows -/

/--
In every table the picked rows, and no others, got a marker among the given
values.
-/
def Marked (picked : String → Json → Prop) (values : Json → Prop) (before after : World) : Prop :=
  ∀ table, ∃ change : Json → Json, after.tables table = (before.tables table).map change ∧
      ∀ row ∈ before.tables table,
        (picked table row → ∃ value, values value ∧ change row = row.set marker value) ∧
          (¬picked table row → change row = row)

theorem setField_setField (field : String) (first second : Json) (fields : List (String × Json)) :
    Json.setField field second (Json.setField field first fields) =
      Json.setField field second fields := by
  induction fields with
  | nil => simp [Json.setField]
  | cons entry rest ih =>
    obtain ⟨name, present⟩ := entry
    by_cases same : field = name
    · simp [Json.setField, same]
    · rw [Json.setField, if_neg same, Json.setField, if_neg same, ih, Json.setField, if_neg same]

theorem set_set (row : Json) (field : String) (first second : Json) :
    (row.set field first).set field second = row.set field second := by
  cases row with
  | object fields => exact congrArg _ (setField_setField field first second fields)
  | _ => rfl

namespace Marked

variable {picked later : String → Json → Prop} {values more : Json → Prop}
  {first second third : World}

theorem of_tables_eq (same : second.tables = first.tables)
    (none : ∀ table row, ¬picked table row) : Marked picked values first second := by
  intro table
  refine ⟨id, by rw [same, map_id], fun row _ => ⟨?_, fun _ => rfl⟩⟩
  intro isPicked
  exact absurd isPicked (none table row)

theorem trans (one : Marked picked values first second) (two : Marked later values second third) :
    Marked (fun table row => picked table row ∨ later table row) values first third := by
  intro table
  obtain ⟨change, isSecond, changes⟩ := one table
  obtain ⟨change', isThird, changes'⟩ := two table
  refine ⟨change' ∘ change, by rw [isThird, isSecond, map_map], ?_⟩
  intro row isRow
  have isChanged : change row ∈ second.tables table := by
    rw [isSecond]
    exact mem_map_of_mem isRow
  obtain ⟨marks, leaves⟩ := changes row isRow
  obtain ⟨marks', leaves'⟩ := changes' (change row) isChanged
  by_cases isPicked : picked table row
  · obtain ⟨value, isValue, isMarked⟩ := marks isPicked
    refine ⟨fun _ => ?_, fun neither => absurd (.inl isPicked) neither⟩
    by_cases isLater : later table (change row)
    · obtain ⟨value', isValue', isMarked'⟩ := marks' isLater
      refine ⟨value', isValue', ?_⟩
      rw [Function.comp_apply, isMarked', isMarked, set_set]
    · refine ⟨value, isValue, ?_⟩
      rw [Function.comp_apply, leaves' isLater, isMarked]
  · have same := leaves isPicked
    rw [same] at marks' leaves'
    refine ⟨?_, ?_⟩
    · rintro (isPicked' | isLater)
      · exact absurd isPicked' isPicked
      · obtain ⟨value, isValue, isMarked⟩ := marks' isLater
        exact ⟨value, isValue, by rw [Function.comp_apply, same, isMarked]⟩
    · intro neither
      rw [Function.comp_apply, same, leaves' fun isLater => neither (.inr isLater)]

theorem congr (marked : Marked picked values first second)
    (samePicked : ∀ table, ∀ row ∈ first.tables table, picked table row ↔ later table row)
    (moreValues : ∀ value, values value → more value) : Marked later more first second := by
  intro table
  obtain ⟨change, isSecond, changes⟩ := marked table
  refine ⟨change, isSecond, fun row isRow => ?_⟩
  obtain ⟨marks, leaves⟩ := changes row isRow
  have same := samePicked table row isRow
  refine ⟨fun isLater => ?_, fun notLater => leaves fun isPicked => notLater (same.mp isPicked)⟩
  obtain ⟨value, isValue, isMarked⟩ := marks (same.mpr isLater)
  exact ⟨value, moreValues value isValue, isMarked⟩

variable {table : String} {row : Json}

theorem exists_mem (marked : Marked picked values first second)
    (isRow : row ∈ first.tables table) (isPicked : picked table row) :
    ∃ value, values value ∧ row.set marker value ∈ second.tables table := by
  obtain ⟨change, isSecond, changes⟩ := marked table
  obtain ⟨value, isValue, isMarked⟩ := (changes row isRow).1 isPicked
  refine ⟨value, isValue, ?_⟩
  rw [isSecond, ← isMarked]
  exact mem_map_of_mem isRow

theorem mem_of_not (marked : Marked picked values first second) (isRow : row ∈ first.tables table)
    (notPicked : ¬picked table row) : row ∈ second.tables table := by
  obtain ⟨change, isSecond, changes⟩ := marked table
  rw [isSecond, ← (changes row isRow).2 notPicked]
  exact mem_map_of_mem isRow

theorem tables_eq_of_none (marked : Marked picked values first second)
    (none : ∀ row, ¬picked table row) : second.tables table = first.tables table := by
  obtain ⟨change, isSecond, changes⟩ := marked table
  rw [isSecond]
  calc (first.tables table).map change
    = (first.tables table).map id :=
        map_congr_left fun row isRow => (changes row isRow).2 (none row)
    _ = first.tables table := map_id _

end Marked

def Restamped (before after : World) : Prop :=
  ∀ table, ∃ change : Json → Json, after.tables table = (before.tables table).map change ∧
      ∀ row ∈ before.tables table,
        ∀ column, column ≠ marker → (change row).get column = row.get column

namespace Restamped

variable {first second third : World}

theorem of_tables_eq (same : second.tables = first.tables) : Restamped first second :=
  fun _ => ⟨id, by rw [same, map_id], fun _ _ _ _ => rfl⟩

theorem trans (one : Restamped first second) (two : Restamped second third) :
    Restamped first third := by
  intro table
  obtain ⟨change, isSecond, keeps⟩ := one table
  obtain ⟨change', isThird, keeps'⟩ := two table
  refine ⟨change' ∘ change, by rw [isThird, isSecond, map_map], ?_⟩
  intro row isRow column isKept
  have isChanged : change row ∈ second.tables table := by
    rw [isSecond]
    exact mem_map_of_mem isRow
  exact (keeps' _ isChanged column isKept).trans (keeps row isRow column isKept)

theorem of_marked {picked : String → Json → Prop} {values : Json → Prop}
    (marked : Marked picked values first second) : Restamped first second := by
  intro table
  obtain ⟨change, isSecond, changes⟩ := marked table
  refine ⟨change, isSecond, fun row isRow column isKept => ?_⟩
  obtain ⟨marks, leaves⟩ := changes row isRow
  by_cases isPicked : picked table row
  · obtain ⟨value, -, isMarked⟩ := marks isPicked
    rw [isMarked]
    exact Json.get_set_of_ne isKept value row
  · rw [leaves isPicked]

end Restamped

/-! ## Rows and their ids -/

/-- The id of a row, bound as the cascade binds it, is the id of no other. -/
def Identified (database : Database) (rows : List Json) : Prop :=
  ∀ row ∈ rows, ∃ key, rowKey row "id" = some key ∧
      ∀ other ∈ rows, cellEquals database other "id" (keyToValue key) = true ↔ other = row

variable {row other : Json} {column : String}

theorem cellEquals_congr (database : Database) (same : other.get column = row.get column)
    (value : Value Json) :
    cellEquals database other column value = cellEquals database row column value := by
  unfold cellEquals
  rw [same]

theorem rowKey_congr (same : other.get column = row.get column) :
    rowKey other column = rowKey row column := by
  unfold rowKey
  rw [same]

variable {database : Database}

theorem Identified.restamped {first second : World} (restamped : Restamped first second)
    {table : String} (identified : Identified database (first.tables table)) :
    Identified database (second.tables table) := by
  obtain ⟨change, isSecond, keeps⟩ := restamped table
  have sameId (row : Json) (isRow : row ∈ first.tables table) :
      (change row).get "id" = row.get "id" :=
    keeps row isRow "id" (by decide)
  rw [isSecond]
  intro changed isChanged
  obtain ⟨row, isRow, rfl⟩ := mem_map.mp isChanged
  obtain ⟨key, isKey, matchesOnly⟩ := identified row isRow
  refine ⟨key, (rowKey_congr (sameId row isRow)).trans isKey, ?_⟩
  intro other isOther
  obtain ⟨origin, isOrigin, rfl⟩ := mem_map.mp isOther
  rw [cellEquals_congr database (sameId origin isOrigin)]
  constructor
  · intro matchesOrigin
    rw [(matchesOnly origin isOrigin).mp matchesOrigin]
  · intro sameRow
    have sameIds : origin.get "id" = row.get "id" := by
      rw [← sameId origin isOrigin, sameRow, sameId row isRow]
    rw [cellEquals_congr database sameIds]
    exact (matchesOnly row isRow).mpr rfl

theorem idIn_iff_mem {rows : List Json} (identified : Identified database rows)
    (chosen : Json → Bool) {row : Json} (isRow : row ∈ rows) :
    idIn database (((rows.filter chosen).filterMap (rowKey · "id")).map keyToValue) row = true ↔
      chosen row = true := by
  unfold idIn
  rw [any_eq_true]
  constructor
  · rintro ⟨value, isValue, isEqual⟩
    obtain ⟨key, isKey, rfl⟩ := mem_map.mp isValue
    obtain ⟨source, isSource, isSourceKey⟩ := mem_filterMap.mp isKey
    obtain ⟨isStored, isChosen⟩ := mem_filter.mp isSource
    obtain ⟨ownKey, isOwnKey, matchesOnly⟩ := identified source isStored
    have sameKey : ownKey = key := Option.some.inj (isOwnKey.symm.trans isSourceKey)
    rw [(matchesOnly row isRow).mp (sameKey ▸ isEqual)]
    exact isChosen
  · intro isChosen
    obtain ⟨key, isKey, matchesOnly⟩ := identified row isRow
    refine ⟨keyToValue key, ?_, (matchesOnly row isRow).mpr rfl⟩
    exact mem_map_of_mem (mem_filterMap.mpr
      ⟨row, mem_filter.mpr ⟨isRow, isChosen⟩, isKey⟩)

theorem exists_chunk_iff {Item : Type} {size : Nat} (positive : 0 < size) (items : List Item)
    (item : Item) : (∃ chunk ∈ chunksOf size items, item ∈ chunk) ↔ item ∈ items := by
  constructor
  · rintro ⟨chunk, isChunk, isItem⟩
    obtain ⟨index, -, rfl⟩ := mem_map.mp isChunk
    exact mem_of_mem_drop (mem_of_mem_take isItem)
  · intro isItem
    obtain ⟨position, below, rfl⟩ := getElem_of_mem isItem
    have covered : items.length ≤ (items.length + size - 1) / size * size := by
      have above := Nat.lt_mul_div_succ (items.length + size - 1) positive
      rw [Nat.mul_add, Nat.mul_comm] at above
      omega
    refine ⟨_, mem_map_of_mem (mem_range.mpr
      ((Nat.div_lt_iff_lt_mul positive).mpr (Nat.lt_of_lt_of_le below covered))), ?_⟩
    apply mem_of_getElem?
    · rw [getElem?_take_of_lt (Nat.mod_lt position positive),
        getElem?_drop, Nat.mul_comm, Nat.div_add_mod]
      exact getElem?_eq_getElem below

end Rustasea.Orm.StampedTables
