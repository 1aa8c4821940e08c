import Rustasea.Library.TransitionSystem
import Rustasea.Orm.SoftDeleteTree

namespace Rustasea.Orm.RestoreHistory

open EffectProgram (Makes Program Takes)
open EffectProgram.Program (run)
open Rustasea.Orm.Mutations
open Rustasea.Orm.SoftDeleteTree
open Rustasea.Orm.StampedTables
open Timestamp (Instant)
open TransitionSystem (Reachable ReachableAlong)

/-!
# Restores after any soft deletes and restores

Whatever soft deletes and restores of whatever models came before, a restore
clears the stamps of its row and of the children that are stamped at or after
it.  These include the children that the parent's own soft delete trashed, and
none that were trashed at an earlier instant.
-/

variable {database : Database} {clock : Clock}

/-! ## Runs of calls -/

/-- A call of a run, of any model, with any key. -/
inductive Action where
  | softDelete (recorderInstalled : Bool) (model : Model) (key : List (Value Json))
  | restore (recorderInstalled : Bool) (model : Model) (key : List (Value Json))

def Action.call : Action → Mutations.Call Bool
  | .softDelete recorderInstalled model key => (softDeleteByKey recorderInstalled model key).call
  | .restore recorderInstalled model key => (restoreByKey recorderInstalled model key).call

def step? (database : Database) (clock : Clock) (world : World) (action : Action) : Option World :=
  some (run (handle database clock) action.call world).1

/-- A request whose statement, if it is one, sets markers. -/
def IsMarking : Request → Prop
  | .execute (.softDelete _ _) => True
  | .execute (.restore _ _) => True
  | .execute (.childChunk _ _ mode) => mode ≠ .forceDelete
  | .execute _ => False
  | _ => True

theorem isMarking_of_quiet (asked : Request) (quiet : IsQuiet asked) : IsMarking asked := by
  cases asked with
  | execute write => cases quiet
  | invalidateTable table => cases quiet
  | _ => trivial

theorem marking_of_quiet {Result : Type} {program : Mutations.Call Result}
    (quiet : Quiet program) : Makes IsMarking program :=
  quiet.mono isMarking_of_quiet

variable {mode : CascadeMode}

theorem marking_executeChildChunk (notForced : mode ≠ .forceDelete) (table : String)
    (ids : List (Value Json)) : Makes IsMarking (executeChildChunk table mode ids) :=
  .bind (marking_of_quiet (quiet_validateIdentifier _ _)) fun _ =>
    .bind (.ask notForced) fun _ => .ask trivial

theorem marking_cascadeRelation (notForced : mode ≠ .forceDelete) (records : Bool) (parent : Json)
    (relation : Relation) : Makes IsMarking (cascadeRelation records parent mode relation) :=
  .bind (marking_of_quiet (quiet_get _ _)) fun _ =>
    .bind (.forM (marking_executeChildChunk notForced _) _) fun _ =>
      marking_of_quiet (quiet_recordChildren records relation mode _)

theorem marking_cascadeOver (notForced : mode ≠ .forceDelete) (records : Bool) (model : Model)
    (parent : Json) (names visited : List String) :
    Makes IsMarking (cascadeOver records model parent mode names visited) := by
  induction names generalizing visited with
  | nil => exact .pure _
  | cons name names ih =>
    unfold cascadeOver
    split
    · exact .fail _
    · next relation _ =>
      split
      · exact ih visited
      · apply Makes.bind
          (marking_of_quiet (quiet_validateRelationIdentifiers relation))
        intro _
        split
        · exact ih visited
        · split
          · exact ih (name :: visited)
          · exact .bind
              (marking_cascadeRelation notForced records parent relation)
              fun _ => ih (name :: visited)

theorem marking_handOn (notForced : mode ≠ .forceDelete) {event : Mutations.Call Unit}
    (quiet : Quiet event) (recorderInstalled : Bool) (model : Model)
    (records affects : Bool) (parent : Option Json) :
    Makes IsMarking (do
      onlyIf (records && affects) event
      onlyIf affects (cascadeFrom recorderInstalled model parent mode)
      pure affects) := by
  apply Makes.bind (marking_of_quiet (quiet_onlyIf quiet))
  intro _
  refine .bind ?_ fun _ => .pure _
  unfold onlyIf
  split
  · cases parent with
    | none => exact .pure _
    | some parent => exact marking_cascadeOver notForced _ model parent _ _
  · exact .pure _

theorem Action.marking (action : Action) : Makes IsMarking action.call := by
  cases action with
  | softDelete recorderInstalled model key | restore recorderInstalled model key =>
    refine .bind (marking_of_quiet (quiet_readBefore model _ key)) ?_
    rintro ⟨filter, old, parent⟩
    refine .bind (.ask trivial) fun affected => .bind ?_ fun _ =>
      .bind (.ask trivial) fun _ => .pure _
    exact marking_handOn (by decide)
      (.bind (quiet_snapshot model _) fun _ => quiet_dispatch _) _ _ _ _ _

theorem restamped_of_isMarking {asked : Request} (isMarking : IsMarking asked) (world : World) :
    Restamped world (handle database clock asked world).1 := by
  have marks (table : String) (picks : Json → Bool) (value : Json) :
      Restamped world (world.statement table (markWhere picks value)) := by
    have isValue : (fun other => other = value) value := rfl
    exact .of_marked (marked_statement table picks isValue world)
  cases asked with
  | execute write =>
    cases write with
    | softDelete table key | restore table key => exact marks table _ _
    | childChunk table ids mode =>
      cases mode with
      | softDelete | restore => exact marks table _ _
      | forceDelete => exact absurd rfl isMarking
    | _ => cases isMarking
  | _ => exact .of_tables_eq rfl

theorem restamped_of_reachable {start world : World}
    (reached : Reachable (step? database clock) start world) : Restamped start world := by
  refine reached.invariant (Restamped start) (.of_tables_eq rfl) ?_
  intro before action after restamped _ taken
  obtain rfl := Option.some.inj taken
  have takes : Takes (handle database clock) Restamped action.call :=
    action.marking.takes (fun _ => .of_tables_eq rfl) (fun _ _ _ => .trans)
      fun asked world isMarking => restamped_of_isMarking isMarking world
  exact restamped.trans (takes before)

/-! ## Conditions that see no marker -/

variable {value : Value Json} {row : Json} {column : String}

theorem ne_marker_of_cellEquals (active : isNullCell row marker = true)
    (isEqual : cellEquals database row column value = true) : column ≠ marker := by
  rintro rfl
  unfold cellEquals at isEqual
  unfold isNullCell at active
  split at isEqual
  · next cell isCell =>
    rw [isCell] at active
    cases cell with
    | null =>
      rw [database.null_unequal] at isEqual
      cases isEqual
    | _ => cases active
  · cases isEqual

theorem ne_marker_of_rowKey (active : isNullCell row marker = true) {column key : String}
    (isKey : rowKey row column = some key) : column ≠ marker := by
  rintro rfl
  unfold rowKey at isKey
  unfold isNullCell at active
  split at isKey
  · next isCell =>
    rw [isCell] at active
    cases active
  · next isCell =>
    rw [isCell] at active
    cases active
  · cases isKey

def SameCells (first second : Json) : Prop :=
  ∀ column, column ≠ marker → second.get column = first.get column

theorem sameCells_set (row value : Json) : SameCells row (row.set marker value) :=
  fun _ different => Json.get_set_of_ne different value row

variable {row other : Json}

theorem cellEquals_of_sameCells (active : isNullCell row marker = true)
    (same : SameCells row other) (isEqual : cellEquals database row column value = true) :
    cellEquals database other column value = true := by
  rw [cellEquals_congr database (same column (ne_marker_of_cellEquals active isEqual))]
  exact isEqual

theorem rowKey_of_sameCells (active : isNullCell row marker = true)
    (same : SameCells row other) {column key : String}
    (isKey : rowKey row column = some key) : rowKey other column = some key := by
  rw [rowKey_congr (same column (ne_marker_of_rowKey active isKey))]
  exact isKey

variable {columns : List String}

theorem tupleEquals_of_sameCells (active : isNullCell row marker = true)
    (same : SameCells row other) {values : List (Value Json)}
    (isEqual : tupleEquals database row columns values = true) :
    tupleEquals database other columns values = true := by
  unfold tupleEquals at isEqual ⊢
  rw [Bool.and_eq_true, List.all_eq_true] at isEqual ⊢
  exact ⟨isEqual.1, fun entry isEntry =>
    cellEquals_of_sameCells active same (isEqual.2 entry isEntry)⟩

variable {parent other : Json}

theorem parentKeys_of_sameCells
    (active : isNullCell parent marker = true) (same : SameCells parent other)
    (isKey : value ∈ parentKeys [parent] column) : value ∈ parentKeys [other] column := by
  cases isOwn : rowKey parent column with
  | none => simp [parentKeys, isOwn, firstOfEach] at isKey
  | some key =>
    have isOther := rowKey_of_sameCells active same isOwn
    simp only [parentKeys, List.filterMap_cons, isOwn] at isKey
    simp only [parentKeys, List.filterMap_cons, isOther]
    exact isKey

theorem rowKeys_of_sameCells (active : isNullCell parent marker = true)
    (same : SameCells parent other) {columns keys : List String}
    (areKeys : columns.mapM (rowKey parent) = some keys) :
    columns.mapM (rowKey other) = some keys ∧
    columns.filterMap (rowKey other) = columns.filterMap (rowKey parent) := by
  induction columns generalizing keys with
  | nil => exact ⟨areKeys, rfl⟩
  | cons column rest ih =>
    rw [List.mapM_cons] at areKeys
    obtain ⟨key, isKey, areRest⟩ := Option.bind_eq_some_iff.mp areKeys
    obtain ⟨later, areLater, isWhole⟩ := Option.bind_eq_some_iff.mp areRest
    obtain ⟨otherRest, sameRest⟩ := ih areLater
    have otherKey := rowKey_of_sameCells active same isKey
    refine ⟨?_, ?_⟩
    · rw [List.mapM_cons, otherKey, otherRest]
      exact isWhole
    · rw [List.filterMap_cons, List.filterMap_cons, otherKey, isKey, sameRest]

theorem parentRows_of_sameCells (active : isNullCell parent marker = true)
    (same : SameCells parent other) {tuple : List (Value Json)}
    (isTuple : tuple ∈ parentRows [parent] columns) : tuple ∈ parentRows [other] columns := by
  cases isOwn : columns.mapM (rowKey parent) with
  | none => simp [parentRows, rowCompositeKey, isOwn, firstOfEach] at isTuple
  | some keys =>
    obtain ⟨isOther, sameKeys⟩ := rowKeys_of_sameCells active same isOwn
    simp only [parentRows, rowCompositeKey, List.filterMap_cons, isOwn] at isTuple
    simp only [parentRows, rowCompositeKey, List.filterMap_cons, isOther, sameKeys]
    exact isTuple

theorem keysMatch_of_sameCells {parent other row changed : Json} {relation : Relation}
    (activeParent : isNullCell parent marker = true) (sameParent : SameCells parent other)
    (active : isNullCell row marker = true) (same : SameCells row changed)
    (isChild : keysMatch database parent relation row = true) :
    keysMatch database other relation changed = true := by
  simp only [keysMatch, childClauses, passesAll, List.all_cons, List.all_nil,
    Bool.and_true] at isChild ⊢
  split at isChild
  · next isComposite =>
    rw [if_pos isComposite]
    simp only [passes, Bool.and_eq_true, List.any_eq_true] at isChild ⊢
    obtain ⟨notEmpty, tuple, isTuple, isEqual⟩ := isChild
    exact ⟨notEmpty, tuple, parentRows_of_sameCells activeParent sameParent isTuple,
      tupleEquals_of_sameCells active same isEqual⟩
  · next notComposite =>
    rw [if_neg notComposite]
    simp only [passes, List.any_eq_true] at isChild ⊢
    obtain ⟨value, isValue, isEqual⟩ := isChild
    exact ⟨value, parentKeys_of_sameCells activeParent sameParent isValue,
      cellEquals_of_sameCells active same isEqual⟩

/-! ## The soft delete of an active parent -/

variable {key : KeyFilter Json}

theorem keyHolds_set {parent : Json} (active : isNullCell parent marker = true)
    (holds : keyHolds database key parent = true) (row value : Json) :
    keyHolds database key (row.set marker value) = keyHolds database key row := by
  unfold keyHolds passesAll keyClauses at holds ⊢
  rw [List.all_map, List.all_eq_true] at holds
  rw [List.all_map, List.all_map, Bool.eq_iff_iff, List.all_eq_true, List.all_eq_true]
  apply forall₂_congr
  intro entry isEntry
  have sameCell : cellEquals database (row.set marker value) entry.1 entry.2 =
      cellEquals database row entry.1 entry.2 :=
    cellEquals_congr database (Json.get_set_of_ne
      (ne_marker_of_cellEquals active (holds entry isEntry)) value row) entry.2
  exact iff_of_eq (congrArg (· = true) sameCell)

theorem deletedAt_set (fields : List (String × Json)) (text : String) :
    deletedAt ((Json.object fields).set marker (.string text)) = some text := by
  unfold deletedAt
  rw [Json.get_set_self]
  rfl

/--
What the soft delete of an active parent leaves: the stamped parent, its active
children stamped later, and the trashed rows of other tables.
-/
structure Trashes (database : Database) (clock : Clock) (model : Model)
    (key : KeyFilter Json) (parent : Json) (before after : World) :
    Prop where
  own : rowOf database model key after = some (parent.set marker (clock.stamp before.statements))
  children : ∀ table, ∀ row ∈ before.tables table,
      Child database model parent table row → isNullCell row marker = true → ∃ statement,
            before.statements < statement ∧
              row.set marker (clock.stamp statement) ∈ after.tables table
  trashed : ∀ table, table ≠ model.table →
      ∀ row ∈ before.tables table, isNullCell row marker = false → row ∈ after.tables table

variable {model : Model}

theorem trashes_of_softDelete {recorderInstalled : Bool}
    (cascades : model.cascadeSoftDeletes = true) (isKey : key.columns = model.primaryKeyColumns)
    {world after : World} (identifies : IdentifiesChildren database model world) {parent : Json}
    (isParent : rowOf database model key world = some parent)
    (active : isNullCell parent marker = true)
    (ran : run (handle database clock) (softDeleteByKey recorderInstalled model key.values).call
      world =
      (after, .ok true)) :
    Trashes database clock model key parent world after := by
  have marked := marked_of_softDelete cascades isKey identifies isParent ran
  have ownRows : (stampOwn database model key (clock.stamp world.statements)
      world).tables model.table = markWhere (keyHolds database key) (clock.stamp world.statements)
          (world.tables model.table) :=
    Function.update_self model.table _ world.tables
  have otherRows (table : String) (isOther : table ≠ model.table) :
      (stampOwn database model key (clock.stamp world.statements)
        world).tables table = world.tables table :=
    Function.update_of_ne isOther _ world.tables
  have holds : keyHolds database key parent = true := List.find?_some isParent
  refine ⟨?_, ?_, ?_⟩
  · unfold rowOf
    rw [marked.tables_eq_of_none, ownRows, markWhere, List.find?_map]
    · have sameTest : (keyHolds database key ∘ fun row =>
          if keyHolds database key row = true then row.set marker (clock.stamp world.statements)
          else row) = keyHolds database key := by
        funext row
        rw [Function.comp_apply]
        split
        · exact keyHolds_set active holds row _
        · rfl
      unfold rowOf at isParent
      rw [sameTest, isParent, Option.map_some, if_pos holds]
    · rintro row ⟨relation, ⟨name, -, follows⟩, isTable, -⟩
      exact follows.2.2 isTable.symm
  · rintro table row isRow ⟨relation, cascades, rfl, isChild⟩ isActive
    obtain ⟨name, isName, follows⟩ := cascades
    rw [← otherRows _ follows.2.2] at isRow
    obtain ⟨value, ⟨statement, later, rfl⟩, isStamped⟩ := marked.exists_mem isRow
      ⟨relation, ⟨name, isName, follows⟩, rfl,
        (chosen_softDelete parent relation row).mpr ⟨isChild, isActive⟩⟩
    exact ⟨statement, later, isStamped⟩
  · intro table isOther row isRow isTrashed
    rw [← otherRows table isOther] at isRow
    apply marked.mem_of_not isRow
    rintro ⟨relation, -, -, isChosen⟩
    have isActive := ((chosen_softDelete parent relation row).mp isChosen).2
    rw [isTrashed] at isActive
    cases isActive

/-! ## The restore of a parent -/

theorem exists_fields_of_rowKey {column key : String} (isKey : rowKey row column = some key) :
    ∃ fields, row = .object fields := by
  cases row with
  | object fields => exact ⟨fields, rfl⟩
  | _ => cases isKey

/--
Which rows a restore changes: the row under the key and the children stamped at
or after it lose their stamps, and every other row of every table stays.
-/
def RestoresExactly (database : Database) (model : Model) (key : KeyFilter Json)
    (parent : Json) (before after : World) : Prop :=
  Marked
    (fun table row =>
      table = model.table ∧ keyHolds database key row = true ∨
        Child database model parent table row ∧ restorable parent row = true)
    (fun value => value = .null) before after

/--
What a soft delete of the parent trashed, and is as it left it, is active again
after the restore; what was trashed at an earlier instant, and is as it was,
stays trashed.
-/
structure BringsBack (database : Database) (clock : Clock) (model : Model) (parent : Json)
    (first deleted second third : World) :
    Prop where
  cascaded : ∀ table, ∀ row ∈ first.tables table,
      Child database model parent table row → isNullCell row marker = true → ∃ statement,
            row.set marker (clock.stamp statement) ∈ deleted.tables table ∧
              (row.set marker (clock.stamp statement) ∈ second.tables table →
                row.set marker .null ∈ third.tables table)
  independent : ∀ table, table ≠ model.table → ∀ row ∈ first.tables table, ∀ stamp,
        deletedAt row = some stamp → stamp < (clock.instant first.statements).print →
            row ∈ deleted.tables table ∧ (row ∈ second.tables table → row ∈ third.tables table)

theorem bringsBack_of_restoresExactly {first deleted second third : World}
    {fields : List (String × Json)} (identifies : IdentifiesChildren database model first)
    (active : isNullCell (.object fields) marker = true)
    (trashes : Trashes database clock model key (.object fields) first deleted)
    (exactly : RestoresExactly database model key ((Json.object fields).set marker
      (clock.stamp first.statements)) second third) :
    BringsBack database clock model (.object fields) first deleted second third := by
  have parentStamp : deletedAt ((Json.object fields).set marker (clock.stamp first.statements)) =
      some (clock.instant first.statements).print :=
    deletedAt_set fields _
  refine ⟨?_, ?_⟩
  · intro table row isRow isChild isActive
    obtain ⟨statement, later, isStamped⟩ := trashes.children table row isRow isChild isActive
    refine ⟨statement, isStamped, fun isThere => ?_⟩
    obtain ⟨relation, cascades, rfl, isMatch⟩ := isChild
    obtain ⟨id, isId, -⟩ := identifies relation cascades row isRow
    obtain ⟨rowFields, rfl⟩ := exists_fields_of_rowKey isId
    have isRestorable : restorable ((Json.object fields).set marker (clock.stamp first.statements))
        ((Json.object rowFields).set marker (clock.stamp statement)) = true := by
      have rowStamp : deletedAt ((Json.object rowFields).set marker (clock.stamp statement)) =
          some (clock.instant statement).print :=
        deletedAt_set rowFields _
      unfold restorable
      rw [parentStamp, rowStamp]
      exact decide_eq_true ((Instant.print_le_print_iff _ _).mpr
        (clock.monotone (Nat.le_of_lt later)))
    have stillMatches := keysMatch_of_sameCells active
      (sameCells_set _ (clock.stamp first.statements)) isActive
      (sameCells_set _ (clock.stamp statement)) isMatch
    obtain ⟨value, rfl, isRestored⟩ := exactly.exists_mem isThere
      (.inr ⟨⟨relation, cascades, rfl, stillMatches⟩, isRestorable⟩)
    rw [set_set] at isRestored
    exact isRestored
  · intro table isOther row isRow stamp isStamp earlier
    have isTrashed : isNullCell row marker = false := by
      obtain ⟨cell, isCell, isText⟩ := Option.bind_eq_some_iff.mp isStamp
      unfold isNullCell
      rw [isCell]
      cases cell with
      | string text => rfl
      | _ => cases isText
    refine ⟨trashes.trashed table isOther row isRow isTrashed, fun isThere => ?_⟩
    apply exactly.mem_of_not isThere
    rintro (⟨isOwn, -⟩ | ⟨-, isRestorable⟩)
    · exact isOther isOwn
    · unfold restorable at isRestorable
      rw [parentStamp, isStamp] at isRestorable
      exact absurd earlier (of_decide_eq_true isRestorable)

def textDatabase : Database where
  equal
    | .text text, .string stored => decide (text = stored)
    | .uuid id, .string stored => decide (parseUuid? stored = some id)
    | _, _ => false
  null_unequal value := by
    cases value with
    | _ => rfl
  other _ rows := (rows, 0)

/-- A clock that moves one microsecond a statement, while the second lasts. -/
def tickingClock : Clock where
  instant statement := {
    year := 2026
    month := 1
    day := 1
    hour := 0
    minute := 0
    second := 0
    microsecond := min statement 999999
    yearBound := by decide
    monthBound := by decide
    dayBound := by decide
    hourBound := by decide
    minuteBound := by decide
    secondBound := by decide
    microsecondBound := by omega
  }
  monotone := fun _ _ ordered => Nat.add_le_add_left (inf_le_inf_right 999999 ordered) _

/-- A soft-deleting model keyed by `id`. -/
def exampleModel (table : String) (relations : List Relation) : Model where
  table := table
  typeName := table
  primaryKeyColumns := ["id"]
  usesSoftDeletes := true
  logsActivity := false
  allowsColumn _ := true
  activityLogOnlyDirty := false
  cascadeSoftDeletes := true
  cascadeRelations := relations.map Relation.name
  relations := relations
  slug := none

def postsOfUser : Relation where
  name := "posts"
  relatedTable := "posts"
  foreignKey := "user_id"
  localKey := "id"
  kind := .hasMany
  pivotTable := none
  relatedKey := none
  foreignKeys := none
  localKeys := none
  json := none

def userModel : Model := exampleModel "users" [postsOfUser]

def postModel : Model := exampleModel "posts" []

def userWithPost : World where
  tables table :=
    if table = "users" then [.object [("id", .string "user"), ("deleted_at", .null)]]
    else if table = "posts" then
      [.object [ ("id", .string "post"), ("user_id", .string "user"), ("deleted_at", .null)
      ]]
    else []
  statements := 0

def userKey : KeyFilter Json := ⟨["id"], [.text "user"], rfl⟩

def postKey : KeyFilter Json := ⟨["id"], [.text "post"], rfl⟩

def afterCalls (actions : List Action) : World :=
  actions.foldl (fun world action => (run (handle textDatabase tickingClock) action.call world).1)
    userWithPost

def stampsAfter (actions : List Action) (table : String) : List (Option String) :=
  ((afterCalls actions).tables table).map deletedAt

def trashUser : Action := .softDelete false userModel userKey.values

def restoreUser : Action := .restore false userModel userKey.values

def trashPost : Action := .softDelete false postModel postKey.values

def restorePost : Action := .restore false postModel postKey.values

theorem identifiesChildren_userWithPost :
    IdentifiesChildren textDatabase userModel userWithPost := by
  rintro relation ⟨name, isName, found, -⟩
  obtain rfl : name = "posts" := List.mem_singleton.mp isName
  obtain rfl : postsOfUser = relation := Option.some.inj found
  intro row isRow
  refine ⟨"post", ?_, fun other isOther => ?_⟩
  · obtain rfl := List.mem_singleton.mp isRow
    rfl
  · obtain rfl := List.mem_singleton.mp isRow
    obtain rfl := List.mem_singleton.mp isOther
    exact ⟨fun _ => rfl, fun _ => by decide +kernel⟩

theorem run_call_eq {world : World} (action : Action)
    (isTrue : (run (handle textDatabase tickingClock) action.call world).2.toOption = some true) :
    run (handle textDatabase tickingClock) action.call world =
      ((run (handle textDatabase tickingClock) action.call world).1, .ok true) := by
  refine Prod.ext rfl ?_
  cases isResult : (run (handle textDatabase tickingClock) action.call world).2 with
  | error failure =>
    rw [isResult] at isTrue
    cases isTrue
  | ok result =>
    rw [isResult] at isTrue
    exact congrArg Except.ok (Option.some.inj isTrue)

end Rustasea.Orm.RestoreHistory
