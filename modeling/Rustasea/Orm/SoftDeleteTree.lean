import Rustasea.Orm.StampedTables

namespace Rustasea.Orm.SoftDeleteTree

open List

open EffectProgram (Makes Program Takes)
open EffectProgram.Program (exists_of_run_bind_ok run)
open Rustasea.Orm.Mutations
open Rustasea.Orm.StampedTables
open Timestamp (Instant)

/-!
# Soft deletes and restores of parents and children

What a soft delete and a restore do to the rows of every table, read off their
runs, and what a restore brings back of the rows that an earlier soft delete of
the same parent trashed.
-/

variable {database : Database} {clock : Clock}

/-! ## Which rows a cascade is about -/

def keysMatch (database : Database) (parent : Json) (relation : Relation) (row : Json) : Bool :=
  passesAll database (childClauses parent relation .forceDelete) row

def restorable (parent row : Json) : Bool :=
  match deletedAt parent, deletedAt row with
  | some parentStamp, some stamp => decide (parentStamp ≤ stamp)
  | _, _ => false

def chosen (database : Database) (mode : CascadeMode) (parent : Json)
    (relation : Relation) (row : Json) : Bool :=
  passesAll database (childClauses parent relation mode) row &&
    match mode with
    | .restore => restorable parent row
    | _ => true

def Follows (model : Model) (name : String) (relation : Relation) : Prop :=
  model.relations.find? (fun declared => declared.name = name) = some relation ∧
    relation.kind ≠ .belongsTo ∧ relation.relatedTable ≠ model.table

def Cascades (model : Model) (relation : Relation) : Prop :=
  ∃ name ∈ model.cascadeRelations, Follows model name relation

def Child (database : Database) (model : Model) (parent : Json) (table : String)
    (row : Json) : Prop :=
  ∃ relation, Cascades model relation ∧
      relation.relatedTable = table ∧ keysMatch database parent relation row = true

theorem chosen_softDelete (parent : Json) (relation : Relation) (row : Json) :
    chosen database .softDelete parent relation row = true ↔
      keysMatch database parent relation row = true ∧ isNullCell row marker = true := by
  simp [chosen, keysMatch, childClauses, passesAll, passes]

theorem chosen_restore (parent : Json) (relation : Relation) (row : Json) :
    chosen database .restore parent relation row = true ↔
      keysMatch database parent relation row = true ∧ restorable parent row = true := by
  have notNull (isRestorable : restorable parent row = true) : isNullCell row marker = false := by
    unfold restorable at isRestorable
    split at isRestorable
    · next isStamp =>
      obtain ⟨cell, isCell, isText⟩ := Option.bind_eq_some_iff.mp isStamp
      unfold isNullCell
      rw [isCell]
      cases cell with
      | string text => rfl
      | _ => cases isText
    · cases isRestorable
  simp only [chosen, keysMatch, childClauses, passesAll, passes, all_cons,
    all_nil, Bool.and_true, Bool.and_eq_true, Bool.not_eq_true']
  constructor
  · rintro ⟨⟨isChild, -⟩, isRestorable⟩
    exact ⟨isChild, isRestorable⟩
  · rintro ⟨isChild, isRestorable⟩
    exact ⟨⟨isChild, notNull isRestorable⟩, isRestorable⟩

def Marks (clock : Clock) (start : Nat) (mode : CascadeMode) (value : Json) : Prop :=
  match mode with
  | .softDelete => ∃ statement, start ≤ statement ∧ value = clock.stamp statement
  | .restore => value = .null
  | .forceDelete => False

/-! ## Programs that only read -/

def Still (first second : World) : Prop := second = first

theorem Still.refl (world : World) : Still world world := rfl

variable {first second third : World}

theorem Still.trans (one : Still first second) (two : Still second third) : Still first third :=
  Eq.trans two one

def Grows (first second : World) : Prop := first.statements ≤ second.statements

theorem Grows.refl (world : World) : Grows world world := Nat.le_refl _

theorem Grows.trans (one : Grows first second) (two : Grows second third) : Grows first third :=
  Nat.le_trans one two

variable {Result : Type} {program : Mutations.Call Result}

theorem run_of_quiet (database : Database) (clock : Clock) (quiet : Quiet program) (world : World) :
    (run (handle database clock) program world).1 = world := by
  have still : Takes (handle database clock) Still program := by
    refine quiet.takes .refl (fun _ _ _ => .trans) ?_
    intro asked world isQuiet
    cases asked with
    | execute write => cases isQuiet
    | _ => rfl
  exact still world

theorem statements_le (database : Database) (clock : Clock) (program : Mutations.Call Result)
    (world : World) :
    world.statements ≤ (run (handle database clock) program world).1.statements := by
  have makes : Makes (fun _ => True) program := .all (fun _ => trivial) program
  have grows : Takes (handle database clock) Grows program := by
    refine makes.takes .refl (fun _ _ _ => .trans) ?_
    intro asked world _
    cases asked with
    | execute write =>
      change world.statements ≤ (perform database clock write world).1.statements
      unfold perform
      split
      all_goals exact Nat.le_succ _
    | _ => exact Nat.le_refl _
  exact grows world

variable {world after : World} {result : Result}

theorem eq_of_run_quiet (quiet : Quiet program)
    (ran : run (handle database clock) program world = (after, .ok result)) : after = world := by
  have still := run_of_quiet database clock quiet world
  rw [ran] at still
  exact still

/-! ## One relation -/

theorem marked_statement (table : String) (picks : Json → Bool) {value : Json}
    {values : Json → Prop} (isValue : values value) (world : World) :
    Marked (fun other row => other = table ∧ picks row = true) values world
      (world.statement table (markWhere picks value)) := by
  intro other
  by_cases same : other = table
  · subst same
    refine ⟨fun row => if picks row then row.set marker value else row, ?_, ?_⟩
    · exact Function.update_self other _ world.tables
    · intro row _
      refine ⟨fun isPicked => ⟨value, isValue, if_pos isPicked.2⟩, ?_⟩
      intro notPicked
      exact if_neg fun isPicked => notPicked ⟨rfl, isPicked⟩
  · refine ⟨id, ?_, fun row _ => ⟨fun isPicked => absurd isPicked.1 same,
      fun _ => rfl⟩⟩
    rw [map_id]
    exact Function.update_of_ne same _ world.tables

variable {mode : CascadeMode} {start : Nat} {table : String}

theorem marked_of_executeChildChunk (notForced : mode ≠ .forceDelete) {ids : List (Value Json)}
    (started : start ≤ world.statements)
    (ran : run (handle database clock) (executeChildChunk table mode ids) world = (after, .ok ())) :
    Marked (fun other row => other = table ∧ idIn database ids row = true)
      (Marks clock start mode) world after := by
  obtain ⟨valid, _, ranValid, ranRest⟩ := exists_of_run_bind_ok ran
  have same := eq_of_run_quiet (quiet_validateIdentifier _ _) ranValid
  subst same
  cases mode with
  | softDelete =>
    cases ranRest
    exact marked_statement table (idIn database ids) ⟨valid.statements, started, rfl⟩ valid
  | restore =>
    cases ranRest
    have isValue : Marks clock start .restore .null := rfl
    exact marked_statement table (idIn database ids) isValue valid
  | forceDelete => exact absurd rfl notForced

theorem marked_of_chunks (notForced : mode ≠ .forceDelete) (chunks : List (List (Value Json)))
    (started : start ≤ world.statements)
    (ran : run (handle database clock) (chunks.forM (executeChildChunk table mode)) world =
      (after, .ok ())) :
    Marked (fun other row => other = table ∧ ∃ chunk ∈ chunks, idIn database chunk row = true)
      (Marks clock start mode) world after := by
  induction chunks generalizing world with
  | nil =>
    cases ran
    exact .of_tables_eq rfl fun _ _ isPicked => nomatch isPicked.2
  | cons chunk rest ih =>
    obtain ⟨middle, _, ranChunk, ranRest⟩ := exists_of_run_bind_ok ran
    have later : start ≤ middle.statements := by
      have grown := statements_le database clock (executeChildChunk table mode chunk) world
      rw [ranChunk] at grown
      exact Nat.le_trans started grown
    have one := marked_of_executeChildChunk notForced started ranChunk
    have two := ih later ranRest
    refine (one.trans two).congr ?_ fun _ => id
    intro other row _
    constructor
    · rintro (⟨isTable, isPicked⟩ | ⟨isTable, found, isChunk, isPicked⟩)
      · exact ⟨isTable, chunk, mem_cons_self, isPicked⟩
      · exact ⟨isTable, found, mem_cons_of_mem _ isChunk, isPicked⟩
    · rintro ⟨isTable, found, isChunk, isPicked⟩
      rcases mem_cons.mp isChunk with rfl | isLater
      · exact .inl ⟨isTable, isPicked⟩
      · exact .inr ⟨isTable, found, isLater, isPicked⟩

theorem rows_eq_filter_chosen (database : Database) (mode : CascadeMode) (parent : Json)
    (relation : Relation) (rows : List Json) :
    (match mode with
      | .restore =>
        retainRestorable (select database (childClauses parent relation mode) rows)
          (deletedAt parent)
      | _ => select database (childClauses parent relation mode) rows) =
      rows.filter (chosen database mode parent relation) := by
  have unlimited : limitOf (childClauses parent relation mode) = none := by
    unfold childClauses
    cases mode
    all_goals
      split
      all_goals rfl
  have selected : select database (childClauses parent relation mode) rows =
      rows.filter (passesAll database (childClauses parent relation mode)) := by
    unfold select
    rw [unlimited]
  rw [selected]
  cases mode with
  | restore =>
    unfold retainRestorable chosen restorable
    cases deletedAt parent with
    | none => simp
    | some parentStamp =>
      dsimp only
      rw [filter_filter]
      apply filter_congr
      intro row _
      rw [Bool.and_comm]
      cases deletedAt row with
      | none => rfl
      | some stamp => rfl
  | softDelete | forceDelete =>
    apply filter_congr
    intro row _
    exact (Bool.and_true _).symm

variable {parent : Json} {records : Bool} {relation : Relation}

theorem marked_of_cascadeRelation (notForced : mode ≠ .forceDelete)
    (started : start ≤ world.statements)
    (identified : Identified database (world.tables relation.relatedTable))
    (ran : run (handle database clock) (cascadeRelation records parent mode relation) world =
      (after, .ok ())) :
    Marked
      (fun table row => table = relation.relatedTable ∧
        chosen database mode parent relation row = true) (Marks clock start mode) world after := by
  obtain ⟨fetched, found, ranFetch, ranRest⟩ := exists_of_run_bind_ok ran
  cases ranFetch
  obtain ⟨rows, isRows⟩ : ∃ rows, rows = (world.tables
      relation.relatedTable).filter (chosen database mode parent relation) :=
    ⟨_, rfl⟩
  have ranRest : run (handle database clock) (do
      (chunksOf cascadeChunkSize
        ((rows.filterMap (rowKey · "id")).map keyToValue)).forM
          (executeChildChunk relation.relatedTable mode)
      onlyIf records (rows.forM (recordChild relation mode))) world = (after, .ok ()) := by
    rw [isRows, ← rows_eq_filter_chosen]
    exact ranRest
  subst isRows
  obtain ⟨chunked, _, ranChunks, ranRecords⟩ := exists_of_run_bind_ok ranRest
  have same := eq_of_run_quiet (quiet_recordChildren records relation mode _) ranRecords
  subst same
  refine (marked_of_chunks notForced _ started ranChunks).congr ?_ fun _ => id
  intro table row isRow
  constructor
  · rintro ⟨rfl, chunk, isChunk, isPicked⟩
    refine ⟨rfl, (idIn_iff_mem identified _ isRow).mp ?_⟩
    obtain ⟨value, isValue, isEqual⟩ := any_eq_true.mp isPicked
    exact any_eq_true.mpr ⟨value,
      (exists_chunk_iff (by decide) _ value).mp ⟨chunk, isChunk, isValue⟩,
      isEqual⟩
  · rintro ⟨rfl, isChosen⟩
    refine ⟨rfl, ?_⟩
    have isPicked := (idIn_iff_mem identified _ isRow).mpr isChosen
    obtain ⟨value, isValue, isEqual⟩ := any_eq_true.mp isPicked
    obtain ⟨chunk, isChunk, isMember⟩ :=
      (exists_chunk_iff (by decide : 0 < cascadeChunkSize) _ value).mpr isValue
    exact ⟨chunk, isChunk, any_eq_true.mpr ⟨value, isMember, isEqual⟩⟩

/-! ## Every relation -/

def PickedOver (database : Database) (model : Model) (parent : Json) (mode : CascadeMode)
    (names visited : List String) (table : String) (row : Json) : Prop :=
  ∃ name ∈ names, name ∉ visited ∧ ∃ relation,
        Follows model name relation ∧ table = relation.relatedTable ∧
            chosen database mode parent relation row = true

variable {model : Model} {name : String} {names visited : List String}

theorem pickedOver_cons_of_not
    (notFollowed : ∀ relation, Follows model name relation → name ∈ visited) (table : String)
    (row : Json) :
    PickedOver database model parent mode names visited table row ↔
      PickedOver database model parent mode (name :: names) visited table row := by
  constructor
  · rintro ⟨other, isName, rest⟩
    exact ⟨other, mem_cons_of_mem _ isName, rest⟩
  · rintro ⟨other, isName, isNew, relation, follows, rest⟩
    rcases mem_cons.mp isName with rfl | isLater
    · exact absurd (notFollowed relation follows) isNew
    · exact ⟨other, isLater, isNew, relation, follows, rest⟩

theorem pickedOver_cons (follows : Follows model name relation) (isNew : name ∉ visited)
    (table : String) (row : Json) :
    (table = relation.relatedTable ∧ chosen database mode parent relation row = true) ∨
      PickedOver database model parent mode names (name :: visited) table row ↔
      PickedOver database model parent mode (name :: names) visited table row := by
  constructor
  · rintro (isPicked | ⟨other, isName, isOther, rest⟩)
    · exact ⟨name, mem_cons_self, isNew, relation, follows, isPicked⟩
    · exact ⟨other, mem_cons_of_mem _ isName,
        fun wasVisited => isOther (mem_cons_of_mem _ wasVisited), rest⟩
  · rintro ⟨other, isName, isOther, found, followsOther, isPicked⟩
    by_cases same : other = name
    · subst same
      have sameRelation : found = relation := Option.some.inj (followsOther.1.symm.trans follows.1)
      exact .inl (sameRelation ▸ isPicked)
    · refine .inr ⟨other, (mem_cons.mp isName).resolve_left same, ?_, found,
        followsOther, isPicked⟩
      intro wasVisited
      exact (mem_cons.mp wasVisited).elim same isOther

/-- The cascade over the relations of some names. -/
theorem marked_of_cascadeOver (notForced : mode ≠ .forceDelete) (names visited : List String)
    (started : start ≤ world.statements)
    (identified : ∀ name ∈ names, ∀ relation, Follows model name relation →
      Identified database (world.tables relation.relatedTable))
    (ran : run (handle database clock) (cascadeOver records model parent mode names visited) world =
      (after, .ok ())) :
    Marked (PickedOver database model parent mode names visited) (Marks clock start mode) world
      after := by
  induction names generalizing visited world with
  | nil =>
    cases ran
    exact .of_tables_eq rfl fun _ _ isPicked => nomatch isPicked
  | cons name names ih =>
    have identifiedRest : ∀ other ∈ names, ∀ relation,
        Follows model other relation → Identified database (world.tables relation.relatedTable) :=
      fun other isName => identified other (mem_cons_of_mem _ isName)
    rw [cascadeOver] at ran
    split at ran
    · cases ran
    · next relation found =>
      have isIts (other : Relation) (follows : Follows model name other) : other = relation :=
        Option.some.inj (follows.1.symm.trans found)
      split at ran
      · next backwards =>
        refine (ih visited started identifiedRest ran).congr
          (fun table row _ => pickedOver_cons_of_not ?_ table row) fun _ => id
        intro other follows
        exact absurd backwards (isIts other follows ▸ follows.2.1)
      · next forwards =>
        obtain ⟨valid, _, ranValid, ranRest⟩ := exists_of_run_bind_ok ran
        have same := eq_of_run_quiet (quiet_validateRelationIdentifiers relation) ranValid
        subst same
        split at ranRest
        · next skipped =>
          refine (ih visited started identifiedRest
            ranRest).congr
            (fun table row _ => pickedOver_cons_of_not ?_ table row) fun _ => id
          intro other follows
          exact skipped.resolve_left (isIts other follows ▸ follows.2.2)
        · next notSkipped =>
          obtain ⟨notOwn, isNew⟩ := not_or.mp notSkipped
          have follows : Follows model name relation := ⟨found, forwards, notOwn⟩
          split at ranRest
          · next nothing =>
            refine (ih (name :: visited) started
              identifiedRest ranRest).congr (fun table row _ => ?_) fun _ => id
            rw [← pickedOver_cons follows isNew]
            refine ⟨.inr, fun isEither => isEither.resolve_left ?_⟩
            rintro ⟨-, isChosen⟩
            obtain ⟨rfl, noStamp⟩ := nothing
            have isRestorable := ((chosen_restore _ _ _).mp isChosen).2
            rw [restorable, noStamp] at isRestorable
            cases isRestorable
          · obtain ⟨middle, _, ranRelation, ranOthers⟩ := exists_of_run_bind_ok ranRest
            have one := marked_of_cascadeRelation notForced started
              (identified name mem_cons_self relation follows) ranRelation
            have later : start ≤ middle.statements := by
              have grown := statements_le database clock
                (cascadeRelation records parent mode relation) valid
              rw [ranRelation] at grown
              exact Nat.le_trans started grown
            have two := ih (name :: visited) later
              (fun other isName found follows =>
                (identifiedRest other isName found follows).restamped (.of_marked one))
              ranOthers
            exact (one.trans two).congr (fun table row _ => pickedOver_cons follows isNew table row)
              fun _ => id

/-- The related tables that a cascade of the model changes have ids. -/
def IdentifiesChildren (database : Database) (model : Model) (world : World) : Prop :=
  ∀ relation, Cascades model relation → Identified database (world.tables relation.relatedTable)

theorem IdentifiesChildren.restamped {first second : World} (restamped : Restamped first second)
    (identifies : IdentifiesChildren database model first) :
    IdentifiesChildren database model second :=
  fun relation cascades => (identifies relation cascades).restamped restamped

/-- The rows of the related tables that a cascade is about. -/
def PickedChild (database : Database) (model : Model) (mode : CascadeMode) (parent : Json)
    (table : String) (row : Json) : Prop :=
  ∃ relation, Cascades model relation ∧ table = relation.relatedTable ∧
        chosen database mode parent relation row = true

variable {recorderInstalled : Bool}

theorem marked_of_cascadeFrom (notForced : mode ≠ .forceDelete)
    (identifies : IdentifiesChildren database model world)
    (ran : run (handle database clock) (cascadeFrom recorderInstalled model (some parent) mode)
      world =
      (after, .ok ())) :
    Marked (PickedChild database model mode parent) (Marks clock world.statements mode) world
      after := by
  have marked := marked_of_cascadeOver notForced model.cascadeRelations []
    (Nat.le_refl world.statements)
    (fun name isName relation follows => identifies relation ⟨name, isName, follows⟩)
    ran
  refine marked.congr (fun table row _ => ?_) fun _ => id
  constructor
  · rintro ⟨name, isName, -, relation, follows, isTable, isChosen⟩
    exact ⟨relation, ⟨name, isName, follows⟩, isTable, isChosen⟩
  · rintro ⟨relation, ⟨name, isName, follows⟩, isTable, isChosen⟩
    exact ⟨name, isName, not_mem_nil, relation, follows, isTable, isChosen⟩

/-! ## Calls -/

def rowOf (database : Database) (model : Model) (key : KeyFilter Json)
    (world : World) : Option Json :=
  (world.tables model.table).find? (keyHolds database key)

theorem limitOf_keyClauses (key : KeyFilter Json) :
    limitOf (keyClauses key ++ [.limit 1]) = some 1 := by
  unfold keyClauses
  induction key.columns.zip key.values with
  | nil => rfl
  | cons entry rest ih => exact ih

theorem run_refreshRawByKey (model : Model) (key : KeyFilter Json) (world : World) :
    run (handle database clock) (refreshRawByKey model key) world =
      (world, .ok (rowOf database model key world)) := by
  have firstOf : (select database (keyClauses key ++ [.limit 1])
      (world.tables model.table)).head? = rowOf database model key world := by
    unfold select
    rw [limitOf_keyClauses]
    rw [head?_take, if_neg (by decide), head?_filter]
    unfold rowOf keyHolds
    congr 1
    funext row
    simp [passesAll, passes]
  rw [← firstOf]
  rfl

variable {key : KeyFilter Json}

theorem run_resolveKeyFilter (isKey : key.columns = model.primaryKeyColumns) (world : World) :
    run (handle database clock) (resolveKeyFilter model key.values) world = (world, .ok key) := by
  obtain ⟨columns, values, aligned⟩ := key
  cases isKey
  unfold resolveKeyFilter
  rw [dif_pos aligned]
  rfl

theorem exists_of_run_readBefore (cascades : model.cascadeSoftDeletes = true)
    (isKey : key.columns = model.primaryKeyColumns)
    {context : KeyFilter Json × Option Json × Option Json}
    (ran : run (handle database clock) (readBefore recorderInstalled model key.values) world =
      (after, .ok context)) :
    after = world ∧ context.1 = key ∧ context.2.2 = rowOf database model key world := by
  obtain ⟨resolved, found, ranKey, ranRest⟩ := exists_of_run_bind_ok ran
  rw [run_resolveKeyFilter isKey] at ranKey
  cases ranKey
  obtain ⟨snapped, old, ranSnapshot, ranLater⟩ := exists_of_run_bind_ok ranRest
  have sameSnapshot := eq_of_run_quiet (quiet_snapshotIf model _ key) ranSnapshot
  subst sameSnapshot
  obtain ⟨read, parent, ranParent, ranLast⟩ := exists_of_run_bind_ok ranLater
  have reads : cascadeParent model key = refreshRawByKey model key := if_pos cascades
  rw [reads, run_refreshRawByKey] at ranParent
  cases ranParent
  cases ranLast
  exact ⟨rfl, rfl, rfl⟩

theorem exists_of_run_handOn {event : Mutations.Call Unit} (quiet : Quiet event)
    {records affects result : Bool} {parent : Option Json}
    (ran :
      run (handle database clock) (do
          onlyIf (records && affects) event
          onlyIf affects (cascadeFrom recorderInstalled model parent mode)
          pure affects) world =
        (after, .ok result)) :
    result = affects ∧ run (handle database clock)
          (onlyIf affects (cascadeFrom recorderInstalled model parent mode))
          world =
        (after, .ok ()) := by
  obtain ⟨recorded, _, ranEvent, ranRest⟩ := exists_of_run_bind_ok ran
  have same := eq_of_run_quiet (quiet_onlyIf quiet) ranEvent
  subst same
  obtain ⟨handed, _, ranCascade, ranLast⟩ := exists_of_run_bind_ok ranRest
  cases ranLast
  exact ⟨rfl, ranCascade⟩

theorem exists_of_run_mutation {mutation : Mutation model Result}
    (ran : run (handle database clock) mutation.call world = (after, .ok result)) :
    ∃ ready context changed affected,
      run (handle database clock) mutation.before world = (ready, .ok context) ∧
      run (handle database clock) (execute (mutation.statement context)) ready =
        (changed, .ok affected) ∧
      run (handle database clock) (mutation.after context affected) changed =
        (after, .ok result) := by
  obtain ⟨ready, context, ranBefore, ranRest⟩ := exists_of_run_bind_ok ran
  obtain ⟨changed, affected, ranStatement, ranLater⟩ := exists_of_run_bind_ok ranRest
  obtain ⟨done, final, ranAfter, ranLast⟩ := exists_of_run_bind_ok ranLater
  cases ranLast
  exact ⟨ready, context, changed, affected, ranBefore, ranStatement, ranAfter⟩

/-- The world after the statement on the model's own table. -/
def stampOwn (database : Database) (model : Model) (key : KeyFilter Json)
    (value : Json) (world : World) : World :=
  world.statement model.table (markWhere (keyHolds database key) value)

theorem restamped_stampOwn (model : Model) (key : KeyFilter Json) (value : Json) (world : World) :
    Restamped world (stampOwn database model key value world) := by
  have isValue : (fun other => other = value) value := rfl
  exact .of_marked (marked_statement model.table (keyHolds database key) isValue world)

theorem marked_of_softDelete (cascades : model.cascadeSoftDeletes = true)
    (isKey : key.columns = model.primaryKeyColumns)
    (identifies : IdentifiesChildren database model world)
    (isParent : rowOf database model key world = some parent)
    (ran : run (handle database clock) (softDeleteByKey recorderInstalled model key.values).call
      world =
      (after, .ok true)) :
    Marked (PickedChild database model .softDelete parent)
      (Marks clock (world.statements + 1) .softDelete)
      (stampOwn database model key (clock.stamp world.statements) world) after := by
  obtain ⟨ready, ⟨found, old, snapshot⟩, changed, affected, ranBefore,
    ranStatement, ranAfter⟩ := exists_of_run_mutation ran
  obtain ⟨rfl, rfl, isSnapshot⟩ := exists_of_run_readBefore cascades isKey ranBefore
  cases ranStatement
  obtain ⟨isTrue, ranCascade⟩ := exists_of_run_handOn
    (.bind (quiet_snapshot model found) fun _ => quiet_dispatch _) ranAfter
  dsimp only at isSnapshot
  rw [← isTrue, isSnapshot, isParent] at ranCascade
  exact marked_of_cascadeFrom (by decide)
    (identifies.restamped (restamped_stampOwn model found _ ready)) ranCascade

theorem marked_of_restore (cascades : model.cascadeSoftDeletes = true)
    (isKey : key.columns = model.primaryKeyColumns)
    (identifies : IdentifiesChildren database model world)
    (isParent : rowOf database model key world = some parent)
    (ran : run (handle database clock) (restoreByKey recorderInstalled model key.values).call
      world =
      (after, .ok true)) :
    Marked
      (fun table row => table = model.table ∧ keyHolds database key row = true ∨
        Child database model parent table row ∧ restorable parent row = true)
      (fun value => value = .null) world after := by
  obtain ⟨ready, ⟨found, old, snapshot⟩, changed, affected, ranBefore,
    ranStatement, ranAfter⟩ := exists_of_run_mutation ran
  obtain ⟨rfl, rfl, isSnapshot⟩ := exists_of_run_readBefore cascades isKey ranBefore
  cases ranStatement
  obtain ⟨isTrue, ranCascade⟩ := exists_of_run_handOn
    (.bind (quiet_snapshot model found) fun _ => quiet_dispatch _) ranAfter
  dsimp only at isSnapshot
  rw [← isTrue, isSnapshot, isParent] at ranCascade
  have isNull : Marks clock (ready.statements + 1) .restore .null := rfl
  have own := marked_statement model.table (keyHolds database found) isNull ready
  have children := marked_of_cascadeFrom (by decide)
    (identifies.restamped (.of_marked own)) ranCascade
  refine (own.trans children).congr (fun table row _ => ?_) fun _ => id
  apply or_congr_right
  constructor
  · rintro ⟨relation, cascades, isTable, isChosen⟩
    obtain ⟨isChild, isRestorable⟩ := (chosen_restore _ _ _).mp isChosen
    exact ⟨⟨relation, cascades, isTable.symm, isChild⟩, isRestorable⟩
  · rintro ⟨⟨relation, cascades, isTable, isChild⟩, isRestorable⟩
    exact ⟨relation, cascades, isTable.symm, (chosen_restore _ _ _).mpr ⟨isChild, isRestorable⟩⟩

end Rustasea.Orm.SoftDeleteTree
