import Rustasea.Library.EffectProgram
import Rustasea.Orm.JsonPaths
import Rustasea.Orm.QueryBuilder
import Rustasea.Orm.WriteStatements

namespace Rustasea.Orm.Mutations

open EffectProgram (Makes Program)
open EffectProgram.Program (ask fail)

/-!
# The write path

`create`, `save`, `update`, `force_delete`, `soft_delete` and `restore` as
programs over the requests they make: reads, statements, events for the recorder
and calls of `invalidate_table`, each of which may fail where the source has a
`?`.  A cascade runs inside the mutation of its parent, between the parent's
statement and the invalidation at the end.  Batch ids, causers, the casts of
hydration and global scopes other than the soft-delete one are left out.
-/

inductive MutationError where
  | notFound
  | invalidState (message : String)
  | storage (message : String)
  | activity (message : String)
  | slug (message : String)
  deriving DecidableEq

/-! ## The model -/

/-- The row a mutation returns: re-read, or as the caller gave it. -/
inductive Persisted where
  | row (row : Json)
  | given (data : ModelRow Json)

/-- The slug configuration of a model and the texts its slugs are made of. -/
structure Slug where
  source : List String
  slugColumn : String
  separator : Char
  unique : Bool
  onUpdate : Bool
  sourceValues : Persisted → List (String × String)
  generate : List (String × String) → String

/-- What the write path reads of a model. -/
structure Model where
  table : String
  typeName : String
  primaryKeyColumns : List String
  usesSoftDeletes : Bool
  logsActivity : Bool
  allowsColumn : String → Bool
  activityLogOnlyDirty : Bool
  cascadeSoftDeletes : Bool
  cascadeRelations : List String
  relations : List Relation
  slug : Option Slug

def Model.hasCompositePrimaryKey (model : Model) : Bool :=
  decide (1 < model.primaryKeyColumns.length)

def Model.records (model : Model) (recorderInstalled : Bool) : Bool :=
  model.logsActivity && recorderInstalled

/-! ## Requests -/

/-- The operation of an event. -/
inductive ActivityOperation where
  | created
  | updated
  | deleted
  | restored
  deriving DecidableEq

/-- An event for the recorder. -/
structure ActivityEvent where
  operation : ActivityOperation
  table : String
  modelType : String
  modelId : Option String
  old : Option Json
  new : Option Json
  changed : List String

/--
A statement that changes rows of one table.  A soft delete stamps the time at
which it is made.
-/
inductive Write where
  | insert (table : String) (row : ModelRow Json)
  | upsert (table : String) (row : ModelRow Json)
  | update (table : String) (row : ModelRow Json)
  | delete (table : String) (key : KeyFilter Json)
  | softDelete (table : String) (key : KeyFilter Json)
  | restore (table : String) (key : KeyFilter Json)
  | childChunk (table : String) (ids : List (Value Json)) (mode : CascadeMode)

def Write.table : Write → String
  | .insert table _ => table
  | .upsert table _ => table
  | .update table _ => table
  | .delete table _ => table
  | .softDelete table _ => table
  | .restore table _ => table
  | .childChunk table _ _ => table

/-- What a mutation asks of its environment. -/
inductive Request where
  | get (table : String) (clauses : List (Clause Json))
  | serialize (row : ModelRow Json)
  | execute (write : Write)
  | hydrate (row : Json)
  | record (event : ActivityEvent)
  | invalidateTable (table : String)

def Reply : Request → Type
  | .get _ _ => List Json
  | .execute _ => Nat
  | _ => Unit

abbrev Call (Result : Type) := Program Request Reply MutationError Result

def get (table : String) (clauses : List (Clause Json)) : Call (List Json) :=
  ask (Request.get table clauses)

def serialize (row : ModelRow Json) : Call Unit := ask (Request.serialize row)

/-- Execute a statement; the reply is the number of affected rows. -/
def execute (write : Write) : Call Nat := ask (Request.execute write)

def hydrate (row : Json) : Call Unit := ask (Request.hydrate row)

def dispatch (event : ActivityEvent) : Call Unit := ask (Request.record event)

def invalidateTable (table : String) : Call Unit := ask (Request.invalidateTable table)

def onlyIf (condition : Bool) (program : Call Unit) : Call Unit :=
  if condition then program else pure ()

/-! ## Keys -/

def resolveKeyFilter (model : Model) (key : List (Value Json)) : Call (KeyFilter Json) :=
  if aligned : model.primaryKeyColumns.length = key.length then
    pure ⟨model.primaryKeyColumns, key, aligned⟩
  else
    fail (.invalidState
      ("primary key arity mismatch: " ++ toString model.primaryKeyColumns.length ++ " columns, " ++
          toString key.length ++ " values"))

def keyClauses (key : KeyFilter Json) : List (Clause Json) :=
  (key.columns.zip key.values).map fun (column, value) =>
    .whereEq column value

/-- The first row of a query on the table, trashed rows included. -/
def first (table : String) (clauses : List (Clause Json)) :
    Call (Option Json) := do
  let rows ← get table (clauses ++ [.limit 1])
  pure rows.head?

def refreshRawByKey (model : Model) (key : KeyFilter Json) : Call (Option Json) :=
  first model.table (keyClauses key)

def renderBare : Value Json → String
  | .uuid id => id
  | .text text => text
  | .int number => toString number
  | .float bits => toString bits
  | .bool flag => toString flag
  | .null => ""
  | .timestamp microseconds => toString microseconds
  | .json _ => ""

def eventId (key : KeyFilter Json) : String := ",".intercalate (key.values.map renderBare)

/-! ## Activity -/

def filterColumns (model : Model) (row : Json) : Json :=
  match row with
  | .object fields => .object (fields.filter fun (column, _) => model.allowsColumn column)
  | other => other

def snapshot (model : Model) (key : KeyFilter Json) :
    Call (Option Json) := do
  let row ← refreshRawByKey model key
  pure (row.map (filterColumns model))

def snapshotIf (records : Bool) (model : Model) (key : KeyFilter Json) : Call (Option Json) :=
  if records then snapshot model key else pure none

def sameJson : Json → Json → Bool
  | .null, .null => true
  | .bool first, .bool second => decide (first = second)
  | .number first, .number second => decide (first = second)
  | .string first, .string second => decide (first = second)
  | .array first, .array second => sameItems first second
  | .object first, .object second => sameFields first second
  | _, _ => false
where
  sameItems : List Json → List Json → Bool
    | [], [] => true
    | first :: firsts, second :: seconds => sameJson first second && sameItems firsts seconds
    | _, _ => false
  sameFields : List (String × Json) → List (String × Json) → Bool
    | [], [] => true
    | (name, first) :: firsts, (other, second) :: seconds =>
      decide (name = other) && sameJson first second && sameFields firsts seconds
    | _, _ => false

def changedColumns : Json → Json → List String
  | .object old, .object new =>
    (old.filter fun (column, value) =>
        match new.lookup column with
        | some present => !sameJson present value
        | none => true).map Prod.fst ++
      (new.filter fun (column, _) => (old.lookup column).isNone).map Prod.fst
  | _, _ => []

def objectKeys : Json → List String
  | .object fields => fields.map Prod.fst
  | _ => []

def isUserColumn (name : String) : Bool :=
  decide (name ∉ ["id", "created_at", "updated_at", "deleted_at"])

/-- The `changed` list of an update-style event. -/
def diffChanged (old new : Option Json) : List String :=
  let columns :=
    match old, new with
    | some old, some new => changedColumns old new
    | none, some new => objectKeys new
    | _, none => []
  columns.filter isUserColumn

def event (model : Model) (operation : ActivityOperation) (key : KeyFilter Json)
    (old new : Option Json) (changed : List String) : ActivityEvent where
  operation := operation
  table := model.table
  modelType := model.typeName
  modelId := some (eventId key)
  old := old
  new := new
  changed := changed

def recordCreated (model : Model) (key : KeyFilter Json) (new : Option Json) : Call Unit :=
  dispatch (event model .created key none new (((new.map objectKeys).getD []).filter isUserColumn))

/-- Record an update event, skipping a no-op when only dirty ones are logged. -/
def recordUpdated (model : Model) (key : KeyFilter Json) (old new : Option Json) : Call Unit :=
  let changed := diffChanged old new
  if changed.isEmpty && model.activityLogOnlyDirty then pure ()
  else dispatch (event model .updated key old new changed)

def recordDeleted (model : Model) (key : KeyFilter Json) (old new : Option Json) : Call Unit :=
  dispatch (event model .deleted key old new (diffChanged old new))

def recordRestored (model : Model) (key : KeyFilter Json) (old new : Option Json) : Call Unit :=
  dispatch (event model .restored key old new (diffChanged old new))

/-- Re-read a row and split it into the model and the snapshot. -/
def refreshWithSnapshot (records : Bool) (model : Model) (key : KeyFilter Json)
    (fallback : ModelRow Json) :
    Call (Persisted × Option Json) := do
  let raw ← refreshRawByKey model key
  let logged :=
    if records then raw.map (filterColumns model) else none
  match raw with
  | some row =>
    hydrate row
    pure (.row row, logged)
  | none => pure (.given fallback, logged)

/-! ## Slugs -/

def maxSlugAttempts : Nat := 1000

def baseSlug (slug : Slug) (data : ModelRow Json) : Call String :=
  let base := slug.generate (slug.sourceValues (.given data))
  if base.isEmpty then
    fail (.slug
      ("slug source column \x60" ++ slug.source.head?.getD slug.slugColumn ++
        "\x60 produced an empty slug"))
  else pure base

def candidateFor (slug : Slug) (base : String) (attempt : Nat) : String :=
  if attempt ≤ 1 then base
  else base ++ slug.separator.toString ++ toString attempt

def uniqueFrom (model : Model) (slug : Slug) (base : String) (own : Option String) : Nat → Nat →
    Call String
  | 0, _ =>
    fail (.slug
      ("exhausted " ++ toString maxSlugAttempts ++ " slug candidates for \x60" ++ base ++ "\x60"))
  | remaining + 1, attempt => do
    let candidate := candidateFor slug base attempt
    let others :=
      match own with
      | some id => [Clause.whereOp "id" "!=" (.uuid id)]
      | none => []
    let taken ← first model.table (.whereEq slug.slugColumn (.text candidate) :: others)
    match taken with
    | none => pure candidate
    | some _ => uniqueFrom model slug base own remaining (attempt + 1)

def uniqueSlug (model : Model) (slug : Slug) (base : String) (own : Option String) : Call String :=
  if slug.unique then uniqueFrom model slug base own maxSlugAttempts 1
  else pure base

def setSlug (slug : Slug) (text : String) (data : ModelRow Json) : ModelRow Json :=
  {
    data with
    object := data.object.map fun (column, value) =>
      if column = slug.slugColumn then (column, .text text) else (column, value)
  }

def prepareInsert (model : Model) (data : ModelRow Json) : Call (ModelRow Json) :=
  match model.slug with
  | none => pure data
  | some slug => do
    let base ← baseSlug slug data
    let text ← uniqueSlug model slug base none
    pure (setSlug slug text data)

/-- Generate and assign a slug before an update when the source changed. -/
def prepareUpdate (model : Model) (data : ModelRow Json)
    (oldSourceValues : Option (List (String × String))) : Call (ModelRow Json) :=
  match model.slug with
  | none => pure data
  | some slug =>
    if slug.onUpdate ∧
        oldSourceValues ≠ some (slug.sourceValues (.given data)) then do
      let base ← baseSlug slug data
      let text ← uniqueSlug model slug base (some data.id)
      pure (setSlug slug text data)
    else pure data

/-- The source values of the stored row, read when slugs follow updates. -/
def storedSourceValues (model : Model) (key : KeyFilter Json) :
    Call (Option (List (String × String))) :=
  match model.slug with
  | none => pure none
  | some slug =>
    if slug.onUpdate then do
      let stored ← refreshRawByKey model key
      match stored with
      | some row =>
        hydrate row
        pure (some (slug.sourceValues (.row row)))
      | none => pure none
    else pure none

/-! ## Cascades -/

/-- Maximum number of child ids bound into a single statement. -/
def cascadeChunkSize : Nat := 500

def maxDepth : Nat := 3

/-- `^[A-Za-z_][A-Za-z0-9_]*$`. -/
def isValidIdentifier (name : String) : Bool :=
  match name.toList with
  | [] => false
  | first :: rest =>
    (first.isAlpha || first == '_') &&
      rest.all fun character => character.isAlphanum || character == '_'

def validateIdentifier (label name : String) : Call Unit :=
  if isValidIdentifier name then pure ()
  else
    fail (.invalidState
      ("cascade " ++ label ++ " \x60" ++ name ++ "\x60 is not a valid SQL identifier"))

def validateRelationIdentifiers (relation : Relation) : Call Unit := do
  validateIdentifier "related table" relation.relatedTable
  relation.effectiveForeignKeys.forM (validateIdentifier "foreign key")
  relation.effectiveLocalKeys.forM (validateIdentifier "local key")

def childClauses (parent : Json) (relation : Relation) (mode : CascadeMode) : List (Clause Json) :=
  let keys : Clause Json :=
    if relation.isComposite then
      .whereInRows relation.effectiveForeignKeys (parentRows [parent] relation.effectiveLocalKeys)
    else .whereIn relation.foreignKey (parentKeys [parent] relation.localKey)
  match mode with
  | .softDelete => [keys, .whereNull "deleted_at"]
  | .restore => [keys, .whereNotNull "deleted_at"]
  | .forceDelete => [keys]

def childRows (parent : Json) (relation : Relation) (mode : CascadeMode) : Call (List Json) :=
  get relation.relatedTable (childClauses parent relation mode)

def deletedAt (row : Json) : Option String := (row.get "deleted_at").bind Json.asStr

/-- Keep the child rows whose stamp is at or after the parent's. -/
def retainRestorable (rows : List Json) (parentDeletedAt : Option String) : List Json :=
  match parentDeletedAt with
  | none => []
  | some parentStamp =>
    rows.filter fun row =>
      match deletedAt row with
      | some stamp => decide (parentStamp ≤ stamp)
      | none => false

/-- `slice::chunks`. -/
def chunksOf {Item : Type} (size : Nat) (items : List Item) : List (List Item) :=
  (List.range ((items.length + size - 1) / size)).map fun index =>
    (items.drop (index * size)).take size

def executeChildChunk (table : String) (mode : CascadeMode) (ids : List (Value Json)) :
    Call Unit := do
  validateIdentifier "related table" table
  let _ ← execute (.childChunk table ids mode)
  invalidateTable table

def cascadeOperation : CascadeMode → ActivityOperation
  | .softDelete => .deleted
  | .forceDelete => .deleted
  | .restore => .restored

def recordChild (relation : Relation) (mode : CascadeMode) (row : Json) : Call Unit :=
  dispatch {
    operation := cascadeOperation mode
    table := relation.relatedTable
    modelType := relation.relatedTable
    modelId := rowKey row "id"
    old := some row
    new := none
    changed := []
  }

def cascadeRelation (records : Bool) (parent : Json) (mode : CascadeMode)
    (relation : Relation) :
    Call Unit := do
  let found ← childRows parent relation mode
  let rows :=
    match mode with
    | .restore => retainRestorable found (deletedAt parent)
    | _ => found
  let ids := (rows.filterMap (rowKey · "id")).map keyToValue
  (chunksOf cascadeChunkSize ids).forM (executeChildChunk relation.relatedTable mode)
  onlyIf records (rows.forM (recordChild relation mode))

/-- Cascade to the named relations that were not visited yet. -/
def cascadeOver (records : Bool) (model : Model) (parent : Json) (mode : CascadeMode) :
    List String → List String → Call Unit
  | [], _ => pure ()
  | name :: names, visited =>
    match model.relations.find? fun relation => relation.name = name with
    | none =>
      fail (.invalidState
        ("cascade relation \x60" ++ name ++ "\x60 is not declared on " ++ model.typeName))
    | some relation =>
      if relation.kind = .belongsTo then cascadeOver records model parent mode names visited
      else do
        validateRelationIdentifiers relation
        if relation.relatedTable = model.table ∨ name ∈ visited then
          cascadeOver records model parent mode names visited
        else if mode = .restore ∧ deletedAt parent = none then
          cascadeOver records model parent mode names (name :: visited)
        else
          cascadeRelation records parent mode relation
          cascadeOver records model parent mode names (name :: visited)

def cascade (records : Bool) (model : Model) (parent : Json) (mode : CascadeMode)
    (depth : Nat) : Call Unit :=
  if maxDepth ≤ depth then pure ()
  else cascadeOver records model parent mode model.cascadeRelations []

/-! ## Mutations -/

/--
A mutation of a model: what it does before its statement, the statement, which
is about the model's table, and what it does after it.
-/
structure Mutation (model : Model) (Result : Type) where
  Context : Type
  before : Call Context
  statement : Context → Write
  ownTable : ∀ context, (statement context).table = model.table
  after : Context → Nat → Call Result

/-- The whole mutation: its table is invalidated at the end. -/
def Mutation.call {model : Model} {Result : Type} (mutation : Mutation model Result) :
    Call Result := do
  let context ← mutation.before
  let affected ← execute (mutation.statement context)
  let result ← mutation.after context affected
  invalidateTable model.table
  pure result

def nilUuid : String := "00000000-0000-0000-0000-000000000000"

def assignId (model : Model) (fresh : String) (data : ModelRow Json) : ModelRow Json :=
  if single : !model.hasCompositePrimaryKey ∧ data.id = nilUuid ∧ data.key.columns.length = 1 then
    {
      data with
      id := fresh
      key := ⟨data.key.columns, [.uuid fresh], single.2.2⟩
    }
  else data

section Calls

variable (recorderInstalled : Bool) (model : Model)

def create (fresh : String) (given : ModelRow Json) : Mutation model Persisted where
  Context := ModelRow Json
  before := do
    let data ← prepareInsert model (assignId model fresh given)
    serialize data
    pure data
  statement data := .insert model.table data
  ownTable _ := rfl
  after data _ := do
    let records := model.records recorderInstalled
    let reread ← refreshWithSnapshot records model data.key data
    onlyIf records (recordCreated model data.key reread.2)
    pure reread.1

def save (fresh : String) (given : ModelRow Json) : Mutation model Persisted where
  Context := ModelRow Json × Option Json
  before := do
    let data ← prepareInsert model (assignId model fresh given)
    let old ← snapshotIf (model.records recorderInstalled) model data.key
    serialize data
    pure (data, old)
  statement context := .upsert model.table context.1
  ownTable _ := rfl
  after context _ := do
    let (data, old) := context
    let records := model.records recorderInstalled
    let reread ← refreshWithSnapshot records model data.key data
    onlyIf records
      (if old.isSome then recordUpdated model data.key old reread.2
      else recordCreated model data.key reread.2)
    pure reread.1

def update (given : ModelRow Json) : Mutation model Persisted where
  Context := ModelRow Json × Option Json
  before := do
    let old ← snapshotIf (model.records recorderInstalled) model given.key
    let stored ← storedSourceValues model given.key
    let data ← prepareUpdate model given stored
    serialize data
    pure (data, old)
  statement context := .update model.table context.1
  ownTable _ := rfl
  after context affected := do
    let (data, old) := context
    if affected = 0 then fail .notFound
    else
      let records := model.records recorderInstalled
      let reread ← refreshWithSnapshot records model given.key data
      onlyIf records (recordUpdated model given.key old reread.2)
      pure reread.1

/-- The row that a cascade starts from, read before the statement. -/
def cascadeParent (key : KeyFilter Json) : Call (Option Json) :=
  if model.cascadeSoftDeletes then refreshRawByKey model key else pure none

/-- What a delete or a restore reads before its statement. -/
def readBefore (key : List (Value Json)) :
    Call (KeyFilter Json × Option Json × Option Json) := do
  let filter ← resolveKeyFilter model key
  let old ← snapshotIf (model.records recorderInstalled) model filter
  let parent ← cascadeParent model filter
  pure (filter, old, parent)

/-- Hand a delete or a restore on to the children of the row. -/
def cascadeFrom (parent : Option Json) (mode : CascadeMode) : Call Unit :=
  match parent with
  | some parent => cascade (model.records recorderInstalled) model parent mode 0
  | none => pure ()

def forceDeleteByKey (key : List (Value Json)) : Mutation model Bool where
  Context := KeyFilter Json × Option Json × Option Json
  before := readBefore recorderInstalled model key
  statement context := .delete model.table context.1
  ownTable _ := rfl
  after context affected := do
    let (filter, old, parent) := context
    onlyIf (model.records recorderInstalled && decide (0 < affected))
      (recordDeleted model filter old none)
    onlyIf (decide (0 < affected)) (cascadeFrom recorderInstalled model parent .forceDelete)
    pure (decide (0 < affected))

def softDeleteByKey (key : List (Value Json)) : Mutation model Bool where
  Context := KeyFilter Json × Option Json × Option Json
  before := readBefore recorderInstalled model key
  statement context := .softDelete model.table context.1
  ownTable _ := rfl
  after context affected := do
    let (filter, old, parent) := context
    onlyIf (model.records recorderInstalled && decide (0 < affected)) (do
      let new ← snapshot model filter
      recordDeleted model filter old new)
    onlyIf (decide (0 < affected)) (cascadeFrom recorderInstalled model parent .softDelete)
    pure (decide (0 < affected))

def restoreByKey (key : List (Value Json)) : Mutation model Bool where
  Context := KeyFilter Json × Option Json × Option Json
  before := readBefore recorderInstalled model key
  statement context := .restore model.table context.1
  ownTable _ := rfl
  after context affected := do
    let (filter, old, parent) := context
    onlyIf (model.records recorderInstalled && decide (0 < affected)) (do
      let new ← snapshot model filter
      recordRestored model filter old new)
    onlyIf (decide (0 < affected)) (cascadeFrom recorderInstalled model parent .restore)
    pure (decide (0 < affected))

def deleteByKey (key : List (Value Json)) : Mutation model Bool :=
  if model.usesSoftDeletes then softDeleteByKey recorderInstalled model key
  else forceDeleteByKey recorderInstalled model key

end Calls

/-! ## What the steps ask for -/

/-- A request that is neither a statement nor an invalidation. -/
def IsQuiet : Request → Prop
  | .execute _ => False
  | .invalidateTable _ => False
  | _ => True

abbrev Quiet {Result : Type} (program : Call Result) : Prop := Makes IsQuiet program

section Quiet

variable (model : Model)

theorem quiet_onlyIf {condition : Bool} {program : Call Unit} (quiet : Quiet program) :
    Quiet (onlyIf condition program) := by
  unfold onlyIf
  split
  · exact quiet
  · exact .pure ()

theorem quiet_get (table : String) (clauses : List (Clause Json)) : Quiet (get table clauses) :=
  .ask trivial

theorem quiet_serialize (row : ModelRow Json) : Quiet (serialize row) := .ask trivial

theorem quiet_hydrate (row : Json) : Quiet (hydrate row) := .ask trivial

theorem quiet_dispatch (event : ActivityEvent) : Quiet (dispatch event) := .ask trivial

theorem quiet_first (table : String) (clauses : List (Clause Json)) : Quiet (first table clauses) :=
  .bind (quiet_get table _) fun _ => .pure _

variable (key : KeyFilter Json)

theorem quiet_snapshot : Quiet (snapshot model key) :=
  .bind (quiet_first _ _) fun _ => .pure _

theorem quiet_snapshotIf (records : Bool) (key : KeyFilter Json) :
    Quiet (snapshotIf records model key) := by
  unfold snapshotIf
  split
  · exact quiet_snapshot model key
  · exact .pure _

theorem quiet_resolveKeyFilter (key : List (Value Json)) : Quiet (resolveKeyFilter model key) := by
  unfold resolveKeyFilter
  split
  · exact .pure _
  · exact .fail _

theorem quiet_recordUpdated (old new : Option Json) : Quiet (recordUpdated model key old new) := by
  unfold recordUpdated
  dsimp only
  split
  · exact .pure _
  · exact quiet_dispatch _

theorem quiet_refreshWithSnapshot (records : Bool) (key : KeyFilter Json)
    (fallback : ModelRow Json) : Quiet (refreshWithSnapshot records model key fallback) := by
  apply Makes.bind (quiet_first _ _)
  intro raw
  cases raw with
  | none => exact .pure _
  | some row => exact .bind (quiet_hydrate row) fun _ => .pure _

theorem quiet_baseSlug (slug : Slug) (data : ModelRow Json) : Quiet (baseSlug slug data) := by
  unfold baseSlug
  dsimp only
  split
  · exact .fail _
  · exact .pure _

theorem quiet_uniqueFrom (slug : Slug) (base : String) (own : Option String)
    (remaining attempt : Nat) : Quiet (uniqueFrom model slug base own remaining attempt) := by
  induction remaining generalizing attempt with
  | zero => exact .fail _
  | succ remaining ih =>
    apply Makes.bind (quiet_first _ _)
    intro taken
    cases taken with
    | none => exact .pure _
    | some row => exact ih (attempt + 1)

theorem quiet_uniqueSlug (slug : Slug) (base : String) (own : Option String) :
    Quiet (uniqueSlug model slug base own) := by
  unfold uniqueSlug
  split
  · exact quiet_uniqueFrom model slug base own _ _
  · exact .pure _

theorem quiet_prepareInsert (data : ModelRow Json) : Quiet (prepareInsert model data) := by
  unfold prepareInsert
  split
  · exact .pure _
  · exact .bind (quiet_baseSlug _ data) fun base =>
      .bind (quiet_uniqueSlug model _ base none) fun _ => .pure _

theorem quiet_prepareUpdate (data : ModelRow Json)
    (oldSourceValues : Option (List (String × String))) :
    Quiet (prepareUpdate model data oldSourceValues) := by
  unfold prepareUpdate
  split
  · exact .pure _
  · split
    · exact .bind (quiet_baseSlug _ data) fun base =>
        .bind (quiet_uniqueSlug model _ base _) fun _ => .pure _
    · exact .pure _

theorem quiet_storedSourceValues : Quiet (storedSourceValues model key) := by
  unfold storedSourceValues
  split
  · exact .pure _
  · split
    · apply Makes.bind (quiet_first _ _)
      intro stored
      cases stored with
      | none => exact .pure _
      | some row => exact .bind (quiet_hydrate row) fun _ => .pure _
    · exact .pure _

theorem quiet_cascadeParent : Quiet (cascadeParent model key) := by
  unfold cascadeParent
  split
  · exact quiet_first _ _
  · exact .pure _

theorem quiet_readBefore (recorderInstalled : Bool) (key : List (Value Json)) :
    Quiet (readBefore recorderInstalled model key) :=
  .bind (quiet_resolveKeyFilter model key) fun filter =>
    .bind (quiet_snapshotIf model _ filter) fun _ =>
      .bind (quiet_cascadeParent model filter) fun _ => .pure _

theorem quiet_validateIdentifier (label name : String) : Quiet (validateIdentifier label name) := by
  unfold validateIdentifier
  split
  · exact .pure _
  · exact .fail _

theorem quiet_validateRelationIdentifiers (relation : Relation) :
    Quiet (validateRelationIdentifiers relation) :=
  .bind (quiet_validateIdentifier _ _) fun _ =>
    .bind (.forM (quiet_validateIdentifier _) _) fun _ => .forM (quiet_validateIdentifier _) _

theorem quiet_recordChildren (records : Bool) (relation : Relation) (mode : CascadeMode)
    (rows : List Json) : Quiet (onlyIf records (rows.forM (recordChild relation mode))) :=
  quiet_onlyIf (.forM (fun _ => quiet_dispatch _) rows)

end Quiet

end Rustasea.Orm.Mutations
