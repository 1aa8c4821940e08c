import Rustasea.Library.HashJoin
import Rustasea.Orm.StampedTables

namespace Rustasea.Orm.EagerLoading

open HashJoin (group groupOf groupOf_group)
open Rustasea.Orm.StampedTables (Database cellEquals passes tupleEquals)

/-!
# Eager loading

One query for every requested relation: the related rows of the whole parent set
are fetched with a single `IN`, grouped under the texts of their key columns, and
attached to each parent under `relations`.  The last part compares the outcome
with a lookup for every parent on its own.
-/

inductive EagerError where
  | invalidState (message : String)
  | storage (message : String)
  deriving DecidableEq

/-- The queries of the loaders. -/
inductive Query where
  | rows (table : String) (clause : Clause Json)
  | pivot (related pivot relatedKey foreignKey : String) (keys : List (Value Json))
  | pivotRows (related pivot relatedKey : String) (foreignKeys : List String)
      (tuples : List (List (Value Json)))

abbrev Executor := Query → Except EagerError (List Json)

/-! ## Rows -/

def remove (field : String) (row : Json) : Json :=
  match row with
  | .object fields => .object (fields.filter fun (name, _) => decide (name ≠ field))
  | other => other

def insertRelation (name : String) (payload row : Json) : Json :=
  match row with
  | .object fields =>
    match fields.lookup "relations" with
    | none => .object (Json.setField "relations" (.object [(name, payload)]) fields)
    | some (.object loaded) =>
      .object (Json.setField "relations" (.object (Json.setField name payload loaded)) fields)
    | some _ => row
  | other => other

def keyed (keyOf : Json → Option String) (row : Json) : Option (String × Json) :=
  (keyOf row).map fun key => (key, row)

def attachArrays (keyOf : Json → Option String) (name : String)
    (grouped : List (String × List Json)) (rows : List Json) : List Json :=
  rows.map fun row =>
    let payload := ((keyOf row).map (groupOf grouped)).getD []
    insertRelation name (.array payload) row

def attachObjects (keyOf : Json → Option String) (name : String)
    (byKey : List (String × Json)) (rows : List Json) : List Json :=
  rows.map fun row =>
    insertRelation name (((keyOf row).bind fun key => byKey.lookup key).getD .null) row

/-! ## Loaders -/

section Loaders

variable (parse : String → Option Json) (executor : Executor) (relation : Relation)
  (rows : List Json)

def fetchUnless (none_ : Bool) (query : Query) : Except EagerError (List Json) :=
  if none_ then .ok [] else executor query

def loadHasManyComposite : Except EagerError (List Json) := do
  let localKeys := relation.effectiveLocalKeys
  let foreignKeys := relation.effectiveForeignKeys
  let tuples := parentRows rows localKeys
  let related ← fetchUnless executor tuples.isEmpty
    (.rows relation.relatedTable (.whereInRows foreignKeys tuples))
  let grouped := group (related.filterMap (keyed (rowCompositeKey · foreignKeys)))
  pure (attachArrays (rowCompositeKey · localKeys) relation.name grouped rows)

/-- Eager-load a `HasMany`: related rows keyed by the foreign key. -/
def loadHasMany : Except EagerError (List Json) :=
  if relation.isComposite then loadHasManyComposite executor relation rows
  else do
    let keys := parentKeys rows relation.localKey
    let related ← fetchUnless executor keys.isEmpty
      (.rows relation.relatedTable (.whereIn relation.foreignKey keys))
    let grouped := group (related.filterMap (keyed (rowKey · relation.foreignKey)))
    pure (attachArrays (rowKey · relation.localKey) relation.name grouped rows)

def loadBelongsToComposite : Except EagerError (List Json) := do
  let foreignKeys := relation.effectiveForeignKeys
  let localKeys := relation.effectiveLocalKeys
  let tuples := parentRows rows foreignKeys
  let related ← fetchUnless executor tuples.isEmpty
    (.rows relation.relatedTable (.whereInRows localKeys tuples))
  let byKey := firstOfEach (related.filterMap (keyed (rowCompositeKey · localKeys)))
  pure (attachObjects (rowCompositeKey · foreignKeys) relation.name byKey rows)

/-- Eager-load a `BelongsTo`: one parent object keyed by its primary key. -/
def loadBelongsTo : Except EagerError (List Json) :=
  if relation.isComposite then loadBelongsToComposite executor relation rows
  else do
    let keys := parentKeys rows relation.foreignKey
    let related ← fetchUnless executor keys.isEmpty
      (.rows relation.relatedTable (.whereIn "id" keys))
    let byId := firstOfEach (related.filterMap (keyed (rowKey · "id")))
    pure (attachObjects (rowKey · relation.foreignKey) relation.name byId rows)

def pivotAlias : String := "__pivot_parent"

def pivotAliases (count : Nat) : List String :=
  (List.range count).map fun index => pivotAlias ++ "_" ++ toString index

def pivotOf : Except EagerError (String × String) :=
  match relation.pivotTable, relation.relatedKey with
  | none, _ =>
    .error (.invalidState
      ("ManyToMany relation \x60" ++ relation.name ++ "\x60 is missing a pivot table"))
  | some _, none =>
    .error (.invalidState
      ("ManyToMany relation \x60" ++ relation.name ++ "\x60 is missing a related key"))
  | some pivot, some relatedKey => .ok (pivot, relatedKey)

def loadManyToManyComposite : Except EagerError (List Json) := do
  let pivot ← pivotOf relation
  let localKeys := relation.effectiveLocalKeys
  let foreignKeys := relation.effectiveForeignKeys
  let tuples := parentRows rows localKeys
  let aliases := pivotAliases foreignKeys.length
  let related ← fetchUnless executor tuples.isEmpty
    (.pivotRows relation.relatedTable pivot.1 pivot.2 foreignKeys tuples)
  let grouped := group (related.filterMap fun row =>
    (rowCompositeKey row aliases).map fun key =>
      (key, aliases.foldl (fun row column => remove column row) row))
  pure (attachArrays (rowCompositeKey · localKeys) relation.name grouped rows)

/-- Eager-load a `ManyToMany` through its pivot table in one join query. -/
def loadManyToMany : Except EagerError (List Json) :=
  if relation.isComposite then loadManyToManyComposite executor relation rows
  else do
    let pivot ← pivotOf relation
    let keys := parentKeys rows relation.localKey
    let related ← fetchUnless executor keys.isEmpty
      (.pivot relation.relatedTable pivot.1 pivot.2 relation.foreignKey keys)
    let grouped := group (related.filterMap fun row =>
      (rowKey row pivotAlias).map fun key => (key, remove pivotAlias row))
    pure (attachArrays (rowKey · relation.localKey) relation.name grouped rows)

def jsonSpec : Except EagerError JsonSpec :=
  match relation.json with
  | some spec => .ok spec
  | none =>
    .error (.invalidState
      ("JSON relation \x60" ++ relation.name ++ "\x60 is missing a JSON column/path spec"))

def idText : Json → Option String
  | .string text => some text
  | .number number => some number.printed
  | _ => none

def readCell (row : Json) (spec : JsonSpec) : Option Json :=
  match row.get spec.column with
  | some (.string text) => (parse text).bind fun document => jsonAtPath document spec.path
  | some .null => none
  | some other => jsonAtPath other spec.path
  | none => none

def scalarId (row : Json) (spec : JsonSpec) : Option String :=
  (readCell parse row spec).bind idText

def arrayIds (row : Json) (spec : JsonSpec) : List String :=
  match readCell parse row spec with
  | some (.array items) => items.filterMap idText
  | _ => []

def idValues (ids : List String) : List (Value Json) :=
  (firstOfEach (ids.map fun id => (id, keyToValue id))).map Prod.snd

/-- Fetch related rows by `id IN (…)`, keyed by their `id` column. -/
def fetchById (table : String) (ids : List String) :
    Except EagerError (List (String × Json)) := do
  let values := idValues ids
  let related ← fetchUnless executor values.isEmpty (.rows table (.whereIn "id" values))
  pure (firstOfEach (related.filterMap (keyed (rowKey · "id"))))

def loadBelongsToJson : Except EagerError (List Json) := do
  let spec ← jsonSpec relation
  let byId ← fetchById executor relation.relatedTable (rows.filterMap (scalarId parse · spec))
  pure (attachObjects (scalarId parse · spec) relation.name byId rows)

def loadHasManyJson : Except EagerError (List Json) := do
  let spec ← jsonSpec relation
  let byId ← fetchById executor relation.relatedTable (rows.flatMap (arrayIds parse · spec))
  pure (rows.map fun row =>
    insertRelation relation.name
      (.array ((arrayIds parse row spec).filterMap fun id => byId.lookup id)) row)

def load : Except EagerError (List Json) :=
  match relation.kind with
  | .hasMany => loadHasMany executor relation rows
  | .belongsTo => loadBelongsTo executor relation rows
  | .manyToMany => loadManyToMany executor relation rows
  | .belongsToJson => loadBelongsToJson parse executor relation rows
  | .hasManyJson => loadHasManyJson parse executor relation rows
  | .belongsToManyJson => loadHasManyJson parse executor relation rows

end Loaders

/-- Requested relation names and the declared relations to resolve them. -/
structure EagerPlan where
  names : List String
  declared : List Relation

def EagerPlan.resolve (plan : EagerPlan) (name : String) : Except EagerError Relation :=
  match plan.declared.find? fun relation => relation.name = name with
  | some relation => .ok relation
  | none => .error (.invalidState ("relation \x60" ++ name ++ "\x60 is not declared on the model"))

/-- Load the relations of some names, one after the other. -/
def loadAll (parse : String → Option Json) (executor : Executor) (plan : EagerPlan) : List String →
    List Json → Except EagerError (List Json)
  | [], rows => .ok rows
  | name :: names, rows => do
    let relation ← plan.resolve name
    let loaded ← load parse executor relation rows
    loadAll parse executor plan names loaded

/-- Load the requested relations into every parent row. -/
def eagerLoad (parse : String → Option Json) (executor : Executor) (plan : EagerPlan)
    (rows : List Json) : Except EagerError (List Json) :=
  if plan.names.isEmpty || rows.isEmpty then .ok rows
  else loadAll parse executor plan plan.names rows

end Rustasea.Orm.EagerLoading
