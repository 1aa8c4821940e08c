import Mathlib.Data.List.ProdSigma
import Rustasea.Orm.EagerLoading

namespace Rustasea.Orm.EagerLookup

open List

open HashJoin (group groupOf groupOf_group)
open Rustasea.Orm.EagerLoading
open Rustasea.Orm.StampedTables (Database cellEquals passes tupleEquals)

/-!
# Eager loading and a lookup for every parent

What a lookup for one parent finds, and why the fetched rows of all the parents
can be probed for them.  Keys are compared by their texts; a key that reads as a
UUID has to be in canonical form, and the parts of a composite key have to be
free of the separator.
-/

/--
A database: the rows of a table and the pairs of a join in the order in which
queries return them, and comparisons that find a cell by its own text.
-/
structure Store extends Database where
  rows : String → List Json
  pairs : String → String → List (Json × Json)
  cellsEqual : Json → Json → Bool
  pairs_perm : ∀ related pivot, (pairs related pivot).Perm ((rows related).product (rows pivot))
  objects : ∀ table, ∀ row ∈ rows table, ∃ fields, row = .object fields
  equal_text : ∀ text cell, idText cell = some text → equal (.text text) cell = true
  equal_uuid : ∀ id cell, idText cell = some id → equal (.uuid id) cell = true

namespace Store

/-- `p.related_key = r.id`. -/
def joins (store : Store) (relatedKey : String) (pair : Json × Json) : Bool :=
  match pair.2.get relatedKey, pair.1.get "id" with
  | some key, some id => store.cellsEqual key id
  | _, _ => false

/-- `r.*, p.column AS alias, …`. -/
def joined (columns aliases : List String) (pair : Json × Json) : Json :=
  (columns.zip aliases).foldl
    (fun row (column, name) => row.set name ((pair.2.get column).getD .null))
    pair.1

/-- The pairs of a join whose pivot row passes a condition. -/
def join (store : Store) (related pivot relatedKey : String)
    (clause : Clause Json) : List (Json × Json) :=
  (store.pairs related pivot).filter fun pair =>
    store.joins relatedKey pair && passes store.toDatabase pair.2 clause

def fetch (store : Store) : Query → List Json
  | .rows table clause => (store.rows table).filter (passes store.toDatabase · clause)
  | .pivot related pivot relatedKey foreignKey keys =>
    (store.join related pivot relatedKey (.whereIn foreignKey keys)).map
      (joined [foreignKey] [pivotAlias])
  | .pivotRows related pivot relatedKey foreignKeys tuples =>
    (store.join related pivot relatedKey (.whereInRows foreignKeys tuples)).map
      (joined foreignKeys (pivotAliases foreignKeys.length))

def executor (store : Store) : Executor := fun query => .ok (store.fetch query)

end Store

/-! ## A lookup for one parent -/

def ownColumns (relation : Relation) : List String :=
  match relation.kind, relation.isComposite with
  | .belongsTo, true => relation.effectiveForeignKeys
  | .belongsTo, false => [relation.foreignKey]
  | _, true => relation.effectiveLocalKeys
  | _, false => [relation.localKey]

/-- The key columns of the related rows, or of the pivot. -/
def otherColumns (relation : Relation) : List String :=
  match relation.kind, relation.isComposite with
  | .belongsTo, true => relation.effectiveLocalKeys
  | .belongsTo, false => ["id"]
  | _, true => relation.effectiveForeignKeys
  | _, false => [relation.foreignKey]

def keyTexts (columns : List String) (row : Json) : Option (List String) :=
  columns.mapM (rowKey row)

@[grind =] def sameKey (columns others : List String) (row other : Json) : Bool :=
  match keyTexts columns row with
  | some texts => decide (keyTexts others other = some texts)
  | none => false

def rowOfId (store : Store) (table id : String) : Option Json :=
  (store.rows table).find? fun row => decide (rowKey row "id" = some id)

def lookup (store : Store) (parse : String → Option Json) (relation : Relation)
    (row : Json) : Json :=
  let isIts := sameKey (ownColumns relation) (otherColumns relation) row
  match relation.kind with
  | .hasMany => .array ((store.rows relation.relatedTable).filter isIts)
  | .belongsTo => ((store.rows relation.relatedTable).find? isIts).getD .null
  | .manyToMany =>
    let pivot := relation.pivotTable.getD ""
    let relatedKey := relation.relatedKey.getD ""
    .array (((store.pairs relation.relatedTable pivot).filter fun pair =>
      store.joins relatedKey pair && isIts pair.2).map Prod.fst)
  | .belongsToJson =>
    ((relation.json.bind (scalarId parse row)).bind
      (rowOfId store relation.relatedTable)).getD .null
  | _ =>
    .array (((relation.json.map (arrayIds parse row)).getD []).filterMap
      (rowOfId store relation.relatedTable))

/-! ## Keys that are compared as they are -/

def Canonical (text : String) : Prop := ∀ id, parseUuid? text = some id → id = text

def Unseparated (text : String) : Prop := '\x1f' ∉ text.toList

/--
A parent whose own key is compared as it is.  The columns that the loaders add
to a row are reserved.
-/
def Plain (store : Store) (parse : String → Option Json) (relation : Relation)
    (row : Json) : Prop :=
  match relation.kind with
  | .belongsToJson =>
    ∀ spec, relation.json = some spec → spec.column ≠ "relations" ∧
        ∀ id, scalarId parse row spec = some id → Canonical id
  | .hasManyJson | .belongsToManyJson =>
    ∀ spec, relation.json = some spec → spec.column ≠ "relations" ∧
        ∀ id ∈ arrayIds parse row spec, Canonical id
  | kind =>
    (∀ texts, keyTexts (ownColumns relation) row = some texts →
      ∀ text ∈ texts, Canonical text ∧ (relation.isComposite = true → Unseparated text)) ∧
      (kind = .manyToMany → ∀ related ∈ store.rows relation.relatedTable,
          related.get pivotAlias = none ∧
            ∀ name ∈ pivotAliases relation.effectiveForeignKeys.length, related.get name = none)

def Configured (relation : Relation) : Prop :=
  match relation.kind with
  | .hasMany => True
  | .belongsTo => True
  | .manyToMany => relation.pivotTable.isSome = true ∧ relation.relatedKey.isSome = true
  | _ => relation.json.isSome = true

/-! ## Texts and bound values -/

theorem rowKey_eq (row : Json) (column : String) :
    rowKey row column = (row.get column).bind idText := by
  unfold rowKey
  cases row.get column with
  | none => rfl
  | some cell => cases cell <;> rfl

variable {text : String} (store : Store)

theorem equal_keyToValue (canonical : Canonical text) {cell : Json}
    (isText : idText cell = some text) : store.equal (keyToValue text) cell = true := by
  unfold keyToValue
  split
  · next id isUuid =>
    rw [canonical id isUuid]
    exact store.equal_uuid text cell isText
  · exact store.equal_text text cell isText

variable {row : Json}

theorem cellEquals_keyToValue (canonical : Canonical text) {column : String}
    (isKey : rowKey row column = some text) :
    cellEquals store.toDatabase row column (keyToValue text) = true := by
  rw [rowKey_eq] at isKey
  obtain ⟨cell, isCell, isText⟩ := Option.bind_eq_some_iff.mp isKey
  unfold cellEquals
  rw [isCell]
  exact equal_keyToValue store canonical isText

/-! ## Key texts -/

theorem keyTexts_cons (column : String) (columns : List String) (row : Json) :
    keyTexts (column :: columns) row =
      (rowKey row column).bind fun text => (keyTexts columns row).map (text :: ·) := by
  unfold keyTexts
  rw [mapM_cons]
  cases rowKey row column with
  | none => rfl
  | some text => cases columns.mapM (rowKey row) <;> rfl

theorem keyTexts_singleton (column : String) (row : Json) :
    keyTexts [column] row = (rowKey row column).map fun text => [text] := by
  rw [keyTexts_cons]
  cases rowKey row column <;> rfl

variable {columns texts : List String}

theorem length_keyTexts (areTexts : keyTexts columns row = some texts) :
    texts.length = columns.length := by
  induction columns generalizing texts with
  | nil =>
    cases areTexts
    rfl
  | cons column columns ih =>
    rw [keyTexts_cons] at areTexts
    obtain ⟨text, -, areRest⟩ := Option.bind_eq_some_iff.mp areTexts
    obtain ⟨rest, isRest, rfl⟩ := Option.map_eq_some_iff.mp areRest
    rw [length_cons, length_cons, ih isRest]

theorem filterMap_keyTexts (areTexts : keyTexts columns row = some texts) :
    columns.filterMap (rowKey row) = texts := by
  induction columns generalizing texts with
  | nil =>
    cases areTexts
    rfl
  | cons column columns ih =>
    rw [keyTexts_cons] at areTexts
    obtain ⟨text, isText, areRest⟩ := Option.bind_eq_some_iff.mp areTexts
    obtain ⟨rest, isRest, rfl⟩ := Option.map_eq_some_iff.mp areRest
    rw [filterMap_cons, isText, ih isRest]

theorem tupleEquals_keyTexts {columns texts : List String}
    (canonical : ∀ text ∈ texts, Canonical text) (areTexts : keyTexts columns row = some texts) :
    tupleEquals store.toDatabase row columns (texts.map keyToValue) = true := by
  unfold tupleEquals
  rw [Bool.and_eq_true]
  refine ⟨?_, ?_⟩
  · rw [length_map, length_keyTexts areTexts]
    exact decide_eq_true rfl
  · induction columns generalizing texts with
    | nil =>
      cases areTexts
      rfl
    | cons column columns ih =>
      rw [keyTexts_cons] at areTexts
      obtain ⟨text, isText, areRest⟩ := Option.bind_eq_some_iff.mp areTexts
      obtain ⟨rest, isRest, rfl⟩ := Option.map_eq_some_iff.mp areRest
      rw [map_cons, zip_cons_cons, all_cons, Bool.and_eq_true]
      exact ⟨cellEquals_keyToValue store (canonical text mem_cons_self)
          isText,
        ih (fun other isOther => canonical other (mem_cons_of_mem _ isOther)) isRest⟩

/-! ## Joined keys -/

theorem toList_joinKey (parts : List String) :
    (joinKey parts).toList = ['\x1f'].intercalate (parts.map String.toList) := by
  induction parts using joinKey.induct with
  | case1 => rfl
  | case2 only => simp [joinKey]
  | case3 first second rest ih =>
    rw [joinKey, String.toList_append, ih]
    simp [compositeKeySeparator]

theorem eq_of_joinKey_eq {texts others : List String} (free : ∀ text ∈ texts, Unseparated text)
    (sameLength : others.length = texts.length)
    (same : joinKey others = joinKey texts) : others = texts := by
  have sameLists := congrArg String.toList same
  rw [toList_joinKey, toList_joinKey] at sameLists
  have areFree : ∀ part ∈ texts.map String.toList, '\x1f' ∉ part := by
    intro part isPart
    obtain ⟨text, isText, rfl⟩ := mem_map.mp isPart
    exact free text isText
  have sameParts := HashJoin.eq_of_intercalate_eq areFree
    (by rw [length_map, length_map, sameLength]) sameLists
  exact (map_injective_iff.mpr fun _ _ => String.toList_inj.mp) sameParts

/-! ## Distinct values -/

section Distinct

variable {Payload : Type}

theorem lookup_filter_ne {key kept : String} (different : key ≠ kept)
    (entries : List (String × Payload)) :
    (entries.filter fun (other, _) => decide (other ≠ kept)).lookup key = entries.lookup key := by
  induction entries with
  | nil => rfl
  | cons entry rest ih =>
    obtain ⟨name, payload⟩ := entry
    by_cases same : name = kept
    · rw [filter_cons_of_neg (by simp [same]), ih,
        lookup_cons, beq_false_of_ne (same ▸ different)]
    · rw [filter_cons_of_pos (by simp [same]), lookup_cons, lookup_cons, ih]

theorem lookup_firstOfEach (entries : List (String × Payload)) (key : String) :
    (firstOfEach entries).lookup key = entries.lookup key := by
  induction entries with
  | nil => rfl
  | cons entry rest ih =>
    obtain ⟨name, payload⟩ := entry
    rw [firstOfEach, lookup_cons, lookup_cons]
    by_cases same : key = name
    · rw [same, beq_self_eq_true]
    · rw [lookup_filter_ne same, ih]

variable {entries : List (String × Payload)} {key : String} {payload : Payload}

theorem mem_of_lookup (found : entries.lookup key = some payload) : (key, payload) ∈ entries := by
  induction entries with
  | nil => cases found
  | cons entry rest ih =>
    obtain ⟨name, present⟩ := entry
    rw [lookup_cons] at found
    by_cases same : key = name
    · rw [same, beq_self_eq_true] at found
      cases found
      rw [same]
      exact mem_cons_self
    · rw [beq_false_of_ne same] at found
      exact mem_cons_of_mem _ (ih found)

theorem exists_lookup (isEntry : (key, payload) ∈ entries) :
    ∃ first, entries.lookup key = some first := by
  induction entries with
  | nil => cases isEntry
  | cons entry rest ih =>
    obtain ⟨name, present⟩ := entry
    rw [lookup_cons]
    by_cases same : key = name
    · exact ⟨present, by rw [same, beq_self_eq_true]⟩
    · rw [beq_false_of_ne same]
      rcases mem_cons.mp isEntry with isHere | isLater
      · cases isHere
        exact absurd rfl same
      · exact ih isLater

/--
The value of a key is among the distinct ones, when all the entries of the key
have the same.
-/
theorem mem_distinct (isEntry : (key, payload) ∈ entries)
    (only : ∀ other, (key, other) ∈ entries → other = payload) :
    payload ∈ (firstOfEach entries).map Prod.snd := by
  obtain ⟨first, isFirst⟩ := exists_lookup isEntry
  obtain rfl := only first (mem_of_lookup isFirst)
  rw [← lookup_firstOfEach] at isFirst
  exact mem_map_of_mem (mem_of_lookup isFirst)

end Distinct

theorem mem_idValues {ids : List String} {id : String} (isId : id ∈ ids) :
    keyToValue id ∈ idValues ids := by
  refine mem_distinct (mem_map_of_mem isId) ?_
  intro other isEntry
  obtain ⟨source, -, same⟩ := mem_map.mp isEntry
  cases same
  rfl

variable {rows : List Json}

theorem mem_parentKeys (isRow : row ∈ rows) {column text : String}
    (isKey : rowKey row column = some text) : keyToValue text ∈ parentKeys rows column :=
  mem_idValues (mem_filterMap.mpr ⟨row, isRow, isKey⟩)

theorem rowCompositeKey_eq (row : Json) (columns : List String) :
    rowCompositeKey row columns = (keyTexts columns row).map joinKey :=
  rfl

theorem mem_parentRows (isRow : row ∈ rows) {columns texts : List String}
    (areTexts : keyTexts columns row = some texts)
    (free : ∀ text ∈ texts, Unseparated text) : texts.map keyToValue ∈ parentRows rows columns := by
  have entryOf {source : Json} {parts : List String}
      (areParts : keyTexts columns source = some parts) :
      ((rowCompositeKey source columns).map fun key =>
        (key, (columns.filterMap (rowKey source)).map keyToValue)) =
          some (joinKey parts, parts.map keyToValue) := by
    rw [rowCompositeKey_eq, areParts, filterMap_keyTexts areParts]
    rfl
  refine mem_distinct (mem_filterMap.mpr ⟨row, isRow, entryOf areTexts⟩) ?_
  intro other isEntry
  obtain ⟨source, -, isIts⟩ := mem_filterMap.mp isEntry
  cases isParts : keyTexts columns source with
  | none =>
    rw [rowCompositeKey_eq, isParts] at isIts
    cases isIts
  | some parts =>
    rw [entryOf isParts] at isIts
    obtain ⟨sameKey, rfl⟩ := Prod.mk.inj (Option.some.inj isIts)
    have sameLength : parts.length = texts.length := by
      rw [length_keyTexts isParts, length_keyTexts areTexts]
    rw [eq_of_joinKey_eq free sameLength sameKey]

theorem length_of_mem_parentRows {tuple : List (Value Json)}
    (isTuple : tuple ∈ parentRows rows columns) : tuple.length = columns.length := by
  obtain ⟨entry, isEntry, rfl⟩ := mem_map.mp isTuple
  have kept {entries : List (String × List (Value Json))}
      (isKept : entry ∈ firstOfEach entries) : entry ∈ entries := by
    induction entries with
    | nil => cases isKept
    | cons first rest ih =>
      rcases mem_cons.mp isKept with rfl | isLater
      · exact mem_cons_self
      · exact mem_cons_of_mem _ (ih (mem_of_mem_filter isLater))
  obtain ⟨source, -, isIts⟩ := mem_filterMap.mp (kept isEntry)
  cases isParts : keyTexts columns source with
  | none =>
    rw [rowCompositeKey_eq, isParts] at isIts
    cases isIts
  | some parts =>
    rw [rowCompositeKey_eq, isParts, filterMap_keyTexts isParts] at isIts
    cases isIts
    rw [length_map, length_keyTexts isParts]

/-! ## Probing the fetched rows -/

theorem sameKey_singleton {own text : String} (isKey : rowKey row own = some text) (column : String)
    (other : Json) :
    sameKey [own] [column] row other = decide (rowKey other column = some text) := by
  unfold sameKey
  rw [keyTexts_singleton, isKey]
  rw [keyTexts_singleton]
  cases rowKey other column with
  | none => rfl
  | some otherText => simp

/--
A parent row finds its own related rows among the fetched ones by comparing
keys.
-/
structure Probes (store : Store) (noValues : Bool) (clause : Clause Json)
    (keyOf otherKey : Json → Option String) (isIts : Json → Bool) (row : Json) :
    Prop where
  absent : keyOf row = none → ∀ other, isIts other = false
  present : ∀ key, keyOf row = some key → noValues = false ∧ ∀ other,
          (decide (otherKey other = some key) && passes store.toDatabase other clause) = isIts other

theorem probes_single (isRow : row ∈ rows) {own column : String}
    (canonical : ∀ text, rowKey row own = some text → Canonical text) :
    Probes store (parentKeys rows own).isEmpty
      (.whereIn column (parentKeys rows own)) (rowKey · own) (rowKey · column)
      (sameKey [own] [column] row) row := by
  refine ⟨?_, ?_⟩
  · intro noKey other
    unfold sameKey
    rw [keyTexts_singleton, noKey]
    rfl
  · intro text isKey
    have isBound := mem_parentKeys isRow isKey
    refine ⟨isEmpty_eq_false_iff.mpr (ne_nil_of_mem isBound), ?_⟩
    intro other
    rw [sameKey_singleton isKey]
    by_cases same : rowKey other column = some text
    · rw [decide_eq_true same]
      exact any_eq_true.mpr ⟨_, isBound,
        cellEquals_keyToValue store (canonical text isKey) same⟩
    · rw [decide_eq_false same, Bool.false_and]

theorem probes_composite (isRow : row ∈ rows) {own columns : List String}
    (several : 1 < own.length ∨ 1 < columns.length)
    (plain : ∀ texts, keyTexts own row = some texts →
      ∀ text ∈ texts, Canonical text ∧ Unseparated text) :
    Probes store (parentRows rows own).isEmpty (.whereInRows columns (parentRows rows own))
      (rowCompositeKey · own) (rowCompositeKey · columns) (sameKey own columns row) row := by
  refine ⟨?_, ?_⟩
  · intro noKey other
    rw [rowCompositeKey_eq, Option.map_eq_none_iff] at noKey
    unfold sameKey
    rw [noKey]
  · intro key isKey
    rw [rowCompositeKey_eq] at isKey
    obtain ⟨texts, areTexts, rfl⟩ := Option.map_eq_some_iff.mp isKey
    have canonical text isText := (plain texts areTexts text isText).1
    have free text isText := (plain texts areTexts text isText).2
    have isBound := mem_parentRows isRow areTexts free
    refine ⟨isEmpty_eq_false_iff.mpr (ne_nil_of_mem isBound), ?_⟩
    intro other
    have isSame : sameKey own columns row other = decide (keyTexts columns other = some texts) := by
      unfold sameKey
      rw [areTexts]
    rw [isSame, Bool.eq_iff_iff, Bool.and_eq_true, decide_eq_true_iff,
      decide_eq_true_iff, rowCompositeKey_eq]
    constructor
    · rintro ⟨sameKey, isFetched⟩
      obtain ⟨others, areOthers, same⟩ := Option.map_eq_some_iff.mp sameKey
      rw [passes, Bool.and_eq_true, any_eq_true] at isFetched
      obtain ⟨-, tuple, isTuple, isEqual⟩ := isFetched
      have isLong : tuple.length = columns.length := by
        unfold tupleEquals at isEqual
        rw [Bool.and_eq_true, decide_eq_true_iff] at isEqual
        exact isEqual.1
      have sameLength : others.length = texts.length := by
        rw [length_keyTexts areOthers, length_keyTexts areTexts, ← isLong,
          length_of_mem_parentRows isTuple]
      rw [areOthers, eq_of_joinKey_eq free sameLength same]
    · intro areOthers
      have sameLength : columns.length = own.length := by
        rw [← length_keyTexts areOthers, ← length_keyTexts areTexts]
      have notEmpty : columns ≠ [] := by
        rintro rfl
        simp only [length_nil] at sameLength several
        omega
      refine ⟨by rw [areOthers]; rfl, ?_⟩
      rw [passes, Bool.and_eq_true, any_eq_true]
      refine ⟨?_, _, isBound, tupleEquals_keyTexts store canonical areOthers⟩
      rw [isEmpty_eq_false_iff.mpr notEmpty]
      rfl

theorem groupOf_filterMap {Row : Type} (keyOf : Row → Option String) (payloadOf : Row → Json)
    (rows : List Row) (key : String) :
    groupOf
      (group (rows.filterMap fun row => (keyOf row).map fun own => (own, payloadOf row))) key =
      (rows.filter fun row => decide (keyOf row = some key)).map payloadOf := by
  rw [groupOf_group]
  induction rows with
  | nil => rfl
  | cons row rest ih =>
    cases isKey : keyOf row with
    | none => simp [isKey, ih]
    | some own =>
      by_cases same : own = key
      · simp [isKey, same, ih]
      · simp [isKey, same, ih]

theorem lookup_keyed (keyOf : Json → Option String) (rows : List Json) (key : String) :
    (rows.filterMap (keyed keyOf)).lookup key =
      rows.find? fun row => decide (keyOf row = some key) := by
  induction rows with
  | nil => rfl
  | cons row rest ih =>
    cases isKey : keyOf row with
    | none => simp [keyed, isKey, ih]
    | some own =>
      by_cases same : own = key
      · simp [keyed, isKey, same]
      · simp [keyed, isKey, same, lookup_cons, beq_false_of_ne (Ne.symm same), ih]

end Rustasea.Orm.EagerLookup
