import Mathlib.Data.List.Nodup
import Rustasea.Library.DecimalText
import Rustasea.Orm.EagerLookup

namespace Rustasea.Orm.EagerAgreement

open Option

open HashJoin (group groupOf)
open Rustasea.Orm.EagerLoading
open Rustasea.Orm.EagerLookup
open Rustasea.Orm.StampedTables (passes)

/-!
# Eager loading agrees with the lookups

Every loader changes each row on its own, and a plain parent as its lookup says;
so does loading any number of relations one after the other.
-/

/-! ## Joined rows -/

section Joined

theorem remove_set_of_ne {removed field : String} (different : field ≠ removed) (value row : Json) :
    remove removed (row.set field value) = (remove removed row).set field value := by
  cases row with
  | object fields =>
    change Json.object _ = Json.object _
    congr 1
    induction fields with
    | nil => simp [Json.setField, different]
    | cons entry rest ih =>
      obtain ⟨name, present⟩ := entry
      by_cases isField : field = name
      · subst isField
        simp [Json.setField, different]
      · rw [Json.setField, if_neg isField]
        by_cases isRemoved : name = removed
        · rw [List.filter_cons_of_neg (by simp [isRemoved]),
            List.filter_cons_of_neg (by simp [isRemoved]),
            ih]
        · rw [List.filter_cons_of_pos (by simp [isRemoved]),
            List.filter_cons_of_pos (by simp [isRemoved]),
            ih, Json.setField, if_neg isField]
  | _ => rfl

theorem remove_set_self {field : String} {row : Json} (absent : row.get field = none)
    (value : Json) : remove field (row.set field value) = row := by
  cases row with
  | object fields =>
    change Json.object _ = Json.object _
    congr 1
    replace absent : fields.lookup field = none := absent
    induction fields with
    | nil => simp [Json.setField]
    | cons entry rest ih =>
      obtain ⟨name, present⟩ := entry
      rw [List.lookup_cons] at absent
      by_cases isField : field = name
      · rw [isField, beq_self_eq_true] at absent
        cases absent
      · rw [beq_false_of_ne isField] at absent
        rw [Json.setField, if_neg isField, List.filter_cons_of_pos (by simp [Ne.symm isField]),
          ih absent]
  | _ => rfl

variable {columns aliases : List String} {related pivot : Json}

theorem joined_cons (column first : String) (columns rest : List String) (related pivot : Json) :
    Store.joined (column :: columns) (first :: rest) (related, pivot) =
      Store.joined columns rest (related.set first ((pivot.get column).getD .null), pivot) :=
  rfl

theorem get_joined_of_not_mem (columns : List String) {name : String} (notAlias : name ∉ aliases)
    (related pivot : Json) :
    (Store.joined columns aliases (related, pivot)).get name = related.get name := by
  induction columns generalizing aliases related with
  | nil => rfl
  | cons column columns ih =>
    cases aliases with
    | nil => rfl
    | cons first rest =>
      rw [joined_cons, ih (fun isRest => notAlias (List.mem_cons_of_mem _ isRest))]
      exact Json.get_set_of_ne (List.ne_of_not_mem_cons notAlias) _ _

theorem keyTexts_joined (sameLength : columns.length = aliases.length) (distinct : aliases.Nodup)
    (fields : List (String × Json)) (pivot : Json) :
    keyTexts aliases (Store.joined columns aliases (.object fields, pivot)) =
      keyTexts columns pivot := by
  induction columns generalizing aliases fields with
  | nil =>
    rw [List.length_eq_zero_iff.mp sameLength.symm]
    rfl
  | cons column columns ih =>
    cases aliases with
    | nil => cases sameLength
    | cons first rest =>
      obtain ⟨notRest, distinctRest⟩ := List.nodup_cons.mp distinct
      have firstKey : rowKey (Store.joined (column :: columns) (first :: rest)
          (.object fields, pivot)) first = rowKey pivot column := by
        rw [rowKey_eq, rowKey_eq, joined_cons,
          get_joined_of_not_mem columns notRest, Json.get_set_self]
        cases pivot.get column <;> rfl
      rw [keyTexts_cons, keyTexts_cons, firstKey, joined_cons, Json.set,
        ih (Nat.succ.inj sameLength) distinctRest]

theorem foldl_remove_joined (sameLength : columns.length = aliases.length)
    (distinct : aliases.Nodup) (absent : ∀ name ∈ aliases, related.get name = none) :
    aliases.foldl (fun row column => remove column row)
      (Store.joined columns aliases (related, pivot)) = related := by
  have commutes {removed : String} {names : List String}
      (others : removed ∉ names) (sources : List String) (row : Json) :
      remove removed (Store.joined sources names (row, pivot)) =
        Store.joined sources names (remove removed row, pivot) := by
    induction sources generalizing names row with
    | nil => rfl
    | cons source sources ih =>
      cases names with
      | nil => rfl
      | cons first rest =>
        rw [joined_cons, joined_cons, ih (fun isRest => others (List.mem_cons_of_mem _ isRest)),
          remove_set_of_ne (List.ne_of_not_mem_cons others).symm]
  induction columns generalizing aliases with
  | nil =>
    rw [List.length_eq_zero_iff.mp sameLength.symm]
    rfl
  | cons column columns ih =>
    cases aliases with
    | nil => cases sameLength
    | cons first rest =>
      obtain ⟨notRest, distinctRest⟩ := List.nodup_cons.mp distinct
      have removed : remove first
          (Store.joined (column :: columns) (first :: rest) (related, pivot)) =
          Store.joined columns rest (related, pivot) := by
        rw [joined_cons, commutes notRest, remove_set_self (absent first List.mem_cons_self)]
      rw [List.foldl_cons, removed]
      exact ih (Nat.succ.inj sameLength) distinctRest
        fun name isName => absent name (List.mem_cons_of_mem _ isName)

theorem nodup_pivotAliases (count : Nat) : (pivotAliases count).Nodup := by
  refine List.Nodup.map ?_ List.nodup_range
  intro first second same
  exact DecimalText.toString_injective ((String.append_right_inj _).mp same)

end Joined

/-! ## The payload of a parent -/

section Payload

variable {store : Store} {noValues : Bool} {clause : Clause Json}
  {keyOf otherKey : Json → Option String} {isIts : Json → Bool} {row : Json}

theorem payload_arrays (probes : Probes store noValues clause keyOf otherKey isIts row)
    (stored : List Json) :
    ((keyOf row).map (groupOf (group
        ((if noValues then [] else
          stored.filter (passes store.toDatabase · clause)).filterMap (keyed otherKey))))).getD [] =
      stored.filter isIts := by
  cases isKey : keyOf row with
  | none =>
    symm
    rw [map_none, getD_none, List.filter_eq_nil_iff]
    intro other _ isTrue
    rw [probes.absent isKey other] at isTrue
    cases isTrue
  | some key =>
    obtain ⟨hasValues, agrees⟩ := probes.present key isKey
    rw [map_some, hasValues, if_neg (by decide)]
    refine (groupOf_filterMap otherKey id _ key).trans ?_
    rw [List.map_id, List.filter_filter]
    exact List.filter_congr fun other _ => agrees other

theorem payload_objects (probes : Probes store noValues clause keyOf otherKey isIts row)
    (stored : List Json) :
    ((keyOf row).bind fun key => (firstOfEach
        ((if noValues then [] else
          stored.filter (passes store.toDatabase · clause)).filterMap
            (keyed otherKey))).lookup key) =
      stored.find? isIts := by
  cases isKey : keyOf row with
  | none =>
    symm
    rw [bind_none, List.find?_eq_none]
    intro other _ isTrue
    rw [probes.absent isKey other] at isTrue
    cases isTrue
  | some key =>
    obtain ⟨hasValues, agrees⟩ := probes.present key isKey
    rw [bind_some, hasValues, if_neg (by decide), lookup_firstOfEach,
      lookup_keyed, List.find?_filter]
    congr 1
    funext other
    rw [Bool.decide_and, Bool.decide_eq_true, Bool.decide_eq_true, Bool.and_comm]
    exact agrees other

theorem payload_pivot (probes : Probes store noValues clause keyOf otherKey isIts row)
    (related pivot relatedKey : String) (joined : Json × Json → Json)
    (aliasKey : Json → Option String) (strip : Json → Json)
    (isKey : ∀ pair ∈ store.pairs related pivot, aliasKey (joined pair) = otherKey pair.2)
    (isRelated : ∀ pair ∈ store.pairs related pivot, strip (joined pair) = pair.1) :
    ((keyOf row).map (groupOf (group
        ((if noValues then [] else
          (store.join related pivot relatedKey clause).map joined).filterMap
            fun found => (aliasKey found).map fun key => (key, strip found))))).getD [] =
      ((store.pairs related pivot).filter fun pair =>
        store.joins relatedKey pair && isIts pair.2).map Prod.fst := by
  cases isOwn : keyOf row with
  | none =>
    symm
    rw [map_none, getD_none, List.map_eq_nil_iff, List.filter_eq_nil_iff]
    intro pair _ isTrue
    rw [probes.absent isOwn pair.2, Bool.and_false] at isTrue
    cases isTrue
  | some key =>
    obtain ⟨hasValues, agrees⟩ := probes.present key isOwn
    rw [map_some, getD_some, hasValues, if_neg (by decide), List.filterMap_map]
    have entries : (store.join related pivot relatedKey clause).filterMap
        ((fun found => (aliasKey found).map fun key => (key, strip found)) ∘ joined) =
        (store.join related pivot relatedKey clause).filterMap fun pair =>
          (otherKey pair.2).map fun key => (key, pair.1) := by
      apply List.filterMap_congr
      intro pair isPair
      have isStored := List.mem_of_mem_filter isPair
      rw [Function.comp_apply, isKey pair isStored, isRelated pair isStored]
    rw [entries, groupOf_filterMap (fun pair => otherKey pair.2) Prod.fst,
      Store.join, List.filter_filter]
    congr 1
    apply List.filter_congr
    intro pair _
    rw [← agrees pair.2, ← Bool.and_assoc, ← Bool.and_assoc, Bool.and_comm (decide _)]

end Payload

theorem fetchUnless_executor (store : Store) (noValues : Bool) (query : Query) :
    fetchUnless store.executor noValues query =
      .ok (if noValues then [] else store.fetch query) := by
  cases noValues <;> rfl

theorem exists_fields_of_mem_pairs {store : Store} {related pivot : String} {pair : Json × Json}
    (isPair : pair ∈ store.pairs related pivot) :
    pair.1 ∈ store.rows related ∧ ∃ fields, pair.1 = .object fields := by
  have isStored := (List.mem_product.mp ((store.pairs_perm related pivot).mem_iff.mp isPair)).1
  exact ⟨isStored, store.objects related pair.1 isStored⟩

/-! ## Loading one relation -/

/--
A loader changes every row on its own, and a plain parent as its lookup says.
-/
def LoadsAs (store : Store) (parse : String → Option Json) (relation : Relation)
    (rows : List Json) (outcome : Except EagerError (List Json)) : Prop :=
  ∃ loaded : Json → Json, outcome = .ok (rows.map loaded) ∧ ∀ row ∈ rows,
        Plain store parse relation row → loaded row =
            insertRelation relation.name (lookup store parse relation row) row

section Load

variable (store : Store) (parse : String → Option Json) {relation : Relation} (rows : List Json)

/-- The key texts of a plain parent are compared as they are. -/
def PlainTexts (relation : Relation) (row : Json) : Prop :=
  ∀ texts, keyTexts (ownColumns relation) row = some texts →
    ∀ text ∈ texts, Canonical text ∧ (relation.isComposite = true → Unseparated text)

theorem probes_of_single {rows : List Json} {row : Json} (isRow : row ∈ rows) (own column : String)
    (isOwn : ownColumns relation = [own]) (isColumn : otherColumns relation = [column])
    (plain : PlainTexts relation row) :
    Probes store (parentKeys rows own).isEmpty (.whereIn column (parentKeys rows own))
      (rowKey · own) (rowKey · column) (sameKey (ownColumns relation) (otherColumns relation) row)
      row := by
  rw [isOwn, isColumn]
  apply probes_single store isRow
  intro text isKey
  have areTexts : keyTexts (ownColumns relation) row = some [text] := by
    rw [isOwn, keyTexts_singleton, isKey]
    rfl
  exact (plain [text] areTexts text List.mem_cons_self).1

theorem probes_of_composite {rows : List Json} {row : Json} (isRow : row ∈ rows)
    (isComposite : relation.isComposite = true)
    (several : 1 < (ownColumns relation).length ∨ 1 < (otherColumns relation).length)
    (plain : PlainTexts relation row) :
    Probes store (parentRows rows (ownColumns relation)).isEmpty
      (.whereInRows (otherColumns relation) (parentRows rows (ownColumns relation)))
      (rowCompositeKey · (ownColumns relation)) (rowCompositeKey · (otherColumns relation))
      (sameKey (ownColumns relation) (otherColumns relation) row) row := by
  apply probes_composite store isRow several
  intro texts areTexts text isText
  obtain ⟨canonical, free⟩ := plain texts areTexts text isText
  exact ⟨canonical, free isComposite⟩

theorem one_lt_effectiveForeignKeys (isComposite : relation.isComposite = true) :
    1 < relation.effectiveForeignKeys.length := by
  unfold Relation.isComposite at isComposite
  unfold Relation.effectiveForeignKeys
  split at isComposite
  · next isKeys =>
    rw [isKeys]
    exact of_decide_eq_true isComposite
  · cases isComposite

theorem loadHasMany_eq (isKind : relation.kind = .hasMany) :
    LoadsAs store parse relation rows (loadHasMany store.executor relation rows) := by
  unfold loadHasMany
  cases isComposite : relation.isComposite with
  | false =>
    dsimp only
    rw [fetchUnless_executor]
    refine ⟨_, rfl, fun row isRow plain => ?_⟩
    rw [Plain, isKind] at plain
    have probes := probes_of_single store isRow relation.localKey
      relation.foreignKey
      (by rw [ownColumns, isKind, isComposite])
      (by rw [otherColumns, isKind, isComposite]) plain.1
    rw [lookup, isKind]
    rw [← payload_arrays probes]
    rfl
  | true =>
    unfold loadHasManyComposite
    dsimp only
    rw [fetchUnless_executor]
    refine ⟨_, rfl, fun row isRow plain => ?_⟩
    rw [Plain, isKind] at plain
    have isOwn : ownColumns relation = relation.effectiveLocalKeys := by
      rw [ownColumns, isKind, isComposite]
    have isOther : otherColumns relation = relation.effectiveForeignKeys := by
      rw [otherColumns, isKind, isComposite]
    have probes := probes_of_composite store isRow isComposite
      (.inr (isOther ▸ one_lt_effectiveForeignKeys isComposite)) plain.1
    rw [lookup, isKind]
    rw [← payload_arrays probes, isOwn, isOther]
    rfl

theorem loadBelongsTo_eq (isKind : relation.kind = .belongsTo) :
    LoadsAs store parse relation rows (loadBelongsTo store.executor relation rows) := by
  unfold loadBelongsTo
  cases isComposite : relation.isComposite with
  | false =>
    dsimp only
    rw [fetchUnless_executor]
    refine ⟨_, rfl, fun row isRow plain => ?_⟩
    rw [Plain, isKind] at plain
    have probes := probes_of_single store isRow relation.foreignKey "id"
      (by rw [ownColumns, isKind, isComposite])
      (by rw [otherColumns, isKind, isComposite]) plain.1
    rw [lookup, isKind]
    rw [← payload_objects probes]
    rfl
  | true =>
    unfold loadBelongsToComposite
    dsimp only
    rw [fetchUnless_executor]
    refine ⟨_, rfl, fun row isRow plain => ?_⟩
    rw [Plain, isKind] at plain
    have isOwn : ownColumns relation = relation.effectiveForeignKeys := by
      rw [ownColumns, isKind, isComposite]
    have isOther : otherColumns relation = relation.effectiveLocalKeys := by
      rw [otherColumns, isKind, isComposite]
    have probes := probes_of_composite store isRow isComposite
      (.inl (isOwn ▸ one_lt_effectiveForeignKeys isComposite)) plain.1
    rw [lookup, isKind]
    rw [← payload_objects probes, isOwn, isOther]
    rfl

theorem loadManyToMany_eq (isKind : relation.kind = .manyToMany)
    (hasPivot : relation.pivotTable.isSome = true)
    (hasRelatedKey : relation.relatedKey.isSome = true) :
    LoadsAs store parse relation rows (loadManyToMany store.executor relation rows) := by
  obtain ⟨pivot, isPivot⟩ := isSome_iff_exists.mp hasPivot
  obtain ⟨relatedKey, isRelatedKey⟩ := isSome_iff_exists.mp hasRelatedKey
  have found : pivotOf relation = .ok (pivot, relatedKey) := by
    unfold pivotOf
    rw [isPivot, isRelatedKey]
  unfold loadManyToMany
  cases isComposite : relation.isComposite with
  | false =>
    rw [found]
    dsimp only [bind, Except.bind]
    rw [fetchUnless_executor]
    refine ⟨_, rfl, fun row isRow plain => ?_⟩
    rw [Plain, isKind] at plain
    have probes := probes_of_single store isRow relation.localKey
      relation.foreignKey
      (by rw [ownColumns, isKind, isComposite])
      (by rw [otherColumns, isKind, isComposite]) plain.1
    rw [lookup, isKind]
    dsimp only
    have single : [relation.foreignKey].length = [pivotAlias].length := rfl
    rw [isPivot, isRelatedKey, getD_some, getD_some,
      ← payload_pivot probes relation.relatedTable pivot relatedKey
        (Store.joined [relation.foreignKey] [pivotAlias])
        (rowKey · pivotAlias) (remove pivotAlias)]
    · rfl
    · rintro ⟨related, pivotRow⟩ isPair
      obtain ⟨-, fields, isObject⟩ := exists_fields_of_mem_pairs isPair
      subst isObject
      have sameTexts := keyTexts_joined single (List.nodup_singleton _) fields pivotRow
      rw [keyTexts_singleton, keyTexts_singleton] at sameTexts
      exact map_injective (fun _ _ same => List.singleton_inj.mp same) sameTexts
    · rintro ⟨related, pivotRow⟩ isPair
      obtain ⟨isStored, -⟩ := exists_fields_of_mem_pairs isPair
      refine foldl_remove_joined single (List.nodup_singleton _) ?_
      intro name isName
      rw [List.mem_singleton.mp isName]
      exact (plain.2 rfl related isStored).1
  | true =>
    unfold loadManyToManyComposite
    rw [found]
    dsimp only [bind, Except.bind]
    rw [fetchUnless_executor]
    refine ⟨_, rfl, fun row isRow plain => ?_⟩
    rw [Plain, isKind] at plain
    have isOwn : ownColumns relation = relation.effectiveLocalKeys := by
      rw [ownColumns, isKind, isComposite]
    have isOther : otherColumns relation = relation.effectiveForeignKeys := by
      rw [otherColumns, isKind, isComposite]
    have probes := probes_of_composite store isRow isComposite
      (.inr (isOther ▸ one_lt_effectiveForeignKeys isComposite)) plain.1
    have aligned : relation.effectiveForeignKeys.length =
        (pivotAliases relation.effectiveForeignKeys.length).length := by
      rw [pivotAliases, List.length_map, List.length_range]
    have distinct := nodup_pivotAliases relation.effectiveForeignKeys.length
    rw [lookup, isKind]
    dsimp only
    rw [isPivot, isRelatedKey, getD_some, getD_some,
      ← payload_pivot probes relation.relatedTable pivot relatedKey
        (Store.joined relation.effectiveForeignKeys
          (pivotAliases relation.effectiveForeignKeys.length))
        (rowCompositeKey · (pivotAliases relation.effectiveForeignKeys.length))
        ((pivotAliases relation.effectiveForeignKeys.length).foldl
          fun row column => remove column row),
      isOwn, isOther]
    · rfl
    · rintro ⟨related, pivotRow⟩ isPair
      obtain ⟨-, fields, isObject⟩ := exists_fields_of_mem_pairs isPair
      subst isObject
      rw [isOther, rowCompositeKey_eq, rowCompositeKey_eq,
        keyTexts_joined aligned distinct fields pivotRow]
    · rintro ⟨related, pivotRow⟩ isPair
      obtain ⟨isStored, -⟩ := exists_fields_of_mem_pairs isPair
      exact foldl_remove_joined aligned distinct (plain.2 rfl related isStored).2

theorem exists_fetchById (table : String) (ids : List String) :
    ∃ byId, fetchById store.executor table ids = .ok byId ∧
      ∀ id ∈ ids, Canonical id → byId.lookup id = rowOfId store table id := by
  unfold fetchById
  dsimp only
  rw [fetchUnless_executor]
  refine ⟨_, rfl, fun id isId canonical => ?_⟩
  have isBound := mem_idValues isId
  have hasValues : (idValues ids).isEmpty = false :=
    List.isEmpty_eq_false_iff.mpr (List.ne_nil_of_mem isBound)
  rw [hasValues, if_neg (by decide), lookup_firstOfEach, lookup_keyed, Store.fetch,
    List.find?_filter]
  congr 1
  funext row
  rw [Bool.decide_and, Bool.decide_eq_true, Bool.decide_eq_true]
  by_cases same : rowKey row "id" = some id
  · have isFetched : passes store.toDatabase row
        (.whereIn "id" (idValues ids)) = true :=
      List.any_eq_true.mpr ⟨_, isBound, cellEquals_keyToValue store canonical same⟩
    rw [isFetched, Bool.true_and]
  · rw [decide_eq_false same, Bool.and_false]

theorem loadBelongsToJson_eq (isKind : relation.kind = .belongsToJson)
    (hasSpec : relation.json.isSome = true) :
    LoadsAs store parse relation rows (loadBelongsToJson parse store.executor relation rows) := by
  obtain ⟨spec, isSpec⟩ := isSome_iff_exists.mp hasSpec
  have found : jsonSpec relation = .ok spec := by
    unfold jsonSpec
    rw [isSpec]
  obtain ⟨byId, isById, finds⟩ := exists_fetchById store relation.relatedTable
    (rows.filterMap (scalarId parse · spec))
  unfold loadBelongsToJson
  rw [found]
  dsimp only [bind, Except.bind]
  rw [isById]
  refine ⟨_, rfl, fun row isRow plain => ?_⟩
  rw [Plain, isKind] at plain
  rw [lookup, isKind]
  dsimp only
  rw [isSpec, bind_some]
  cases isId : scalarId parse row spec with
  | none => rfl
  | some id =>
    rw [bind_some, bind_some,
      finds id (List.mem_filterMap.mpr ⟨row, isRow, isId⟩) ((plain spec isSpec).2 id isId)]

theorem loadHasManyJson_eq
    (isKind : relation.kind = .hasManyJson ∨ relation.kind = .belongsToManyJson)
    (hasSpec : relation.json.isSome = true) :
    LoadsAs store parse relation rows (loadHasManyJson parse store.executor relation rows) := by
  obtain ⟨spec, isSpec⟩ := isSome_iff_exists.mp hasSpec
  have found : jsonSpec relation = .ok spec := by
    unfold jsonSpec
    rw [isSpec]
  obtain ⟨byId, isById, finds⟩ := exists_fetchById store relation.relatedTable
    (rows.flatMap (arrayIds parse · spec))
  unfold loadHasManyJson
  rw [found]
  dsimp only [bind, Except.bind]
  rw [isById]
  refine ⟨_, rfl, fun row isRow plain => ?_⟩
  have canonical : ∀ id ∈ arrayIds parse row spec, Canonical id := by
    rcases isKind with isKind | isKind
    all_goals
      rw [Plain, isKind] at plain
      exact (plain spec isSpec).2
  have payload : (arrayIds parse row spec).filterMap (fun id => byId.lookup id) =
      (arrayIds parse row spec).filterMap (rowOfId store relation.relatedTable) :=
    List.filterMap_congr fun id isId =>
      finds id (List.mem_flatMap.mpr ⟨row, isRow, isId⟩) (canonical id isId)
  have isLookup : lookup store parse relation row =
      .array ((arrayIds parse row spec).filterMap (rowOfId store relation.relatedTable)) := by
    unfold lookup
    rcases isKind with isKind | isKind
    all_goals
      rw [isKind, isSpec]
      rfl
  rw [isLookup, payload]

theorem load_eq (configured : Configured relation) :
    LoadsAs store parse relation rows (load parse store.executor relation rows) := by
  unfold Configured at configured
  unfold load
  cases isKind : relation.kind with
  | hasMany => exact loadHasMany_eq store parse rows isKind
  | belongsTo => exact loadBelongsTo_eq store parse rows isKind
  | manyToMany =>
    rw [isKind] at configured
    exact loadManyToMany_eq store parse rows isKind configured.1 configured.2
  | belongsToJson =>
    rw [isKind] at configured
    exact loadBelongsToJson_eq store parse rows isKind configured
  | hasManyJson =>
    rw [isKind] at configured
    exact loadHasManyJson_eq store parse rows (.inl isKind) configured
  | belongsToManyJson =>
    rw [isKind] at configured
    exact loadHasManyJson_eq store parse rows (.inr isKind) configured

end Load

/-! ## Loading every relation -/

section LoadAll

variable {store : Store} {parse : String → Option Json}

theorem get_insertRelation_of_ne
    {column : String} (different : column ≠ "relations") (name : String) (payload row : Json) :
    (insertRelation name payload row).get column = row.get column := by
  cases row with
  | object fields =>
    unfold insertRelation
    dsimp only
    split
    · exact Json.lookup_setField_of_ne different _ fields
    · exact Json.lookup_setField_of_ne different _ fields
    · rfl
  | _ => rfl

theorem rowKey_insertRelation (name : String) (payload row : Json) (column : String) :
    rowKey (insertRelation name payload row) column = rowKey row column := by
  by_cases isRelations : column = "relations"
  · subst isRelations
    cases row with
    | object fields =>
      unfold insertRelation
      dsimp only
      split
      · next absent =>
        rw [rowKey_eq, rowKey_eq, Json.get, Json.get, absent, Json.lookup_setField_self]
        rfl
      · next loaded present =>
        rw [rowKey_eq, rowKey_eq, Json.get, Json.get, present, Json.lookup_setField_self]
        rfl
      · rfl
    | _ => rfl
  · rw [rowKey_eq, rowKey_eq, get_insertRelation_of_ne isRelations]

theorem keyTexts_insertRelation (name : String) (payload row : Json) (columns : List String) :
    keyTexts columns (insertRelation name payload row) = keyTexts columns row := by
  unfold keyTexts
  congr 1
  funext column
  exact rowKey_insertRelation name payload row column

theorem readCell_insertRelation {spec : JsonSpec} (notReserved : spec.column ≠ "relations")
    (name : String) (payload row : Json) :
    readCell parse (insertRelation name payload row) spec = readCell parse row spec := by
  unfold readCell
  rw [get_insertRelation_of_ne notReserved]

theorem sameKey_insertRelation (columns others : List String) (name : String) (payload row : Json) :
    sameKey columns others (insertRelation name payload row) = sameKey columns others row := by
  unfold sameKey
  rw [keyTexts_insertRelation]

theorem lookup_insertRelation {relation : Relation} {row : Json}
    (plain : Plain store parse relation row) (name : String) (payload : Json) :
    lookup store parse relation (insertRelation name payload row) =
      lookup store parse relation row := by
  unfold lookup
  unfold Plain at plain
  rw [sameKey_insertRelation]
  cases isKind : relation.kind with
  | hasMany => rfl
  | belongsTo => rfl
  | manyToMany => rfl
  | belongsToJson =>
    rw [isKind] at plain
    cases isSpec : relation.json with
    | none => rfl
    | some spec =>
      dsimp only [bind_some]
      rw [scalarId, scalarId, readCell_insertRelation (plain spec isSpec).1]
  | hasManyJson | belongsToManyJson =>
    rw [isKind] at plain
    cases isSpec : relation.json with
    | none => rfl
    | some spec =>
      dsimp only [map_some]
      rw [arrayIds, arrayIds, readCell_insertRelation (plain spec isSpec).1]

theorem plain_insertRelation {relation : Relation} {row : Json}
    (plain : Plain store parse relation row) (name : String) (payload : Json) :
    Plain store parse relation (insertRelation name payload row) := by
  unfold Plain at plain ⊢
  rw [keyTexts_insertRelation]
  cases isKind : relation.kind with
  | hasMany | belongsTo | manyToMany =>
    rw [isKind] at plain
    exact plain
  | belongsToJson =>
    rw [isKind] at plain
    intro spec isSpec
    obtain ⟨notReserved, canonical⟩ := plain spec isSpec
    refine ⟨notReserved, ?_⟩
    rw [scalarId, readCell_insertRelation notReserved]
    exact canonical
  | hasManyJson | belongsToManyJson =>
    rw [isKind] at plain
    intro spec isSpec
    obtain ⟨notReserved, canonical⟩ := plain spec isSpec
    refine ⟨notReserved, ?_⟩
    rw [arrayIds, readCell_insertRelation notReserved]
    exact canonical

end LoadAll

/-- A parent that is plain for every relation of some names. -/
def PlainFor (store : Store) (parse : String → Option Json) (plan : EagerPlan)
    (names : List String) (row : Json) : Prop :=
  ∀ name ∈ names, ∀ relation, plan.resolve name = .ok relation → Plain store parse relation row

/-- Attach what a lookup for the parent finds, for one name after the other. -/
def withLookups (store : Store) (parse : String → Option Json) (plan : EagerPlan)
    (parent : Json) (names : List String) (row : Json) : Json :=
  names.foldl
    (fun row name =>
      match plan.resolve name with
      | .ok relation => insertRelation relation.name (lookup store parse relation parent) row
      | .error _ => row)
    row

/-- Every requested relation is declared, and has what its loader needs. -/
def Resolves (plan : EagerPlan) (names : List String) : Prop :=
  ∀ name ∈ names, ∃ relation, plan.resolve name = .ok relation ∧ Configured relation

theorem loadAll_eq (store : Store) (parse : String → Option Json) {plan : EagerPlan}
    {names : List String} (resolves : Resolves plan names) (rows : List Json) :
    ∃ loaded : Json → Json, loadAll parse store.executor plan names rows = .ok (rows.map loaded) ∧
      ∀ row ∈ rows, PlainFor store parse plan names row →
          loaded row = withLookups store parse plan row names row := by
  induction names generalizing rows with
  | nil => exact ⟨id, by rw [loadAll, List.map_id], fun _ _ _ => rfl⟩
  | cons name names ih =>
    obtain ⟨relation, isResolved, configured⟩ := resolves name List.mem_cons_self
    obtain ⟨first, isFirst, firstAs⟩ := load_eq store parse rows configured
    obtain ⟨rest, isRest, restAs⟩ := ih
      (fun other isName => resolves other (List.mem_cons_of_mem _ isName))
      (rows.map first)
    refine ⟨rest ∘ first, ?_, fun row isRow plain => ?_⟩
    · rw [loadAll, isResolved]
      dsimp only [bind, Except.bind]
      rw [isFirst]
      dsimp only
      rw [isRest, List.map_map]
    · have plainRest : PlainFor store parse plan names row :=
        fun other isName => plain other (List.mem_cons_of_mem _ isName)
      have isIts := firstAs row isRow (plain name List.mem_cons_self relation isResolved)
      rw [Function.comp_apply, restAs (first row) (List.mem_map_of_mem isRow)]
      · rw [isIts, withLookups, withLookups, List.foldl_cons, isResolved]
        apply List.foldl_ext
        intro loaded other isName
        cases isOther : plan.resolve other with
        | error failure => rfl
        | ok found =>
          dsimp only
          rw [lookup_insertRelation (plainRest other isName found isOther)]
      · rw [isIts]
        exact fun other isName found isOther =>
          plain_insertRelation (plainRest other isName found isOther) _ _

/-- A database that finds a cell by its own text and by nothing else. -/
def textStore (tables : String → List (List (String × Json))) : Store where
  equal
    | .text text, cell => decide (idText cell = some text)
    | .uuid id, cell => decide (idText cell = some id)
    | _, _ => false
  null_unequal value := by
    cases value with
    | _ => rfl
  other _ rows := (rows, 0)
  rows table := (tables table).map .object
  pairs related pivot := ((tables related).map Json.object).product ((tables pivot).map Json.object)
  cellsEqual first second :=
    match idText first, idText second with
    | some text, some other => decide (text = other)
    | _, _ => false
  pairs_perm _ _ := .refl _
  objects table row isRow := by
    obtain ⟨fields, -, rfl⟩ := List.mem_map.mp isRow
    exact ⟨fields, rfl⟩
  equal_text _ _ isText := decide_eq_true isText
  equal_uuid _ _ isText := decide_eq_true isText

def childrenOver (foreignKey localKey : String) (foreignKeys localKeys : Option (List String)) :
    Relation where
  name := "children"
  relatedTable := "children"
  foreignKey := foreignKey
  localKey := localKey
  kind := .hasMany
  pivotTable := none
  relatedKey := none
  foreignKeys := foreignKeys
  localKeys := localKeys
  json := none

def children : Relation := childrenOver "parent_id" "id" none none

def childrenOfTenant : Relation :=
  childrenOver "tenant" "tenant" (some ["tenant", "user"]) (some ["tenant", "user"])

def childrenStore (rows : List (List (String × Json))) : Store :=
  textStore fun table => if table = "children" then rows else []

def idsOf : Json → List (Option String)
  | .array rows => rows.map fun row => rowKey row "id"
  | _ => []

/-- The ids of the children that eager loading attaches to each parent. -/
def loadedIds (relation : Relation) (stored : List (List (String × Json)))
    (parents : List Json) : List (List (Option String)) :=
  match eagerLoad (fun _ => none) (childrenStore stored).executor
      ⟨["children"], [relation]⟩ parents with
  | .ok rows =>
    rows.map fun row => idsOf (((row.get "relations").bind (Json.get · "children")).getD .null)
  | .error _ => []

/-- Whether two cells hold the same value, which is not NULL. -/
def sameValue : Option Json → Option Json → Bool
  | some .null, _ => false
  | some value, some other => Mutations.sameJson value other
  | _, _ => false

/-- The ids of the children whose key columns have the values of a parent's. -/
def idsByValue (relation : Relation) (stored : List (List (String × Json)))
    (parents : List Json) : List (List (Option String)) :=
  parents.map fun row =>
    idsOf (.array (((childrenStore stored).rows relation.relatedTable).filter
      fun other =>
        ((ownColumns relation).zip (otherColumns relation)).all
          fun (own, column) => sameValue (row.get own) (other.get column)))

def child (id : String) (key : Json) : List (String × Json) :=
  [("id", .string id), ("parent_id", key)]

def parent (key : Json) : Json := .object [("id", key)]

def ofTenant (id tenant user : String) : List (String × Json) :=
  [("id", .string id), ("tenant", .string tenant), ("user", .string user)]

def seven : Json := .number ⟨"7", by decide⟩

theorem canonical_of_none {text : String} (noUuid : parseUuid? text = none) : Canonical text := by
  intro id isUuid
  rw [noUuid] at isUuid
  cases isUuid

end Rustasea.Orm.EagerAgreement
