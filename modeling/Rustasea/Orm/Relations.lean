import Rustasea.Library.OrderedMap
import Rustasea.Orm.JsonPaths

namespace Rustasea.Orm.RelationPayloads

open List

/-!
# Eager-loaded relation payloads

`Relations` is the map that a fetched model carries under the key `relations`.
A payload may carry such a map itself.  Serialization cuts the payloads so that
no more than `maxDepth` of these maps lie inside one another, and
deserialization refuses the maps that nest deeper.  Both are stated on the data
model that a format reads and writes.
-/

/-! ## Where a document stands inside another -/

/-- A step from a document into a part of it. -/
inductive Step where
  | item (index : Nat)
  | field (name : String)
  deriving DecidableEq

/-- The steps lead from a document to a part of it. -/
inductive Reaches : Json → List Step → Json → Prop where
  | here (document : Json) : Reaches document [] document
  | item {items : List Json} {index : Nat} {document inner : Json} {path : List Step}
      (isItem : items[index]? = some document)
      (below : Reaches document path inner) : Reaches (.array items) (.item index :: path) inner
  | field {fields : List (String × Json)} {name : String} {document inner : Json} {path : List Step}
      (isField : (name, document) ∈ fields)
      (below : Reaches document path inner) : Reaches (.object fields) (.field name :: path) inner

theorem reaches_nil_iff {document inner : Json} : Reaches document [] inner ↔ inner = document := by
  constructor
  · intro reaches
    cases reaches
    rfl
  · rintro rfl
    exact .here inner

/-- How many steps go through a key `relations`. -/
def relationsSteps (path : List Step) : Nat := path.count (.field "relations")

/--
No more than so many relation maps of a document lie inside one another.  The
document is a relation map itself.
-/
def NestedAtMost (document : Json) (bound : Nat) : Prop :=
  ∀ name path inner, Reaches document (.field name :: path) inner → 1 + relationsSteps path ≤ bound

/-! ## The source's functions -/

/-- Maximum nested `relations` depth preserved by serialization. -/
def maxDepth : Nat := 3

def depthUnder (key : String) (depth : Nat) : Nat :=
  if key = "relations" then depth + 1 else depth

mutual

/-- Recursively strip nested `relations` maps beyond `max` levels. -/
def strip (depth max : Nat) : Json → Json
  | .object fields => .object (stripFields depth max fields)
  | .array items => .array (stripItems depth max items)
  | .null => .null
  | .bool flag => .bool flag
  | .number number => .number number
  | .string text => .string text

def stripFields (depth max : Nat) : List (String × Json) → List (String × Json)
  | [] => []
  | (key, nested) :: rest =>
    if key = "relations" then
      if max ≤ depth then stripFields depth max rest
      else (key, strip (depth + 1) max nested) :: stripFields depth max rest
    else (key, strip depth max nested) :: stripFields depth max rest

def stripItems (depth max : Nat) : List Json → List Json
  | [] => []
  | item :: rest => strip depth max item :: stripItems depth max rest

end

mutual

/-- Measure the nested `relations` depth of a payload value. -/
def measure (depth : Nat) : Json → Nat
  | .object fields => measureFields depth depth fields
  | .array items => (measureItems depth items).max?.getD depth
  | .null => depth
  | .bool _ => depth
  | .number _ => depth
  | .string _ => depth

/-- The loop of `measure` over the fields, with the maximum so far. -/
def measureFields (depth max : Nat) : List (String × Json) → Nat
  | [] => max
  | (key, nested) :: rest =>
    if key = "relations" then measureFields depth (Nat.max max (measure (depth + 1) nested)) rest
    else measureFields depth (Nat.max max (measure depth nested)) rest

def measureItems (depth : Nat) : List Json → List Nat
  | [] => []
  | item :: rest => measure depth item :: measureItems depth rest

end

/-- Eager-loaded relation payloads attached to a fetched model. -/
structure Relations where
  entries : OrderedMap String Json

namespace Relations

/-- The current maximum nested `relations` depth (0 when flat). -/
def depth (relations : Relations) : Nat := (relations.entries.values.map (measure 1)).max?.getD 0

/-- Remove `relations` maps nested deeper than `maxDepth`. -/
def truncateToMaxDepth (relations : Relations) : Relations :=
  { entries :=
      { entries :=
          relations.entries.entries.map fun entry => (entry.1, strip 1 maxDepth entry.2)
        distinct := by
          rw [map_map]
          exact relations.entries.distinct } }

def document (relations : Relations) : Json := .object relations.entries.entries

/-- Emit the map as a JSON object, capped at `maxDepth` nested levels. -/
def serialize (relations : Relations) : Json := relations.truncateToMaxDepth.document

end Relations

/-- Why a document is refused. -/
inductive DecodeError where
  | invalidType (expected : String)
  | custom (message : String)
  deriving DecidableEq

/--
Collect the fields of an object, as a `HashMap` is read: a later field replaces
an earlier one of its key.
-/
def collect (fields : List (String × Json)) : OrderedMap String Json :=
  fields.foldl (fun map field => map.insert field.1 field.2) .empty

/-- The map that the fields of an object are collected into. -/
def Relations.ofFields (fields : List (String × Json)) : Relations := { entries := collect fields }

/-- Restore the map from a JSON object and re-apply the depth cap. -/
def deserialize : Json → Except DecodeError Relations
  | .object fields =>
    let relations := Relations.ofFields fields
    if maxDepth < relations.depth then
      .error (.custom s!"relations depth {relations.depth} exceeds maximum {maxDepth}")
    else .ok relations.truncateToMaxDepth
  | _ => .error (.invalidType "a map")

/-! ## What the depth measures -/

theorem relationsSteps_cons (name : String) (path : List Step) (depth : Nat) :
    depth + relationsSteps (.field name :: path) = depthUnder name depth + relationsSteps path := by
  unfold relationsSteps depthUnder
  rw [count_cons]
  by_cases isRelations : name = "relations"
  · subst isRelations
    rw [beq_self_eq_true, if_pos rfl, if_pos rfl]
    omega
  · have other : (Step.field name == .field "relations") = false :=
      beq_false_of_ne fun same => isRelations (Step.field.inj same)
    rw [other, if_neg isRelations]
    simp

theorem relationsSteps_item (index : Nat) (path : List Step) :
    relationsSteps (.item index :: path) = relationsSteps path := by
  simp [relationsSteps]

theorem measureFields_le_iff {depth max bound : Nat} {fields : List (String × Json)} :
    measureFields depth max fields ≤ bound ↔
      max ≤ bound ∧
        ∀ key nested, (key, nested) ∈ fields → measure (depthUnder key depth) nested ≤ bound := by
  induction fields generalizing max with
  | nil => simp [measureFields]
  | cons field rest ih =>
    obtain ⟨key, nested⟩ := field
    have step : measureFields depth max ((key, nested) :: rest) = measureFields depth
        (Nat.max max (measure (depthUnder key depth) nested)) rest := by
      rw [measureFields, depthUnder]
      split <;> rfl
    rw [step, ih]
    have atMost : Nat.max max (measure (depthUnder key depth) nested) ≤ bound ↔
        max ≤ bound ∧ measure (depthUnder key depth) nested ≤ bound :=
      Nat.max_le
    rw [atMost]
    constructor
    · rintro ⟨⟨isMax, isFirst⟩, areRest⟩
      refine ⟨isMax, fun other inner isField => ?_⟩
      rcases mem_cons.mp isField with same | isRest
      · obtain ⟨rfl, rfl⟩ := Prod.mk.inj same
        exact isFirst
      · exact areRest other inner isRest
    · rintro ⟨isMax, areFields⟩
      exact ⟨⟨isMax, areFields key nested mem_cons_self⟩,
        fun other inner isField => areFields other inner (mem_cons_of_mem _ isField)⟩

theorem measureItems_eq (depth : Nat) (items : List Json) :
    measureItems depth items = items.map (measure depth) := by
  induction items with
  | nil => rfl
  | cons item rest ih => rw [measureItems, map_cons, ih]

theorem max?_getD_le_iff {numbers : List Nat} {default bound : Nat} :
    numbers.max?.getD default ≤ bound ↔
      (numbers = [] → default ≤ bound) ∧ ∀ number ∈ numbers, number ≤ bound := by
  cases isMax : numbers.max? with
  | none =>
    rw [max?_eq_none_iff.mp isMax]
    simp
  | some largest =>
    have nonempty : numbers ≠ [] := by
      rintro rfl
      cases isMax
    rw [max?_eq_some_iff] at isMax
    constructor
    · intro small
      exact ⟨fun isEmpty => absurd isEmpty nonempty,
        fun number isNumber => le_trans (isMax.2 number isNumber) small⟩
    · rintro ⟨-, areSmall⟩
      exact areSmall largest isMax.1

theorem Json.induction {motive : Json → Prop} (null : motive .null)
    (bool : ∀ flag, motive (.bool flag)) (number : ∀ number, motive (.number number))
    (string : ∀ text, motive (.string text))
    (array : ∀ items, (∀ item ∈ items, motive item) → motive (.array items))
    (object : ∀ fields : List (String × Json),
      (∀ key nested, (key, nested) ∈ fields → motive nested) → motive (.object fields))
    (document : Json) : motive document := by
  match document with
  | .null => exact null
  | .bool flag => exact bool flag
  | .number value => exact number value
  | .string text => exact string text
  | .array items =>
    exact array items fun item isItem => Json.induction null bool number string array object item
  | .object fields =>
    exact object fields fun key nested isField =>
      Json.induction null bool number string array object nested
termination_by sizeOf document
decreasing_by
  · have smaller := sizeOf_lt_of_mem isItem
    simp only [Json.array.sizeOf_spec]
    omega
  · have smaller := sizeOf_lt_of_mem isField
    simp only [Prod.mk.sizeOf_spec, Json.object.sizeOf_spec] at smaller ⊢
    omega

variable {document : Json}

theorem le_iff_of_isScalar {depth bound : Nat}
    (isScalar : ∀ path inner, Reaches document path inner → path = []) :
    depth ≤ bound ↔
      ∀ path inner, Reaches document path inner → depth + relationsSteps path ≤ bound := by
  constructor
  · intro small path inner reaches
    rw [isScalar path inner reaches]
    exact small
  · intro areSmall
    exact areSmall [] document (.here document)

/--
A document measures the level of its innermost part: the depth it starts at,
and one more for every key `relations` on the way.
-/
theorem measure_le_iff {depth bound : Nat} (document : Json) :
    measure depth document ≤ bound ↔
      ∀ path inner, Reaches document path inner → depth + relationsSteps path ≤ bound := by
  induction document using Json.induction generalizing depth with
  | null | bool flag | number value | string text =>
    exact le_iff_of_isScalar fun path inner reaches => by
      cases reaches
      rfl
  | array items ih =>
    rw [measure, max?_getD_le_iff, measureItems_eq]
    constructor
    · rintro ⟨whenEmpty, areSmall⟩ path inner reaches
      cases reaches with
      | here =>
        cases items with
        | nil => exact whenEmpty rfl
        | cons item rest =>
          have first := (ih item mem_cons_self
            ).mp (areSmall _ (mem_map_of_mem mem_cons_self))
          exact first [] item (.here item)
      | item isItem below =>
        rw [relationsSteps_item]
        have isMember := mem_of_getElem? isItem
        exact (ih _ isMember).mp (areSmall _ (mem_map_of_mem isMember)) _ _ below
    · intro areSmall
      refine ⟨fun _ => areSmall [] _ (.here _), fun number isNumber => ?_⟩
      obtain ⟨item, isMember, rfl⟩ := mem_map.mp isNumber
      obtain ⟨index, isItem⟩ := mem_iff_getElem?.mp isMember
      refine (ih item isMember).mpr fun path inner below => ?_
      have whole := areSmall _ _ (.item isItem below)
      rwa [relationsSteps_item] at whole
  | object fields ih =>
    rw [measure, measureFields_le_iff]
    constructor
    · rintro ⟨small, areSmall⟩ path inner reaches
      cases reaches with
      | here => exact small
      | field isField below =>
        rw [relationsSteps_cons]
        exact (ih _ _ isField).mp (areSmall _ _ isField) _ _ below
    · intro areSmall
      refine ⟨areSmall [] _ (.here _), fun key nested isField => ?_⟩
      refine (ih key nested isField).mpr fun path inner below => ?_
      have whole := areSmall _ _ (.field isField below)
      rwa [relationsSteps_cons] at whole

/-! ## What stripping leaves -/

variable {depth max : Nat} {fields : List (String × Json)}

theorem mem_stripFields_iff {key : String} {nested : Json} :
    (key, nested) ∈ stripFields depth max fields ↔
      (key = "relations" → depth < max) ∧
        ∃ uncut, (key, uncut) ∈ fields ∧ nested = strip (depthUnder key depth) max uncut := by
  induction fields with
  | nil => simp [stripFields]
  | cons field rest ih =>
    obtain ⟨name, uncut⟩ := field
    have step : stripFields depth max ((name, uncut) :: rest) =
        if name = "relations" ∧ max ≤ depth then stripFields depth max rest
        else (name, strip (depthUnder name depth) max uncut) :: stripFields depth max rest := by
      rw [stripFields, depthUnder]
      split <;> simp_all
    rw [step]
    by_cases isCut : name = "relations" ∧ max ≤ depth
    · rw [if_pos isCut, ih]
      constructor
      · rintro ⟨isKept, inner, isField, isStripped⟩
        exact ⟨isKept, inner, mem_cons_of_mem _ isField, isStripped⟩
      · rintro ⟨isKept, inner, isField, isStripped⟩
        rcases mem_cons.mp isField with same | isRest
        · obtain ⟨rfl, rfl⟩ := Prod.mk.inj same
          exact absurd (isKept isCut.1) (Nat.not_lt.mpr isCut.2)
        · exact ⟨isKept, inner, isRest, isStripped⟩
    · rw [if_neg isCut, mem_cons, ih]
      constructor
      · rintro (same | ⟨isKept, inner, isField, isStripped⟩)
        · obtain ⟨rfl, rfl⟩ := Prod.mk.inj same
          exact ⟨fun isRelations => Nat.not_le.mp fun tooDeep =>
              isCut ⟨isRelations, tooDeep⟩,
            uncut, mem_cons_self, rfl⟩
        · exact ⟨isKept, inner, mem_cons_of_mem _ isField, isStripped⟩
      · rintro ⟨isKept, inner, isField, isStripped⟩
        rcases mem_cons.mp isField with same | isRest
        · obtain ⟨rfl, rfl⟩ := Prod.mk.inj same
          exact .inl (Prod.ext rfl isStripped)
        · exact .inr ⟨isKept, inner, isRest, isStripped⟩

theorem stripItems_eq (depth max : Nat) (items : List Json) :
    stripItems depth max items = items.map (strip depth max) := by
  induction items with
  | nil => rfl
  | cons item rest ih => rw [stripItems, map_cons, ih]

/--
What stands in a stripped document: the parts of the document that lie under no
more than `max` levels, each stripped at its own level.
-/
theorem reaches_strip_iff (within : depth ≤ max) {document inner : Json} {path : List Step} :
    Reaches (strip depth max document) path inner ↔
      depth + relationsSteps path ≤ max ∧
        ∃ uncut, Reaches document path uncut ∧
          inner = strip (depth + relationsSteps path) max uncut := by
  induction path generalizing depth document with
  | nil =>
    rw [reaches_nil_iff]
    constructor
    · intro isWhole
      exact ⟨within, document, .here document, isWhole⟩
    · rintro ⟨-, uncut, reaches, isStripped⟩
      rw [reaches_nil_iff] at reaches
      subst reaches
      exact isStripped
  | cons step path ih =>
    cases step with
    | item index =>
      constructor
      · intro reaches
        cases document with
        | array items =>
          rw [strip, stripItems_eq] at reaches
          cases reaches with
          | item isItem below =>
            rw [getElem?_map, Option.map_eq_some_iff] at isItem
            obtain ⟨item, isItem, rfl⟩ := isItem
            obtain ⟨isKept, uncut, reaches, isStripped⟩ := (ih within).mp below
            exact ⟨isKept, uncut, .item isItem reaches, isStripped⟩
        | _ => cases reaches
      · rintro ⟨isKept, uncut, reaches, isStripped⟩
        cases reaches with
        | item isItem below =>
          rw [strip, stripItems_eq]
          refine .item ?_ ((ih within).mpr ⟨isKept, uncut, below, isStripped⟩)
          rw [getElem?_map, isItem]
          rfl
    | field name =>
      rw [relationsSteps_cons]
      have belowWithin
          (isKept : name = "relations" → depth < max) :
          depthUnder name depth ≤ max := by
        unfold depthUnder
        split
        next isRelations => exact isKept isRelations
        next => exact within
      constructor
      · intro reaches
        cases document with
        | object fields =>
          cases reaches with
          | field isField below =>
            obtain ⟨isKept, nested, isUncut, rfl⟩ := mem_stripFields_iff.mp isField
            obtain ⟨isSmall, uncut, reaches, isStripped⟩ := (ih (belowWithin isKept)).mp below
            exact ⟨isSmall, uncut, .field isUncut reaches, isStripped⟩
        | _ => cases reaches
      · rintro ⟨isSmall, uncut, reaches, isStripped⟩
        cases reaches with
        | field isField below =>
          have isKept (isRelations : name = "relations") : depth < max := by
            rw [depthUnder, if_pos isRelations] at isSmall
            omega
          exact .field (mem_stripFields_iff.mpr ⟨isKept, _, isField, rfl⟩)
            ((ih (belowWithin isKept)).mpr ⟨isSmall, uncut, below, isStripped⟩)

theorem stripFields_eq_self
    (areKept : ∀ key nested, (key, nested) ∈ fields →
      (key = "relations" → depth < max) ∧ strip (depthUnder key depth) max nested = nested) :
    stripFields depth max fields = fields := by
  induction fields with
  | nil => rfl
  | cons field rest ih =>
    obtain ⟨key, nested⟩ := field
    obtain ⟨isKept, isSame⟩ := areKept key nested mem_cons_self
    have restSame := ih fun other inner isField =>
      areKept other inner (mem_cons_of_mem _ isField)
    rw [stripFields, restSame]
    by_cases isRelations : key = "relations"
    · rw [depthUnder, if_pos isRelations] at isSame
      rw [if_pos isRelations, if_neg (Nat.not_le.mpr (isKept isRelations)), isSame]
    · rw [depthUnder, if_neg isRelations] at isSame
      rw [if_neg isRelations, isSame]

theorem strip_eq_self (small : measure depth document ≤ max) :
    strip depth max document = document := by
  induction document using Json.induction generalizing depth with
  | null => rfl
  | bool flag => rfl
  | number value => rfl
  | string text => rfl
  | array items ih =>
    rw [measure, max?_getD_le_iff, measureItems_eq] at small
    rw [strip, stripItems_eq]
    refine congrArg Json.array ((map_congr_left fun item isItem => ?_
      ).trans (map_id' items))
    exact ih item isItem (small.2 _ (mem_map_of_mem isItem))
  | object fields ih =>
    rw [measure, measureFields_le_iff] at small
    rw [strip, stripFields_eq_self]
    intro key nested isField
    have nestedSmall := small.2 key nested isField
    refine ⟨fun isRelations => ?_, ih key nested isField nestedSmall⟩
    have deeper := (measure_le_iff nested).mp nestedSmall [] nested (.here nested)
    rw [depthUnder, if_pos isRelations] at deeper
    exact deeper

namespace Relations

theorem ext_entries {left right : Relations}
    (same : left.entries.entries = right.entries.entries) : left = right := by
  obtain ⟨⟨leftEntries, leftDistinct⟩⟩ := left
  cases same
  rfl

variable {relations : Relations}

theorem depth_le_iff {bound : Nat} :
    relations.depth ≤ bound ↔
      ∀ name payload, (name, payload) ∈ relations.entries.entries → measure 1 payload ≤ bound := by
  rw [depth, max?_getD_le_iff]
  constructor
  · rintro ⟨-, areSmall⟩ name payload isEntry
    exact areSmall _ (mem_map_of_mem (mem_map_of_mem isEntry))
  · intro areSmall
    refine ⟨fun _ => Nat.zero_le bound, fun number isNumber => ?_⟩
    obtain ⟨payload, isValue, rfl⟩ := mem_map.mp isNumber
    obtain ⟨⟨name, payload⟩, isEntry, rfl⟩ := mem_map.mp isValue
    exact areSmall name payload isEntry

theorem depth_le_iff_nestedAtMost {bound : Nat} :
    relations.depth ≤ bound ↔ NestedAtMost relations.document bound := by
  rw [depth_le_iff]
  constructor
  · intro areSmall name path inner reaches
    cases reaches with
    | field isEntry below => exact (measure_le_iff _).mp (areSmall name _ isEntry) path inner below
  · intro areNested name payload isEntry
    exact (measure_le_iff payload).mpr fun path inner below =>
      areNested name path inner (.field isEntry below)

theorem reaches_truncateToMaxDepth_iff {name : String} {path : List Step} {inner : Json} :
    Reaches relations.truncateToMaxDepth.document (.field name :: path) inner ↔
      1 + relationsSteps path ≤ maxDepth ∧
        ∃ uncut, Reaches relations.document (.field name :: path) uncut ∧
          inner = strip (1 + relationsSteps path) maxDepth uncut := by
  have within : 1 ≤ maxDepth := by decide
  constructor
  · intro reaches
    cases reaches with
    | field isEntry below =>
      obtain ⟨⟨entryName, payload⟩, isUncut, same⟩ := mem_map.mp isEntry
      obtain ⟨rfl, rfl⟩ := Prod.mk.inj same
      obtain ⟨isSmall, uncut, reaches, isStripped⟩ := (reaches_strip_iff within).mp below
      exact ⟨isSmall, uncut, .field isUncut reaches, isStripped⟩
  · rintro ⟨isSmall, uncut, reaches, isStripped⟩
    cases reaches with
    | field isEntry below =>
      exact .field (mem_map_of_mem isEntry)
        ((reaches_strip_iff within).mpr ⟨isSmall, uncut, below, isStripped⟩)

theorem depth_truncateToMaxDepth_le (relations : Relations) :
    relations.truncateToMaxDepth.depth ≤ maxDepth :=
  depth_le_iff_nestedAtMost.mpr fun _ _ _ reaches => (reaches_truncateToMaxDepth_iff.mp reaches).1

theorem truncateToMaxDepth_eq_self (small : relations.depth ≤ maxDepth) :
    relations.truncateToMaxDepth = relations := by
  refine ext_entries ((map_congr_left fun entry isEntry => ?_ ).trans (map_id' _))
  have isSame : strip 1 maxDepth entry.2 = entry.2 :=
    strip_eq_self (depth_le_iff.mp small entry.1 entry.2 isEntry)
  rw [isSame]

end Relations

/-! ## Reading what was written -/

variable (relations : Relations)

theorem ofFields_entries : Relations.ofFields relations.entries.entries = relations :=
  Relations.ext_entries (OrderedMap.entries_foldl_insert relations.entries.distinct)

theorem deserialize_document :
    deserialize relations.document =
      if maxDepth < relations.depth then
        .error (.custom s!"relations depth {relations.depth} exceeds maximum {maxDepth}")
      else .ok relations.truncateToMaxDepth := by
  unfold deserialize Relations.document
  simp [ofFields_entries]

theorem deserialize_serialize :
    deserialize relations.serialize = .ok relations.truncateToMaxDepth := by
  have small := relations.depth_truncateToMaxDepth_le
  rw [Relations.serialize, deserialize_document,
    if_neg (Nat.not_lt.mpr small), Relations.truncateToMaxDepth_eq_self small]

/-- The fields of an object are refused when the map they make nests too deep. -/
theorem deserialize_fails_iff (fields : List (String × Json)) :
    (∃ error, deserialize (.object fields) = .error error) ↔
      ¬NestedAtMost (Relations.ofFields fields).document maxDepth := by
  rw [← Relations.depth_le_iff_nestedAtMost]
  unfold deserialize
  dsimp only
  split
  next tooDeep => exact ⟨fun _ => Nat.not_le.mpr tooDeep, fun _ => ⟨_, rfl⟩⟩
  next small =>
    exact ⟨fun ⟨_, failed⟩ => (nomatch failed),
      fun tooDeep => absurd (Nat.not_lt.mp small) tooDeep⟩

/--
A relation map and its serialization: the serialization nests at most
`maxDepth` relation maps, it is read back as the map cut at that depth, and a
map within the depth is read back as itself.  Any fields are refused as an input
exactly when the map they make, the last one of each key, nests deeper.  The cut
map holds what lies under at most `maxDepth` levels.
-/
theorem relations_serialization :
    NestedAtMost relations.serialize maxDepth ∧
      deserialize relations.serialize = .ok relations.truncateToMaxDepth ∧
      (deserialize relations.serialize).map Relations.serialize = .ok relations.serialize ∧
      (NestedAtMost relations.document maxDepth → deserialize relations.serialize = .ok relations) ∧
      (∀ fields, (∃ error, deserialize (.object fields) = .error error) ↔
        ¬NestedAtMost (Relations.ofFields fields).document maxDepth) ∧
      ∀ name path inner, Reaches relations.truncateToMaxDepth.document (.field name :: path) inner ↔
        1 + relationsSteps path ≤ maxDepth ∧
          ∃ uncut, Reaches relations.document (.field name :: path) uncut ∧
            inner = strip (1 + relationsSteps path) maxDepth uncut := by
  have small := relations.depth_truncateToMaxDepth_le
  refine ⟨Relations.depth_le_iff_nestedAtMost.mp small, deserialize_serialize relations, ?_, ?_,
    deserialize_fails_iff, fun _ _ _ => Relations.reaches_truncateToMaxDepth_iff⟩
  · have again := Relations.truncateToMaxDepth_eq_self small
    rw [deserialize_serialize, Except.map, Relations.serialize, again, Relations.serialize]
  · intro isNested
    rw [deserialize_serialize, Relations.truncateToMaxDepth_eq_self
      (Relations.depth_le_iff_nestedAtMost.mpr isNested)]

/-- Three relation maps inside one another: in a relation map, one too many. -/
def deepPayload : Json :=
  .object [("relations", .object [("relations", .object [("relations", .object [])])])]

/-- A payload that nests too deep is accepted when its key stands again behind it. -/
theorem repeated_key_hides_depth :
    deserialize (.object [("a", deepPayload), ("a", .null)]) =
      .ok (Relations.ofFields [("a", .null)]) ∧
      ¬NestedAtMost (.object [("a", deepPayload), ("a", .null)]) maxDepth := by
  refine ⟨rfl, fun isNested => ?_⟩
  have inside : Reaches deepPayload
      [.field "relations", .field "relations", .field "relations"] (.object []) :=
    .field mem_cons_self (.field mem_cons_self (.field mem_cons_self (.here _)))
  have bounded := isNested "a" _ _ (.field mem_cons_self inside)
  exact absurd bounded (by decide)

end Rustasea.Orm.RelationPayloads
