import Rustasea.Library.OrderedMap

namespace Rustasea.Jsonapi

open List

/-!
# Compound documents

A resource is rendered with the attributes that the fieldset of its type lists, and with the
resources that its loaded relationships include.  Included resources come rendered, and they go into
the document as they come.
-/

inductive JsonApiError where
  | missingId (resourceType : String)
  | relationNotLoaded (relationship resourceType : String)
  | emptySparseFieldset (resourceType : String)
  deriving DecidableEq

abbrev SparseFields := String → Option (List String)

structure Relationship where
  name : String
  type : String
  ids : List String
  loaded : Bool
  deriving DecidableEq

/-- The identifiers and the two links that a relationship is rendered with. -/
structure RelationshipObject where
  data : List (String × String)
  self : String
  related : String

/-- A rendered resource; links are JSON of their own. -/
structure ResourceObject (Json : Type) where
  type : String
  id : String
  attributes : List (String × Json)
  relationships : OrderedMap String RelationshipObject
  links : Option Json

structure Inclusion (Json : Type) where
  relationship : String
  resource : ResourceObject Json

structure Resource (Json : Type) where
  type : String
  id : String
  attributes : List (String × Json)
  links : Option Json
  relationships : List Relationship
  inclusions : String → List (Inclusion Json)

inductive PrimaryData (Json : Type) where
  | single (resource : ResourceObject Json)
  | collection (resources : List (ResourceObject Json))

structure Document (Json : Type) where
  data : PrimaryData Json
  included : List (ResourceObject Json)
  links : Option Json

variable {Json : Type}

namespace Resource

def relationshipObject (resource : Resource Json) (relationship : Relationship) :
    RelationshipObject where
  data := relationship.ids.map fun id => (relationship.type, id)
  self := "/" ++ resource.type ++ "/" ++ resource.id ++ "/relationships/" ++ relationship.name
  related := "/" ++ resource.type ++ "/" ++ resource.id ++ "/" ++ relationship.name

def relationshipObjects (resource : Resource Json) : OrderedMap String RelationshipObject :=
  resource.relationships.foldl
    (fun map relationship =>
      map.insert relationship.name (resource.relationshipObject relationship))
    .empty

@[grind =]
def resourceObject (fields : SparseFields) (resource : Resource Json) :
    Except JsonApiError (ResourceObject Json) :=
  let allow := fields resource.type
  let filtered :=
    match allow with
    | none => resource.attributes
    | some names => resource.attributes.filter fun entry => entry.1 ∈ names
  if allow.any (· ≠ []) ∧ filtered = [] then .error (.emptySparseFieldset resource.type)
  else
    .ok
      { type := resource.type
        id := resource.id
        attributes := filtered
        relationships := resource.relationshipObjects
        links := resource.links }

/-- The resources that the requested relationships include, in the order of the request. -/
@[grind =] def includes (resource : Resource Json) :
    List String → Except JsonApiError (List (ResourceObject Json))
  | [] => .ok []
  | name :: rest =>
    match resource.relationships.find? fun relationship => relationship.name = name with
    | none => resource.includes rest
    | some relationship =>
      if relationship.loaded then
        (resource.includes rest).map ((resource.inclusions name).map Inclusion.resource ++ ·)
      else .error (.relationNotLoaded name resource.type)

def render (fields : SparseFields) (names : List String) (resource : Resource Json) :
    Except JsonApiError (Document Json) := do
  let data ← resource.resourceObject fields
  let included ← resource.includes names
  return { data := .single data, included, links := resource.links }

/-- The objects of some resources, and all that they include. -/
@[grind =] def renderEach (fields : SparseFields) (names : List String) : List (Resource Json) →
      Except JsonApiError (List (ResourceObject Json) × List (ResourceObject Json))
  | [] => .ok ([], [])
  | resource :: rest => do
    let object ← resource.resourceObject fields
    let included ← resource.includes names
    let later ← renderEach fields names rest
    return (object :: later.1, included ++ later.2)

def renderMany (fields : SparseFields) (names : List String) (resources : List (Resource Json)) :
    Except JsonApiError (Document Json) := do
  let rendered ← renderEach fields names resources
  return { data := .collection rendered.1, included := rendered.2, links := none }

end Resource

/-! ## What a document should be -/

def PrimaryData.objects : PrimaryData Json → List (ResourceObject Json)
  | .single resource => [resource]
  | .collection resources => resources

def ResourceObject.identity (object : ResourceObject Json) : String × String :=
  (object.type, object.id)

def ResourceObject.Allowed (fields : SparseFields) (object : ResourceObject Json) : Prop :=
  ∀ names, fields object.type = some names → ∀ entry ∈ object.attributes, entry.1 ∈ names

/-- Every resource is in the document once, with the attributes of its type's fieldset. -/
def Document.Compound (fields : SparseFields) (document : Document Json) : Prop :=
  ((document.data.objects ++ document.included).map ResourceObject.identity).Nodup ∧
    ∀ object ∈ document.data.objects ++ document.included, object.Allowed fields

/-! ## What comes out -/

namespace Resource

def identity (resource : Resource Json) : String × String := (resource.type, resource.id)

def includedBy (resource : Resource Json) (name : String) : List (ResourceObject Json) :=
  if name ∈ resource.relationships.map Relationship.name then
    (resource.inclusions name).map Inclusion.resource
  else []

def includedIds (resource : Resource Json) (name : String) : List (String × String) :=
  (resource.includedBy name).map ResourceObject.identity

/--
No resource is given or included twice, by one name or several, by one resource or several, and the
included objects come with the attributes that are allowed.
-/
structure Unshared (fields : SparseFields) (names : List String)
    (resources : List (Resource Json)) : Prop where
  primary : (resources.map identity).Nodup
  once : ∀ resource ∈ resources, ∀ name ∈ names, (resource.includedIds name).Nodup
  byOneName : ∀ resource ∈ resources, names.Pairwise fun first second =>
    (resource.includedIds first).Disjoint (resource.includedIds second)
  byOneResource : resources.Pairwise fun first second => ∀ name ∈ names, ∀ other ∈ names,
    (first.includedIds name).Disjoint (second.includedIds other)
  notPrimary : ∀ resource ∈ resources, ∀ other ∈ resources, ∀ name ∈ names,
    resource.identity ∉ other.includedIds name
  allowed : ∀ resource ∈ resources, ∀ name ∈ names, ∀ object ∈ resource.includedBy name,
    object.Allowed fields

variable {fields : SparseFields} {names : List String} {resource : Resource Json}
  {resources : List (Resource Json)} {object : ResourceObject Json}
  {included : List (ResourceObject Json)} {document : Document Json}

theorem resourceObject_spec (isRendered : resource.resourceObject fields = .ok object) :
    object.identity = resource.identity ∧ object.Allowed fields := by
  unfold resourceObject at isRendered
  cases isFieldset : fields resource.type with
  | none =>
    simp only [isFieldset, Option.any_none, Bool.false_eq_true, false_and, if_false,
      Except.ok.injEq] at isRendered
    subst isRendered
    exact ⟨rfl, fun names isOther => nomatch isFieldset.symm.trans isOther⟩
  | some allowed =>
    simp only [isFieldset] at isRendered
    split at isRendered
    · cases isRendered
    · cases isRendered
      refine ⟨rfl, fun names isOther entry isIn => ?_⟩
      obtain rfl := Option.some.inj (isFieldset.symm.trans isOther)
      exact of_decide_eq_true (mem_filter.mp isIn).2

theorem includes_eq (isIncluded : resource.includes names = .ok included) :
    included = names.flatMap resource.includedBy := by
  induction names generalizing included with
  | nil => cases isIncluded; rfl
  | cons name rest ih =>
    rw [flatMap_cons]
    unfold includes at isIncluded
    unfold includedBy
    cases isDeclared : resource.relationships.find? fun other => other.name = name with
    | none =>
      rw [isDeclared] at isIncluded
      have notDeclared : name ∉ resource.relationships.map Relationship.name := by
        simpa using find?_eq_none.mp isDeclared
      rw [if_neg notDeclared]
      exact ih isIncluded
    | some relationship =>
      rw [isDeclared] at isIncluded
      dsimp only at isIncluded
      have isName : relationship.name = name := by simpa using find?_some isDeclared
      rw [if_pos (mem_map.mpr ⟨relationship, mem_of_find?_eq_some isDeclared, isName⟩)]
      split at isIncluded
      · cases isLater : resource.includes rest with
        | error error => rw [isLater] at isIncluded; cases isIncluded
        | ok later =>
          rw [isLater] at isIncluded
          cases isIncluded
          rw [ih isLater]
          rfl
      · cases isIncluded

theorem renderEach_spec {rendered : List (ResourceObject Json) × List (ResourceObject Json)}
    (isRendered : renderEach fields names resources = .ok rendered) :
    rendered.1.map ResourceObject.identity = resources.map identity ∧
      (∀ object ∈ rendered.1, object.Allowed fields) ∧
      rendered.2 = resources.flatMap fun resource => names.flatMap resource.includedBy := by
  induction resources generalizing rendered with
  | nil => cases isRendered; exact ⟨rfl, nofun, rfl⟩
  | cons resource rest ih =>
    unfold renderEach at isRendered
    cases isObject : resource.resourceObject fields with
    | error error => rw [isObject] at isRendered; cases isRendered
    | ok object =>
      cases isIncluded : resource.includes names with
      | error error => rw [isObject, isIncluded] at isRendered; cases isRendered
      | ok included =>
        cases isLater : renderEach fields names rest with
        | error error => rw [isObject, isIncluded, isLater] at isRendered; cases isRendered
        | ok later =>
          rw [isObject, isIncluded, isLater] at isRendered
          cases isRendered
          obtain ⟨same, isAllowed⟩ := resourceObject_spec isObject
          obtain ⟨others, areAllowed, isRest⟩ := ih isLater
          exact
            ⟨by rw [map_cons, map_cons, same, others],
              forall_mem_cons.mpr ⟨isAllowed, areAllowed⟩,
              by rw [flatMap_cons, ← isRest, includes_eq isIncluded]⟩

/-- What the rendered objects come to, in terms of what was given. -/
theorem unshared_iff {objects : List (ResourceObject Json)}
    (same : objects.map ResourceObject.identity = resources.map identity)
    (areAllowed : ∀ object ∈ objects, object.Allowed fields) (data : PrimaryData Json)
    (links : Option Json) (areData : data.objects = objects) :
    Document.Compound fields
        { data, links
          included := resources.flatMap fun resource => names.flatMap resource.includedBy } ↔
      Unshared fields names resources := by
  have ids :
      (resources.flatMap fun resource => names.flatMap resource.includedBy).map
        ResourceObject.identity =
      resources.flatMap fun resource => names.flatMap resource.includedIds := by
    simp only [map_flatMap]
    rfl
  unfold Document.Compound
  simp only [areData, map_append, same, ids, nodup_append', nodup_flatMap,
    forall_mem_append]
  constructor
  · rintro ⟨⟨primary, ⟨within, across⟩, apart⟩, -, allowed⟩
    exact
      { primary
        once := fun resource isIn => (within resource isIn).1
        byOneName := fun resource isIn => (within resource isIn).2
        byOneResource := across.imp fun disjoint name isName other isOther => by
          intro id isFirst isSecond
          exact disjoint (mem_flatMap.mpr ⟨name, isName, isFirst⟩)
            (mem_flatMap.mpr ⟨other, isOther, isSecond⟩)
        notPrimary := fun resource isIn other isOther name isName isBoth =>
          apart (mem_map.mpr ⟨resource, isIn, rfl⟩)
            (mem_flatMap.mpr ⟨other, isOther, mem_flatMap.mpr ⟨name, isName, isBoth⟩⟩)
        allowed := fun resource isIn name isName object isObject =>
          allowed object
            (mem_flatMap.mpr ⟨resource, isIn, mem_flatMap.mpr ⟨name, isName, isObject⟩⟩) }
  · intro unshared
    refine ⟨⟨unshared.primary, ⟨fun resource isIn =>
      ⟨unshared.once resource isIn, unshared.byOneName resource isIn⟩, ?_⟩, ?_⟩, areAllowed, ?_⟩
    · refine unshared.byOneResource.imp fun disjoint id isFirst isSecond => ?_
      obtain ⟨name, isName, isFirst⟩ := mem_flatMap.mp isFirst
      obtain ⟨other, isOther, isSecond⟩ := mem_flatMap.mp isSecond
      exact disjoint name isName other isOther isFirst isSecond
    · intro id isPrimary isIncluded
      obtain ⟨resource, isIn, rfl⟩ := mem_map.mp isPrimary
      obtain ⟨other, isOther, isIncluded⟩ := mem_flatMap.mp isIncluded
      obtain ⟨name, isName, isIncluded⟩ := mem_flatMap.mp isIncluded
      exact unshared.notPrimary resource isIn other isOther name isName isIncluded
    · intro object isObject
      obtain ⟨resource, isIn, isObject⟩ := mem_flatMap.mp isObject
      obtain ⟨name, isName, isObject⟩ := mem_flatMap.mp isObject
      exact unshared.allowed resource isIn name isName object isObject

theorem compound_render_iff (isRendered : resource.render fields names = .ok document) :
    document.Compound fields ↔ Unshared fields names [resource] := by
  unfold render at isRendered
  cases isObject : resource.resourceObject fields with
  | error error => rw [isObject] at isRendered; cases isRendered
  | ok object =>
    cases isIncluded : resource.includes names with
    | error error => rw [isObject, isIncluded] at isRendered; cases isRendered
    | ok included =>
      rw [isObject, isIncluded] at isRendered
      cases isRendered
      obtain ⟨same, isAllowed⟩ := resourceObject_spec isObject
      rw [includes_eq isIncluded, ← flatMap_singleton (fun resource =>
        names.flatMap resource.includedBy) resource]
      refine unshared_iff ?_ (forall_mem_singleton.mpr isAllowed) _ _ rfl
      rw [map_singleton, same]
      rfl

end Resource

/--
A rendered document, of one resource or of a collection, is a compound document exactly when no
resource in it is shared, and the included objects come with allowed attributes only.
-/
theorem documents_compound_iff (fields : SparseFields) (names : List String) :
    (∀ (resource : Resource Json) document, resource.render fields names = .ok document →
      (document.Compound fields ↔ Resource.Unshared fields names [resource])) ∧
    ∀ (resources : List (Resource Json)) document,
      Resource.renderMany fields names resources = .ok document →
      (document.Compound fields ↔ Resource.Unshared fields names resources) := by
  refine ⟨fun _ _ => Resource.compound_render_iff, fun resources document isRendered => ?_⟩
  unfold Resource.renderMany at isRendered
  cases isEach : Resource.renderEach fields names resources with
  | error error => rw [isEach] at isRendered; cases isRendered
  | ok rendered =>
    rw [isEach] at isRendered
    cases isRendered
    obtain ⟨same, areAllowed, isIncluded⟩ := Resource.renderEach_spec isEach
    rw [isIncluded]
    exact Resource.unshared_iff same areAllowed _ _ rfl

/-- A post that includes its author, who comes with a name and an email. -/
def postOf (author : String) (id : String) : Resource String where
  type := "posts"
  id
  attributes := [("title", "Hello")]
  links := none
  relationships := [{ name := "author", type := "users", ids := [author], loaded := true }]
  inclusions _ :=
    [{ relationship := "author"
       resource :=
        { type := "users", id := author, attributes := [("name", "Ada"), ("email", "a@b.c")]
          relationships := .empty, links := none } }]

def namesOnly : SparseFields := fun type => if type = "users" then some ["name"] else none

/-- Two posts share an author, who is included twice and with an attribute too many. -/
theorem shared_author_is_included_twice :
    ∃ document,
      Resource.renderMany namesOnly ["author"] [postOf "1" "1", postOf "1" "2"] = .ok document ∧
        document.included.map ResourceObject.identity = [("users", "1"), ("users", "1")] ∧
        ¬document.Compound namesOnly := by
  refine ⟨_, rfl, rfl, fun compound => ?_⟩
  have once := compound.1
  revert once
  decide

end Rustasea.Jsonapi
