import Mathlib.Data.List.Basic
import Mathlib.Tactic.Tauto

namespace Rustasea.Mongo

open List

/-!
# The filter builder

A filter is one BSON document.  Each call of the builder inserts a clause under
a field, merges an operator into the clause that is there, or adds another
filter to the array under `$and` or `$or`.  A value is given as what it
serializes to, if it does.
-/

/-! ## Documents -/

abbrev CString :=
  { text : String // Char.ofNat 0 ∉ text.toList }

/-- A BSON regular expression. -/
structure Regex where
  pattern : CString
  options : CString
  deriving DecidableEq

/-- BSON values; the builder does not look into the scalar ones. -/
inductive Bson (Scalar : Type) where
  | document (fields : List (String × Bson Scalar))
  | array (items : List (Bson Scalar))
  | regularExpression (regex : Regex)
  | boolean (flag : Bool)
  | scalar (value : Scalar)

abbrev Document (Scalar : Type) := List (String × Bson Scalar)

variable {Scalar : Type}

namespace Document

def insert (document : Document Scalar) (key : String) (value : Bson Scalar) : Document Scalar :=
  match document with
  | [] => [(key, value)]
  | (name, held) :: rest =>
    if name = key then (key, value) :: rest
    else (name, held) :: insert rest key value

variable {document : Document Scalar} {key : String}

theorem insert_of_lookup_none (absent : document.lookup key = none) (value : Bson Scalar) :
    insert document key value = document ++ [(key, value)] := by
  induction document with
  | nil => rfl
  | cons entry rest ih =>
    obtain ⟨name, held⟩ := entry
    rw [lookup_cons] at absent
    by_cases same : name = key
    · subst same
      simp at absent
    · have notFound : (key == name) = false := by simp [Ne.symm same]
      simp only [notFound] at absent
      rw [insert, if_neg same, ih absent, cons_append]

theorem exists_insert_of_lookup_some {old : Bson Scalar}
    (present : document.lookup key = some old) :
    ∃ before after, document = before ++ (key, old) :: after ∧
      ∀ value, insert document key value = before ++ (key, value) :: after := by
  induction document with
  | nil => cases present
  | cons entry rest ih =>
    obtain ⟨name, held⟩ := entry
    rw [lookup_cons] at present
    by_cases same : name = key
    · subst same
      simp only [beq_self_eq_true, Option.some.injEq] at present
      subst present
      exact ⟨[], rest, rfl, fun value => if_pos rfl⟩
    · have notFound : (key == name) = false := by simp [Ne.symm same]
      simp only [notFound] at present
      obtain ⟨before, after, rfl, inserts⟩ := ih present
      refine ⟨(name, held) :: before, after, rfl, fun value => ?_⟩
      rw [insert, if_neg same, inserts, cons_append]

end Document

/-! ## The builder -/

/-- A query filter. -/
structure Filter (Scalar : Type) where
  inner : Document Scalar

def docOp (op : String) (value : Bson Scalar) : Document Scalar :=
  [(op, value)]

namespace Filter

def new : Filter Scalar := ⟨[]⟩

def eq (filter : Filter Scalar) (field : String) (value : Option (Bson Scalar)) : Filter Scalar :=
  match value with
  | some bson => ⟨filter.inner.insert field bson⟩
  | none => filter

/-- Insert an operator, merging it into an existing clause of the field. -/
def operator (filter : Filter Scalar) (field op : String)
    (value : Option (Bson Scalar)) : Filter Scalar :=
  match value with
  | some bson =>
    match filter.inner.lookup field with
    | some (.document existing) =>
      ⟨filter.inner.insert field (.document (Document.insert existing op bson))⟩
    | _ => ⟨filter.inner.insert field (.document (docOp op bson))⟩
  | none => filter

def isIn (filter : Filter Scalar) (field : String)
    (values : List (Option (Bson Scalar))) : Filter Scalar :=
  filter.operator field "$in" (some (.array (values.filterMap id)))

def notIn (filter : Filter Scalar) (field : String)
    (values : List (Option (Bson Scalar))) : Filter Scalar :=
  filter.operator field "$nin" (some (.array (values.filterMap id)))

def «exists» (filter : Filter Scalar) (field : String) (present : Bool) : Filter Scalar :=
  ⟨filter.inner.insert field (.document (docOp "$exists" (.boolean present)))⟩

/-- A call whose pattern or options hold a NUL is refused and makes no filter. -/
def regex (filter : Filter Scalar) (field : String) (regex : Regex) : Filter Scalar :=
  ⟨filter.inner.insert field (.regularExpression regex)⟩

/-- Merge a filter under an operator, folding into an existing clause. -/
def merge (filter : Filter Scalar) (op : String) (other : Document Scalar) : Filter Scalar :=
  match filter.inner.lookup op with
  | some (.array items) => ⟨filter.inner.insert op (.array (items ++ [.document other]))⟩
  | _ => ⟨filter.inner.insert op (.array [.document other])⟩

/-- Combine two filters with `$and`. -/
def and (filter other : Filter Scalar) : Filter Scalar := filter.merge "$and" other.inner

/-- Combine two filters with `$or`. -/
def or (filter other : Filter Scalar) : Filter Scalar := filter.merge "$or" other.inner

end Filter

/-!
## What a filter selects

MongoDB reads a query document as the conjunction of its clauses: the filters
under `$and` all, those under `$or` one of them, the operators of a field all,
and any other value as the one that the field equals.  A filter built by a chain
of calls means what its calls add; it is read as this, with no condition lost,
exactly when no call replaces a clause and the two sides of every `or` agree.
-/

variable {Record : Type}

/-! ## Reading a query document -/

/-- A condition that is read off a document. -/
inductive Atom (Scalar : Type) where
  | equals (field : String) (value : Bson Scalar)
  | operator (field op : String) (value : Bson Scalar)
  | regex (field : String) (regex : Regex)
  | special (key : String) (value : Bson Scalar)

def isOperatorKey (key : String) : Bool := key.toList.head? == some '$'

/-- A reference to a document elsewhere, which is a value for all its `$` keys. -/
def isDbRef (fields : Document Scalar) : Bool :=
  fields.any (·.1 == "$ref") && fields.any (·.1 == "$id")

def isOperatorDocument (fields : Document Scalar) : Bool :=
  (fields.head?.map fun field => isOperatorKey field.1).getD false && !isDbRef fields

/-- An operator that a field can have, and no part of a reference. -/
def isFieldOperator (op : String) : Bool := isOperatorKey op && op != "$ref" && op != "$id"

/-- How the parts of a query are put together. -/
structure Reading (Scalar Result : Type) where
  atom : Atom Scalar → Result
  all : List Result → Result
  any : List Result → Result

section Reading

variable {Result : Type} (reading : Reading Scalar Result)

mutual

@[grind =] def readFields : List (String × Bson Scalar) → List Result
  | [] => []
  | (key, value) :: rest => readField key value :: readFields rest

@[grind =] def readField (key : String) : Bson Scalar → Result
  | .array items =>
    if key = "$and" then reading.all (readFilters items)
    else if key = "$or" then reading.any (readFilters items)
    else if isOperatorKey key then reading.atom (.special key (.array items))
    else reading.atom (.equals key (.array items))
  | .document fields =>
    if isOperatorKey key then reading.atom (.special key (.document fields))
    else if isOperatorDocument fields then
      reading.all (fields.map fun field => reading.atom (.operator key field.1 field.2))
    else reading.atom (.equals key (.document fields))
  | .regularExpression regex =>
    if isOperatorKey key then reading.atom (.special key (.regularExpression regex))
    else reading.atom (.regex key regex)
  | .boolean flag =>
    if isOperatorKey key then reading.atom (.special key (.boolean flag))
    else reading.atom (.equals key (.boolean flag))
  | .scalar value =>
    if isOperatorKey key then reading.atom (.special key (.scalar value))
    else reading.atom (.equals key (.scalar value))

@[grind =] def readFilters : List (Bson Scalar) → List Result
  | [] => []
  | .document fields :: rest => reading.all (readFields fields) :: readFilters rest
  | .array items :: rest => reading.atom (.special "" (.array items)) :: readFilters rest
  | .regularExpression regex :: rest =>
    reading.atom (.special "" (.regularExpression regex)) :: readFilters rest
  | .boolean flag :: rest => reading.atom (.special "" (.boolean flag)) :: readFilters rest
  | .scalar value :: rest => reading.atom (.special "" (.scalar value)) :: readFilters rest

end

theorem readFields_append (first second : List (String × Bson Scalar)) :
    readFields reading (first ++ second) =
      readFields reading first ++ readFields reading second := by
  induction first with
  | nil => rw [nil_append, readFields, nil_append]
  | cons entry rest ih =>
    rw [cons_append, readFields, readFields, ih, cons_append]

theorem readFilters_append (first second : List (Bson Scalar)) :
    readFilters reading (first ++ second) =
      readFilters reading first ++ readFilters reading second := by
  induction first with
  | nil => rw [nil_append, readFilters, nil_append]
  | cons item rest ih =>
    cases item <;> rw [cons_append, readFilters, readFilters, ih, cons_append]

end Reading

/-- What the conditions mean for the records of a collection. -/
structure Semantics (Scalar Record : Type) where
  holds : Atom Scalar → Record → Prop

def matching (semantics : Semantics Scalar Record) (record : Record) : Reading Scalar Prop where
  atom atom := semantics.holds atom record
  all results := ∀ result ∈ results, result
  any results := ∃ result ∈ results, result

def collecting : Reading Scalar (List (Atom Scalar)) where
  atom atom := [atom]
  all := List.flatten
  any := List.flatten

def Matches (semantics : Semantics Scalar Record) (document : Document Scalar)
    (record : Record) : Prop :=
  ∀ result ∈ readFields (matching semantics record) document, result

/-- All the conditions of a query document, at any depth. -/
def conditions (document : Document Scalar) : List (Atom Scalar) :=
  (readFields collecting document).flatten

variable {semantics : Semantics Scalar Record}

theorem matches_append {first second : Document Scalar} {record : Record} :
    Matches semantics (first ++ second) record ↔
      Matches semantics first record ∧ Matches semantics second record := by
  unfold Matches
  rw [readFields_append]
  exact forall_mem_append

theorem matches_cons {key : String} {value : Bson Scalar} {rest : Document Scalar}
    {record : Record} :
    Matches semantics ((key, value) :: rest) record ↔
      readField (matching semantics record) key value ∧ Matches semantics rest record := by
  unfold Matches
  exact forall_mem_cons

theorem matches_nil (semantics : Semantics Scalar Record) (record : Record) :
    Matches semantics [] record := by
  unfold Matches
  exact fun _ isIn => absurd isIn not_mem_nil

theorem conditions_append (first second : Document Scalar) :
    conditions (first ++ second) = conditions first ++ conditions second := by
  unfold conditions
  rw [readFields_append, flatten_append]

theorem conditions_cons (key : String) (value : Bson Scalar) (rest : Document Scalar) :
    conditions ((key, value) :: rest) = readField collecting key value ++ conditions rest := by
  unfold conditions
  rw [readFields, flatten_cons]

theorem conditions_nil : conditions ([] : Document Scalar) = [] := by
  unfold conditions
  rw [readFields, flatten_nil]

/-! ## Clauses of a field -/

/-- A value that is read as the one that the field equals. -/
def Bson.IsPlain : Bson Scalar → Prop
  | .document fields => isOperatorDocument fields = false
  | .regularExpression _ => False
  | _ => True

def Atom.IsRead : Atom Scalar → Prop
  | .equals field value => isOperatorKey field = false ∧ value.IsPlain
  | .operator field _ _ => isOperatorKey field = false
  | .regex field _ => isOperatorKey field = false
  | .special _ _ => True

section Clauses

variable {Result : Type} (reading : Reading Scalar Result) {key : String}
  (isField : isOperatorKey key = false)

include isField

theorem ne_of_isField : key ≠ "$and" ∧ key ≠ "$or" := by
  constructor
  all_goals
    rintro rfl
    exact absurd isField (by decide)

theorem readField_of_isPlain {value : Bson Scalar} (isPlain : value.IsPlain) :
    readField reading key value = reading.atom (.equals key value) := by
  cases value with
  | array items =>
    obtain ⟨notAnd, notOr⟩ := ne_of_isField isField
    rw [readField, if_neg notAnd, if_neg notOr, isField]
    rfl
  | document fields =>
    have isLiteral : isOperatorDocument fields = false := isPlain
    rw [readField, isField, isLiteral]
    rfl
  | regularExpression regex => exact isPlain.elim
  | boolean flag | scalar value =>
    rw [readField, isField]
    rfl

theorem readField_of_operators {fields : Document Scalar}
    (isOperators : isOperatorDocument fields = true) :
    readField reading key (.document fields) = reading.all
      (fields.map fun field => reading.atom (.operator key field.1 field.2)) := by
  rw [readField, isField, isOperators]
  rfl

theorem readField_of_regex (regex : Regex) :
    readField reading key (.regularExpression regex) = reading.atom (.regex key regex) := by
  rw [readField, isField]
  rfl

theorem length_readField_pos (value : Bson Scalar) :
    0 < (readField collecting key value).length := by
  by_cases isPlain : value.IsPlain
  · rw [readField_of_isPlain collecting isField isPlain]
    exact Nat.zero_lt_one
  · cases value with
    | document fields =>
      have isOperators : isOperatorDocument fields = true := Bool.of_not_eq_false isPlain
      rw [readField_of_operators collecting isField isOperators]
      cases fields with
      | nil => cases isOperators
      | cons first rest => simp [collecting]
    | regularExpression regex =>
      rw [readField_of_regex collecting isField]
      exact Nat.zero_lt_one
    | _ => exact absurd trivial isPlain

end Clauses

mutual

theorem isRead_readFields : ∀ (document : List (String × Bson Scalar)),
      ∀ atom ∈ (readFields collecting document).flatten, atom.IsRead
  | [], atom, isIn => by
    rw [readFields] at isIn
    cases isIn
  | (key, value) :: rest, atom, isIn => by
    rw [readFields, flatten_cons, mem_append] at isIn
    rcases isIn with isFirst | isLater
    · exact isRead_readField key value atom isFirst
    · exact isRead_readFields rest atom isLater

theorem isRead_readField (key : String) :
    ∀ (value : Bson Scalar), ∀ atom ∈ readField collecting key value, atom.IsRead
  | .array items, atom, isIn => by
    rw [readField] at isIn
    split at isIn
    · exact isRead_readFilters items atom isIn
    · split at isIn
      · exact isRead_readFilters items atom isIn
      · split at isIn
        · obtain rfl := mem_singleton.mp isIn
          trivial
        · next isField =>
          obtain rfl := mem_singleton.mp isIn
          exact ⟨Bool.eq_false_iff.mpr isField, trivial⟩
  | .document fields, atom, isIn => by
    rw [readField] at isIn
    split at isIn
    · obtain rfl := mem_singleton.mp isIn
      trivial
    · next isField =>
      split at isIn
      · obtain ⟨atoms, isAtoms, isAtom⟩ := mem_flatten.mp isIn
        obtain ⟨field, -, rfl⟩ := mem_map.mp isAtoms
        obtain rfl := mem_singleton.mp isAtom
        exact Bool.eq_false_iff.mpr isField
      · next isLiteral =>
        obtain rfl := mem_singleton.mp isIn
        exact ⟨Bool.eq_false_iff.mpr isField, Bool.eq_false_iff.mpr isLiteral⟩
  | .regularExpression regex, atom, isIn => by
    rw [readField] at isIn
    split at isIn
    · obtain rfl := mem_singleton.mp isIn
      trivial
    · next isField =>
      obtain rfl := mem_singleton.mp isIn
      exact Bool.eq_false_iff.mpr isField
  | .boolean _, atom, isIn | .scalar _, atom, isIn => by
    rw [readField] at isIn
    split at isIn
    · obtain rfl := mem_singleton.mp isIn
      trivial
    · next isField =>
      obtain rfl := mem_singleton.mp isIn
      exact ⟨Bool.eq_false_iff.mpr isField, trivial⟩

theorem isRead_readFilters :
    ∀ (items : List (Bson Scalar)), ∀ atom ∈ (readFilters collecting items).flatten, atom.IsRead
  | [], atom, isIn => by
    rw [readFilters] at isIn
    cases isIn
  | .document fields :: rest, atom, isIn => by
    rw [readFilters, flatten_cons, mem_append] at isIn
    rcases isIn with isFirst | isLater
    · exact isRead_readFields fields atom isFirst
    · exact isRead_readFilters rest atom isLater
  | .array _ :: rest, atom, isIn | .regularExpression _ :: rest, atom, isIn
  | .boolean _ :: rest, atom, isIn | .scalar _ :: rest, atom, isIn => by
    rw [readFilters, flatten_cons, mem_append] at isIn
    rcases isIn with isFirst | isLater
    · obtain rfl := mem_singleton.mp isFirst
      trivial
    · exact isRead_readFilters rest atom isLater

end

/-! ## Inserting a clause -/

section Inserting

variable {semantics : Semantics Scalar Record} {document existing : Document Scalar}
  {key op : String} {value old : Bson Scalar}

theorem conditions_insert_of_absent (absent : document.lookup key = none) :
    conditions (document.insert key value) =
      conditions document ++ readField collecting key value := by
  rw [Document.insert_of_lookup_none absent, conditions_append,
    conditions_cons, conditions_nil, append_nil]

theorem matches_insert_of_absent (absent : document.lookup key = none) (record : Record) :
    Matches semantics (document.insert key value) record ↔
      Matches semantics document record ∧ readField (matching semantics record) key value := by
  rw [Document.insert_of_lookup_none absent, matches_append, matches_cons,
    and_iff_left (matches_nil semantics record)]

theorem length_conditions_insert_le (present : document.lookup key = some old)
    (shorter : (readField collecting key value).length ≤ (readField collecting key old).length) :
    (conditions (document.insert key value)).length ≤ (conditions document).length := by
  obtain ⟨before, after, rfl, inserts⟩ := Document.exists_insert_of_lookup_some present
  rw [inserts, conditions_append, conditions_append, conditions_cons, conditions_cons,
    length_append, length_append, length_append, length_append]
  exact Nat.add_le_add_left (Nat.add_le_add_right shorter (conditions after).length) _

theorem any_insert (existing : Document Scalar) (value : Bson Scalar) {other : String}
    (differs : op ≠ other) :
    (existing.insert op value).any (·.1 == other) = existing.any (·.1 == other) := by
  induction existing with
  | nil => simp [Document.insert, differs]
  | cons first rest ih =>
    rw [Document.insert]
    split
    · next same => simp [same]
    · rw [any_cons, any_cons, ih]

theorem isOperatorDocument_docOp (value : Bson Scalar) (isOp : isFieldOperator op = true) :
    isOperatorDocument (docOp op value) = true := by
  simp only [isFieldOperator, Bool.and_eq_true, bne_iff_ne] at isOp
  simp [isOperatorDocument, docOp, isDbRef, isOp]

/-- An operator that is merged into a document leaves what the document is. -/
theorem isOperatorDocument_insert (isOp : isFieldOperator op = true) (notEmpty : existing ≠ []) :
    isOperatorDocument (Document.insert existing op value) = isOperatorDocument existing := by
  simp only [isFieldOperator, Bool.and_eq_true, bne_iff_ne] at isOp
  obtain ⟨⟨-, notRef⟩, notId⟩ := isOp
  obtain ⟨first, rest, rfl⟩ := exists_cons_of_ne_nil notEmpty
  have sameRef := any_insert (first :: rest) value notRef
  have sameId := any_insert (first :: rest) value notId
  have sameHead :
      ∃ held later, Document.insert (first :: rest) op value = (first.1, held) :: later := by
    rw [Document.insert]
    split
    · next same => exact ⟨value, rest, by rw [same]⟩
    · exact ⟨_, _, rfl⟩
  obtain ⟨held, later, inserted⟩ := sameHead
  rw [isOperatorDocument, isOperatorDocument, isDbRef, sameRef, sameId, inserted]
  rfl

theorem isOperatorDocument_append (isOp : isFieldOperator op = true)
    (isOperators : isOperatorDocument existing = true) (absent : existing.lookup op = none) :
    isOperatorDocument (existing ++ [(op, value)]) = true := by
  rw [← Document.insert_of_lookup_none absent, isOperatorDocument_insert isOp]
  · exact isOperators
  · rintro rfl
    cases isOperators

theorem conditions_insert_operator (isField : isOperatorKey key = false)
    (isOp : isFieldOperator op = true) (present : document.lookup key = some (.document existing))
    (isOperators : isOperatorDocument existing = true) (isNew : existing.lookup op = none) :
    (conditions (document.insert key (.document (existing ++ [(op, value)])))).Perm
      (conditions document ++ [.operator key op value]) := by
  obtain ⟨before, after, rfl, inserts⟩ := Document.exists_insert_of_lookup_some present
  rw [inserts, conditions_append, conditions_append, conditions_cons,
    conditions_cons, readField_of_operators collecting isField isOperators,
    readField_of_operators collecting isField (isOperatorDocument_append isOp isOperators isNew),
    map_append]
  simp only [collecting, flatten_append, append_assoc]
  exact (List.Perm.append_left _ (List.Perm.append_left _ perm_append_comm))

theorem matches_insert_operator (isField : isOperatorKey key = false)
    (isOp : isFieldOperator op = true) (present : document.lookup key = some (.document existing))
    (isOperators : isOperatorDocument existing = true) (isNew : existing.lookup op = none)
    (record : Record) :
    Matches semantics (document.insert key (.document (existing ++ [(op, value)]))) record ↔
      Matches semantics document record ∧ semantics.holds (.operator key op value) record := by
  obtain ⟨before, after, rfl, inserts⟩ := Document.exists_insert_of_lookup_some present
  rw [inserts, matches_append, matches_append, matches_cons, matches_cons,
    readField_of_operators _ isField isOperators,
    readField_of_operators _ isField (isOperatorDocument_append isOp isOperators isNew),
      map_append]
  simp only [matching, map_cons, map_nil, forall_mem_append,
    forall_mem_singleton]
  tauto

theorem length_readField_insert_le
    (isField : isOperatorKey key = false) (isOp : isFieldOperator op = true)
    (merged : ¬(isOperatorDocument existing = true ∧ existing.lookup op = none)) :
    (readField collecting key (.document (Document.insert existing op value))).length ≤
      (readField collecting key (.document existing)).length := by
  by_cases isOperators : isOperatorDocument existing = true
  · cases present : existing.lookup op with
    | none => exact absurd ⟨isOperators, present⟩ merged
    | some held =>
      obtain ⟨before, after, rfl, inserts⟩ := Document.exists_insert_of_lookup_some present
      have stillOperators : isOperatorDocument (before ++ (op, value) :: after) = true := by
        rw [← inserts, isOperatorDocument_insert isOp (by simp), isOperators]
      rw [inserts, readField_of_operators collecting isField isOperators,
        readField_of_operators collecting isField stillOperators]
      simp [collecting]
  · refine Nat.le_trans ?_ (length_readField_pos isField _)
    cases existing with
    | nil =>
      have single : isOperatorDocument [(op, value)] = true := isOperatorDocument_docOp value isOp
      rw [Document.insert, readField_of_operators collecting isField single]
      exact Nat.le_refl 1
    | cons first rest =>
      have isPlain : (Bson.document (Document.insert (first :: rest) op value)).IsPlain :=
        (isOperatorDocument_insert isOp (cons_ne_nil _ _)).trans
          (Bool.eq_false_iff.mpr isOperators)
      rw [readField_of_isPlain collecting isField isPlain]
      exact Nat.le_refl 1

end Inserting

/-! ## The calls of a chain -/

inductive Comparison where
  | ne
  | gt
  | gte
  | lt
  | lte
  deriving DecidableEq

def Comparison.op : Comparison → String
  | ne => "$ne"
  | gt => "$gt"
  | gte => "$gte"
  | lt => "$lt"
  | lte => "$lte"

/-- A call that adds one condition. -/
inductive Condition (Scalar : Type) where
  | eq (field : String) (value : Option (Bson Scalar))
  | compare (comparison : Comparison) (field : String) (value : Option (Bson Scalar))
  | isIn (field : String) (values : List (Option (Bson Scalar)))
  | notIn (field : String) (values : List (Option (Bson Scalar)))
  | present (field : String) (isPresent : Bool)
  | matching (field : String) (regex : Regex)

def allValues (values : List (Option (Bson Scalar))) : Option (Bson Scalar) :=
  if values.all Option.isSome then some (.array (values.filterMap id))
  else none

namespace Condition

def apply (filter : Filter Scalar) : Condition Scalar → Filter Scalar
  | eq field value => filter.eq field value
  | compare comparison field value => filter.operator field comparison.op value
  | isIn field values => filter.isIn field values
  | notIn field values => filter.notIn field values
  | present field isPresent => filter.«exists» field isPresent
  | matching field regex => filter.regex field regex

/-- The condition that the call adds, when its value serializes. -/
def atom? : Condition Scalar → Option (Atom Scalar)
  | eq field value => value.map (.equals field)
  | compare comparison field value => value.map (.operator field comparison.op)
  | isIn field values => (allValues values).map (.operator field "$in")
  | notIn field values => (allValues values).map (.operator field "$nin")
  | present field isPresent => some (.operator field "$exists" (.boolean isPresent))
  | matching field regex => some (.regex field regex)

/-- The field of a call, and its operator when the call merges. -/
def place : Condition Scalar → String × Option String
  | eq field _ => (field, none)
  | compare comparison field _ => (field, some comparison.op)
  | isIn field _ => (field, some "$in")
  | notIn field _ => (field, some "$nin")
  | present field _ => (field, none)
  | matching field _ => (field, none)

/--
The field has no clause yet; or the call merges an operator into operators
without it.
-/
def IsFresh (document : Document Scalar) (condition : Condition Scalar) : Prop :=
  document.lookup condition.place.1 = none ∨ ∃ existing,
      document.lookup condition.place.1 = some (.document existing) ∧
        isOperatorDocument existing = true ∧ ∃ op ∈ condition.place.2, existing.lookup op = none

/--
The call's value serializes to one that is read as it is meant, under a field
that is none of MongoDB's own keys, and nothing is replaced.
-/
def Keeps (document : Document Scalar) (condition : Condition Scalar) : Prop :=
  (∃ atom ∈ condition.atom?, atom.IsRead) ∧ condition.IsFresh document

end Condition

/-- A filter expression: a chain of calls, with filters inside. -/
inductive Expression (Scalar : Type) where
  | new
  | call (filter : Expression Scalar) (condition : Condition Scalar)
  | and (filter other : Expression Scalar)
  | or (filter other : Expression Scalar)

namespace Expression

def build : Expression Scalar → Filter Scalar
  | new => Filter.new
  | call filter condition => condition.apply filter.build
  | and filter other => filter.build.and other.build
  | or filter other => filter.build.or other.build

def document (expression : Expression Scalar) : Document Scalar := expression.build.inner

/--
What the expression means; a condition whose value does not serialize may mean
anything.
-/
def Meaning (semantics : Semantics Scalar Record)
    (unserialized : Condition Scalar → Record → Prop) (record : Record) : Expression Scalar → Prop
  | new => True
  | call filter condition =>
    filter.Meaning semantics unserialized record ∧
      match condition.atom? with
      | some atom => semantics.holds atom record
      | none => unserialized condition record
  | and filter other =>
    filter.Meaning semantics unserialized record ∧ other.Meaning semantics unserialized record
  | or filter other =>
    filter.Meaning semantics unserialized record ∨ other.Meaning semantics unserialized record

def added : Expression Scalar → List (Option (Atom Scalar))
  | new => []
  | call filter condition => filter.added ++ [condition.atom?]
  | and filter other => filter.added ++ other.added
  | or filter other => filter.added ++ other.added

/-- Something holds of the filter, and of every filter it was made from. -/
def Throughout (holds : Expression Scalar → Prop) : Expression Scalar → Prop
  | new => holds new
  | call filter condition => filter.Throughout holds ∧ holds (.call filter condition)
  | and filter other => filter.Throughout holds ∧ other.Throughout holds ∧ holds (.and filter other)
  | or filter other => filter.Throughout holds ∧ other.Throughout holds ∧ holds (.or filter other)

/-- The query document selects what is meant, and has every condition. -/
structure Sound
    (semantics : Semantics Scalar Record) (unserialized : Condition Scalar → Record → Prop)
    (expression : Expression Scalar) : Prop where
  selects : ∀ record, Matches semantics expression.document record ↔
        expression.Meaning semantics unserialized record
  complete : ((conditions expression.document).map some).Perm expression.added

end Expression

/--
The two sides of an `or` agree: they match the same records, or, when the filter
has alternatives already, the other one matches only what the rest of it does.
-/
def OrAgrees (semantics : Semantics Scalar Record) (document other : Document Scalar) : Prop :=
  match document.lookup "$or" with
  | none => ∀ record, Matches semantics document record ↔ Matches semantics other record
  | some _ =>
    ∀ record, Matches semantics other record →
        Matches semantics (document.filter fun field => field.1 != "$or") record

def Expression.CallKeeps (semantics : Semantics Scalar Record) : Expression Scalar → Prop
  | .new => True
  | .call filter condition => condition.Keeps filter.document
  | .and _ _ => True
  | .or filter other => OrAgrees semantics filter.document other.document

/-! ## A call that adds a condition -/

section Calls

variable {semantics : Semantics Scalar Record}

/-- A clause of a field that reads as one condition. -/
structure ReadsAs (semantics : Semantics Scalar Record) (field : String) (value : Bson Scalar)
    (atom : Atom Scalar) : Prop where
  collects : readField collecting field value = [atom]
  selects :
    ∀ record, readField (matching semantics record) field value ↔ semantics.holds atom record

variable {field : String} {value : Bson Scalar}

theorem readsAs_of_isPlain (isField : isOperatorKey field = false) (isPlain : value.IsPlain) :
    ReadsAs semantics field value (.equals field value) where
  collects := readField_of_isPlain collecting isField isPlain
  selects record := by
    rw [readField_of_isPlain (matching semantics record) isField isPlain]
    exact Iff.rfl

theorem readsAs_of_regex (isField : isOperatorKey field = false) (regex : Regex) :
    ReadsAs semantics field (.regularExpression regex) (.regex field regex) where
  collects := readField_of_regex collecting isField regex
  selects record := by
    rw [readField_of_regex (matching semantics record) isField regex]
    exact Iff.rfl

theorem readsAs_of_docOp {field op : String}
    (isField : isOperatorKey field = false) (isOp : isFieldOperator op = true) :
    ReadsAs semantics field (.document (docOp op value)) (.operator field op value) where
  collects := by
    have isOperators := isOperatorDocument_docOp value isOp
    rw [readField_of_operators collecting isField isOperators]
    rfl
  selects record := by
    have isOperators := isOperatorDocument_docOp value isOp
    rw [readField_of_operators (matching semantics record) isField isOperators]
    exact forall_mem_singleton

/-- What a call with a value does: it inserts a clause, or it merges. -/
inductive Condition.Does (semantics : Semantics Scalar Record) (condition : Condition Scalar)
    (atom : Atom Scalar) : Prop where
  | inserts (value : Bson Scalar) (noOperator : condition.place.2 = none)
      (applied : ∀ filter : Filter Scalar,
          condition.apply filter = ⟨filter.inner.insert condition.place.1 value⟩)
      (reads : ReadsAs semantics condition.place.1 value atom)
  | merges (op : String) (value : Bson Scalar) (isOperator : condition.place.2 = some op)
      (isOp : isFieldOperator op = true) (isAtom : atom = .operator condition.place.1 op value)
      (applied : ∀ filter : Filter Scalar,
          condition.apply filter = filter.operator condition.place.1 op (some value))

theorem allValues_eq_some {values : List (Option (Bson Scalar))}
    (isValue : allValues values = some value) : value = .array (values.filterMap id) := by
  unfold allValues at isValue
  split at isValue
  · exact (Option.some.inj isValue).symm
  · cases isValue

variable {condition : Condition Scalar} {atom : Atom Scalar}

theorem Condition.does (isAtom : condition.atom? = some atom) (isRead : atom.IsRead) :
    isOperatorKey condition.place.1 = false ∧ condition.Does semantics atom := by
  cases condition with
  | eq field value =>
    obtain ⟨bson, rfl, rfl⟩ := Option.map_eq_some_iff.mp isAtom
    exact ⟨isRead.1, .inserts bson rfl (fun _ => rfl) (readsAs_of_isPlain isRead.1 isRead.2)⟩
  | compare comparison field value =>
    obtain ⟨bson, rfl, rfl⟩ := Option.map_eq_some_iff.mp isAtom
    have isOp : isFieldOperator comparison.op = true := by
      cases comparison <;> decide
    exact ⟨isRead, .merges _ bson rfl isOp rfl fun _ => rfl⟩
  | isIn field values | notIn field values =>
    obtain ⟨bson, isValue, rfl⟩ := Option.map_eq_some_iff.mp isAtom
    obtain rfl := allValues_eq_some isValue
    exact ⟨isRead, .merges _ _ rfl (by decide) rfl fun _ => rfl⟩
  | present field isPresent =>
    obtain rfl := Option.some.inj isAtom
    exact ⟨isRead, .inserts _ rfl (fun _ => rfl) (readsAs_of_docOp isRead (by decide))⟩
  | matching field regex =>
    obtain rfl := Option.some.inj isAtom
    exact ⟨isRead, .inserts _ rfl (fun _ => rfl) (readsAs_of_regex isRead regex)⟩

/-- The condition of a document after a clause is added. -/
structure Adds (semantics : Semantics Scalar Record) (document after : Document Scalar)
    (atom : Atom Scalar) : Prop where
  collects : (conditions after).Perm (conditions document ++ [atom])
  selects : ∀ record, Matches semantics after record ↔
        Matches semantics document record ∧ semantics.holds atom record

theorem adds_of_absent {document : Document Scalar}
    (absent : document.lookup field = none) (reads : ReadsAs semantics field value atom) :
    Adds semantics document (document.insert field value) atom where
  collects := by
    rw [conditions_insert_of_absent absent, reads.collects]
  selects record := by
    rw [matches_insert_of_absent absent, reads.selects]

variable {filter : Filter Scalar}

theorem Condition.Keeps.adds (keeps : condition.Keeps filter.inner) :
    ∃ atom, condition.atom? = some atom ∧
      Adds semantics filter.inner (condition.apply filter).inner atom := by
  obtain ⟨⟨atom, isAtom, isRead⟩, isFresh⟩ := keeps
  have does : isOperatorKey condition.place.1 = false ∧ condition.Does semantics atom :=
    Condition.does isAtom isRead
  obtain ⟨isField, does⟩ := does
  refine ⟨atom, isAtom, ?_⟩
  cases does with
  | inserts value noOperator applied reads =>
    rw [applied]
    rcases isFresh with absent | ⟨existing, -, -, op, isOp, -⟩
    · exact adds_of_absent absent reads
    · rw [noOperator] at isOp
      cases isOp
  | merges op value isOperator isOp isAtom applied =>
    rw [applied, Filter.operator]
    subst isAtom
    rcases isFresh with absent | ⟨existing, present, isOperators, other, isOther, isNew⟩
    · simp only [absent]
      exact adds_of_absent absent (readsAs_of_docOp isField isOp)
    · obtain rfl := Option.some.inj (isOperator.symm.trans isOther)
      simp only [present, Document.insert_of_lookup_none isNew]
      exact ⟨conditions_insert_operator isField isOp present isOperators isNew,
        matches_insert_operator isField isOp present isOperators isNew⟩

/-- A call that is not fresh replaces as many conditions as it adds. -/
theorem Condition.Does.length_conditions_le (does : condition.Does semantics atom)
    (isField : isOperatorKey condition.place.1 = false)
    (replaced : ¬condition.IsFresh filter.inner) :
    (conditions (condition.apply filter).inner).length ≤ (conditions filter.inner).length := by
  cases present : filter.inner.lookup condition.place.1 with
  | none => exact absurd (.inl present) replaced
  | some old =>
    have oldConditions := length_readField_pos isField old
    cases does with
    | inserts value noOperator applied reads =>
      rw [applied]
      refine length_conditions_insert_le present ?_
      rw [reads.collects]
      exact oldConditions
    | merges op value isOperator isOp isAtom applied =>
      have single : (readField collecting condition.place.1
          (.document (docOp op value))).length ≤
          (readField collecting condition.place.1 old).length := by
        have reads : ReadsAs semantics condition.place.1 (.document (docOp op value))
            (.operator condition.place.1 op value) :=
          readsAs_of_docOp isField isOp
        rw [reads.collects]
        exact oldConditions
      rw [applied, Filter.operator]
      cases old with
      | document existing =>
        simp only [present]
        refine length_conditions_insert_le present (length_readField_insert_le isField isOp ?_)
        rintro ⟨isOperators, isNew⟩
        exact replaced (.inr ⟨existing, present, isOperators, op, isOperator, isNew⟩)
      | array items | regularExpression regex | boolean flag | scalar held =>
        simp only [present]
        exact length_conditions_insert_le present single

theorem Condition.not_perm_of_not_keeps (loses : ¬condition.Keeps filter.inner) :
    ¬((conditions (condition.apply filter).inner).map some).Perm
      ((conditions filter.inner).map some ++ [condition.atom?]) := by
  intro same
  have isLast : condition.atom? ∈ (conditions (condition.apply filter).inner).map some :=
    same.mem_iff.mpr (mem_append_right _ (mem_singleton_self _))
  obtain ⟨atom, isCollected, isAtom⟩ := mem_map.mp isLast
  have isRead := isRead_readFields _ atom isCollected
  have replaced : ¬condition.IsFresh filter.inner :=
    fun isFresh => loses ⟨⟨atom, isAtom.symm, isRead⟩, isFresh⟩
  have does : isOperatorKey condition.place.1 = false ∧
      condition.Does (⟨fun _ _ => True⟩ : Semantics Scalar Unit) atom :=
    Condition.does isAtom.symm isRead
  have sameLength := same.length_eq
  rw [length_map, length_append, length_map] at sameLength
  have noLonger := does.2.length_conditions_le does.1 replaced
  rw [sameLength] at noLonger
  exact Nat.not_succ_le_self _ noLonger

end Calls

end Rustasea.Mongo
