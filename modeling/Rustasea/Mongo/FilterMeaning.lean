import Mathlib.Data.List.Nodup
import Rustasea.Mongo.QueryMeaning

namespace Rustasea.Mongo

open List

/-!
# Filters put together

Adding a filter under `$and` conjoins it.  Under `$or` it becomes one of the
alternatives, and these stand beside the clauses that the filter has: they are
alternatives to each other, never to these.
-/

variable {Scalar Record : Type}

/-! ## Documents that the builder makes -/

/-- Only arrays stand under MongoDB's own keys, and no key is there twice. -/
structure WellBuilt (document : Document Scalar) : Prop where
  arrays :
    ∀ key value, (key, value) ∈ document → isOperatorKey key = true → ∃ items, value = .array items
  distinct : (document.map Prod.fst).Nodup

theorem wellBuilt_nil : WellBuilt ([] : Document Scalar) where
  arrays _ _ isIn := absurd isIn not_mem_nil
  distinct := nodup_nil

variable {document : Document Scalar} {key : String} {value : Bson Scalar}

theorem mem_of_lookup (present : document.lookup key = some value) : (key, value) ∈ document := by
  obtain ⟨before, after, rfl, -⟩ := Document.exists_insert_of_lookup_some present
  exact mem_append_right before mem_cons_self

theorem WellBuilt.insert (wellBuilt : WellBuilt document)
    (isArray : isOperatorKey key = true → ∃ items, value = .array items) :
    WellBuilt (document.insert key value) := by
  cases present : document.lookup key with
  | none =>
    have isNew : key ∉ document.map Prod.fst := by
      intro isKey
      obtain ⟨entry, isEntry, rfl⟩ := mem_map.mp isKey
      have differs := lookup_eq_none_iff.mp present entry isEntry
      simp at differs
    rw [Document.insert_of_lookup_none present]
    constructor
    · intro name held isIn isOperator
      rcases mem_append.mp isIn with isOld | isAdded
      · exact wellBuilt.arrays name held isOld isOperator
      · cases mem_singleton.mp isAdded
        exact isArray isOperator
    · rw [map_append]
      exact nodup_append.mpr ⟨wellBuilt.distinct, nodup_singleton key,
            fun name isOld other isAdded => by
              cases mem_singleton.mp isAdded
              rintro rfl
              exact isNew isOld⟩
  | some old =>
    obtain ⟨before, after, rfl, inserts⟩ := Document.exists_insert_of_lookup_some present
    have distinct := wellBuilt.distinct
    rw [inserts]
    constructor
    · intro name held isIn isOperator
      rcases mem_append.mp isIn with isBefore | isLater
      · exact wellBuilt.arrays name held (mem_append_left _ isBefore) isOperator
      · rcases mem_cons.mp isLater with isInserted | isAfter
        · cases isInserted
          exact isArray isOperator
        · exact wellBuilt.arrays name held
            (mem_append_right before (mem_cons_of_mem _ isAfter))
            isOperator
    · rw [map_append] at distinct ⊢
      exact distinct

theorem WellBuilt.merge {filter : Filter Scalar} (wellBuilt : WellBuilt filter.inner)
    (op : String) (other : Document Scalar) : WellBuilt (filter.merge op other).inner := by
  unfold Filter.merge
  split
  all_goals exact wellBuilt.insert fun _ => ⟨_, rfl⟩

theorem Condition.Keeps.wellBuilt {filter : Filter Scalar} {condition : Condition Scalar}
    (keeps : condition.Keeps filter.inner)
    (wellBuilt : WellBuilt filter.inner) : WellBuilt (condition.apply filter).inner := by
  obtain ⟨⟨atom, isAtom, isRead⟩, -⟩ := keeps
  have does : isOperatorKey condition.place.1 = false ∧
      condition.Does (⟨fun _ _ => True⟩ : Semantics Scalar Unit) atom :=
    Condition.does isAtom isRead
  obtain ⟨isField, does⟩ := does
  have noArray : ∀ value : Bson Scalar, isOperatorKey condition.place.1 = true →
      ∃ items, value = .array items := by
    intro value isOperator
    rw [isField] at isOperator
    cases isOperator
  cases does with
  | inserts value noOperator applied reads =>
    rw [applied]
    exact wellBuilt.insert (noArray _)
  | merges op value isOperator isOp isAtom applied =>
    rw [applied, Filter.operator]
    split
    all_goals exact wellBuilt.insert (noArray _)

theorem Expression.wellBuilt {semantics : Semantics Scalar Record} {expression : Expression Scalar}
    (keeps : expression.Throughout (Expression.CallKeeps semantics)) :
    WellBuilt expression.document := by
  induction expression with
  | new => exact wellBuilt_nil
  | call filter condition ih => exact Condition.Keeps.wellBuilt keeps.2 (ih keeps.1)
  | and filter other ih _ => exact (ih keeps.1).merge "$and" other.document
  | or filter other ih _ => exact (ih keeps.1).merge "$or" other.document

/-! ## Adding a filter -/

section Merging

variable {semantics : Semantics Scalar Record} {filter other : Filter Scalar} {record : Record}
  {op : String}

theorem WellBuilt.merges (wellBuilt : WellBuilt filter.inner) (isOp : isOperatorKey op = true) :
    (filter.inner.lookup op = none ∧
      (filter.merge op other.inner).inner =
        filter.inner ++ [(op, .array [.document other.inner])]) ∨
    ∃ before items after,
      filter.inner.lookup op = some (.array items) ∧
      filter.inner = before ++ (op, .array items) :: after ∧
      (filter.merge op other.inner).inner =
        before ++ (op, .array (items ++ [.document other.inner])) :: after := by
  cases present : filter.inner.lookup op with
  | none =>
    refine .inl ⟨rfl, ?_⟩
    simp only [Filter.merge, present]
    exact Document.insert_of_lookup_none present _
  | some held =>
    obtain ⟨items, rfl⟩ := wellBuilt.arrays op held (mem_of_lookup present) isOp
    obtain ⟨before, after, split, inserts⟩ := Document.exists_insert_of_lookup_some present
    refine .inr ⟨before, items, after, rfl, split, ?_⟩
    simp only [Filter.merge, present]
    exact inserts _

variable {Result : Type} (reading : Reading Scalar Result)

theorem readFilters_single (document : Document Scalar) :
    readFilters reading [.document document] = [reading.all (readFields reading document)] := by
  rw [readFilters, readFilters]

theorem readField_and (items : List (Bson Scalar)) :
    readField reading "$and" (.array items) = reading.all (readFilters reading items) := by
  rw [readField, if_pos rfl]

theorem readField_or (items : List (Bson Scalar)) :
    readField reading "$or" (.array items) = reading.any (readFilters reading items) := by
  rw [readField, if_neg (by decide), if_pos rfl]

theorem WellBuilt.conditions_merge (wellBuilt : WellBuilt filter.inner)
    (isOp : isOperatorKey op = true)
    (collects : ∀ items : List (Bson Scalar),
      readField collecting op (.array items) = (readFilters collecting items).flatten) :
    (conditions (filter.merge op other.inner).inner).Perm
      (conditions filter.inner ++ conditions other.inner) := by
  have isAdded :
      (readFilters collecting [.document other.inner]).flatten = conditions other.inner := by
    rw [readFilters_single, flatten_singleton]
    rfl
  rcases wellBuilt.merges isOp with ⟨-, merged⟩ | ⟨before, items, after, -, held, merged⟩
  · rw [merged, conditions_append, conditions_cons, conditions_nil,
      append_nil, collects, isAdded]
  · rw [merged, held, conditions_append, conditions_append, conditions_cons, conditions_cons,
      collects, collects, readFilters_append, flatten_append, isAdded, append_assoc,
      append_assoc, append_assoc]
    exact List.Perm.append_left _ (List.Perm.append_left _ perm_append_comm)

theorem WellBuilt.matches_and (wellBuilt : WellBuilt filter.inner) :
    Matches semantics (filter.and other).inner record ↔
      Matches semantics filter.inner record ∧ Matches semantics other.inner record := by
  unfold Filter.and
  have isOp : isOperatorKey "$and" = true := by decide
  rcases wellBuilt.merges isOp with ⟨-, merged⟩ | ⟨before, items, after, -, held, merged⟩
  · rw [merged, matches_append, matches_cons, and_iff_left (matches_nil semantics record),
      readField_and]
    exact and_congr_right fun _ => forall_mem_singleton
  · rw [merged, held, matches_append, matches_append, matches_cons, matches_cons, readField_and,
      readFilters_append]
    have both : (matching semantics record).all (readFilters (matching semantics record) items ++
            [Matches semantics other.inner record]) ↔
        (matching semantics record).all (readFilters (matching semantics record) items) ∧
          Matches semantics other.inner record := by
      exact forall_mem_append.trans (and_congr_right fun _ => forall_mem_singleton)
    refine (and_congr_right fun _ => and_congr_left fun _ => both).trans ?_
    tauto

theorem WellBuilt.filter_alternatives {before after : Document Scalar} {items : List (Bson Scalar)}
    (wellBuilt : WellBuilt (before ++ ("$or", .array items) :: after)) :
    (before ++ ("$or", .array items) :: after).filter (fun field => field.1 != "$or") =
      before ++ after := by
  have distinct := wellBuilt.distinct
  rw [map_append] at distinct
  have others := nodup_middle.mp distinct
  rw [← map_append] at others
  have remains : ∀ field ∈ before ++ after, (field.1 != "$or") = true := by
    intro field isField
    rw [bne_iff_ne]
    intro isOr
    have isKey : field.1 ∈ (before ++ after).map Prod.fst := mem_map_of_mem isField
    rw [isOr] at isKey
    exact (nodup_cons.mp others).1 isKey
  rw [filter_append, filter_cons_of_neg (by simp), ← filter_append]
  exact filter_eq_self.mpr remains

/-- An alternative is a filter that may match, exactly when the sides agree. -/
theorem WellBuilt.matches_or_iff_orAgrees (wellBuilt : WellBuilt filter.inner) :
    (∀ record, Matches semantics (filter.or other).inner record ↔
        Matches semantics filter.inner record ∨ Matches semantics other.inner record) ↔
      OrAgrees semantics filter.inner other.inner := by
  have isOp : isOperatorKey "$or" = true := by decide
  unfold Filter.or OrAgrees
  rcases wellBuilt.merges isOp with ⟨absent, merged⟩ | ⟨before, items, after, present, held, merged⟩
  · have reads : ∀ record, Matches semantics (filter.merge "$or" other.inner).inner record ↔
        Matches semantics filter.inner record ∧ Matches semantics other.inner record := by
      intro record
      rw [merged, matches_append, matches_cons, and_iff_left (matches_nil semantics record)]
      refine and_congr_right fun _ => ⟨?_, ?_⟩
      · rintro ⟨result, isResult, holds⟩
        cases mem_singleton.mp isResult
        exact holds
      · exact fun holds => ⟨_, mem_singleton_self _, holds⟩
    simp only [absent, reads]
    refine forall_congr' fun record => ?_
    tauto
  · have alternatives : ∀ record, (matching semantics record).any
          (readFilters (matching semantics record) (items ++ [.document other.inner])) ↔
        (matching semantics record).any (readFilters (matching semantics record) items) ∨
          Matches semantics other.inner record := by
      intro record
      rw [readFilters_append]
      constructor
      · rintro ⟨result, isResult, holds⟩
        rcases mem_append.mp isResult with isOld | isAdded
        · exact .inl ⟨result, isOld, holds⟩
        · cases mem_singleton.mp isAdded
          exact .inr holds
      · rintro (⟨result, isResult, holds⟩ | holds)
        · exact ⟨result, mem_append_left _ isResult, holds⟩
        · exact ⟨_, mem_append_right _ (mem_singleton_self _), holds⟩
    have rest : filter.inner.filter (fun field => field.1 != "$or") = before ++ after := by
      rw [held] at wellBuilt ⊢
      exact wellBuilt.filter_alternatives
    simp only [present, rest]
    refine forall_congr' fun record => ?_
    rw [merged, held, matches_append, matches_append, matches_append, matches_cons, matches_cons,
      readField_or, alternatives record]
    tauto

end Merging

/-! ## What a chain of calls selects -/

namespace Expression

variable {semantics : Semantics Scalar Record} {unserialized : Condition Scalar → Record → Prop}

theorem Throughout.last {holds : Expression Scalar → Prop} {expression : Expression Scalar}
    (throughout : expression.Throughout holds) : holds expression := by
  cases expression with
  | new => exact throughout
  | call filter condition => exact throughout.2
  | and filter other => exact throughout.2.2
  | or filter other => exact throughout.2.2

theorem sound_call_iff {filter : Expression Scalar} {condition : Condition Scalar}
    (sound : filter.Sound semantics unserialized) :
    (filter.call condition).Sound semantics unserialized ↔ condition.Keeps filter.document := by
  constructor
  · intro soundCall
    refine Classical.byContradiction fun loses => ?_
    refine Condition.not_perm_of_not_keeps loses ?_
    exact soundCall.complete.trans (sound.complete.symm.append_right _)
  · intro keeps
    have adds : ∃ atom, condition.atom? = some atom ∧
        Adds semantics filter.document (condition.apply filter.build).inner atom :=
      Condition.Keeps.adds keeps
    obtain ⟨atom, isAtom, adds⟩ := adds
    constructor
    · intro record
      simp only [Meaning, isAtom]
      exact (adds.selects record).trans (and_congr_left fun _ => sound.selects record)
    · rw [added, isAtom]
      refine (adds.collects.map some).trans ?_
      rw [map_append]
      exact sound.complete.append_right _

variable {filter other : Expression Scalar}

theorem sound_and
    (sound : filter.Sound semantics unserialized) (otherSound : other.Sound semantics unserialized)
    (wellBuilt : WellBuilt filter.document) : (filter.and other).Sound semantics unserialized := by
  constructor
  · intro record
    exact wellBuilt.matches_and.trans (and_congr (sound.selects record) (otherSound.selects record))
  · refine
      ((wellBuilt.conditions_merge (by decide) fun items =>
        readField_and collecting items).map some).trans ?_
    rw [map_append]
    exact sound.complete.append otherSound.complete

theorem sound_or_iff (sound : filter.Sound semantics unserialized)
    (otherSound : other.Sound semantics unserialized) (wellBuilt : WellBuilt filter.document) :
    (filter.or other).Sound semantics unserialized ↔
      OrAgrees semantics filter.document other.document := by
  have sides : ∀ record, Matches semantics filter.document record ∨
        Matches semantics other.document record ↔
      (filter.or other).Meaning semantics unserialized record :=
    fun record => or_congr (sound.selects record) (otherSound.selects record)
  have selects : (∀ record, Matches semantics (filter.or other).document record ↔
          (filter.or other).Meaning semantics unserialized record) ↔
      OrAgrees semantics filter.document other.document := by
    simp only [← sides]
    exact wellBuilt.matches_or_iff_orAgrees
  refine ⟨fun soundOr => selects.mp soundOr.selects, fun agrees => ?_⟩
  refine ⟨selects.mpr agrees, ?_⟩
  refine
    ((wellBuilt.conditions_merge (by decide) fun items =>
      readField_or collecting items).map some).trans ?_
  rw [map_append]
  exact sound.complete.append otherSound.complete

/--
A filter, with every filter that it is made from, selects what is meant and has
every condition exactly when no call replaces a clause and the two sides of
every `or` agree.
-/
theorem sound_iff_calls_keep (semantics : Semantics Scalar Record)
    (unserialized : Condition Scalar → Record → Prop) (expression : Expression Scalar) :
    expression.Throughout (Sound semantics unserialized) ↔
      expression.Throughout (CallKeeps semantics) := by
  induction expression with
  | new =>
    refine ⟨fun _ => trivial, fun _ => ⟨fun record => ?_, ?_⟩⟩
    · exact ⟨fun _ => trivial, fun _ => matches_nil semantics record⟩
    · exact List.Perm.refl []
  | call filter condition ih =>
    constructor
    · rintro ⟨sounds, sound⟩
      exact ⟨ih.mp sounds, (sound_call_iff sounds.last).mp sound⟩
    · rintro ⟨keeps, keep⟩
      have sounds := ih.mpr keeps
      exact ⟨sounds, (sound_call_iff sounds.last).mpr keep⟩
  | and filter other ih otherHypothesis =>
    constructor
    · rintro ⟨sounds, otherSounds, -⟩
      exact ⟨ih.mp sounds, otherHypothesis.mp otherSounds, trivial⟩
    · rintro ⟨keeps, otherKeeps, -⟩
      have sounds := ih.mpr keeps
      have otherSounds := otherHypothesis.mpr otherKeeps
      exact ⟨sounds, otherSounds, sound_and sounds.last otherSounds.last (wellBuilt keeps)⟩
  | or filter other ih otherHypothesis =>
    constructor
    · rintro ⟨sounds, otherSounds, sound⟩
      have keeps := ih.mp sounds
      exact ⟨keeps, otherHypothesis.mp otherSounds,
        (sound_or_iff sounds.last otherSounds.last (wellBuilt keeps)).mp sound⟩
    · rintro ⟨keeps, otherKeeps, agrees⟩
      have sounds := ih.mpr keeps
      have otherSounds := otherHypothesis.mpr otherKeeps
      exact ⟨sounds, otherSounds,
        (sound_or_iff sounds.last otherSounds.last (wellBuilt keeps)).mpr agrees⟩

/-! ## Chains that are read otherwise -/

def integerFields : Semantics Int (List (String × Int)) where
  holds
    | .equals field (.scalar value), record => record.lookup field = some value
    | .operator field "$gt" (.scalar value), record =>
      ∃ held, record.lookup field = some held ∧ value < held
    | _, _ => False

/-- The second condition is on the field of the first. -/
def olderThenEqual : Expression Int :=
  .call (.call .new (.compare .gt "age" (some (.scalar 18)))) (.eq "age" (some (.scalar 5)))

def tenantOrRole : Expression Int :=
  .or (.call .new (.eq "tenant" (some (.scalar 1)))) (.call .new (.eq "role" (some (.scalar 2))))

def unserializedAge : Expression Int := .call .new (.eq "age" none)

theorem readField_scalar {key : String} (isField : isOperatorKey key = false) (value : Int)
    (record : List (String × Int)) :
    readField (matching integerFields record) key (.scalar value) ↔
      record.lookup key = some value := by
  rw [readField, isField]
  exact Iff.rfl

/--
A replaced condition and an unserialized value let in a record that the calls
exclude, and an alternative leaves out one that they admit.
-/
theorem replaced_and_conjoined_conditions_select_otherwise :
    (Matches integerFields olderThenEqual.document [("age", 5)] ∧
      ¬olderThenEqual.Meaning integerFields (fun _ _ => False) [("age", 5)]) ∧
      (¬Matches integerFields tenantOrRole.document [("tenant", 1)] ∧
      tenantOrRole.Meaning integerFields (fun _ _ => False) [("tenant", 1)]) ∧
      (Matches integerFields unserializedAge.document [("age", 5)] ∧
      ¬unserializedAge.Meaning integerFields (fun _ _ => False) [("age", 5)]) := by
  have replaced : olderThenEqual.document = [("age", Bson.scalar 5)] := rfl
  have conjoined :
      tenantOrRole.document = [("tenant", Bson.scalar 1),
          ("$or", .array [.document [("role", .scalar 2)]])] := rfl
  have dropped : unserializedAge.document = [] := rfl
  refine ⟨⟨?_, ?_⟩, ⟨?_, ?_⟩, ?_, ?_⟩
  · rw [replaced, matches_cons, readField_scalar (by decide)]
    exact ⟨rfl, matches_nil _ _⟩
  · rintro ⟨⟨-, held, isHeld, older⟩, -⟩
    obtain rfl := Option.some.inj isHeld
    exact absurd older (by decide)
  · rw [conjoined, matches_cons, matches_cons, readField_or, readFilters_single]
    rintro ⟨-, ⟨result, isResult, holds⟩, -⟩
    cases List.mem_singleton.mp isResult
    have isRole := (matches_cons.mp holds).1
    rw [readField_scalar (by decide)] at isRole
    cases isRole
  · exact .inl ⟨trivial, rfl⟩
  · rw [dropped]
    exact matches_nil _ _
  · rintro ⟨-, holds⟩
    exact holds

end Expression

end Rustasea.Mongo
