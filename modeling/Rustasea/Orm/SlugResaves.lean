import Rustasea.Orm.SlugUniqueness

/-!
# Slugs of rows that are saved again

An upsert looks for a free number without leaving its own row out, so a stored
slug that the search sees is never kept.  Updates keep it.
-/

namespace Rustasea.Orm.Slugs

namespace SluggableModel

variable {Row Key Id : Type} {model : SluggableModel Row Key Id} {transliteration : Transliteration}
  {table after : model.Table} {row data : Row}

def SlugUnchanged (model : SluggableModel Row Key Id) (after : model.Table) (row : Row) : Prop :=
  ∀ stored ∈ after,
    model.primaryKeyValues stored = model.primaryKeyValues row → model.slug stored = model.slug row

theorem slugUnchanged_iff {slug : List Char}
    (isStored : model.Stored table after (model.primaryKeyValues row) slug) :
    model.SlugUnchanged after row ↔ slug = model.slug row := by
  obtain ⟨stored, isIn, isKey⟩ := isStored.isThere
  constructor
  · intro unchanged
    rw [← isStored.slugOf stored isIn isKey, unchanged stored isIn isKey]
  · intro same other isOther otherKey
    rw [isStored.slugOf other isOther otherKey, same]

section Keys

variable [DecidableEq Key]

theorem eq_of_inScope_hasKey (isStored : row ∈ table) {other : Row} (isIn : other ∈ table)
    (isFound : (model.inScope other && model.hasKey (model.primaryKeyValues row) other) = true) :
    other = row ∧ model.inScope row = true := by
  rw [Bool.and_eq_true, hasKey_iff] at isFound
  obtain rfl := SqlTable.eq_of_key isIn isStored (congrArg some isFound.2) rfl
  exact ⟨rfl, isFound.1⟩

theorem refreshByKey_of_mem (isStored : row ∈ table) :
    model.refreshByKey table (model.primaryKeyValues row) =
      if model.inScope row then some row else none := by
  cases isRead : model.refreshByKey table (model.primaryKeyValues row) with
  | none =>
    have notFound := List.find?_eq_none.mp isRead row isStored
    rw [if_neg]
    intro inScope
    apply notFound
    rw [inScope, Bool.true_and, hasKey_iff]
  | some found =>
    have isIn : found ∈ table := List.mem_of_find?_eq_some isRead
    have isFound := List.find?_some isRead
    obtain ⟨rfl, inScope⟩ := eq_of_inScope_hasKey isStored isIn isFound
    rw [if_pos inScope]

theorem origin_update_of_mem (isStored : row ∈ table)
    (sameKey : model.primaryKeyValues data = model.primaryKeyValues row)
    (sameSource : model.slugSourceValues data = model.slugSourceValues row) :
    model.origin table data .update =
      if model.slugOptions.onUpdate = false ∨ model.inScope row = true then .given
      else .derived (some (model.primaryKey data)) := by
  rw [origin, sameKey, refreshByKey_of_mem isStored, sameSource]
  cases model.slugOptions.onUpdate <;> cases model.inScope row <;> simp

end Keys

section Search

variable [DecidableEq Id]

theorem derived_eq_stored_iff {own : Option Id} {slug : List Char} (isStored : row ∈ table)
    (isDerived : model.OfOrigin transliteration table data slug (.derived own)) :
    slug = model.slug row ↔
      (model.slugOptions.unique = false ∧ model.generated transliteration data = model.slug row) ∨
        (model.slugOptions.unique = true ∧ ¬ model.Sees own row ∧
          ∃ attempt, model.FirstFree own table (model.generated transliteration data) attempt ∧
            model.candidate (model.generated transliteration data) attempt = model.slug row) := by
  obtain ⟨-, attempt, isChosen, rfl⟩ := isDerived
  cases isUnique : model.slugOptions.unique with
  | false =>
    have isBase : attempt = 1 := by simpa [Chosen, isUnique] using isChosen
    rw [isBase]
    simp
  | true =>
    have isFirst : model.FirstFree own table (model.generated transliteration data)
        attempt := by
      simpa [Chosen, isUnique] using isChosen
    constructor
    · intro same
      refine .inr ⟨rfl, ?_, attempt, isFirst, same⟩
      exact fun isSeen => isFirst.free row isStored isSeen same.symm
    · rintro (⟨⟨⟩, -⟩ | ⟨-, -, other, isOther, same⟩)
      have isOtherChosen : model.Chosen own table (model.generated transliteration data)
          other := by
        simpa [Chosen, isUnique] using isOther
      rw [isChosen.unique isOtherChosen, same]

theorem not_sees_none_iff : ¬ model.Sees none row ↔ model.inScope row = false := by
  rw [sees_iff rfl, Bool.not_eq_true]

theorem not_sees_of_hidden (isHidden : model.inScope row = false) (own : Option Id) :
    ¬ model.Sees own row := by
  rintro ⟨sees, isSeen, isIn⟩
  unfold seen? at isSeen
  split at isSeen
  · cases isSeen
    rw [isHidden] at isIn
    cases isIn
  · cases isSeen
    rw [Bool.and_eq_true, isHidden] at isIn
    exact Bool.noConfusion isIn.1
  · cases isSeen

variable [DecidableEq Key]

def ownOf (model : SluggableModel Row Key Id) (data : Row) : Write → Option Id
  | .create => none
  | .save => none
  | .update => some (model.primaryKey data)

/--
A stored row that is saved again from the same source keeps its slug exactly when
it is an update that may read the row again, or when the derived slug is its own:
the base slug of a model without unique slugs, or the first free candidate for a
row that a global scope hides from the search.
-/
theorem slugUnchanged_run_iff (model : SluggableModel Row Key Id)
    (transliteration : Transliteration) (isSluggable : model.sluggable = true) (write : Write)
    (table after : model.Table) (row data : Row) (isStored : row ∈ table)
    (sameKey : model.primaryKeyValues data = model.primaryKeyValues row)
    (sameSource : model.slugSourceValues data = model.slugSourceValues row)
    (sameSlug : model.slug data = model.slug row)
    (isOk : model.run transliteration write table data = .ok after) :
    model.SlugUnchanged after row ↔
      (write = .update ∧ (model.slugOptions.onUpdate = false ∨ model.inScope row = true)) ∨
      (model.slugOptions.unique = false ∧ model.generated transliteration data = model.slug row) ∨
      (model.slugOptions.unique = true ∧ model.inScope row = false ∧
        ∃ attempt,
          model.FirstFree (model.ownOf data write) table (model.generated transliteration data)
            attempt ∧
          model.candidate (model.generated transliteration data) attempt = model.slug row) := by
  obtain ⟨slug, isOf, stored⟩ := run_spec isSluggable isOk
  rw [sameKey] at stored
  rw [slugUnchanged_iff stored]
  cases write with
  | create | save =>
    rw [or_iff_right (fun isUpdate => nomatch isUpdate.1), ← not_sees_none_iff]
    exact derived_eq_stored_iff isStored isOf
  | update =>
    rw [origin_update_of_mem isStored sameKey sameSource] at isOf
    split at isOf
    · next isKept => exact iff_of_true (Eq.trans isOf sameSlug) (.inl ⟨rfl, isKept⟩)
    · next notKept =>
      have isHidden := Bool.eq_false_of_not_eq_true (not_or.mp notKept).2
      have notSeen : ¬ model.Sees (some (model.primaryKey data)) row ↔ model.inScope row = false :=
        iff_of_true (not_sees_of_hidden isHidden _) isHidden
      rw [or_iff_right fun isUpdate => notKept isUpdate.2, ← notSeen]
      exact derived_eq_stored_iff isStored isOf

end Search

end SluggableModel

def resavedPosts (slug : String) : (posts 255).Table where
  rows := [⟨1, "Hello", slug.toList⟩]
  primaryKey := (helloPosts 255).primaryKey

theorem slugUnchanged_run_iff_hello :
    (posts 255).SlugUnchanged (helloPosts 255) ⟨1, "Hello", "hello".toList⟩ := by
  have isStored : ⟨1, "Hello", "hello".toList⟩ ∈ helloPosts 255 := List.mem_singleton_self _
  exact ((posts 255).slugUnchanged_run_iff asciiOnly rfl .update (helloPosts 255)
    (helloPosts 255) _ _ isStored rfl rfl rfl rfl).mpr (.inl ⟨rfl, .inl rfl⟩)

/-- Saving the stored post again gives it a number. -/
theorem save_hello_changes_slug :
    (posts 255).run asciiOnly .save (helloPosts 255) ⟨1, "Hello", "hello".toList⟩ =
        .ok (resavedPosts "hello-2") ∧
    ¬ (posts 255).SlugUnchanged (resavedPosts "hello-2") ⟨1, "Hello", "hello".toList⟩ := by
  refine ⟨rfl, fun unchanged => ?_⟩
  have same := unchanged _ (List.mem_singleton_self _) rfl
  exact absurd same (by decide)

end Rustasea.Orm.Slugs
