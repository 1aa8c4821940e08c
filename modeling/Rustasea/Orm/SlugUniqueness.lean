import Rustasea.Orm.SlugWrites

/-!
# What holds of a stored slug

A stored slug is made of words and single separators.  It is nobody else's and
within the limit exactly under conditions on the number that it ends in.
-/

namespace Rustasea.Orm.Slugs

namespace SluggableModel

variable {Row Key Id : Type} {model : SluggableModel Row Key Id} {transliteration : Transliteration}
  {table after : model.Table} {data : Row}

/-- A slug that is nobody else's, within the limit and made of words. -/
structure Fitting (model : SluggableModel Row Key Id) (table : model.Table) (key : Key)
    (slug : List Char) : Prop where
  unused : ∀ other ∈ table, model.primaryKeyValues other ≠ key → model.slug other ≠ slug
  short : slug.length ≤ model.slugOptions.maxLen
  isSlug : IsSlug model.slugOptions.separator slug

def SlugKept (model : SluggableModel Row Key Id) (after : model.Table) (key : Key) : Prop :=
  ∀ row ∈ after, model.primaryKeyValues row = key → model.Fitting after key (model.slug row)

theorem slugKept_iff_fitting {key : Key} {slug : List Char}
    (isStored : model.Stored table after key slug) :
    model.SlugKept after key ↔ model.Fitting table key slug := by
  obtain ⟨row, isIn, isKey⟩ := isStored.isThere
  constructor
  · intro kept
    have fitting := kept row isIn isKey
    rw [isStored.slugOf row isIn isKey] at fitting
    refine ⟨?_, fitting.short, fitting.isSlug⟩
    intro other isOther otherKey
    exact fitting.unused other ((isStored.others other otherKey).mpr isOther) otherKey
  · intro fitting row isRow sameKey
    rw [isStored.slugOf row isRow sameKey]
    refine ⟨?_, fitting.short, fitting.isSlug⟩
    intro other isOther otherKey
    exact fitting.unused other ((isStored.others other otherKey).mp isOther) otherKey

/-! ## Numbers -/

variable {attempt : Nat}

theorem length_candidate (base : List Char) (isNumbered : 1 < attempt) :
    (model.candidate base attempt).length = base.length + 1 + (Nat.toDigits 10 attempt).length := by
  rw [candidate, candidateFor, if_neg isNumbered.not_ge, List.length_append, List.length_cons]
  omega

theorem length_candidate_le_iff (positive : 1 ≤ attempt)
    (notEmpty : model.generated transliteration data ≠ []) :
    (model.candidate (model.generated transliteration data) attempt).length ≤
        model.slugOptions.maxLen ↔
      model.slugOptions.maxLen ≠ 0 ∧
        (attempt = 1 ∨
          (model.generated transliteration data).length + 1 + (Nat.toDigits 10 attempt).length ≤
            model.slugOptions.maxLen) := by
  have isFull := List.length_pos_iff.mpr notEmpty
  rcases positive.eq_or_lt with rfl | isNumbered
  · constructor
    · intro isShort
      exact ⟨(isFull.trans_le isShort).ne', .inl rfl⟩
    · rintro ⟨isLimited, -⟩
      exact SlugOptions.length_generate_le _ isLimited _ _
  · rw [length_candidate _ isNumbered, or_iff_right isNumbered.ne']
    omega

theorem isSlug_candidate (notEmpty : model.generated transliteration data ≠ []) (attempt : Nat) :
    IsSlug model.slugOptions.separator
      (model.candidate (model.generated transliteration data) attempt) :=
  isSlug_candidateFor ((model.slugOptions.isSlug_generate transliteration _).resolve_left notEmpty)
    attempt

section Search

variable [DecidableEq Id] {own : Option Id} {base : List Char}

theorem Chosen.positive {attempt : Nat} (isChosen : model.Chosen own table base attempt) :
    1 ≤ attempt := by
  unfold Chosen at isChosen
  split at isChosen
  · exact isChosen.positive
  · exact isChosen.ge

variable {attempt other : Nat}

theorem FirstFree.not_lt (first : model.FirstFree own table base attempt)
    (second : model.FirstFree own table base other) : ¬ attempt < other := by
  intro isEarlier
  obtain ⟨row, isIn, isSeen, isTaken⟩ := second.taken attempt first.positive isEarlier
  exact first.free row isIn isSeen isTaken

theorem Chosen.unique (isChosen : model.Chosen own table base attempt)
    (isOther : model.Chosen own table base other) : attempt = other := by
  by_cases isUnique : model.slugOptions.unique = true
  · rw [Chosen, if_pos isUnique] at isChosen isOther
    exact Nat.le_antisymm (Nat.le_of_not_lt (isOther.not_lt isChosen))
      (Nat.le_of_not_lt (isChosen.not_lt isOther))
  · rw [Chosen, if_neg isUnique] at isChosen isOther
    exact isChosen.trans isOther.symm

/--
The chosen number leaves the slug within the limit, and no row that the search
has not looked at has it.
-/
def Fits (model : SluggableModel Row Key Id) (transliteration : Transliteration)
    (own : Option Id) (table : model.Table) (data : Row) : Prop :=
  let base := model.generated transliteration data
  ∃ attempt, model.Chosen own table base attempt ∧ model.slugOptions.maxLen ≠ 0 ∧ (attempt = 1 ∨
        base.length + 1 + (Nat.toDigits 10 attempt).length ≤ model.slugOptions.maxLen) ∧
      ∀ other ∈ table, model.primaryKeyValues other ≠ model.primaryKeyValues data →
          ¬ (model.slugOptions.unique = true ∧ model.Sees own other) →
            model.slug other ≠ model.candidate base attempt

theorem fitting_iff_fits {slug : List Char}
    (isDerived : model.OfOrigin transliteration table data slug (.derived own)) :
    model.Fitting table (model.primaryKeyValues data) slug ↔
      model.Fits transliteration own table data := by
  obtain ⟨notEmpty, attempt, isChosen, rfl⟩ := isDerived
  constructor
  · intro fitting
    have isShort := (length_candidate_le_iff isChosen.positive notEmpty).mp fitting.short
    exact ⟨attempt, isChosen, isShort.1, isShort.2,
      fun other isIn otherKey _ => fitting.unused other isIn otherKey⟩
  · rintro ⟨other, isOther, isLimited, isShort, unseen⟩
    obtain rfl := isChosen.unique isOther
    refine ⟨?_, ?_, isSlug_candidate notEmpty attempt⟩
    · intro row isIn otherKey
      by_cases isSeen : model.slugOptions.unique = true ∧ model.Sees own row
      · rw [Chosen, if_pos isSeen.1] at isChosen
        exact isChosen.free row isIn isSeen.2
      · exact unseen row isIn otherKey isSeen
    · exact (length_candidate_le_iff isChosen.positive notEmpty).mpr ⟨isLimited, isShort⟩

/--
The slug that a write stores is fitting exactly when the number that it ends in
leaves it within the limit and no row out of sight has it.  An update that derives
no slug stores the one that it is given.
-/
theorem slugKept_iff [DecidableEq Key] (model : SluggableModel Row Key Id)
    (transliteration : Transliteration) (isSluggable : model.sluggable = true)
    (write : Write) (table after : model.Table) (data : Row)
    (isOk : model.run transliteration write table data = .ok after) :
    model.SlugKept after (model.primaryKeyValues data) ↔
      match model.origin table data write with
      | .derived own => model.Fits transliteration own table data
      | .given =>
        model.Fitting table (model.primaryKeyValues data) (model.slug data) := by
  obtain ⟨slug, isOf, isStored⟩ := run_spec isSluggable isOk
  rw [slugKept_iff_fitting isStored]
  cases isOrigin : model.origin table data write with
  | derived own =>
    rw [isOrigin] at isOf
    exact fitting_iff_fits isOf
  | given =>
    rw [isOrigin] at isOf
    rw [show slug = model.slug data from isOf]

end Search

end SluggableModel

/-! ## Posts -/

def asciiOnly : Transliteration where
  deunicode text := String.ofList (text.toList.filter fun character => character.toNat < 128)
  ascii := by
    intro text character isIn
    rw [String.toList_ofList, List.mem_filter, decide_eq_true_eq] at isIn
    exact isIn.2
  ofAscii := by
    intro text isAscii
    rw [List.filter_eq_self.mpr, String.ofList_toList]
    exact fun character isIn => decide_eq_true (isAscii character isIn)

/-- A post and the slug of its name. -/
structure Post where
  id : Nat
  name : String
  slug : List Char
  deriving DecidableEq

def posts (maxLen : Nat) : SluggableModel Post Nat Nat where
  sluggable := true
  slugOptions :=
    { SlugOptions.default with source := ["name"], maxLen := maxLen }
  primaryKeyValues := Post.id
  primaryKey := Post.id
  id := some Post.id
  slug := Post.slug
  setSlug text post := { post with slug := text }
  slugSourceValues post := [("name", post.name)]
  inScope _ := true
  overwrite stored post := { post with id := stored.id }
  slug_setSlug _ _ := rfl
  key_setSlug _ _ := rfl
  slug_overwrite _ _ := rfl
  key_overwrite _ _ := rfl

def helloPosts (maxLen : Nat) : (posts maxLen).Table where
  rows := [⟨1, "Hello", "hello".toList⟩]
  primaryKey := List.nodup_singleton 1

def nextHello : Post where
  id := 2
  name := "Hello"
  slug := []

def nextHelloPosts (maxLen : Nat) : (posts maxLen).Table where
  rows := [⟨1, "Hello", "hello".toList⟩, ⟨2, "Hello", "hello-2".toList⟩]
  primaryKey := (by decide : [1, 2].Nodup)

theorem slugKept_iff_nextHello : (posts 255).SlugKept (nextHelloPosts 255) 2 := by
  refine ((posts 255).slugKept_iff asciiOnly rfl .create (helloPosts 255)
    (nextHelloPosts 255) nextHello rfl).mpr ⟨2, ?_, by decide, .inr (by decide), ?_⟩
  · have isUnique : (posts 255).slugOptions.unique = true := rfl
    refine ⟨rfl, by decide, by decide, ?_, ?_⟩
    · rintro row isIn -
      obtain rfl := List.mem_singleton.mp isIn
      decide
    · intro earlier positive isEarlier
      obtain rfl : earlier = 1 := by omega
      exact ⟨_, List.mem_singleton_self _, ⟨_, rfl, rfl⟩, rfl⟩
  · intro other isIn _ unseen
    exact absurd ⟨rfl, _, rfl, rfl⟩ unseen

/-- The next slug is longer than the limit that the first one is within. -/
theorem nextHello_too_long :
    (posts 5).run asciiOnly .create (helloPosts 5) nextHello = .ok (nextHelloPosts 5) ∧
    ¬ (posts 5).SlugKept (nextHelloPosts 5) 2 := by
  refine ⟨rfl, fun kept => ?_⟩
  have fitting := kept ⟨2, "Hello", "hello-2".toList⟩ (by decide) rfl
  exact absurd fitting.short (by decide)

end Rustasea.Orm.Slugs
