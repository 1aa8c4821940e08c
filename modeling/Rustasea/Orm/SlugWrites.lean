import Mathlib.Data.Nat.SuccPred
import Mathlib.Data.String.Basic
import Rustasea.Library.JoinedWords
import Rustasea.Library.DecimalText
import Rustasea.Library.BoundedScan
import Rustasea.Library.Fallible
import Rustasea.Library.SqlTable

/-!
# Slugs

The text that is derived from a row's source columns: transliterated, in lower
case, cut to a length, and numbered where it is taken.
-/

namespace Rustasea.Orm.Slugs

open JoinedWords (IsWord IsJoined)

/--
The transliteration.  Its texts are ASCII, so lower case below is that of ASCII
letters.
-/
structure Transliteration where
  deunicode : String → String
  ascii : ∀ text, ∀ character ∈ (deunicode text).toList, character.toNat < 128
  ofAscii : ∀ text, (∀ character ∈ text.toList, character.toNat < 128) → deunicode text = text

/-! ## The text of a slug -/

def isSlugLetter (character : Char) : Bool := character.isLower || character.isDigit

/-- The loop of `slugify`, with what it has written and what it holds back. -/
def slugifyLoop (separator : Char) (out : List Char) (pendingSeparator : Bool) :
    List Char → List Char
  | [] => out
  | character :: rest =>
    if character.isAlphanum then
      slugifyLoop separator
        ((if pendingSeparator && !out.isEmpty then
            out ++ [separator]
          else out) ++ [character])
        false rest
    else slugifyLoop separator out true rest

def slugify (transliteration : Transliteration) (text : String) (separator : Char) : List Char :=
  slugifyLoop separator [] false ((transliteration.deunicode text).toList.map Char.toLower)

/-- Per-model slug configuration. -/
structure SlugOptions where
  source : List String
  slugColumn : String
  separator : Char
  unique : Bool
  onUpdate : Bool
  maxLen : Nat
  deriving DecidableEq

namespace SlugOptions

def default : SlugOptions where
  source := []
  slugColumn := "slug"
  separator := '-'
  unique := true
  onUpdate := false
  maxLen := 255

def joinSources (options : SlugOptions) (values : List (String × String)) : String :=
  let parts :=
    if options.source.isEmpty then values.map Prod.snd
    else
      options.source.filterMap fun column =>
        (values.find? fun (name, _) => name = column).map Prod.snd
  String.ofList ([options.separator].intercalate (parts.map String.toList))

/-- Truncate a slug to the maximum length, trimming a trailing separator. -/
def truncate (options : SlugOptions) (slug : List Char) : List Char :=
  if options.maxLen = 0 ∨ slug.length ≤ options.maxLen then slug
  else (slug.take options.maxLen).rdropWhile (· = options.separator)

def generate (options : SlugOptions) (transliteration : Transliteration)
    (values : List (String × String)) : List Char :=
  options.truncate (slugify transliteration (options.joinSources values) options.separator)

end SlugOptions

def candidateFor (base : List Char) (attempt : Nat) (separator : Char) : List Char :=
  if attempt ≤ 1 then base
  else base ++ separator :: Nat.toDigits 10 attempt

/-! ## Words joined by separators -/

/-- Lower-case letters and digits in words that single separators join. -/
def IsSlug (separator : Char) (slug : List Char) : Prop :=
  IsJoined isSlugLetter separator slug

theorem isUpper_toLower (character : Char) : character.toLower.isUpper = false := by
  unfold Char.isUpper Char.toLower
  split
  · grind [Char.toNat_val]
  · next notUpper => exact decide_eq_false notUpper

theorem isSlugLetter_toLower {character : Char} (isKept : character.toLower.isAlphanum = true) :
    isSlugLetter character.toLower = true := by
  unfold Char.isAlphanum Char.isAlpha at isKept
  rwa [isUpper_toLower] at isKept

theorem isSlugLetter_digit {digit : Char} (isDigit : digit.isDigit = true) :
    isSlugLetter digit = true := by
  rw [isSlugLetter, isDigit, Bool.or_true]

theorem isSlug_slugifyLoop (separator : Char) {out : List Char}
    (isOut : out = [] ∨ IsSlug separator out) (pendingSeparator : Bool) {text : List Char}
    (isLowered : ∀ character ∈ text, character.isAlphanum = true → isSlugLetter character = true) :
    slugifyLoop separator out pendingSeparator text = [] ∨
    IsSlug separator (slugifyLoop separator out pendingSeparator text) := by
  induction text generalizing out pendingSeparator with
  | nil => exact isOut
  | cons character rest ih =>
    rw [List.forall_mem_cons] at isLowered
    unfold slugifyLoop
    split
    · next isKept =>
      have isLetter := isLowered.1 isKept
      refine ih (.inr ?_) _ isLowered.2
      rcases isOut with rfl | isSlug
      · rw [List.isEmpty_nil, Bool.not_true, Bool.and_false]
        exact .word (.singleton isLetter)
      · split
        · rw [List.append_assoc]
          exact isSlug.append (.word (.singleton isLetter))
        · exact isSlug.push isLetter
    · exact ih isOut _ isLowered.2

theorem isSlug_slugify (transliteration : Transliteration) (text : String) (separator : Char) :
    slugify transliteration text separator = [] ∨
    IsSlug separator (slugify transliteration text separator) := by
  apply isSlug_slugifyLoop separator (.inl rfl)
  intro character isIn isKept
  obtain ⟨source, -, rfl⟩ := List.mem_map.mp isIn
  exact isSlugLetter_toLower isKept

namespace SlugOptions

variable (options : SlugOptions)

theorem isSlug_generate (transliteration : Transliteration) (values : List (String × String)) :
    options.generate transliteration values = [] ∨
    IsSlug options.separator (options.generate transliteration values) := by
  have isWhole := isSlug_slugify transliteration (options.joinSources values) options.separator
  unfold generate truncate
  split
  · exact isWhole
  · rcases isWhole with isNil | isSlug
    · rw [isNil]
      exact .inl (by simp)
    · exact isSlug.of_trimmed_prefix (List.take_prefix _ _)

theorem length_generate_le (isLimited : options.maxLen ≠ 0) (transliteration : Transliteration)
    (values : List (String × String)) :
    (options.generate transliteration values).length ≤ options.maxLen := by
  unfold generate truncate
  split
  · next isShort => exact isShort.resolve_left isLimited
  · exact (List.rdropWhile_prefix _ _).length_le.trans (List.length_take_le _ _)

end SlugOptions

theorem isSlug_candidateFor {separator : Char} {base : List Char} (isBase : IsSlug separator base)
    (attempt : Nat) : IsSlug separator (candidateFor base attempt separator) := by
  unfold candidateFor
  split
  · exact isBase
  · refine isBase.append (.word ⟨Nat.toDigits_ne_nil, ?_⟩)
    exact fun digit isIn => isSlugLetter_digit (DecimalText.isDigit_of_mem_toDigits isIn)

/-!
## Slugs on the write path

Inserts and upserts derive a new slug and look for a free number over the rows
that the model's queries see; updates do so when a source column has changed,
leaving their own row out.
-/

/-- What the write path reads and writes of a model's rows. -/
structure SluggableModel (Row Key Id : Type) where
  sluggable : Bool
  slugOptions : SlugOptions
  primaryKeyValues : Row → Key
  primaryKey : Row → Id
  /-- The `id` column of the table, where it has one. -/
  id : Option (Row → Id)
  slug : Row → List Char
  setSlug : List Char → Row → Row
  slugSourceValues : Row → List (String × String)
  /-- The registered global scopes; the one on soft deletes is left out. -/
  inScope : Row → Bool
  /-- A stored row with the columns of an incoming one written over it. -/
  overwrite : Row → Row → Row
  slug_setSlug : ∀ text row, slug (setSlug text row) = text
  key_setSlug : ∀ text row, primaryKeyValues (setSlug text row) = primaryKeyValues row
  slug_overwrite : ∀ stored row, slug (overwrite stored row) = slug row
  key_overwrite : ∀ stored row, primaryKeyValues (overwrite stored row) = primaryKeyValues stored

/-- Why nothing was written. -/
inductive OrmError where
  | slug (message : String)
  | notFound
  | database
  deriving DecidableEq

/-- Upper bound on the deterministic uniqueness search. -/
def maxSlugAttempts : Nat := 1000

namespace SluggableModel

variable {Row Key Id : Type} [DecidableEq Key] [DecidableEq Id] (model : SluggableModel Row Key Id)
  (transliteration : Transliteration)

abbrev Table : Type := SqlTable fun row => some (model.primaryKeyValues row)

def generated (data : Row) : List Char :=
  model.slugOptions.generate transliteration (model.slugSourceValues data)

/-- Derive the base slug from the model's source values. -/
def baseSlug (data : Row) : Except OrmError (List Char) :=
  let base := model.generated transliteration data
  if base.isEmpty then
    .error (.slug
        ("slug source column " ++ "`" ++
          (model.slugOptions.source.head?.getD model.slugOptions.slugColumn) ++
          "` produced an empty slug"))
  else .ok base

/-- The rows that the search looks at, unless the column it names is missing. -/
def seen? (own : Option Id) : Option (Row → Bool) :=
  match own, model.id with
  | none, _ => some model.inScope
  | some own, some id => some fun row => model.inScope row && decide (id row ≠ own)
  | some _, none => none

def candidate (base : List Char) (attempt : Nat) : List Char :=
  candidateFor base attempt model.slugOptions.separator

def probe (sees : Row → Bool) (table : model.Table) (base : List Char)
    (attempt : Nat) : Option (List Char) :=
  if table.rows.any fun row =>
      sees row && decide (model.slug row = model.candidate base attempt) then
    none
  else some (model.candidate base attempt)

/-- Resolve a unique slug, suffixing `-2`, `-3`, … when a candidate is taken. -/
def uniqueSlug (table : model.Table) (base : List Char)
    (own : Option Id) : Except OrmError (List Char) :=
  if model.slugOptions.unique then
    match model.seen? own with
    | none => .error .database
    | some sees =>
      match BoundedScan.first (model.probe sees table base) (· + 1) maxSlugAttempts 1 with
      | some slug => .ok slug
      | none =>
        .error (.slug ("exhausted 1000 slug candidates for " ++ "`" ++ String.ofList base ++ "`"))
  else .ok base

def prepareInsert (table : model.Table) (data : Row) : Except OrmError Row :=
  if model.sluggable then do
    let base ← model.baseSlug transliteration data
    let slug ← model.uniqueSlug table base none
    return model.setSlug slug data
  else .ok data

/-- Generate and assign a slug before an update when the source changed. -/
def prepareUpdate (table : model.Table) (data : Row)
    (oldSourceValues : Option (List (String × String))) : Except OrmError Row :=
  if model.sluggable && model.slugOptions.onUpdate then
    if oldSourceValues = some (model.slugSourceValues data) then .ok data
    else do
      let base ← model.baseSlug transliteration data
      let slug ← model.uniqueSlug table base (some (model.primaryKey data))
      return model.setSlug slug data
  else .ok data

def hasKey (key : Key) (row : Row) : Bool := decide (model.primaryKeyValues row = key)

def refreshByKey (table : model.Table) (key : Key) : Option Row :=
  table.rows.find? fun row => model.inScope row && model.hasKey key row

def overwriteByKey (table : model.Table) (data : Row) : model.Table :=
  table.update (model.hasKey (model.primaryKeyValues data))
    (fun stored => model.overwrite stored data)
    fun stored => congrArg some (model.key_overwrite stored data)

def create (table : model.Table)
    (data : Row) : Except OrmError model.Table := do
  let data ← model.prepareInsert transliteration table data
  match table.insert? data with
  | some after => .ok after
  | none => .error .database

def save (table : model.Table)
    (data : Row) : Except OrmError model.Table := do
  let data ← model.prepareInsert transliteration table data
  match table.insert? data with
  | some after => .ok after
  | none => .ok (model.overwriteByKey table data)

def update (table : model.Table)
    (data : Row) : Except OrmError model.Table := do
  let slugOld :=
    if model.sluggable && model.slugOptions.onUpdate then
      (model.refreshByKey table (model.primaryKeyValues data)).map model.slugSourceValues
    else none
  let data ← model.prepareUpdate transliteration table data slugOld
  if table.affected (model.hasKey (model.primaryKeyValues data)) = 0 then .error .notFound
  else .ok (model.overwriteByKey table data)

end SluggableModel

/-- The writes that store a row. -/
inductive Write where
  | create
  | save
  | update

def SluggableModel.run {Row Key Id : Type} [DecidableEq Key] [DecidableEq Id]
    (model : SluggableModel Row Key Id) (transliteration : Transliteration) :
    Write → model.Table → Row → Except OrmError model.Table
  | .create => model.create transliteration
  | .save => model.save transliteration
  | .update => model.update transliteration

namespace SluggableModel

variable {Row Key Id : Type} {model : SluggableModel Row Key Id} {table : model.Table}

/-! ## The search -/

variable {sees : Row → Bool}

theorem probe_eq_some_iff {base text : List Char} {attempt : Nat} :
    model.probe sees table base attempt = some text ↔
      (∀ row ∈ table, sees row = true → model.slug row ≠ model.candidate base attempt) ∧
        text = model.candidate base attempt := by
  unfold probe
  split
  · next isTaken =>
    obtain ⟨row, isIn, isSame⟩ := List.any_eq_true.mp isTaken
    rw [Bool.and_eq_true, decide_eq_true_eq] at isSame
    exact iff_of_false nofun fun free => free.1 row isIn isSame.1 isSame.2
  · next notTaken =>
    rw [Option.some.injEq, eq_comm]
    refine (and_iff_right fun row isIn isSeen isSame => ?_).symm
    refine notTaken (List.any_eq_true.mpr ⟨row, isIn, ?_⟩)
    rw [isSeen, decide_eq_true isSame, Bool.and_self]

theorem probe_eq_none_iff {base : List Char} {attempt : Nat} :
    model.probe sees table base attempt = none ↔
      ∃ row ∈ table, sees row = true ∧ model.slug row = model.candidate base attempt := by
  simp [probe]

@[simp] theorem candidate_one (base : List Char) : model.candidate base 1 = base := by
  rw [candidate, candidateFor, if_pos le_rfl]

theorem baseSlug_eq_ok_iff {transliteration : Transliteration} {data : Row} {base : List Char} :
    model.baseSlug transliteration data = .ok base ↔
      model.generated transliteration data ≠ [] ∧ base = model.generated transliteration data := by
  unfold baseSlug
  dsimp only
  split
  · next isEmpty => exact iff_of_false nofun fun isBase => isBase.1 (List.isEmpty_iff.mp isEmpty)
  · next notEmpty =>
    rw [List.isEmpty_iff] at notEmpty
    rw [Except.ok.injEq, eq_comm, and_iff_right notEmpty]

section Search

variable [DecidableEq Id]

def Sees (model : SluggableModel Row Key Id) (own : Option Id) (row : Row) : Prop :=
  ∃ sees, model.seen? own = some sees ∧ sees row = true

/-- The least attempt whose candidate no row in sight has. -/
structure FirstFree
    (model : SluggableModel Row Key Id) (own : Option Id) (table : model.Table) (base : List Char)
    (attempt : Nat) : Prop where
  searches : (model.seen? own).isSome = true
  positive : 1 ≤ attempt
  within : attempt ≤ maxSlugAttempts
  free : ∀ row ∈ table, model.Sees own row → model.slug row ≠ model.candidate base attempt
  taken : ∀ earlier, 1 ≤ earlier → earlier < attempt →
        ∃ row ∈ table, model.Sees own row ∧ model.slug row = model.candidate base earlier

def Chosen (model : SluggableModel Row Key Id) (own : Option Id)
    (table : model.Table) (base : List Char) (attempt : Nat) : Prop :=
  if model.slugOptions.unique then model.FirstFree own table base attempt
  else attempt = 1

variable {own : Option Id} {sees : Row → Bool}

theorem sees_iff (isSeen : model.seen? own = some sees) {row : Row} :
    model.Sees own row ↔ sees row = true := by
  simp [Sees, isSeen]

theorem scan_eq_some_iff (isSeen : model.seen? own = some sees) {base slug : List Char} :
    BoundedScan.first (model.probe sees table base) (· + 1) maxSlugAttempts 1 = some slug ↔
      ∃ attempt, model.FirstFree own table base attempt ∧ slug = model.candidate base attempt := by
  have nth : ∀ index, (fun attempt => attempt + 1)^[index] 1 = index + 1 :=
    fun index => (Nat.succ_iterate 1 index).trans (Nat.add_comm 1 index)
  simp only [BoundedScan.first_eq_some_iff, nth, probe_eq_some_iff,
    probe_eq_none_iff, ← sees_iff isSeen]
  constructor
  · rintro ⟨index, within, ⟨free, isText⟩, taken⟩
    refine ⟨index + 1, ⟨?_, Nat.succ_pos index, within, free, ?_⟩, isText⟩
    · rw [isSeen, Option.isSome_some]
    · intro earlier positive isEarlier
      obtain ⟨before, rfl⟩ := Nat.exists_eq_add_of_le' positive
      exact taken before (Nat.lt_of_succ_lt_succ isEarlier)
  · rintro ⟨attempt, first, isText⟩
    obtain ⟨index, rfl⟩ := Nat.exists_eq_add_of_le' first.positive
    refine ⟨index, first.within, ⟨first.free, isText⟩, ?_⟩
    intro before isBefore
    exact first.taken (before + 1) (Nat.succ_pos before) (Nat.succ_lt_succ isBefore)

theorem uniqueSlug_eq_ok_iff {base slug : List Char} {own : Option Id} :
    model.uniqueSlug table base own = .ok slug ↔
      ∃ attempt, model.Chosen own table base attempt ∧ slug = model.candidate base attempt := by
  unfold uniqueSlug Chosen
  split
  · cases isSeen : model.seen? own with
    | none =>
      refine iff_of_false nofun ?_
      rintro ⟨attempt, first, -⟩
      exact absurd first.searches (by simp [isSeen])
    | some sees =>
      rw [← scan_eq_some_iff isSeen]
      dsimp only
      cases BoundedScan.first (model.probe sees table base) (· + 1) maxSlugAttempts 1 with
      | none => exact iff_of_false nofun nofun
      | some found => rw [Except.ok.injEq, Option.some.injEq]
  · simp [eq_comm]

end Search

/-! ## What is stored -/

section Stored

variable [DecidableEq Key] {after : model.Table} {data : Row}

/-- The row with the key of the incoming one has the slug; the others stay. -/
structure Stored (model : SluggableModel Row Key Id) (table after : model.Table) (key : Key)
    (slug : List Char) : Prop where
  isThere : ∃ row ∈ after, model.primaryKeyValues row = key
  slugOf : ∀ row ∈ after, model.primaryKeyValues row = key → model.slug row = slug
  others : ∀ row, model.primaryKeyValues row ≠ key → (row ∈ after ↔ row ∈ table)

theorem hasKey_iff {key : Key} {row : Row} :
    model.hasKey key row = true ↔ model.primaryKeyValues row = key :=
  decide_eq_true_iff

theorem stored_of_insert (isInserted : table.insert? data = some after) :
    model.Stored table after (model.primaryKeyValues data) (model.slug data) := by
  have isIn : data ∈ after := (SqlTable.mem_of_insert? isInserted).mpr (.inr rfl)
  refine ⟨⟨data, isIn, rfl⟩, ?_, ?_⟩
  · intro row isRow sameKey
    rw [SqlTable.eq_of_key isRow isIn (congrArg some sameKey) rfl]
  · intro row otherKey
    rw [SqlTable.mem_of_insert? isInserted, or_iff_left]
    rintro rfl
    exact otherKey rfl

theorem stored_of_overwrite
    (isThere : ∃ row ∈ table, model.primaryKeyValues row = model.primaryKeyValues data) :
    model.Stored table (model.overwriteByKey table data)
      (model.primaryKeyValues data) (model.slug data) := by
  refine ⟨?_, ?_, ?_⟩
  · obtain ⟨row, isIn, sameKey⟩ := isThere
    refine ⟨model.overwrite row data, ?_, ?_⟩
    · exact SqlTable.mem_update.mpr (.inr ⟨row, isIn, hasKey_iff.mpr sameKey, rfl⟩)
    · rw [model.key_overwrite, sameKey]
  · intro row isRow sameKey
    rcases SqlTable.mem_update.mp isRow with ⟨-, otherKey⟩ | ⟨before, -, -, rfl⟩
    · exact absurd (hasKey_iff.mpr sameKey) otherKey
    · exact model.slug_overwrite before data
  · intro row otherKey
    rw [overwriteByKey, SqlTable.mem_update, hasKey_iff, and_iff_left otherKey, or_iff_left]
    rintro ⟨before, -, isKey, rfl⟩
    rw [model.key_overwrite] at otherKey
    exact otherKey (hasKey_iff.mp isKey)

end Stored

/-! ## Writes -/

section Writes

variable [DecidableEq Id] {transliteration : Transliteration} {after : model.Table} {data : Row}

/-- Where a write takes the slug from. -/
inductive SlugOrigin (Id : Type) where
  | derived (own : Option Id)
  | given

def OfOrigin (model : SluggableModel Row Key Id) (transliteration : Transliteration)
    (table : model.Table) (data : Row) (slug : List Char) : SlugOrigin Id → Prop
  | .derived own =>
    model.generated transliteration data ≠ [] ∧ ∃ attempt,
        model.Chosen own table (model.generated transliteration data) attempt ∧
          slug = model.candidate (model.generated transliteration data) attempt
  | .given => slug = model.slug data

variable {prepared : Row}

theorem exists_derived {own : Option Id}
    (isOk :
      (do
        let base ← model.baseSlug transliteration data
        let slug ← model.uniqueSlug table base own
        return model.setSlug slug data) = Except.ok prepared) :
    model.OfOrigin transliteration table data (model.slug prepared) (.derived own) ∧
      model.primaryKeyValues prepared = model.primaryKeyValues data := by
  obtain ⟨base, isBase, isOk⟩ := Fallible.bind_eq_ok.mp isOk
  obtain ⟨slug, isSlug, isOk⟩ := Fallible.bind_eq_ok.mp isOk
  obtain ⟨notEmpty, rfl⟩ := baseSlug_eq_ok_iff.mp isBase
  obtain ⟨attempt, isChosen, rfl⟩ := uniqueSlug_eq_ok_iff.mp isSlug
  cases isOk
  rw [model.slug_setSlug, model.key_setSlug]
  exact ⟨⟨notEmpty, attempt, isChosen, rfl⟩, rfl⟩

variable [DecidableEq Key]

/-- Inserts and upserts derive a slug; updates do when the source has changed. -/
def origin (model : SluggableModel Row Key Id) (table : model.Table) (data : Row) :
    Write → SlugOrigin Id
  | .create => .derived none
  | .save => .derived none
  | .update =>
    if model.slugOptions.onUpdate ∧ (model.refreshByKey table (model.primaryKeyValues data)).map
            model.slugSourceValues ≠
          some (model.slugSourceValues data) then
      .derived (some (model.primaryKey data))
    else .given

theorem prepareUpdate_spec (isSluggable : model.sluggable = true)
    (isPrepared : model.prepareUpdate transliteration table data
        (if model.sluggable && model.slugOptions.onUpdate then
          (model.refreshByKey table (model.primaryKeyValues data)).map model.slugSourceValues
        else none) = .ok prepared) :
    model.OfOrigin transliteration table data (model.slug prepared)
        (model.origin table data .update) ∧
      model.primaryKeyValues prepared = model.primaryKeyValues data := by
  unfold prepareUpdate at isPrepared
  rw [isSluggable, Bool.true_and] at isPrepared
  by_cases onUpdate : model.slugOptions.onUpdate = true
  · rw [if_pos onUpdate, if_pos onUpdate] at isPrepared
    split at isPrepared
    · next isSame =>
      cases isPrepared
      rw [origin, if_neg fun changed => changed.2 isSame]
      exact ⟨rfl, rfl⟩
    · next isChanged =>
      rw [origin, if_pos ⟨onUpdate, isChanged⟩]
      exact exists_derived isPrepared
  · rw [if_neg onUpdate] at isPrepared
    cases isPrepared
    rw [origin, if_neg fun changed => onUpdate changed.1]
    exact ⟨rfl, rfl⟩

/-- What a write that ends has stored, and where the slug is from. -/
theorem run_spec (isSluggable : model.sluggable = true) {write : Write}
    (isOk : model.run transliteration write table data = .ok after) :
    ∃ slug, model.OfOrigin transliteration table data slug (model.origin table data write) ∧
      model.Stored table after (model.primaryKeyValues data) slug := by
  cases write with
  | create =>
    obtain ⟨prepared, isPrepared, isOk⟩ := Fallible.bind_eq_ok.mp isOk
    rw [prepareInsert, if_pos isSluggable] at isPrepared
    obtain ⟨isDerived, sameKey⟩ := exists_derived isPrepared
    refine ⟨model.slug prepared, isDerived, ?_⟩
    split at isOk
    · next inserted isInserted =>
      cases isOk
      exact sameKey ▸ stored_of_insert isInserted
    · cases isOk
  | save =>
    obtain ⟨prepared, isPrepared, isOk⟩ := Fallible.bind_eq_ok.mp isOk
    rw [prepareInsert, if_pos isSluggable] at isPrepared
    obtain ⟨isDerived, sameKey⟩ := exists_derived isPrepared
    refine ⟨model.slug prepared, isDerived, ?_⟩
    split at isOk
    · next inserted isInserted =>
      cases isOk
      exact sameKey ▸ stored_of_insert isInserted
    · next isRefused =>
      cases isOk
      obtain ⟨row, isIn, key, preparedKey, rowKey⟩ :=
        SqlTable.exists_key_of_insert?_eq_none isRefused
      have isThere := stored_of_overwrite
          ⟨row, isIn, Option.some.inj (rowKey.trans preparedKey.symm)⟩
      exact sameKey ▸ isThere
  | update =>
    obtain ⟨prepared, isPrepared, isOk⟩ := Fallible.bind_eq_ok.mp isOk
    split at isOk
    · cases isOk
    · next isAffected =>
      cases isOk
      obtain ⟨row, isIn, isKey⟩ := SqlTable.affected_pos.mp (Nat.pos_of_ne_zero isAffected)
      have isStored := stored_of_overwrite ⟨row, isIn, hasKey_iff.mp isKey⟩
      obtain ⟨isOf, sameKey⟩ := prepareUpdate_spec isSluggable isPrepared
      exact ⟨model.slug prepared, isOf, sameKey ▸ isStored⟩

end Writes

end SluggableModel

end Rustasea.Orm.Slugs
