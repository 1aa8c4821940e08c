import Rustasea.Orm.JsonPaths
import Rustasea.Orm.SlugWrites

namespace Rustasea.Orm

open Slugs (isUpper_toLower)

/-!
# Table names and foreign keys

The table of a model is its name in snake case, in the plural.  One end of a
relation derives the foreign key from the name, the other one from the table.
-/

/-- A CamelCase identifier of ASCII letters and digits. -/
structure TypeName where
  first : Char
  rest : List Char
  first_upper : first.isUpper = true
  rest_alphanumeric : ∀ c ∈ rest, c.isAlphanum = true

def TypeName.chars (name : TypeName) : List Char := name.first :: name.rest

/-- The loop of `to_snake_case` on the character at an index. -/
def snakeStep (out : List Char) (entry : Char × Nat) : List Char :=
  if entry.1.isUpper then
    (if 0 < entry.2 ∧ out.getLast? ≠ some '_' then out ++ ['_'] else out) ++ [entry.1.toLower]
  else out ++ [entry.1]

/-- `to_snake_case`, on ASCII text. -/
def toSnakeCase (input : List Char) : List Char := input.zipIdx.foldl snakeStep []

/-- `plural_suffix`, which looks at the last characters. -/
def pluralSuffix (singular : List Char) : List Char :=
  match (singular.map Char.toLower).reverse with
  | 's' :: _ | 'x' :: _ | 'z' :: _ | 'h' :: 'c' :: _ | 'h' :: 's' :: _ => ['e', 's']
  | 'y' :: c :: _ => if c ∈ ['a', 'e', 'i', 'o', 'u'] then ['s'] else ['i', 'e', 's']
  | _ => ['s']

/-- The word with its suffix; `ies` takes the place of the last character. -/
def pluralize (singular : List Char) : List Char :=
  let suffix := pluralSuffix singular
  if suffix = ['i', 'e', 's'] then singular.dropLast ++ suffix else singular ++ suffix

def snakePlural (typeName : List Char) : List Char := pluralize (toSnakeCase typeName)

/-- `singular_from_plural`, which strips the first of three suffixes that is there. -/
def singularFromPlural (tableName : List Char) : List Char :=
  match tableName.reverse with
  | 's' :: 'e' :: 'i' :: stem => stem.reverse ++ ['y']
  | 's' :: 'e' :: stem => stem.reverse
  | 's' :: stem => stem.reverse
  | _ => tableName

def Relation.hasMany (name relatedTable : String) (localModel : List Char) : Relation where
  name := name
  relatedTable := relatedTable
  foreignKey := String.ofList (toSnakeCase localModel) ++ "_id"
  localKey := "id"
  kind := .hasMany
  pivotTable := none
  relatedKey := none
  foreignKeys := none
  localKeys := none
  json := none

def Relation.belongsTo (name : String) (parentTable : List Char) : Relation where
  name := name
  relatedTable := String.ofList parentTable
  foreignKey := String.ofList (singularFromPlural parentTable) ++ "_id"
  localKey := "id"
  kind := .belongsTo
  pivotTable := none
  relatedKey := none
  foreignKeys := none
  localKeys := none
  json := none

theorem toLower_of_not_isUpper {c : Char} (lower : c.isUpper = false) : c.toLower = c := by
  unfold Char.isUpper at lower
  unfold Char.toLower
  rw [dif_neg]
  simpa using lower

def IsLower (word : List Char) : Prop := ∀ c ∈ word, c.toLower = c

theorem snakeStep_eq (out : List Char) (ch : Char) (i : Nat) :
    ∃ stem, snakeStep out (ch, i) = stem ++ [ch.toLower] ∧ (IsLower out → IsLower stem) := by
  rw [snakeStep]
  by_cases upper : ch.isUpper = true
  · rw [if_pos upper]
    refine ⟨_, rfl, fun lower => ?_⟩
    split
    · exact List.forall_mem_append.mpr ⟨lower, by simp⟩
    · exact lower
  · rw [if_neg upper]
    exact ⟨out, by rw [toLower_of_not_isUpper (by simpa using upper)], id⟩

theorem toSnakeCase_concat (input : List Char) (ch : Char) :
    toSnakeCase (input ++ [ch]) = snakeStep (toSnakeCase input) (ch, input.length) := by
  simp [toSnakeCase, List.zipIdx_append]

theorem toSnakeCase_lower (input : List Char) : IsLower (toSnakeCase input) := by
  induction input using List.reverseRecOn with
  | nil => exact fun _ mem => nomatch mem
  | append_singleton input ch ih =>
      obtain ⟨stem, same, lower⟩ := snakeStep_eq (toSnakeCase input) ch input.length
      rw [toSnakeCase_concat, same]
      refine List.forall_mem_append.mpr ⟨lower ih, List.forall_mem_singleton.mpr ?_⟩
      exact toLower_of_not_isUpper (isUpper_toLower ch)

theorem singular_plural_iff {word : List Char} (lower : IsLower word) :
    singularFromPlural (pluralize word) = word ↔ word.getLast? ≠ some 'e' := by
  have same : word.map Char.toLower = word := (List.map_congr_left lower).trans (List.map_id _)
  obtain ⟨reversed, rfl⟩ : ∃ reversed, word = reversed.reverse := ⟨word.reverse, by simp⟩
  rw [pluralize, pluralSuffix, same, List.reverse_reverse]
  split
  case h_6 =>
    split <;> simp [singularFromPlural]
  case h_7 =>
    rcases reversed with - | ⟨last, rest⟩
    · simp [singularFromPlural]
    · by_cases isE : last = 'e'
      · subst isE
        -- The suffix that is stripped is a character longer than the one added.
        rcases rest with - | ⟨before, others⟩
        · simp [singularFromPlural]
        · by_cases isI : before = 'i' <;> simp [singularFromPlural, isI]
      · simp [singularFromPlural, isE]
  all_goals simp [singularFromPlural]

theorem toSnakeCase_last (input : List Char) :
    (toSnakeCase input).getLast? = input.getLast?.map Char.toLower := by
  cases input using List.reverseRecOn with
  | nil => rfl
  | append_singleton input ch =>
      obtain ⟨stem, same, -⟩ := snakeStep_eq (toSnakeCase input) ch input.length
      rw [toSnakeCase_concat, same, List.getLast?_concat, List.getLast?_concat, Option.map_some]

/--
Both ends of a relation use one column exactly for the names that do not end in
the letter `e`.
-/
theorem relation_keys_agree_iff (name : TypeName) (many one table : String) :
    (Relation.hasMany many table name.chars).foreignKey =
        (Relation.belongsTo one (snakePlural name.chars)).foreignKey ↔
      name.chars.getLast?.map Char.toLower ≠ some 'e' := by
  rw [← toSnakeCase_last, ← singular_plural_iff (toSnakeCase_lower name.chars)]
  simp [Relation.hasMany, Relation.belongsTo, snakePlural, eq_comm, String.ofList_inj]

def cacheModel : TypeName := ⟨'C', "ache".toList, by decide, List.all_eq_true.mp (by decide)⟩

theorem cache_keys_differ :
    (Relation.hasMany "entries" "entries" cacheModel.chars).foreignKey ≠
        (Relation.belongsTo "cache" (snakePlural cacheModel.chars)).foreignKey ∧
    (Relation.belongsTo "cache" (snakePlural cacheModel.chars)).foreignKey = "cach_id" := by
  decide +kernel

end Rustasea.Orm
