import Mathlib.Data.List.Infix
import Rustasea.Orm.QueryCacheKeys
import Rustasea.Schedule.Cron

namespace Rustasea.Validation

open Orm.Casts (Json FloatFormat print print_injective)
open PercentEncoding (splitOnce)
open Schedule (split trim)

/-!
# Rules that compare strictly

`in` and its other names compare the value with the items of a comma-separated
list; `contains` and its other names look for one needle in the value.  Both
compare JSON kinds and printed values.  The needle is read as JSON or else taken
as it is written; an item of a list that is not JSON is left out.
-/

abbrev Text := List Char

/-! ## Strict comparison -/

/-- The JSON type of a value. -/
inductive Kind where
  | null
  | boolean
  | number
  | string
  | array
  | object
  deriving DecidableEq

/-- A value normalized for strict comparison. -/
structure StrictValue where
  kind : Kind
  raw : Text
  deriving DecidableEq

def StrictValue.of (format : FloatFormat) : Json → StrictValue
  | .null => { kind := .null, raw := "null".toList }
  | .bool flag =>
    { kind := .boolean, raw := print format (.bool flag) }
  | .number number =>
    { kind := .number, raw := print format (.number number) }
  | .string text => { kind := .string, raw := text.toList }
  | .array items =>
    { kind := .array, raw := print format (.array items) }
  | .object fields =>
    { kind := .object, raw := print format (.object fields) }

def StrictValue.strictEq (value other : StrictValue) : Bool :=
  value.kind == other.kind && value.raw == other.raw

theorem StrictValue.strictEq_of (format : FloatFormat) (value other : Json) :
    (StrictValue.of format value).strictEq (.of format other) = true ↔ value = other := by
  rw [strictEq, Bool.and_eq_true, beq_iff_eq, beq_iff_eq]
  constructor
  · rintro ⟨sameKind, sameRaw⟩
    cases value <;> cases other <;> simp [of] at sameKind sameRaw
    case string.string text other =>
        rw [String.toList_injective sameRaw]
    all_goals
      first
        | rfl
        | exact print_injective sameRaw
  · rintro rfl
    exact ⟨rfl, rfl⟩

/-- `needle` is an element of the haystack, or a part of its text. -/
def containsStrict (format : FloatFormat) (haystack needle : Json) : Bool :=
  let needle := StrictValue.of format needle
  match haystack with
  | .array items => items.any fun item => (StrictValue.of format item).strictEq needle
  | .string text => needle.kind == .string && decide (needle.raw <:+: text.toList)
  | _ => false

/-- `value` matches an element of the allow list. -/
def inArrayStrict (format : FloatFormat) (allowList value : Json) : Bool :=
  let value := StrictValue.of format value
  match allowList with
  | .array items => items.any fun item => (StrictValue.of format item).strictEq value
  | _ => false

/-! ## The arguments of a rule -/

/-- `serde_json` as the rules use it. -/
structure SerdeJson where
  format : FloatFormat
  fromStr : Text → Option Json
  debug : Option Text → Text

/-- Parse `in:a,b,c` into the texts of its items. -/
def parseList (arg : Option Text) : List Text :=
  match arg with
  | some arg => ((split (· = ',') arg).map trim).filter fun item => !item.isEmpty
  | none => []

/-- Parse a needle: JSON if possible, else as it is written. -/
def parseNeedle (json : SerdeJson) (arg : Option Text) : Json :=
  match arg with
  | some arg => (json.fromStr arg).getD (.string (String.ofList arg))
  | none => .null

def humanize (field : Text) : Text :=
  field.map fun character =>
    if character = '_' ∨ character = '.' then ' '
    else character

/-! ## The rules -/

/-- A validation failure of one field. -/
structure ValidationError where
  code : String
  message : Text
  path : Option String
  deriving DecidableEq

def ValidationError.new (code : String) (message : Text) : ValidationError where
  code := code
  message := message
  path := none

/-- The names of the rule that checks a value against a list. -/
def membershipRules : List Text := ["in_array".toList, "in".toList, "strict_in_array".toList]

def containmentRules : List Text :=
  ["contains".toList, "contains_strict".toList, "strict_contains".toList]

/--
The rules that compare strictly, on the text of a rule and the value of a field;
no result for a rule of another name.  An absent or null value is not validated.
-/
def applyRule (json : SerdeJson) (field : Text) (value : Option Json)
    (rule : Text) : Option (List ValidationError) :=
  let (name, arg) :=
    match splitOnce ':' rule with
    | some (name, arg) => (name, some arg)
    | none => (rule, none)
  let label := humanize field
  if name ∉ membershipRules ++ containmentRules ++ ["doesnt_contain".toList] then none
  else
    match value with
    | none | some .null => some []
    | some present =>
      if name ∈ membershipRules then
        let allow := Json.array ((parseList arg).filterMap json.fromStr)
        if inArrayStrict json.format allow present then some []
        else
          some [.new "in_array" ("The selected ".toList ++ label ++ " is invalid.".toList)]
      else if name ∈ containmentRules then
        if containsStrict json.format present (parseNeedle json arg) then some []
        else
          some
            [.new "contains_strict"
              ("The ".toList ++ label ++ " must contain ".toList ++
                json.debug arg ++ " strictly.".toList)]
      else if containsStrict json.format present (parseNeedle json arg) then
        some
          [.new "doesnt_contain"
            ("The ".toList ++ label ++ " must not contain ".toList ++ json.debug arg ++ ".".toList)]
      else some []

/-! ## What the list rule accepts -/

def readItem (json : SerdeJson) (item : Text) : Json :=
  parseNeedle json (some item)

def IsListed (json : SerdeJson) (arg : Text) (value : Json) : Prop :=
  ∃ item ∈ parseList (some arg),
    (StrictValue.of json.format (readItem json item)).strictEq (.of json.format value) = true

/--
Where the value is the text of an item that is not JSON, another item reads as
that text.
-/
def IsQuotedToo (json : SerdeJson) (arg : Text) (value : Json) : Prop :=
  ∀ item ∈ parseList (some arg), json.fromStr item = none → value = .string (String.ofList item) →
        ∃ other ∈ parseList (some arg), json.fromStr other = some value

variable {json : SerdeJson} {arg : Text} {value : Json}

theorem inArrayStrict_array (format : FloatFormat) (items : List Json) (value : Json) :
    inArrayStrict format (.array items) value = true ↔ value ∈ items := by
  simp only [inArrayStrict, List.any_eq_true, StrictValue.strictEq_of]
  exact ⟨fun ⟨_, isItem, same⟩ => same ▸ isItem, fun isItem => ⟨_, isItem, rfl⟩⟩

theorem isListed_iff :
    IsListed json arg value ↔ ∃ item ∈ parseList (some arg), readItem json item = value := by
  simp [IsListed, StrictValue.strictEq_of]

theorem applyRule_membership {name : Text} (isName : name ∈ membershipRules) (field : Text)
    (isPresent : value ≠ .null) :
    applyRule json field (some value) (name ++ ':' :: arg) = some [] ↔
      ∃ item ∈ parseList (some arg), json.fromStr item = some value := by
  have isSplit : splitOnce ':' (name ++ ':' :: arg) = some (name, arg) := by
    simp only [membershipRules, List.mem_cons, List.not_mem_nil, or_false] at isName
    rcases isName with rfl | rfl | rfl <;> rfl
  rw [applyRule, isSplit, ← List.mem_filterMap, ← inArrayStrict_array json.format]
  simp only [List.mem_append, isName, true_or, not_true_eq_false, if_false, if_true]
  split <;> simp [*]

/--
The list rule accepts a value exactly when it equals an item, read as a needle
is, provided that where the value is the text of an item that is not JSON,
another item is that text in JSON.
-/
theorem applyRule_membership_iff_isListed {name : Text} (isName : name ∈ membershipRules)
    (field arg : Text) {value : Json} (isPresent : value ≠ .null) :
    (applyRule json field (some value) (name ++ ':' :: arg) = some [] ↔ IsListed json arg value) ↔
      IsQuotedToo json arg value := by
  rw [applyRule_membership isName field isPresent, isListed_iff]
  constructor
  · rintro ⟨_, accepted⟩ item isItem notJson isText
    exact accepted ⟨item, isItem, by
      rw [readItem, parseNeedle, notJson, Option.getD_none, isText]⟩
  · intro isQuotedToo
    constructor
    · rintro ⟨item, isItem, isJson⟩
      exact ⟨item, isItem, by rw [readItem, parseNeedle, isJson]; rfl⟩
    · rintro ⟨item, isItem, isRead⟩
      cases parsed : json.fromStr item with
      | some document =>
        rw [readItem, parseNeedle, parsed, Option.getD_some] at isRead
        exact ⟨item, isItem, by rw [parsed, isRead]⟩
      | none =>
        rw [readItem, parseNeedle, parsed] at isRead
        exact isQuotedToo item isItem parsed isRead.symm

def readWord (text : Text) : Option Json :=
  if text = "null".toList then some .null
  else if text = "true".toList then some (.bool true)
  else if text = "false".toList then some (.bool false)
  else
    match text with
    | '"' :: rest =>
      if rest.getLast? = some '"' ∧ rest.dropLast.all Char.isAlpha then
        some (.string (String.ofList rest.dropLast))
      else none
    | _ => none

/-- `serde_json` on such texts. -/
def wordJson : SerdeJson where
  format := Orm.Casts.QueryCacheKeys.bitsFormat
  fromStr := readWord
  debug arg :=
    match arg with
    | some arg => "Some(\"".toList ++ arg ++ "\")".toList
    | none => "None".toList

theorem applyRule_membership_iff_isListed_word :
    "in".toList ∈ membershipRules ∧ Json.string "editor" ≠ .null ∧
    ((applyRule wordJson "role".toList (some (.string "editor"))
            ("in".toList ++ ':' :: "admin,\"editor\"".toList) = some [] ↔
          IsListed wordJson "admin,\"editor\"".toList (.string "editor")) ↔
        IsQuotedToo wordJson "admin,\"editor\"".toList (.string "editor")) :=
  ⟨by decide, by simp, applyRule_membership_iff_isListed (by decide) _ _ (by simp)⟩

/-- A bare word is left out: `in:admin,editor` does not accept `"editor"`. -/
theorem bare_words_are_dropped :
    ¬ ∀ (json : SerdeJson) (field arg : Text) (value : Json), value ≠ .null →
      (applyRule json field (some value) ("in".toList ++ ':' :: arg) = some [] ↔
          IsListed json arg value) := by
  intro agree
  have listed : IsListed wordJson "admin,editor".toList (.string "editor") :=
    isListed_iff.mpr ⟨"editor".toList, by decide, rfl⟩
  have accepted :=
    (agree wordJson "role".toList "admin,editor".toList (.string "editor") (by simp)).mpr listed
  obtain ⟨item, isItem, isJson⟩ := (applyRule_membership (by decide) _ (by simp)).mp accepted
  have items : parseList (some "admin,editor".toList) = ["admin".toList, "editor".toList] := by
    decide
  rw [items] at isItem
  simp only [List.mem_cons, List.not_mem_nil, or_false] at isItem
  rcases isItem with rfl | rfl
  · cases isJson
  · cases isJson

end Rustasea.Validation
