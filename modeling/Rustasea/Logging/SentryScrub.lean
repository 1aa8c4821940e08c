import Mathlib.Data.List.Forall2
import Mathlib.Data.List.Infix
import Rustasea.Library.Framing
import Rustasea.Orm.JsonPaths

namespace Rustasea.Logging.SentryScrub

open List (Forall₂)
open Rustasea.Orm (Json)

/-!
# Scrubbing of captured events

Before an event leaves the process its credentials are taken out: whole headers
and environment entries, and the values under keys that look like a credential.
Two events that differ in nothing else should be the same from then on.
-/

def redacted : String := "[Filtered]"

def sensitiveHeaders : List String :=
  ["authorization", "proxy-authorization", "cookie", "x-api-key"]

def sensitiveKeyFragments : List String :=
  ["password", "secret", "token", "api_key", "apikey", "app_key"]

def isSensitiveKey (key : List Char) : Bool :=
  sensitiveKeyFragments.any fun fragment => decide (fragment.toList <:+: key.map Char.toLower)

def isSensitiveHeader (name : String) : Bool :=
  sensitiveHeaders.contains (String.ofList (name.toList.map Char.toLower)) ||
    isSensitiveKey name.toList

/-- `scrub_json`, into every object and array. -/
def scrubJson : Json → Json
  | .object fields => .object (scrubFields fields)
  | .array items => .array (scrubItems items)
  | other => other
where
  scrubFields : List (String × Json) → List (String × Json)
    | [] => []
    | (key, entry) :: rest =>
      (key, if isSensitiveKey key.toList then .string redacted else scrubJson entry) ::
        scrubFields rest
  scrubItems : List Json → List Json
    | [] => []
    | item :: rest => scrubJson item :: scrubItems rest

/-- The key of a pair with a separator; the value is behind it. -/
def keyOf? (pair : List Char) : Option (List Char) :=
  if '=' ∈ pair then some (pair.takeWhile (· ≠ '=')) else none

def scrubPair (pair : List Char) : List Char :=
  match keyOf? pair with
  | some key => if isSensitiveKey key then key ++ '=' :: redacted.toList else pair
  | none => pair

def scrubFormBody (body : List Char) : List Char :=
  ['&'].intercalate ((body.splitOn '&').map scrubPair)

/-- The top level of a map, in `extra`, a context or the data of a breadcrumb. -/
def scrubMap (map : List (String × Json)) : List (String × Json) :=
  map.map fun (key, value) => (key, if isSensitiveKey key.toList then .string redacted else value)

structure Request (Rest : Type) where
  headers : List (String × String)
  env : List (String × String)
  data : Option (List Char)
  queryString : Option (List Char)
  cookies : Option String
  rest : Rest

/--
A free-form map, or a context of a known type: a device, a trace and so on.  These
carry maps and values too, such as the fields that their type does not name.
-/
inductive Context (Rest : Type) where
  | other (map : List (String × Json))
  | known (carried : List Json) (rest : Rest)

/-- An event; what is left alone is its rest. -/
structure Event (Rest : Type) where
  request : Option (Request Rest)
  extra : List (String × Json)
  contexts : List (String × Context Rest)
  breadcrumbs : List (List (String × Json) × Rest)
  rest : Rest

section

variable {Rest : Type} (parse : List Char → Option Json) (print : Json → List Char)

def scrubBody (body : List Char) : List Char :=
  match parse body with
  | some value => print (scrubJson value)
  | none => scrubFormBody body

def scrubRequest (request : Request Rest) : Request Rest where
  headers := request.headers.filter fun (name, _) => !isSensitiveHeader name
  env := request.env.filter fun (name, _) => !isSensitiveKey name.toList
  data := request.data.map (scrubBody parse print)
  queryString := request.queryString.map scrubFormBody
  cookies := none
  rest := request.rest

def scrubContext : Context Rest → Context Rest
  | .other map => .other (scrubMap map)
  | known => known

def scrubEvent (event : Event Rest) : Event Rest where
  request := event.request.map (scrubRequest parse print)
  extra := scrubMap event.extra
  contexts := (event.contexts.filter fun (name, _) => !isSensitiveKey name.toList).map
    fun (name, context) => (name, scrubContext context)
  breadcrumbs := event.breadcrumbs.map fun (data, rest) => (scrubMap data, rest)
  rest := event.rest

end

/-! ## Events that differ in credentials only -/

/-- Documents that differ only under sensitive keys, at any depth. -/
def Alike : Json → Json → Prop
  | .object fields, second => ∃ others, second = .object others ∧ AlikeFields fields others
  | .array items, second => ∃ others, second = .array others ∧ AlikeItems items others
  | first, second => first = second
where
  AlikeFields : List (String × Json) → List (String × Json) → Prop
    | [], others => others = []
    | (key, entry) :: rest, others => ∃ value behind, others = (key, value) :: behind ∧
        (isSensitiveKey key.toList = true ∨ Alike entry value) ∧ AlikeFields rest behind
  AlikeItems : List Json → List Json → Prop
    | [], others => others = []
    | item :: rest, others =>
      ∃ value behind, others = value :: behind ∧ Alike item value ∧ AlikeItems rest behind

/-- Maps, headers or environments that differ only under sensitive keys of their own. -/
def Shallow {Value : Type} : List (String × Value) → List (String × Value) → Prop :=
  Forall₂ fun a b => a.1 = b.1 ∧ (isSensitiveKey a.1.toList = true ∨ a.2 = b.2)

/-- Two values that are there or not together, and are related. -/
def Both {α : Type} (related : α → α → Prop) (first second : Option α) : Prop :=
  (first = none ∧ second = none) ∨ ∃ a b, first = some a ∧ second = some b ∧ related a b

section

variable {Rest : Type} (parse : List Char → Option Json) (print : Json → List Char)
  (decodeKey : List Char → List Char)

/-- Forms that differ only in the values of keys that are sensitive once decoded. -/
def AlikeForms (first second : List Char) : Prop :=
  Forall₂ (fun p q => p = q ∨
    ∃ key, keyOf? p = some key ∧ keyOf? q = some key ∧ isSensitiveKey (decodeKey key) = true)
    (first.splitOn '&') (second.splitOn '&')

/-- Forms that differ only in the values of keys that are sensitive as they stand. -/
def PlainForms (first second : List Char) : Prop :=
  Forall₂ (fun p q => p = q ∨ ∃ key, keyOf? p = some key ∧ isSensitiveKey key = true)
    (first.splitOn '&') (second.splitOn '&')

def AlikeBodies (first second : List Char) : Prop :=
  (∃ a b, parse first = some a ∧ parse second = some b ∧ Alike a b) ∨
    (parse first = none ∧ parse second = none ∧ AlikeForms decodeKey first second)

def AlikeContexts : Context Rest → Context Rest → Prop
  | .other map, second => ∃ others, second = .other others ∧ Alike.AlikeFields map others
  | .known carried rest, second =>
    ∃ others, second = .known others rest ∧ Alike.AlikeItems carried others

structure AlikeRequests (first second : Request Rest) : Prop where
  headers : Shallow first.headers second.headers
  env : Shallow first.env second.env
  data : Both (AlikeBodies parse decodeKey) first.data second.data
  queryString : Both (AlikeForms decodeKey) first.queryString second.queryString
  rest : first.rest = second.rest

/-- Events that differ only in values under sensitive keys. -/
structure AlikeEvents (first second : Event Rest) : Prop where
  request : Both (AlikeRequests parse decodeKey) first.request second.request
  extra : Alike.AlikeFields first.extra second.extra
  contexts : Forall₂ (fun a b => a.1 = b.1 ∧
    (isSensitiveKey a.1.toList = true ∨ AlikeContexts a.2 b.2)) first.contexts second.contexts
  breadcrumbs : Forall₂ (fun a b => Alike.AlikeFields a.1 b.1 ∧ a.2 = b.2)
    first.breadcrumbs second.breadcrumbs
  rest : first.rest = second.rest

def ShallowContexts : Context Rest → Context Rest → Prop
  | .other map, .other others => Shallow map others
  | .known carried _, .known others _ => carried = others
  | _, _ => False

/--
The differences lie where the scrubbing looks: in a JSON body, at the top level
of a map, and in a form under keys that are sensitive as they stand.  It never
looks into a context of a known type.
-/
structure Reached (first second : Event Rest) : Prop where
  data : ∀ a ∈ first.request, ∀ b ∈ second.request, ∀ p ∈ a.data, ∀ q ∈ b.data,
    parse p = none → PlainForms p q
  queryString : ∀ a ∈ first.request, ∀ b ∈ second.request,
    ∀ p ∈ a.queryString, ∀ q ∈ b.queryString, PlainForms p q
  extra : Shallow first.extra second.extra
  contexts : Forall₂ (fun a b => isSensitiveKey a.1.toList = true ∨ ShallowContexts a.2 b.2)
    first.contexts second.contexts
  breadcrumbs : Forall₂ (fun a b => Shallow a.1 b.1) first.breadcrumbs second.breadcrumbs

end

/-! ## What each container comes to -/

mutual

theorem scrubJson_of_alike : ∀ {first second : Json}, Alike first second →
    scrubJson first = scrubJson second
  | .object _, _, ⟨_, rfl, alike⟩ => congrArg Json.object (scrubFields_of_alike alike)
  | .array _, _, ⟨_, rfl, alike⟩ => congrArg Json.array (scrubItems_of_alike alike)
  | .null, _, rfl => rfl
  | .bool _, _, rfl => rfl
  | .number _, _, rfl => rfl
  | .string _, _, rfl => rfl

theorem scrubFields_of_alike : ∀ {first second : List (String × Json)},
    Alike.AlikeFields first second → scrubJson.scrubFields first = scrubJson.scrubFields second
  | [], _, rfl => rfl
  | (key, entry) :: rest, _, ⟨value, behind, rfl, hidden, alike⟩ => by
      rw [scrubJson.scrubFields, scrubJson.scrubFields, scrubFields_of_alike alike]
      rcases hidden with sensitive | same
      · rw [if_pos sensitive, if_pos sensitive]
      · rw [scrubJson_of_alike same]

theorem scrubItems_of_alike : ∀ {first second : List Json},
    Alike.AlikeItems first second → scrubJson.scrubItems first = scrubJson.scrubItems second
  | [], _, rfl => rfl
  | item :: rest, _, ⟨value, behind, rfl, same, alike⟩ => by
      rw [scrubJson.scrubItems, scrubJson.scrubItems, scrubJson_of_alike same,
        scrubItems_of_alike alike]

end

theorem forall₂_congr {α : Type} {alike related other : α → α → Prop} {first second : List α}
    (all : Forall₂ alike first second) (each : ∀ a b, alike a b → (related a b ↔ other a b)) :
    Forall₂ related first second ↔ Forall₂ other first second :=
  ⟨Forall₂.mp (fun a b is => (each a b is).mp) all,
    Forall₂.mp (fun a b is => (each a b is).mpr) all⟩

theorem map_eq_iff {α β : Type} (f : α → β) (first second : List α) :
    first.map f = second.map f ↔ Forall₂ (fun a b => f a = f b) first second := by
  rw [← List.forall₂_eq_eq_eq, List.forall₂_map_left_iff, List.forall₂_map_right_iff]

theorem scrubMap_eq_iff (first second : List (String × Json)) :
    scrubMap first = scrubMap second ↔ Shallow first second := by
  rw [scrubMap, scrubMap, map_eq_iff, Shallow]
  have each : ∀ a b : String × Json,
      ((a.1, if isSensitiveKey a.1.toList then Json.string redacted else a.2) =
        (b.1, if isSensitiveKey b.1.toList then Json.string redacted else b.2)) ↔
      a.1 = b.1 ∧ (isSensitiveKey a.1.toList = true ∨ a.2 = b.2) := by
    rintro ⟨key, value⟩ ⟨other, entry⟩
    rw [Prod.mk.injEq]
    refine and_congr_right fun same => ?_
    obtain rfl : key = other := same
    by_cases sensitive : isSensitiveKey key.toList = true <;> simp [sensitive]
  simp [each]

theorem scrubPair_free {pair : List Char} (free : '&' ∉ pair) : '&' ∉ scrubPair pair := by
  rw [scrubPair, keyOf?]
  split
  · next key isKey =>
    split at isKey
    · obtain rfl := Option.some.inj isKey
      split
      · rw [List.mem_append, not_or]
        exact ⟨fun isIn => free ((List.takeWhile_prefix _).subset isIn), by decide⟩
      · exact free
    · cases isKey
  · exact free

theorem scrubFormBody_eq_iff (first second : List Char) :
    scrubFormBody first = scrubFormBody second ↔
      Forall₂ (fun p q => scrubPair p = scrubPair q) (first.splitOn '&') (second.splitOn '&') := by
  have pairs (body : List Char) :
      (scrubFormBody body).splitOn '&' = (body.splitOn '&').map scrubPair := by
    refine List.splitOn_intercalate '&' (fun pair isPair => ?_) (by simp)
    obtain ⟨raw, isRaw, rfl⟩ := List.mem_map.mp isPair
    exact scrubPair_free (Framing.notMem_of_mem_splitOn isRaw)
  rw [← map_eq_iff]
  refine ⟨fun same => ?_, fun same => congrArg (['&'].intercalate ·) same⟩
  rw [← pairs, ← pairs, same]

section

variable {Rest : Type} {parse : List Char → Option Json} {print : Json → List Char}
  {decodeKey : List Char → List Char}

/-- Pairs with one raw key come to the same exactly if they are or the key looks sensitive. -/
theorem scrubForm_eq_iff {first second : List Char} (alike : AlikeForms decodeKey first second) :
    scrubFormBody first = scrubFormBody second ↔ PlainForms first second := by
  rw [scrubFormBody_eq_iff]
  refine forall₂_congr alike fun p q same => ?_
  rcases same with rfl | ⟨key, ofFirst, ofSecond, -⟩
  · simp
  · by_cases sensitive : isSensitiveKey key = true <;>
      simp [scrubPair, ofFirst, ofSecond, sensitive]

theorem scrubBody_eq_iff {first second : List Char}
    (alike : AlikeBodies parse decodeKey first second) :
    scrubBody parse print first = scrubBody parse print second ↔
      (parse first = none → PlainForms first second) := by
  rcases alike with ⟨a, b, isFirst, isSecond, same⟩ | ⟨isFirst, isSecond, forms⟩
  · simp [scrubBody, isFirst, isSecond, scrubJson_of_alike same]
  · simp [scrubBody, isFirst, isSecond, scrubForm_eq_iff forms]

theorem map_eq_map_iff {α β : Type} {f : α → β} {related same : α → α → Prop}
    {first second : Option α} (both : Both related first second)
    (each : ∀ a b, related a b → (f a = f b ↔ same a b)) :
    first.map f = second.map f ↔ ∀ a ∈ first, ∀ b ∈ second, same a b := by
  rcases both with ⟨rfl, rfl⟩ | ⟨a, b, rfl, rfl, is⟩
  · simp
  · simpa using each a b is

theorem filter_of_shallow (drop : String → Bool) {first second : List (String × String)}
    (drops : ∀ name, isSensitiveKey name.toList = true → drop name = true)
    (alike : Shallow first second) :
    (first.filter fun (name, _) => !drop name) = second.filter fun (name, _) => !drop name := by
  induction alike with
  | nil => rfl
  | @cons a b _ _ same _ ih =>
      obtain ⟨name, value⟩ := a
      obtain ⟨other, entry⟩ := b
      obtain ⟨rfl, hidden⟩ : name = other ∧ _ := same
      rcases hidden with sensitive | rfl
      · simp [drops name sensitive, ih]
      · simp [List.filter_cons, ih]

theorem scrubRequest_eq_iff {first second : Request Rest}
    (alike : AlikeRequests parse decodeKey first second) :
    scrubRequest parse print first = scrubRequest parse print second ↔
      (∀ p ∈ first.data, ∀ q ∈ second.data, parse p = none → PlainForms p q) ∧
      ∀ p ∈ first.queryString, ∀ q ∈ second.queryString, PlainForms p q := by
  have headers := filter_of_shallow isSensitiveHeader
    (fun name sensitive => by simp [isSensitiveHeader, sensitive]) alike.headers
  have env := filter_of_shallow (fun name => isSensitiveKey name.toList)
    (fun _ sensitive => sensitive) alike.env
  rw [← map_eq_map_iff (f := scrubBody parse print) alike.data fun a b => scrubBody_eq_iff,
    ← map_eq_map_iff alike.queryString fun a b => scrubForm_eq_iff]
  simp [scrubRequest, headers, env, alike.rest]

theorem scrubContexts_eq_iff {first second : List (String × Context Rest)}
    (alike : Forall₂ (fun a b => a.1 = b.1 ∧
      (isSensitiveKey a.1.toList = true ∨ AlikeContexts a.2 b.2)) first second) :
    ((first.filter fun (name, _) => !isSensitiveKey name.toList).map fun (name, context) =>
        (name, scrubContext context)) =
      ((second.filter fun (name, _) => !isSensitiveKey name.toList).map fun (name, context) =>
        (name, scrubContext context)) ↔
      Forall₂ (fun a b => isSensitiveKey a.1.toList = true ∨ ShallowContexts a.2 b.2)
        first second := by
  induction alike with
  | nil => simp
  | @cons a b _ _ same _ ih =>
      obtain ⟨name, context⟩ := a
      obtain ⟨other, second⟩ := b
      obtain ⟨rfl, hidden⟩ : name = other ∧ _ := same
      by_cases sensitive : isSensitiveKey name.toList = true
      · simp [sensitive, ih]
      · have below :
            scrubContext context = scrubContext second ↔ ShallowContexts context second := by
          have alikeContexts := hidden.resolve_left sensitive
          cases context with
          | other map =>
              obtain ⟨others, rfl, -⟩ := alikeContexts
              simp [scrubContext, ShallowContexts, scrubMap_eq_iff]
          | known carried rest =>
              obtain ⟨others, rfl, -⟩ := alikeContexts
              simp [scrubContext, ShallowContexts]
        simp [sensitive, ih, below]

end

/-! ## Passwords that stay -/

/-- Extra data and a breadcrumb with one secret, a user and a device with another. -/
def loginEvent (secret nested carried : String) : Event Unit where
  request := none
  extra := [("password", .string secret), ("user", .object [("password", .string nested)])]
  contexts := [("device", .known [.object [("device_token", .string carried)]] ())]
  breadcrumbs := [([("API_KEY", .string secret)], ())]
  rest := ()

section

variable (first second : String)

theorem loginEvents_alike (nested otherNested carried otherCarried : String) :
    AlikeEvents (fun _ => none) id (loginEvent first nested carried)
      (loginEvent second otherNested otherCarried) where
  request := .inl ⟨rfl, rfl⟩
  extra := ⟨_, _, rfl, .inl (by decide +kernel), _, [], rfl,
    .inr ⟨_, rfl, _, [], rfl, .inl (by decide +kernel), rfl⟩, rfl⟩
  contexts := .cons ⟨rfl, .inr ⟨_, rfl, _, [], rfl,
    ⟨_, rfl, _, [], rfl, .inl (by decide +kernel), rfl⟩, rfl⟩⟩ .nil
  breadcrumbs := .cons ⟨⟨_, [], rfl, .inl (by decide +kernel), rfl⟩, rfl⟩ .nil
  rest := rfl

theorem loginEvents_reached (nested carried : String) :
    Reached (fun _ => none)
      (loginEvent first nested carried) (loginEvent second nested carried) where
  data := fun _ isFirst => nomatch isFirst
  queryString := fun _ isFirst => nomatch isFirst
  extra := .cons ⟨rfl, .inl (show isSensitiveKey "password".toList = true by decide +kernel)⟩
    (.cons ⟨rfl, .inr rfl⟩ .nil)
  contexts := .cons (.inr rfl) .nil
  breadcrumbs := .cons
    (.cons ⟨rfl, .inl (show isSensitiveKey "API_KEY".toList = true by decide +kernel)⟩ .nil) .nil

end

end Rustasea.Logging.SentryScrub
