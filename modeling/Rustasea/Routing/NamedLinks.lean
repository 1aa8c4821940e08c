import Mathlib.Data.List.TakeWhile
import Rustasea.Routing.PathCaptures

namespace Rustasea.Routing

open List

open PercentEncoding (splitOnce splitOnce_append)

/-!
# Links to named routes

A link is the path of a named route with the placeholders filled in.  The
generator reads `{param}`, `{param:field}` and `:param`; the path that axum is
given is translated from the same text by another walk.  On a route whose
placeholders are whole segments both agree on where they stand.
-/

/-! ## The generator -/

def isIdentStart (character : Char) : Bool := character.isAlpha || character == '_'

/-- Whether a character may continue a placeholder identifier. -/
def isIdentChar (character : Char) : Bool := character.isAlphanum || character == '_'

theorem length_of_splitOnce {separator : Char} {text before after : Text}
    (cut : splitOnce separator text = some (before, after)) : after.length < text.length := by
  rw [PercentEncoding.splitOnce_eq_some cut, length_append, length_cons]
  omega

/--
Substitute the placeholders; no result when one has no value.  Other text,
including an unterminated brace, passes through verbatim.
-/
@[grind =] def substitute (lookup : Text → Option Text) : Text → Option Text
  | [] => some []
  | character :: rest =>
    if character = '{' then
      match _isCut : splitOnce '}' rest with
      | none => (substitute lookup rest).map ('{' :: ·)
      | some (inner, after) =>
        (lookup (inner.takeWhile (· ≠ ':'))).bind fun value =>
          (substitute lookup after).map (value ++ ·)
    else if character = ':' ∧ rest.head?.any isIdentStart then
      (lookup (rest.takeWhile isIdentChar)).bind fun value =>
        (substitute lookup (rest.dropWhile isIdentChar)).map (value ++ ·)
    else (substitute lookup rest).map (character :: ·)
termination_by path => path.length
decreasing_by
  all_goals
    simp only [length_cons]
  · omega
  · have shorter := length_of_splitOnce _isCut
    omega
  · have shorter := (dropWhile_suffix isIdentChar (l := rest)).length_le
    omega
  · omega

/-- Reverse index from route name to the path it was registered under. -/
structure NamedRoutes where
  paths : String → Option String
  domains : String → Option (Option String)

namespace NamedRoutes

def orInsert {Value : Type} (name : String) (value : Value)
    (index : String → Option Value) : String → Option Value :=
  if (index name).isSome then index
  else Function.update index name (some value)

/-- Build an index from a slice of route entries; the first of a name wins. -/
def fromRoutes (routes : List RouteEntry) : NamedRoutes :=
  routes.foldl
    (fun index route =>
      match route.name with
      | none => index
      | some name =>
        { paths := orInsert name route.path index.paths
          domains := orInsert name route.domain index.domains })
    { paths := fun _ => none, domains := fun _ => none }

/-- Resolve a name to a URL, with a domain as a protocol-relative host. -/
def resolve (index : NamedRoutes) (name : String) (params : List (Text × Text)) : Option Text :=
  (index.paths name).bind fun path =>
    (substitute (fun key => params.lookup key) path.toList).map fun substituted =>
      match (index.domains name).join with
      | some domain => "//".toList ++ domain.toList ++ substituted
      | none => substituted

end NamedRoutes

/-! ## Routes whose placeholders are whole segments -/

/-- A segment of a route path. -/
inductive Part where
  | text (text : Text)
  | braced (name : Text) (field : Option Text)
  | colon (name : Text)

namespace Part

@[grind =] def spelled : Part → Text
  | .text verbatim => verbatim
  | .braced name none => '{' :: name ++ ['}']
  | .braced name (some field) => '{' :: name ++ ':' :: field ++ ['}']
  | .colon name => ':' :: name

def pattern : Part → Text
  | .text verbatim => verbatim
  | .braced name _ => ':' :: name
  | .colon name => ':' :: name

@[grind =] def param? : Part → Option Text
  | .text _ => none
  | .braced name _ => some name
  | .colon name => some name

def linked (values : Text → Text) : Part → Text
  | .text verbatim => verbatim
  | .braced name _ => values name
  | .colon name => values name

/--
What the segment is taken for in front of the rest of the path: a text in which
no placeholder begins, or one placeholder.
-/
def IsWhole (after : Text) : Part → Prop
  | .text verbatim =>
    ('/' ∉ verbatim ∧ ':' ∉ verbatim ∧ '*' ∉ verbatim) ∧
      ∀ before behind, verbatim = before ++ '{' :: behind → '}' ∉ behind ++ after
  | .braced name field =>
    (name ≠ [] ∧ '/' ∉ name ∧ ':' ∉ name ∧ '*' ∉ name ∧ '}' ∉ name) ∧
      ∀ selector ∈ field, '/' ∉ selector ∧ '}' ∉ selector
  | .colon name =>
    name.head?.any isIdentStart = true ∧ ∀ character ∈ name, isIdentChar character = true

end Part

def spelledPath (parts : List Part) : Text := joined (parts.map Part.spelled)

def AreWhole : List Part → Prop
  | [] => True
  | part :: rest => part.IsWhole (spelledPath rest) ∧ AreWhole rest

@[simp] theorem joined_nil : joined [] = [] := rfl

@[simp] theorem joined_cons (part : Text) (parts : List Text) :
    joined (part :: parts) = '/' :: (part ++ joined parts) :=
  rfl

@[simp] theorem spelledPath_cons (part : Part) (parts : List Part) :
    spelledPath (part :: parts) = '/' :: (part.spelled ++ spelledPath parts) :=
  rfl

/-! ### The path that axum is given -/

def axumPiece : PathPart → Text
  | .text character => [character]
  | .placeholder inner =>
    let param := inner.takeWhile (· ≠ ':')
    if param = [] then []
    else ':' :: param
  | .unterminated rest => '{' :: rest

/-- The path that axum is given, from an opening brace on or from outside. -/
def axumText (inside : Option Text) (path : Text) : Text :=
  (pathParts inside path).flatMap axumPiece

theorem toList_toAxumPath (path : Text) :
    (toAxumPath (String.ofList path)).toList = axumText none path := by
  rw [toAxumPath, String.toList_ofList, String.toList_ofList]
  congr 1

theorem axumText_cons {character : Char} (notBrace : character ≠ '{')
    (rest : Text) : axumText none (character :: rest) = character :: axumText none rest := by
  rw [axumText, pathParts.eq_3 _ _ (by simpa using notBrace)]
  rfl

variable {text : Text}

theorem axumText_append (free : '{' ∉ text)
    (rest : Text) : axumText none (text ++ rest) = text ++ axumText none rest := by
  induction text with
  | nil => rfl
  | cons character others ih =>
    rw [mem_cons, not_or] at free
    rw [cons_append, axumText_cons (Ne.symm free.1), ih free.2, cons_append]

theorem axumText_some_unterminated (free : '}' ∉ text)
    (inner : Text) : axumText (some inner) text = '{' :: (inner ++ text) := by
  induction text generalizing inner with
  | nil => simp [axumText, pathParts, axumPiece]
  | cons character others ih =>
    rw [mem_cons, not_or] at free
    have walked := ih free.2 (inner ++ [character])
    rw [axumText] at walked ⊢
    rw [pathParts.eq_6 _ _ _ (by simpa using Ne.symm free.1), walked]
    simp

theorem axumText_some_terminated (free : '}' ∉ text) (inner rest : Text) :
    axumText (some inner) (text ++ '}' :: rest) =
      axumPiece (.placeholder (inner ++ text)) ++ axumText none rest := by
  induction text generalizing inner with
  | nil => simp [axumText, pathParts]
  | cons character others ih =>
    rw [mem_cons, not_or] at free
    have walked := ih free.2 (inner ++ [character])
    rw [axumText] at walked ⊢
    rw [cons_append, pathParts.eq_6 _ _ _ (by simpa using Ne.symm free.1), walked]
    simp

theorem axumText_of_unclosed (free : '}' ∉ text) : axumText none text = text := by
  induction text with
  | nil => rfl
  | cons character others ih =>
    rw [mem_cons, not_or] at free
    by_cases isBrace : character = '{'
    · subst isBrace
      exact axumText_some_unterminated free.2 []
    · rw [axumText_cons isBrace, ih free.2]

theorem axumText_verbatim {text after : Text}
    (unterminated : ∀ before behind, text = before ++ '{' :: behind → '}' ∉ behind ++ after) :
    axumText none (text ++ after) = text ++ axumText none after := by
  induction text with
  | nil => rfl
  | cons character others ih =>
    by_cases isBrace : character = '{'
    · subst isBrace
      have unclosed := unterminated [] others rfl
      rw [mem_append, not_or] at unclosed
      rw [axumText_of_unclosed unclosed.2]
      exact axumText_some_unterminated (unterminated [] others rfl) []
    · rw [cons_append, axumText_cons isBrace, ih, cons_append]
      intro before behind same
      exact unterminated (character :: before) behind (by rw [same]; rfl)

theorem axumText_braced {name inner : Text} (isNamed : name ≠ [])
    (isName : inner.takeWhile (· ≠ ':') = name) (unclosed : '}' ∉ inner) (after : Text) :
    axumText none ('{' :: (inner ++ '}' :: after)) = ':' :: (name ++ axumText none after) := by
  have walked := axumText_some_terminated unclosed [] after
  rw [nil_append, axumPiece, isName] at walked
  simp only [isNamed] at walked
  exact walked

variable {name : Text}

theorem takeWhile_name_self (free : ':' ∉ name) : name.takeWhile (· ≠ ':') = name := by
  rw [takeWhile_eq_self_iff]
  intro character isIn
  simpa using fun same : character = ':' => free (same ▸ isIn)

theorem takeWhile_name (free : ':' ∉ name) (field : Text) :
    (name ++ ':' :: field).takeWhile (· ≠ ':') = name := by
  rw [takeWhile_append, takeWhile_name_self free]
  simp

theorem notMem_of_isIdentChar (isIdent : ∀ character ∈ name, isIdentChar character = true)
    {other : Char} (notIdent : isIdentChar other = false) : other ∉ name := by
  intro isIn
  rw [isIdent other isIn] at notIdent
  cases notIdent

theorem axumText_spelledPath {parts : List Part} (whole : AreWhole parts) :
    axumText none (spelledPath parts) = joined (parts.map Part.pattern) := by
  induction parts with
  | nil => rfl
  | cons part rest ih =>
    obtain ⟨isWhole, restWhole⟩ := whole
    rw [spelledPath_cons, axumText_cons (by decide), map_cons, joined_cons, ← ih restWhole]
    congr 1
    match part with
    | .text verbatim => exact axumText_verbatim isWhole.2
    | .braced name none =>
      obtain ⟨⟨isNamed, -, noColon, -, unclosed⟩, -⟩ := isWhole
      simpa [Part.spelled, Part.pattern] using
        axumText_braced isNamed (takeWhile_name_self noColon) unclosed (spelledPath rest)
    | .braced name (some field) =>
      obtain ⟨⟨isNamed, -, noColon, -, unclosed⟩, ofField⟩ := isWhole
      have fieldUnclosed := (ofField field rfl).2
      simpa [Part.spelled, Part.pattern] using
        axumText_braced isNamed (takeWhile_name noColon field)
          (by simp [unclosed, fieldUnclosed]) (spelledPath rest)
    | .colon name =>
      have noBrace : '{' ∉ ':' :: name := by
        have free := notMem_of_isIdentChar isWhole.2 (show isIdentChar '{' = false by decide)
        simp [free]
      exact axumText_append noBrace (spelledPath rest)

/-! ### The link that is generated -/

section Substitution

variable {lookup : Text → Option Text}

theorem substitute_nil : substitute lookup [] = some [] := by
  rw [substitute]

theorem substitute_cons {character : Char} (notBrace : character ≠ '{')
    (notColon : character ≠ ':') (rest : Text) :
    substitute lookup (character :: rest) = (substitute lookup rest).map (character :: ·) := by
  rw [substitute, if_neg notBrace, if_neg (fun isColon => notColon isColon.1)]

theorem substitute_open {rest : Text} (unclosed : splitOnce '}' rest = none) :
    substitute lookup ('{' :: rest) = (substitute lookup rest).map ('{' :: ·) := by
  rw [substitute, if_pos rfl]
  split
  · rfl
  · next cut =>
    rw [unclosed] at cut
    cases cut

theorem substitute_braced {inner name value : Text} (unclosed : '}' ∉ inner)
    (isName : inner.takeWhile (· ≠ ':') = name)
    (assigned : lookup name = some value) (after : Text) :
    substitute lookup ('{' :: (inner ++ '}' :: after)) =
      (substitute lookup after).map (value ++ ·) := by
  have isCut := splitOnce_append unclosed after
  rw [substitute, if_pos rfl]
  split
  · next cut =>
    rw [isCut] at cut
    cases cut
  · next cut =>
    rw [isCut] at cut
    cases cut
    rw [isName, assigned, Option.bind_some]

theorem substitute_colon {name value after : Text} (starts : name.head?.any isIdentStart = true)
    (isIdent : ∀ character ∈ name, isIdentChar character = true)
    (ends : after.head?.all (fun next => !isIdentChar next) = true)
    (assigned : lookup name = some value) :
    substitute lookup (':' :: (name ++ after)) = (substitute lookup after).map (value ++ ·) := by
  have stops : after.takeWhile isIdentChar = [] ∧ after.dropWhile isIdentChar = after := by
    cases after with
    | nil => simp
    | cons next behind =>
      have notIdent : isIdentChar next = false := by simpa using ends
      simp [notIdent]
  have isTaken : (name ++ after).takeWhile isIdentChar = name := by
    rw [takeWhile_append_of_pos isIdent, stops.1, append_nil]
  have isDropped : (name ++ after).dropWhile isIdentChar = after := by
    rw [dropWhile_append_of_pos isIdent, stops.2]
  have startsToo : (name ++ after).head?.any isIdentStart = true := by
    cases name with
    | nil => cases starts
    | cons first others => exact starts
  rw [substitute, if_neg (by decide), if_pos ⟨rfl, startsToo⟩, isTaken,
    isDropped, assigned, Option.bind_some]

theorem splitOnce_of_notMem {separator : Char} {text : Text} (free : separator ∉ text) :
    splitOnce separator text = none := by
  induction text with
  | nil => rfl
  | cons character rest ih =>
    rw [mem_cons, not_or] at free
    rw [splitOnce, if_neg (Ne.symm free.1), ih free.2]
    rfl

theorem substitute_verbatim {text after : Text} (noColon : ':' ∉ text)
    (unterminated : ∀ before behind, text = before ++ '{' :: behind → '}' ∉ behind ++ after) :
    substitute lookup (text ++ after) = (substitute lookup after).map (text ++ ·) := by
  induction text with
  | nil => simp
  | cons character others ih =>
    rw [mem_cons, not_or] at noColon
    have kept : substitute lookup (character :: (others ++ after)) =
        (substitute lookup (others ++ after)).map (character :: ·) := by
      by_cases isBrace : character = '{'
      · subst isBrace
        exact substitute_open (splitOnce_of_notMem (unterminated [] others rfl))
      · exact substitute_cons isBrace (Ne.symm noColon.1) _
    rw [cons_append, kept, ih noColon.2, Option.map_map]
    · rfl
    · intro before behind same
      exact unterminated (character :: before) behind (by rw [same]; rfl)

/-- A link is the path with the values in place of the placeholders. -/
theorem substitute_spelledPath {parts : List Part} (whole : AreWhole parts) {values : Text → Text}
    (assigned : ∀ param ∈ parts.filterMap Part.param?, lookup param = some (values param)) :
    substitute lookup (spelledPath parts) = some (joined (parts.map (Part.linked values))) := by
  induction parts with
  | nil => exact substitute_nil
  | cons part rest ih =>
    obtain ⟨isWhole, restWhole⟩ := whole
    have restAssigned :
        ∀ param ∈ rest.filterMap Part.param?, lookup param = some (values param) := by
      intro param isParam
      apply assigned
      rw [filterMap_cons]
      split
      · exact isParam
      · exact mem_cons_of_mem _ isParam
    have isRest := ih restWhole restAssigned
    have filled : substitute lookup (part.spelled ++ spelledPath rest) =
        (substitute lookup (spelledPath rest)).map (part.linked values ++ ·) := by
      match part with
      | .text verbatim => exact substitute_verbatim isWhole.1.2.1 isWhole.2
      | .braced name none =>
        obtain ⟨⟨-, -, noColon, -, unclosed⟩, -⟩ := isWhole
        simpa [Part.spelled, Part.linked] using
          substitute_braced unclosed (takeWhile_name_self noColon)
            (assigned name (by simp [Part.param?])) (spelledPath rest)
      | .braced name (some field) =>
        obtain ⟨⟨-, -, noColon, -, unclosed⟩, ofField⟩ := isWhole
        have fieldUnclosed := (ofField field rfl).2
        simpa [Part.spelled, Part.linked] using
          substitute_braced (by simp [unclosed, fieldUnclosed]) (takeWhile_name noColon field)
            (assigned name (by simp [Part.param?])) (spelledPath rest)
      | .colon name =>
        have ends : (spelledPath rest).head?.all (fun next => !isIdentChar next) = true := by
          cases rest with
          | nil => rfl
          | cons next behind => rfl
        exact substitute_colon isWhole.1 isWhole.2 ends (assigned name (by simp [Part.param?]))
    rw [spelledPath_cons, substitute_cons (by decide) (by decide), filled, isRest, map_cons]
    rfl

end Substitution

end Rustasea.Routing
