import Rustasea.Routing.Dispatch

namespace Rustasea.Routing

open List

open PercentEncoding (decodeEscapes decodeEscapes_eq_self_iff hasEscape
  length_decodeEscapes_le ofUtf8? ofUtf8?_utf8 splitOnce utf8 utf8_of_ofUtf8?)

/-!
# What a path template captures

A template and a request path are compared segment by segment.  A named
parameter takes everything up to the next slash, a wildcard everything up to
the end, and the extractor decodes what was taken.  The binding layer reads a
parameter from the two paths once more, on its own.
-/

abbrev Text := List Char

def segments (path : Text) : List Text := path.splitOn '/'

def joined (parts : List Text) : Text := parts.flatMap ('/' :: ·)

variable {parts : List Text}

theorem segments_append_joined {part : Text} (free : '/' ∉ part)
    (allFree : ∀ part ∈ parts, '/' ∉ part) : segments (part ++ joined parts) = part :: parts := by
  induction parts generalizing part with
  | nil => rw [joined, flatMap_nil, append_nil, segments, splitOn_eq_singleton free]
  | cons next rest ih =>
    rw [forall_mem_cons] at allFree
    rw [joined, flatMap_cons, segments, cons_append,
      splitOn_append_cons_self_of_not_mem free, ← joined, ← segments, ih allFree.1 allFree.2]

theorem segments_joined (allFree : ∀ part ∈ parts, '/' ∉ part) :
    segments (joined parts) = [] :: parts :=
  segments_append_joined not_mem_nil allFree

/-! ## Templates -/

def wildcardName : Text → Option Text
  | '*' :: name => some name
  | _ => none

def capturedName (pattern : Text) : Option Text :=
  (wildcardName pattern).or ((splitOnce ':' pattern).map (·.2))

/-- Whether a segment is a text, or captures one part of its own. -/
def isPattern (isLast : Bool) (pattern : Text) : Bool :=
  match wildcardName pattern with
  | some name => isLast && name ≠ [] && ':' ∉ name && '*' ∉ name
  | none =>
    '*' ∉ pattern &&
      match splitOnce ':' pattern with
      | some (_, name) => name ≠ [] && ':' ∉ name
      | none => true

/-- Whether every segment is one that axum takes. -/
def isTemplate (template : List Text) : Bool :=
  template.dropLast.all (isPattern false) && template.getLast?.all (isPattern true)

/-- No two parameters of a template have one name. -/
def HasDistinctNames (template : List Text) : Prop := (template.filterMap capturedName).Nodup

/-- What the segments of a template capture of a path's, when they match. -/
def captures : (template path : List Text) → Option (List (Text × Text))
  | [], [] => some []
  | pattern :: patterns, segment :: rest =>
    match wildcardName pattern with
    | some name =>
      let tail := segment ++ joined rest
      if patterns = [] ∧ tail ≠ [] then some [(name, tail)]
      else none
    | none =>
      match splitOnce ':' pattern with
      | some (before, name) =>
        if before <+: segment ∧ before.length < segment.length then
          (captures patterns rest).map ((name, segment.drop before.length) :: ·)
        else none
      | none =>
        if pattern = segment then captures patterns rest
        else none
  | _, _ => none

structure PathMatcher where
  captured : (template path : Text) → Option (List (Text × Text))

def PathMatcher.Documented (paths : PathMatcher) : Prop :=
  ∀ template path, isTemplate (segments template) = true → paths.captured template path =
        captures (segments template) (segments path)

/-- The text that the path extractor makes of what was captured. -/
def percentDecode (raw : Text) : Option Text :=
  (ofUtf8? (decodeEscapes (utf8 (String.ofList raw)))).map String.toList

theorem percentDecode_eq_self_iff {raw : Text} :
    percentDecode raw = some raw ↔ hasEscape (utf8 (String.ofList raw)) = false := by
  rw [← decodeEscapes_eq_self_iff, percentDecode, Option.map_eq_some_iff]
  constructor
  · rintro ⟨text, isText, rfl⟩
    rw [String.ofList_toList] at isText ⊢
    exact (utf8_of_ofUtf8? isText).symm
  · intro same
    exact ⟨String.ofList raw, by rw [same, ofUtf8?_utf8], String.toList_ofList⟩

/-! ## The binding layer's own reading -/

def extractParam (uriPath template param : Text) : Option Text :=
  let templateSegments := segments template
  let uriSegments := segments uriPath
  if templateSegments.length ≠ uriSegments.length then none
  else (templateSegments.zip uriSegments).lookup (':' :: param)

theorem capturedName_colon (param : Text) : capturedName (':' :: param) = some param :=
  rfl

variable {captured : List (Text × Text)}

theorem captures_cons {pattern segment : Text} {patterns rest : List Text}
    (isCaptured : captures (pattern :: patterns) (segment :: rest) = some captured) :
    (∃ name, wildcardName pattern = some name ∧ patterns = [] ∧
      ∃ value, captured = [(name, value)]) ∨
    (capturedName pattern = none ∧ pattern = segment ∧ captures patterns rest = some captured) ∨
    ∃ before name value others, splitOnce ':' pattern = some (before, name) ∧
      capturedName pattern = some name ∧ segment = before ++ value ∧ value ≠ [] ∧
      captures patterns rest = some others ∧ captured = (name, value) :: others := by
  rw [captures] at isCaptured
  cases isWild : wildcardName pattern with
  | some name =>
    simp only [isWild] at isCaptured
    split at isCaptured
    · next isEnd =>
      cases isCaptured
      exact .inl ⟨name, rfl, isEnd.1, _, rfl⟩
    · cases isCaptured
  | none =>
    cases cut : splitOnce ':' pattern with
    | none =>
      simp only [isWild, cut] at isCaptured
      split at isCaptured
      · next same => exact .inr (.inl ⟨by simp [capturedName, isWild, cut], same, isCaptured⟩)
      · cases isCaptured
    | some parts =>
      simp only [isWild, cut] at isCaptured
      split at isCaptured
      · next fits =>
        obtain ⟨⟨value, rfl⟩, longer⟩ := fits
        obtain ⟨others, isRest, rfl⟩ := Option.map_eq_some_iff.mp isCaptured
        refine .inr (.inr ⟨parts.1, parts.2, value, others, rfl,
          by simp [capturedName, isWild, cut], rfl, ?_, isRest, ?_⟩)
        · rintro rfl
          simp at longer
        · simp
      · cases isCaptured

variable {template path : List Text}

theorem names_captures (isCaptured : captures template path = some captured) :
    captured.map (·.1) = template.filterMap capturedName := by
  induction template generalizing path captured with
  | nil =>
    cases path with
    | nil =>
      cases isCaptured
      rfl
    | cons segment rest => cases isCaptured
  | cons pattern patterns ih =>
    cases path with
    | nil => cases isCaptured
    | cons segment rest =>
      rw [filterMap_cons]
      rcases captures_cons isCaptured with
        ⟨name, isWild, rfl, value, rfl⟩ | ⟨isNameless, -, isRest⟩ |
          ⟨before, name, value, others, -, isNamed, -, -, isRest, rfl⟩
      · rw [capturedName, isWild]
        rfl
      · rw [isNameless]
        exact ih isRest
      · rw [isNamed, map_cons, ih isRest]

theorem lookup_zip_eq_lookup_captures (isCaptured : captures template path = some captured)
    (distinct : (template.filterMap capturedName).Nodup) {param : Text}
    (isWhole : ':' :: param ∈ template) :
    (template.zip path).lookup (':' :: param) = captured.lookup param := by
  induction template generalizing path captured with
  | nil => cases isWhole
  | cons pattern patterns ih =>
    cases path with
    | nil => cases isCaptured
    | cons segment rest =>
      rw [filterMap_cons] at distinct
      rw [zip_cons_cons, lookup_cons]
      rcases captures_cons isCaptured with
        ⟨name, isWild, rfl, -⟩ | ⟨isNameless, rfl, isRest⟩ |
          ⟨before, name, value, others, cut, isNamed, rfl, -, isRest, rfl⟩
      · rw [← mem_singleton.mp isWhole] at isWild
        cases isWild
      · rw [isNameless] at distinct
        rcases mem_cons.mp isWhole with isHead | isBehind
        · rw [← isHead] at isNameless
          cases isNameless
        · have differs : ':' :: param ≠ pattern := by
            rintro rfl
            cases isNameless
          rw [beq_eq_false_iff_ne.mpr differs]
          exact ih isRest distinct isBehind
      · rw [isNamed, nodup_cons] at distinct
        by_cases isHead : ':' :: param = pattern
        · subst isHead
          cases cut
          simp
        · have isBehind : ':' :: param ∈ patterns := (mem_cons.mp isWhole).resolve_left isHead
          have otherName : param ≠ name := by
            rintro rfl
            exact distinct.1 (mem_filterMap.mpr ⟨_, isBehind, capturedName_colon _⟩)
          rw [beq_eq_false_iff_ne.mpr isHead, lookup_cons, beq_eq_false_iff_ne.mpr otherName]
          exact ih isRest distinct.2 isBehind

end Rustasea.Routing
