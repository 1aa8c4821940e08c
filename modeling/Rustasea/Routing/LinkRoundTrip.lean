import Mathlib.Algebra.GroupWithZero.Nat
import Rustasea.Library.Framing
import Rustasea.Routing.BoundValues
import Rustasea.Routing.NamedLinks

namespace Rustasea.Routing

open List

open PercentEncoding (decodeEscapes hasEscape length_decodeEscapes_le ofUtf8?
  splitOnce utf8 utf8_injective utf8_ofList utf8_of_ofUtf8?)

/-!
# Links that are routed back

A link to a named route is requested again.  What stands between its host and
its query is matched against the path that axum was given, and the parameters
are extracted and decoded.  Values are written into a link as they are, so a
link leads back exactly when no value has a character or an escape that a
request reads in another way.
-/

/-! ## The round trip -/

/-- A path whose placeholders are whole segments with distinct names. -/
structure SegmentedPath where
  parts : List Part
  whole : AreWhole parts
  distinct : (parts.filterMap Part.param?).Nodup

namespace SegmentedPath

def path (route : SegmentedPath) : String := String.ofList (spelledPath route.parts)

def params (route : SegmentedPath) : List Text := route.parts.filterMap Part.param?

def template (route : SegmentedPath) : Text := (toAxumPath route.path).toList

end SegmentedPath

/-- The path of a link: behind the host, in front of a query or a fragment. -/
def uriPath (domain : Option String) (url : Text) : Text :=
  let behindHost :=
    match domain with
    | some domain => url.drop ("//".toList ++ domain.toList).length
    | none => url
  behindHost.takeWhile fun character => character ≠ '?' && character ≠ '#'

/-- A link is generated, matches its route, and gives the values back. -/
def RoundTrips (paths : PathMatcher) (index : NamedRoutes) (name : String)
    (route : SegmentedPath) (given : List (Text × Text)) (values : Text → Text) : Prop :=
  ∃ url, index.resolve name given = some url ∧
      let requested := uriPath (index.domains name).join url
      (paths.captured route.template requested).isSome = true ∧ ∀ param ∈ route.params,
          (extractParam requested route.template param).bind percentDecode = some (values param)

/-- Nothing in the link is read as a slash, a query, a fragment or an escape. -/
structure IsPlainLink (route : SegmentedPath) (values : Text → Text) : Prop where
  texts : ∀ verbatim, Part.text verbatim ∈ route.parts → '?' ∉ verbatim ∧ '#' ∉ verbatim
  inSegment : ∀ param ∈ route.params, '/' ∉ values param
  inPath : ∀ param ∈ route.params, '?' ∉ values param ∧ '#' ∉ values param
  unescaped : ∀ param ∈ route.params, hasEscape (utf8 (String.ofList (values param))) = false

/-! ## The link and its template -/

def linkedSegments (route : SegmentedPath) (values : Text → Text) : List Text :=
  route.parts.map (Part.linked values)

theorem template_eq (route : SegmentedPath) :
    route.template = joined (route.parts.map Part.pattern) := by
  rw [SegmentedPath.template, SegmentedPath.path, toList_toAxumPath,
    axumText_spelledPath route.whole]

variable {values : Text → Text} {route : SegmentedPath}

theorem resolve_path {index : NamedRoutes} {name : String}
    (isNamed : index.paths name = some route.path) {given : List (Text × Text)}
    (assigned : ∀ param ∈ route.params, given.lookup param = some (values param)) :
    ∃ url, index.resolve name given = some url ∧
      uriPath (index.domains name).join url = (joined (linkedSegments route values)).takeWhile
          fun character => character ≠ '?' && character ≠ '#' := by
  have filled : substitute (fun key => given.lookup key) route.path.toList =
      some (joined (linkedSegments route values)) := by
    rw [SegmentedPath.path, String.toList_ofList]
    exact substitute_spelledPath route.whole assigned
  rw [NamedRoutes.resolve, isNamed, Option.bind_some, filled]
  refine ⟨_, rfl, ?_⟩
  cases (index.domains name).join with
  | none => rfl
  | some domain => simp [uriPath]

variable {parts : List Part}

theorem AreWhole.forall (whole : AreWhole parts) {property : Part → Prop}
    (ofWhole : ∀ {part after}, part.IsWhole after → property part) :
    ∀ part ∈ parts, property part := by
  induction parts with
  | nil => simp
  | cons part rest ih =>
    rw [forall_mem_cons]
    exact ⟨ofWhole whole.1, ih whole.2⟩

/-- How a whole segment's pattern is cut: at the front, or not at all. -/
structure Part.IsCut (part : Part) : Prop where
  noSlash : '/' ∉ part.pattern
  noStar : '*' ∉ part.pattern
  cut : splitOnce ':' part.pattern = part.param?.map fun name => ([], name)
  named : ∀ name ∈ part.param?, name ≠ [] ∧ ':' ∉ name

variable {part : Part}

theorem Part.IsWhole.isCut {after : Text} (isWhole : part.IsWhole after) : part.IsCut := by
  match part with
  | .text verbatim =>
    obtain ⟨⟨noSlash, noColon, noStar⟩, -⟩ := isWhole
    exact ⟨noSlash, noStar, splitOnce_of_notMem noColon, by simp [Part.param?]⟩
  | .braced name field =>
    obtain ⟨⟨isNamed, noSlash, noColon, noStar, -⟩, -⟩ := isWhole
    exact ⟨by simp [Part.pattern, noSlash], by simp [Part.pattern, noStar],
      rfl, by simp [Part.param?, isNamed, noColon]⟩
  | .colon name =>
    have free {other : Char} (notIdent : isIdentChar other = false) : other ∉ name :=
      notMem_of_isIdentChar isWhole.2 notIdent
    have isNamed : name ≠ [] := by
      rintro rfl
      cases isWhole.1
    exact ⟨by simp [Part.pattern, free (show isIdentChar '/' = false by decide)],
      by simp [Part.pattern, free (show isIdentChar '*' = false by decide)], rfl,
      by simp [Part.param?, isNamed, free (show isIdentChar ':' = false by decide)]⟩

namespace Part.IsCut

variable {part : Part}

theorem wildcardName_eq (isCut : part.IsCut) : wildcardName part.pattern = none := by
  have noStar := isCut.noStar
  unfold wildcardName
  split
  · next starts => simp [starts] at noStar
  · rfl

theorem capturedName_eq (isCut : part.IsCut) : capturedName part.pattern = part.param? := by
  rw [capturedName, isCut.wildcardName_eq, isCut.cut]
  cases part.param? <;> rfl

theorem isPattern_eq (isCut : part.IsCut) (isLast : Bool) :
    isPattern isLast part.pattern = true := by
  have named := isCut.named
  rw [isPattern, isCut.wildcardName_eq, isCut.cut]
  cases isParam : part.param? with
  | none => simpa using isCut.noStar
  | some name => simpa [isCut.noStar] using named name isParam

end Part.IsCut

section Template

variable (route : SegmentedPath)

theorem isCut_of_mem : ∀ part ∈ route.parts, part.IsCut := route.whole.forall Part.IsWhole.isCut

theorem segments_template : segments route.template = [] :: route.parts.map Part.pattern := by
  have noSlash : ∀ pattern ∈ route.parts.map Part.pattern, '/' ∉ pattern := by
    rw [forall_mem_map]
    exact fun part isPart => (isCut_of_mem route part isPart).noSlash
  rw [template_eq, segments_joined noSlash]

theorem isTemplate_template : isTemplate (segments route.template) = true := by
  have arePatterns (isLast : Bool) :
      ∀ pattern ∈ segments route.template, isPattern isLast pattern = true := by
    rw [segments_template, forall_mem_cons, forall_mem_map]
    exact ⟨rfl, fun part isPart => (isCut_of_mem route part isPart).isPattern_eq isLast⟩
  have front : (segments route.template).dropLast.all (isPattern false) = true := by
    rw [all_eq_true]
    exact fun pattern isIn => arePatterns false pattern (dropLast_subset _ isIn)
  have last : (segments route.template).getLast?.all (isPattern true) = true := by
    rw [Option.all_eq_true]
    exact fun pattern isLast => arePatterns true pattern (mem_of_getLast? isLast)
  simp [isTemplate, front, last]

end Template

/-! ## A plain link is routed back -/

theorem Part.linked_of_none (isText : part.param? = none) (values : Text → Text) :
    part.linked values = part.pattern := by
  cases part with
  | text verbatim => rfl
  | braced name field => cases isText
  | colon name => cases isText

theorem Part.linked_of_some {name : Text} (isParam : part.param? = some name)
    (values : Text → Text) : part.linked values = values name ∧ part.pattern = ':' :: name := by
  cases part with
  | text verbatim => cases isParam
  | braced name field | colon name =>
    cases isParam
    exact ⟨rfl, rfl⟩

theorem Part.IsCut.pattern_eq_colon_iff (isCut : part.IsCut) (param : Text) :
    part.pattern = ':' :: param ↔ part.param? = some param := by
  constructor
  · intro same
    rw [← isCut.capturedName_eq, same, capturedName_colon]
  · intro isParam
    exact (part.linked_of_some isParam id).2

theorem isSome_captures_linked (areCut : ∀ part ∈ parts, part.IsCut)
    (nonEmpty : ∀ param ∈ parts.filterMap Part.param?, values param ≠ []) :
    (captures (parts.map Part.pattern) (parts.map (Part.linked values))).isSome = true := by
  induction parts with
  | nil => rfl
  | cons part rest ih =>
    rw [forall_mem_cons] at areCut
    rw [map_cons, map_cons, captures, areCut.1.wildcardName_eq, areCut.1.cut]
    cases isParam : part.param? with
    | none =>
      rw [filterMap_cons, isParam] at nonEmpty
      simpa [part.linked_of_none isParam values] using ih areCut.2 nonEmpty
    | some name =>
      rw [filterMap_cons, isParam, forall_mem_cons] at nonEmpty
      have longer : 0 < (values name).length := length_pos_iff.mpr nonEmpty.1
      simpa [(part.linked_of_some isParam values).1, longer] using ih areCut.2 nonEmpty.2

theorem lookup_zip_linked (areCut : ∀ part ∈ parts, part.IsCut) (values : Text → Text)
    {param : Text} (isParam : param ∈ parts.filterMap Part.param?) :
    ((parts.map Part.pattern).zip (parts.map (Part.linked values))).lookup (':' :: param) =
      some (values param) := by
  induction parts with
  | nil => cases isParam
  | cons part rest ih =>
    rw [forall_mem_cons] at areCut
    rw [map_cons, map_cons, zip_cons_cons, lookup_cons]
    by_cases isHead : part.param? = some param
    · obtain ⟨isValue, isPattern⟩ := part.linked_of_some isHead values
      simp [isValue, isPattern]
    · have differs : ':' :: param ≠ part.pattern := fun same =>
        isHead ((areCut.1.pattern_eq_colon_iff param).mp same.symm)
      have isBehind : param ∈ rest.filterMap Part.param? := by
        obtain ⟨other, isOther, isName⟩ := mem_filterMap.mp isParam
        rcases mem_cons.mp isOther with rfl | isIn
        · exact absurd isName isHead
        · exact mem_filterMap.mpr ⟨other, isIn, isName⟩
      rw [beq_eq_false_iff_ne.mpr differs]
      exact ih areCut.2 isBehind

theorem forall_linkedSegments {property : Text → Prop} :
    (∀ segment ∈ linkedSegments route values, property segment) ↔
      (∀ verbatim, Part.text verbatim ∈ route.parts → property verbatim) ∧
      ∀ param ∈ route.params, property (values param) := by
  rw [linkedSegments, forall_mem_map]
  constructor
  · intro ofPart
    refine ⟨fun verbatim isPart => ofPart _ isPart, ?_⟩
    intro param isParam
    obtain ⟨part, isPart, isName⟩ := mem_filterMap.mp isParam
    rw [← (part.linked_of_some isName values).1]
    exact ofPart part isPart
  · rintro ⟨ofText, ofParam⟩ part isPart
    cases isName : part.param? with
    | none =>
      cases part with
      | text verbatim => exact ofText verbatim isPart
      | braced name field => cases isName
      | colon name => cases isName
    | some name =>
      rw [(part.linked_of_some isName values).1]
      exact ofParam name (mem_filterMap.mpr ⟨part, isPart, isName⟩)

theorem mem_joined {character : Char} (notSlash : character ≠ '/') (parts : List Text) :
    character ∈ joined parts ↔ ∃ part ∈ parts, character ∈ part := by
  simp [joined, notSlash]

theorem takeWhile_plain (plain : IsPlainLink route values) :
    (joined (linkedSegments route values)).takeWhile
      (fun character => character ≠ '?' && character ≠ '#') =
      joined (linkedSegments route values) := by
  have inPath : ∀ segment ∈ linkedSegments route values, '?' ∉ segment ∧ '#' ∉ segment :=
    forall_linkedSegments.mpr ⟨plain.texts, plain.inPath⟩
  rw [takeWhile_eq_self_iff]
  intro character isIn
  have notQuery : character ≠ '?' := by
    rintro rfl
    obtain ⟨segment, isSegment, within⟩ := (mem_joined (by decide) _).mp isIn
    exact (inPath segment isSegment).1 within
  have notFragment : character ≠ '#' := by
    rintro rfl
    obtain ⟨segment, isSegment, within⟩ := (mem_joined (by decide) _).mp isIn
    exact (inPath segment isSegment).2 within
  simp [notQuery, notFragment]

theorem segments_plain (plain : IsPlainLink route values) :
    segments (joined (linkedSegments route values)) = [] :: linkedSegments route values := by
  refine segments_joined (forall_linkedSegments.mpr ⟨?_, plain.inSegment⟩)
  intro verbatim isPart
  exact (isCut_of_mem route _ isPart).noSlash

theorem extracts_of_plain
    (nonEmpty : ∀ param ∈ route.params, values param ≠ []) (plain : IsPlainLink route values) :
    (captures (segments route.template) (segments (joined (linkedSegments route values)))).isSome =
      true ∧
    ∀ param ∈ route.params, (extractParam (joined (linkedSegments route values)) route.template
        param).bind percentDecode =
        some (values param) := by
  have areCut := isCut_of_mem route
  have isCaptured := isSome_captures_linked areCut nonEmpty
  refine ⟨?_, ?_⟩
  · rw [segments_template, segments_plain plain, captures]
    simpa [wildcardName, splitOnce, linkedSegments] using isCaptured
  · intro param isParam
    have isValue := lookup_zip_linked areCut values isParam
    have sameLength : ([] :: route.parts.map Part.pattern).length =
        ([] :: linkedSegments route values).length := by
      simp [linkedSegments]
    rw [extractParam, segments_template, segments_plain plain,
      if_neg (by simpa using sameLength), zip_cons_cons,
      lookup_cons]
    simp only [linkedSegments, isValue]
    exact percentDecode_eq_self_iff.mpr (plain.unescaped param isParam)

/-! ## A link that is routed back is plain -/

def byteLength (text : Text) : Nat := (utf8 (String.ofList text)).length

theorem byteLength_append (first second : Text) :
    byteLength (first ++ second) = byteLength first + byteLength second := by
  rw [byteLength, utf8_ofList, flatMap_append, length_append,
    ← utf8_ofList, ← utf8_ofList]
  rfl

theorem byteLength_le_of_percentDecode {raw text : Text}
    (isDecoded : percentDecode raw = some text) : byteLength text ≤ byteLength raw := by
  obtain ⟨decoded, isText, rfl⟩ := Option.map_eq_some_iff.mp isDecoded
  rw [byteLength, String.ofList_toList, utf8_of_ofUtf8? isText]
  exact length_decodeEscapes_le _

theorem eq_of_prefix_of_byteLength_le {front text : Text} (isPrefix : front <+: text)
    (long : byteLength text ≤ byteLength front) : front = text := by
  obtain ⟨behind, rfl⟩ := isPrefix
  rw [byteLength_append] at long
  have noBytes : utf8 (String.ofList behind) = utf8 (String.ofList []) := by
    have noLength : (utf8 (String.ofList behind)).length = 0 := by
      simp only [byteLength] at long
      omega
    rw [length_eq_zero_iff.mp noLength, utf8_ofList, flatMap_nil]
  have isEmpty := congrArg String.toList (utf8_injective noBytes)
  rw [String.toList_ofList, String.toList_ofList] at isEmpty
  rw [isEmpty, append_nil]

/-- What a requested segment is, when the request gives the values back. -/
def Fits (values : Text → Text) (part : Part) (segment : Text) : Prop :=
  match part.param? with
  | none => segment = part.linked values
  | some name => percentDecode segment = some (values name)

variable {rest : List Text}

/-- Segments that are captured and give the values back fit one by one. -/
theorem forall₂_fits (areCut : ∀ part ∈ parts, part.IsCut)
    (distinct : (parts.filterMap Part.param?).Nodup) {captured : List (Text × Text)}
    (isCaptured : captures (parts.map Part.pattern) rest = some captured)
    (decoded : ∀ param ∈ parts.filterMap Part.param?,
      (((parts.map Part.pattern).zip rest).lookup (':' :: param)).bind percentDecode =
        some (values param)) : List.Forall₂ (Fits values) parts rest := by
  induction parts generalizing rest captured with
  | nil =>
    cases rest with
    | nil => exact .nil
    | cons segment others => cases isCaptured
  | cons part parts ih =>
    rw [forall_mem_cons] at areCut
    cases rest with
    | nil => cases isCaptured
    | cons segment others =>
      rcases captures_cons isCaptured with
        ⟨name, isWild, -⟩ | ⟨isNameless, same, isRest⟩ |
          ⟨before, name, value, behind, -, isNamed, -, -, isRest, -⟩
      · rw [areCut.1.wildcardName_eq] at isWild
        cases isWild
      · rw [areCut.1.capturedName_eq] at isNameless
        rw [filterMap_cons, isNameless] at distinct decoded
        refine .cons ?_ (ih areCut.2 distinct isRest ?_)
        · rw [Fits, isNameless, part.linked_of_none isNameless, same]
        · intro param isParam
          have differs : ':' :: param ≠ part.pattern := by
            intro isPattern
            rw [areCut.1.pattern_eq_colon_iff param |>.mp isPattern.symm] at isNameless
            cases isNameless
          rw [← decoded param isParam, map_cons, zip_cons_cons,
            lookup_cons, beq_eq_false_iff_ne.mpr differs]
      · rw [areCut.1.capturedName_eq] at isNamed
        have isPattern := (part.linked_of_some isNamed values).2
        rw [filterMap_cons, isNamed] at distinct decoded
        rw [nodup_cons] at distinct
        rw [forall_mem_cons] at decoded
        refine .cons ?_ (ih areCut.2 distinct.2 isRest ?_)
        · simpa [Fits, isNamed, isPattern] using decoded.1
        · intro param isParam
          have differs : ':' :: param ≠ part.pattern := by
            rw [isPattern]
            intro sameName
            cases sameName
            exact distinct.1 isParam
          rw [← decoded.2 param isParam, map_cons, zip_cons_cons,
            lookup_cons, beq_eq_false_iff_ne.mpr differs]

theorem byteLength_linked_le (fit : List.Forall₂ (Fits values) parts rest) :
    byteLength (joined (parts.map (Part.linked values))) ≤ byteLength (joined rest) := by
  induction fit with
  | nil => exact Nat.le_refl _
  | @cons part segment parts rest fits _ ih =>
    have shorter : byteLength (part.linked values) ≤ byteLength segment := by
      rw [Fits] at fits
      cases isParam : part.param? with
      | none =>
        simp only [isParam] at fits
        exact Nat.le_of_eq (congrArg byteLength fits.symm)
      | some name =>
        simp only [isParam] at fits
        rw [(part.linked_of_some isParam values).1]
        exact byteLength_le_of_percentDecode fits
    have ofCons (first : Text) (others : List Text) :
        byteLength (joined (first :: others)) =
          byteLength ['/'] + (byteLength first + byteLength (joined others)) := by
      rw [joined_cons, ← byteLength_append, ← byteLength_append, singleton_append]
    rw [map_cons, ofCons, ofCons]
    omega

theorem count_joined (parts : List Text) :
    (joined parts).count '/' = parts.length + (parts.map (List.count '/')).sum := by
  induction parts with
  | nil => rfl
  | cons part rest ih =>
    rw [joined_cons, count_cons_self, count_append, length_cons, map_cons,
      sum_cons]
    omega

theorem intercalate_cons (part : Text) (parts : List Text) :
    ['/'].intercalate (part :: parts) = part ++ joined parts := by
  induction parts generalizing part with
  | nil => simp
  | cons next rest ih =>
    rw [intercalate_cons_cons, ih, joined_cons, append_assoc, singleton_append]

variable {requested : Text}

theorem captures_behind_slash
    (isCaptured : (captures (segments route.template) (segments requested)).isSome = true) :
    ∃ rest captured, segments requested = [] :: rest ∧
      captures (route.parts.map Part.pattern) rest = some captured := by
  obtain ⟨captured, isCaptured⟩ := Option.isSome_iff_exists.mp isCaptured
  rw [segments_template] at isCaptured
  cases isSegments : segments requested with
  | nil =>
    rw [isSegments] at isCaptured
    cases isCaptured
  | cons first rest =>
    rw [isSegments] at isCaptured
    rcases captures_cons isCaptured with
      ⟨name, isWild, -⟩ | ⟨-, rfl, isRest⟩ | ⟨before, name, value, others, -, isNamed, -⟩
    · cases isWild
    · exact ⟨rest, captured, rfl, isRest⟩
    · cases isNamed

theorem lookup_of_extractParam (isSegments : segments requested = [] :: rest) {param value : Text}
    (isValue : extractParam requested route.template param = some value) :
    ((route.parts.map Part.pattern).zip rest).lookup (':' :: param) = some value := by
  have sameLength := (of_extractParam isValue).1
  rw [← isValue, extractParam, if_neg (by simpa using sameLength), segments_template, isSegments,
    zip_cons_cons]
  rfl

theorem plain_of_extracts
    (isPath : requested = (joined (linkedSegments route values)).takeWhile fun character =>
        character ≠ '?' && character ≠ '#')
    (isCaptured : (captures (segments route.template) (segments requested)).isSome = true)
    (extracted : ∀ param ∈ route.params,
      (extractParam requested route.template param).bind percentDecode = some (values param)) :
    IsPlainLink route values := by
  obtain ⟨rest, captured, isSegments, isRest⟩ := captures_behind_slash isCaptured
  have isJoined : requested = joined rest := by
    have isWhole : ['/'].intercalate (segments requested) = requested :=
      intercalate_splitOn '/'
    rw [← isWhole, isSegments, intercalate_cons, nil_append]
  have fit : List.Forall₂ (Fits values) route.parts rest := by
    refine forall₂_fits (isCut_of_mem route) route.distinct isRest ?_
    intro param isParam
    obtain ⟨value, isValue, isDecoded⟩ := Option.bind_eq_some_iff.mp (extracted param isParam)
    rw [lookup_of_extractParam isSegments isValue, Option.bind_some, isDecoded]
  -- The request has at least the link's bytes, so nothing was cut off.
  have isLink : requested = joined (linkedSegments route values) := by
    refine eq_of_prefix_of_byteLength_le ?_ ?_
    · rw [isPath]
      exact takeWhile_prefix _
    · rw [isJoined]
      exact byteLength_linked_le fit
  have inPath : ∀ segment ∈ linkedSegments route values, '?' ∉ segment ∧ '#' ∉ segment := by
    have kept := takeWhile_eq_self_iff.mp (isPath.symm.trans isLink)
    intro segment isSegment
    refine ⟨fun within => ?_, fun within => ?_⟩
    · simpa using kept '?' ((mem_joined (by decide) _).mpr ⟨_, isSegment, within⟩)
    · simpa using kept '#' ((mem_joined (by decide) _).mpr ⟨_, isSegment, within⟩)
  have restFree : ∀ segment ∈ rest, '/' ∉ segment := by
    intro segment isSegment
    have isPiece : segment ∈ requested.splitOn '/' := by
      rw [← segments, isSegments]
      exact mem_cons_of_mem _ isSegment
    exact Framing.notMem_of_mem_splitOn isPiece
  -- A slash within a value would be one more than the template has.
  have linkedFree : ∀ segment ∈ linkedSegments route values, '/' ∉ segment := by
    have sameCount := congrArg (List.count '/') (isJoined.symm.trans isLink)
    have noneInRest : (rest.map (List.count '/')).sum = 0 := by
      rw [List.sum_eq_zero_iff_forall_eq_nat, forall_mem_map]
      exact fun segment isSegment => count_eq_zero.mpr (restFree segment isSegment)
    rw [count_joined, count_joined, noneInRest, linkedSegments,
      length_map, fit.length_eq, Nat.add_left_cancel_iff, eq_comm,
      List.sum_eq_zero_iff_forall_eq_nat, forall_mem_map] at sameCount
    intro segment isSegment
    exact count_eq_zero.mp (sameCount segment isSegment)
  have sameSegments : rest = linkedSegments route values := by
    have both := congrArg segments (isJoined.symm.trans isLink)
    rw [segments_joined restFree, segments_joined linkedFree] at both
    exact tail_eq_of_cons_eq both
  have unescaped : ∀ part ∈ route.parts, Fits values part (part.linked values) := by
    rw [sameSegments, linkedSegments, forall₂_map_right_iff, forall₂_same] at fit
    exact fit
  refine ⟨(forall_linkedSegments.mp inPath).1, (forall_linkedSegments.mp linkedFree).2,
    (forall_linkedSegments.mp inPath).2, ?_⟩
  intro param isParam
  obtain ⟨part, isPart, isName⟩ := mem_filterMap.mp isParam
  have fits := unescaped part isPart
  rw [Fits, isName, (part.linked_of_some isName values).1] at fits
  exact percentDecode_eq_self_iff.mp fits

/-! ## The round trip is plainness -/

section RoundTrip

variable {paths : PathMatcher} (documented : paths.Documented) {index : NamedRoutes} {name : String}
  {route : SegmentedPath} (isNamed : index.paths name = some route.path)
  {given : List (Text × Text)} {values : Text → Text}
  (assigned : ∀ param ∈ route.params, given.lookup param = some (values param))

include documented isNamed assigned

theorem isPlainLink_of_roundTrips (returns : RoundTrips paths index name route given values) :
    IsPlainLink route values := by
  obtain ⟨url, isUrl, isCaptured, extracted⟩ := returns
  obtain ⟨other, isOther, isPath⟩ := resolve_path isNamed assigned
  rw [isOther] at isUrl
  cases isUrl
  rw [documented _ _ (isTemplate_template route)] at isCaptured
  exact plain_of_extracts isPath isCaptured extracted

theorem roundTrips_of_isPlainLink (nonEmpty : ∀ param ∈ route.params, values param ≠ [])
    (plain : IsPlainLink route values) : RoundTrips paths index name route given values := by
  obtain ⟨url, isUrl, isPath⟩ := resolve_path isNamed assigned
  rw [takeWhile_plain plain] at isPath
  obtain ⟨isCaptured, extracted⟩ := extracts_of_plain nonEmpty plain
  refine ⟨url, isUrl, ?_, ?_⟩
  · rw [documented _ _ (isTemplate_template route), isPath]
    exact isCaptured
  · rw [isPath]
    exact extracted

end RoundTrip

/-- A link leads back to its values exactly when it is plain. -/
theorem links_round_trip_iff {paths : PathMatcher} (documented : paths.Documented)
    {routes : List RouteEntry} {name : String} {route : SegmentedPath}
    (isNamed : (NamedRoutes.fromRoutes routes).paths name = some route.path)
    {given : List (Text × Text)} {values : Text → Text}
    (assigned : ∀ param ∈ route.params, given.lookup param = some (values param))
    (nonEmpty : ∀ param ∈ route.params, values param ≠ []) :
    RoundTrips paths (NamedRoutes.fromRoutes routes) name route given values ↔
      IsPlainLink route values :=
  ⟨isPlainLink_of_roundTrips documented isNamed assigned,
    roundTrips_of_isPlainLink documented isNamed assigned nonEmpty⟩

theorem Part.isWhole_text {verbatim : Text} (noSlash : '/' ∉ verbatim) (noColon : ':' ∉ verbatim)
    (noStar : '*' ∉ verbatim) (noBrace : '{' ∉ verbatim) (after : Text) :
    (Part.text verbatim).IsWhole after := by
  refine ⟨⟨noSlash, noColon, noStar⟩, ?_⟩
  rintro before behind rfl
  simp at noBrace

def userPath : SegmentedPath where
  parts := [.text "users".toList, .braced "id".toList none]
  whole :=
    ⟨Part.isWhole_text (by decide) (by decide) (by decide) (by decide) _,
      ⟨by decide, by simp⟩, trivial⟩
  distinct := by decide

def userRoutes : List RouteEntry :=
  [{ method := "GET"
     path := "/users/{id}"
     name := some "users.show"
     middleware := []
     authorizations := []
     domain := none
     bindingFields := []
     controller := none
     handler := none }]

theorem userRoutes_named :
    (NamedRoutes.fromRoutes userRoutes).paths "users.show" = some userPath.path := by
  rfl

theorem links_round_trip_iff_42 :
    RoundTrips segmentMatcher (NamedRoutes.fromRoutes userRoutes) "users.show"
      userPath [("id".toList, "42".toList)] (fun _ => "42".toList) ↔
      IsPlainLink userPath fun _ => "42".toList :=
  links_round_trip_iff segmentMatcher_documented userRoutes_named (by decide) (by decide)

/-- A value with a slash is taken for two segments. -/
theorem slash_in_link_is_lost :
    ¬ ∀ (paths : PathMatcher), paths.Documented →
      ∀ (routes : List RouteEntry) (name : String) (route : SegmentedPath),
        (NamedRoutes.fromRoutes routes).paths name = some route.path →
        ∀ (given : List (Text × Text)) (values : Text → Text),
          (∀ param ∈ route.params, given.lookup param = some (values param)) →
          (∀ param ∈ route.params, values param ≠ []) →
          RoundTrips paths (NamedRoutes.fromRoutes routes) name route given values := by
  intro leadBack
  have assigned : ∀ param ∈ userPath.params,
      [("id".toList, "a/b".toList)].lookup param = some "a/b".toList := by
    decide
  have returns := leadBack segmentMatcher segmentMatcher_documented userRoutes "users.show"
      userPath userRoutes_named [("id".toList, "a/b".toList)]
      (fun _ => "a/b".toList) assigned (by decide)
  have plain :=
    isPlainLink_of_roundTrips segmentMatcher_documented userRoutes_named assigned returns
  exact plain.inSegment "id".toList (by decide) (by decide)

end Rustasea.Routing
