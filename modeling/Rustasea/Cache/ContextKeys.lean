import Mathlib.Data.List.Induction
import Mathlib.Data.String.Basic
import Rustasea.Library.PairOrder
import Rustasea.Library.PercentEncoding

namespace Rustasea.Cache

open List PercentEncoding

open PairOrder (pairLe)
open PercentEncoding (encode utf8 splitOnce terminated forall_mem_intercalate)

/-!
# The keys of a context

A repository writes its prefix, its context and the key into one text.  Values
are percent-encoded, names and keys are not: a scoped key is always the key of
some unscoped repository too, and texts without the delimiters are told apart.
-/

/-- A context map, in the order it is iterated; its names are distinct. -/
structure ContextMap where
  pairs : List (String × String)
  distinct : (pairs.map Prod.fst).Nodup

def ContextMap.Same (first second : ContextMap) : Prop := first.pairs.Perm second.pairs

/-- Percent-encode a context value for safe embedding in a key segment. -/
def percentEncode (value : String) : String :=
  String.ofList ((encode (utf8 value)).map fun byte => Char.ofNat byte.toNat)

def pairText (pair : String × String) : List Char := pair.1.toList ++ '=' :: pair.2.toList

def ContextMap.encoded (context : ContextMap) : List (String × String) :=
  (context.pairs.map fun (name, value) =>
    (name, percentEncode value)).mergeSort pairLe

def ContextMap.segment (context : ContextMap) : List Char :=
  ['&'].intercalate (context.encoded.map pairText)

def ContextMap.single (name value : String) : ContextMap where
  pairs := [(name, value)]
  distinct := nodup_singleton name

@[simp] theorem ContextMap.segment_single (name value : String) :
    (single name value).segment = pairText (name, percentEncode value) := by
  rw [segment, encoded, single, map_singleton, mergeSort_singleton,
    map_singleton, intercalate_singleton]

/-- What a repository writes before a key. -/
structure Repository where
  keyPrefix : String
  context : Option (List Char)

namespace Repository

def new (keyPrefix : String) : Repository where
  keyPrefix := keyPrefix
  context := none

/-- A repository whose keys carry one more context segment. -/
@[grind =] def withContext (repository : Repository) (context : ContextMap) : Repository :=
  { repository with
    context :=
      some
        (match repository.context with
        | some base =>
          if base.isEmpty then context.segment
          else base ++ ':' :: context.segment
        | none => context.segment) }

@[grind =] def key (repository : Repository) (key : String) : List Char :=
  match repository.context with
  | some context => repository.keyPrefix.toList ++ (context ++ ':' :: key.toList)
  | none => repository.keyPrefix.toList ++ key.toList

end Repository

def storeKey (keyPrefix : String) (contexts : List ContextMap) (key : String) : List Char :=
  (contexts.foldl Repository.withContext (.new keyPrefix)).key key

def SameContexts (first second : List ContextMap) : Prop :=
  List.Forall₂ ContextMap.Same first second

/-! ## Encoded values -/

theorem toNat_ofNat_byte (byte : UInt8) : (Char.ofNat byte.toNat).toNat = byte.toNat := by
  have below := byte.toNat_lt
  have isValid : byte.toNat.isValidChar := .inl (by omega)
  rw [Char.ofNat, dif_pos isValid]
  rfl

theorem percentEncode_injective : Function.Injective percentEncode := by
  intro first second same
  have sameChars := String.ofList_injective same
  have charInjective : Function.Injective fun byte : UInt8 => Char.ofNat byte.toNat := by
    intro byte other sameChar
    apply UInt8.toNat_inj.mp
    rw [← toNat_ofNat_byte byte, ← toNat_ofNat_byte other]
    exact congrArg Char.toNat sameChar
  have sameBytes := encode_injective
      (map_injective_iff.mpr charInjective sameChars)
  have sameText := congrArg PercentEncoding.ofUtf8? sameBytes
  rw [ofUtf8?_utf8, ofUtf8?_utf8] at sameText
  exact Option.some.inj sameText

theorem not_mem_percentEncode {delimiter : Char}
    (isDelimiter : delimiter = ':' ∨ delimiter = '&' ∨ delimiter = '=')
    (value : String) : delimiter ∉ (percentEncode value).toList := by
  rw [percentEncode, String.toList_ofList, mem_map]
  rintro ⟨byte, isIn, isByte⟩
  have sameNumber : byte.toNat = delimiter.toNat := by rw [← isByte, toNat_ofNat_byte]
  have isCode : byte = 58 ∨ byte = 38 ∨ byte = 61 := by
    rcases isDelimiter with rfl | rfl | rfl
    · exact .inl (UInt8.toNat_inj.mp sameNumber)
    · exact .inr (.inl (UInt8.toNat_inj.mp sameNumber))
    · exact .inr (.inr (UInt8.toNat_inj.mp sameNumber))
  rcases isCode with rfl | rfl | rfl <;>
    exact not_mem_encode (by decide) (by decide) _ isIn

/-! ## Nesting -/

variable {repository : Repository}

theorem key_withContext (notEmpty : repository.context ≠ some []) (context : ContextMap)
    (key : String) :
    (repository.withContext context).key key =
      repository.key (String.ofList (context.segment ++ ':' :: key.toList)) := by
  obtain ⟨keyPrefix, base⟩ := repository
  cases base with
  | none => simp [Repository.withContext, Repository.key]
  | some base =>
    have isFull : base.isEmpty = false := by
      rw [isEmpty_eq_false_iff]
      exact fun isEmpty => notEmpty (congrArg some isEmpty)
    simp [Repository.withContext, Repository.key, isFull]

theorem key_withContext_of_empty (isEmpty : repository.context = some []) (context : ContextMap)
    (key : String) :
    (repository.withContext context).key key =
      repository.keyPrefix.toList ++ (context.segment ++ ':' :: key.toList) := by
  simp [Repository.withContext, Repository.key, isEmpty]

@[simp] theorem storeKey_nil (keyPrefix key : String) :
    storeKey keyPrefix [] key = keyPrefix.toList ++ key.toList :=
  rfl

variable (keyPrefix : String)

theorem storeKey_concat (contexts : List ContextMap) (last : ContextMap) (key : String) :
    storeKey keyPrefix (contexts ++ [last]) key =
      ((contexts.foldl Repository.withContext (.new keyPrefix)).withContext last).key key := by
  rw [storeKey, foldl_concat]

theorem keyPrefix_foldl (contexts : List ContextMap) (repository : Repository) :
    (contexts.foldl Repository.withContext repository).keyPrefix = repository.keyPrefix := by
  induction contexts generalizing repository with
  | nil => rfl
  | cons context contexts ih =>
    rw [foldl_cons, ih]
    rfl

/-! ## What a scoped key looks like -/

/-- The text has the shape of a scoped key: a segment, a colon and the rest. -/
def ScopedShape (text : List Char) : Prop :=
  ∃ before after,
    text = before ++ ':' :: after ∧ (before = [] ∨
        ∃ name value, before = pairText (name, percentEncode value))

theorem exists_intercalate_concat (separator : List Char) (parts : List (List Char))
    (last : List Char) : ∃ front, separator.intercalate (parts ++ [last]) = front ++ last := by
  induction parts with
  | nil => exact ⟨[], by simp⟩
  | cons part parts ih =>
    obtain ⟨front, joined⟩ := ih
    refine ⟨part ++ separator ++ front, ?_⟩
    rw [cons_append, intercalate_cons_of_ne_nil (by simp), joined]
    simp

theorem exists_of_mem_encoded {context : ContextMap} {pair : String × String}
    (isIn : pair ∈ context.encoded) :
    ∃ source ∈ context.pairs, pair = (source.1, percentEncode source.2) := by
  rw [ContextMap.encoded, mem_mergeSort, mem_map] at isIn
  obtain ⟨source, isSource, rfl⟩ := isIn
  exact ⟨source, isSource, rfl⟩

theorem segment_shape (context : ContextMap) :
    context.segment = [] ∨
    ∃ name value, context.segment = pairText (name, percentEncode value) := by
  rcases eq_nil_or_concat context.encoded with isNil | ⟨pairs, last, isEnd⟩
  · exact .inl (by rw [ContextMap.segment, isNil]; rfl)
  · have isLast : last ∈ context.encoded := by simp [isEnd]
    obtain ⟨source, -, rfl⟩ := exists_of_mem_encoded isLast
    obtain ⟨front, joined⟩ := exists_intercalate_concat ['&'] (pairs.map pairText)
        (pairText (source.1, percentEncode source.2))
    refine .inr ⟨String.ofList (front ++ source.1.toList), source.2, ?_⟩
    rw [ContextMap.segment, isEnd, concat_eq_append, map_append,
      map_singleton, joined]
    simp [pairText]

theorem storeKey_scopedShape {contexts : List ContextMap} (isScoped : contexts ≠ [])
    (key : String) :
    ∃ text, storeKey keyPrefix contexts key = keyPrefix.toList ++ text ∧ ScopedShape text := by
  induction contexts using List.reverseRecOn generalizing key with
  | nil => exact absurd rfl isScoped
  | append_singleton contexts last ih =>
    rw [storeKey_concat]
    have ownShape : ScopedShape (last.segment ++ ':' :: key.toList) :=
      ⟨_, _, rfl, segment_shape last⟩
    by_cases isEmpty : (contexts.foldl Repository.withContext (.new keyPrefix)).context = some []
    · rw [key_withContext_of_empty isEmpty, keyPrefix_foldl]
      exact ⟨_, rfl, ownShape⟩
    · rw [key_withContext isEmpty]
      by_cases isOuter : contexts = []
      · subst isOuter
        exact ⟨_, storeKey_nil _ _, by rwa [String.toList_ofList]⟩
      · exact ih isOuter _

theorem exists_storeKey_of_scopedShape {text : List Char} (isScoped : ScopedShape text) :
    ∃ context key, storeKey keyPrefix [context] key = keyPrefix.toList ++ text := by
  obtain ⟨before, after, rfl, rfl | ⟨name, value, rfl⟩⟩ := isScoped
  · refine ⟨⟨[], nodup_nil⟩, String.ofList after, ?_⟩
    simp [storeKey, Repository.withContext, Repository.new, Repository.key,
      ContextMap.segment, ContextMap.encoded]
  · refine ⟨.single name value, String.ofList after, ?_⟩
    simp [storeKey, Repository.withContext, Repository.new, Repository.key]

/-! ## Names without delimiters -/

/-- The map has a pair, and its names have no delimiter. -/
structure ContextMap.Delimited (context : ContextMap) : Prop where
  nonempty : context.pairs ≠ []
  free : ∀ pair ∈ context.pairs, ':' ∉ pair.1.toList ∧ '&' ∉ pair.1.toList ∧ '=' ∉ pair.1.toList

namespace ContextMap.Delimited

variable {context : ContextMap}

theorem encoded_ne_nil (delimited : context.Delimited) : context.encoded ≠ [] := by
  rw [← length_pos_iff, encoded, length_mergeSort, length_map, length_pos_iff]
  exact delimited.nonempty

theorem pair_free (delimited : context.Delimited) {pair : String × String}
    (isIn : pair ∈ context.encoded) :
    '=' ∉ pair.1.toList ∧ '&' ∉ pairText pair ∧ ':' ∉ pairText pair := by
  obtain ⟨source, isSource, rfl⟩ := exists_of_mem_encoded isIn
  obtain ⟨noColon, noAmpersand, noEquals⟩ := delimited.free source isSource
  have encodedColon := not_mem_percentEncode (.inl rfl) source.2
  have encodedAmpersand := not_mem_percentEncode (.inr (.inl rfl)) source.2
  refine ⟨noEquals, ?_, ?_⟩
  · simp [pairText, noAmpersand, encodedAmpersand]
  · simp [pairText, noColon, encodedColon]

theorem segment_splitOn (delimited : context.Delimited) :
    context.segment.splitOn '&' = context.encoded.map pairText := by
  apply splitOn_intercalate
  · intro text isText
    obtain ⟨pair, isPair, rfl⟩ := mem_map.mp isText
    exact (delimited.pair_free isPair).2.1
  · rw [Ne, map_eq_nil_iff]
    exact delimited.encoded_ne_nil

theorem segment_ne_nil (delimited : context.Delimited) : context.segment ≠ [] := by
  obtain ⟨pair, pairs, isEncoded⟩ := exists_cons_of_ne_nil delimited.encoded_ne_nil
  rw [segment, isEncoded]
  cases pairs <;> simp [pairText]

theorem context_ne_nil (delimited : context.Delimited) (repository : Repository) :
    (repository.withContext context).context ≠ some [] := by
  intro isEmpty
  have isText := Option.some.inj isEmpty
  split at isText
  · split at isText
    · exact delimited.segment_ne_nil isText
    · exact absurd isText (by simp)
  · exact delimited.segment_ne_nil isText

theorem segment_free (delimited : context.Delimited) : ':' ∉ context.segment := by
  have colonFree : ∀ character ∈ context.segment, character ≠ ':' := by
    have separator : ∀ character ∈ ['&'], character ≠ ':' :=
      forall_mem_singleton.mpr (by decide)
    refine (forall_mem_intercalate separator).mpr ?_
    intro part isPart character isIn isColon
    obtain ⟨pair, isPair, rfl⟩ := mem_map.mp isPart
    exact (delimited.pair_free isPair).2.2 (isColon ▸ isIn)
  exact fun isIn => colonFree ':' isIn rfl

theorem map_splitOnce (delimited : context.Delimited) :
    context.encoded.map (splitOnce '=' ∘ pairText) =
      context.encoded.map fun pair => some (pair.1.toList, pair.2.toList) := by
  apply map_congr_left
  intro pair isPair
  exact splitOnce_append (delimited.pair_free isPair).1 pair.2.toList

theorem same_of_segment_eq {context other : ContextMap} (delimited : context.Delimited)
    (otherDelimited : other.Delimited)
    (same : context.segment = other.segment) : context.Same other := by
  have sameTexts : context.encoded.map pairText = other.encoded.map pairText := by
    rw [← delimited.segment_splitOn, same, otherDelimited.segment_splitOn]
  have samePairs : context.encoded = other.encoded := by
    have sameSplit := congrArg (List.map (splitOnce '=')) sameTexts
    rw [map_map, map_map, delimited.map_splitOnce,
      otherDelimited.map_splitOnce] at sameSplit
    refine map_injective_iff.mpr ?_ sameSplit
    intro pair otherPair sameHalves
    rw [Option.some.injEq, Prod.mk.injEq] at sameHalves
    exact Prod.ext (String.toList_injective sameHalves.1) (String.toList_injective sameHalves.2)
  rw [encoded, encoded, PairOrder.mergeSort_eq_iff_perm, map_perm_map_iff] at samePairs
  · exact samePairs
  · intro pair otherPair sameEncoded
    have sameHalves := Prod.mk.inj sameEncoded
    exact Prod.ext sameHalves.1 (percentEncode_injective sameHalves.2)

end ContextMap.Delimited

theorem storeKey_eq_terminated {contexts : List ContextMap}
    (delimited : ∀ context ∈ contexts, context.Delimited) (key : String) :
    storeKey keyPrefix contexts key = keyPrefix.toList ++
      (terminated ':' (contexts.map ContextMap.segment) ++ key.toList) := by
  suffices nested : (contexts.foldl Repository.withContext
          (.new keyPrefix)).context ≠ some [] ∧
        ∀ key, storeKey keyPrefix contexts key = keyPrefix.toList ++
              (terminated ':' (contexts.map ContextMap.segment) ++ key.toList) by
    exact nested.2 key
  induction contexts using List.reverseRecOn with
  | nil => exact ⟨nofun, fun key => storeKey_nil keyPrefix key⟩
  | append_singleton contexts last ih =>
    rw [forall_mem_append, forall_mem_singleton] at delimited
    obtain ⟨notEmpty, isNested⟩ := ih delimited.1
    constructor
    · rw [foldl_concat]
      exact delimited.2.context_ne_nil _
    · intro key
      rw [storeKey_concat, key_withContext notEmpty, ← storeKey, isNested]
      simp [terminated]

variable {contexts others : List ContextMap}

theorem storeKey_congr (same : SameContexts contexts others) (key : String) :
    storeKey keyPrefix contexts key = storeKey keyPrefix others key := by
  unfold storeKey
  congr 1
  generalize Repository.new keyPrefix = repository
  induction same generalizing repository with
  | nil => rfl
  | @cons context other contexts others isSame _ ih =>
    have sameSegment : context.segment = other.segment := by
      rw [ContextMap.segment, ContextMap.segment, ContextMap.encoded, ContextMap.encoded,
        PairOrder.mergeSort_eq_iff_perm.mpr (isSame.map _)]
    rw [foldl_cons, Repository.withContext, sameSegment]
    exact ih _

theorem sameContexts_of_segments (delimited : ∀ context ∈ contexts, context.Delimited)
    (othersDelimited : ∀ context ∈ others, context.Delimited)
    (same : contexts.map ContextMap.segment = others.map ContextMap.segment) :
    SameContexts contexts others := by
  induction contexts generalizing others with
  | nil =>
    rw [map_nil, eq_comm, map_eq_nil_iff] at same
    exact same ▸ .nil
  | cons context contexts ih =>
    cases others with
    | nil => cases same
    | cons other others =>
      rw [forall_mem_cons] at delimited othersDelimited
      obtain ⟨sameSegment, sameRest⟩ := List.cons.inj same
      exact .cons (delimited.1.same_of_segment_eq othersDelimited.1 sameSegment)
        (ih delimited.2 othersDelimited.2 sameRest)

theorem sameContexts_of_storeKey_eq
    {keyPrefix : String} (delimited : ∀ context ∈ contexts, context.Delimited)
    (othersDelimited : ∀ context ∈ others, context.Delimited) {key other : String}
    (sameLevels : contexts.length = others.length ∨ (':' ∉ key.toList ∧ ':' ∉ other.toList))
    (same : storeKey keyPrefix contexts key = storeKey keyPrefix others other) :
    SameContexts contexts others ∧ key = other := by
  rw [storeKey_eq_terminated keyPrefix delimited, storeKey_eq_terminated keyPrefix othersDelimited,
    append_cancel_left_eq] at same
  have free : ∀ segment ∈ contexts.map ContextMap.segment, ':' ∉ segment := by
    rw [forall_mem_map]
    exact fun context isIn => (delimited context isIn).segment_free
  have othersFree : ∀ segment ∈ others.map ContextMap.segment, ':' ∉ segment := by
    rw [forall_mem_map]
    exact fun context isIn => (othersDelimited context isIn).segment_free
  have isSplit : contexts.map ContextMap.segment = others.map ContextMap.segment ∧
      key.toList = other.toList := by
    rcases sameLevels with sameLength | ⟨keyFree, otherFree⟩
    · exact terminated_append_inj free othersFree (by simpa using sameLength) same
    · have sameParts := congrArg (List.splitOn ':') same
      rw [splitOn_terminated_append free,
        splitOn_terminated_append othersFree, splitOn_eq_singleton keyFree,
        splitOn_eq_singleton otherFree] at sameParts
      obtain ⟨sameSegments, sameKey⟩ := append_inj' sameParts rfl
      exact ⟨sameSegments, singleton_inj.mp sameKey⟩
  exact ⟨sameContexts_of_segments delimited othersDelimited isSplit.1,
    String.toList_injective isSplit.2⟩

/--
A key is told apart from every other exactly when it has no context and does not
look like a scoped key.  Under a context it is always some unscoped key as well.
Maps with delimited names are told apart from each other, by so many levels or
under keys without a colon.
-/
theorem storeKey_injective_iff (contexts : List ContextMap) (key : String) :
    ((∀ others other, storeKey keyPrefix others other = storeKey keyPrefix contexts key →
        SameContexts others contexts ∧ other = key) ↔
      contexts = [] ∧ ¬ ScopedShape key.toList) ∧
    (contexts ≠ [] → ∃ other, storeKey keyPrefix [] other = storeKey keyPrefix contexts key) ∧
    ∀ others other, (∀ context ∈ contexts ++ others, context.Delimited) →
      (others.length = contexts.length ∨ (':' ∉ other.toList ∧ ':' ∉ key.toList)) →
      (storeKey keyPrefix others other = storeKey keyPrefix contexts key ↔
        SameContexts others contexts ∧ other = key) := by
  have isUnscoped : contexts ≠ [] →
      ∃ other, storeKey keyPrefix [] other = storeKey keyPrefix contexts key := by
    intro isScoped
    obtain ⟨text, isKey, -⟩ := storeKey_scopedShape keyPrefix isScoped key
    exact ⟨String.ofList text, by rw [isKey, storeKey_nil, String.toList_ofList]⟩
  refine ⟨⟨?_, ?_⟩, isUnscoped, ?_⟩
  · intro isOnly
    have notScoped : contexts = [] := by
      by_contra isScoped
      obtain ⟨other, same⟩ := isUnscoped isScoped
      cases (isOnly [] other same).1
      exact isScoped rfl
    subst notScoped
    refine ⟨rfl, fun isShape => ?_⟩
    obtain ⟨context, other, same⟩ := exists_storeKey_of_scopedShape keyPrefix isShape
    cases (isOnly [context] other same).1
  · rintro ⟨rfl, notShape⟩ others other same
    by_cases isScoped : others = []
    · subst isScoped
      rw [storeKey_nil, storeKey_nil, append_cancel_left_eq] at same
      exact ⟨.nil, String.toList_injective same⟩
    · obtain ⟨text, isKey, isShape⟩ := storeKey_scopedShape keyPrefix isScoped other
      rw [isKey, storeKey_nil, append_cancel_left_eq] at same
      exact absurd (same ▸ isShape) notShape
  · intro others other delimited sameLevels
    rw [forall_mem_append] at delimited
    constructor
    · exact sameContexts_of_storeKey_eq delimited.2 delimited.1 sameLevels
    · rintro ⟨same, rfl⟩
      exact storeKey_congr keyPrefix same other

theorem storeKey_injective_iff_tenants :
    storeKey "-cache-" [.single "tenant" "1"] "k" ≠
      storeKey "-cache-" [.single "tenant" "2"] "k" := by
  intro same
  have delimited : ∀ value, (ContextMap.single "tenant" value).Delimited := by
    refine fun value => ⟨cons_ne_nil _ _, ?_⟩
    simp [ContextMap.single]
  have areSame := ((storeKey_injective_iff "-cache-" [.single "tenant" "2"] "k").2.2
      [.single "tenant" "1"] "k" (by simp [delimited]) (.inl rfl)).mp same
  have isSame := (forall₂_cons.mp areSame.1).1
  exact absurd (singleton_perm_singleton.mp isSame) (by decide)

theorem storeKey_tenant_unscoped :
    storeKey "-cache-" [.single "tenant" "1"] "k" = storeKey "-cache-" [] "tenant=1:k" ∧
    ¬ SameContexts [.single "tenant" "1"] [] := by
  constructor
  · have isPlain : percentEncode "1" = "1" := by decide
    rw [storeKey, foldl_cons, Repository.withContext, ContextMap.segment_single]
    rfl
  · exact nofun

end Rustasea.Cache
