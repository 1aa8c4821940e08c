import Mathlib.Data.List.Basic

namespace PercentEncoding

open List

/-!
# Percent-encoded bytes and delimited texts

Bytes outside the unreserved set of RFC 3986 are written as `%` and two
hexadecimal digits.  What is written is free of every delimiter, so texts made
of encoded parts and delimiters split back into their parts in one way.
-/

/-! ## Hexadecimal digits -/

def hexDigit (n : Nat) : UInt8 :=
  if n < 10 then UInt8.ofNat (48 + n)
  else UInt8.ofNat (55 + n)

def hexValue (byte : UInt8) : Option Nat :=
  if 48 ≤ byte.toNat ∧ byte.toNat ≤ 57 then some (byte.toNat - 48)
  else if 97 ≤ byte.toNat ∧ byte.toNat ≤ 102 then some (byte.toNat - 97 + 10)
  else if 65 ≤ byte.toNat ∧ byte.toNat ≤ 70 then some (byte.toNat - 65 + 10)
  else none

variable {n : Nat}

theorem hexValue_hexDigit (below : n < 16) : hexValue (hexDigit n) = some n := by
  have all : ∀ m < 16, hexValue (hexDigit m) = some m := by decide
  exact all n below

theorem ofNat_digits (byte : UInt8) :
    UInt8.ofNat (16 * (byte.toNat / 16) + byte.toNat % 16) = byte := by
  rw [Nat.div_add_mod]
  exact UInt8.ofNat_toNat

/-! ## Encoding -/

/-- The unreserved set: letters, digits, `-`, `.`, `_` and `~`. -/
def isUnreserved (byte : UInt8) : Bool :=
  (48 ≤ byte.toNat ∧ byte.toNat ≤ 57) ∨ (65 ≤ byte.toNat ∧ byte.toNat ≤ 90) ∨
      (97 ≤ byte.toNat ∧ byte.toNat ≤ 122) ∨
        byte.toNat = 45 ∨ byte.toNat = 46 ∨ byte.toNat = 95 ∨ byte.toNat = 126

def encodeByte (byte : UInt8) : List UInt8 :=
  if isUnreserved byte then [byte]
  else [37, hexDigit (byte.toNat / 16), hexDigit (byte.toNat % 16)]

def encode (bytes : List UInt8) : List UInt8 := bytes.flatMap encodeByte

/-- Why a text is not percent-encoded. -/
inductive DecodeError where
  | truncated
  | invalidEscape
  deriving DecidableEq

/-- Decode the escapes back into bytes, or report the first that is none. -/
def decode : List UInt8 → Except DecodeError (List UInt8)
  | [] => .ok []
  | byte :: rest =>
    if byte = 37 then
      match rest with
      | high :: low :: tail =>
        match hexValue high, hexValue low with
        | some first, some second => (decode tail).map (UInt8.ofNat (16 * first + second) :: ·)
        | _, _ => .error .invalidEscape
      | _ => .error .truncated
    else (decode rest).map (byte :: ·)

theorem decode_encodeByte_append (byte : UInt8) (rest : List UInt8) :
    decode (encodeByte byte ++ rest) = (decode rest).map (byte :: ·) := by
  have below : byte.toNat < 256 := byte.toNat_lt
  unfold encodeByte
  split
  · next isPlain =>
    have notEscape : byte ≠ 37 := by
      rintro rfl
      exact absurd isPlain (by decide)
    rw [singleton_append, decode.eq_def]
    simp [notEscape]
  · rw [cons_append, cons_append, cons_append, nil_append, decode, if_pos rfl]
    simp only [hexValue_hexDigit (by omega : byte.toNat / 16 < 16),
      hexValue_hexDigit (by omega : byte.toNat % 16 < 16), ofNat_digits]

@[simp] theorem decode_encode (bytes : List UInt8) : decode (encode bytes) = .ok bytes := by
  induction bytes with
  | nil => rfl
  | cons byte rest ih =>
    rw [encode, flatMap_cons, decode_encodeByte_append, ← encode, ih]
    rfl

variable {raw bytes : List UInt8}

theorem decode_of_notMem (free : 37 ∉ raw) : decode raw = .ok raw := by
  induction raw with
  | nil => rfl
  | cons byte rest ih =>
    rw [mem_cons, not_or] at free
    rw [decode.eq_def]
    simp only [Ne.symm free.1, ih free.2]
    rfl

/-- Escapes make a text longer than what it stands for. -/
theorem length_decode (isDecoded : decode raw = .ok bytes) :
    bytes.length ≤ raw.length ∧ (raw.length ≤ bytes.length → 37 ∉ raw) := by
  induction raw using decode.induct generalizing bytes with
  | case1 =>
    cases isDecoded
    exact ⟨Nat.le_refl _, fun _ => not_mem_nil⟩
  | case2 high low tail first second isFirst isSecond ih =>
    rw [decode] at isDecoded
    simp only [isFirst, isSecond] at isDecoded
    cases isTail : decode tail with
    | error e => simp [isTail, Except.map] at isDecoded
    | ok decoded =>
      rw [isTail] at isDecoded
      obtain rfl := Except.ok.inj isDecoded
      have shorter := (ih isTail).1
      simp only [length_cons]
      exact ⟨by omega, fun long => by omega⟩
  | case3 high low tail unread =>
    rw [decode, if_pos rfl] at isDecoded
    split at isDecoded
    · next isFirst isSecond => exact absurd isSecond (unread _ _ isFirst)
    · cases isDecoded
  | case4 rest short =>
    rw [decode.eq_def] at isDecoded
    simp only [if_true] at isDecoded
    cases isDecoded
  | case5 byte rest notEscape ih =>
    rw [decode.eq_def] at isDecoded
    simp only [notEscape] at isDecoded
    cases isRest : decode rest with
    | error e => simp [isRest, Except.map] at isDecoded
    | ok decoded =>
      rw [isRest] at isDecoded
      obtain rfl := Except.ok.inj isDecoded
      obtain ⟨shorter, free⟩ := ih isRest
      simp only [length_cons, mem_cons, not_or]
      exact ⟨by omega, fun long => ⟨Ne.symm notEscape, free (by omega)⟩⟩

theorem encode_injective : Function.Injective encode := by
  intro first second same
  have decoded := congrArg decode same
  rw [decode_encode, decode_encode] at decoded
  exact Except.ok.inj decoded

theorem encode_of_unreserved (unreserved : ∀ byte ∈ bytes, isUnreserved byte = true) :
    encode bytes = bytes := by
  induction bytes with
  | nil => rfl
  | cons byte rest ih =>
    rw [forall_mem_cons] at unreserved
    rw [encode, flatMap_cons, encodeByte, if_pos unreserved.1, ← encode, ih unreserved.2]
    rfl

variable {byte : UInt8}

theorem mem_encode (isIn : byte ∈ encode bytes) : isUnreserved byte = true ∨ byte = 37 := by
  have digits : ∀ n < 16, isUnreserved (hexDigit n) = true := by decide
  simp only [encode, mem_flatMap] at isIn
  obtain ⟨source, -, isEncoded⟩ := isIn
  have below : source.toNat < 256 := source.toNat_lt
  unfold encodeByte at isEncoded
  split at isEncoded
  · next isPlain =>
    rw [mem_singleton] at isEncoded
    exact .inl (isEncoded ▸ isPlain)
  · simp only [mem_cons, not_mem_nil, or_false] at isEncoded
    rcases isEncoded with isEscape | isHigh | isLow
    · exact .inr isEscape
    · exact .inl (isHigh ▸ digits _ (by omega))
    · exact .inl (isLow ▸ digits _ (by omega))

theorem not_mem_encode {delimiter : UInt8} (isReserved : isUnreserved delimiter = false)
    (notEscape : delimiter ≠ 37) (bytes : List UInt8) : delimiter ∉ encode bytes := by
  intro isIn
  rcases mem_encode isIn with isPlain | isEscape
  · rw [isReserved] at isPlain
    cases isPlain
  · exact notEscape isEscape

/-! ## Delimiters -/

section Delimiters

variable {Character : Type*} [DecidableEq Character]

/-- The texts before and after the first separator. -/
def splitOnce (separator : Character) : List Character → Option (List Character × List Character)
  | [] => none
  | character :: rest =>
    if character = separator then some ([], rest)
    else
      (splitOnce separator rest).map fun parts => (character :: parts.1, parts.2)

variable {separator : Character}

theorem splitOnce_append {part : List Character} (free : separator ∉ part) (rest : List Character) :
    splitOnce separator (part ++ separator :: rest) = some (part, rest) := by
  induction part with
  | nil => simp [splitOnce]
  | cons character part ih =>
    rw [mem_cons, not_or] at free
    rw [cons_append, splitOnce, if_neg (Ne.symm free.1), ih free.2, Option.map_some]

theorem splitOnce_eq_some {text before after : List Character}
    (cut : splitOnce separator text = some (before, after)) :
    text = before ++ separator :: after := by
  induction text generalizing before with
  | nil => cases cut
  | cons character rest ih =>
    rw [splitOnce] at cut
    split at cut
    · next same =>
      cases cut
      rw [same, nil_append]
    · obtain ⟨⟨front, behind⟩, isRest, joined⟩ := Option.map_eq_some_iff.mp cut
      cases joined
      rw [ih isRest, cons_append]

variable {rest otherRest : List Character}

theorem append_separator_inj {part other : List Character} (free : separator ∉ part)
    (otherFree : separator ∉ other)
    (same : part ++ separator :: rest = other ++ separator :: otherRest) :
    part = other ∧ rest = otherRest := by
  have split := splitOnce_append free rest
  rw [same, splitOnce_append otherFree, Option.some.injEq, Prod.mk.injEq] at split
  exact ⟨split.1.symm, split.2.symm⟩

omit [DecidableEq Character] in
theorem append_separator_inj_last {part other rest otherRest : List Character}
    (free : separator ∉ rest) (otherFree : separator ∉ otherRest)
    (same : part ++ separator :: rest = other ++ separator :: otherRest) :
    part = other ∧ rest = otherRest := by
  rcases append_eq_append_iff.mp same with ⟨between, rfl, isRest⟩ | ⟨between, rfl, isRest⟩
  · cases between with
    | nil => exact ⟨(append_nil _).symm, (List.cons.inj isRest).2⟩
    | cons head behind =>
      refine absurd ?_ free
      rw [(List.cons.inj isRest).2]
      exact mem_append_right _ mem_cons_self
  · cases between with
    | nil => exact ⟨append_nil _, (List.cons.inj isRest).2.symm⟩
    | cons head behind =>
      refine absurd ?_ otherFree
      rw [(List.cons.inj isRest).2]
      exact mem_append_right _ mem_cons_self

def terminated (terminator : Character) (parts : List (List Character)) : List Character :=
  parts.flatMap (· ++ [terminator])

variable {terminator : Character} {parts others : List (List Character)}

theorem eq_of_terminated_eq (free : ∀ part ∈ parts, terminator ∉ part)
    (otherFree : ∀ part ∈ others, terminator ∉ part)
    (same : terminated terminator parts = terminated terminator others) : parts = others := by
  induction parts generalizing others with
  | nil =>
    cases others with
    | nil => rfl
    | cons other rest => simp [terminated] at same
  | cons part parts ih =>
    cases others with
    | nil => simp [terminated] at same
    | cons other others =>
      rw [forall_mem_cons] at free otherFree
      simp only [terminated, flatMap_cons, append_assoc] at same
      obtain ⟨samePart, sameRest⟩ := append_separator_inj free.1 otherFree.1 same
      rw [samePart, ih free.2 otherFree.2 sameRest]

theorem terminated_append_inj (free : ∀ part ∈ parts, terminator ∉ part)
    (otherFree : ∀ part ∈ others, terminator ∉ part) (sameLength : parts.length = others.length)
    (same : terminated terminator parts ++ rest = terminated terminator others ++ otherRest) :
    parts = others ∧ rest = otherRest := by
  induction parts generalizing others with
  | nil =>
    obtain rfl : others = [] := length_eq_zero_iff.mp sameLength.symm
    exact ⟨rfl, same⟩
  | cons part parts ih =>
    cases others with
    | nil => cases sameLength
    | cons other others =>
      rw [forall_mem_cons] at free otherFree
      simp only [terminated, flatMap_cons, append_assoc] at same
      obtain ⟨samePart, sameRest⟩ := append_separator_inj free.1 otherFree.1 same
      obtain ⟨sameParts, sameEnd⟩ := ih free.2 otherFree.2 (Nat.succ.inj sameLength) sameRest
      exact ⟨by rw [samePart, sameParts], sameEnd⟩

theorem splitOn_terminated_append {parts : List (List Character)}
    (free : ∀ part ∈ parts, separator ∉ part) (rest : List Character) :
    (terminated separator parts ++ rest).splitOn separator = parts ++ rest.splitOn separator := by
  induction parts with
  | nil => rfl
  | cons part parts ih =>
    rw [forall_mem_cons] at free
    simp only [terminated, flatMap_cons, append_assoc, cons_append, nil_append]
    rw [splitOn_append_cons_self_of_not_mem free.1, ← terminated, ih free.2]

theorem exists_mem_splitOn_of_cons
    {separator character : Character} (differs : character ≠ separator)
    (rest : List Character) : ∃ part ∈ (character :: rest).splitOn separator, character ∈ part := by
  rw [splitOn_cons_eq_if_modifyHead, if_neg (by simpa using differs)]
  obtain ⟨part, parts, split⟩ := exists_cons_of_ne_nil (splitOn_ne_nil separator rest)
  rw [split]
  exact ⟨character :: part, by simp, by simp⟩

omit [DecidableEq Character] in
theorem forall_mem_intercalate {property : Character → Prop} {separator : List Character}
    (ofSeparator : ∀ character ∈ separator, property character) {pieces : List (List Character)} :
    (∀ character ∈ separator.intercalate pieces, property character) ↔
      ∀ piece ∈ pieces, ∀ character ∈ piece, property character := by
  induction pieces with
  | nil => exact iff_of_true (forall_mem_nil _) (forall_mem_nil _)
  | cons first rest ih =>
    cases rest with
    | nil => rw [intercalate_singleton, forall_mem_singleton]
    | cons second others =>
      rw [intercalate_cons_cons, forall_mem_append, forall_mem_append, ih,
        and_iff_left ofSeparator]
      exact (forall_mem_cons (p := fun piece => ∀ character ∈ piece, property character)).symm

end Delimiters

/-! ## Texts and their bytes -/

def utf8 (text : String) : List UInt8 := text.toByteArray.data.toList

/-- The text that some bytes encode, when they are UTF-8. -/
def ofUtf8? (bytes : List UInt8) : Option String := String.fromUTF8? ⟨bytes.toArray⟩

@[simp] theorem ofUtf8?_utf8 (text : String) : ofUtf8? (utf8 text) = some text := by
  have sameBytes : (⟨(utf8 text).toArray⟩ : ByteArray) = text.toByteArray := by simp [utf8]
  rw [ofUtf8?, sameBytes, String.fromUTF8?, dif_pos text.isValidUTF8]
  rfl

theorem utf8_of_ofUtf8? {text : String} (isText : ofUtf8? bytes = some text) :
    utf8 text = bytes := by
  rw [ofUtf8?, String.fromUTF8?] at isText
  split at isText
  · cases isText
    rfl
  · cases isText

theorem utf8_injective : Function.Injective utf8 := by
  intro first second same
  have decoded := congrArg ofUtf8? same
  rw [ofUtf8?_utf8, ofUtf8?_utf8] at decoded
  exact Option.some.inj decoded

theorem utf8_ofList (characters : List Char) :
    utf8 (String.ofList characters) = characters.flatMap String.utf8EncodeChar := by
  rw [utf8, String.toByteArray_ofList, List.utf8Encode]
  simp

theorem utf8_ofList_ascii {characters : List Char}
    (ascii : ∀ character ∈ characters, character.toNat < 128) :
    utf8 (String.ofList characters) =
      characters.map fun character => UInt8.ofNat character.toNat := by
  rw [utf8_ofList]
  induction characters with
  | nil => rfl
  | cons character rest ih =>
    rw [forall_mem_cons] at ascii
    have isOne : character.utf8Size = 1 := by
      rw [Char.utf8Size_eq_one_iff]
      exact Nat.le_of_lt_succ ascii.1
    rw [flatMap_cons, String.utf8EncodeChar_eq_singleton isOne, ih ascii.2]
    rfl

/-! ## Hexadecimal texts -/

def lowerHexDigit (n : Nat) : Char :=
  if n < 10 then Char.ofNat (48 + n)
  else Char.ofNat (87 + n)

def hexDigits (bytes : List UInt8) : List Char :=
  bytes.flatMap fun byte => [lowerHexDigit (byte.toNat / 16), lowerHexDigit (byte.toNat % 16)]

def hexText (bytes : List UInt8) : String := String.ofList (hexDigits bytes)

/-- The bytes that pairs of digits of either case stand for. -/
def ofHexDigits? : List UInt8 → Option (List UInt8)
  | [] => some []
  | [_] => none
  | high :: low :: rest =>
    match hexValue high, hexValue low with
    | some first, some second => (ofHexDigits? rest).map (UInt8.ofNat (16 * first + second) :: ·)
    | _, _ => none

def ofHexText? (text : String) : Option (List UInt8) := ofHexDigits? (utf8 text)

theorem lowerHexDigit_spec (below : n < 16) :
    (lowerHexDigit n).toNat < 128 ∧ isUnreserved (UInt8.ofNat (lowerHexDigit n).toNat) = true ∧
    hexValue (UInt8.ofNat (lowerHexDigit n).toNat) = some n := by
  have all : ∀ m < 16, (lowerHexDigit m).toNat < 128 ∧
      isUnreserved (UInt8.ofNat (lowerHexDigit m).toNat) = true ∧
      hexValue (UInt8.ofNat (lowerHexDigit m).toNat) = some m := by
    decide
  exact all n below

theorem exists_of_mem_hexDigits {character : Char} (isIn : character ∈ hexDigits bytes) :
    ∃ n < 16, character = lowerHexDigit n := by
  simp only [hexDigits, mem_flatMap, mem_cons, not_mem_nil, or_false] at isIn
  obtain ⟨byte, -, isHigh | isLow⟩ := isIn
  · have below : byte.toNat < 256 := byte.toNat_lt
    exact ⟨byte.toNat / 16, by omega, isHigh⟩
  · exact ⟨byte.toNat % 16, by omega, isLow⟩

theorem utf8_hexText (bytes : List UInt8) :
    utf8 (hexText bytes) = (hexDigits bytes).map fun digit => UInt8.ofNat digit.toNat := by
  apply utf8_ofList_ascii
  intro digit isIn
  obtain ⟨n, below, rfl⟩ := exists_of_mem_hexDigits isIn
  exact (lowerHexDigit_spec below).1

theorem length_hexText (bytes : List UInt8) : (hexText bytes).toList.length = 2 * bytes.length := by
  rw [hexText, String.toList_ofList, hexDigits]
  simp [Nat.mul_comm]

theorem isUnreserved_of_mem_hexText (isIn : byte ∈ utf8 (hexText bytes)) :
    isUnreserved byte = true := by
  rw [utf8_hexText, mem_map] at isIn
  obtain ⟨digit, isDigit, rfl⟩ := isIn
  obtain ⟨n, below, rfl⟩ := exists_of_mem_hexDigits isDigit
  exact (lowerHexDigit_spec below).2.1

theorem ofHexText?_hexText (bytes : List UInt8) : ofHexText? (hexText bytes) = some bytes := by
  rw [ofHexText?, utf8_hexText]
  induction bytes with
  | nil => rfl
  | cons byte rest ih =>
    have below : byte.toNat < 256 := byte.toNat_lt
    have high := lowerHexDigit_spec (by omega : byte.toNat / 16 < 16)
    have low := lowerHexDigit_spec (by omega : byte.toNat % 16 < 16)
    rw [hexDigits, flatMap_cons, ← hexDigits]
    simp only [cons_append, nil_append, map_cons, ofHexDigits?, high.2.2, low.2.2,
      ih, Option.map_some, ofNat_digits]

/-! ## Decoding that leaves what is no escape -/

/-- The byte of an escape at the front: `%` and two hexadecimal digits. -/
def escapedByte : List UInt8 → Option UInt8
  | byte :: high :: low :: _ =>
    if byte = 37 then
      match hexValue high, hexValue low with
      | some first, some second => some (UInt8.ofNat (16 * first + second))
      | _, _ => none
    else none
  | _ => none

/-- Decode the escapes, and leave a `%` that begins none as it is. -/
@[grind =] def decodeEscapes : List UInt8 → List UInt8
  | [] => []
  | byte :: rest =>
    match escapedByte (byte :: rest) with
    | some decoded => decoded :: decodeEscapes (rest.drop 2)
    | none => byte :: decodeEscapes rest
termination_by bytes => bytes.length

def hasEscape : List UInt8 → Bool
  | [] => false
  | byte :: rest => (escapedByte (byte :: rest)).isSome || hasEscape rest

theorem length_decodeEscapes_le (bytes : List UInt8) :
    (decodeEscapes bytes).length ≤ bytes.length := by
  induction bytes using decodeEscapes.induct with
  | case1 => simp [decodeEscapes]
  | case2 byte rest decoded isEscape ih =>
    rw [decodeEscapes, isEscape]
    simp only [length_cons, length_drop] at ih ⊢
    omega
  | case3 byte rest notEscape ih =>
    rw [decodeEscapes, notEscape]
    simpa using ih

theorem decodeEscapes_eq_self_iff {bytes : List UInt8} :
    decodeEscapes bytes = bytes ↔ hasEscape bytes = false := by
  induction bytes using decodeEscapes.induct with
  | case1 => simp [decodeEscapes, hasEscape]
  | case2 byte rest decoded isEscape _ =>
    have shorter := length_decodeEscapes_le (rest.drop 2)
    have isLong : 2 ≤ rest.length := by
      match rest with
      | [] | [_] => simp [escapedByte] at isEscape
      | _ :: _ :: _ => simp
    rw [decodeEscapes, hasEscape, isEscape]
    constructor
    · intro same
      have sameLength := congrArg List.length same
      simp only [length_cons, length_drop] at sameLength shorter
      omega
    · intro none
      simp at none
  | case3 byte rest notEscape ih =>
    rw [decodeEscapes, hasEscape, notEscape]
    simpa using ih

end PercentEncoding
