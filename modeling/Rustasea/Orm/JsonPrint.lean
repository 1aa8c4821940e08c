import Rustasea.Library.JsonText
import Rustasea.Library.DecimalText
import Rustasea.Orm.CastValues

/-!
# The compact text of a JSON document

`serde_json` prints a document without blanks.  A document is read back off the
front of a text, so different documents have different texts, and a printed
document is closed: what separates texts stands in its literals only.
-/

namespace Rustasea.Orm.Casts

open List

open JsonText (literal literal_append_inj IsClosed isClosed_literal isClosed_of_plain)
open DecimalText (startsWith)

/-! ## Numbers -/

/-- Whether a character may stand in a printed number. -/
def isNumeric (character : Char) : Bool := character.isDigit || "+-.e".toList.contains character

/--
The shortest text of a finite float that reads back as it.  It has a point or
an exponent, which no integer has.
-/
structure FloatFormat where
  print : FiniteFloat → List Char
  numeric : ∀ value, ∀ character ∈ print value, isNumeric character = true
  fractional : ∀ value, ∃ character ∈ print value, character ∈ ['.', 'e']
  injective : Function.Injective print

def integerText (number : Int) : List Char :=
  if number < 0 then '-' :: Nat.toDigits 10 number.natAbs
  else Nat.toDigits 10 number.natAbs

def numberText (format : FloatFormat) : Number → List Char
  | .integer number _ => integerText number
  | .float value => format.print value

theorem mem_integerText {number : Int} {character : Char}
    (isIn : character ∈ integerText number) : character = '-' ∨ character.isDigit = true := by
  unfold integerText at isIn
  split_ifs at isIn
  · rcases mem_cons.mp isIn with isSign | isDigit
    · exact .inl isSign
    · exact .inr (DecimalText.isDigit_of_mem_toDigits isDigit)
  · exact .inr (DecimalText.isDigit_of_mem_toDigits isIn)

theorem integerText_injective : Function.Injective integerText := by
  intro first second same
  have noSign (number : Nat) : '-' ∉ Nat.toDigits 10 number :=
    DecimalText.notMem_toDigits (by decide) number
  unfold integerText at same
  split_ifs at same with isNegative otherNegative otherNegative
  · have sameAbs := DecimalText.toDigits_injective (List.cons.inj same).2
    omega
  · exact absurd (same ▸ mem_cons_self) (noSign second.natAbs)
  · exact absurd (same ▸ mem_cons_self) (noSign first.natAbs)
  · have sameAbs := DecimalText.toDigits_injective same
    omega

variable {format : FloatFormat}

theorem isNumeric_of_mem_numberText {number : Number} {character : Char}
    (isIn : character ∈ numberText format number) : isNumeric character = true := by
  cases number with
  | integer number fits =>
    rcases mem_integerText isIn with rfl | isDigit
    · decide
    · rw [isNumeric, isDigit, Bool.true_or]
  | float value => exact format.numeric value character isIn

theorem integerText_ne_print (number : Int) (value : FiniteFloat) :
    integerText number ≠ format.print value := by
  intro same
  obtain ⟨character, isIn, isMark⟩ := format.fractional value
  rw [← same] at isIn
  have isFractional : character = '.' ∨ character = 'e' := by simpa using isMark
  rcases mem_integerText isIn with rfl | isDigit
  · rcases isFractional with isPoint | isExponent
    · exact absurd isPoint (by decide)
    · exact absurd isExponent (by decide)
  · rcases isFractional with rfl | rfl
    all_goals exact absurd isDigit (by decide)

theorem numberText_injective : Function.Injective (numberText format) := by
  intro first second same
  cases first with
  | integer number fits =>
    cases second with
    | integer other otherFits =>
      obtain rfl := integerText_injective same
      rfl
    | float value => exact absurd same (integerText_ne_print number value)
  | float value =>
    cases second with
    | integer number fits => exact absurd same.symm (integerText_ne_print number value)
    | float other => rw [format.injective same]

theorem exists_numberText_cons (number : Number) :
    ∃ head rest, numberText format number = head :: rest ∧ isNumeric head = true := by
  cases printed : numberText format number with
  | nil =>
    cases number with
    | integer number fits =>
      have isEmpty : integerText number = [] := printed
      unfold integerText at isEmpty
      split_ifs at isEmpty
      exact absurd isEmpty Nat.toDigits_ne_nil
    | float value =>
      obtain ⟨character, isIn, -⟩ := format.fractional value
      have isEmpty : format.print value = [] := printed
      rw [isEmpty] at isIn
      cases isIn
  | cons head rest =>
    refine ⟨head, rest, rfl, ?_⟩
    refine @isNumeric_of_mem_numberText format number _ ?_
    rw [printed]
    exact mem_cons_self

/-! ## Documents -/

mutual

def print (format : FloatFormat) : Json → List Char
  | .null => "null".toList
  | .bool true => "true".toList
  | .bool false => "false".toList
  | .number number => numberText format number
  | .string text => literal text.toList
  | .array [] => "[]".toList
  | .array (item :: items) => '[' :: (print format item ++ printItems format items)
  | .object [] => "\x7b\x7d".toList
  | .object ((key, value) :: fields) =>
    '\x7b' :: (literal key.toList ++ ':' :: (print format value ++ printFields format fields))

def printItems (format : FloatFormat) : List Json → List Char
  | [] => [']']
  | item :: items => ',' :: (print format item ++ printItems format items)

def printFields (format : FloatFormat) : List (String × Json) → List Char
  | [] => ['\x7d']
  | (key, value) :: fields =>
    ',' :: (literal key.toList ++ ':' :: (print format value ++ printFields format fields))

end

@[simp] theorem print_number (number : Number) :
    print format (.number number) = numberText format number :=
  rfl

@[simp] theorem print_string (text : String) : print format (.string text) = literal text.toList :=
  rfl

@[simp] theorem print_array_cons (item : Json) (items : List Json) :
    print format (.array (item :: items)) = '[' :: (print format item ++ printItems format items) :=
  rfl

@[simp] theorem printItems_cons (item : Json) (items : List Json) :
    printItems format (item :: items) = ',' :: (print format item ++ printItems format items) :=
  rfl

@[simp] theorem printFields_cons (key : String) (value : Json) (fields : List (String × Json)) :
    printFields format ((key, value) :: fields) =
      ',' :: (literal key.toList ++ ':' :: (print format value ++ printFields format fields)) :=
  rfl

/-- What a document is, as far as its first character tells. -/
def Json.kind : Json → Nat
  | .null => 0
  | .bool true => 1
  | .bool false => 2
  | .string _ => 3
  | .array _ => 4
  | .object _ => 5
  | .number _ => 6

def headKind (character : Char) : Nat :=
  if character = 'n' then 0
  else if character = 't' then 1
  else if character = 'f' then 2
  else if character = '"' then 3
  else if character = '[' then 4
  else if character = '\x7b' then 5
  else 6

theorem headKind_of_numeric {character : Char} (numeric : isNumeric character = true) :
    headKind character = 6 ∧ character ≠ ']' := by
  have isNot {other : Char} (notNumeric : isNumeric other = false) :
      character ≠ other := by
    rintro rfl
    rw [numeric] at notNumeric
    cases notNumeric
  unfold headKind
  rw [if_neg (isNot (by decide)), if_neg (isNot (by decide)),
    if_neg (isNot (by decide)), if_neg (isNot (by decide)),
    if_neg (isNot (by decide)), if_neg (isNot (by decide))]
  exact ⟨rfl, isNot (by decide)⟩

theorem exists_print_cons (document : Json) :
    ∃ head rest,
      print format document = head :: rest ∧ headKind head = document.kind ∧ head ≠ ']' := by
  match document with
  | .null => exact ⟨_, _, rfl, rfl, by decide⟩
  | .bool true => exact ⟨_, _, rfl, rfl, by decide⟩
  | .bool false => exact ⟨_, _, rfl, rfl, by decide⟩
  | .number number =>
    obtain ⟨head, rest, printed, numeric⟩ := @exists_numberText_cons format number
    exact ⟨head, rest, printed, headKind_of_numeric numeric⟩
  | .string text => exact ⟨_, _, rfl, rfl, by decide⟩
  | .array [] => exact ⟨_, _, rfl, rfl, by decide⟩
  | .array (item :: items) => exact ⟨_, _, rfl, rfl, by decide⟩
  | .object [] => exact ⟨_, _, rfl, rfl, by decide⟩
  | .object (_ :: _) => exact ⟨_, _, rfl, rfl, by decide⟩

/-- Two documents of one kind. -/
inductive SameForm : Json → Json → Prop where
  | null : SameForm .null .null
  | bool (flag : Bool) : SameForm (.bool flag) (.bool flag)
  | number (first second : Number) : SameForm (.number first) (.number second)
  | string (first second : String) : SameForm (.string first) (.string second)
  | array (items others : List Json) : SameForm (.array items) (.array others)
  | object (fields others : List (String × Json)) : SameForm (.object fields) (.object others)

theorem sameForm_of_kind {document other : Json} (same : document.kind = other.kind) :
    SameForm document other := by
  rcases document with _ | (_ | _) | _ | _ | _ | _ <;>
    rcases other with _ | (_ | _) | _ | _ | _ | _ <;> first
      | constructor
      | cases same

theorem sameForm_of_append {document other : Json} {rest otherRest : List Char}
    (same : print format document ++ rest = print format other ++ otherRest) :
    SameForm document other := by
  obtain ⟨head, behind, printed, isKind, -⟩ := @exists_print_cons format document
  obtain ⟨otherHead, otherBehind, otherPrinted, isOtherKind, -⟩ := @exists_print_cons format other
  rw [printed, otherPrinted] at same
  apply sameForm_of_kind
  rw [← isKind, ← isOtherKind, (List.cons.inj same).1]

theorem print_append_ne (document : Json) (rest otherRest : List Char) :
    print format document ++ rest ≠ ']' :: otherRest := by
  intro same
  obtain ⟨head, behind, printed, -, other⟩ := @exists_print_cons format document
  rw [printed] at same
  exact other (List.cons.inj same).1

theorem startsWith_printItems (items : List Json) (rest : List Char) :
    startsWith isNumeric (printItems format items ++ rest) = false := by
  cases items with
  | nil => exact (by decide : isNumeric ']' = false)
  | cons item items => exact (by decide : isNumeric ',' = false)

theorem startsWith_printFields (fields : List (String × Json)) (rest : List Char) :
    startsWith isNumeric (printFields format fields ++ rest) = false := by
  cases fields with
  | nil => exact (by decide : isNumeric '\x7d' = false)
  | cons field fields => exact (by decide : isNumeric ',' = false)

/-! ## Reading documents back -/

mutual

/-- Documents are read back off the texts in front of which they stand. -/
theorem print_append_inj (document other : Json) {rest otherRest : List Char}
    (ends : startsWith isNumeric rest = false) (otherEnds : startsWith isNumeric otherRest = false)
    (same : print format document ++ rest = print format other ++ otherRest) :
    document = other ∧ rest = otherRest := by
  match document, other, sameForm_of_append same with
  | _, _, .null => exact ⟨rfl, append_cancel_left same⟩
  | _, _, .bool flag => exact ⟨rfl, append_cancel_left same⟩
  | _, _, .number number otherNumber =>
    simp only [print_number] at same
    obtain ⟨sameText, sameRest⟩ := DecimalText.append_run_inj (fun _ => isNumeric_of_mem_numberText)
        (fun _ => isNumeric_of_mem_numberText) ends otherEnds same
    rw [numberText_injective sameText]
    exact ⟨rfl, sameRest⟩
  | _, _, .string text otherText =>
    simp only [print_string] at same
    obtain ⟨sameText, sameRest⟩ := literal_append_inj same
    rw [String.toList_injective sameText]
    exact ⟨rfl, sameRest⟩
  | _, _, .array items others =>
    match items, others with
    | [], [] => exact ⟨rfl, append_cancel_left same⟩
    | [], item :: others =>
      simp only [print_array_cons, cons_append, append_assoc] at same
      exact absurd (List.cons.inj same).2.symm (print_append_ne _ _ _)
    | item :: items, [] =>
      simp only [print_array_cons, cons_append, append_assoc] at same
      exact absurd (List.cons.inj same).2 (print_append_ne _ _ _)
    | item :: items, head :: others =>
      -- Behind the bracket stands what stands behind a comma.
      have sameItems : printItems format (item :: items) ++ rest =
          printItems format (head :: others) ++ otherRest :=
        congrArg (',' :: ·) (List.cons.inj same).2
      obtain ⟨isSame, sameRest⟩ := printItems_append_inj (item :: items) (head :: others) sameItems
      exact ⟨congrArg Json.array isSame, sameRest⟩
  | _, _, .object fields others =>
    match fields, others with
    | [], [] => exact ⟨rfl, append_cancel_left same⟩
    | [], (key, value) :: others =>
      exact absurd (List.cons.inj (List.cons.inj same).2).1 (by decide)
    | (key, value) :: fields, [] =>
      exact absurd (List.cons.inj (List.cons.inj same).2).1 (by decide)
    | field :: fields, head :: others =>
      have sameFields : printFields format (field :: fields) ++ rest =
          printFields format (head :: others) ++ otherRest :=
        congrArg (',' :: ·) (List.cons.inj same).2
      obtain ⟨isSame, sameRest⟩ :=
        printFields_append_inj (field :: fields) (head :: others) sameFields
      exact ⟨congrArg Json.object isSame, sameRest⟩

theorem printItems_append_inj (items others : List Json) {rest otherRest : List Char}
    (same : printItems format items ++ rest = printItems format others ++ otherRest) :
    items = others ∧ rest = otherRest := by
  match items, others with
  | [], [] => exact ⟨rfl, append_cancel_left same⟩
  | [], item :: others => exact absurd (List.cons.inj same).1 (by decide)
  | item :: items, [] => exact absurd (List.cons.inj same).1 (by decide)
  | item :: items, head :: others =>
    simp only [printItems_cons, cons_append, append_assoc] at same
    obtain ⟨rfl, sameItems⟩ := print_append_inj item head (startsWith_printItems items rest)
        (startsWith_printItems others otherRest) (List.cons.inj same).2
    obtain ⟨rfl, sameRest⟩ := printItems_append_inj items others sameItems
    exact ⟨rfl, sameRest⟩

theorem printFields_append_inj (fields others : List (String × Json)) {rest otherRest : List Char}
    (same : printFields format fields ++ rest = printFields format others ++ otherRest) :
    fields = others ∧ rest = otherRest := by
  match fields, others with
  | [], [] => exact ⟨rfl, append_cancel_left same⟩
  | [], (key, value) :: others => exact absurd (List.cons.inj same).1 (by decide)
  | (key, value) :: fields, [] => exact absurd (List.cons.inj same).1 (by decide)
  | (key, value) :: fields, (otherKey, head) :: others =>
    simp only [printFields_cons, cons_append, append_assoc] at same
    obtain ⟨sameKey, sameValue⟩ := literal_append_inj (List.cons.inj same).2
    obtain rfl := String.toList_injective sameKey
    obtain ⟨rfl, sameFields⟩ := print_append_inj value head (startsWith_printFields fields rest)
        (startsWith_printFields others otherRest)
        (List.cons.inj sameValue).2
    obtain ⟨rfl, sameRest⟩ := printFields_append_inj fields others sameFields
    exact ⟨rfl, sameRest⟩

end

theorem print_injective : Function.Injective (print format) := by
  intro document other same
  have sameText : print format document ++ [] = print format other ++ [] := by rw [same]
  exact (print_append_inj document other rfl rfl sameText).1

/-! ## Bars stand in literals only -/

theorem ne_of_numeric {character : Char} (numeric : isNumeric character = true) :
    character ≠ '"' ∧ character ≠ '\\' ∧ character ≠ '|' := by
  refine ⟨?_, ?_, ?_⟩
  all_goals
    rintro rfl
    revert numeric
    decide

mutual

theorem isClosed_print (document : Json) : IsClosed '|' (print format document) := by
  match document with
  | .null => rfl
  | .bool true => rfl
  | .bool false => rfl
  | .number number =>
    exact isClosed_of_plain fun _ isIn => ne_of_numeric (isNumeric_of_mem_numberText isIn)
  | .string text => exact isClosed_literal _
  | .array [] => rfl
  | .array (item :: items) =>
    exact ((isClosed_print item).append (isClosed_printItems items)).cons (by decide)
  | .object [] => rfl
  | .object ((key, value) :: fields) =>
    exact ((isClosed_literal _).append
      (((isClosed_print value).append (isClosed_printFields fields)).cons
        (by decide))).cons (by decide)

theorem isClosed_printItems (items : List Json) : IsClosed '|' (printItems format items) := by
  match items with
  | [] => rfl
  | item :: items =>
    exact ((isClosed_print item).append (isClosed_printItems items)).cons (by decide)

theorem isClosed_printFields (fields : List (String × Json)) :
    IsClosed '|' (printFields format fields) := by
  match fields with
  | [] => rfl
  | (key, value) :: fields =>
    exact ((isClosed_literal _).append
      (((isClosed_print value).append (isClosed_printFields fields)).cons
        (by decide))).cons (by decide)

end

end Rustasea.Orm.Casts
