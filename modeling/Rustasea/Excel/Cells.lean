import Rustasea.Library.DecimalText

namespace Rustasea.Excel

open DecimalText (inI64)

/-!
# Cells of a table

Values are written to cells as text, and what a cell contains is guessed from
its text.
-/

abbrev Text := List Char

def decimal : Int → Text
  | .ofNat n => Nat.toDigits 10 n
  | .negSucc n => '-' :: Nat.toDigits 10 (n + 1)

def parseI64 (text : Text) : Option Int := DecimalText.parseI64 (text.flatMap String.utf8EncodeChar)

variable {char : Char}

theorem utf8EncodeChar_ascii (isAscii : char.toNat < 0x80) :
    String.utf8EncodeChar char = [UInt8.ofNat char.toNat] := by
  have isLow : char.val.toNat ≤ 0x7f := Nat.le_of_lt_succ isAscii
  unfold String.utf8EncodeChar
  rw [if_pos isLow]
  rfl

theorem flatMap_utf8EncodeChar {text : Text} (isAscii : ∀ char ∈ text, char.toNat < 0x80) :
    text.flatMap String.utf8EncodeChar = DecimalText.asciiBytes text := by
  induction text with
  | nil => rfl
  | cons char rest ih =>
    rw [List.forall_mem_cons] at isAscii
    rw [List.flatMap_cons, utf8EncodeChar_ascii isAscii.1, ih isAscii.2]
    rfl

variable {n : Int}

theorem mem_decimal (isChar : char ∈ decimal n) : char = '-' ∨ char.isDigit := by
  cases n with
  | ofNat m => exact .inr (Nat.isDigit_of_mem_toDigits (by decide) (by decide) isChar)
  | negSucc m =>
    rcases List.mem_cons.mp isChar with isSign | isDigit
    · exact .inl isSign
    · exact .inr (Nat.isDigit_of_mem_toDigits (by decide) (by decide) isDigit)

theorem decimal_ne_nil (n : Int) : decimal n ≠ [] := by
  cases n with
  | ofNat m => exact Nat.toDigits_ne_nil
  | negSucc m => exact List.cons_ne_nil _ _

theorem parseI64_decimal (inRange : inI64 n) : parseI64 (decimal n) = some n := by
  have isAscii : ∀ char ∈ decimal n, char.toNat < 0x80 := by
    intro char isChar
    rcases mem_decimal isChar with rfl | isDigit
    · decide
    · have bounds := DecimalText.toNat_of_isDigit isDigit
      omega
  have isDecimal : DecimalText.asciiBytes (decimal n) = DecimalText.decimal n := by
    cases n <;> rfl
  rw [parseI64, flatMap_utf8EncodeChar isAscii, isDecimal, DecimalText.parseI64_decimal inRange]

/-- Floating-point numbers of 64 bits, how they are read and how printed. -/
structure Floats where
  Float : Type
  isFinite : Float → Bool
  /-- The text of `Display`. -/
  display : Float → Text
  parse : Text → Option Float
  /-- The number next to an integer. -/
  ofInt : Int → Float
  /-- The text in a JSON document. -/
  printed : Float → Text

/-- What is documented of reading and printing. -/
structure Floats.Documented (floats : Floats) : Prop where
  parse_display : ∀ float, floats.isFinite float → floats.parse (floats.display float) = some float
  parse_true : floats.parse ("true".toList) = none
  parse_false : floats.parse ("false".toList) = none

variable {floats : Floats}

/-- Numbers of a JSON document. -/
inductive Number (floats : Floats) where
  | posInt (n : Nat) (inRange : n < 18446744073709551616)
  | negInt (n : Int) (isNegative : n < 0) (inRange : inI64 n)
  | float (float : floats.Float) (isFinite : floats.isFinite float)

namespace Number

def ofInt (n : Int) (inRange : inI64 n) : Number floats :=
  if isNegative : n < 0 then .negInt n isNegative inRange
  else
    .posInt n.toNat (by
      simp only [inI64, decide_eq_true_eq] at inRange
      omega)

def ofFloat (float : floats.Float) : Option (Number floats) :=
  if isFinite : floats.isFinite float then some (.float float isFinite)
  else none

@[grind =] def asI64 : Number floats → Option Int
  | .posInt n _ =>
    if n ≤ 9223372036854775807 then some n
    else none
  | .negInt n _ _ => some n
  | .float _ _ => none

def asF64 : Number floats → Option floats.Float
  | .posInt n _ => some (floats.ofInt n)
  | .negInt n _ _ => some (floats.ofInt n)
  | .float held _ => some held

def printed : Number floats → Text
  | .posInt n _ => decimal n
  | .negInt n _ _ => decimal n
  | .float held _ => floats.printed held

end Number

/-- A JSON document; arrays and objects are known by their texts. -/
inductive Value (floats : Floats) where
  | null
  | bool (flag : Bool)
  | number (number : Number floats)
  | string (text : Text)
  | structured (printed : Text)

def boolText (flag : Bool) : Text :=
  if flag then "true".toList
  else "false".toList

/-- The text of a document; a string is printed elsewhere. -/
def Value.printed : Value floats → Text
  | .null => "null".toList
  | .bool flag => boolText flag
  | .number held => held.printed
  | .string text => text
  | .structured text => text

/-! ## Reading cells -/

def hasFloatMarker (cell : Text) : Bool := cell.any fun char => char = '.' ∨ char = 'e' ∨ char = 'E'

/-- The finite number that a text is written as, with a marker. -/
def floatOf (floats : Floats) (cell : Text) : Option (Number floats) :=
  if hasFloatMarker cell then (floats.parse cell).bind Number.ofFloat
  else none

@[grind =] def integerOf (cell : Text) : Option { n : Int // inI64 n } :=
  match isRead : parseI64 cell with
  | some n =>
    if decimal n = cell then some ⟨n, DecimalText.inI64_of_parseI64 isRead⟩
    else none
  | none => none

@[grind =] def coerceCsvCell (floats : Floats) (cell : Text) : Value floats :=
  if cell = [] then .null
  else if cell = "true".toList then .bool true
  else if cell = "false".toList then .bool false
  else
    match integerOf cell with
    | some n => .number (.ofInt n.1 n.2)
    | none =>
      match floatOf floats cell with
      | some number => .number number
      | none => .string cell

/-! ## Writing cells -/

inductive ExportCell (floats : Floats) where
  | text (text : Text)
  | integer (n : Int)
  | float (float : floats.Float)
  | bool (flag : Bool)
  | blank

@[grind =] def ExportCell.toCsvField : ExportCell floats → Option Text
  | .text held => some held
  | .integer n => some (decimal n)
  | .float held => some (floats.display held)
  | .bool flag => some (boolText flag)
  | .blank => none

@[grind =] def valueToExportCell : Value floats → ExportCell floats
  | .null => .blank
  | .bool flag => .bool flag
  | .number held =>
    match held.asI64 with
    | some n => .integer n
    | none =>
      match held.asF64 with
      | some float => .float float
      | none => .text held.printed
  | .string text => .text text
  | .structured printed => .text printed

def csvField (value : Value floats) : Text := (valueToExportCell value).toCsvField.getD []

/-! ## Values that survive -/

/-- An integer in 64 bits, written without needless digits. -/
def isIntegerText (text : Text) : Bool := (parseI64 text).any fun n => decimal n = text

/-- A finite number with a decimal point or an exponent. -/
def isFloatText (floats : Floats) (text : Text) : Bool :=
  hasFloatMarker text ∧ (floats.parse text).any floats.isFinite

/--
Values that are read as they were written: integers up to the signed maximum,
floats that are written with a point, and texts that do not look like anything
else.
-/
@[grind =] def Value.Survives : Value floats → Prop
  | .null => True
  | .bool _ => True
  | .number (.posInt n _) => n ≤ 9223372036854775807
  | .number (.negInt _ _ _) => True
  | .number (.float held _) => hasFloatMarker (floats.display held)
  | .string text =>
    text ≠ [] ∧ text ≠ "true".toList ∧ text ≠ "false".toList ∧
          isIntegerText text = false ∧ isFloatText floats text = false
  | .structured _ => False

instance : DecidablePred (@Value.Survives floats)
  | .null => inferInstanceAs (Decidable True)
  | .bool _ => inferInstanceAs (Decidable True)
  | .number (.posInt n _) => inferInstanceAs (Decidable (n ≤ 9223372036854775807))
  | .number (.negInt _ _ _) => inferInstanceAs (Decidable True)
  | .number (.float held _) =>
    inferInstanceAs (Decidable (hasFloatMarker (floats.display held) = true))
  | .string text =>
    inferInstanceAs (Decidable
        (text ≠ [] ∧ text ≠ "true".toList ∧ text ≠ "false".toList ∧
              isIntegerText text = false ∧ isFloatText floats text = false))
  | .structured _ => inferInstanceAs (Decidable False)

theorem integerOf_decimal (inRange : inI64 n) : integerOf (decimal n) = some ⟨n, inRange⟩ := by
  unfold integerOf
  split
  · next m isRead =>
    obtain rfl : n = m := by simpa [parseI64_decimal inRange] using isRead
    rw [if_pos rfl]
  · next isRead =>
    rw [parseI64_decimal inRange] at isRead
    cases isRead

variable {cell : Text}

theorem decimal_of_integerOf {n : { n : Int // inI64 n }} (isInteger : integerOf cell = some n) :
    decimal n.1 = cell := by
  unfold integerOf at isInteger
  split at isInteger
  · split at isInteger
    · next same =>
      cases isInteger
      exact same
    · cases isInteger
  · cases isInteger

theorem integerOf_eq_none_iff {cell : Text} :
    integerOf cell = none ↔ isIntegerText cell = false := by
  unfold integerOf isIntegerText
  split
  · next n isRead => simp [isRead]
  · next isRead => simp [isRead]

theorem floatOf_eq_none_iff {cell : Text} :
    floatOf floats cell = none ↔ isFloatText floats cell = false := by
  unfold floatOf isFloatText
  cases hasFloatMarker cell with
  | false => simp
  | true =>
    cases floats.parse cell with
    | none => simp
    | some held => simp [Number.ofFloat]

theorem hasFloatMarker_decimal (n : Int) : hasFloatMarker (decimal n) = false := by
  unfold hasFloatMarker
  rw [List.any_eq_false]
  intro char isChar
  rcases mem_decimal isChar with rfl | isDigit
  · decide
  · simp only [decide_eq_true_eq]
    rintro (rfl | rfl | rfl) <;> revert isDigit <;> decide

theorem coerceCsvCell_decimal (floats : Floats) (inRange : inI64 n) :
    coerceCsvCell floats (decimal n) = .number (.ofInt n inRange) := by
  have notWord : ∀ word : Text, hasFloatMarker word → decimal n ≠ word := by
    rintro word hasMarker rfl
    rw [hasFloatMarker_decimal] at hasMarker
    cases hasMarker
  unfold coerceCsvCell
  rw [if_neg (decimal_ne_nil n), if_neg (notWord _ (by decide)), if_neg (notWord _ (by decide)),
    integerOf_decimal inRange]

theorem integerOf_of_hasFloatMarker (hasMarker : hasFloatMarker cell) : integerOf cell = none := by
  cases isInteger : integerOf cell with
  | none => rfl
  | some n =>
    rw [← decimal_of_integerOf isInteger, hasFloatMarker_decimal] at hasMarker
    cases hasMarker

theorem le_of_coerceCsvCell {n : Nat} {inRange : n < 18446744073709551616}
    (isRead : coerceCsvCell floats cell = .number (.posInt n inRange)) :
    n ≤ 9223372036854775807 := by
  unfold coerceCsvCell at isRead
  split_ifs at isRead
  split at isRead
  · next found isInteger =>
    obtain ⟨m, isSmall⟩ := found
    simp only [Number.ofInt] at isRead
    split at isRead
    · cases isRead
    · cases isRead
      simp only [inI64, decide_eq_true_eq] at isSmall
      omega
  · split at isRead
    · next number isFloat =>
      unfold floatOf at isFloat
      split at isFloat
      · obtain ⟨held, -, isFinite⟩ := Option.bind_eq_some_iff.mp isFloat
        unfold Number.ofFloat at isFinite
        split at isFinite
        · cases isFinite
          cases isRead
        · cases isFinite
      · cases isFloat
    · cases isRead

variable {held : floats.Float}

theorem hasFloatMarker_of_coerceCsvCell {isFinite : floats.isFinite held}
    (isRead : coerceCsvCell floats cell = .number (.float held isFinite)) :
    hasFloatMarker cell := by
  unfold coerceCsvCell at isRead
  split_ifs at isRead
  split at isRead
  · simp only [Number.ofInt] at isRead
    split at isRead <;> cases isRead
  · split at isRead
    · next number isFloat =>
      unfold floatOf at isFloat
      split at isFloat
      · assumption
      · cases isFloat
    · cases isRead

theorem coerceCsvCell_display (documented : floats.Documented) (isFinite : floats.isFinite held)
    (hasMarker : hasFloatMarker (floats.display held)) :
    coerceCsvCell floats (floats.display held) = .number (.float held isFinite) := by
  have isParsed := documented.parse_display held isFinite
  have notWord : ∀ word : Text, floats.parse word = none → floats.display held ≠ word := by
    rintro word unparsed rfl
    rw [isParsed] at unparsed
    cases unparsed
  have isSome : floats.display held ≠ [] := by
    intro isEmpty
    rw [isEmpty] at hasMarker
    cases hasMarker
  unfold coerceCsvCell
  rw [if_neg isSome, if_neg (notWord _ documented.parse_true),
    if_neg (notWord _ documented.parse_false), integerOf_of_hasFloatMarker hasMarker]
  simp [floatOf, hasMarker, isParsed, Number.ofFloat, isFinite]

theorem coerceCsvCell_eq_string_iff {text : Text} :
    coerceCsvCell floats text = .string text ↔ (.string text : Value floats).Survives := by
  rw [Value.Survives, ← integerOf_eq_none_iff, ← floatOf_eq_none_iff]
  unfold coerceCsvCell
  split_ifs with isEmpty isTrue isFalse
  · simp [isEmpty]
  · simp [isTrue]
  · simp [isFalse]
  · cases integerOf text with
    | some n => simp
    | none =>
      cases floatOf floats text with
      | some number => simp
      | none => exact iff_of_true rfl ⟨isEmpty, isTrue, isFalse, rfl, rfl⟩

theorem coerceCsvCell_ne_structured (cell printed : Text) :
    coerceCsvCell floats cell ≠ .structured printed := by
  unfold coerceCsvCell
  split_ifs
  · exact nofun
  · exact nofun
  · exact nofun
  · split
    · exact nofun
    · split <;> exact nofun

theorem coerceCsvCell_csvField (documented : floats.Documented) (value : Value floats) :
    coerceCsvCell floats (csvField value) = value ↔ value.Survives := by
  match value with
  | .null => exact iff_of_true rfl trivial
  | .bool flag =>
    refine iff_of_true ?_ trivial
    cases flag <;> rfl
  | .number (.posInt n inRange) =>
    constructor
    · exact le_of_coerceCsvCell
    · intro isSmall
      change n ≤ 9223372036854775807 at isSmall
      have isI64 : inI64 n := by
        simp only [inI64, decide_eq_true_eq]
        omega
      have isField : csvField (.number (.posInt n inRange) : Value floats) = decimal n := by
        simp only [csvField, valueToExportCell, Number.asI64]
        rw [if_pos isSmall]
        rfl
      rw [isField, coerceCsvCell_decimal floats isI64, Number.ofInt, dif_neg (by omega)]
      simp
  | .number (.negInt n isNegative inRange) =>
    refine iff_of_true ?_ trivial
    rw [csvField, valueToExportCell, Number.asI64]
    simp only [ExportCell.toCsvField, Option.getD_some]
    rw [coerceCsvCell_decimal floats inRange, Number.ofInt, dif_pos isNegative]
  | .number (.float held isFinite) =>
    exact ⟨hasFloatMarker_of_coerceCsvCell, coerceCsvCell_display documented isFinite⟩
  | .string text => exact coerceCsvCell_eq_string_iff
  | .structured printed => exact iff_of_false (coerceCsvCell_ne_structured _ _) id

end Rustasea.Excel
