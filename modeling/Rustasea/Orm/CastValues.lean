import Mathlib.Algebra.Group.Int.Defs
import Rustasea.Library.CalendarTime
import Rustasea.Orm.JsonPaths

/-!
# Bind values and their JSON projections

A model is written as a JSON document.  A cast turns a field of it into a bind
value, which is projected back to JSON and bound again, by the shape of the
document and by the name of the column.
-/

namespace Rustasea.Orm.Casts

/-! ## Documents -/

def isFinite (bits : UInt64) : Bool := bits.toNat / 2 ^ 52 % 2 ^ 11 ≠ 2 ^ 11 - 1

abbrev FiniteFloat :=
  { bits : UInt64 // isFinite bits = true }

def isI64 (number : Int) : Bool := -2 ^ 63 ≤ number ∧ number < 2 ^ 63

/-- Whether an integer is one of 64 bits, with or without a sign. -/
def isJsonInteger (number : Int) : Bool := -2 ^ 63 ≤ number ∧ number < 2 ^ 64

inductive Number where
  | integer (number : Int) (fits : isJsonInteger number = true)
  | float (value : FiniteFloat)

/-- A JSON document. -/
inductive Json where
  | null
  | bool (flag : Bool)
  | number (number : Number)
  | string (text : String)
  | array (items : List Json)
  | object (fields : List (String × Json))

namespace Number

/-- The number as an integer of 64 bits, when it is written as one. -/
def asI64 : Number → Option Int64
  | .integer number _ =>
    if isI64 number then some (Int64.ofInt number) else none
  | .float _ => none

def asF64 (floatOfInt : Int → FiniteFloat) : Number → FiniteFloat
  | .integer number _ => floatOfInt number
  | .float value => value

end Number

variable (number : Int64)

theorem isI64_toInt : isI64 number.toInt = true := by
  have low := number.le_toInt
  have high := number.toInt_lt
  exact decide_eq_true ⟨low, high⟩

theorem isJsonInteger_toInt : isJsonInteger number.toInt = true := by
  have low := number.le_toInt
  have high := number.toInt_lt
  exact decide_eq_true ⟨low, by omega⟩

def Number.ofInt64 (number : Int64) : Number := .integer number.toInt (isJsonInteger_toInt number)

@[simp] theorem Number.asI64_ofInt64 : (Number.ofInt64 number).asI64 = some number := by
  rw [ofInt64, asI64, if_pos (isI64_toInt number), Int64.ofInt_toInt]

/-! ## Bind values -/

/-- A single bind value of a statement. -/
inductive Value where
  | null
  | bool (flag : Bool)
  | int (number : Int64)
  | float (bits : UInt64)
  | text (content : String)
  | uuid (id : String)
  | timestamp (time : CalendarTime)
  | json (document : Json)

/-- The errors of casts and of the write path. -/
inductive OrmError where
  | castError (column message : String)
  | invalidValue (message : String)
  | storage (message : String)
  deriving DecidableEq

def numberValue (floatOfInt : Int → FiniteFloat) (number : Number) : Value :=
  match number.asI64 with
  | some signed => .int signed
  | none => .float (number.asF64 floatOfInt)

namespace Value

def fromJson (floatOfInt : Int → FiniteFloat) : Json → Value
  | .null => .null
  | .bool flag => .bool flag
  | .number number => numberValue floatOfInt number
  | .string content => .text content
  | .array items => .json (.array items)
  | .object fields => .json (.object fields)

def floatJson (bits : UInt64) : Json :=
  if finite : isFinite bits = true then .number (.float ⟨bits, finite⟩)
  else .null

/-- A bind value as JSON; timestamps as text, to the microsecond. -/
def toJson : Value → Json
  | .null => .null
  | .bool flag => .bool flag
  | .int number => .number (.ofInt64 number)
  | .float bits => floatJson bits
  | .text content => .string content
  | .uuid id => .string id
  | .timestamp time => .string (time.print 6)
  | .json document => document

end Value

/-! ## Binding -/

/-- Whether a column holds a UUID and binds natively as one. -/
def isUuidColumn (column : String) : Bool :=
  column == "id" || column.endsWith "_id" || column.endsWith "_uuid"

def textToValue (column text : String) : Except OrmError Value :=
  if isUuidColumn column then
    match parseUuid? text with
    | some id => .ok (.uuid id)
    | none =>
      .error (.invalidValue ("column `" ++ column ++ "` expects a UUID, got `" ++ text ++ "`"))
  else .ok (.text text)

def jsonToValue (floatOfInt : Int → FiniteFloat) (column : String) : Json → Except OrmError Value
  | .null => .ok .null
  | .bool flag => .ok (.bool flag)
  | .number number => .ok (numberValue floatOfInt number)
  | .string text => textToValue column text
  | .array items => .ok (.json (.array items))
  | .object fields => .ok (.json (.object fields))

/-- A bound value, as the row that the database gives back shows it. -/
def rowValue (floatOfInt : Int → FiniteFloat) (bound : Value) : Value :=
  Value.fromJson floatOfInt bound.toJson

variable {floatOfInt : Int → FiniteFloat}

@[simp] theorem numberValue_ofInt64 : numberValue floatOfInt (.ofInt64 number) = .int number := by
  rw [numberValue, Number.asI64_ofInt64]

@[simp] theorem floatJson_finite (value : FiniteFloat) :
    Value.floatJson value = .number (.float value) :=
  dif_pos value.property

@[simp] theorem rowValue_numberValue (number : Number) :
    rowValue floatOfInt (numberValue floatOfInt number) = numberValue floatOfInt number := by
  unfold rowValue
  cases signed : number.asI64 with
  | some bound =>
    have isInt : numberValue floatOfInt number = .int bound := by rw [numberValue, signed]
    rw [isInt]
    exact numberValue_ofInt64 bound
  | none =>
    have isFloat : numberValue floatOfInt number = .float (number.asF64 floatOfInt) := by
      rw [numberValue, signed]
    rw [isFloat, Value.toJson, floatJson_finite]
    rfl

def storedText (column text : String) : Option String :=
  if isUuidColumn column then parseUuid? text else some text

variable {bound : Value}

theorem rowValue_of_textToValue {column text : String}
    (isBound : textToValue column text = .ok bound) :
    ∃ stored, storedText column text = some stored ∧ rowValue floatOfInt bound = .text stored := by
  unfold textToValue at isBound
  unfold storedText
  split_ifs at isBound ⊢ with isUuid
  · cases parsed : parseUuid? text with
    | none =>
      rw [parsed] at isBound
      cases isBound
    | some id =>
      rw [parsed] at isBound
      cases isBound
      exact ⟨id, rfl, rfl⟩
  · cases isBound
    exact ⟨text, rfl, rfl⟩

theorem rowValue_of_bound {column : String} {document : Json}
    (notText : ∀ text, document ≠ .string text)
    (isBound : jsonToValue floatOfInt column document = .ok bound) :
    rowValue floatOfInt bound = Value.fromJson floatOfInt document := by
  cases document with
  | string text => exact absurd rfl (notText text)
  | number number =>
    cases isBound
    exact rowValue_numberValue number
  | _ =>
    cases isBound
    rfl

theorem length_of_parseUuid? {text id : String} (isUuid : parseUuid? text = some id) :
    text.toList.length ∈ [32, 36, 38, 45] := by
  by_contra notIn
  simp only [List.mem_cons, List.not_mem_nil, or_false, not_or] at notIn
  obtain ⟨notSimple, notHyphenated, notBraced, notUrn⟩ := notIn
  rw [parseUuid?, uuidDigits?, if_neg notSimple, if_neg notHyphenated,
    if_neg notBraced, if_neg notUrn] at isUuid
  cases isUuid

theorem storedText_of_length {column text stored : String}
    (isStored : storedText column text = some stored)
    (other : text.toList.length ∉ [32, 36, 38, 45]) : stored = text := by
  unfold storedText at isStored
  split_ifs at isStored
  · exact absurd (length_of_parseUuid? isStored) other
  · exact (Option.some.inj isStored).symm

end Rustasea.Orm.Casts
