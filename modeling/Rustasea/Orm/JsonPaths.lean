import Mathlib.Algebra.Group.Nat.Defs
import Rustasea.Library.PercentEncoding
import Rustasea.Orm.SqlText

namespace Rustasea.Orm

/-!
# Rows as JSON documents, and the relations between them

A fetched row is a JSON object.  Relations and cascades read its key columns as
texts and bind a text that is a UUID as one.
-/

/-- The characters `serde_json` prints a number with. -/
def isNumberText (text : String) : Bool :=
  !text.isEmpty &&
    text.toList.all fun character => character.isDigit || "+-.e".toList.contains character

structure JsonNumber where
  printed : String
  isNumber : isNumberText printed = true
  deriving DecidableEq

/-- A JSON document. -/
inductive Json where
  | null
  | bool (flag : Bool)
  | number (number : JsonNumber)
  | string (text : String)
  | array (items : List Json)
  | object (fields : List (String × Json))

namespace Json

def get (document : Json) (field : String) : Option Json :=
  match document with
  | .object fields => fields.lookup field
  | _ => none

def asStr : Json → Option String
  | .string text => some text
  | _ => none

def setField (field : String) (value : Json) : List (String × Json) → List (String × Json)
  | [] => [(field, value)]
  | (name, present) :: rest =>
    if field = name then (name, value) :: rest
    else (name, present) :: setField field value rest

def set (document : Json) (field : String) (value : Json) : Json :=
  match document with
  | .object fields => .object (setField field value fields)
  | other => other

theorem lookup_setField_self (field : String) (value : Json) (fields : List (String × Json)) :
    (setField field value fields).lookup field = some value := by
  induction fields with
  | nil => simp [setField]
  | cons entry rest ih =>
    obtain ⟨name, present⟩ := entry
    by_cases same : field = name
    · simp [setField, same]
    · rw [setField, if_neg same, List.lookup_cons, beq_false_of_ne same]
      exact ih

variable {field other : String}

theorem lookup_setField_of_ne (different : other ≠ field) (value : Json)
    (fields : List (String × Json)) :
    (setField field value fields).lookup other = fields.lookup other := by
  induction fields with
  | nil => simp [setField, List.lookup_cons, beq_false_of_ne different]
  | cons entry rest ih =>
    obtain ⟨name, present⟩ := entry
    by_cases same : field = name
    · subst same
      simp [setField, List.lookup_cons, beq_false_of_ne different]
    · rw [setField, if_neg same, List.lookup_cons, List.lookup_cons, ih]

theorem get_set_of_ne (different : other ≠ field) (value document : Json) :
    (document.set field value).get other = document.get other := by
  cases document with
  | object fields => exact lookup_setField_of_ne different value fields
  | _ => rfl

theorem get_set_self (field : String) (value : Json) (fields : List (String × Json)) :
    ((Json.object fields).set field value).get field = some value :=
  lookup_setField_self field value fields

end Json

/-! ## UUIDs -/

/-- The value of a hexadecimal digit, upper or lower case. -/
def hexValue? (character : Char) : Option Nat :=
  if character.isDigit then some (character.toNat - 48)
  else if 97 ≤ character.toNat ∧ character.toNat ≤ 102 then some (character.toNat - 87)
  else if 65 ≤ character.toNat ∧ character.toNat ≤ 70 then some (character.toNat - 55)
  else none

def hyphenPositions : List Nat := [8, 13, 18, 23]

def hyphenatedDigits? (characters : List Char) : Option (List Nat) :=
  if hyphenPositions.all fun position => characters[position]? == some '-' then
    (characters.filter fun character => character ≠ '-').mapM hexValue?
  else none

/-- The digits of a UUID in the forms that `Uuid::parse_str` accepts. -/
def uuidDigits? (text : String) : Option (List Nat) :=
  let characters := text.toList
  let digits? :=
    if characters.length = 32 then characters.mapM hexValue?
    else if characters.length = 36 then hyphenatedDigits? characters
    else if characters.length = 38 then
      if characters.head? = some '\x7b' ∧ characters.getLast? = some '\x7d' then
        hyphenatedDigits? (characters.drop 1).dropLast
      else none
    else if characters.length = 45 then
      if characters.take 9 = "urn:uuid:".toList then hyphenatedDigits? (characters.drop 9)
      else none
    else none
  digits?.bind fun digits => if digits.length = 32 then some digits else none

def uuidText (digits : List Nat) : String :=
  let characters := digits.map PercentEncoding.lowerHexDigit
  let group (from_ count : Nat) := (characters.drop from_).take count
  String.ofList
    (group 0 8 ++ '-' :: group 8 4 ++ '-' :: group 12 4 ++ '-' :: group 16 4 ++ '-' :: group 20 12)

def parseUuid? (text : String) : Option String := (uuidDigits? text).map uuidText

/-! ## Keys of rows -/

/-- Read a row's key column as a string, when present and non-null. -/
def rowKey (row : Json) (column : String) : Option String :=
  match row.get column with
  | some (.string text) => some text
  | some (.number number) => some number.printed
  | _ => none

/-- Bind a string key as a UUID when it parses, else as text. -/
def keyToValue (key : String) : Value Json :=
  match parseUuid? key with
  | some id => .uuid id
  | none => .text key

def compositeKeySeparator : String := "\x1f"

/-- `parts.join(separator)`. -/
def joinKey : List String → String
  | [] => ""
  | [only] => only
  | first :: second :: rest => first ++ compositeKeySeparator ++ joinKey (second :: rest)

/-- Read a row's composite key, when every column is present and non-null. -/
def rowCompositeKey (row : Json) (columns : List String) : Option String :=
  (columns.mapM (rowKey row)).map joinKey

/-- Keep the first value of every key, in the order of their first rows. -/
def firstOfEach {Payload : Type} : List (String × Payload) → List (String × Payload)
  | [] => []
  | (key, payload) :: rest =>
    (key, payload) :: (firstOfEach rest).filter fun (other, _) => decide (other ≠ key)

def parentKeys (rows : List Json) (column : String) : List (Value Json) :=
  (firstOfEach ((rows.filterMap (rowKey · column)).map fun key =>
    (key, keyToValue key))).map Prod.snd

def parentRows (rows : List Json) (columns : List String) : List (List (Value Json)) :=
  (firstOfEach (rows.filterMap fun row =>
    (rowCompositeKey row columns).map fun key =>
      (key, (columns.filterMap (rowKey row)).map keyToValue))).map Prod.snd

/-! ## Relations -/

/-- Kind of relation between two models. -/
inductive RelationKind where
  | hasMany
  | belongsTo
  | manyToMany
  | belongsToJson
  | hasManyJson
  | belongsToManyJson
  deriving DecidableEq

/-- The JSON column and the dot-path that store the keys of a relation. -/
structure JsonSpec where
  column : String
  path : String
  deriving DecidableEq

/-- A declared relation. -/
structure Relation where
  name : String
  relatedTable : String
  foreignKey : String
  localKey : String
  kind : RelationKind
  pivotTable : Option String
  relatedKey : Option String
  foreignKeys : Option (List String)
  localKeys : Option (List String)
  json : Option JsonSpec
  deriving DecidableEq

namespace Relation

/-- The foreign-key columns, composite or the single fallback. -/
def effectiveForeignKeys (relation : Relation) : List String :=
  relation.foreignKeys.getD [relation.foreignKey]

/-- The local-key columns, composite or the single fallback. -/
def effectiveLocalKeys (relation : Relation) : List String :=
  relation.localKeys.getD [relation.localKey]

/-- Whether the relation keys on more than one column. -/
def isComposite (relation : Relation) : Bool :=
  match relation.foreignKeys with
  | some keys => decide (1 < keys.length)
  | none => false

end Relation

/-!
## Dot-paths into JSON documents

`json_at_path`: the segments between the dots name the fields of objects and the
positions of arrays.
-/

/-- `path.split('.')`, over characters. -/
def splitDots : List Char → List (List Char)
  | [] => [[]]
  | character :: rest =>
    if character = '.' then [] :: splitDots rest
    else
      match splitDots rest with
      | [] => [[character]]
      | segment :: segments => (character :: segment) :: segments

def segments (path : String) : List String := (splitDots path.toList).map String.ofList

/-- The digits of a number, with the one plus sign that `parse` allows. -/
def withoutPlus : List Char → List Char
  | '+' :: digits => digits
  | digits => digits

def parseUsize? (text : String) : Option Nat :=
  let digits := withoutPlus text.toList
  if digits ≠ [] ∧ digits.all Char.isDigit = true then
    let value := digits.foldl (fun value digit => 10 * value + (digit.toNat - '0'.toNat)) 0
    if value < 2 ^ 64 then some value else none
  else none

def Json.child? (document : Json) (segment : String) : Option Json :=
  match document with
  | .object fields => fields.lookup segment
  | .array items => (parseUsize? segment).bind fun index => items[index]?
  | _ => none

def Json.navigate (document : Json) : List String → Option Json
  | [] => some document
  | segment :: rest => (document.child? segment).bind (Json.navigate · rest)

/-- Navigate a dot-path into a document, returning the value at the path. -/
def jsonAtPath (document : Json) (path : String) : Option Json :=
  document.navigate (segments path)

end Rustasea.Orm
