import Rustasea.Library.DecimalText
import Rustasea.Library.Fallible
import Rustasea.Library.Utf8
import Rustasea.Orm.CastValues
import Rustasea.Schedule.Cron

/-!
# Attribute casts

A cast stands between the bind value of a column and the value of a field.  The
field is written with the model and read again before the cast sets it; the cast
gets it from the row that the database gives back.
-/

namespace Rustasea.Orm.Casts

open PercentEncoding (hexText ofHexText?)

/-! ## What the casts use -/

abbrev CipherKey :=
  { bytes : List UInt8 // bytes.length = 32 }

/-- `NONCE_LEN`. -/
def nonceLength : Nat := 12

abbrev Nonce :=
  { bytes : List UInt8 // bytes.length = nonceLength }

/-- Numbers, texts of times, texts of documents and the cipher. -/
structure Platform where
  floatOfInt : Int → FiniteFloat
  intOfFloat : UInt64 → Int64
  parseFloat : String → Option UInt64
  floatText : UInt64 → String
  describe : Value → String
  invalidType : Json → String → String
  jsonText : Json → Except String String
  jsonOfText : String → Except String Json
  timeText : CalendarTime → String
  serializeTime : CalendarTime → String
  deserializeTime : String → Except String CalendarTime
  parseRfc3339 : String → Option CalendarTime
  parseNaive : (text format : String) → Option CalendarTime
  timeOfSeconds : Int64 → Option CalendarTime
  encrypt : CipherKey → Nonce → List UInt8 → Option (List UInt8)
  decrypt : CipherKey → List UInt8 → List UInt8 → Option (List UInt8)

def naiveFormats : List String := ["%Y-%m-%d %H:%M:%S", "%Y-%m-%dT%H:%M:%S"]

/--
The texts of times are RFC 3339 for four-digit years and ISO 8601 beyond them,
which RFC 3339 readers reject; a leap second off the minute reads as the next
second.  The cipher opens what it seals and adds a tag of 16 bytes.
-/
structure Platform.Documented (platform : Platform) : Prop where
  deserialize_serialize :
    ∀ time, platform.deserializeTime (platform.serializeTime time) = .ok time.settle
  parse_plain : ∀ time : CalendarTime, time.hasPlainYear →
      platform.parseRfc3339 (time.print 6) = some (time.settle.truncate 1000)
  parse_signed :
    ∀ time : CalendarTime, ¬time.hasPlainYear → platform.parseRfc3339 (time.print 6) = none
  parse_naive :
    ∀ time : CalendarTime, ∀ format ∈ naiveFormats, platform.parseNaive (time.print 6) format = none
  decrypt_encrypt : ∀ key nonce plaintext ciphertext,
      platform.encrypt key nonce plaintext = some ciphertext →
      platform.decrypt key nonce ciphertext = some plaintext
  length_encrypt : ∀ key nonce plaintext ciphertext,
      platform.encrypt key nonce plaintext = some ciphertext →
      ciphertext.length = plaintext.length + 16

def trim (text : String) : String := String.ofList (Schedule.trim text.toList)

def bytesOf (text : String) : List UInt8 := text.toList.flatMap String.utf8EncodeChar

/-! ## The built-in casts -/

/-- Convert a single attribute between its database and its Rust form. -/
structure CastsAttributes (Target : Type) where
  get : (key : String) → Value → Except OrmError Target
  set : (key : String) → Target → Except OrmError Value

section Builtin

variable (platform : Platform)

def booleanCast : CastsAttributes Bool where
  get key
    | .bool flag => .ok flag
    | .int number => .ok (decide (number ≠ 0))
    | .float bits => .ok (decide (bits ≠ 0 ∧ bits ≠ 0x8000000000000000))
    | .text text =>
      let lowered := (trim text).map Char.toLower
      if lowered ∈ ["1", "true", "t", "yes", "on"] then .ok true
      else if lowered ∈ ["0", "false", "f", "no", "off"] then .ok false
      else .error (.castError key ("cannot cast `" ++ lowered ++ "` to bool"))
    | .null => .ok false
    | other => .error (.castError key ("cannot cast " ++ platform.describe other ++ " to bool"))
  set _ flag := .ok (.bool flag)

def integerCast : CastsAttributes Int64 where
  get key
    | .int number => .ok number
    | .float bits => .ok (platform.intOfFloat bits)
    | .bool flag => .ok (if flag then 1 else 0)
    | .text text =>
      match DecimalText.parseI64 (bytesOf (trim text)) with
      | some number => .ok (Int64.ofInt number)
      | none => .error (.castError key ("cannot cast `" ++ text ++ "` to integer"))
    | .null => .ok 0
    | other => .error (.castError key ("cannot cast " ++ platform.describe other ++ " to integer"))
  set _ number := .ok (.int number)

def floatCast : CastsAttributes UInt64 where
  get key
    | .float bits => .ok bits
    | .int number => .ok (platform.floatOfInt number.toInt)
    | .bool flag => .ok (if flag then 0x3FF0000000000000 else 0)
    | .text text =>
      match platform.parseFloat (trim text) with
      | some bits => .ok bits
      | none => .error (.castError key ("cannot cast `" ++ text ++ "` to float"))
    | .null => .ok 0
    | other => .error (.castError key ("cannot cast " ++ platform.describe other ++ " to float"))
  set _ bits := .ok (.float bits)

def stringCast : CastsAttributes String where
  get key
    | .text text => .ok text
    | .int number => .ok (toString number.toInt)
    | .float bits => .ok (platform.floatText bits)
    | .bool flag => .ok (toString flag)
    | .uuid id => .ok id
    | .timestamp time => .ok (platform.timeText time)
    | .json document => (platform.jsonText document).mapError (.castError key)
    | .null => .ok ""
  set _ text := .ok (.text text)

def parseDatetime (key text : String) : Except OrmError CalendarTime :=
  match platform.parseRfc3339 (trim text) with
  | some time => .ok time
  | none =>
    match naiveFormats.findSome? (platform.parseNaive (trim text)) with
    | some time => .ok time
    | none => .error (.castError key ("cannot cast `" ++ text ++ "` to datetime"))

def datetimeCast : CastsAttributes CalendarTime where
  get key
    | .timestamp time => .ok time
    | .text text => parseDatetime platform key text
    | .int seconds =>
      match platform.timeOfSeconds seconds with
      | some time => .ok time
      | none =>
        .error (.castError key
          ("unix timestamp `" ++ toString seconds.toInt ++ "` is out of range"))
    | .null => .error (.castError key "cannot cast NULL to a datetime")
    | other => .error (.castError key ("cannot cast " ++ platform.describe other ++ " to datetime"))
  set _ time := .ok (.timestamp time)

/-- How a type is written to and read from JSON documents. -/
structure Serde (Target : Type) where
  toValue : Target → Except String Json
  fromValue : Json → Except String Target

/-- A type that round-trips through its JSON documents. -/
structure JsonTarget (Target : Type) extends Serde Target where
  reads_back : ∀ {value document}, toValue value = .ok document → fromValue document = .ok value

def jsonCast {Target : Type} (target : JsonTarget Target) : CastsAttributes Target where
  get key value := do
    let document ←
      match value with
      | .json document => .ok document
      | .text text =>
        (platform.jsonOfText text).mapError fun error => .castError key ("invalid JSON: " ++ error)
      | .null => .ok .null
      | other =>
        .error (.castError key ("json cast expects JSON or text, got " ++ platform.describe other))
    (target.fromValue document).mapError (.castError key)
  set key value := ((target.toValue value).map Value.json).mapError (.castError key)

def encryptedCast (key? : Option CipherKey) (nonce : Nonce) : CastsAttributes String where
  get column
    | .null => .ok ""
    | .text envelope =>
      match key? with
      | none =>
        .error (.castError column
          "encrypted cast requires a 32-byte key (set RUSTASEA_APP_KEY or APP_KEY)")
      | some key =>
        match ofHexText? envelope with
        | none => .error (.castError column "encrypted value is not valid hex")
        | some bytes =>
          if bytes.length ≤ nonceLength then
            .error (.castError column "encrypted envelope is truncated")
          else
            match platform.decrypt key (bytes.take nonceLength) (bytes.drop nonceLength) with
            | none => .error (.castError column "encrypted value failed authentication")
            | some plaintext =>
              match Utf8.decode plaintext with
              | none => .error (.castError column "encrypted value is not valid UTF-8")
              | some characters => .ok (String.ofList characters)
    | other =>
      .error (.castError column ("encrypted cast expects text, got " ++ platform.describe other))
  set column text :=
    if text.isEmpty then .ok .null
    else
      match key? with
      | none =>
        .error (.castError column
          "encrypted cast requires a 32-byte key (set RUSTASEA_APP_KEY or APP_KEY)")
      | some key =>
        match platform.encrypt key nonce (bytesOf text) with
        | none => .error (.castError column "encryption failed")
        | some ciphertext => .ok (.text (hexText (nonce.val ++ ciphertext)))

def nullableCast {Target : Type} (cast : CastsAttributes Target) :
    CastsAttributes (Option Target) where
  get key
    | .null => .ok none
    | value => (cast.get key value).map some
  set key
    | some inner => cast.set key inner
    | none => .ok .null

end Builtin

/-! ## The types of the fields -/

section Types

variable (platform : Platform)

def boolSerde : Serde Bool where
  toValue flag := .ok (.bool flag)
  fromValue
    | .bool flag => .ok flag
    | other => .error (platform.invalidType other "a boolean")

def integerSerde : Serde Int64 where
  toValue number := .ok (.number (.ofInt64 number))
  fromValue document :=
    match document with
    | .number number =>
      match number.asI64 with
      | some signed => .ok signed
      | none => .error (platform.invalidType document "i64")
    | other => .error (platform.invalidType other "i64")

/-- What is not finite is written as null, which is no float. -/
def floatSerde : Serde UInt64 where
  toValue bits := .ok (Value.floatJson bits)
  fromValue
    | .number number => .ok (number.asF64 platform.floatOfInt)
    | other => .error (platform.invalidType other "f64")

def stringSerde : Serde String where
  toValue text := .ok (.string text)
  fromValue
    | .string text => .ok text
    | other => .error (platform.invalidType other "a string")

def datetimeSerde : Serde CalendarTime where
  toValue time := .ok (.string (platform.serializeTime time))
  fromValue
    | .string text => platform.deserializeTime text
    | other => .error (platform.invalidType other "an RFC 3339 formatted date and time string")

def optionSerde {Target : Type} (inner : Serde Target) : Serde (Option Target) where
  toValue
    | none => .ok .null
    | some value => inner.toValue value
  fromValue
    | .null => .ok none
    | document => (inner.fromValue document).map some

/-- A built-in cast, by the type of its field. -/
inductive Builtin : Type → Type 1 where
  | boolean : Builtin Bool
  | integer : Builtin Int64
  | float : Builtin UInt64
  | string : Builtin String
  | datetime : Builtin CalendarTime
  | json {Target : Type} (target : JsonTarget Target) : Builtin Target
  | encrypted (key? : Option CipherKey) (nonce : Nonce) : Builtin String

namespace Builtin

def serde {Target : Type} : Builtin Target → Serde Target
  | .boolean => boolSerde platform
  | .integer => integerSerde platform
  | .float => floatSerde platform
  | .string => stringSerde platform
  | .datetime => datetimeSerde platform
  | .json target => target.toSerde
  | .encrypted _ _ => stringSerde platform

def cast {Target : Type} : Builtin Target → CastsAttributes Target
  | .boolean => booleanCast platform
  | .integer => integerCast platform
  | .float => floatCast platform
  | .string => stringCast platform
  | .datetime => datetimeCast platform
  | .json target => jsonCast platform target
  | .encrypted key? nonce => encryptedCast platform key? nonce

end Builtin

/-- The cast of a field, wrapped when the field is optional. -/
inductive Attribute : Type → Type 1 where
  | plain {Target : Type} (cast : Builtin Target) : Attribute Target
  | nullable {Target : Type} (cast : Builtin Target) : Attribute (Option Target)

namespace Attribute

def serde {Target : Type} : Attribute Target → Serde Target
  | .plain builtin => builtin.serde platform
  | .nullable builtin => optionSerde (builtin.serde platform)

def cast {Target : Type} : Attribute Target → CastsAttributes Target
  | .plain builtin => builtin.cast platform
  | .nullable builtin => nullableCast (builtin.cast platform)

end Attribute

/-! ## Persisting and hydrating -/

variable {Target : Type} (serde : Serde Target) (cast : CastsAttributes Target)

def bindingSet (column : String) (field : Json) :
    Except OrmError Value := do
  let typed ← (serde.fromValue field).mapError (.castError column)
  cast.set column typed

def persist (column : String) (value : Target) :
    Except OrmError Value := do
  let field ←
    (serde.toValue value).mapError fun error => .storage ("model serialization failed: " ++ error)
  let bound ← bindingSet serde cast column field
  jsonToValue platform.floatOfInt column bound.toJson

def hydrate (column : String) (bound : Value) : Except OrmError Target :=
  cast.get column (rowValue platform.floatOfInt bound)

end Types

/-! ## What is bound -/

theorem persist_eq_ok {platform : Platform} {Target : Type} {serde : Serde Target}
    {cast : CastsAttributes Target} {column : String} {value : Target} {bound : Value} :
    persist platform serde cast column value = .ok bound ↔
      ∃ field typed set, serde.toValue value = .ok field ∧ serde.fromValue field = .ok typed ∧
        cast.set column typed = .ok set ∧
        jsonToValue platform.floatOfInt column set.toJson = .ok bound := by
  simp only [persist, bindingSet, Fallible.bind_eq_ok, Fallible.mapError_eq_ok]
  constructor
  · rintro ⟨field, written, set, ⟨typed, read, isSet⟩, isBound⟩
    exact ⟨field, typed, set, written, read, isSet, isBound⟩
  · rintro ⟨field, typed, set, written, read, isSet, isBound⟩
    exact ⟨field, written, set, ⟨typed, read, isSet⟩, isBound⟩

end Rustasea.Orm.Casts
