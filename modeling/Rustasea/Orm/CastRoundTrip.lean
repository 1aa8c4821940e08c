import Rustasea.Orm.AttributeCasts

/-!
# Which values their casts give back

A bound value is read back by its shape.  A text stands for itself, so a cast
that writes something else as a text reads it back only when it knows the text;
and what is bound as null comes back as nothing through a nullable cast.
-/

namespace Rustasea.Orm.Casts

open CalendarTime

open PercentEncoding (hexText)

/-! ## The rows of bound documents -/

/-- How a row shows a document that was bound for a column. -/
def Shown (floatOfInt : Int → FiniteFloat) (column : String) : Json → Value → Prop
  | .string text, row => ∃ stored, storedText column text = some stored ∧ row = .text stored
  | document, row => row = Value.fromJson floatOfInt document

variable {floatOfInt : Int → FiniteFloat} {document : Json} {row : Value} {column : String}

theorem eq_null_iff_of_shown (isShown : Shown floatOfInt column document row) :
    row = .null ↔ document = .null := by
  cases document with
  | null => exact iff_of_true isShown rfl
  | bool flag | array items | object fields =>
    subst isShown
    exact iff_of_false nofun nofun
  | number number =>
    have isNumber : row = numberValue floatOfInt number := isShown
    subst isNumber
    refine iff_of_false ?_ nofun
    unfold numberValue
    split <;> nofun
  | string text =>
    obtain ⟨stored, -, rfl⟩ := isShown
    exact iff_of_false nofun nofun

theorem shown_of_bound {bound : Value}
    (isBound : jsonToValue floatOfInt column document = .ok bound) :
    Shown floatOfInt column document (rowValue floatOfInt bound) := by
  cases document with
  | string text => exact rowValue_of_textToValue isBound
  | _ => exact rowValue_of_bound nofun isBound

theorem eq_text_of_shown {column text : String}
    (isShown : Shown floatOfInt column (.string text) row)
    (other : text.toList.length ∉ [32, 36, 38, 45]) : row = .text text := by
  obtain ⟨stored, isStored, rfl⟩ := isShown
  rw [storedText_of_length isStored other]

/-! ## The values that survive -/

section Keeps

variable (platform : Platform) (column : String)

/--
A document keeps its place in a column when it is null, an array or an object;
a bare text only when the type reads the JSON in it as the value.
-/
def JsonTarget.Keeps {Target : Type} (target : JsonTarget Target) (value : Target) : Json → Prop
  | .null => True
  | .array _ => True
  | .object _ => True
  | .bool _ => False
  | .number _ => False
  | .string text =>
    ∃ stored document, storedText column text = some stored ∧
      platform.jsonOfText stored = .ok document ∧ target.fromValue document = .ok value

def Builtin.Keeps {Target : Type} : Builtin Target → Target → Prop
  | .boolean, _ => True
  | .integer, _ => True
  | .float, _ => True
  | .string, text => isUuidColumn column = true → parseUuid? text = some text
  | .datetime, time => time.hasPlainYear ∧ time.isOnClock ∧ time.nanosecond % 1000 = 0
  | .json target, value =>
    ∀ document, target.toValue value = .ok document → target.Keeps platform column value document
  | .encrypted _ _, _ => True

def Builtin.WritesNull {Target : Type} : Builtin Target → Target → Prop
  | .boolean, _ => False
  | .integer, _ => False
  | .float, bits => isFinite bits = false
  | .string, _ => False
  | .datetime, _ => False
  | .json target, value => target.toValue value = .ok .null
  | .encrypted _ _, text => text = ""

def Attribute.Keeps {Target : Type} : Attribute Target → Target → Prop
  | .plain builtin, value => builtin.Keeps platform column value
  | .nullable _, none => True
  | .nullable builtin, some value => ¬builtin.WritesNull value ∧ builtin.Keeps platform column value

end Keeps

/-! ## One built-in cast -/

section Plain

variable {platform : Platform} {column : String} {bound : Value}

theorem row_of_persist_boolean {flag : Bool} (isBound :
      persist platform (boolSerde platform) (booleanCast platform) column flag = .ok bound) :
    rowValue platform.floatOfInt bound = .bool flag := by
  obtain ⟨_, _, _, ⟨⟩, ⟨⟩, ⟨⟩, isBound⟩ := persist_eq_ok.mp isBound
  exact shown_of_bound isBound

theorem row_of_persist_integer {number : Int64}
    (isBound : persist platform (integerSerde platform) (integerCast platform) column
      number = .ok bound) :
    rowValue platform.floatOfInt bound = .int number := by
  obtain ⟨_, typed, _, ⟨⟩, read, ⟨⟩, isBound⟩ := persist_eq_ok.mp isBound
  simp only [integerSerde, Number.asI64_ofInt64, Except.ok.injEq] at read
  subst read
  have isShown := shown_of_bound isBound
  rw [isShown]
  exact numberValue_ofInt64 number

theorem row_of_persist_float {bits : UInt64} (isBound :
      persist platform (floatSerde platform) (floatCast platform) column bits = .ok bound) :
    isFinite bits = true ∧ rowValue platform.floatOfInt bound = .float bits := by
  obtain ⟨_, typed, _, ⟨⟩, read, ⟨⟩, isBound⟩ := persist_eq_ok.mp isBound
  by_cases finite : isFinite bits = true
  · have written : Value.floatJson bits = .number (.float ⟨bits, finite⟩) := dif_pos finite
    rw [written] at read
    cases read
    rw [Value.toJson, Number.asF64, written] at isBound
    exact ⟨finite, shown_of_bound isBound⟩
  · have written : Value.floatJson bits = .null := dif_neg finite
    rw [written] at read
    cases read

variable {text : String}

theorem row_of_persist_string
    (isBound : persist platform (stringSerde platform) (stringCast platform) column
      text = .ok bound) :
    Shown platform.floatOfInt column (.string text) (rowValue platform.floatOfInt bound) := by
  exact shown_of_bound isBound

theorem row_of_persist_datetime (documented : platform.Documented) {time : CalendarTime}
    (isBound : persist platform (datetimeSerde platform) (datetimeCast platform) column
      time = .ok bound) :
    rowValue platform.floatOfInt bound = .text (time.settle.print 6) := by
  obtain ⟨_, typed, _, ⟨⟩, read, ⟨⟩, isBound⟩ := persist_eq_ok.mp isBound
  have settled : typed = time.settle := by
    have again := documented.deserialize_serialize time
    exact (Except.ok.inj (again.symm.trans read)).symm
  subst settled
  refine eq_text_of_shown (shown_of_bound isBound) ?_
  have short := length_print_lt (show 6 ≤ 7 by decide) time.settle
  simp only [List.mem_cons, List.not_mem_nil, or_false]
  omega

variable {Target : Type} {value : Target} {target : JsonTarget Target}

theorem row_of_persist_json (isBound :
      persist platform target.toSerde (jsonCast platform target) column value = .ok bound) :
    ∃ document, target.toValue value = .ok document ∧
      Shown platform.floatOfInt column document (rowValue platform.floatOfInt bound) := by
  obtain ⟨field, typed, set, written, read, isSet, isBound⟩ := persist_eq_ok.mp isBound
  have same : typed = value := Except.ok.inj (read.symm.trans (target.reads_back written))
  subst same
  have isJson : set = .json field := by
    have isSet' : (Except.ok (Value.json field) : Except OrmError Value) = .ok set := by
      rw [← isSet]
      show _ = ((target.toValue typed).map Value.json).mapError _
      rw [written]
      rfl
    exact (Except.ok.inj isSet').symm
  subst isJson
  exact ⟨field, written, shown_of_bound isBound⟩

variable {nonce : Nonce}

theorem row_of_persist_encrypted (documented : platform.Documented) {key? : Option CipherKey}
    (isBound : persist platform (stringSerde platform) (encryptedCast platform key? nonce) column
      text = .ok bound) :
    text = "" ∧ rowValue platform.floatOfInt bound = .null ∨
    text ≠ "" ∧
      ∃ key ciphertext, key? = some key ∧
        platform.encrypt key nonce (bytesOf text) = some ciphertext ∧
        rowValue platform.floatOfInt bound = .text (hexText (nonce.val ++ ciphertext)) := by
  obtain ⟨_, _, set, ⟨⟩, ⟨⟩, isSet, isBound⟩ := persist_eq_ok.mp isBound
  by_cases isEmpty : text = ""
  · subst isEmpty
    cases isSet
    exact .inl ⟨rfl, shown_of_bound isBound⟩
  · refine .inr ⟨isEmpty, ?_⟩
    have notEmpty : ¬text.isEmpty = true := by
      rw [String.isEmpty_iff]
      exact isEmpty
    simp only [encryptedCast, if_neg notEmpty] at isSet
    cases isKey : key? with
    | none =>
      rw [isKey] at isSet
      cases isSet
    | some key =>
      rw [isKey] at isSet
      cases sealed_ : platform.encrypt key nonce (bytesOf text) with
      | none =>
        simp only [sealed_] at isSet
        cases isSet
      | some ciphertext =>
        simp only [sealed_] at isSet
        cases isSet
        refine ⟨key, ciphertext, rfl, sealed_, eq_text_of_shown (shown_of_bound isBound) ?_⟩
        have tagged := documented.length_encrypt key nonce _ ciphertext sealed_
        have nonceBound : nonce.val.length = 12 := nonce.property
        rw [PercentEncoding.length_hexText, List.length_append]
        simp only [List.mem_cons, List.not_mem_nil, or_false]
        omega

/-! ### Getting them back -/

theorem trim_of_no_whitespace
    (plain : ∀ character ∈ text.toList, Schedule.isWhitespace character = false) :
    trim text = text := by
  rw [trim, Schedule.trim_of_no_whitespace plain, String.ofList_toList]

theorem trim_print (time : CalendarTime) : trim (time.print 6) = time.print 6 := by
  have visible : ∀ character ∈ CalendarTime.alphabet, Schedule.isWhitespace character = false := by
    have none :
        CalendarTime.alphabet.all (fun character => !Schedule.isWhitespace character) = true :=
      rfl
    intro character isIn
    have isVisible := List.all_eq_true.mp none character isIn
    simpa using isVisible
  exact trim_of_no_whitespace fun character isIn =>
    visible character (mem_alphabet_of_mem_print isIn)

theorem get_datetime (documented : platform.Documented) (key : String) (time : CalendarTime) :
    parseDatetime platform key (time.print 6) =
      if time.hasPlainYear then .ok (time.settle.truncate 1000)
      else .error (.castError key ("cannot cast `" ++ time.print 6 ++ "` to datetime")) := by
  rw [parseDatetime, trim_print]
  by_cases plain : time.hasPlainYear
  · rw [documented.parse_plain time plain, if_pos plain]
  · have noNaive : naiveFormats.findSome? (platform.parseNaive (time.print 6)) = none :=
      List.findSome?_eq_none_iff.mpr (documented.parse_naive time)
    rw [documented.parse_signed time plain, if_neg plain, noNaive]

theorem truncate_settle_eq_self_iff (time : CalendarTime) :
    time.settle.settle.truncate 1000 = time ↔ time.isOnClock ∧ time.nanosecond % 1000 = 0 := by
  have settled : time.settle.settle = time.settle :=
    (settle_eq_self_iff _).mpr time.isOnClock_settle
  rw [settled]
  constructor
  · intro same
    have onClock : time.isOnClock := by
      have := time.isOnClock_settle
      rw [← same]
      rcases this with inSecond | last
      · exact .inl (lt_of_le_of_lt (Nat.sub_le _ _) inSecond)
      · exact .inr last
    have isSettled := (settle_eq_self_iff time).mpr onClock
    rw [isSettled, truncate_eq_self_iff] at same
    exact ⟨onClock, same⟩
  · rintro ⟨onClock, whole⟩
    have isSettled := (settle_eq_self_iff time).mpr onClock
    rw [isSettled]
    exact (truncate_eq_self_iff time 1000).mpr whole

theorem get_json {document : Json} (written : target.toValue value = .ok document)
    {row : Value} (isShown : Shown platform.floatOfInt column document row) :
    (jsonCast platform target).get column row = .ok value ↔
      target.Keeps platform column value document := by
  have readsBack := target.reads_back written
  cases document with
  | string text =>
    obtain ⟨stored, isStored, rfl⟩ := isShown
    simp only [jsonCast, Fallible.bind_eq_ok, Fallible.mapError_eq_ok]
    constructor
    · rintro ⟨document, isDocument, read⟩
      exact ⟨stored, document, isStored, isDocument, read⟩
    · rintro ⟨other, document, isOther, isDocument, read⟩
      have same : other = stored := Option.some.inj (isOther.symm.trans isStored)
      subst same
      exact ⟨document, isDocument, read⟩
  | bool flag =>
    subst isShown
    exact iff_of_false nofun id
  | number number =>
    have isNumber : row = numberValue platform.floatOfInt number := isShown
    subst isNumber
    refine iff_of_false ?_ id
    unfold numberValue
    split <;> nofun
  | null =>
    subst isShown
    refine iff_of_true ?_ trivial
    show (target.fromValue .null).mapError _ = _
    rw [readsBack]
    rfl
  | array items =>
    subst isShown
    refine iff_of_true ?_ trivial
    show (target.fromValue (.array items)).mapError _ = _
    rw [readsBack]
    rfl
  | object fields =>
    subst isShown
    refine iff_of_true ?_ trivial
    show (target.fromValue (.object fields)).mapError _ = _
    rw [readsBack]
    rfl

theorem get_encrypted (documented : platform.Documented) {key : CipherKey} {ciphertext : List UInt8}
    (isSealed : platform.encrypt key nonce (bytesOf text) = some ciphertext) :
    (encryptedCast platform (some key) nonce).get column
      (.text (hexText (nonce.val ++ ciphertext))) = .ok text := by
  have tagged := documented.length_encrypt key nonce _ ciphertext isSealed
  have long : ¬(nonce.val ++ ciphertext).length ≤ nonceLength := by
    rw [List.length_append]
    omega
  have opened := documented.decrypt_encrypt key nonce _ ciphertext isSealed
  have isText : Utf8.decode (bytesOf text) = some text.toList :=
    Utf8.decode_flatMap_utf8EncodeChar text.toList
  simp only [encryptedCast, PercentEncoding.ofHexText?_hexText, if_neg long,
    List.take_left' nonce.property,
    List.drop_left' nonce.property, opened, isText, String.ofList_toList]

/--
What a built-in cast bound successfully, it gives back exactly for the values
that it keeps.
-/
theorem Builtin.hydrate_iff (documented : platform.Documented) {builtin : Builtin Target}
    (isBound : persist platform (builtin.serde platform) (builtin.cast platform) column
      value = .ok bound) :
    hydrate platform (builtin.cast platform) column bound = .ok value ↔
      builtin.Keeps platform column value := by
  unfold hydrate
  cases builtin with
  | boolean =>
    rw [row_of_persist_boolean isBound]
    exact iff_of_true rfl trivial
  | integer =>
    rw [row_of_persist_integer isBound]
    exact iff_of_true rfl trivial
  | float =>
    rw [(row_of_persist_float isBound).2]
    exact iff_of_true rfl trivial
  | string =>
    obtain ⟨stored, isStored, isRow⟩ := row_of_persist_string isBound
    rw [isRow]
    show Except.ok stored = Except.ok value ↔
      (isUuidColumn column = true → parseUuid? value = some value)
    rw [Except.ok.injEq]
    unfold storedText at isStored
    split_ifs at isStored with isUuid
    · rw [isStored, Option.some.injEq]
      exact ⟨fun same _ => same, fun kept => kept isUuid⟩
    · exact iff_of_true (Option.some.inj isStored).symm fun isUuid' => absurd isUuid' isUuid
  | datetime =>
    rw [row_of_persist_datetime documented isBound]
    show parseDatetime platform column (value.settle.print 6) = .ok value ↔ _
    rw [get_datetime documented]
    have sameYear : value.settle.hasPlainYear ↔ value.hasPlainYear := by
      rw [CalendarTime.hasPlainYear, year_settle]
      rfl
    by_cases plain : value.hasPlainYear
    · rw [if_pos (sameYear.mpr plain), Except.ok.injEq, truncate_settle_eq_self_iff]
      exact (and_iff_right plain).symm
    · rw [if_neg fun isPlain => plain (sameYear.mp isPlain)]
      exact iff_of_false nofun fun keeps => plain keeps.1
  | json target =>
    obtain ⟨document, written, isShown⟩ := row_of_persist_json isBound
    rw [show (Builtin.json target).cast platform =
      jsonCast platform target from rfl, get_json written isShown]
    constructor
    · intro keeps other isOther
      have same : other = document := Except.ok.inj (isOther.symm.trans written)
      rw [same]
      exact keeps
    · intro keeps
      exact keeps document written
  | encrypted key? nonce =>
    refine iff_of_true ?_ trivial
    rcases row_of_persist_encrypted documented isBound with
      ⟨rfl, isRow⟩ | ⟨notEmpty, key, ciphertext, rfl, isSealed, isRow⟩
    · rw [isRow]
      rfl
    · rw [isRow]
      exact get_encrypted documented isSealed

end Plain

/-! ## Every cast -/

section Attributes

variable {platform : Platform} {column : String} {bound : Value}
  {Target : Type} {cast : CastsAttributes Target}

theorem get_nullable {key : String} {row : Value} {value : Target} :
    (nullableCast cast).get key row = .ok (some value) ↔
      row ≠ .null ∧ cast.get key row = .ok value := by
  cases row with
  | null => exact iff_of_false nofun fun both => both.1 rfl
  | _ =>
    rw [and_iff_right nofun]
    show (cast.get key _).map some = .ok (some value) ↔ _
    cases cast.get key _ with
    | error error => exact iff_of_false nofun nofun
    | ok found =>
      show Except.ok (some found) = Except.ok (some value) ↔ _
      rw [Except.ok.injEq, Except.ok.injEq, Option.some.injEq]

variable {value : Target} {serde : Serde Target}

theorem persist_some (notNull : serde.toValue value ≠ .ok .null)
    (isBound : persist platform (optionSerde serde) (nullableCast cast) column
      (some value) = .ok bound) :
    persist platform serde cast column value = .ok bound := by
  obtain ⟨field, typed?, set, written, read, isSet, isBound⟩ := persist_eq_ok.mp isBound
  have isField : serde.toValue value = .ok field := written
  have fieldNotNull : field ≠ .null := by
    rintro rfl
    exact notNull isField
  have readInner : (serde.fromValue field).map some = .ok typed? := by
    rw [← read]
    cases field with
    | null => exact absurd rfl fieldNotNull
    | _ => rfl
  cases typed : serde.fromValue field with
  | error error =>
    rw [typed] at readInner
    cases readInner
  | ok inner =>
    rw [typed] at readInner
    cases readInner
    exact persist_eq_ok.mpr ⟨field, inner, set, isField, typed, isSet, isBound⟩

theorem bound_of_written_null {value : Option Target}
    (isNull : (optionSerde serde).toValue value = .ok .null)
    (isBound : persist platform (optionSerde serde) (nullableCast cast) column value = .ok bound) :
    bound = .null := by
  obtain ⟨field, typed?, set, written, read, isSet, isBound⟩ := persist_eq_ok.mp isBound
  have isField : field = .null := Except.ok.inj (written.symm.trans isNull)
  subst isField
  cases read
  cases isSet
  cases isBound
  rfl

variable {builtin : Builtin Target}

theorem Builtin.row_eq_null_iff (documented : platform.Documented)
    (isBound : persist platform (builtin.serde platform) (builtin.cast platform) column
      value = .ok bound) :
    rowValue platform.floatOfInt bound = .null ↔ builtin.WritesNull value := by
  cases builtin with
  | boolean =>
    rw [row_of_persist_boolean isBound]
    exact iff_of_false nofun id
  | integer =>
    rw [row_of_persist_integer isBound]
    exact iff_of_false nofun id
  | float =>
    obtain ⟨finite, isRow⟩ := row_of_persist_float isBound
    rw [isRow]
    refine iff_of_false nofun fun notFinite => ?_
    exact Bool.false_ne_true (notFinite.symm.trans finite)
  | string =>
    obtain ⟨stored, -, isRow⟩ := row_of_persist_string isBound
    rw [isRow]
    exact iff_of_false nofun id
  | datetime =>
    rw [row_of_persist_datetime documented isBound]
    exact iff_of_false nofun id
  | json target =>
    obtain ⟨document, written, isShown⟩ := row_of_persist_json isBound
    have sameDocument : (Builtin.json target).WritesNull value ↔ document = .null := by
      show target.toValue value = .ok .null ↔ _
      rw [written, Except.ok.injEq]
    exact (eq_null_iff_of_shown isShown).trans sameDocument.symm
  | encrypted key? nonce =>
    rcases row_of_persist_encrypted documented isBound with
      ⟨isEmpty, isRow⟩ | ⟨notEmpty, key, ciphertext, -, -, isRow⟩
    · exact iff_of_true isRow isEmpty
    · rw [isRow]
      exact iff_of_false nofun notEmpty

theorem Builtin.writesNull_of_toValue
    (isNull : (builtin.serde platform).toValue value = .ok .null) : builtin.WritesNull value := by
  cases builtin with
  | boolean => cases isNull
  | integer => cases isNull
  | string => cases isNull
  | datetime => cases isNull
  | encrypted key? nonce => cases isNull
  | json target => exact isNull
  | float =>
    have isNull' : Value.floatJson value = .null := Except.ok.inj isNull
    unfold Value.floatJson at isNull'
    split_ifs at isNull' with finite
    exact Bool.eq_false_of_not_eq_true finite

/--
For every built-in cast, wrapped or not, every column and every value: what was
bound is given back exactly when the cast keeps the value.
-/
theorem hydrates_persisted_iff (documented : platform.Documented) {Target : Type}
    (field : Attribute Target) (column : String) (value : Target) (bound : Value)
    (isBound : persist platform (field.serde platform) (field.cast platform) column value =
      .ok bound) :
    hydrate platform (field.cast platform) column bound = .ok value ↔
      field.Keeps platform column value := by
  cases field with
  | plain builtin => exact builtin.hydrate_iff documented isBound
  | nullable builtin =>
    cases value with
    | none =>
      have isNull := bound_of_written_null rfl isBound
      subst isNull
      exact iff_of_true rfl trivial
    | some value =>
      show (nullableCast (builtin.cast platform)).get column _ = .ok (some value) ↔ _
      rw [get_nullable]
      by_cases isNull : (builtin.serde platform).toValue value = .ok .null
      · have writtenNull :
            (optionSerde (builtin.serde platform)).toValue (some value) = .ok .null := isNull
        have boundNull := bound_of_written_null writtenNull isBound
        subst boundNull
        exact iff_of_false (fun both => both.1 rfl) fun keeps =>
          keeps.1 (Builtin.writesNull_of_toValue isNull)
      · have ownBound := persist_some isNull isBound
        exact and_congr (not_congr (builtin.row_eq_null_iff documented ownBound))
          (builtin.hydrate_iff documented ownBound)

end Attributes

/-! ## Documents and samples -/

def documentTarget : JsonTarget Json where
  toValue := .ok
  fromValue := .ok
  reads_back written := congrArg Except.ok (Except.ok.inj written).symm

/--
A platform with a cipher that only adds a tag, and with no JSON text but that
of null.
-/
def samplePlatform : Platform where
  floatOfInt _ := ⟨0, by decide⟩
  intOfFloat _ := 0
  parseFloat _ := none
  floatText _ := "0"
  describe _ := "Int(42)"
  invalidType _ expected := "invalid type: null, expected " ++ expected
  jsonText _ := .ok "null"
  jsonOfText text :=
    if text = "null" then .ok .null
    else .error "expected value at line 1 column 1"
  timeText time := time.print 6
  serializeTime time := time.print 9
  deserializeTime text :=
    match CalendarTime.read 9 text with
    | some time => .ok time
    | none => .error "input contains invalid characters"
  parseRfc3339 text := (CalendarTime.read 6 text).filter fun time => decide time.hasPlainYear
  parseNaive _ _ := none
  timeOfSeconds _ := none
  encrypt _ _ plaintext := some (plaintext ++ List.replicate 16 0)
  decrypt _ _ ciphertext := some (ciphertext.take (ciphertext.length - 16))

theorem samplePlatform_documented : samplePlatform.Documented where
  deserialize_serialize time := by
    have whole : time.settle.truncate 1 = time.settle :=
      (truncate_eq_self_iff _ 1).mpr (Nat.mod_one _)
    have read := read_print (Nat.le_refl 9) time
    rw [Nat.pow_zero, whole] at read
    simp [samplePlatform, read]
  parse_plain time plain := by
    have read := read_print (show 6 ≤ 9 by decide) time
    have sameYear : (time.settle.truncate 1000).hasPlainYear := by
      rw [CalendarTime.hasPlainYear, year_truncate, year_settle]
      exact plain
    simp only [samplePlatform, read]
    exact if_pos (decide_eq_true sameYear)
  parse_signed time signed := by
    have read := read_print (show 6 ≤ 9 by decide) time
    have sameYear : ¬(time.settle.truncate 1000).hasPlainYear := by
      rw [CalendarTime.hasPlainYear, year_truncate, year_settle]
      exact signed
    simp only [samplePlatform, read]
    exact if_neg fun isPlain => sameYear (of_decide_eq_true isPlain)
  parse_naive _ _ _ := rfl
  decrypt_encrypt _ _ plaintext ciphertext isSealed := by
    rw [← Option.some.inj isSealed]
    simp [samplePlatform]
  length_encrypt _ _ plaintext ciphertext isSealed := by
    rw [← Option.some.inj isSealed]
    simp

theorem array_is_given_back :
    persist samplePlatform documentTarget.toSerde (jsonCast samplePlatform documentTarget) "tags"
      (.array [.string "red", .null]) = .ok (.json (.array [.string "red", .null])) ∧
    hydrate samplePlatform (jsonCast samplePlatform documentTarget) "tags"
      (.json (.array [.string "red", .null])) = .ok (.array [.string "red", .null]) := by
  refine ⟨rfl, ?_⟩
  refine (hydrates_persisted_iff samplePlatform_documented (.plain (.json documentTarget)) "tags"
    (.array [.string "red", .null]) _ rfl).mpr ?_
  intro document isDocument
  obtain rfl : Json.array [.string "red", .null] = document := Except.ok.inj isDocument
  trivial

/-- A text is bound as itself, which is no JSON. -/
theorem text_document_is_not_given_back :
    persist samplePlatform documentTarget.toSerde
      (jsonCast samplePlatform documentTarget) "settings"
      (.string "draft") = .ok (.text "draft") ∧
      hydrate samplePlatform (jsonCast samplePlatform documentTarget)
      "settings" (.text "draft") =
      .error (.castError "settings" "invalid JSON: expected value at line 1 column 1") ∧
      hydrate samplePlatform (jsonCast samplePlatform documentTarget)
      "settings" (.text "draft") ≠ .ok (.string "draft") := by
  have notUuid : ¬isUuidColumn "settings" = true := by decide +kernel
  refine ⟨?_, rfl, nofun⟩
  show textToValue "settings" "draft" = .ok (.text "draft")
  rw [textToValue, if_neg notUuid]

end Rustasea.Orm.Casts
