import Mathlib.Data.List.Forall2
import Rustasea.Orm.JsonPrint

namespace Rustasea.Orm.Casts.QueryCacheKeys

/-!
# The cache keys of queries

A key names the table and its generation, and holds a hash of the dialect, the
statement and the bindings.  The bindings are hashed as JSON, which does not
tell all typed values apart.  SHA-256 is a parameter; what is assumed of it is
said for the two texts that are compared.
-/

open PercentEncoding (append_separator_inj_last hexText utf8)

/-! ## Keys -/

/-- The arguments of `query_cache_key`. -/
structure Query where
  table : String
  generation : UInt64
  sql : String
  bindings : List Value
  dialect : String

variable (sha256 : List UInt8 → List UInt8) (format : FloatFormat)

def bindingsPayload (bindings : List Value) : List Char :=
  print format (.array (bindings.map Value.toJson))

def hashed (query : Query) : List Char :=
  query.dialect.toList ++ '|' :: (query.sql.toList ++ '|' :: bindingsPayload format query.bindings)

def digest (text : List Char) : List UInt8 := (sha256 (utf8 (String.ofList text))).take 16

def queryCacheKey (query : Query) : String :=
  "orm:" ++ query.table ++ ":" ++ toString query.generation.toNat ++ ":" ++
    hexText (digest sha256 (hashed format query))

/-- The digests of two texts are the same only when the texts are. -/
def CollisionFree (first second : List Char) : Prop :=
  digest sha256 first = digest sha256 second → first = second

/-! ## What the hashed text tells apart -/

@[grind =] def isNullLike : Value → Bool
  | .null => true
  | .float bits => !isFinite bits
  | .json .null => true
  | _ => false

@[grind =] def flag? : Value → Option Bool
  | .bool flag => some flag
  | .json (.bool flag) => some flag
  | _ => none

@[grind =] def number? : Value → Option Number
  | .int number => some (.ofInt64 number)
  | .float bits =>
    if finite : isFinite bits = true then some (.float ⟨bits, finite⟩)
    else none
  | .json (.number number) => some number
  | _ => none

@[grind =] def text? : Value → Option String
  | .text content => some content
  | .uuid id => some id
  | .timestamp time => some (time.print 6)
  | .json (.string content) => some content
  | _ => none

/--
Values that are projected to one document: nulls and floats that are not
finite, equal flags, equal numbers, and equal texts, whatever their types.
-/
def Merged (first second : Value) : Prop :=
  isNullLike first = true ∧ isNullLike second = true ∨
    (∃ flag, flag? first = some flag ∧ flag? second = some flag) ∨
    (∃ number, number? first = some number ∧ number? second = some number) ∨
    ∃ text, text? first = some text ∧ text? second = some text

variable (value : Value)

theorem toJson_eq_null_iff : value.toJson = .null ↔ isNullLike value = true := by
  cases value with
  | float bits =>
    by_cases finite : isFinite bits = true
    all_goals simp [Value.toJson, Value.floatJson, isNullLike]
  | json document => cases document <;> simp [Value.toJson, isNullLike]
  | _ => simp [Value.toJson, isNullLike]

theorem toJson_eq_bool_iff (flag : Bool) : value.toJson = .bool flag ↔ flag? value = some flag := by
  cases value with
  | float bits =>
    by_cases finite : isFinite bits = true
    all_goals simp [Value.toJson, Value.floatJson, flag?, finite]
  | json document => cases document <;> simp [Value.toJson, flag?]
  | _ => simp [Value.toJson, flag?]

theorem toJson_eq_number_iff (number : Number) :
    value.toJson = .number number ↔ number? value = some number := by
  cases value with
  | float bits =>
    by_cases finite : isFinite bits = true
    all_goals simp [Value.toJson, Value.floatJson, number?, finite]
  | json document => cases document <;> simp [Value.toJson, number?]
  | _ => simp [Value.toJson, number?]

theorem toJson_eq_string_iff (text : String) :
    value.toJson = .string text ↔ text? value = some text := by
  cases value with
  | float bits =>
    by_cases finite : isFinite bits = true
    all_goals simp [Value.toJson, Value.floatJson, text?, finite]
  | json document => cases document <;> simp [Value.toJson, text?]
  | _ => simp [Value.toJson, text?]

theorem eq_json_of_toJson {value : Value} {document : Json} (projected : value.toJson = document)
    (isTree : document.kind = 4 ∨ document.kind = 5) : value = .json document := by
  subst projected
  cases value with
  | float bits =>
    by_cases finite : isFinite bits = true
    all_goals simp [Value.toJson, Value.floatJson, finite, Json.kind] at isTree
  | bool flag => cases flag <;> simp [Value.toJson, Json.kind] at isTree
  | json document => rfl
  | _ => simp [Value.toJson, Json.kind] at isTree

theorem toJson_eq_iff (first second : Value) :
    first.toJson = second.toJson ↔ first = second ∨ Merged first second := by
  constructor
  · intro same
    cases projected : second.toJson with
    | null =>
      rw [projected] at same
      exact .inr (.inl ⟨(toJson_eq_null_iff first).mp same,
        (toJson_eq_null_iff second).mp projected⟩)
    | bool flag =>
      rw [projected] at same
      exact .inr (.inr (.inl ⟨flag, (toJson_eq_bool_iff first flag).mp same,
        (toJson_eq_bool_iff second flag).mp projected⟩))
    | number number =>
      rw [projected] at same
      exact .inr (.inr (.inr (.inl ⟨number, (toJson_eq_number_iff first number).mp same,
        (toJson_eq_number_iff second number).mp projected⟩)))
    | string text =>
      rw [projected] at same
      exact .inr (.inr (.inr (.inr ⟨text, (toJson_eq_string_iff first text).mp same,
        (toJson_eq_string_iff second text).mp projected⟩)))
    | array items =>
      rw [projected] at same
      left
      rw [eq_json_of_toJson same (.inl rfl), eq_json_of_toJson projected (.inl rfl)]
    | object fields =>
      rw [projected] at same
      left
      rw [eq_json_of_toJson same (.inr rfl), eq_json_of_toJson projected (.inr rfl)]
  · rintro (rfl | merged)
    · rfl
    rcases merged with ⟨isNull, otherNull⟩ | ⟨flag, isFlag, otherFlag⟩ |
      ⟨number, isNumber, otherNumber⟩ | ⟨text, isText, otherText⟩
    · rw [(toJson_eq_null_iff first).mpr isNull, (toJson_eq_null_iff second).mpr otherNull]
    · rw [(toJson_eq_bool_iff first flag).mpr isFlag,
        (toJson_eq_bool_iff second flag).mpr otherFlag]
    · rw [(toJson_eq_number_iff first number).mpr isNumber,
        (toJson_eq_number_iff second number).mpr otherNumber]
    · rw [(toJson_eq_string_iff first text).mpr isText,
        (toJson_eq_string_iff second text).mpr otherText]

theorem bindingsPayload_eq_iff (first second : List Value) :
    bindingsPayload format first = bindingsPayload format second ↔
      List.Forall₂ (fun value other => value = other ∨ Merged value other) first second := by
  have pairwise : first.map Value.toJson = second.map Value.toJson ↔ List.Forall₂
      (fun value other => value = other ∨ Merged value other)
      first second := by
    rw [← List.forall₂_eq_eq_eq, List.forall₂_map_left_iff, List.forall₂_map_right_iff]
    simp [toJson_eq_iff]
  rw [← pairwise, bindingsPayload, bindingsPayload, print_injective.eq_iff, Json.array.injEq]

/-! ## Confused queries -/

/-- The second dialect goes on with what starts the first statement. -/
def BarMoved (first second : Query) : Prop :=
  ∃ between : String,
    second.dialect = first.dialect ++ "|" ++ between ∧ first.sql = between ++ "|" ++ second.sql

/-- Different queries whose keys are made of the same parts. -/
structure Confused (first second : Query) : Prop where
  table : first.table = second.table
  generation : first.generation = second.generation
  text : first.dialect = second.dialect ∧ first.sql = second.sql ∨
      BarMoved first second ∨ BarMoved second first
  bindings : List.Forall₂ (fun value other => value = other ∨ Merged value other)
      first.bindings second.bindings
  different : first ≠ second

/-- Where a bar in one text stands in the other one. -/
theorem append_bar_eq_iff (dialect sql otherDialect otherSql : String) :
    dialect.toList ++ '|' :: sql.toList = otherDialect.toList ++ '|' :: otherSql.toList ↔
      dialect = otherDialect ∧ sql = otherSql ∨
      (∃ between : String, otherDialect = dialect ++ "|" ++ between ∧
        sql = between ++ "|" ++ otherSql) ∨
      ∃ between : String, dialect = otherDialect ++ "|" ++ between ∧
        otherSql = between ++ "|" ++ sql := by
  constructor
  · intro same
    rcases List.append_eq_append_iff.mp same with
      ⟨between, isOther, isRest⟩ | ⟨between, isFirst, isRest⟩
    · cases between with
      | nil =>
        left
        rw [List.append_nil] at isOther
        exact ⟨String.toList_injective isOther.symm,
          String.toList_injective (List.cons.inj isRest).2⟩
      | cons head between =>
        obtain ⟨rfl, isSql⟩ := List.cons.inj isRest
        refine .inr (.inl ⟨String.ofList between, ?_, ?_⟩)
        · apply String.toList_injective
          simp [isOther]
        · apply String.toList_injective
          simp [isSql]
    · cases between with
      | nil =>
        left
        rw [List.append_nil] at isFirst
        exact ⟨String.toList_injective isFirst,
          String.toList_injective (List.cons.inj isRest).2.symm⟩
      | cons head between =>
        obtain ⟨rfl, isSql⟩ := List.cons.inj isRest
        refine .inr (.inr ⟨String.ofList between, ?_, ?_⟩)
        · apply String.toList_injective
          simp [isFirst]
        · apply String.toList_injective
          simp [isSql]
  · rintro (⟨rfl, rfl⟩ | ⟨between, rfl, rfl⟩ | ⟨between, rfl, rfl⟩)
    · rfl
    · simp
    · simp

variable (first second : Query)

theorem hashed_eq_iff :
    hashed format first = hashed format second ↔
      (first.dialect = second.dialect ∧ first.sql = second.sql ∨ BarMoved first second ∨
        BarMoved second first) ∧
        List.Forall₂ (fun value other => value = other ∨ Merged value other) first.bindings
          second.bindings := by
  have isCut (query : Query) :
      hashed format query = (query.dialect.toList ++ '|' :: query.sql.toList) ++
          '|' :: bindingsPayload format query.bindings := by
    rw [hashed, List.append_assoc, List.cons_append]
  have closed (bindings : List Value) : JsonText.IsClosed '|' (bindingsPayload format bindings) :=
    isClosed_print _
  rw [← bindingsPayload_eq_iff format, isCut, isCut]
  unfold BarMoved
  rw [← append_bar_eq_iff]
  constructor
  · intro same
    exact (closed _).append_cons_inj (by decide) (closed _) same
  · rintro ⟨sameText, samePayload⟩
    rw [sameText, samePayload]

/-! ## The texts of keys -/

theorem colon_notMem_hexText (bytes : List UInt8) : ':' ∉ (hexText bytes).toList := by
  intro isIn
  rw [hexText, String.toList_ofList] at isIn
  obtain ⟨n, below, isDigit⟩ := PercentEncoding.exists_of_mem_hexDigits isIn
  have noColon : ∀ m < 16, ':' ≠ PercentEncoding.lowerHexDigit m := by decide
  exact noColon n below isDigit

theorem hexText_injective : Function.Injective hexText := by
  intro first second same
  have read := congrArg PercentEncoding.ofHexText? same
  rw [PercentEncoding.ofHexText?_hexText, PercentEncoding.ofHexText?_hexText] at read
  exact Option.some.inj read

theorem queryCacheKey_eq_iff :
    queryCacheKey sha256 format first = queryCacheKey sha256 format second ↔
      first.table = second.table ∧ first.generation = second.generation ∧
      digest sha256 (hashed format first) = digest sha256 (hashed format second) := by
  have isKey (query : Query) :
      (queryCacheKey sha256 format query).toList = ("orm:".toList ++
            (query.table.toList ++ ':' :: (toString query.generation.toNat).toList)) ++
          ':' :: (hexText (digest sha256 (hashed format query))).toList := by
    simp [queryCacheKey]
  constructor
  · intro same
    have characters := congrArg String.toList same
    rw [isKey, isKey] at characters
    obtain ⟨sameFront, sameHash⟩ :=
      append_separator_inj_last (colon_notMem_hexText _) (colon_notMem_hexText _) characters
    obtain ⟨sameTable, sameGeneration⟩ := append_separator_inj_last
      (DecimalText.notMem_toString rfl _)
        (DecimalText.notMem_toString rfl _)
        (List.append_cancel_left sameFront)
    refine ⟨String.toList_injective sameTable, ?_, ?_⟩
    · exact UInt64.toNat_inj.mp
        (DecimalText.toString_injective (String.toList_injective sameGeneration))
    · exact hexText_injective (String.toList_injective sameHash)
  · rintro ⟨sameTable, sameGeneration, sameDigest⟩
    rw [queryCacheKey, queryCacheKey, sameTable, sameGeneration, sameDigest]

/-! ## Keys tell queries apart -/

/--
With a digest that does not collide on the two hashed texts, the keys tell two
queries apart exactly when the queries are not confused.
-/
theorem queryCacheKey_injective_iff
    (collisionFree : CollisionFree sha256 (hashed format first) (hashed format second)) :
    (queryCacheKey sha256 format first = queryCacheKey sha256 format second → first = second) ↔
      ¬ Confused first second := by
  have sameDigest : digest sha256 (hashed format first) = digest sha256 (hashed format second) ↔
      hashed format first = hashed format second :=
    ⟨collisionFree, congrArg (digest sha256)⟩
  rw [queryCacheKey_eq_iff, sameDigest, hashed_eq_iff]
  constructor
  · intro apart confused
    exact confused.different (apart ⟨confused.table, confused.generation,
      confused.text, confused.bindings⟩)
  · rintro notConfused ⟨table, generation, text, bindings⟩
    by_contra different
    exact notConfused ⟨table, generation, text, bindings, different⟩

/-! ## Two numbers, and two nulls -/

def bitsFormat : FloatFormat where
  print value := Nat.toDigits 10 value.val.toNat ++ ['.', '0']
  numeric := by
    intro value character isIn
    rcases List.mem_append.mp isIn with isDigit | isPoint
    · rw [isNumeric, DecimalText.isDigit_of_mem_toDigits isDigit, Bool.true_or]
    · have isEither : character = '.' ∨ character = '0' := by simpa using isPoint
      rcases isEither with rfl | rfl
      · decide
      · decide
  fractional value := ⟨'.', by simp, by simp⟩
  injective := by
    intro first second same
    have sameBits := DecimalText.toDigits_injective (List.append_cancel_right same)
    exact Subtype.ext (UInt64.toNat_inj.mp sameBits)

def recordedDigest (bytes : List UInt8) : List UInt8 :=
  if bytes = utf8 "sqlite|SELECT 1|[1]" then
    [112, 25, 56, 26, 133, 120, 235, 50, 69, 252, 53, 103, 95, 127, 40, 22,
      70, 9, 52, 245, 234, 170, 1, 27, 12, 189, 70, 140, 72, 115, 64, 133]
  else if bytes = utf8 "sqlite|SELECT 1|[2]" then
    [71, 74, 203, 116, 163, 81, 70, 241, 86, 100, 82, 170, 84, 226, 195, 234,
      206, 163, 78, 191, 241, 75, 66, 78, 242, 15, 112, 205, 101, 183, 92, 181]
  else []

def selectOne (number : Int64) : Query where
  table := "users"
  generation := 0
  sql := "SELECT 1"
  bindings := [.int number]
  dialect := "sqlite"

theorem bindings_change_key :
    (queryCacheKey recordedDigest bitsFormat (selectOne 1) =
        queryCacheKey recordedDigest bitsFormat (selectOne 2) →
      selectOne 1 = selectOne 2) ↔
      ¬ Confused (selectOne 1) (selectOne 2) := by
  refine queryCacheKey_injective_iff _ _ _ _ ?_
  intro collides
  revert collides
  decide +kernel

def selectByMeta (value : Value) : Query where
  table := "documents"
  generation := 0
  sql := "SELECT * FROM \"documents\" WHERE \"meta\" = $1"
  bindings := [value]
  dialect := "postgres"

/-- SQL's null and JSON's null have one key. -/
theorem nulls_share_a_key :
    CollisionFree recordedDigest (hashed bitsFormat (selectByMeta .null))
      (hashed bitsFormat (selectByMeta (.json .null))) ∧
    queryCacheKey recordedDigest bitsFormat (selectByMeta .null) =
      queryCacheKey recordedDigest bitsFormat (selectByMeta (.json .null)) ∧
    selectByMeta .null ≠ selectByMeta (.json .null) := by
  have sameText :
      hashed bitsFormat (selectByMeta .null) = hashed bitsFormat (selectByMeta (.json .null)) :=
    (hashed_eq_iff bitsFormat _ _).mpr ⟨.inl ⟨rfl, rfl⟩, .cons (.inr (.inl ⟨rfl, rfl⟩)) .nil⟩
  refine ⟨fun _ => sameText, ?_, ?_⟩
  · exact (queryCacheKey_eq_iff _ _ _ _).mpr ⟨rfl, rfl, congrArg (digest recordedDigest) sameText⟩
  · intro same
    have sameBindings := congrArg Query.bindings same
    cases sameBindings

end Rustasea.Orm.Casts.QueryCacheKeys
