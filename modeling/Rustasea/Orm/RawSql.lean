import Rustasea.Library.TextReplace
import Rustasea.Orm.PlaceholderNumbering
import Rustasea.Orm.PositionalRewrite
import Rustasea.Orm.SchemaKeys

namespace Rustasea.Orm.RawSql

open List

/-!
# Statements with inlined literals

`to_raw_sql` prints the statement and then, binding by binding, replaces every
`$k` of the text by the literal of binding `k`.  Beside this loop stands the
simultaneous substitution, which fills in the placeholders that the builder
printed.  When each step of the loop does as much is decided by what stands
between the placeholders.
-/

open TextReplace (replaceAll joined)
open TransitionSystem (run?)

variable {Json : Type}

/-! ## Literals -/

/-- How floats, instants and documents are displayed. -/
structure LiteralText (Json : Type) where
  floats : Schema.FloatText
  timestamp : Int → String
  json : Json → String

def toLiteral (text : LiteralText Json) : Value Json → List Char
  | .null => "NULL".toList
  | .bool true => "true".toList
  | .bool false => "false".toList
  | .int number => (toString number).toList
  | .float bits => (text.floats.display bits).toList
  | .text content => SqlLexer.literal content.toList
  | .uuid id => '\'' :: (id.toList ++ ['\''])
  | .timestamp microseconds => '\'' :: ((text.timestamp microseconds).toList ++ ['\''])
  | .json document => SqlLexer.literal (text.json document).toList

theorem starts_of_isDecimal
    {characters : List Char} (decimal : Schema.isDecimal characters = true) :
    ∃ first behind, characters = first :: behind ∧ first ≠ '$' := by
  unfold Schema.isDecimal at decimal
  split at decimal
  · next digits => exact ⟨'-', digits, rfl, by decide⟩
  · cases characters with
    | nil => cases decimal
    | cons first behind =>
      refine ⟨first, behind, rfl, ?_⟩
      rintro rfl
      rw [SqlLexer.isNumeral, Bool.and_eq_true] at decimal
      exact absurd decimal.1 (by decide)

variable (text : LiteralText Json)

theorem toLiteral_starts (value : Value Json) :
    ∃ first behind, toLiteral text value = first :: behind ∧ first ≠ '$' := by
  match value with
  | .null => exact ⟨_, _, rfl, by decide⟩
  | .bool true => exact ⟨_, _, rfl, by decide⟩
  | .bool false => exact ⟨_, _, rfl, by decide⟩
  | .int number => exact starts_of_isDecimal (Schema.isDecimal_toString number)
  | .float bits =>
    cases finite : Casts.isFinite bits with
    | true => exact starts_of_isDecimal (text.floats.display_finite bits finite)
    | false =>
      have isOther := text.floats.display_other bits finite
      simp only [mem_cons, not_mem_nil, or_false] at isOther
      rcases isOther with isText | isText | isText
      all_goals exact ⟨_, _, congrArg String.toList isText, by decide⟩
  | .text content => exact ⟨_, _, rfl, by decide⟩
  | .uuid id => exact ⟨_, _, rfl, by decide⟩
  | .timestamp microseconds => exact ⟨_, _, rfl, by decide⟩
  | .json document => exact ⟨_, _, rfl, by decide⟩

/-! ## The loop -/

def mark (number : Nat) : List Char := '$' :: Nat.toDigits 10 number

/-- Replace `$1`, `$2` and so on, one literal after the other. -/
def inlineFrom : Nat → List (List Char) → List Char → List Char
  | _, [], out => out
  | index, literal :: rest, out =>
    inlineFrom (index + 1) rest (replaceAll '$' (Nat.toDigits 10 (index + 1)) literal out)

def literals (text : LiteralText Json) (builder : QueryBuilder Json) : List (List Char) :=
  builder.bindings.map (toLiteral text)

def toRawSql (text : LiteralText Json) (backend : Backend Json)
    (builder : QueryBuilder Json) : Except OrmError String :=
  match builder.resolved backend with
  | .error failure => .error failure
  | .ok resolved =>
    match resolved.renderSql backend with
    | .error failure => .error failure
    | .ok pieces =>
      .ok (String.ofList (inlineFrom 0 (literals text resolved) (printPieces pieces).toList))

/-! ## The simultaneous substitution -/

/-- A piece, with the literal of its number in place of a placeholder. -/
@[grind =] def fillPiece (literals : List (List Char)) : Piece → List Char
  | .text written => written.toList
  | .placeholder 0 => mark 0
  | .placeholder (index + 1) => (literals[index]?).getD (mark (index + 1))

/-- A statement with the first placeholders filled in. -/
def filled (literals : List (List Char)) (pieces : List Piece) : List Char :=
  pieces.flatMap (fillPiece literals)

/--
What stands between the placeholders that are to be filled in next: the text
in front of the first one, and the text behind each.
-/
def gaps (literals : List (List Char)) : List Piece → List Char × List (List Char)
  | [] => ([], [])
  | piece :: rest =>
    if piece = .placeholder (literals.length + 1) then
      ([], (gaps literals rest).1 :: (gaps literals rest).2)
    else (fillPiece literals piece ++ (gaps literals rest).1, (gaps literals rest).2)

theorem toList_print (piece : Piece) : piece.print.toList = fillPiece [] piece := by
  match piece with
  | .text written => rfl
  | .placeholder 0 => rfl
  | .placeholder (index + 1) =>
    rw [Piece.print, String.toList_append, DecimalText.toList_toString]
    rfl

theorem toList_printPieces_eq_filled (pieces : List Piece) :
    (printPieces pieces).toList = filled [] pieces := by
  rw [toList_printPieces, charsOf, filled]
  simp [toList_print]

theorem fillPiece_concat (literals : List (List Char)) (literal : List Char) :
    fillPiece (literals ++ [literal]) (.placeholder (literals.length + 1)) = literal := by
  simp [fillPiece]

theorem fillPiece_concat_of_ne (literals : List (List Char)) (literal : List Char) {piece : Piece}
    (other : piece ≠ .placeholder (literals.length + 1)) :
    fillPiece (literals ++ [literal]) piece = fillPiece literals piece := by
  match piece with
  | .text written => rfl
  | .placeholder 0 => rfl
  | .placeholder (index + 1) =>
    have different : index ≠ literals.length := by
      rintro rfl
      exact other rfl
    simp only [fillPiece, getElem?_append, getElem?_singleton]
    split_ifs with within isNext
    · rfl
    · omega
    · rw [getElem?_eq_none (by omega)]

theorem fillPiece_next (literals : List (List Char)) :
    fillPiece literals (.placeholder (literals.length + 1)) = mark (literals.length + 1) := by
  simp [fillPiece]

theorem filled_eq_joined (literals : List (List Char)) (pieces : List Piece) :
    filled literals pieces = joined (mark (literals.length + 1))
      (gaps literals pieces).1 (gaps literals pieces).2 := by
  induction pieces with
  | nil => rfl
  | cons piece pieces ih =>
    unfold joined at ih ⊢
    rw [filled, flatMap_cons, ← filled, ih, gaps]
    split_ifs with isNext
    · rw [isNext, fillPiece_next, nil_append, flatMap_cons, append_assoc]
    · rw [append_assoc]

theorem filled_concat_eq_joined
    (literals : List (List Char)) (literal : List Char) (pieces : List Piece) :
    filled (literals ++ [literal]) pieces =
      joined literal (gaps literals pieces).1 (gaps literals pieces).2 := by
  induction pieces with
  | nil => rfl
  | cons piece pieces ih =>
    unfold joined at ih ⊢
    rw [filled, flatMap_cons, ← filled, ih, gaps]
    split_ifs with isNext
    · rw [isNext, fillPiece_concat, nil_append, flatMap_cons, append_assoc]
    · rw [fillPiece_concat_of_ne literals literal isNext, append_assoc]

/-! ## One step of the loop, and a whole run of it -/

theorem inlineFrom_concat (index : Nat) (literals : List (List Char)) (literal out : List Char) :
    inlineFrom index (literals ++ [literal]) out =
      replaceAll '$' (Nat.toDigits 10 (index + literals.length + 1)) literal
        (inlineFrom index literals out) := by
  induction literals generalizing index out with
  | nil => rfl
  | cons first literals ih =>
    rw [cons_append, inlineFrom, ih, inlineFrom,
      length_cons, Nat.add_right_comm index 1, Nat.add_assoc index]

/-- No gap contains the placeholder that is filled in next. -/
def Clear (literals : List (List Char)) (pieces : List Piece) : Prop :=
  ∀ gap ∈ (gaps literals pieces).1 :: (gaps literals pieces).2,
    ¬ mark (literals.length + 1) <:+: gap

/--
For every binding: with the placeholders below its own filled in, its `$k`
stands nowhere but where the builder printed it.
-/
def Separate (literals : List (List Char)) (pieces : List Piece) : Prop :=
  ∀ count < literals.length, Clear (literals.take count) pieces

theorem replaceAll_filled_iff (literals : List (List Char)) {literal : List Char}
    (starts : ∃ first behind, literal = first :: behind ∧ first ≠ '$') (pieces : List Piece) :
    replaceAll '$' (Nat.toDigits 10 (literals.length + 1)) literal (filled literals pieces) =
        filled (literals ++ [literal]) pieces ↔
      Clear literals pieces := by
  rw [filled_eq_joined, filled_concat_eq_joined]
  exact TextReplace.replaceAll_joined_iff (DecimalText.notMem_toDigits (by decide) _) starts _ _

/--
After every step the text is the statement with the placeholders so far filled
in, exactly when the placeholders are separate.
-/
theorem inlineFrom_iff {literals : List (List Char)}
    (starts : ∀ literal ∈ literals, ∃ first behind, literal = first :: behind ∧ first ≠ '$')
    (pieces : List Piece) :
    (∀ count ≤ literals.length, inlineFrom 0 (literals.take count) (printPieces pieces).toList =
        filled (literals.take count) pieces) ↔
      Separate literals pieces := by
  have step {count : Nat} (within : count < literals.length)
      (before : inlineFrom 0 (literals.take count) (printPieces pieces).toList =
          filled (literals.take count) pieces) :
      inlineFrom 0 (literals.take (count + 1)) (printPieces pieces).toList =
          filled (literals.take (count + 1)) pieces ↔
        Clear (literals.take count) pieces := by
    rw [take_succ_eq_append_getElem within, inlineFrom_concat, before, Nat.zero_add]
    exact replaceAll_filled_iff _ (starts _ (getElem_mem within)) pieces
  constructor
  · intro follows count within
    exact (step within (follows count (Nat.le_of_lt within))).mp (follows (count + 1) within)
  · intro separate count within
    induction count with
    | zero => exact toList_printPieces_eq_filled pieces
    | succ count ih => exact (step within (ih (Nat.le_of_lt within))).mpr (separate count within)

/-! ## Statements of a builder -/

/--
The statement with inlined literals is the statement with all placeholders
filled in at once, and no step on the way to it touches what another step
filled in or a part of another placeholder: after each, the placeholders so
far are filled in.
-/
structure SubstitutesAtOnce
    (text : LiteralText Json) (backend : Backend Json) (builder : QueryBuilder Json) :
    Prop where
  result : ∀ resolved pieces, builder.resolved backend = .ok resolved →
      resolved.renderSql backend = .ok pieces →
      builder.toSql backend = .ok pieces ∧ toRawSql text backend builder =
          .ok (String.ofList (filled (literals text resolved) pieces))
  untouched : ∀ resolved pieces, builder.resolved backend = .ok resolved →
      resolved.renderSql backend = .ok pieces → ∀ count ≤ (literals text resolved).length,
        inlineFrom 0 ((literals text resolved).take count) (printPieces pieces).toList =
          filled ((literals text resolved).take count) pieces

def KeepsApart (text : LiteralText Json) (backend : Backend Json)
    (builder : QueryBuilder Json) : Prop :=
  ∀ resolved pieces, builder.resolved backend = .ok resolved →
    resolved.renderSql backend = .ok pieces → Separate (literals text resolved) pieces

theorem literals_start (builder : QueryBuilder Json) :
    ∀ literal ∈ literals text builder, ∃ first behind, literal = first :: behind ∧ first ≠ '$' := by
  intro literal isIn
  obtain ⟨value, -, rfl⟩ := mem_map.mp isIn
  exact toLiteral_starts text value

variable {text : LiteralText Json} {backend : Backend Json} {builder : QueryBuilder Json}

theorem SubstitutesAtOnce.keepsApart (substitutes : SubstitutesAtOnce text backend builder) :
    KeepsApart text backend builder := by
  intro resolved pieces made rendered
  exact (inlineFrom_iff (literals_start text resolved) pieces).mp
    (substitutes.untouched resolved pieces made rendered)

theorem KeepsApart.substitutesAtOnce (apart : KeepsApart text backend builder) :
    SubstitutesAtOnce text backend builder := by
  have follows (resolved : QueryBuilder Json) (pieces : List Piece)
      (made : builder.resolved backend = .ok resolved)
      (rendered : resolved.renderSql backend = .ok pieces) :=
    (inlineFrom_iff (literals_start text resolved) pieces).mpr (apart resolved pieces made rendered)
  refine ⟨?_, follows⟩
  intro resolved pieces made rendered
  have last := follows resolved pieces made rendered _ (Nat.le_refl _)
  rw [take_length] at last
  constructor
  · simp [QueryBuilder.toSql, made, rendered]
  · simp [toRawSql, made, rendered, last]

/-- The loop substitutes at once exactly when the placeholders are separate. -/
theorem substitutesAtOnce_iff (text : LiteralText Json) (backend : Backend Json)
    (builder : QueryBuilder Json) :
    SubstitutesAtOnce text backend builder ↔ KeepsApart text backend builder :=
  ⟨SubstitutesAtOnce.keepsApart, KeepsApart.substitutesAtOnce⟩

/-! ## Two statements that are mangled -/

/-- Literals of texts, with no floats, instants and documents shown. -/
def plainText : LiteralText Unit where
  floats := Schema.zeroText
  timestamp _ := ""
  json _ := ""

private theorem not_substitutesAtOnce {builder resolved : QueryBuilder Json} {pieces : List Piece}
    (made : builder.resolved backend = .ok resolved)
    (rendered : resolved.renderSql backend = .ok pieces)
    (differs : inlineFrom 0 (literals text resolved) (printPieces pieces).toList ≠
      filled (literals text resolved) pieces) : ¬ SubstitutesAtOnce text backend builder := by
  intro substitutes
  have last := substitutes.untouched resolved pieces made rendered _ (Nat.le_refl _)
  rw [take_length] at last
  exact differs last

/-- Ten names, where `$10` starts as `$1` does; and a name that is `$2`. -/
theorem literals_are_replaced_again : List.Forall
      (fun calls => ∃ builder, run? (call? postgres) (.ofTable "users") calls = some builder ∧
      ¬ SubstitutesAtOnce plainText postgres builder) [[.clause (.whereIn "name"
      ((["a", "b", "c", "d", "e", "f", "g", "h", "i", "j"].map .text)))],
      [.clause (.whereEq "name" (.text "$2")), .clause (.whereEq "email" (.text "x"))]] := by
  refine ⟨?_, ?_⟩
  all_goals exact ⟨_, rfl, not_substitutesAtOnce rfl rfl (by decide +kernel)⟩

end Rustasea.Orm.RawSql
