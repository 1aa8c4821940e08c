import Rustasea.Library.DecimalText
import Rustasea.Orm.WriteStatements

namespace Rustasea.Orm

open List

/-!
# From numbered to positional placeholders

MySQL has `?` instead of `$n`.  The rewriting replaces every `$` with digits
behind it and forgets the number; a site then receives the value at its
position.  Both readings of a text are defined here, and when they agree on the
pieces of a statement.
-/

variable {Json : Type}

def startsWithDigit : List Char → Bool
  | [] => false
  | char :: _ => char.isDigit

/-- The rewriting loop; `skipping` while it drops the digits of a reference. -/
@[grind =] def rewriteFrom : Bool → List Char → List Char
  | _, [] => []
  | skipping, char :: rest =>
    if skipping && char.isDigit then rewriteFrom true rest
    else if char == '$' && startsWithDigit rest then '?' :: rewriteFrom true rest
    else char :: rewriteFrom false rest

/-- Rewrite `$n` references to `?`, in textual order. -/
def rewriteDollarPlaceholders (sql : String) : String :=
  String.ofList (rewriteFrom false sql.toList)

def adaptPlaceholders (sql dialect : String) : String :=
  if dialect = "mysql" then rewriteDollarPlaceholders sql
  else sql

/-! ## The two readings -/

/-- The numbers of the `$n` sites; `reading` holds the digits read so far. -/
@[grind =] def sitesFrom : Option Nat → List Char → List Nat
  | reading, [] => reading.toList
  | reading, char :: rest =>
    match reading with
    | some number =>
      if char.isDigit then sitesFrom (some (number * 10 + (char.toNat - '0'.toNat))) rest
      else if char == '$' && startsWithDigit rest then number :: sitesFrom (some 0) rest
      else number :: sitesFrom none rest
    | none =>
      if char == '$' && startsWithDigit rest then sitesFrom (some 0) rest
      else sitesFrom none rest

def numberedValue (bindings : List (Value Json)) (number : Nat) : Option (Value Json) :=
  if number = 0 then none
  else bindings[number - 1]?

/-- The values at the sites of a text with numbered placeholders. -/
def numberedValues (sql : String) (bindings : List (Value Json)) : List (Option (Value Json)) :=
  (sitesFrom none sql.toList).map (numberedValue bindings)

/-- The values at the sites of a text with positional placeholders. -/
def positionalValues (sql : String) (bindings : List (Value Json)) : Option (List (Value Json)) :=
  if sql.toList.count '?' = bindings.length then some bindings
  else none

/-- Every site receives the same value in both executions. -/
def SameExecution (statement : Statement Json) : Prop :=
  ∃ values, numberedValues statement.sql statement.bindings = values.map some ∧
      positionalValues (adaptPlaceholders statement.sql "mysql") statement.bindings = some values

def Clean (text : String) : Prop := sitesFrom none text.toList = [] ∧ '?' ∉ text.toList

instance (text : String) : Decidable (Clean text) := inferInstanceAs (Decidable (_ ∧ _))

/-! ## The scans -/

theorem sitesFrom_append (reading : Option Nat) (text : List Char) {rest : List Char}
    (noDigit : startsWithDigit rest = false) :
    sitesFrom reading (text ++ rest) = sitesFrom reading text ++ sitesFrom none rest := by
  induction text generalizing reading with
  | nil =>
    cases reading with
    | none => rfl
    | some number =>
      cases rest with
      | nil => rfl
      | cons char rest =>
        have notDigit : char.isDigit = false := noDigit
        simp only [nil_append, sitesFrom, notDigit, Bool.false_eq_true, if_false]
        split <;> rfl
  | cons char text ih =>
    have next : startsWithDigit (text ++ rest) = startsWithDigit text := by
      cases text with
      | nil => exact noDigit
      | cons other text => rfl
    cases reading with
    | none =>
      simp only [cons_append, sitesFrom, next, ih]
      split <;> rfl
    | some number =>
      simp only [cons_append, sitesFrom, next, ih]
      split
      · rfl
      · split <;> rfl

theorem sitesFrom_plain {text : List Char} (plain : '$' ∉ text) (rest : List Char) :
    sitesFrom none (text ++ rest) = sitesFrom none rest := by
  induction text with
  | nil => rfl
  | cons char text ih =>
    rw [mem_cons, not_or] at plain
    have notDollar : (char == '$') = false := beq_eq_false_iff_ne.mpr (Ne.symm plain.1)
    simp only [cons_append, sitesFrom, notDollar]
    exact ih plain.2

theorem sitesFrom_digits (number : Nat) {digits : List Char}
    (allDigits : ∀ char ∈ digits, char.isDigit = true) :
    sitesFrom (some number) digits = [Nat.ofDigitChars 10 digits number] := by
  induction digits generalizing number with
  | nil => rfl
  | cons char digits ih =>
    rw [forall_mem_cons] at allDigits
    simp only [sitesFrom, allDigits.1, if_true]
    rw [ih _ allDigits.2, Nat.ofDigitChars_cons, Nat.mul_comm number]

theorem count_rewriteFrom (text : List Char) :
    (rewriteFrom false text).count '?' = (sitesFrom none text).length + text.count '?' ∧
    ∀ number,
        (rewriteFrom true text).count '?' + 1 =
          (sitesFrom (some number) text).length + text.count '?' := by
  induction text with
  | nil => simp [rewriteFrom, sitesFrom]
  | cons char text ih =>
    obtain ⟨scanning, skipping⟩ := ih
    have reference (start : (char == '$' && startsWithDigit text) = true) :
        (char :: text).count '?' = text.count '?' := by
      rw [Bool.and_eq_true, beq_iff_eq] at start
      rw [start.1]
      exact count_cons_of_ne (by decide)
    have other : (char :: rewriteFrom false text).count '?' =
        (sitesFrom none text).length + (char :: text).count '?' := by
      rw [count_cons, count_cons]
      omega
    constructor
    · rw [rewriteFrom, Bool.false_and, if_neg Bool.false_ne_true]
      dsimp only [sitesFrom]
      split
      · next start =>
        rw [reference start, count_cons_self]
        exact skipping 0
      · exact other
    · intro number
      rw [rewriteFrom, Bool.true_and]
      dsimp only [sitesFrom]
      split
      · next isDigit =>
        rw [count_cons_of_ne, skipping]
        rintro rfl
        exact absurd isDigit (by decide)
      · split
        · next start =>
          rw [reference start, count_cons_self, length_cons, skipping 0]
          omega
        · rw [length_cons]
          omega

/-! ## The sites of a statement -/

def charsOf (pieces : List Piece) : List Char := pieces.flatMap fun piece => piece.print.toList

theorem toList_printPieces (pieces : List Piece) :
    (printPieces pieces).toList = charsOf pieces := by
  induction pieces with
  | nil => rfl
  | cons piece rest ih =>
    unfold printPieces at ih ⊢
    rw [foldr_cons, String.toList_append, ih]
    rfl

/-- The texts among the pieces: what is written and the names spliced in. -/
def textsOf (pieces : List Piece) : List String :=
  pieces.filterMap fun
    | .text written => some written
    | .placeholder _ => none

/-- No digit follows a piece that could end in the middle of a reference. -/
def Spaced : List Piece → Prop
  | [] => True
  | .text written :: rest =>
    ('$' ∉ written.toList ∨ startsWithDigit (charsOf rest) = false) ∧ Spaced rest
  | .placeholder _ :: rest => startsWithDigit (charsOf rest) = false ∧ Spaced rest

def Piece.sites : Piece → List Nat
  | .text written => sitesFrom none written.toList
  | .placeholder index => [index]

theorem sitesFrom_placeholder (index : Nat) :
    sitesFrom none (Piece.placeholder index).print.toList = [index] := by
  have allDigits : ∀ char ∈ Nat.toDigits 10 index, char.isDigit = true :=
    fun _ => DecimalText.isDigit_of_mem_toDigits
  have starts : startsWithDigit (Nat.toDigits 10 index) = true := by
    cases isDigits : Nat.toDigits 10 index with
    | nil => exact absurd isDigits Nat.toDigits_ne_nil
    | cons char rest =>
      rw [isDigits] at allDigits
      exact allDigits char mem_cons_self
  have printed : (Piece.placeholder index).print.toList = '$' :: Nat.toDigits 10 index := by
    rw [Piece.print, String.toList_append, DecimalText.toList_toString]
    rfl
  rw [printed]
  simp only [sitesFrom, beq_self_eq_true, starts, Bool.and_self, if_true]
  rw [sitesFrom_digits 0 allDigits, Nat.ofDigitChars_ten_toDigits]

variable {pieces : List Piece}

theorem sitesFrom_charsOf (spaced : Spaced pieces) :
    sitesFrom none (charsOf pieces) = pieces.flatMap Piece.sites := by
  induction pieces with
  | nil => rfl
  | cons piece rest ih =>
    rw [charsOf, flatMap_cons, flatMap_cons]
    cases piece with
    | text written =>
      obtain ⟨ends, restSpaced⟩ := spaced
      rw [← ih restSpaced]
      rcases ends with plain | noDigit
      · have empty : Piece.sites (.text written) = [] := by
          have scanned := sitesFrom_plain plain []
          rw [append_nil] at scanned
          exact scanned
        rw [empty]
        exact sitesFrom_plain plain _
      · exact sitesFrom_append none _ noDigit
    | placeholder index =>
      obtain ⟨noDigit, restSpaced⟩ := spaced
      rw [← ih restSpaced]
      exact (sitesFrom_append none _ noDigit).trans
        (congrArg (· ++ _) (sitesFrom_placeholder index))

def AllClean (pieces : List Piece) : Prop := ∀ text ∈ textsOf pieces, Clean text

theorem flatMap_sites (clean : AllClean pieces) :
    pieces.flatMap Piece.sites = placeholders pieces := by
  induction pieces with
  | nil => rfl
  | cons piece rest ih =>
    rw [flatMap_cons]
    cases piece with
    | text written =>
      rw [ih fun text isText => clean text (mem_cons_of_mem _ isText)]
      exact congrArg (· ++ _) (clean written mem_cons_self).1
    | placeholder index =>
      rw [ih clean]
      rfl

theorem allClean_of_length (noMark : '?' ∉ charsOf pieces)
    (sameLength : (pieces.flatMap Piece.sites).length ≤ (placeholders pieces).length) :
    AllClean pieces := by
  have atLeast (pieces : List Piece) :
      (placeholders pieces).length ≤ (pieces.flatMap Piece.sites).length := by
    induction pieces with
    | nil => exact Nat.le_refl 0
    | cons piece rest ih =>
      rw [flatMap_cons, length_append]
      cases piece with
      | text written => exact Nat.le_trans ih (Nat.le_add_left _ _)
      | placeholder index => exact Nat.succ_le_succ ih |>.trans (Nat.le_of_eq (Nat.add_comm _ 1))
  induction pieces with
  | nil =>
    intro text isText
    cases isText
  | cons piece rest ih =>
    rw [charsOf, flatMap_cons, mem_append, not_or] at noMark
    rw [flatMap_cons, length_append] at sameLength
    have restAtLeast := atLeast rest
    cases piece with
    | text written =>
      have split : (placeholders (.text written :: rest)).length = (placeholders rest).length := rfl
      intro text isText
      rcases mem_cons.mp isText with rfl | isText
      · refine ⟨length_eq_zero_iff.mp ?_, noMark.1⟩
        change (Piece.sites (.text text)).length = 0
        omega
      · exact ih noMark.2 (by omega) text isText
    | placeholder index =>
      have one : (Piece.placeholder index).sites.length = 1 := rfl
      have split : (placeholders (.placeholder index :: rest)).length =
          (placeholders rest).length + 1 := rfl
      exact ih noMark.2 (by omega)

theorem noMark_of_allClean (clean : AllClean pieces) : '?' ∉ charsOf pieces := by
  intro isMark
  obtain ⟨piece, isPiece, isMark⟩ := mem_flatMap.mp isMark
  cases piece with
  | text written =>
    refine (clean written ?_).2 isMark
    exact mem_filterMap.mpr ⟨_, isPiece, rfl⟩
  | placeholder index =>
    rw [Piece.print, String.toList_append, mem_append] at isMark
    rcases isMark with isDollar | isDigit
    · simp at isDollar
    · exact DecimalText.notMem_toString rfl index isDigit

variable {statement : Statement Json}

theorem sameExecution_iff (spaced : Spaced statement.pieces)
    (counted : (placeholders statement.pieces).length = statement.bindings.length) :
    SameExecution statement ↔
      AllClean statement.pieces ∧
        (placeholders statement.pieces).map (numberedValue statement.bindings) =
          statement.bindings.map some := by
  have isText : statement.sql.toList = charsOf statement.pieces := toList_printPieces _
  have marks : (adaptPlaceholders statement.sql "mysql").toList.count '?' =
      (statement.pieces.flatMap Piece.sites).length + (charsOf statement.pieces).count '?' := by
    rw [adaptPlaceholders, if_pos rfl, rewriteDollarPlaceholders, String.toList_ofList, isText,
      (count_rewriteFrom _).1, sitesFrom_charsOf spaced]
  unfold SameExecution numberedValues positionalValues
  rw [isText, sitesFrom_charsOf spaced, marks]
  constructor
  · rintro ⟨values, numbered, positional⟩
    split at positional
    · next sameCount =>
      cases positional
      have sameLength := congrArg List.length numbered
      rw [length_map, length_map] at sameLength
      have clean : AllClean statement.pieces := by
        apply allClean_of_length
        · apply count_eq_zero.mp
          omega
        · omega
      rw [flatMap_sites clean] at numbered
      exact ⟨clean, numbered⟩
    · cases positional
  · rintro ⟨clean, numbered⟩
    refine ⟨statement.bindings, ?_, if_pos ?_⟩
    · rw [flatMap_sites clean]
      exact numbered
    · rw [flatMap_sites clean, counted,
        count_eq_zero.mpr (noMark_of_allClean clean), Nat.add_zero]

/-! ## Shapes of statements -/

/-- What comes next does not begin with a digit, whatever follows it. -/
def Opens (pieces : List Piece) : Prop :=
  ∀ rest,
    startsWithDigit (charsOf rest) = false → startsWithDigit (charsOf (pieces ++ rest)) = false

/-- A part of a statement: the names and the placeholders it brings. -/
structure Emits (pieces : List Piece) (names : List String) (indices : List Nat) :
    Prop where
  spaced : ∀ rest, startsWithDigit (charsOf rest) = false → Spaced rest → Spaced (pieces ++ rest)
  clean : AllClean pieces ↔ ∀ name ∈ names, Clean name
  placeholders : placeholders pieces = indices

theorem Opens.nil : Opens [] := fun _ noDigit => noDigit

theorem Opens.text {written : String} (first : Char) (more : List Char)
    (shape : written.toList = first :: more)
    (notDigit : first.isDigit = false) (pieces : List Piece) : Opens (.text written :: pieces) := by
  intro rest _
  have printed : charsOf (.text written :: pieces ++ rest) =
      first :: (more ++ charsOf (pieces ++ rest)) := by
    change written.toList ++ charsOf (pieces ++ rest) = _
    rw [shape]
    rfl
  rw [printed]
  exact notDigit

theorem allClean_append (first second : List Piece) :
    AllClean (first ++ second) ↔ AllClean first ∧ AllClean second := by
  unfold AllClean textsOf
  rw [filterMap_append]
  exact forall_mem_append

namespace Emits

theorem nil : Emits [] [] [] where
  spaced := fun _ _ spaced => spaced
  clean := by simp [AllClean, textsOf]
  placeholders := rfl

theorem append {first second : List Piece} {firstNames secondNames : List String}
    {firstIndices secondIndices : List Nat} (firstEmits : Emits first firstNames firstIndices)
    (secondEmits : Emits second secondNames secondIndices) (opens : Opens second) :
    Emits (first ++ second) (firstNames ++ secondNames) (firstIndices ++ secondIndices) where
  spaced := by
    intro rest noDigit spaced
    rw [append_assoc]
    exact firstEmits.spaced _ (opens rest noDigit) (secondEmits.spaced rest noDigit spaced)
  clean := by
    rw [allClean_append, firstEmits.clean, secondEmits.clean, forall_mem_append]
  placeholders := by
    rw [← firstEmits.placeholders, ← secondEmits.placeholders]
    exact filterMap_append

variable {pieces : List Piece} {names : List String} {indices : List Nat} {written : String}

theorem literal (plain : '$' ∉ written.toList) (noMark : '?' ∉ written.toList)
    (emits : Emits pieces names indices) : Emits (.text written :: pieces) names indices where
  spaced := fun rest noDigit spaced => ⟨.inl plain, emits.spaced rest noDigit spaced⟩
  clean := by
    have isClean : Clean written := by
      refine ⟨?_, noMark⟩
      have scanned := sitesFrom_plain plain []
      rw [append_nil] at scanned
      exact scanned
    rw [← emits.clean]
    exact forall_mem_cons.trans (and_iff_right isClean)
  placeholders := emits.placeholders

theorem name (opens : Opens pieces) (emits : Emits pieces names indices) :
    Emits (.text written :: pieces) (written :: names) indices where
  spaced := fun rest noDigit spaced => ⟨.inr (opens rest noDigit), emits.spaced rest noDigit spaced⟩
  clean := by
    rw [forall_mem_cons, ← emits.clean]
    exact forall_mem_cons
  placeholders := emits.placeholders

theorem placeholder {index : Nat} (opens : Opens pieces) (emits : Emits pieces names indices) :
    Emits (.placeholder index :: pieces) names (index :: indices) where
  spaced := fun rest noDigit spaced => ⟨opens rest noDigit, emits.spaced rest noDigit spaced⟩
  clean := emits.clean
  placeholders := congrArg (index :: ·) emits.placeholders

theorem joined (separator : String) (plain : '$' ∉ separator.toList)
    (noMark : '?' ∉ separator.toList) (opens : ∀ pieces, Opens (.text separator :: pieces))
    {Item : Type} (part : Item → List Piece) (names : Item → List String)
    (indices : Item → List Nat) (items : List Item)
    (each : ∀ item ∈ items, Emits (part item) (names item) (indices item)) :
    Emits (joinSeparated separator (items.map part)) (items.flatMap names)
      (items.flatMap indices) := by
  induction items with
  | nil => exact nil
  | cons first rest ih =>
    rw [forall_mem_cons] at each
    cases rest with
    | nil =>
      rw [flatMap_singleton, flatMap_singleton]
      exact each.1
    | cons second rest => exact each.1.append ((ih each.2).literal plain noMark) (opens _)

theorem ofNames (names : List String) : Emits (joinSeparated ", " (namePieces names)) names [] := by
  have emits := joined ", " (by decide) (by decide)
    (Opens.text ',' [' '] rfl rfl)
    (fun name => [.text name]) (fun name => [name]) (fun _ => []) names
    (fun name _ => nil.name .nil)
  rw [flatMap_singleton', flatMap_eq_nil_iff.mpr fun _ _ => rfl] at emits
  exact emits

theorem ofCounted (count : Nat) :
    Emits (joinSeparated ", " (countedPlaceholders count)) [] (List.range' 1 count) := by
  have emits := joined ", " (by decide) (by decide)
    (Opens.text ',' [' '] rfl rfl)
    (fun index => [.placeholder index]) (fun _ => []) (fun index => [index])
    (List.range' 1 count) (fun index _ => nil.placeholder .nil)
  rw [flatMap_singleton', flatMap_eq_nil_iff.mpr fun _ _ => rfl] at emits
  exact emits

theorem ofEqualities (separator : String) (plain : '$' ∉ separator.toList)
    (noMark : '?' ∉ separator.toList)
    (opens : ∀ pieces, Opens (.text separator :: pieces)) (first : Nat) (columns : List String) :
    Emits (joinSeparated separator (equalities first columns)) columns
      (List.range' first columns.length) := by
  have emits := joined separator plain noMark opens
    (fun (item : String × Nat) =>
      [.text item.1, .text " = ", .placeholder item.2])
    (fun item => [item.1]) (fun item => [item.2]) (columns.zipIdx first)
    (fun item _ =>
      ((nil.placeholder .nil).literal (by decide) (by decide)).name
        (Opens.text ' ' ['=', ' '] rfl rfl _))
  rw [← map_eq_flatMap, ← map_eq_flatMap, zipIdx_map_fst,
    zipIdx_map_snd] at emits
  exact emits

theorem ofUpdates (columns : List String) :
    Emits
      (joinSeparated ", " (columns.map fun column =>
        [.text column, .text " = VALUES(", .text column, .text ")"]))
      (columns.flatMap fun column => [column, column]) [] := by
  have emits := joined ", " (by decide) (by decide)
    (Opens.text ',' [' '] rfl rfl)
    (fun column => [.text column, .text " = VALUES(", .text column, .text ")"])
    (fun column => [column, column]) (fun _ => []) columns
    (fun column _ =>
      (((nil.literal (by decide) (by decide)).name
        (Opens.text ')' [] rfl rfl _)).literal (by decide) (by decide)).name
        (Opens.text ' ' "= VALUES(".toList rfl rfl _))
  rw [flatMap_eq_nil_iff.mpr fun _ _ => rfl] at emits
  exact emits

theorem ofKey (key : KeyFilter Json) (offset : Nat) :
    Emits (key.whereSqlFrom offset) key.columns (List.range' (offset + 1) key.values.length) := by
  rw [← key.aligned]
  exact ofEqualities " AND " (by decide) (by decide)
    (Opens.text ' ' ['A', 'N', 'D', ' '] rfl rfl) (offset + 1) key.columns

theorem ofInsert {table : String} {columns names : List String} (opens : Opens pieces)
    (known : names ⊆ columns) (emits : Emits pieces names []) :
    Emits
      (.text "INSERT INTO " :: .text table :: .text " (" ::
      joinSeparated ", " (namePieces columns) ++
      .text ") VALUES (" :: joinSeparated ", " (countedPlaceholders columns.length) ++ pieces)
      (table :: columns) (List.range' 1 columns.length) := by
  have front : Emits
      (.text "INSERT INTO " :: .text table :: .text " (" :: joinSeparated ", " (namePieces columns))
      (table :: columns) [] :=
    (((ofNames columns).literal (by decide) (by decide)).name
      (Opens.text ' ' ['('] rfl rfl _)).literal (by decide) (by decide)
  have values : Emits
      (.text ") VALUES (" :: joinSeparated ", " (countedPlaceholders columns.length))
      [] (List.range' 1 columns.length) :=
    (ofCounted columns.length).literal (by decide) (by decide)
  have whole := (front.append values
    (Opens.text ')' (" VALUES (".toList) rfl rfl _)).append emits opens
  rw [append_nil, append_nil] at whole
  refine { whole with clean := whole.clean.trans ?_ }
  constructor
  · intro allClean name isName
    exact allClean name (mem_append_left _ isName)
  · intro allClean name isName
    rcases mem_append.mp isName with isName | isName
    · exact allClean name isName
    · exact allClean name (mem_cons_of_mem _ (known isName))

end Emits

theorem map_numberedValue (bindings : List (Value Json)) :
    (List.range' 1 bindings.length).map (numberedValue bindings) = bindings.map some := by
  apply ext_getElem?
  intro position
  rw [getElem?_map, getElem?_map]
  by_cases within : position < bindings.length
  · rw [getElem?_range' within, Option.map_some, numberedValue,
      if_neg (by omega), Nat.one_mul, Nat.add_sub_cancel_left,
      getElem?_eq_getElem within]
    rfl
  · rw [Nat.not_lt] at within
    rw [getElem?_eq_none within, getElem?_eq_none (by simpa)]
    rfl

theorem Emits.sameExecution_iff {names : List String} {indices : List Nat}
    (emits : Emits statement.pieces names indices)
    (counted : indices.length = statement.bindings.length) :
    SameExecution statement ↔
      (∀ name ∈ names, Clean name) ∧
        indices.map (numberedValue statement.bindings) = statement.bindings.map some := by
  have spaced : Spaced statement.pieces := by
    have whole := emits.spaced [] rfl trivial
    rw [append_nil] at whole
    exact whole
  rw [← emits.clean, ← emits.placeholders]
  apply Orm.sameExecution_iff spaced
  rw [emits.placeholders]
  exact counted

theorem Emits.sameExecution_of_ascending {names : List String}
    (emits : Emits statement.pieces names (List.range' 1 statement.bindings.length)) :
    SameExecution statement ↔ ∀ name ∈ names, Clean name := by
  rw [emits.sameExecution_iff (length_range' ..)]
  exact and_iff_left (map_numberedValue _)

end Rustasea.Orm
