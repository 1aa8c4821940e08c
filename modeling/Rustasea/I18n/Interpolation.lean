import Mathlib.Algebra.GroupWithZero.Nat
import Mathlib.Data.List.Basic
import Rustasea.Library.TokenSubstitution

namespace Rustasea.I18n

open TokenSubstitution List

/-!
# Placeholders of messages

Every parameter replaces three tokens, one after another, in the text that the
parameters before it left.
-/

/-! ## Messages -/

abbrev Param := List Char × List Char

/-- The upper case of characters, of which that of ASCII is known. -/
structure Casing where
  toUppercase : Char → List Char
  ascii : ∀ code < 128, toUppercase (.ofNat code) = [(Char.ofNat code).toUpper]

namespace Casing

variable (casing : Casing)

def upper (text : List Char) : List Char := text.flatMap casing.toUppercase

def capitalize : List Char → List Char
  | [] => []
  | first :: rest => casing.toUppercase first ++ rest

end Casing

def isIdentChar (char : Char) : Bool := char.isAlphanum || char = '_'

def byteLength (text : List Char) : Nat := (text.map Char.utf8Size).sum

/-- What is in front of the first occurrence of a text, and behind it. -/
def find (token : List Char) : List Char → Option (List Char × List Char)
  | [] => none
  | char :: rest =>
    if token.isPrefixOf (char :: rest) then some ([], (char :: rest).drop token.length)
    else (find token rest).map fun found => (char :: found.1, found.2)

def replaceTokenFrom (token value : List Char) : Nat → List Char → List Char
  | 0, rest => rest
  | rounds + 1, rest =>
    match find token rest with
    | none => rest
    | some (before, after) =>
      before ++ (if after.head?.all (!isIdentChar ·) then value else token) ++
        replaceTokenFrom token value rounds after

def replaceToken (haystack token value : List Char) : List Char :=
  if byteLength token ≤ 1 then haystack
  else replaceTokenFrom token value haystack.length haystack

def longestFirst (left right : Param) : Bool := byteLength right.1 ≤ byteLength left.1

def interpolate (casing : Casing) (message : List Char) (params : List Param) : List Char :=
  (params.mergeSort longestFirst).foldl
    (fun out (name, value) =>
      if name = [] then out
      else
        let out := replaceToken out (':' :: name) value
        let out := replaceToken out (':' :: casing.capitalize name) (casing.capitalize value)
        replaceToken out (':' :: casing.upper name) (casing.upper value))
    message

/-! ## All at once -/

/-- The tokens of a parameter, with what they stand for. -/
def forms (casing : Casing) (param : Param) : List Param :=
  [param, (casing.capitalize param.1, casing.capitalize param.2),
    (casing.upper param.1, casing.upper param.2)]

/-- What a name stands for, by the first parameter with that token. -/
def ownValue (casing : Casing) (params : List Param) (name : List Char) : Option (List Char) :=
  params.findSome? fun param => (forms casing param).lookup name

def atOnce (casing : Casing) (message : List Char) (params : List Param) : List Char :=
  substitute isIdentChar ':' (ownValue casing params) message

def replacements (casing : Casing) (params : List Param) : List Param :=
  (params.mergeSort longestFirst).flatMap (forms casing)

/-- The tokens are replaced at once, and no step replaces anything else. -/
structure SubstitutesAtOnce
    (casing : Casing) (message : List Char) (params : List Param) : Prop where
  final : interpolate casing message params = atOnce casing message params
  untouched : ∀ done name value later, replacements casing params = done ++ (name, value) :: later →
        ∀ new, replaceToken (substitute isIdentChar ':' (done.lookup ·) message) (':' :: name) new =
            substitute isIdentChar ':' ((done ++ [(name, new)]).lookup ·) message

/-- Every token stays apart from the values filled in before it. -/
def KeepsApart (casing : Casing) (message : List Char) (params : List Param) : Prop :=
  ∀ done name value later, replacements casing params = done ++ (name, value) :: later →
      StaysApart isIdentChar ':' (done.lookup ·) name message

def IsIdentifier (name : List Char) : Prop := name ≠ [] ∧ ∀ char ∈ name, isIdentChar char = true

/-! ## One token -/

section Tokens

variable {name text before after value : List Char}

theorem find_spec (isName : ∀ char ∈ name, isIdentChar char = true) (text : List Char) :
    match find (':' :: name) text with
    | none => Free isIdentChar ':' name text []
    | some (before, after) =>
      text = before ++ (':' :: name ++ after) ∧
        Free isIdentChar ':' name before (':' :: name ++ after) := by
  induction text with
  | nil => trivial
  | cons char rest ih =>
    rw [find]
    by_cases isPrefix : (':' :: name).isPrefixOf (char :: rest) = true
    · rw [if_pos isPrefix]
      have isWhole := prefix_iff_eq_append.mp (List.isPrefixOf_iff_prefix.mp isPrefix)
      exact ⟨isWhole.symm, trivial⟩
    · rw [if_neg isPrefix]
      have noToken : char = ':' → nameOf isIdentChar rest ≠ name := by
        rintro rfl rfl
        refine isPrefix (List.isPrefixOf_iff_prefix.mpr ?_)
        exact cons_prefix_cons.mpr ⟨rfl, takeWhile_prefix _⟩
      cases isFound : find (':' :: name) rest with
      | none =>
        rw [isFound] at ih
        rw [← append_nil rest] at noToken
        exact ⟨noToken, ih⟩
      | some found =>
        rw [isFound] at ih
        obtain ⟨isRest, isFree⟩ := ih
        rw [isRest] at noToken
        exact ⟨congrArg (char :: ·) isRest, noToken, isFree⟩

theorem all_head_iff (after : List Char) :
    after.head?.all (!isIdentChar ·) = true ↔ nameOf isIdentChar after = [] := by
  cases after with
  | nil => simp [nameOf]
  | cons next after => cases isNext : isIdentChar next <;> simp [nameOf]

theorem colon_apart : isIdentChar ':' = false := rfl

variable (isName : IsIdentifier name)

include isName

theorem colon_notMem : ':' ∉ name := fun isIn => Bool.false_ne_true (isName.2 ':' isIn)

theorem substitute_found :
    substitute isIdentChar ':' (only name value) (':' :: name ++ after) =
      (if after.head?.all (!isIdentChar ·) then value else ':' :: name) ++
        substitute isIdentChar ':' (only name value) after := by
  have isLonger : nameOf isIdentChar (name ++ after) = name ++ nameOf isIdentChar after :=
    takeWhile_append_of_pos isName.2
  rw [cons_append]
  split
  · next isEnd =>
    rw [all_head_iff] at isEnd
    have isToken : only name value (nameOf isIdentChar (name ++ after)) = value := by
      rw [isLonger, isEnd, append_nil, only, if_pos rfl]
    have isBehind : (name ++ after).dropWhile isIdentChar = after := by
      rw [dropWhile_append_of_pos isName.2]
      exact append_cancel_left
        ((congrArg (· ++ _) isEnd).symm.trans takeWhile_append_dropWhile)
    rw [substitute_some isToken, isBehind]
  · next notEnd =>
    rw [all_head_iff] at notEnd
    have isLongerName : only name value (nameOf isIdentChar (name ++ after)) = none := by
      rw [isLonger, only]
      simpa using notEnd
    rw [substitute_none colon_apart isLongerName,
      substitute_append (colon_notMem isName), cons_append]

theorem replaceTokenFrom_eq {rounds : Nat} (isEnough : text.length ≤ rounds) :
    replaceTokenFrom (':' :: name) value rounds text =
      substitute isIdentChar ':' (only name value) text := by
  induction rounds generalizing text with
  | zero =>
    rw [eq_nil_of_length_eq_zero (Nat.le_zero.mp isEnough), substitute]
    rfl
  | succ rounds ih =>
    have spec := find_spec isName.2 text
    have keeps {front following : List Char}
        (isFree : Free isIdentChar ':' name front following) :=
      (keeps_iff colon_apart isName.1).mpr ⟨isFree, fun _ => rfl⟩ value
    rw [replaceTokenFrom]
    cases isFound : find (':' :: name) text with
    | none =>
      rw [isFound] at spec
      have isKept := keeps spec
      rw [substitute, append_nil] at isKept
      exact isKept.symm
    | some found =>
      obtain ⟨before, after⟩ := found
      rw [isFound] at spec
      obtain ⟨rfl, isFree⟩ := spec
      dsimp only
      have isShorter : after.length ≤ rounds := by
        simp only [length_append, length_cons] at isEnough
        omega
      rw [keeps isFree, substitute_found isName, append_assoc, ← ih isShorter]

theorem replaceToken_eq (text value : List Char) :
    replaceToken text (':' :: name) value = substitute isIdentChar ':' (only name value) text := by
  have isLong : ¬ byteLength (':' :: name) ≤ 1 := by
    obtain ⟨first, rest, rfl⟩ := exists_cons_of_ne_nil isName.1
    have isFirst := first.utf8Size_pos
    have isColon := (':').utf8Size_pos
    simp only [byteLength, map_cons, sum_cons]
    omega
  rw [replaceToken, if_neg isLong, replaceTokenFrom_eq isName (Nat.le_refl _)]

end Tokens

/-! ## All tokens of all parameters -/

section Parameters

variable {casing : Casing} {message name value : List Char} {params : List Param}

theorem isAscii_of_ident {char : Char} (isIdent : isIdentChar char = true) : char.toNat < 128 := by
  unfold isIdentChar Char.isAlphanum Char.isAlpha Char.isUpper Char.isLower Char.isDigit at isIdent
  simp only [Bool.or_eq_true, Bool.and_eq_true, decide_eq_true_eq] at isIdent
  rcases isIdent with (((isUpper | isLower) | isDigit) | rfl)
  · exact Nat.lt_of_le_of_lt isUpper.2 (by decide)
  · exact Nat.lt_of_le_of_lt isLower.2 (by decide)
  · exact Nat.lt_of_le_of_lt isDigit.2 (by decide)
  · decide

theorem ascii_upper :
    ∀ code < 128, isIdentChar (.ofNat code) = true →
      isIdentChar (Char.ofNat code).toUpper = true ∧
        (Char.ofNat code).toUpper.utf8Size = (Char.ofNat code).utf8Size := by
  decide

theorem toUppercase_of_ident (casing : Casing) {char : Char} (isIdent : isIdentChar char = true) :
    ∃ upper, casing.toUppercase char = [upper] ∧
      isIdentChar upper = true ∧ upper.utf8Size = char.utf8Size := by
  have isAscii := isAscii_of_ident isIdent
  have isUpper := casing.ascii char.toNat isAscii
  have sameKind := ascii_upper char.toNat isAscii
  rw [Char.ofNat_toNat] at isUpper sameKind
  exact ⟨_, isUpper, sameKind isIdent⟩

theorem upper_of_ident (casing : Casing) (areIdent : ∀ char ∈ name, isIdentChar char = true) :
    (∀ char ∈ casing.upper name, isIdentChar char = true) ∧
    byteLength (casing.upper name) = byteLength name := by
  induction name with
  | nil => exact ⟨by simp [Casing.upper], rfl⟩
  | cons char name ih =>
    obtain ⟨isIdent, areIdent⟩ := forall_mem_cons.mp areIdent
    obtain ⟨upper, isUpper, isKept, sameSize⟩ := toUppercase_of_ident casing isIdent
    obtain ⟨areKept, sameLength⟩ := ih areIdent
    have isWhole : casing.upper (char :: name) = upper :: casing.upper name := by
      simp [Casing.upper, isUpper]
    rw [isWhole]
    refine ⟨forall_mem_cons.mpr ⟨isKept, areKept⟩, ?_⟩
    simp only [byteLength, map_cons, sum_cons, sameSize] at sameLength ⊢
    rw [sameLength]

theorem form_isIdentifier (isName : IsIdentifier name) {form : Param}
    (isForm : form ∈ forms casing (name, value)) :
    IsIdentifier form.1 ∧ byteLength form.1 = byteLength name := by
  obtain ⟨first, rest, rfl⟩ := exists_cons_of_ne_nil isName.1
  obtain ⟨isFirst, areRest⟩ := forall_mem_cons.mp isName.2
  have upperFirst := toUppercase_of_ident casing isFirst
  simp only [forms, mem_cons, not_mem_nil, or_false] at isForm
  rcases isForm with rfl | rfl | rfl
  · exact ⟨isName, rfl⟩
  · obtain ⟨upper, isUpper, isIdent, sameSize⟩ := upperFirst
    simp only [Casing.capitalize, isUpper]
    refine ⟨⟨cons_ne_nil _ _, ?_⟩, by simp [byteLength, sameSize]⟩
    exact forall_mem_cons.mpr ⟨isIdent, areRest⟩
  · obtain ⟨areIdent, sameLength⟩ := upper_of_ident casing isName.2
    refine ⟨⟨?_, areIdent⟩, sameLength⟩
    intro isEmpty
    obtain ⟨upper, isUpper, -⟩ := upperFirst
    simp [Casing.upper, isUpper] at isEmpty

theorem findSome?_mergeSort {Item Value : Type} {le : Item → Item → Bool}
    (trans : ∀ a b c, le a b = true → le b c = true → le a c = true)
    (total : ∀ a b, (le a b || le b a) = true) {find : Item → Option Value} {items : List Item}
    (same :
      ∀ a ∈ items, ∀ b ∈ items, (find a).isSome = true → (find b).isSome = true → le a b = true) :
    (items.mergeSort le).findSome? find = items.findSome? find := by
  have onlyFinds (items : List Item) :
      (items.filter (find · |>.isSome)).findSome? find = items.findSome? find := by
    induction items with
    | nil => rfl
    | cons item items ih => cases isFound : find item <;> simp [isFound, ih]
  have isOrdered : (items.filter (find · |>.isSome)).Pairwise (le · ·) := by
    refine pairwise_of_forall_mem_list fun a isFirst b isSecond => ?_
    rw [mem_filter] at isFirst isSecond
    exact same a isFirst.1 b isSecond.1 isFirst.2 isSecond.2
  have isSublist :=
    (sublist_mergeSort trans total isOrdered filter_sublist).filter (find · |>.isSome)
  rw [filter_filter] at isSublist
  simp only [Bool.and_self] at isSublist
  have sameLength := ((mergeSort_perm items le).filter (find · |>.isSome)).length_eq
  rw [← onlyFinds items, ← onlyFinds (items.mergeSort le), isSublist.eq_of_length sameLength.symm]

theorem lookup_flatMap {Item : Type} (list : Item → List Param) (items : List Item)
    (name : List Char) :
    (items.flatMap list).lookup name = items.findSome? fun item => (list item).lookup name := by
  induction items with
  | nil => rfl
  | cons item items ih =>
    rw [flatMap_cons, lookup_append, ih, findSome?_cons]
    cases (list item).lookup name <;> rfl

variable (areNames : ∀ param ∈ params, IsIdentifier param.1)

include areNames

theorem replacement_isIdentifier {step : Param} (isStep : step ∈ replacements casing params) :
    IsIdentifier step.1 := by
  obtain ⟨param, isParam, isForm⟩ := mem_flatMap.mp isStep
  exact (form_isIdentifier (areNames param (mem_mergeSort.mp isParam)) isForm).1

theorem interpolate_eq (casing : Casing) (message : List Char) :
    interpolate casing message params = (replacements casing params).foldl
      (fun out step => substitute isIdentChar ':' (only step.1 step.2) out) message := by
  have asTokens : interpolate casing message params = (replacements casing params).foldl
      (fun out step => replaceToken out (':' :: step.1) step.2) message := by
    rw [replacements, foldl_flatMap]
    refine foldl_ext _ _ _ fun out param isParam => ?_
    have hasText := (areNames param (mem_mergeSort.mp isParam)).1
    dsimp only
    rw [if_neg hasText]
    rfl
  rw [asTokens]
  exact foldl_ext _ _ _ fun out step isStep =>
    replaceToken_eq (replacement_isIdentifier areNames isStep) out step.2

theorem lookup_replacements (casing : Casing) (name : List Char) :
    (replacements casing params).lookup name = ownValue casing params name := by
  rw [replacements, lookup_flatMap]
  refine findSome?_mergeSort ?_ ?_ ?_
  · intro a b c isFirst isSecond
    simp only [longestFirst, decide_eq_true_eq] at isFirst isSecond ⊢
    omega
  · intro a b
    simp only [longestFirst, Bool.or_eq_true, decide_eq_true_eq]
    omega
  · intro first isFirst second isSecond hasFirst hasSecond
    have sameLength {param : Param} (isParam : param ∈ params)
        (hasForm : ((forms casing param).lookup name).isSome = true) :
        byteLength param.1 = byteLength name := by
      obtain ⟨form, isForm, isOwn⟩ := lookup_isSome_iff.mp hasForm
      rw [beq_iff_eq.mp isOwn]
      exact (form_isIdentifier (areNames param isParam) isForm).2.symm
    rw [longestFirst, sameLength isFirst hasFirst, sameLength isSecond hasSecond]
    exact decide_eq_true (Nat.le_refl _)

/--
The placeholders are replaced at once, exactly when every token stays apart from
what was filled in before it.
-/
theorem interpolate_atOnce_iff (casing : Casing) (message : List Char) :
    SubstitutesAtOnce casing message params ↔ KeepsApart casing message params := by
  have steps {done later : List Param} {name value : List Char}
      (split : replacements casing params = done ++ (name, value) :: later) :
      (∀ new, replaceToken (substitute isIdentChar ':' (done.lookup ·) message) (':' :: name) new =
            substitute isIdentChar ':' ((done ++ [(name, new)]).lookup ·) message) ↔
        StaysApart isIdentChar ':' (done.lookup ·) name message := by
    have isName : IsIdentifier name :=
      replacement_isIdentifier areNames (split ▸ mem_append_cons_self)
    simp [replaceToken_eq isName, ← also_lookup, also_iff colon_apart isName.1]
  constructor
  · intro substitutes done name value later split
    exact (steps split).mp (substitutes.untouched done name value later split)
  · intro keeps
    refine
      ⟨?_, fun done name value later split => (steps split).mpr (keeps done name value later split)⟩
    rw [interpolate_eq areNames, atOnce, ← funext (lookup_replacements areNames casing)]
    exact foldl_only colon_apart
      (fun step isStep => (replacement_isIdentifier areNames isStep).1) keeps

end Parameters

/-! ## Values that are read -/

def asciiCasing : Casing where
  toUppercase char := [char.toUpper]
  ascii _ _ := rfl

def textParams (params : List (String × String)) : List Param :=
  params.map fun param => (param.1.toList, param.2.toList)

theorem keepsApart_of_index {casing : Casing} {message : List Char} {table : List Param}
    (same : replacements casing params = table)
    (apart : ∀ index (below : index < table.length),
      StaysApart isIdentChar ':' ((table.take index).lookup ·) table[index].1 message) :
    KeepsApart casing message params := by
  intro done name value later split
  subst same
  have below : done.length < (replacements casing params).length := by simp [split]
  simpa [split] using apart done.length below

theorem greeting_is_read_at_once :
    SubstitutesAtOnce asciiCasing "hi :name".toList (textParams [("name", "ada")]) := by
  refine (interpolate_atOnce_iff (fun param isParam => ?_) asciiCasing _).mpr ?_
  · obtain rfl := mem_singleton.mp isParam
    exact ⟨by decide, all_eq_true.mp (by decide)⟩
  · refine keepsApart_of_index
      (show _ = textParams [("name", "ada"), ("Name", "Ada"), ("NAME", "ADA")] by decide +kernel)
      fun index below => ?_
    match index, below with
    | 0, _ | 1, _ | 2, _ => simp [textParams, StaysApart, Free, nameOf, substitute, isIdentChar]

/-- A value holds a token; and a value makes the token in front of it longer. -/
theorem values_are_read :
    interpolate asciiCasing ":greeting".toList
      (textParams [("greeting", "hi :name"), ("name", "Ada")]) ≠
      atOnce asciiCasing ":greeting".toList
        (textParams [("greeting", "hi :name"), ("name", "Ada")]) ∧
    interpolate asciiCasing ":a:bb".toList (textParams [("bb", "2"), ("a", "1")]) ≠
      atOnce asciiCasing ":a:bb".toList (textParams [("bb", "2"), ("a", "1")]) := by
  constructor
  all_goals
    rw [interpolate, mergeSort_of_pairwise (by decide)]
    decide +kernel

end Rustasea.I18n
