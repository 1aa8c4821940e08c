import Mathlib.Data.List.TakeWhile

namespace TokenSubstitution

open List

/-!
# Names behind a mark

A token is a mark with the longest name behind it.  Tokens are filled in all at
once, or name by name; a name that is filled in later may be read wrongly, in
what an earlier one left or next to it.  It is not exactly when what was filled
in stays apart from its tokens.
-/

variable {Character : Type*} [DecidableEq Character]

section Definitions

variable (isName : Character → Bool) (mark : Character)

def nameOf (text : List Character) : List Character := text.takeWhile isName

@[grind =] def substitute (valueOf : List Character → Option (List Character)) :
    List Character → List Character
  | [] => []
  | character :: rest =>
    if character = mark then
      match valueOf (nameOf isName rest) with
      | some value => value ++ substitute valueOf (rest.dropWhile isName)
      | none => mark :: nameOf isName rest ++ substitute valueOf (rest.dropWhile isName)
    else character :: substitute valueOf rest
termination_by text => text.length
decreasing_by
  all_goals simp only [length_cons]
  · exact Nat.lt_succ_of_le (dropWhile_sublist _).length_le
  · exact Nat.lt_succ_of_le (dropWhile_sublist _).length_le
  · exact Nat.lt_succ_self _

def only (name new : List Character) : List Character → Option (List Character) :=
  fun other => if other = name then some new else none

def also (valueOf : List Character → Option (List Character))
    (name new : List Character) : List Character → Option (List Character) :=
  fun other => (valueOf other).or (only name new other)

/-- No token of a name starts in a text, with what follows it. -/
def Free (name : List Character) : List Character → List Character → Prop
  | [], _ => True
  | character :: text, following =>
    (character = mark → nameOf isName (text ++ following) ≠ name) ∧ Free name text following

/--
Once values are filled in, the tokens of a name are just those of the text that
had none: no value brings one, and no value makes one longer or shorter.
-/
@[grind =] def StaysApart (valueOf : List Character → Option (List Character))
    (name : List Character) : List Character → Prop
  | [] => True
  | character :: rest =>
    (character = mark →
      match valueOf (nameOf isName rest) with
      | some value =>
        Free isName mark name value (substitute isName mark valueOf (rest.dropWhile isName))
      | none =>
        nameOf isName (substitute isName mark valueOf rest) = name ↔ nameOf isName rest = name) ∧
      StaysApart valueOf name rest

end Definitions

variable {isName : Character → Bool} {mark : Character}
  {valueOf : List Character → Option (List Character)} {name text following rest : List Character}

theorem substitute_of_ne {character : Character} (isOther : character ≠ mark) :
    substitute isName mark valueOf (character :: rest) =
      character :: substitute isName mark valueOf rest := by
  rw [substitute, if_neg isOther]

theorem substitute_append (noMark : mark ∉ text) :
    substitute isName mark valueOf (text ++ rest) =
      text ++ substitute isName mark valueOf rest := by
  induction text with
  | nil => rfl
  | cons character text ih =>
    rw [mem_cons, not_or] at noMark
    rw [cons_append, substitute_of_ne (Ne.symm noMark.1), ih noMark.2, cons_append]

omit [DecidableEq Character] in
theorem free_of_notMem (noMark : mark ∉ text) : Free isName mark name text following := by
  induction text with
  | nil => trivial
  | cons character text ih =>
    rw [mem_cons, not_or] at noMark
    exact ⟨fun isMark => absurd isMark.symm noMark.1, ih noMark.2⟩

theorem substitute_some
    {value : List Character} (isFilled : valueOf (nameOf isName rest) = some value) :
    substitute isName mark valueOf (mark :: rest) =
      value ++ substitute isName mark valueOf (rest.dropWhile isName) := by
  rw [substitute, if_pos rfl, isFilled]

section Names

variable (markApart : isName mark = false)

include markApart

omit [DecidableEq Character] in
theorem notMem_nameOf (text : List Character) : mark ∉ nameOf isName text := by
  intro isIn
  have isMarkName := mem_takeWhile_imp isIn
  rw [markApart] at isMarkName
  cases isMarkName

theorem substitute_nameOf (rest : List Character) :
    substitute isName mark valueOf rest = nameOf isName rest ++
      substitute isName mark valueOf (rest.dropWhile isName) := by
  rw [← substitute_append (notMem_nameOf markApart rest), nameOf, takeWhile_append_dropWhile]

theorem substitute_none (isFree : valueOf (nameOf isName rest) = none) :
    substitute isName mark valueOf (mark :: rest) =
      mark :: substitute isName mark valueOf rest := by
  rw [substitute, if_pos rfl, isFree, substitute_nameOf markApart rest]
  rfl

theorem substitute_dropWhile
    (same : nameOf isName (substitute isName mark valueOf rest) = nameOf isName rest) :
    (substitute isName mark valueOf rest).dropWhile isName =
      substitute isName mark valueOf (rest.dropWhile isName) := by
  have isWhole := takeWhile_append_dropWhile
      (p := isName) (l := substitute isName mark valueOf rest)
  change nameOf isName _ ++ _ = _ at isWhole
  rw [same] at isWhole
  exact append_cancel_left (isWhole.trans (substitute_nameOf markApart rest))

theorem staysApart_dropWhile (rest : List Character) :
    StaysApart isName mark valueOf name rest ↔
      StaysApart isName mark valueOf name (rest.dropWhile isName) := by
  induction rest with
  | nil => rfl
  | cons character rest ih =>
    rw [dropWhile_cons]
    split
    · next isNext =>
      rw [← ih]
      refine and_iff_right ?_
      rintro rfl
      rw [markApart] at isNext
      cases isNext
    · rfl

omit [DecidableEq Character] in
theorem mark_ne_name (isToken : nameOf isName text = name) (hasText : name ≠ []) :
    mark :: following ≠ name ++ rest := by
  intro same
  have noMark := notMem_nameOf markApart text
  rw [isToken] at noMark
  cases name with
  | nil => exact hasText rfl
  | cons first name =>
    cases same
    exact noMark mem_cons_self

variable (hasText : name ≠ [])

include hasText

/--
A text is kept whatever is filled in for a name, exactly when no token of the
name starts in it.
-/
theorem keeps_iff {filled : List Character → List Character} :
    (∀ new, substitute isName mark (only name new) (text ++ following) = text ++ filled new) ↔
      Free isName mark name text following ∧
        ∀ new, substitute isName mark (only name new) following = filled new := by
  induction text with
  | nil => simp [Free]
  | cons character text ih =>
    rw [Free, and_assoc, ← ih]
    by_cases isMark : character = mark
    · subst isMark
      by_cases isToken : nameOf isName (text ++ following) = name
      · -- The mark is gone, and the name that is put in starts without one.
        refine iff_of_false (fun same => ?_) fun free => free.1 rfl isToken
        have isReplaced := same name
        rw [cons_append, substitute_some (if_pos isToken)] at isReplaced
        exact mark_ne_name markApart isToken hasText isReplaced.symm
      · have isKept (new : List Character) : substitute isName character (only name new)
              (character :: (text ++ following)) =
            character :: substitute isName character (only name new) (text ++ following) :=
          substitute_none markApart (if_neg isToken)
        simp [isKept, isToken]
    · simp [substitute_of_ne isMark, isMark]

/--
Filling in one more name fills in its tokens and nothing else, whatever is put
in, exactly when they stay apart from what was filled in.
-/
theorem also_iff (text : List Character) :
    (∀ new, substitute isName mark (only name new)
      (substitute isName mark valueOf text) = substitute isName mark (also valueOf name new) text) ↔
      StaysApart isName mark valueOf name text := by
  induction text using substitute.induct isName mark valueOf with
  | case1 => simp [substitute, StaysApart]
  | case2 rest value isFilled ih =>
    have isAlso (new : List Character) :
        also valueOf name new (nameOf isName rest) = some value := by
      rw [also, isFilled]
      rfl
    rw [StaysApart, staysApart_dropWhile markApart, ← ih, substitute_some isFilled]
    simp [substitute_some (isAlso _), keeps_iff markApart hasText, isFilled]
  | case3 rest isFree ih =>
    rw [StaysApart, staysApart_dropWhile markApart, ← ih, substitute_none markApart isFree]
    simp only [isFree, forall_const]
    by_cases isOwn : nameOf isName rest = name
    · have isAlso (new : List Character) :
          also valueOf name new (nameOf isName rest) = some new := by
        rw [also, isFree, only, if_pos isOwn]
        rfl
      simp only [substitute_some (isAlso _), isOwn, iff_true]
      by_cases isToken : nameOf isName (substitute isName mark valueOf rest) = name
      · have isOnly (new : List Character) :
            only name new (nameOf isName (substitute isName mark valueOf rest)) = some new :=
          if_pos isToken
        simp [substitute_some (isOnly _), isToken, substitute_dropWhile markApart (isToken.trans isOwn.symm)]
      · refine iff_of_false (fun same => ?_) fun apart => isToken apart.1
        have isKept := same name
        rw [substitute_none markApart (if_neg isToken)] at isKept
        exact mark_ne_name markApart isOwn hasText isKept
    · have isAlso (new : List Character) : also valueOf name new (nameOf isName rest) = none := by
        rw [also, isFree, only, if_neg isOwn]
        rfl
      have isSplit (new : List Character) :
          substitute isName mark (also valueOf name new) (mark :: rest) =
            mark :: nameOf isName rest ++
              substitute isName mark (also valueOf name new) (rest.dropWhile isName) := by
        rw [substitute_none markApart (isAlso new), substitute_nameOf markApart rest]
        rfl
      simp only [isSplit, isOwn]
      rw [substitute_nameOf markApart rest, ← cons_append, keeps_iff markApart hasText, Free]
      simp [free_of_notMem (notMem_nameOf markApart rest)]
  | case4 character rest isOther ih =>
    rw [StaysApart, ← ih]
    simp [substitute_of_ne isOther, isOther]

omit hasText in
theorem substitute_nothing (text : List Character) :
    substitute isName mark (fun _ => none) text = text := by
  induction text with
  | nil => rw [substitute]
  | cons character rest ih =>
    by_cases isMark : character = mark
    · rw [isMark, substitute_none markApart rfl, ih]
    · rw [substitute_of_ne isMark, ih]

end Names

theorem also_lookup (done : List (List Character × List Character)) (name new : List Character) :
    also (done.lookup ·) name new = ((done ++ [(name, new)]).lookup ·) := by
  funext other
  rw [also, lookup_append, lookup_cons, only]
  by_cases isOwn : other = name
  · simp [isOwn]
  · simp [isOwn, beq_false_of_ne isOwn]

theorem foldl_substitute (markApart : isName mark = false)
    {done later : List (List Character × List Character)} (areNames : ∀ step ∈ later, step.1 ≠ [])
    (apart : ∀ earlier name new rest, later = earlier ++ (name, new) :: rest →
        StaysApart isName mark ((done ++ earlier).lookup ·) name text) :
    later.foldl (fun out step => substitute isName mark (only step.1 step.2) out)
        (substitute isName mark (done.lookup ·) text) =
      substitute isName mark ((done ++ later).lookup ·) text := by
  induction later generalizing done with
  | nil => rw [append_nil, foldl_nil]
  | cons step later ih =>
    obtain ⟨name, new⟩ := step
    have isApart := apart [] name new later rfl
    rw [append_nil] at isApart
    have isFilled := (also_iff markApart (areNames _ mem_cons_self) text).mpr isApart new
    have shape : done ++ (name, new) :: later = done ++ [(name, new)] ++ later :=
      append_cons done _ later
    rw [foldl_cons, isFilled, also_lookup, shape]
    refine ih (fun other isIn => areNames other (mem_cons_of_mem _ isIn)) ?_
    rintro earlier other value rest rfl
    have isLater := apart ((name, new) :: earlier) other value rest rfl
    rwa [append_cons] at isLater

theorem foldl_only (markApart : isName mark = false)
    {steps : List (List Character × List Character)} (areNames : ∀ step ∈ steps, step.1 ≠ [])
    (apart : ∀ done name new rest,
        steps = done ++ (name, new) :: rest → StaysApart isName mark (done.lookup ·) name text) :
    steps.foldl (fun out step => substitute isName mark (only step.1 step.2) out) text =
      substitute isName mark (steps.lookup ·) text := by
  have isFilled : steps.foldl (fun out step => substitute isName mark (only step.1 step.2) out)
        (substitute isName mark (([] : List (_ × _)).lookup ·) text) =
      substitute isName mark (steps.lookup ·) text :=
    foldl_substitute markApart areNames apart
  rwa [show substitute isName mark (([] : List (_ × _)).lookup ·) text = text
    from substitute_nothing markApart text] at isFilled

end TokenSubstitution
