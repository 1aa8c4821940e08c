import Mathlib.Data.List.Infix

namespace TextReplace

open List

/-!
# Replacing every occurrence of a text

A pattern whose first character does not come again in it has no overlapping
occurrences.  In a text where the pattern stands between gaps, replacing every
occurrence replaces just those exactly when no gap contains the pattern.
-/

variable {Character : Type*} [DecidableEq Character]

/--
Replace from the left every occurrence of `head :: tail`; `skipped` counts the
characters of a match that are still to be passed over.
-/
def replaceFrom (head : Character) (tail new : List Character) : Nat → List Character →
    List Character
  | _, [] => []
  | skipped + 1, _ :: rest => replaceFrom head tail new skipped rest
  | 0, character :: rest =>
    if (head :: tail).isPrefixOf (character :: rest) then
      new ++ replaceFrom head tail new tail.length rest
    else character :: replaceFrom head tail new 0 rest

/-- Replace every occurrence of `head :: tail`. -/
def replaceAll (head : Character) (tail new text : List Character) : List Character :=
  replaceFrom head tail new 0 text

def joined (mark gap : List Character) (gaps : List (List Character)) : List Character :=
  gap ++ gaps.flatMap (mark ++ ·)

variable {head : Character} {tail new : List Character}

theorem replaceFrom_append (front rest : List Character) :
    replaceFrom head tail new front.length (front ++ rest) = replaceFrom head tail new 0 rest := by
  induction front with
  | nil => rfl
  | cons character front ih => exact ih

theorem replaceAll_match (rest : List Character) :
    replaceAll head tail new (head :: tail ++ rest) = new ++ replaceAll head tail new rest := by
  have isMatch : (head :: tail).isPrefixOf (head :: (tail ++ rest)) = true :=
    List.isPrefixOf_iff_prefix.mpr (prefix_append (head :: tail) rest)
  rw [cons_append, replaceAll, replaceFrom, if_pos isMatch, replaceFrom_append]
  rfl

theorem replaceAll_cons {character : Character} {rest : List Character}
    (noMatch : ¬ head :: tail <+: character :: rest) :
    replaceAll head tail new (character :: rest) = character :: replaceAll head tail new rest := by
  have isNoMatch : ¬ (head :: tail).isPrefixOf (character :: rest) = true :=
    fun isMatch => noMatch (List.isPrefixOf_iff_prefix.mp isMatch)
  rw [replaceAll, replaceFrom, if_neg isNoMatch]
  rfl

omit [DecidableEq Character] in
theorem prefix_append_iff {pattern text rest : List Character}
    (apart : ∀ character ∈ rest.head?, character ∉ pattern) :
    pattern <+: text ++ rest ↔ pattern <+: text := by
  constructor
  · intro isPrefixed
    induction pattern generalizing text with
    | nil => exact nil_prefix
    | cons character pattern ih =>
      cases text with
      | nil =>
        obtain ⟨behind, isRest⟩ := isPrefixed
        have isHead : character ∈ rest.head? := by
          rw [← nil_append rest, ← isRest]
          rfl
        exact absurd mem_cons_self (apart character isHead)
      | cons first text =>
        rw [cons_append, cons_prefix_cons] at isPrefixed
        rw [cons_prefix_cons]
        refine ⟨isPrefixed.1, ih ?_ isPrefixed.2⟩
        intro other isHead isIn
        exact apart other isHead (mem_cons_of_mem _ isIn)
  · intro isPrefixed
    exact isPrefixed.trans (prefix_append text rest)

theorem replaceAll_gap_iff (apart : head ∉ tail)
    (starts : ∃ first behind, new = first :: behind ∧ first ≠ head)
    {gap rest target : List Character} (atHead : ∀ character ∈ rest.head?, character = head) :
    replaceAll head tail new (gap ++ rest) = gap ++ target ↔
      ¬ head :: tail <:+: gap ∧ replaceAll head tail new rest = target := by
  induction gap with
  | nil => simp
  | cons character gap ih =>
    have sameMatch : head :: tail <+: character :: (gap ++ rest) ↔
        head :: tail <+: character :: gap := by
      rw [cons_prefix_cons, cons_prefix_cons, prefix_append_iff]
      intro other isHead
      rw [atHead other isHead]
      exact apart
    rw [cons_append, infix_cons_iff]
    by_cases isMatch : head :: tail <+: character :: gap
    · -- The replaced text starts as the new one does, not as the pattern.
      have isHead : head = character := (cons_prefix_cons.mp isMatch).1
      obtain ⟨first, behind, rfl, isOther⟩ := starts
      obtain ⟨after, isText⟩ := sameMatch.mpr isMatch
      rw [← isText, replaceAll_match]
      constructor
      · intro same
        exact absurd ((List.cons.inj same).1.trans isHead.symm) isOther
      · intro free
        exact absurd (.inl isMatch) free.1
    · rw [replaceAll_cons (fun matched => isMatch (sameMatch.mp matched)), cons_append,
        List.cons.injEq, eq_self, ih, not_or]
      simp [isMatch]

/--
Replacing every occurrence replaces the marks between the gaps, and nothing
else, exactly when the gaps are free of the mark.
-/
theorem replaceAll_joined_iff (apart : head ∉ tail)
    (starts : ∃ first behind, new = first :: behind ∧ first ≠ head)
    (gap : List Character) (gaps : List (List Character)) :
    replaceAll head tail new (joined (head :: tail) gap gaps) = joined new gap gaps ↔
      ∀ text ∈ gap :: gaps, ¬ head :: tail <:+: text := by
  induction gaps generalizing gap with
  | nil =>
    rw [joined, joined, flatMap_nil, replaceAll_gap_iff apart starts (by simp),
      forall_mem_singleton]
    exact and_iff_left rfl
  | cons next gaps ih =>
    have isJoined (mark : List Character) :
        joined mark gap (next :: gaps) = gap ++ (mark ++ joined mark next gaps) := by
      rw [joined, joined, flatMap_cons, append_assoc]
    rw [isJoined, isJoined, replaceAll_gap_iff apart starts (by simp),
      replaceAll_match, append_cancel_left_eq, ih]
    simp

end TextReplace
