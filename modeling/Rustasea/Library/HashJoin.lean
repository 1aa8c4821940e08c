import Mathlib.Data.List.Basic
import Mathlib.Tactic.Push

namespace HashJoin

open List

/-!
# Joining through a dictionary of texts

Rows are grouped under a key in one pass, and a probe reads the group of its own
key: the rows that a scan for the key finds, in their order.  A key of several
parts is joined by a separator; a tuple whose parts are free of the separator
has its joined key for itself among the tuples of its length.
-/

section Grouping

variable {Key Row : Type} [DecidableEq Key]

/-- A row is put behind those of its key, in a new group if there is none. -/
def push (key : Key) (row : Row) : List (Key × List Row) → List (Key × List Row)
  | [] => [(key, [row])]
  | (other, rows) :: rest =>
    if key = other then (other, rows ++ [row]) :: rest
    else (other, rows) :: push key row rest

def groupOf (grouped : List (Key × List Row)) (key : Key) : List Row :=
  (grouped.lookup key).getD []

def group (entries : List (Key × Row)) : List (Key × List Row) :=
  entries.foldl (fun grouped entry => push entry.1 entry.2 grouped) []

theorem groupOf_push (key probe : Key) (row : Row) (grouped : List (Key × List Row)) :
    groupOf (push key row grouped) probe =
      if probe = key then groupOf grouped probe ++ [row]
      else groupOf grouped probe := by
  induction grouped with
  | nil =>
    by_cases same : probe = key
    · simp [push, groupOf, same]
    · simp [push, groupOf, lookup_cons, beq_false_of_ne same, same]
  | cons entry rest ih =>
    obtain ⟨other, rows⟩ := entry
    unfold groupOf at ih ⊢
    by_cases sameOther : key = other
    · subst sameOther
      by_cases same : probe = key
      · simp [push, same]
      · simp [push, lookup_cons, beq_false_of_ne same, same]
    · rw [push, if_neg sameOther, lookup_cons, lookup_cons]
      by_cases isOther : probe = other
      · subst isOther
        simp [Ne.symm sameOther]
      · rw [beq_false_of_ne isOther]
        exact ih

theorem groupOf_foldl (entries : List (Key × Row)) (grouped : List (Key × List Row)) (probe : Key) :
    groupOf (entries.foldl (fun grouped entry => push entry.1 entry.2 grouped) grouped) probe =
      groupOf grouped probe ++
        (entries.filter fun entry => decide (entry.1 = probe)).map Prod.snd := by
  induction entries generalizing grouped with
  | nil => simp
  | cons entry rest ih =>
    rw [foldl_cons, ih, groupOf_push]
    by_cases same : entry.1 = probe
    · simp [same]
    · simp [same, Ne.symm same]

/-- A probe finds the rows that a scan for its key finds. -/
theorem groupOf_group (entries : List (Key × Row)) (probe : Key) :
    groupOf (group entries) probe =
      (entries.filter fun entry => decide (entry.1 = probe)).map Prod.snd := by
  rw [group, groupOf_foldl]
  rfl

end Grouping

section Joined

variable {Character : Type} [DecidableEq Character]

/-- Joining adds one separator between neighbours. -/
theorem count_intercalate (separator : Character) (first : List Character)
    (rest : List (List Character)) :
    ([separator].intercalate (first :: rest)).count separator =
      rest.length + (first :: rest).flatten.count separator := by
  induction rest generalizing first with
  | nil => simp
  | cons second rest ih =>
    have joined : [separator].intercalate (first :: second :: rest) =
        first ++ separator :: [separator].intercalate (second :: rest) := by
      simp
    have whole : (first :: second :: rest).flatten = first ++ (second :: rest).flatten :=
      flatten_cons
    rw [joined, whole, count_append, count_append,
      count_cons_self, ih, length_cons]
    omega

variable {separator : Character}

theorem count_flatten_eq_zero_iff {parts : List (List Character)} :
    parts.flatten.count separator = 0 ↔ ∀ part ∈ parts, separator ∉ part := by
  rw [count_eq_zero, mem_flatten]
  push Not
  rfl

/-- A tuple free of the separator is told from all of its length by the joined text. -/
theorem eq_of_intercalate_eq {parts others : List (List Character)}
    (free : ∀ part ∈ parts, separator ∉ part) (sameLength : others.length = parts.length)
    (same : [separator].intercalate others = [separator].intercalate parts) : others = parts := by
  cases parts with
  | nil => exact length_eq_zero_iff.mp sameLength
  | cons first rest =>
    cases others with
    | nil => cases sameLength
    | cons otherFirst otherRest =>
      have noOther : (otherFirst :: otherRest).flatten.count separator = 0 := by
        have counts := congrArg (List.count separator) same
        rw [count_intercalate, count_intercalate, count_flatten_eq_zero_iff.mpr free] at counts
        simp only [length_cons] at sameLength
        omega
      have otherFree := count_flatten_eq_zero_iff.mp noOther
      calc otherFirst :: otherRest
        = ([separator].intercalate (otherFirst :: otherRest)).splitOn
            separator :=
            (splitOn_intercalate separator otherFree (cons_ne_nil _ _)).symm
        _ = ([separator].intercalate (first :: rest)).splitOn separator := by
            rw [same]
        _ = first :: rest := splitOn_intercalate separator free (cons_ne_nil _ _)

end Joined

end HashJoin
