import Mathlib.Data.List.Perm.Basic
import Mathlib.Data.List.Sort

/-!
# The order of pairs

Pairs are ordered by their first halves, and by their second halves where the
first are the same.  Sorting by that order forgets the order the pairs came in.
-/

namespace PairOrder

variable {First Second : Type*} [LinearOrder First] [LinearOrder Second]

/-- The lexicographic comparison of two pairs. -/
def pairLe (first second : First × Second) : Bool :=
  first.1 < second.1 ∨ (first.1 = second.1 ∧ first.2 ≤ second.2)

theorem pairLe_iff {first second : First × Second} :
    pairLe first second = true ↔
      first.1 < second.1 ∨ (first.1 = second.1 ∧ first.2 ≤ second.2) := by
  simp [pairLe]

theorem pairLe_trans (first second third : First × Second) (below : pairLe first second = true)
    (above : pairLe second third = true) : pairLe first third = true := by
  rw [pairLe_iff] at below above ⊢
  rcases below with less | ⟨same, least⟩
  · rcases above with lessAgain | ⟨sameAgain, -⟩
    · exact .inl (less.trans lessAgain)
    · exact .inl (sameAgain ▸ less)
  · rcases above with lessAgain | ⟨sameAgain, leastAgain⟩
    · exact .inl (same ▸ lessAgain)
    · exact .inr ⟨same.trans sameAgain, least.trans leastAgain⟩

theorem pairLe_total (first second : First × Second) :
    (pairLe first second || pairLe second first) = true := by
  rw [Bool.or_eq_true, pairLe_iff, pairLe_iff]
  rcases lt_trichotomy first.1 second.1 with less | same | more
  · exact .inl (.inl less)
  · rcases le_total first.2 second.2 with least | most
    · exact .inl (.inr ⟨same, least⟩)
    · exact .inr (.inr ⟨same.symm, most⟩)
  · exact .inr (.inl more)

theorem pairLe_antisymm {first second : First × Second} (below : pairLe first second = true)
    (above : pairLe second first = true) : first = second := by
  rw [pairLe_iff] at below above
  rcases below with less | ⟨same, least⟩
  · rcases above with more | ⟨same, -⟩
    · exact absurd (less.trans more) (lt_irrefl _)
    · exact absurd less (same ▸ lt_irrefl _)
  · rcases above with more | ⟨-, most⟩
    · exact absurd more (same ▸ lt_irrefl _)
    · exact Prod.ext same (le_antisymm least most)

/-- Two lists of pairs are sorted into the same list when one is the other in another order. -/
theorem mergeSort_eq_iff_perm {pairs others : List (First × Second)} :
    pairs.mergeSort pairLe = others.mergeSort pairLe ↔ pairs.Perm others := by
  have isPerm := List.mergeSort_perm pairs pairLe
  have otherPerm := List.mergeSort_perm others pairLe
  constructor
  · intro same
    rw [same] at isPerm
    exact isPerm.symm.trans otherPerm
  · intro permuted
    apply List.Perm.eq_of_pairwise
    · intro first second _ _ below above
      exact pairLe_antisymm below above
    · exact List.pairwise_mergeSort pairLe_trans pairLe_total pairs
    · exact List.pairwise_mergeSort pairLe_trans pairLe_total others
    · exact isPerm.trans (permuted.trans otherPerm.symm)

end PairOrder
