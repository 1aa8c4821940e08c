import Mathlib.Data.List.Nodup
import Mathlib.Data.List.Range

/-!
# Counting parties in a list

Systems keep their parties in a list and replace one of them per step.  These
lemmas say what that does to a count and to a property of all parties.
-/

namespace Parties

open List

variable {Party : Type*} {parties : List Party} {index : Nat} {old : Party}

/-- One replacement takes the old party out of the count and puts the new one in. -/
theorem countP_set_add (present : parties[index]? = some old) (counts : Party → Bool)
    (new : Party) :
    (parties.set index new).countP counts + (if counts old then 1 else 0) =
      parties.countP counts + if counts new then 1 else 0 := by
  induction parties generalizing index with
  | nil => simp at present
  | cons head rest ih =>
    cases index with
    | zero =>
      simp only [getElem?_cons_zero, Option.some.injEq] at present
      subst present
      simp only [set_cons_zero, countP_cons]
      omega
    | succ index =>
      have rest := ih present
      simp only [set_cons_succ, countP_cons]
      omega

theorem forall_mem_set {new : Party} {holds : Party → Prop}
    (others : ∀ party ∈ parties, holds party) (newHolds : holds new) :
    ∀ party ∈ parties.set index new, holds party := by
  intro party member
  rcases mem_or_eq_of_mem_set member with old | isNew
  · exact others party old
  · exact isNew ▸ newHolds

theorem set_of_getElem? {party : Party} (present : parties[index]? = some party) :
    parties.set index party = parties := by
  obtain ⟨inRange, rfl⟩ := List.getElem?_eq_some_iff.mp present
  exact set_getElem_self inRange

theorem mem_set_self_of_getElem? (present : parties[index]? = some old) (new : Party) :
    new ∈ parties.set index new := by
  obtain ⟨inRange, _⟩ := List.getElem?_eq_some_iff.mp present
  exact mem_set inRange new

theorem mem_set_of_mem {old party : Party} (present : parties[index]? = some old)
    (member : party ∈ parties) (different : party ≠ old) (new : Party) :
    party ∈ parties.set index new := by
  induction parties generalizing index with
  | nil => simp at member
  | cons head rest ih =>
    cases index with
    | zero =>
      simp only [getElem?_cons_zero, Option.some.injEq] at present
      subst present
      rcases mem_cons.mp member with isHead | inRest
      · exact (different isHead).elim
      · exact mem_cons_of_mem new inRest
    | succ index =>
      rcases mem_cons.mp member with isHead | inRest
      · exact isHead ▸ mem_cons_self
      · exact mem_cons_of_mem head (ih present inRest)

/-- The numbers below a bound that a list leaves out are as many as the bound exceeds it. -/
theorem countP_not_mem_range {numbers : List Nat} {bound : Nat} (distinct : numbers.Nodup)
    (inRange : ∀ number ∈ numbers, number < bound) :
    (List.range bound).countP (fun number => number ∉ numbers) + numbers.length = bound := by
  have present :
      ((List.range bound).filter fun number =>
          decide (number ∈ numbers)).Perm
        numbers := by
    refine (List.perm_ext_iff_of_nodup (List.nodup_range.filter _) distinct).mpr ?_
    intro number
    simp only [List.mem_filter, List.mem_range, decide_eq_true_eq]
    exact ⟨fun both => both.2, fun member => ⟨inRange number member, member⟩⟩
  have counted : (List.range bound).countP (fun number => number ∈ numbers) = numbers.length := by
    rw [List.countP_eq_length_filter]
    exact present.length_eq
  have both :
      (List.range bound).length = (List.range bound).countP (fun number => number ∈ numbers) +
          (List.range bound).countP fun number => ¬ decide (number ∈ numbers) = true :=
    List.length_eq_countP_add_countP _
  simp only [decide_eq_true_eq, List.length_range] at both
  omega

end Parties
