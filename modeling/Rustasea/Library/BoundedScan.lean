import Mathlib.Logic.Function.Iterate

/-!
# A bounded scan

From a position on, a probe is tried at so many positions, each the next one of
the one before; the first answer is the result.
-/

namespace BoundedScan

variable {Position Found : Type*} (probe : Position → Option Found) (next : Position → Position)

/-- The first answer of a probe among so many positions. -/
def first : (steps : Nat) → Position → Option Found
  | 0, _ => none
  | steps + 1, position =>
    match probe position with
    | some found => some found
    | none => first steps (next position)

variable {probe} {next} {steps : Nat} {position : Position}

theorem first_eq_some_iff {found : Found} :
    first probe next steps position = some found ↔
      ∃ index < steps, probe (next^[index] position) = some found ∧
          ∀ earlier < index, probe (next^[earlier] position) = none := by
  induction steps generalizing position with
  | zero => simp [first]
  | succ steps ih =>
    unfold first
    cases here : probe position with
    | some answer =>
      constructor
      · intro same
        exact ⟨0, Nat.succ_pos steps, here.trans same,
          fun earlier isEarlier => absurd isEarlier (Nat.not_lt_zero earlier)⟩
      · rintro ⟨index, -, isAnswer, none⟩
        cases index with
        | zero => exact here.symm.trans isAnswer
        | succ index =>
          have notHere := none 0 (Nat.succ_pos index)
          rw [Function.iterate_zero_apply, here] at notHere
          cases notHere
    | none =>
      rw [ih]
      constructor
      · rintro ⟨index, within, isAnswer, none⟩
        refine ⟨index + 1, Nat.succ_lt_succ within, isAnswer, ?_⟩
        intro earlier isEarlier
        cases earlier with
        | zero => exact here
        | succ earlier => exact none earlier (Nat.lt_of_succ_lt_succ isEarlier)
      · rintro ⟨index, within, isAnswer, none⟩
        cases index with
        | zero =>
          rw [Function.iterate_zero_apply, here] at isAnswer
          cases isAnswer
        | succ index =>
          exact ⟨index, Nat.lt_of_succ_lt_succ within, isAnswer,
            fun earlier isEarlier => none (earlier + 1) (Nat.succ_lt_succ isEarlier)⟩

theorem first_eq_none_iff {position : Position} :
    first probe next steps position = none ↔
      ∀ index < steps, probe (next^[index] position) = none := by
  induction steps generalizing position with
  | zero => simp [first]
  | succ steps ih =>
    unfold first
    cases here : probe position with
    | some answer =>
      refine iff_of_false (fun same => by cases same) fun none => ?_
      have notHere := none 0 (Nat.succ_pos steps)
      rw [Function.iterate_zero_apply, here] at notHere
      cases notHere
    | none =>
      rw [ih]
      constructor
      · intro none index within
        cases index with
        | zero => exact here
        | succ index => exact none index (Nat.lt_of_succ_lt_succ within)
      · exact fun none index within => none (index + 1) (Nat.succ_lt_succ within)

theorem first_congr {other : Position → Option Found}
    (agree : ∀ index < steps, probe (next^[index] position) = other (next^[index] position)) :
    first probe next steps position = first other next steps position := by
  induction steps generalizing position with
  | zero => rfl
  | succ steps ih =>
    have here : probe position = other position := agree 0 (Nat.succ_pos steps)
    unfold first
    rw [here]
    split
    · rfl
    · exact ih fun index within => agree (index + 1) (Nat.succ_lt_succ within)

end BoundedScan
