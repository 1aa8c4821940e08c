import Mathlib.Algebra.Group.Nat.Defs
import Mathlib.Order.Lattice
import Mathlib.Tactic.Tauto

namespace Timestamp

/-!
# Fixed-width timestamps

The RFC 3339 text of an instant with six digits of microseconds.  Every field
has a fixed width, so that comparing the texts character by character compares
the instants.
-/

/-! ## Texts of equal width -/

theorem append_lt_append_iff {first second : List Char}
    (sameLength : first.length = second.length) (firstRest secondRest : List Char) :
    first ++ firstRest < second ++ secondRest ↔
      first < second ∨ first = second ∧ firstRest < secondRest := by
  induction first generalizing second with
  | nil =>
    have isNil : second = [] := List.eq_nil_of_length_eq_zero sameLength.symm
    subst isNil
    simp
  | cons head tail ih =>
    cases second with
    | nil => cases sameLength
    | cons other rest =>
      have sameRest : tail.length = rest.length := Nat.succ.inj sameLength
      rw [List.cons_append, List.cons_append, List.cons_lt_cons_iff, List.cons_lt_cons_iff,
        ih sameRest, List.cons.injEq]
      tauto

theorem separated_lt_iff (separator : Char) (first second : List Char) :
    separator :: first < separator :: second ↔ first < second := by
  simp

/-! ## Decimal fields -/

def digitChar (digit : Nat) : Char := Char.ofNat (48 + digit)

/-- The last decimal digits of a number, as many as the width. -/
def field : Nat → Nat → List Char
  | 0, _ => []
  | width + 1, number => field width (number / 10) ++ [digitChar (number % 10)]

@[simp] theorem length_field (width number : Nat) : (field width number).length = width := by
  induction width generalizing number with
  | zero => rfl
  | succ width ih =>
    rw [field, List.length_append, ih]
    rfl

private theorem digitChar_order :
    ∀ first second : Fin 10, (digitChar first < digitChar second ↔ first < second) ∧
      (digitChar first = digitChar second ↔ first = second) := by
  decide

theorem digitChar_lt_iff {first second : Nat} (firstBound : first < 10)
    (secondBound : second < 10) : digitChar first < digitChar second ↔ first < second :=
  (digitChar_order ⟨first, firstBound⟩ ⟨second, secondBound⟩).1

theorem digitChar_inj {first second : Nat} (firstBound : first < 10)
    (secondBound : second < 10) : digitChar first = digitChar second ↔ first = second :=
  (digitChar_order ⟨first, firstBound⟩ ⟨second, secondBound⟩).2.trans Fin.mk.inj_iff

variable {width first second : Nat}

theorem field_inj (firstBound : first < 10 ^ width) (secondBound : second < 10 ^ width) :
    field width first = field width second ↔ first = second := by
  induction width generalizing first second with
  | zero =>
    exact iff_of_true rfl (by omega)
  | succ width ih =>
    rw [Nat.pow_succ] at firstBound secondBound
    have fronts := ih (Nat.div_lt_of_lt_mul (Nat.mul_comm _ 10 ▸ firstBound))
      (Nat.div_lt_of_lt_mul (Nat.mul_comm _ 10 ▸ secondBound))
    have lasts := digitChar_inj (Nat.mod_lt first (Nat.succ_pos 9))
      (Nat.mod_lt second (Nat.succ_pos 9))
    have sameLength : (field width (first / 10)).length = (field width (second / 10)).length := by
      rw [length_field, length_field]
    constructor
    · intro same
      obtain ⟨sameFront, sameLast⟩ := List.append_inj same sameLength
      have quotient := fronts.mp sameFront
      have remainder := lasts.mp (List.cons.inj sameLast).1
      omega
    · rintro rfl
      rfl

theorem field_lt_iff (firstBound : first < 10 ^ width) (secondBound : second < 10 ^ width) :
    field width first < field width second ↔ first < second := by
  induction width generalizing first second with
  | zero =>
    exact iff_of_false (List.not_lt_nil _) (by omega)
  | succ width ih =>
    have firstFront : first / 10 < 10 ^ width :=
      Nat.div_lt_of_lt_mul (Nat.mul_comm _ 10 ▸ firstBound)
    have secondFront : second / 10 < 10 ^ width :=
      Nat.div_lt_of_lt_mul (Nat.mul_comm _ 10 ▸ secondBound)
    have sameLength : (field width (first / 10)).length = (field width (second / 10)).length := by
      rw [length_field, length_field]
    have lasts : [digitChar (first % 10)] < [digitChar (second % 10)] ↔
        first % 10 < second % 10 := by
      rw [List.cons_lt_cons_iff,
        digitChar_lt_iff (Nat.mod_lt first (Nat.succ_pos 9)) (Nat.mod_lt second (Nat.succ_pos 9))]
      simp
    rw [field, field, append_lt_append_iff sameLength, ih firstFront secondFront,
      field_inj firstFront secondFront, lasts]
    omega

theorem field_append_lt_iff (firstBound : first < 10 ^ width) (secondBound : second < 10 ^ width)
    (firstRest secondRest : List Char) :
    field width first ++ firstRest < field width second ++ secondRest ↔
      first < second ∨ first = second ∧ firstRest < secondRest := by
  have sameLength : (field width first).length = (field width second).length := by
    rw [length_field, length_field]
  rw [append_lt_append_iff sameLength, field_lt_iff firstBound secondBound,
    field_inj firstBound secondBound]

/-! ## Instants -/

/-- An instant of the years 0 to 9999, in UTC, to the microsecond. -/
@[ext]
structure Instant where
  year : Nat
  month : Nat
  day : Nat
  hour : Nat
  minute : Nat
  second : Nat
  microsecond : Nat
  yearBound : year < 10000
  monthBound : month ≤ 12
  dayBound : day ≤ 31
  hourBound : hour < 24
  minuteBound : minute < 60
  secondBound : second ≤ 60
  microsecondBound : microsecond < 1000000
  deriving DecidableEq

namespace Instant

def rank (instant : Instant) : Nat :=
  ((((((instant.year * 100 + instant.month) * 100 + instant.day) * 100 +
    instant.hour) * 100 + instant.minute) * 100 + instant.second) * 1000000 + instant.microsecond)

theorem rank_injective : Function.Injective rank := by
  intro first second same
  obtain ⟨_, _, _, _, _, _, _, _, _, _, _, _, _, _⟩ := first
  obtain ⟨_, _, _, _, _, _, _, _, _, _, _, _, _, _⟩ := second
  simp only [rank] at same
  simp only [mk.injEq]
  omega

instance : LinearOrder Instant := LinearOrder.lift' rank rank_injective

variable (first second : Instant)

theorem lt_iff_rank : first < second ↔ first.rank < second.rank :=
  Iff.rfl

/-- The characters of `YYYY-MM-DDTHH:MM:SS.ffffffZ`. -/
def characters (instant : Instant) : List Char :=
  field 4 instant.year ++ '-' :: (field 2 instant.month ++ '-' ::
    (field 2 instant.day ++ 'T' :: (field 2 instant.hour ++ ':' ::
      (field 2 instant.minute ++ ':' :: (field 2 instant.second ++ '.' ::
        (field 6 instant.microsecond ++ ['Z']))))))

def print (instant : Instant) : String := String.ofList instant.characters

theorem print_lt_print_iff : first.print < second.print ↔ first < second := by
  have two {number bound : Nat} (below : number ≤ bound)
      (small : bound < 100) : number < 10 ^ 2 :=
    Nat.lt_of_le_of_lt below small
  rw [String.lt_iff, print, print, String.toList_ofList,
    String.toList_ofList, characters, characters,
    field_append_lt_iff first.yearBound second.yearBound, separated_lt_iff,
    field_append_lt_iff (two first.monthBound (by decide))
      (two second.monthBound (by decide)), separated_lt_iff,
    field_append_lt_iff (two first.dayBound (by decide))
      (two second.dayBound (by decide)), separated_lt_iff,
    field_append_lt_iff (two first.hourBound.le (by decide))
      (two second.hourBound.le (by decide)), separated_lt_iff,
    field_append_lt_iff (two first.minuteBound.le (by decide))
      (two second.minuteBound.le (by decide)), separated_lt_iff,
    field_append_lt_iff (two first.secondBound (by decide))
      (two second.secondBound (by decide)), separated_lt_iff,
    field_append_lt_iff first.microsecondBound second.microsecondBound,
    lt_iff_rank, rank, rank]
  have noLater : ¬['Z'] < ['Z'] := by decide
  have := first.monthBound
  have := second.monthBound
  have := first.dayBound
  have := second.dayBound
  have := first.hourBound
  have := second.hourBound
  have := first.minuteBound
  have := second.minuteBound
  have := first.secondBound
  have := second.secondBound
  have := first.microsecondBound
  have := second.microsecondBound
  simp only [noLater, and_false, or_false]
  omega

theorem print_le_print_iff : first.print ≤ second.print ↔ first ≤ second := by
  have asLess : first.print ≤ second.print ↔ ¬second.print < first.print := Iff.rfl
  rw [asLess, print_lt_print_iff, not_lt]

end Instant

end Timestamp
