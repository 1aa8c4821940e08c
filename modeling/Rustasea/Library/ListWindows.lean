import Mathlib.Data.List.Range

namespace ListWindows

/-!
# Windows of a list

A window is a number of items behind an offset.  Windows of one size that
follow each other cover the list, and a count of windows is the quotient by the
size, rounded up.
-/

variable {Item : Type*}

/-- As many items as `size` behind `offset`. -/
def window (offset size : Nat) (items : List Item) : List Item :=
  (items.drop offset).take size

theorem length_window (offset size : Nat) (items : List Item) :
    (window offset size items).length = min size (items.length - offset) := by
  rw [window, List.length_take, List.length_drop]

variable {items : List Item}

theorem window_eq_nil {offset size : Nat} (behind : items.length ≤ offset) :
    window offset size items = [] := by
  rw [window, List.drop_eq_nil_of_le behind, List.take_nil]

theorem flatMap_window (size count : Nat) (items : List Item) :
    ((List.range count).flatMap fun before => window (before * size) size items) =
      items.take (count * size) := by
  induction count with
  | zero =>
    rw [Nat.zero_mul]
    rfl
  | succ count ih =>
    rw [List.range_succ, List.flatMap_append, ih,
      List.flatMap_singleton, window, Nat.succ_mul, List.take_add]

/-! ## How many windows there are -/

def divCeil (number divisor : Nat) : Nat := number / divisor + if 0 < number % divisor then 1 else 0

theorem le_divCeil_mul {divisor : Nat} (positive : 0 < divisor) (number : Nat) :
    number ≤ divCeil number divisor * divisor := by
  have parts := Nat.div_add_mod number divisor
  have small := Nat.mod_lt number positive
  rw [divCeil, Nat.add_mul, Nat.mul_comm (number / divisor)]
  split <;> omega

variable {number divisor before : Nat}

theorem mul_lt_of_lt_divCeil (isBefore : before < divCeil number divisor) :
    before * divisor < number := by
  have parts := Nat.div_add_mod number divisor
  rw [divCeil] at isBefore
  split at isBefore
  next hasRest =>
    have most : before * divisor ≤ number / divisor * divisor :=
      Nat.mul_le_mul_right divisor (by omega)
    rw [Nat.mul_comm (number / divisor)] at most
    omega
  next =>
    have most : (before + 1) * divisor ≤ number / divisor * divisor :=
      Nat.mul_le_mul_right divisor (by omega)
    rcases Nat.eq_zero_or_pos divisor with isZero | positive
    · subst isZero
      omega
    · rw [Nat.mul_comm (number / divisor), Nat.add_mul] at most
      omega

theorem succ_mul_le_of_lt_divCeil (isBefore : before + 1 < divCeil number divisor) :
    (before + 1) * divisor ≤ number :=
  Nat.le_of_lt (mul_lt_of_lt_divCeil isBefore)

theorem divCeil_le {divisor : Nat} (number : Nat) : divCeil number divisor ≤ number := by
  by_contra large
  rw [Nat.not_le] at large
  rcases Nat.eq_zero_or_pos divisor with isZero | positive
  · subst isZero
    rw [divCeil] at large
    split at large <;> omega
  · have beyond := mul_lt_of_lt_divCeil large
    have grows := Nat.le_mul_of_pos_right number positive
    omega

theorem divCeil_eq_zero_iff {number divisor : Nat} (positive : 0 < divisor) :
    divCeil number divisor = 0 ↔ number = 0 := by
  constructor
  · intro isZero
    have covered := le_divCeil_mul positive number
    rw [isZero] at covered
    omega
  · rintro rfl
    rw [divCeil, Nat.zero_div]
    rfl

variable {size : Nat}

theorem flatMap_window_divCeil (positive : 0 < size) (items : List Item) :
    ((List.range (divCeil items.length size)).flatMap fun before =>
        window (before * size) size items) = items := by
  rw [flatMap_window]
  exact List.take_of_length_le (le_divCeil_mul positive items.length)

/-! ## Cutting a list into chunks -/

def chunks (size : Nat) (positive : 0 < size) : List Item → List (List Item)
  | [] => []
  | item :: rest => (item :: rest).take size :: chunks size positive ((item :: rest).drop size)
termination_by items => items.length
decreasing_by
  rw [List.length_drop, List.length_cons]
  omega

theorem chunks_of_ne_nil (positive : 0 < size) (isNonempty : items ≠ []) :
    chunks size positive items = items.take size :: chunks size positive (items.drop size) := by
  cases items with
  | nil => exact absurd rfl isNonempty
  | cons item rest => rw [chunks]

theorem flatten_chunks (positive : 0 < size) (items : List Item) :
    (chunks size positive items).flatten = items := by
  induction items using chunks.induct size positive with
  | case1 =>
    rw [chunks]
    rfl
  | case2 item rest ih => rw [chunks, List.flatten_cons, ih, List.take_append_drop]

end ListWindows
