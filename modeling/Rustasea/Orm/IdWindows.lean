import Rustasea.Library.DecimalText
import Rustasea.Orm.SchemaBlueprint

namespace Rustasea.Orm.IdWindows

open DecimalText (u64Max)

/-!
# Windows over the ids of a table

`chunk_by` splits the ids from 0 to a total into conditions
`column BETWEEN first AND last`, both ends included.  A window starts where the
one before it ends, so a total beyond the size of a window is never split into
windows without a common id.
-/

/-- The ids of one window, both ends included. -/
structure Window where
  first : Nat
  last : Nat

namespace Window

def contains (window : Window) (id : Nat) : Bool :=
  decide (window.first ≤ id) && decide (id ≤ window.last)

def text (column : String) (window : Window) : String :=
  column ++ " BETWEEN " ++ toString window.first ++ " AND " ++ toString window.last

end Window

/--
The loop of `chunk_by` from a start on, or nothing when `start + size` is no
`u64`.
-/
def windowsFrom (size total : Nat) (positive : 0 < size) (start : Nat) : Option (List Window) :=
  if start < total then
    if start + size ≤ u64Max then
      (windowsFrom size total positive (start + size)).map
        (({ first := start, last := min total (start + size) } : Window) :: ·)
    else none
  else some []
termination_by total - start

/--
Chunk the query results by `column` value ranges, or nothing when the
arithmetic overflows.
-/
def chunkBy (column : String) (size total : UInt64) : Option (Except OrmError (List String)) :=
  if positive : 0 < size.toNat then
    if Schema.isBlank column then some (.error (.invalidState "chunk_by column must not be empty"))
    else
      match windowsFrom size.toNat total.toNat positive 0 with
      | none => none
      | some [] => some (.ok [column ++ " BETWEEN 0 AND 0"])
      | some windows => some (.ok (windows.map (Window.text column)))
  else some (.error (.invalidState "chunk_by size must be greater than zero"))

/-! ## Covering a range -/

/--
The windows cover the ids from 0 to the total: each starts behind the one
before it, every id of the range lies in exactly one of them, and no other id
lies in any.
-/
structure Partitions (total : Nat) (windows : List Window) :
    Prop where
  contiguous : windows.IsChain fun window next => next.first = window.last + 1
  once : ∀ id, id ≤ total → (windows.filter fun window => window.contains id).length = 1
  within : ∀ window ∈ windows, window.last ≤ total

/-- The call returns the conditions of windows that cover the range. -/
def ReturnsPartition (column : String) (size total : UInt64) : Prop :=
  ∃ windows, chunkBy column size total = some (.ok (windows.map (Window.text column))) ∧
      Partitions total.toNat windows

theorem partitions_singleton (total : Nat) :
    Partitions total [{ first := 0, last := total }] where
  contiguous := List.IsChain.singleton _
  once := by
    intro id small
    have isIn : Window.contains { first := 0, last := total } id = true := by
      simp [Window.contains, small]
    rw [List.filter_cons, if_pos isIn]
    rfl
  within := by
    intro window isWindow
    rw [List.mem_singleton.mp isWindow]

theorem not_partitions_of_common {total id : Nat} {first second : Window} {rest : List Window}
    (small : id ≤ total) (inFirst : first.contains id = true)
    (inSecond : second.contains id = true) : ¬Partitions total (first :: second :: rest) := by
  intro isPartition
  have once := isPartition.once id small
  rw [List.filter_cons, if_pos inFirst, List.filter_cons, if_pos inSecond,
    List.length_cons, List.length_cons] at once
  omega

/-! ## What the loop emits -/

theorem windowsFrom_of_le {size total : Nat} (positive : 0 < size) (isSize : size ≤ u64Max)
    (small : total ≤ size) :
    windowsFrom size total positive 0 =
      if total = 0 then some [] else some [{ first := 0, last := total }] := by
  rw [windowsFrom]
  by_cases isEmpty : total = 0
  · rw [if_neg (by omega), if_pos isEmpty]
  · have stops : windowsFrom size total positive (0 + size) = some [] := by
      rw [windowsFrom, if_neg (by omega)]
    rw [if_pos (by omega), if_pos (by omega), if_neg isEmpty, stops,
      Nat.zero_add, Nat.min_eq_left small]
    rfl

theorem windowsFrom_of_lt {size total : Nat} (positive : 0 < size) (large : size < total)
    {windows : List Window} (emitted : windowsFrom size total positive 0 = some windows) :
    ∃ last rest, size ≤ last ∧
      windows = { first := 0, last := size } :: { first := size, last := last } :: rest := by
  rw [windowsFrom, if_pos (by omega)] at emitted
  split at emitted
  next fits =>
    obtain ⟨behind, later, rfl⟩ := Option.map_eq_some_iff.mp emitted
    rw [Nat.zero_add, windowsFrom, if_pos large] at later
    by_cases laterFits : size + size ≤ u64Max
    · rw [if_pos laterFits] at later
      obtain ⟨rest, -, rfl⟩ := Option.map_eq_some_iff.mp later
      refine ⟨min total (size + size), rest, by omega, ?_⟩
      rw [Nat.zero_add, Nat.min_eq_right (by omega)]
    · rw [if_neg laterFits] at later
      cases later
  next => cases emitted

/-! ## Reading a condition back -/

theorem Window.text_injective (column : String) : Function.Injective (Window.text column) := by
  intro window other same
  have characters := congrArg String.toList same
  simp only [Window.text, String.toList_append, List.append_assoc,
    List.append_cancel_left_eq] at characters
  have isAnd : " AND ".toList = ' ' :: "AND ".toList := rfl
  rw [isAnd, List.cons_append, List.cons_append] at characters
  obtain ⟨sameFirst, sameLast⟩ :=
    PercentEncoding.append_separator_inj (DecimalText.notMem_toString rfl _)
      (DecimalText.notMem_toString rfl _) characters
  rw [List.append_cancel_left_eq] at sameLast
  have first := DecimalText.toString_injective (String.toList_inj.mp sameFirst)
  have last := DecimalText.toString_injective (String.toList_inj.mp sameLast)
  cases window
  cases other
  cases first
  cases last
  rfl

/-! ## When the range is covered -/

variable {column : String} {size total : UInt64}

theorem returnsPartition_of_le
    (isColumn : Schema.isBlank column = false) (positive : 0 < size.toNat)
    (small : total.toNat ≤ size.toNat) : ReturnsPartition column size total := by
  have isSize : size.toNat ≤ u64Max := by
    have bound := size.toNat_lt
    unfold u64Max
    omega
  refine ⟨[{ first := 0, last := total.toNat }], ?_, partitions_singleton total.toNat⟩
  rw [chunkBy, dif_pos positive, if_neg (by rw [isColumn]; decide),
    windowsFrom_of_le positive isSize small]
  by_cases isEmpty : total.toNat = 0
  · have isText : column ++ " BETWEEN 0 AND 0" = Window.text column { first := 0, last := 0 } := by
      rw [Window.text, String.append_assoc, String.append_assoc, String.append_assoc]
      rfl
    rw [if_pos isEmpty, isEmpty, List.map_singleton, ← isText]
  · rw [if_neg isEmpty]

theorem le_of_returnsPartition
    (isColumn : Schema.isBlank column = false) (positive : 0 < size.toNat)
    (returned : ReturnsPartition column size total) : total.toNat ≤ size.toNat := by
  obtain ⟨windows, returned, isPartition⟩ := returned
  by_contra large
  rw [Nat.not_le] at large
  rw [chunkBy, dif_pos positive, isColumn] at returned
  cases emitted : windowsFrom size.toNat total.toNat positive 0 with
  | none =>
    rw [emitted] at returned
    cases returned
  | some found =>
    obtain ⟨last, rest, isLast, rfl⟩ := windowsFrom_of_lt positive large emitted
    rw [emitted] at returned
    have sameText := Except.ok.inj (Option.some.inj returned)
    have same := (Window.text_injective column).list_map sameText
    subst same
    have inFirst : Window.contains { first := 0, last := size.toNat } size.toNat = true := by
      simp [Window.contains]
    have inSecond : Window.contains { first := size.toNat, last := last } size.toNat = true := by
      simp [Window.contains, isLast]
    exact not_partitions_of_common (Nat.le_of_lt large) inFirst inSecond isPartition

/--
The conditions of `chunk_by` cover every id from 0 to the total exactly once
when, and only when, the total is within the size of a window.
-/
theorem returnsPartition_iff {column : String} {size total : UInt64}
    (isColumn : Schema.isBlank column = false) (positive : 0 < size.toNat) :
    ReturnsPartition column size total ↔ total.toNat ≤ size.toNat :=
  ⟨le_of_returnsPartition isColumn positive, returnsPartition_of_le isColumn positive⟩

theorem returnsPartition_iff_posts :
    Schema.isBlank "id" = false ∧ 0 < (500 : UInt64).toNat ∧
    (ReturnsPartition "id" 500 500 ↔ (500 : UInt64).toNat ≤ (500 : UInt64).toNat) :=
  ⟨by decide, by decide, returnsPartition_iff (by decide) (by decide)⟩

/-- Windows of 500 ids up to 10000 share the id 500. -/
theorem posts_share_an_id :
    Schema.isBlank "id" = false ∧ 0 < (500 : UInt64).toNat ∧ ¬ReturnsPartition "id" 500 10000 := by
  have isColumn : Schema.isBlank "id" = false := by decide
  have positive : 0 < (500 : UInt64).toNat := by decide
  refine ⟨isColumn, positive, fun returned => ?_⟩
  have small := le_of_returnsPartition isColumn positive returned
  exact absurd small (by decide)

end Rustasea.Orm.IdWindows
