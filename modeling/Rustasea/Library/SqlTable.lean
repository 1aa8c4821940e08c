import Mathlib.Data.List.Nodup
import Mathlib.Data.List.Lattice

/-!
# Relational tables with a nullable primary key

A table is the list of its rows in insertion order.  Rows whose key is not null
have distinct keys; the law is a field, so every statement below returns a
table that still obeys it.
-/

/-- The rows of one table; `key` reads the primary-key column. -/
structure SqlTable {Row Key : Type} (key : Row → Option Key) where
  rows : List Row
  primaryKey : (rows.filterMap key).Nodup

namespace SqlTable

open List

variable {Row Key : Type} {key : Row → Option Key}

instance : Membership Row (SqlTable key) where
  mem table row := row ∈ table.rows

variable {table : SqlTable key} {row : Row}

@[simp] theorem mem_rows : row ∈ table.rows ↔ row ∈ table :=
  Iff.rfl

instance
    [DecidableEq Row] (row : Row) (table : SqlTable key) : Decidable (row ∈ table) :=
  inferInstanceAs (Decidable (row ∈ table.rows))

def empty (key : Row → Option Key) : SqlTable key where
  rows := []
  primaryKey := by simp

@[simp] theorem not_mem_empty : row ∉ empty key := by
  intro member
  exact not_mem_nil member

theorem eq_of_key {first second : Row} {value : Key} (firstMember : first ∈ table)
    (secondMember : second ∈ table) (firstKey : key first = some value)
    (secondKey : key second = some value) : first = second := by
  obtain ⟨rows, primaryKey⟩ := table
  change first ∈ rows at firstMember
  change second ∈ rows at secondMember
  induction rows with
  | nil => simp at firstMember
  | cons head rest ih =>
    have restKeys : (rest.filterMap key).Nodup :=
      (((sublist_cons_self head rest).filterMap key).nodup primaryKey)
    have headFresh : ∀ {row : Row}, row ∈ rest → key row = some value → key head = some value →
        False := by
      intro row member rowKey headKey
      rw [filterMap_cons_some headKey, nodup_cons] at primaryKey
      exact primaryKey.1 (mem_filterMap.mpr ⟨row, member, rowKey⟩)
    rcases mem_cons.mp firstMember with firstHead | firstMember
    · rcases mem_cons.mp secondMember with secondHead | secondMember
      · exact firstHead.trans secondHead.symm
      · exact (headFresh secondMember secondKey (firstHead ▸ firstKey)).elim
    · rcases mem_cons.mp secondMember with secondHead | secondMember
      · exact (headFresh firstMember firstKey (secondHead ▸ secondKey)).elim
      · exact ih restKeys firstMember secondMember

/-! ## Statements -/

/-- `INSERT`: refused when a row already has the new row's key. -/
def insert? [DecidableEq Key] (table : SqlTable key) (row : Row) : Option (SqlTable key) :=
  if fresh :
      ∀ value ∈ key row, value ∉ table.rows.filterMap key then
    some
      { rows := table.rows ++ [row]
        primaryKey := by
          rw [filterMap_append]
          cases rowKey : key row with
          | none => simpa [rowKey] using table.primaryKey
          | some value =>
            have unseen := fresh value rowKey
            rw [filterMap_cons_some rowKey, filterMap_nil]
            refine nodup_append.mpr ⟨table.primaryKey, nodup_singleton value, ?_⟩
            intro seen seenMember other otherMember same
            rw [mem_singleton] at otherMember
            exact unseen (otherMember ▸ same ▸ seenMember) }
  else none

variable {row : Row}

theorem rows_of_insert? [DecidableEq Key] {table after : SqlTable key}
    (accepted : table.insert? row = some after) : after.rows = table.rows ++ [row] := by
  unfold insert? at accepted
  split at accepted
  · simp only [Option.some.injEq] at accepted
    exact accepted ▸ rfl
  · simp at accepted

theorem mem_of_insert? [DecidableEq Key] {table after : SqlTable key} {row other : Row}
    (accepted : table.insert? row = some after) : other ∈ after ↔ other ∈ table ∨ other = row := by
  rw [← mem_rows, rows_of_insert? accepted, mem_append, mem_singleton, mem_rows]

theorem exists_key_of_insert?_eq_none [DecidableEq Key] (refused : table.insert? row = none) :
    ∃ other ∈ table, ∃ value, key row = some value ∧ key other = some value := by
  unfold insert? at refused
  split at refused
  · cases refused
  · next notFresh =>
    rw [not_forall₂] at notFresh
    obtain ⟨value, isKey, isTaken⟩ := notFresh
    obtain ⟨other, isIn, otherKey⟩ := mem_filterMap.mp (not_not.mp isTaken)
    exact ⟨other, isIn, value, isKey, otherKey⟩

/-- `UPDATE … SET change WHERE chosen`; the key column is never assigned. -/
def update (table : SqlTable key) (chosen : Row → Bool) (change : Row → Row)
    (keepsKey : ∀ row, key (change row) = key row) : SqlTable key where
  rows :=
    table.rows.map fun row =>
      if chosen row then change row else row
  primaryKey := by
    have sameKeys : (key ∘ fun row => if chosen row then change row else row) = key := by
      funext row
      by_cases isChosen : chosen row <;> simp [isChosen, keepsKey]
    rw [filterMap_map, sameKeys]
    exact table.primaryKey

/-- The number of rows an `UPDATE` or `DELETE` touches. -/
def affected (table : SqlTable key) (chosen : Row → Bool) : Nat :=
  table.rows.countP chosen

theorem affected_pos {chosen : Row → Bool} :
    0 < table.affected chosen ↔ ∃ row ∈ table, chosen row = true :=
  countP_pos_iff

variable {chosen : Row → Bool}

theorem mem_update {change : Row → Row} {keepsKey : ∀ row, key (change row) = key row} :
    row ∈ table.update chosen change keepsKey ↔
      (row ∈ table ∧ ¬ chosen row = true) ∨
        ∃ before ∈ table, chosen before = true ∧ row = change before := by
  rw [← mem_rows]
  simp only [update, mem_map, mem_rows]
  constructor
  · rintro ⟨before, member, rfl⟩
    by_cases isChosen : chosen before = true
    · exact .inr ⟨before, member, isChosen, if_pos isChosen⟩
    · rw [if_neg isChosen]
      exact .inl ⟨member, isChosen⟩
  · rintro (⟨member, notChosen⟩ | ⟨before, member, isChosen, rfl⟩)
    · exact ⟨row, member, if_neg notChosen⟩
    · exact ⟨before, member, if_pos isChosen⟩

def delete (table : SqlTable key) (chosen : Row → Bool) : SqlTable key where
  rows := table.rows.filter fun row => !chosen row
  primaryKey := ((filter_sublist).filterMap key).nodup table.primaryKey

@[simp] theorem mem_delete : row ∈ table.delete chosen ↔ row ∈ table ∧ ¬ chosen row = true := by
  rw [← mem_rows]
  simp [delete]

end SqlTable
