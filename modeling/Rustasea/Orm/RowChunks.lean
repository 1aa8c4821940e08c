import Mathlib.Data.List.TakeDrop
import Rustasea.Orm.QueryRows

namespace Rustasea.Orm.RowChunks

open QueryBuilder

/-!
# Rows in chunks

`chunk_by` runs a query in windows of one size and hands each to a callback.
It starts at the offset of the builder, and puts the size in the place of the
builder's limit.
-/

open DecimalText (u64Max)
open ListWindows (chunks window)

variable {Json Record Row : Type}

/-- How a call ends, with the chunks that the callback was given. -/
inductive Outcome (Row : Type) where
  | done (processed : Nat) (delivered : List (List Row))
  | failed (error : QueryError) (delivered : List (List Row))
  | overflowed
  | running

/--
What a callback makes of a chunk.  It may depend on the chunks that it was given
before.
-/
abbrev Callback (Row : Type) := List (List Row) → List Row → Except QueryError Unit

/-- The loop of `chunk_by`, for a number of turns. -/
def chunkLoop (backend : Backend Json) (database : QueryDatabase Json Record Row)
    (resolved : QueryBuilder Json) (size : Nat) (callback : Callback Row) :
    Nat → Nat → Nat → List (List Row) → Outcome Row
  | 0, _, _, _ => .running
  | turns + 1, offset, processed, delivered =>
    match (resolved.withWindow (some size) (some offset)).fetchResolved backend database with
    | .error failure => .failed failure delivered
    | .ok rows =>
      if rows.length = 0 then .done processed delivered
      else
        match callback delivered rows with
        | .error failure => .failed failure (delivered ++ [rows])
        | .ok () =>
          if u64Max < processed + rows.length then .overflowed
          else if rows.length < size then .done (processed + rows.length) (delivered ++ [rows])
          else if u64Max < offset + size then .overflowed
          else
            chunkLoop backend database resolved size callback turns
              (offset + size) (processed + rows.length)
              (delivered ++ [rows])

/-- Execute the query in `size`-row windows, invoking `callback` per window. -/
def chunkBy (backend : Backend Json) (database : QueryDatabase Json Record Row)
    (builder : QueryBuilder Json) (size : UInt64) (callback : Callback Row)
    (turns : Nat) : Outcome Row :=
  if size.toNat = 0 then .failed (.orm (.invalidState "chunk_by size must be greater than zero")) []
  else
    match builder.resolved backend with
    | .error failure => .failed (.orm failure) []
    | .ok resolved =>
      chunkLoop backend database resolved size.toNat callback turns (resolved.offset.getD 0) 0 []

/--
The call ends, whatever the number of turns it has from some number on, and the
chunks that were delivered are the rows, in order.
-/
def Delivers (rows : List Row) (call : Nat → Outcome Row) : Prop :=
  ∃ (enough : Nat) (delivered : List (List Row)),
    delivered.flatten = rows ∧ ∀ turns, enough ≤ turns → call turns = .done rows.length delivered

/-! ## What the loop delivers -/

variable {backend : Backend Json} {database : QueryDatabase Json Record Row} {rows : List Row}
  {callback : Callback Row}

/--
From an offset on the loop delivers the rows behind it in chunks.  By induction
on the turns: a full chunk leaves fewer rows behind the next offset.
-/
theorem chunkLoop_eq {resolved : QueryBuilder Json} {size : Nat} (positive : 0 < size)
    (fetched : resolved.fetchResolved backend database = .ok rows)
    (accepts : ∀ delivered chunk, callback delivered chunk = .ok ()) {turns offset processed : Nat}
    (taken : database.takes size offset = true)
    (enough : (database.selection resolved).length - offset < turns)
    (isProcessed : processed ≤ offset) (delivered : List (List Row)) :
    chunkLoop backend database resolved size callback turns offset processed delivered = .done
      (processed + ((database.selection resolved).length - offset))
      (delivered ++ chunks size positive ((database.selection resolved).drop offset)) := by
  have countable := database.countable resolved
  have takesI64 := database.takesI64
  induction turns generalizing offset processed delivered with
  | zero => exact absurd enough (Nat.not_lt_zero _)
  | succ turns ih =>
    have isWindow := fetchResolved_withWindow fetched size offset
    have isLength := ListWindows.length_window offset size (database.selection resolved)
    rw [if_pos taken] at isWindow
    rw [chunkLoop, isWindow]
    simp only [accepts, isLength]
    by_cases isBehind : (database.selection resolved).length ≤ offset
    · have nothing : (database.selection resolved).length - offset = 0 := by omega
      rw [nothing, Nat.min_zero, if_pos rfl, List.drop_eq_nil_of_le isBehind, chunks,
        List.append_nil, Nat.add_zero]
    · have someRows : (database.selection resolved).drop offset ≠ [] := by
        rw [Ne, List.drop_eq_nil_iff]
        exact isBehind
      have isFirst := ListWindows.chunks_of_ne_nil positive someRows
      rw [List.drop_drop] at isFirst
      rw [if_neg (by omega), if_neg (by unfold u64Max; omega), isFirst]
      by_cases isShort : (database.selection resolved).length - offset < size
      · have isLast : (database.selection resolved).drop (offset + size) = [] :=
          List.drop_eq_nil_of_le (by omega)
        rw [if_pos (by omega), Nat.min_eq_right (by omega), isLast, chunks]
        rfl
      · have takenNext : database.takes size (offset + size) = true := by
          simp only [QueryDatabase.takes, decide_eq_true_eq] at taken ⊢
          omega
        rw [if_neg (by omega), if_neg (by unfold u64Max; omega), ih takenNext (by omega) (by omega),
          List.append_assoc]
        congr 1
        omega

variable {builder resolved : QueryBuilder Json} {size : UInt64}

theorem chunkBy_eq (positive : 0 < size.toNat) (inRange : size.toNat ≤ database.greatestNumber)
    (isResolved : builder.resolved backend = .ok resolved)
    (isResult : builder.get backend database = .ok rows)
    (accepts : ∀ delivered chunk, callback delivered chunk = .ok ())
    {turns : Nat} (enough : (database.selection resolved).length < turns) :
    chunkBy backend database builder size callback turns = .done
        ((database.selection resolved).length - resolved.offset.getD 0) (chunks size.toNat positive
          ((database.selection resolved).drop (resolved.offset.getD 0))) := by
  have fetched : resolved.fetchResolved backend database = .ok rows := by
    rw [← get_of_resolved isResolved]
    exact isResult
  have taken : database.takes size.toNat (resolved.offset.getD 0) = true := by
    have windowTaken := (of_fetchResolved fetched).2
    simp only [QueryDatabase.takes, decide_eq_true_eq] at windowTaken ⊢
    exact ⟨inRange, windowTaken.2⟩
  rw [chunkBy, if_neg (Nat.ne_of_gt positive), isResolved]
  simp only
  rw [chunkLoop_eq positive fetched accepts taken (by omega) (Nat.zero_le _),
    Nat.zero_add, List.nil_append]

/-- A size that the database refuses ends the call before any chunk. -/
theorem chunkBy_refused (positive : 0 < size.toNat)
    (refused : ¬size.toNat ≤ database.greatestNumber)
    (isResolved : builder.resolved backend = .ok resolved)
    (isResult : builder.get backend database = .ok rows) (turns : Nat) :
    chunkBy backend database builder size callback (turns + 1) =
      .failed (.storage "number out of range") [] := by
  have fetched : resolved.fetchResolved backend database = .ok rows := by
    rw [← get_of_resolved isResolved]
    exact isResult
  have isWindow := fetchResolved_withWindow fetched size.toNat (resolved.offset.getD 0)
  have notTaken : ¬database.takes size.toNat (resolved.offset.getD 0) = true := by
    simp only [QueryDatabase.takes, decide_eq_true_eq]
    exact fun taken => refused taken.1
  rw [if_neg notTaken] at isWindow
  rw [chunkBy, if_neg (Nat.ne_of_gt positive), isResolved]
  simp only
  rw [chunkLoop, isWindow]

theorem limitOffset_eq_drop_iff {limit offset : Option Nat} {rows : List Row} :
    limitOffset limit offset rows = rows.drop (offset.getD 0) ↔
      ∀ count, limit = some count → rows.length - offset.getD 0 ≤ count := by
  cases limit with
  | none => simp [limitOffset]
  | some count =>
    rw [limitOffset, window, List.take_eq_self_iff]
    simp

theorem delivers_iff_eq_drop (positive : 0 < size.toNat)
    (inRange : size.toNat ≤ database.greatestNumber)
    (isResolved : builder.resolved backend = .ok resolved)
    (isResult : builder.get backend database = .ok rows)
    (accepts : ∀ delivered chunk, callback delivered chunk = .ok ()) :
    Delivers rows (chunkBy backend database builder size callback) ↔
      rows = (database.selection resolved).drop (resolved.offset.getD 0) := by
  have called
      {turns : Nat}
      (enough : (database.selection resolved).length < turns) :=
    chunkBy_eq positive inRange isResolved isResult accepts enough
  constructor
  · rintro ⟨enough, delivered, isFlat, ends⟩
    have ended := ends (max enough ((database.selection resolved).length + 1)) (Nat.le_max_left _ _)
    rw [called (Nat.lt_of_lt_of_le (Nat.lt_succ_self _) (Nat.le_max_right _ _))] at ended
    have same := (Outcome.done.inj ended).2
    rw [← isFlat, ← same, ListWindows.flatten_chunks]
  · intro isRows
    refine ⟨(database.selection resolved).length + 1, _,
      (ListWindows.flatten_chunks positive _).trans isRows.symm,
      fun turns enough => ?_⟩
    rw [called enough, isRows, List.length_drop]

/-- The limit of a builder leaves out none of the rows behind its offset. -/
def KeepsAll (database : QueryDatabase Json Record Row) (builder : QueryBuilder Json) : Prop :=
  ∀ limit, builder.limit = some limit →
    (database.selection builder).length - builder.offset.getD 0 ≤ limit

theorem eq_drop_iff_keepsAll (isResolved : builder.resolved backend = .ok resolved)
    (isResult : builder.get backend database = .ok rows) :
    rows = (database.selection resolved).drop (resolved.offset.getD 0) ↔
      KeepsAll database resolved := by
  rw [get_of_resolved isResolved] at isResult
  rw [KeepsAll, ← limitOffset_eq_drop_iff, ← (of_fetchResolved isResult).1]

end Rustasea.Orm.RowChunks
