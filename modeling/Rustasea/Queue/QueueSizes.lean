import Rustasea.Library.CalendarOrder
import Rustasea.Queue.DatabaseDriver

namespace Rustasea.Queue

open CalendarTime Option

/-!
# Counting the rows of a queue

The size queries and the claim compare the text of `available_at` with the text
of the clock.  The texts are those of `to_rfc3339_opts(SecondsFormat::Micros,
true)`, so that the counts are right where the texts are ordered as the times.
-/

variable {Text : Type}

/-! ## The queries -/

def JobRow.delayed (queue now : String) (row : JobRow Text) : Bool :=
  row.queue = queue && row.reservedAt.isNone && now < row.availableAt

def JobRow.reserved (queue : String) (row : JobRow Text) : Bool :=
  row.queue = queue && row.reservedAt.isSome

def pendingSize (queue now : String) (table : JobsTable Text) : Nat :=
  (table.rows.filter (JobRow.available queue now)).length

/-- Number of delayed (not reserved, `available_at > now`) jobs. -/
def delayedSize (queue now : String) (table : JobsTable Text) : Nat :=
  (table.rows.filter (JobRow.delayed queue now)).length

def reservedSize (queue : String) (table : JobsTable Text) : Nat :=
  (table.rows.filter (JobRow.reserved queue)).length

/-! ## Rows that the driver wrote -/

/-- A row whose `available_at` is the text of a time. -/
structure WrittenRow (Text : Type) where
  row : JobRow Text
  availableAt : CalendarTime
  isWritten : row.availableAt = availableAt.print 6

structure WrittenTable (Text : Type) where
  written : List (WrittenRow Text)
  table : JobsTable Text
  sameRows : table.rows = written.map WrittenRow.row

def onlyRow (row : JobRow Text) : JobsTable Text where
  rows := [row]
  primaryKey := by
    cases isId : row.id <;> simp [isId]

/--
The sizes are right at a clock: the texts of the rows and of the clock are
ordered as the times, the three sizes make up the rows of the queue, a row is
counted as pending when it is due and as delayed when it is not, and exactly the
pending rows are what a claim takes.
-/
structure SizesAgree (queue : String) (clock : CalendarTime) (rows : WrittenTable Text) :
    Prop where
  ordered : ∀ first ∈ rows.written, ∀ second ∈ rows.written,
      first.availableAt.OrderedAsTexts second.availableAt
  orderedToClock : ∀ row ∈ rows.written, row.availableAt.OrderedAsTexts clock
  together : pendingSize queue (clock.print 6) rows.table +
        delayedSize queue (clock.print 6) rows.table + reservedSize queue rows.table =
      (rows.table.rows.filter fun row => row.queue = queue).length
  pending : ∀ row ∈ rows.written, row.row.available queue (clock.print 6) = true ↔
        row.row.queue = queue ∧ row.row.reservedAt = none ∧ ¬clock.Precedes row.availableAt
  delayed : ∀ row ∈ rows.written, row.row.delayed queue (clock.print 6) = true ↔
        row.row.queue = queue ∧ row.row.reservedAt = none ∧ clock.Precedes row.availableAt
  eligible : ∀ row ∈ rows.table.rows, pendingSize queue (clock.print 6) (onlyRow row) = 1 ↔
        claimSelect queue (clock.print 6) (onlyRow row) = some row
  claimed : (∃ row, claimSelect queue (clock.print 6) rows.table = some row) ↔
      0 < pendingSize queue (clock.print 6) rows.table

/-! ## Counts and claims -/

variable (queue now : String)

theorem filter_length_partition (rows : List (JobRow Text)) :
    (rows.filter (JobRow.available queue now)).length +
      (rows.filter (JobRow.delayed queue now)).length +
      (rows.filter (JobRow.reserved queue)).length =
      (rows.filter fun row => row.queue = queue).length := by
  induction rows with
  | nil => rfl
  | cons row rest ih =>
    simp only [List.filter_cons, JobRow.available, JobRow.delayed,
      JobRow.reserved, Bool.and_eq_true, decide_eq_true_eq]
      at ih ⊢
    by_cases isQueue : row.queue = queue
    · cases row.reservedAt with
      | some reservedAt =>
        simp only [isQueue, isNone_some, isSome_some, Bool.false_eq_true, and_false,
          false_and, and_self, if_true, if_false, List.length_cons]
        omega
      | none =>
        by_cases isDue : row.availableAt ≤ now
        · have notLater : ¬now < row.availableAt := not_lt.mpr isDue
          simp only [isQueue, isDue, notLater, isNone_none, isSome_none,
            Bool.false_eq_true, and_false, and_self, if_true, if_false, List.length_cons]
          omega
        · have isLater : now < row.availableAt := not_le.mp isDue
          simp only [isQueue, isDue, isLater, isNone_none, isSome_none,
            Bool.false_eq_true, and_false, and_self, if_true, if_false, List.length_cons]
          omega
    · simp only [isQueue]
      exact ih

theorem claimSelect_isSome_iff (table : JobsTable Text) :
    (∃ row, claimSelect queue now table = some row) ↔ 0 < pendingSize queue now table := by
  rw [← isSome_iff_exists, isSome_iff_ne_none, claimSelect,
    Ne, List.argmin_eq_none, pendingSize, List.length_pos_iff]

theorem eligible_iff (row : JobRow Text) :
    pendingSize queue now (onlyRow row) = 1 ↔ claimSelect queue now (onlyRow row) = some row := by
  unfold pendingSize claimSelect onlyRow
  cases isAvailable : row.available queue now with
  | true => simp [isAvailable]
  | false => simp [isAvailable]

/-! ## When the sizes are right -/

theorem sizesAgree_of_comparable {queue : String} {clock : CalendarTime} {rows : WrittenTable Text}
    (comparable : ∀ first ∈ rows.written, ∀ second ∈ rows.written,
        first.availableAt.Comparable second.availableAt)
    (comparableToClock : ∀ row ∈ rows.written, row.availableAt.Comparable clock) :
    SizesAgree queue clock rows where
  ordered := fun first isFirst second isSecond =>
    (orderedAsTexts_iff _ _).mpr (comparable first isFirst second isSecond)
  orderedToClock := fun row isRow =>
    (orderedAsTexts_iff _ _).mpr (comparableToClock row isRow)
  together := filter_length_partition queue (clock.print 6) rows.table.rows
  pending := by
    intro row isRow
    have ordered := (orderedAsTexts_iff _ _).mpr (comparableToClock row isRow)
    rw [← ordered.2, JobRow.available, row.isWritten, not_lt]
    simp [and_assoc]
  delayed := by
    intro row isRow
    have ordered := (orderedAsTexts_iff _ _).mpr (comparableToClock row isRow)
    rw [← ordered.2, JobRow.delayed, row.isWritten]
    simp [and_assoc]
  eligible := fun row _ => eligible_iff queue (clock.print 6) row
  claimed := claimSelect_isSome_iff queue (clock.print 6) rows.table

/--
The sizes of a queue are right at a clock exactly when the times of its rows and
of the clock are comparable as texts: their years are in order as texts, and no
leap second inside a minute overtakes the next second.
-/
theorem sizesAgree_iff (queue : String) (clock : CalendarTime) (rows : WrittenTable Text) :
    SizesAgree queue clock rows ↔
      (∀ first ∈ rows.written, ∀ second ∈ rows.written,
        first.availableAt.Comparable second.availableAt) ∧
      ∀ row ∈ rows.written, row.availableAt.Comparable clock := by
  constructor
  · intro agree
    exact ⟨fun first isFirst second isSecond =>
        (orderedAsTexts_iff _ _).mp (agree.ordered first isFirst second isSecond),
      fun row isRow => (orderedAsTexts_iff _ _).mp (agree.orderedToClock row isRow)⟩
  · rintro ⟨comparable, comparableToClock⟩
    exact sizesAgree_of_comparable comparable comparableToClock

def noonOfMarch (year : Int) (yearBound : -262143 ≤ year ∧ year ≤ 262142) : CalendarTime where
  year := year
  month := 3
  day := 1
  hour := 12
  minute := 0
  second := 0
  nanosecond := 0
  yearBound := yearBound
  monthBound := by decide
  dayBound := by
    rw [show daysInMonth year 3 = 31 by simp [daysInMonth]]
    decide
  hourBound := by decide
  minuteBound := Nat.zero_lt_succ 59
  secondBound := Nat.zero_lt_succ 59
  nanosecondBound := by decide

def farRow : WrittenRow Unit where
  row :=
    { id := some "1"
      queue := "default"
      payload := none
      attempts := some 1
      reservedAt := none
      availableAt := "+10000-03-01T12:00:00.000000Z"
      createdAt := "2026-03-01T12:00:00.000000Z" }
  availableAt := noonOfMarch 10000 (by decide)
  isWritten := by decide +kernel

def farTable : WrittenTable Unit where
  written := [farRow]
  table := onlyRow farRow.row
  sameRows := rfl

/-- In 2026 the job of the year 10000 is counted as pending and claimed. -/
theorem far_job_is_pending :
    pendingSize "default"
          ((noonOfMarch 2026 (by decide)).print 6) farTable.table = 1 ∧ claimSelect "default"
          ((noonOfMarch 2026 (by decide)).print 6) farTable.table = some farRow.row ∧
      ¬SizesAgree "default" (noonOfMarch 2026 (by decide)) farTable := by
  have isAvailable :
      farRow.row.available "default" ((noonOfMarch 2026 (by decide)).print 6) = true := by
    decide +kernel
  have isPending :
      pendingSize "default" ((noonOfMarch 2026 (by decide)).print 6) farTable.table = 1 := by
    simp [pendingSize, farTable, onlyRow, isAvailable]
  refine ⟨isPending, (eligible_iff _ _ _).mp isPending, fun agree => ?_⟩
  have comparable := (orderedAsTexts_iff _ _).mp
    (agree.orderedToClock farRow (List.mem_singleton_self farRow))
  exact absurd comparable (by decide)

end Rustasea.Queue
