import Rustasea.Queue.Job
import Rustasea.Library.Counting
import Rustasea.Library.TransitionSystem

namespace Rustasea.Queue

/-!
# The batch repository and its callbacks

The statements that `DatabaseBatchRepository` runs on one `job_batches` row,
the record it reads back, and the in-process callback set.  `Text` is the
stored `failed_job_ids` text and `parseTs` is `DateTime::parse_from_rfc3339`.
The columns no decision depends on (`id`, `name`, `options`, `created_at`) are
left out.
-/

variable {Text : Type}

structure BatchRow (Text : Type) where
  totalJobs : Int
  pendingJobs : Int
  failedJobs : Int
  failedJobIds : Text
  finishedAt : Option String
  cancelledAt : Option String
  deriving DecidableEq

/-- A row as `batch_from_row` decodes it. -/
structure BatchRecord where
  totalJobs : Int
  pendingJobs : Int
  failedJobs : Int
  failedJobIds : List String
  finishedAt : Option Instant
  cancelledAt : Option Instant
  deriving DecidableEq

def BatchRecord.isFinished (record : BatchRecord) : Bool := record.finishedAt.isSome

/-- `parse_ids`: a text that is no array of strings reads as empty. -/
def parseIds (codec : Codec (List String) Text) (text : Text) : List String :=
  match codec.decode text with
  | .ok ids => ids
  | .error _ => []

def batchFromRow (codec : Codec (List String) Text) (parseTs : String → Option Instant)
    (row : BatchRow Text) : BatchRecord where
  totalJobs := row.totalJobs
  pendingJobs := row.pendingJobs
  failedJobs := row.failedJobs
  failedJobIds := parseIds codec row.failedJobIds
  finishedAt := row.finishedAt.bind parseTs
  cancelledAt := row.cancelledAt.bind parseTs

/-! ## Statements -/

def createBatch (codec : Codec (List String) Text) (total : Nat) : BatchRow Text where
  totalJobs := total
  pendingJobs := total
  failedJobs := 0
  failedJobIds := codec.encode []
  finishedAt := none
  cancelledAt := none

def decrementUpdate (row : BatchRow Text) : Option (BatchRow Text) :=
  if 0 < row.pendingJobs then some { row with pendingJobs := row.pendingJobs - 1 }
  else none

/-- The guarded `UPDATE` of `record_failure`; `none` when it affects no row. -/
def failureUpdate [DecidableEq Text] (text priorText : Text)
    (row : BatchRow Text) : Option (BatchRow Text) :=
  if 0 < row.pendingJobs ∧ row.failedJobIds = priorText then
    some
      { row with
        pendingJobs := row.pendingJobs - 1
        failedJobs := row.failedJobs + 1
        failedJobIds := text }
  else none

def finishUpdate (now : String) (row : BatchRow Text) : Option (BatchRow Text) :=
  if row.finishedAt.isNone then some { row with finishedAt := some now }
  else none

/-- The `UPDATE` of `cancel`; it may affect no row. -/
def cancelUpdate (now : String) (row : BatchRow Text) : BatchRow Text :=
  if row.cancelledAt.isNone then { row with cancelledAt := some now }
  else row

def maxAppendRetries : Nat := 8

/-! ## Callbacks -/

/-- Which callbacks of a batch are registered and not yet taken. -/
structure CallbackSet where
  onThen : Bool
  onCatch : Bool
  onFinally : Bool
  deriving DecidableEq

inductive Callback where
  | onThen
  | onCatch
  | onFinally
  deriving DecidableEq

def fireCatch (callbacks : Option CallbackSet) : Option CallbackSet × List Callback :=
  match callbacks with
  | none => (none, [])
  | some set => (some { set with onCatch := false }, if set.onCatch then [.onCatch] else [])

/--
`fire_completion`: take the whole set, call `then` when nothing failed, then
call `finally`.
-/
def fireCompletion (record : BatchRecord) (callbacks : Option CallbackSet) :
    Option CallbackSet × List Callback :=
  match callbacks with
  | none => (none, [])
  | some set =>
    (none, (if record.failedJobs = 0 ∧ set.onThen then [.onThen] else []) ++
        if set.onFinally then [.onFinally] else [])

namespace Batch

/-!
## Interleaved batch outcomes

Any number of `record_batch_outcome` calls run against one batch row.  A step
is one SQL statement of one call, or the part of the call between two
statements that touches the callback set.  `cancel` may run at any time.
-/

variable {Text : Type}

/-- The next statement of one `record_batch_outcome` call. -/
inductive Phase (Text : Type) where
  | failureSelect (failedId : String) (attempt : Nat)
  | failureUpdate (failedId : String) (attempt : Nat) (ids : List String) (priorText : Text)
  | failureReselect (firstFailure : Bool)
  | decrementUpdate
  | decrementFind
  | settled (record : BatchRecord) (firstFailure : Bool)
  | finishUpdate
  | finishFind (claimed : Bool)
  | completing (record : BatchRecord)
  | done
  /-- The append was contended beyond the retry budget: the call returned `Err`. -/
  | gaveUp
  deriving DecidableEq

/--
One call: the outcome it reports, the ghost flag whether its outcome `UPDATE`
took effect, and the statement it is at.
-/
structure Report (Text : Type) where
  outcome : Option String
  recorded : Bool
  phase : Phase Text
  deriving DecidableEq

def Report.start (outcome : Option String) : Report Text where
  outcome := outcome
  recorded := false
  phase :=
    match outcome with
    | some failedId => .failureSelect failedId 0
    | none => .decrementUpdate

/-- The batch row, the callback set, the calls, and two ghost logs. -/
structure State (Text : Type) where
  row : BatchRow Text
  callbacks : Option CallbackSet
  reports : List (Report Text)
  fired : List Callback
  winners : Nat
  deriving DecidableEq

/-- A fresh batch with all three callbacks registered. -/
def State.initial (codec : Codec (List String) Text) (total : Nat) : State Text where
  row := createBatch codec total
  callbacks := some { onThen := true, onCatch := true, onFinally := true }
  reports := []
  fired := []
  winners := 0

/-- What one step of one call does. -/
structure Effect (Text : Type) where
  row : BatchRow Text
  callbacks : Option CallbackSet
  report : Report Text
  calls : List Callback
  wins : Nat

def Effect.move (row : BatchRow Text) (callbacks : Option CallbackSet) (report : Report Text)
    (phase : Phase Text) : Effect Text where
  row := row
  callbacks := callbacks
  report := { report with phase := phase }
  calls := []
  wins := 0

/-- The step that follows `fire_catch`: finish the batch or return. -/
def afterSettled (record : BatchRecord) : Phase Text :=
  if record.pendingJobs ≤ 0 ∧ record.isFinished = false then .finishUpdate
  else .done

def nextStatement [DecidableEq Text] (codec : Codec (List String) Text)
    (parseTs : String → Option Instant) (now : String) (row : BatchRow Text)
    (callbacks : Option CallbackSet) (report : Report Text) : Option (Effect Text) :=
  match report.phase with
  | .failureSelect failedId attempt =>
    if row.pendingJobs ≤ 0 then
      some (.move row callbacks report (.settled (batchFromRow codec parseTs row) false))
    else
      some (.move row callbacks report
          (.failureUpdate failedId attempt (parseIds codec row.failedJobIds) row.failedJobIds))
  | .failureUpdate failedId attempt ids priorText =>
    match failureUpdate (codec.encode (ids ++ [failedId])) priorText row
    with
    | some updated =>
      some
        { row := updated
          callbacks := callbacks
          report :=
            { report with recorded := true, phase := .failureReselect ids.isEmpty }
          calls := []
          wins := 0 }
    | none =>
      -- Another writer appended: re-read, unless the budget is spent.
      if attempt + 1 < maxAppendRetries then
        some (.move row callbacks report (.failureSelect failedId (attempt + 1)))
      else some (.move row callbacks report .gaveUp)
  | .failureReselect firstFailure =>
    some (.move row callbacks report (.settled (batchFromRow codec parseTs row) firstFailure))
  | .decrementUpdate =>
    match decrementUpdate row with
    | some updated =>
      some
        { row := updated
          callbacks := callbacks
          report :=
            { report with recorded := true, phase := .decrementFind }
          calls := []
          wins := 0 }
    | none => some (.move row callbacks report .decrementFind)
  | .decrementFind =>
    some (.move row callbacks report (.settled (batchFromRow codec parseTs row) false))
  | .settled record firstFailure =>
    some
      { row := row
        callbacks :=
          if firstFailure then (fireCatch callbacks).1 else callbacks
        report := { report with phase := afterSettled record }
        calls := if firstFailure then (fireCatch callbacks).2 else []
        wins := 0 }
  | .finishUpdate =>
    match finishUpdate now row with
    | some updated =>
      some
        { row := updated
          callbacks := callbacks
          report := { report with phase := .finishFind true }
          calls := []
          wins := 1 }
    | none => some (.move row callbacks report (.finishFind false))
  | .finishFind claimed =>
    if claimed then
      some (.move row callbacks report (.completing (batchFromRow codec parseTs row)))
    else some (.move row callbacks report .done)
  | .completing record =>
    some
      { row := row
        callbacks := (fireCompletion record callbacks).1
        report := { report with phase := .done }
        calls := (fireCompletion record callbacks).2
        wins := 0 }
  | .done | .gaveUp => none

/-- A new call, one statement of a call, or a `cancel`. -/
inductive Action where
  | report (outcome : Option String)
  | advance (index : Nat) (now : String)
  | cancel (now : String)

def step? [DecidableEq Text] (codec : Codec (List String) Text)
    (parseTs : String → Option Instant) (state : State Text) : Action → Option (State Text)
  | .report outcome => some { state with reports := state.reports ++ [.start outcome] }
  | .advance index now =>
    match state.reports[index]? with
    | none => none
    | some report =>
      (nextStatement codec parseTs now state.row state.callbacks
        report).map fun effect =>
          { row := effect.row
            callbacks := effect.callbacks
            reports := state.reports.set index effect.report
            fired := state.fired ++ effect.calls
            winners := state.winners + effect.wins }
  | .cancel now => some { state with row := cancelUpdate now state.row }

/-- Each of the `total` members is reported at most once. -/
def ReportsWithin (total : Nat) (state : State Text) : Action → Prop
  | .report _ => state.reports.length < total
  | _ => True

instance (total : Nat) (state : State Text) (action : Action) :
    Decidable (ReportsWithin total state action) :=
  match action with
  | .report _ => inferInstanceAs (Decidable (state.reports.length < total))
  | .advance .. | .cancel _ => isTrue trivial

end Batch

end Rustasea.Queue
