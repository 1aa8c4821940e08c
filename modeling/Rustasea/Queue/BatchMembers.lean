import Rustasea.Queue.BatchCompletion
import Rustasea.Queue.JobPartition

namespace Rustasea.Queue.Members

/-!
# A batch on the queue

The members of one batch are dispatched to the jobs table, workers finish them
and report the outcomes to the batch row, and operators push dead letters back.
The state is the workers' state next to the batch's state; which member a row
stands for is ghost state.
-/

variable {Json Text Ids : Type}

/-- The batch member a row stands for. -/
structure Member where
  index : Nat
  /-- The row was pushed by `retry_failed`. -/
  retried : Bool
  deriving DecidableEq

/-- Where an operator stands in `retry_failed`. -/
inductive Operator (Json : Type) where
  | idle
  /-- Before the `INSERT`: the dead letter, its job, and the new payload. -/
  | pushing (failedId : String) (dead : Option String) (payload : JobPayload Json)
  /-- Before the `DELETE` of the dead letter. -/
  | deleting (failedId : String)

/-- Workers, batch and operators, and the ghost members. -/
structure State (Json Text Ids : Type) where
  queue : Workers.State Json Text
  batch : Batch.State Ids
  operators : Nat → Operator Json
  member : String → Option Member
  dispatched : List Nat
  /-- The row whose end each report of the batch is about. -/
  reporters : List String

/-- A fresh batch of `total` members, none of them dispatched yet. -/
def State.initial (Json Text : Type) (codec : Codec (List String) Ids)
    (total : Nat) : State Json Text Ids where
  queue := Workers.State.initial Json Text
  batch := Batch.State.initial codec total
  operators := fun _ => .idle
  member := fun _ => none
  dispatched := []
  reporters := []

/-- One statement of one party. -/
inductive Action (Json : Type) where
  /-- The dispatcher pushes a member. -/
  | dispatch (index : Nat) (uuid : String) (now : Instant) (payload : JobPayload Json)
  /-- A worker's statement other than the last one, or a foreign push. -/
  | work (action : Workers.Action Json)
  /-- A worker's `ack`, and the start of its report. -/
  | finish (worker : Nat) (synthetic : String)
  /-- A statement of a report. -/
  | advance (report : Nat) (now : String)
  | cancel (now : String)
  | retrySelect (operator : Nat) (failedId : String)
  | retryInsert (operator : Nat) (uuid : String) (now : Instant)
  | retryDelete (operator : Nat)

/-- `record_batch`: what a finished payload reports, and to which batch. -/
def reportOf (batchId synthetic : String) (worker : Workers.WorkerState Json Text) :
    Option (Option String) :=
  match worker with
  | .running payload =>
    if payload.batchId = some batchId then some none else none
  | .buried payload =>
    if payload.batchId = some batchId then some (some (payload.id.getD synthetic))
    else none
  | _ => none

namespace State

def setOperator (state : State Json Text Ids) (operator : Nat)
    (next : Operator Json) : State Json Text Ids :=
  { state with operators := Function.update state.operators operator next }

end State

section Step

variable [DecidableEq Ids] (codec : Codec (JobPayload Json) Text)
  (idsCodec : Codec (List String) Ids) (rfc3339 : Instant → String)
  (parseTs : String → Option Instant) (jsonText : Text → Json) (batchId : String) (total : Nat)

/-- Execute one statement; `none` when it is not the party's next statement. -/
def step? (state : State Json Text Ids) : Action Json → Option (State Json Text Ids)
  | .dispatch index uuid now payload =>
    if index < total ∧ index ∉ state.dispatched ∧ payload.batchId = some batchId then
      (Workers.step? codec rfc3339 state.queue
        (.push uuid now payload)).map fun queue =>
          { state with
            queue := queue
            member := Function.update state.member uuid (some { index := index, retried := false })
            dispatched := index :: state.dispatched }
    else none
  | .work action =>
    match action with
    | .ack _ => none
    | .push uuid now payload =>
      if payload.batchId = some batchId then none
      else
        (Workers.step? codec rfc3339 state.queue
          (.push uuid now payload)).map fun queue =>
            { state with queue := queue }
    | action =>
      (Workers.step? codec rfc3339 state.queue action).map
        fun queue => { state with queue := queue }
  | .finish worker synthetic =>
    (Workers.step? codec rfc3339 state.queue (.ack worker)).map
      fun queue =>
        match reportOf batchId synthetic (state.queue.workers worker),
            (state.queue.workers worker).heldId with
        | some outcome, some id =>
          { state with
            queue := queue
            batch :=
              { state.batch with reports := state.batch.reports ++ [.start outcome] }
            reporters := state.reporters ++ [id] }
        | _, _ => { state with queue := queue }
  | .advance report now =>
    (Batch.step? idsCodec parseTs state.batch
      (.advance report now)).map fun batch =>
        { state with batch := batch }
  | .cancel now =>
    (Batch.step? idsCodec parseTs state.batch (.cancel now)).map
      fun batch => { state with batch := batch }
  | .retrySelect operator failedId =>
    match state.operators operator with
    | .idle =>
      match retrySelect failedId state.queue.failed with
      | none =>
        -- `QueueError::Empty`.
        some state
      | some row =>
        some (state.setOperator operator
            (.pushing failedId (Workers.deadJob codec row) (retryPayload codec jsonText row)))
    | _ => none
  | .retryInsert operator uuid now =>
    match state.operators operator with
    | .pushing failedId dead payload =>
      (Workers.step? codec rfc3339 state.queue
        (.push uuid now payload)).map fun queue =>
          { state.setOperator operator (.deleting failedId) with
            queue := queue
            member :=
              Function.update state.member uuid
                ((dead.bind state.member).map fun member =>
                  { member with retried := true }) }
    | _ => none
  | .retryDelete operator =>
    match state.operators operator with
    | .deleting failedId =>
      some
        { state.setOperator operator .idle with
          queue :=
            { state.queue with failed := deleteFailed failedId state.queue.failed } }
    | _ => none

end Step

/-- No worker finishes a payload that `retry_failed` pushed for the batch. -/
def FinishesNoRetried (state : State Json Text Ids) : Action Json → Prop
  | .finish worker _ =>
    ∀ id ∈ (state.queue.workers worker).heldId, ∀ member ∈ state.member id, member.retried = false
  | _ => True

instance (state : State Json Text Ids) (action : Action Json) :
    Decidable (FinishesNoRetried state action) :=
  match action with
  | .finish worker _ =>
    inferInstanceAs (Decidable
        (∀ id ∈ (state.queue.workers worker).heldId,
          ∀ member ∈ state.member id, member.retried = false))
  | .dispatch .. | .work _ | .advance .. | .cancel _ | .retrySelect ..
  | .retryInsert .. | .retryDelete _ => isTrue trivial

/--
The append that a report is about to try is not its last one, or finds the
stored ids as its `SELECT` read them.
-/
def FitsBudget (row : BatchRow Ids) (report : Batch.Report Ids) : Prop :=
  match report.phase with
  | .failureUpdate _ attempt _ priorText =>
    attempt + 1 = maxAppendRetries → row.failedJobIds = priorText
  | _ => True

instance [DecidableEq Ids] (row : BatchRow Ids) (report : Batch.Report Ids) :
    Decidable (FitsBudget row report) :=
  match report with
  | ⟨_, _, .failureUpdate _ attempt _ priorText⟩ =>
    inferInstanceAs (Decidable (attempt + 1 = maxAppendRetries → row.failedJobIds = priorText))
  | ⟨_, _, .failureSelect ..⟩ | ⟨_, _, .failureReselect _⟩ | ⟨_, _, .decrementUpdate⟩
  | ⟨_, _, .decrementFind⟩ | ⟨_, _, .settled ..⟩ | ⟨_, _, .finishUpdate⟩
  | ⟨_, _, .finishFind _⟩ | ⟨_, _, .completing _⟩ | ⟨_, _, .done⟩ | ⟨_, _, .gaveUp⟩ =>
    isTrue trivial

/-- No report spends the last of its append attempts in vain. -/
def AppendsInBudget (state : State Json Text Ids) : Action Json → Prop
  | .advance report _ =>
    ∀ entry ∈ state.batch.reports[report]?, FitsBudget state.batch.row entry
  | _ => True

instance [DecidableEq Ids] (state : State Json Text Ids) (action : Action Json) :
    Decidable (AppendsInBudget state action) :=
  match action with
  | .advance report _ =>
    inferInstanceAs (Decidable
        (∀ entry ∈ state.batch.reports[report]?, FitsBudget state.batch.row entry))
  | .dispatch .. | .work _ | .finish .. | .cancel _ | .retrySelect ..
  | .retryInsert .. | .retryDelete _ => isTrue trivial

/-- The condition on a statement under which every member is counted, and once. -/
def CountsOnce (state : State Json Text Ids) (action : Action Json) : Prop :=
  FinishesNoRetried state action ∧ AppendsInBudget state action

instance [DecidableEq Ids] (state : State Json Text Ids) (action : Action Json) :
    Decidable (CountsOnce state action) :=
  inferInstanceAs (Decidable (_ ∧ _))

/-! ## What the counter is compared with -/

/--
The member has its first terminal outcome: the row it was dispatched as was
deleted by an `ack`, or its dead letter is inserted and the `ack` follows.
-/
def HasOutcome (state : State Json Text Ids) (index : Nat) : Prop :=
  ∃ id, state.member id = some { index := index, retried := false } ∧
    ((∀ row ∈ state.queue.jobs, row.id ≠ some id) ∨ Workers.BeingBuried state.queue id)

/-- The members whose report took the counter down, once for each time it did. -/
def recordedMembers (state : State Json Text Ids) : List Nat :=
  (state.batch.reports.zip state.reporters).filterMap fun entry =>
    if entry.1.recorded then (state.member entry.2).map Member.index
    else none

/-- The report stands before its outcome `UPDATE`. -/
def beforeUpdate (report : Batch.Report Ids) : Bool :=
  match report.phase with
  | .failureSelect .. | .failureUpdate .. | .decrementUpdate => true
  | _ => false

/--
The outcome of the member is on its way to the batch row: its worker inserted
the dead letter and is about to ack, or its report stands before the `UPDATE`.
-/
def InFlight (state : State Json Text Ids) (index : Nat) : Prop :=
  ∃ id, state.member id = some { index := index, retried := false } ∧
    (Workers.BeingBuried state.queue id ∨
      ∃ entry ∈ state.batch.reports.zip state.reporters,
        entry.2 = id ∧ beforeUpdate entry.1 = true)

end Rustasea.Queue.Members
