import Rustasea.Library.TransitionSystem
import Rustasea.Orm.Mutations

namespace Rustasea.Orm.ActivityBatches

open List

open EffectProgram (Handler Program)
open Rustasea.Orm.Mutations
open TransitionSystem (exists_of_run?_cons run? runAlong?)

/-!
# The batch of an activity event

The batch id is one slot of the process.  A `BatchScope` sets it when it is
opened and empties it when it is dropped, and every event takes what the slot
holds when it is recorded.  Tasks open and close scopes and record events in any
order; the deletes and the restores of a cascading model open one themselves.
-/

/-! ## The slot -/

/-- An event as it was recorded, by a task with these open scopes. -/
structure Recorded (Task : Type) where
  task : Task
  event : ActivityEvent
  batchUuid : Option String
  scopes : List String

/-- The slot, the open scopes of each task, innermost first, and the events. -/
structure Activity (Task : Type) where
  batch : Option String
  scopes : Task → List String
  recorded : List (Recorded Task)

def Activity.initial {Task : Type} : Activity Task where
  batch := none
  scopes _ := []
  recorded := []

/-- What a task does next. -/
inductive Action (Task : Type) where
  | openScope (task : Task) (batchUuid : String)
  | closeScope (task : Task)
  | request (task : Task) (asked : Request)

section Steps

variable {Task : Type} [DecidableEq Task]

def openBatchScope (activity : Activity Task) (task : Task) (batchUuid : String) : Activity Task :=
  {
    activity with
    batch := some batchUuid
    scopes := Function.update activity.scopes task (batchUuid :: activity.scopes task)
  }

def dropBatchScope (activity : Activity Task) (task : Task) (outer : List String) : Activity Task :=
  {
    activity with
    batch := none
    scopes := Function.update activity.scopes task outer
  }

/-- Assemble an event with the batch id of the slot and hand it over. -/
def record (activity : Activity Task) (task : Task) (event : ActivityEvent) : Activity Task :=
  {
    activity with
    recorded := activity.recorded ++ [⟨task, event, activity.batch, activity.scopes task⟩]
  }

/-- One step of one task; only a task with an open scope can close one. -/
def step? (activity : Activity Task) : Action Task → Option (Activity Task)
  | .openScope task batchUuid => some (openBatchScope activity task batchUuid)
  | .closeScope task =>
    match activity.scopes task with
    | [] => none
    | _ :: outer => some (dropBatchScope activity task outer)
  | .request task (.record event) => some (record activity task event)
  | .request _ _ => some activity

/-! ## The scopes of a cascade -/

/-- The requests that a program makes, up to the one that fails. -/
def requests {State Result : Type} (handle : Handler Request Reply MutationError State) :
    Mutations.Call Result → State → List Request
  | .done _, _ => []
  | .request asked next, state =>
    asked ::
      match handle asked state with
      | (after, .ok reply) => requests handle (next reply) after
      | (_, .error _) => []

def Request.recorded? : Request → Option ActivityEvent
  | .record event => some event
  | _ => none

/-- The events of the parent and of the children, in the order of their requests. -/
def recordedEvents {State Result : Type} (handle : Handler Request Reply MutationError State)
    (call : Mutations.Call Result) (state : State) : List ActivityEvent :=
  (requests handle call state).filterMap Request.recorded?

def mutationOf (recorderInstalled : Bool) (model : Model) (key : List (Value Json)) :
    CascadeMode → Mutation model Bool
  | .softDelete => softDeleteByKey recorderInstalled model key
  | .restore => restoreByKey recorderInstalled model key
  | .forceDelete => forceDeleteByKey recorderInstalled model key

/--
What a task does in a delete or a restore: once the key is resolved, a model
that cascades opens a scope of its own, which is dropped however the call ends.
-/
def mutationActions {State : Type} (handle : Handler Request Reply MutationError State)
    (recorderInstalled : Bool) (model : Model) (key : List (Value Json))
    (mode : CascadeMode) (state : State) (task : Task) (batchUuid : String) : List (Action Task) :=
  let mutation := mutationOf recorderInstalled model key mode
  let made := (requests handle mutation.call state).map (Action.request task)
  if model.cascadeSoftDeletes ∧ model.primaryKeyColumns.length = key.length then
    [.openScope task batchUuid] ++ made ++ [.closeScope task]
  else made

/-! ## What the slot holds -/

def Action.IsRequest : Action Task → Prop
  | .request _ _ => True
  | _ => False

def Action.batchAfter (batch : Option String) : Action Task → Option String
  | .openScope _ batchUuid => some batchUuid
  | .closeScope _ => none
  | .request _ _ => batch

omit [DecidableEq Task] in
theorem foldl_batchAfter_requests {between : List (Action Task)}
    (allRequests : ∀ action ∈ between, action.IsRequest)
    (batch : Option String) : between.foldl Action.batchAfter batch = batch := by
  induction between with
  | nil => rfl
  | cons action rest ih =>
    have isRequest := allRequests action mem_cons_self
    have restRequests : rest.foldl Action.batchAfter batch = batch :=
      ih fun other isIn => allRequests other (mem_cons_of_mem action isIn)
    cases action with
    | request task asked => exact restRequests
    | openScope task batchUuid => exact isRequest.elim
    | closeScope task => exact isRequest.elim

end Steps

section Batches

variable {Task : Type} [DecidableEq Task] {activity after : Activity Task}

theorem step?_spec {action : Action Task} (taken : step? activity action = some after) :
    after.batch = action.batchAfter activity.batch ∧ activity.recorded <+: after.recorded := by
  cases action with
  | openScope task batchUuid =>
    obtain rfl := Option.some.inj taken
    exact ⟨rfl, prefix_rfl⟩
  | closeScope task =>
    cases opened : activity.scopes task with
    | nil => simp [step?, opened] at taken
    | cons innermost outer =>
      simp only [step?, opened, Option.some.injEq] at taken
      subst taken
      exact ⟨rfl, prefix_rfl⟩
  | request task asked =>
    cases asked with
    | record event =>
      obtain rfl := Option.some.inj taken
      exact ⟨rfl, prefix_append _ _⟩
    | _ =>
      obtain rfl := Option.some.inj taken
      exact ⟨rfl, prefix_rfl⟩

theorem run?_spec {actions : List (Action Task)} (ran : run? step? activity actions = some after) :
    after.batch = actions.foldl Action.batchAfter activity.batch ∧
    activity.recorded <+: after.recorded := by
  induction actions generalizing activity with
  | nil =>
    obtain rfl := Option.some.inj ran
    exact ⟨rfl, prefix_rfl⟩
  | cons action rest ih =>
    obtain ⟨middle, taken, ranRest⟩ := exists_of_run?_cons ran
    obtain ⟨batchMiddle, keptMiddle⟩ := step?_spec taken
    obtain ⟨batchAfter, keptAfter⟩ := ih ranRest
    refine ⟨?_, keptMiddle.trans keptAfter⟩
    rw [foldl_cons, ← batchMiddle]
    exact batchAfter

/-! ## The batch of an event -/

/--
An event takes the uuid of the scope that was opened last, by whichever task,
when no scope was closed since, and no uuid otherwise.
-/
theorem events_carry_the_last_opened_scope
    (history : List (Action Task)) (task : Task) (event : ActivityEvent)
    (activity after : Activity Task) (ran : run? step? Activity.initial history = some activity)
    (taken : step? activity (.request task (.record event)) = some after) :
    ∃ stamped : Recorded Task, after.recorded = activity.recorded ++ [stamped] ∧
      stamped.task = task ∧ stamped.event = event ∧
      (∀ rest final, run? step? after rest = some final → after.recorded <+: final.recorded) ∧
      (∀ earlier opener batchUuid between,
        history = earlier ++ .openScope opener batchUuid :: between →
        (∀ action ∈ between, action.IsRequest) → stamped.batchUuid = some batchUuid) ∧
      (∀ earlier closer between, history = earlier ++ .closeScope closer :: between →
        (∀ action ∈ between, action.IsRequest) → stamped.batchUuid = none) ∧
      ((∀ action ∈ history, action.IsRequest) → stamped.batchUuid = none) := by
  obtain ⟨batchIs, -⟩ := run?_spec ran
  obtain rfl := Option.some.inj taken
  refine ⟨⟨task, event, activity.batch, activity.scopes task⟩, rfl, rfl, rfl,
    fun _ _ ranRest => (run?_spec ranRest).2, ?_, ?_, ?_⟩
  · rintro earlier opener batchUuid between rfl allRequests
    rw [foldl_append, foldl_cons, foldl_batchAfter_requests allRequests] at batchIs
    exact batchIs
  · rintro earlier closer between rfl allRequests
    rw [foldl_append, foldl_cons, foldl_batchAfter_requests allRequests] at batchIs
    exact batchIs
  · intro allRequests
    rw [foldl_batchAfter_requests allRequests] at batchIs
    exact batchIs

variable {task : Task}

theorem run?_requests (asked : List Request) (rest : List (Action Task)) :
    run? step? activity (asked.map (Action.request task) ++ rest) =
      run? step?
        {
          activity with
          recorded := activity.recorded ++ (asked.filterMap Request.recorded?).map fun event =>
            ⟨task, event, activity.batch, activity.scopes task⟩
        } rest := by
  induction asked generalizing activity with
  | nil => simp
  | cons first others ih =>
    cases first with
    | record event =>
      change run? step? (record activity task event) (others.map _ ++ rest) = _
      rw [ih]
      simp [record, Request.recorded?]
    | _ =>
      change run? step? activity (others.map _ ++ rest) = _
      rw [ih]
      rfl

end Batches

/-! ## Scopes that meet -/

def userPosts : Relation where
  name := "posts"
  relatedTable := "posts"
  foreignKey := "user_id"
  localKey := "id"
  kind := .hasMany
  pivotTable := none
  relatedKey := none
  foreignKeys := none
  localKeys := none
  json := none

def userModel : Model where
  table := "users"
  typeName := "User"
  primaryKeyColumns := ["id"]
  usesSoftDeletes := false
  logsActivity := true
  allowsColumn _ := true
  activityLogOnlyDirty := false
  cascadeSoftDeletes := true
  cascadeRelations := ["posts"]
  relations := [userPosts]
  slug := none

def userHandle : Handler Request Reply MutationError Unit
  | .get table _, state =>
    (state, .ok
        (if table = "users" then [.object [("id", .string "u1")]]
        else [.object [("id", .string "p1"), ("user_id", .string "u1")]]))
  | .execute _, state => (state, .ok (1 : Nat))
  | .serialize _, state => (state, .ok ())
  | .hydrate _, state => (state, .ok ())
  | .record _, state => (state, .ok ())
  | .invalidateTable _, state => (state, .ok ())

def postCreated : ActivityEvent where
  operation := .created
  table := "posts"
  modelType := "Post"
  modelId := some "p1"
  old := none
  new := none
  changed := []

def userDelete : List (Action Nat) :=
  mutationActions userHandle true userModel [.uuid "u1"] .forceDelete () 1 "cascade"

theorem post_is_recorded_in_its_scope :
    ∃ (after : Activity Nat) (stamped : Recorded Nat),
      run? step? Activity.initial
        [.openScope 1 "first", .openScope 2 "second", .request 2 (.record postCreated),
          .closeScope 2, .openScope 1 "inner", .request 1 (.record postCreated)] =
        some after ∧
      after.recorded = [⟨2, postCreated, some "second", ["second"]⟩, stamped] ∧
      stamped.batchUuid = some "inner" := by
  obtain ⟨stamped, recordedIs, -, -, -, inScope, -⟩ :=
    events_carry_the_last_opened_scope
      [.openScope 1 "first", .openScope 2 "second", .request 2 (.record postCreated),
        .closeScope 2, .openScope 1 "inner"] 1 postCreated _ _ rfl rfl
  refine ⟨_, stamped, rfl, recordedIs, ?_⟩
  exact inScope [.openScope 1 "first", .openScope 2 "second", .request 2 (.record postCreated),
    .closeScope 2] 1 "inner" [] rfl fun _ isIn => absurd isIn not_mem_nil

/-- What a run records: who, in which scopes, under which batch. -/
def batches (actions : List (Action Nat)) : Option (List (Nat × List String × Option String)) :=
  (run? step? Activity.initial actions).map fun activity =>
    activity.recorded.map fun stamped => (stamped.task, stamped.scopes, stamped.batchUuid)

/--
After a cascade inside a scope the events of the scope carry no uuid; a scope of
another task takes over the events of a scope, and of a task without any; and
its drop takes the uuid from them.
-/
theorem scopes_are_not_kept_apart :
    batches ([.openScope 1 "outer"] ++ userDelete ++ [.request 1 (.record postCreated)]) = some
        [(1, ["cascade", "outer"], some "cascade"), (1, ["cascade", "outer"], some "cascade"),
          (1, ["outer"], none)] ∧
    batches
      [.openScope 1 "first", .openScope 2 "second", .request 1 (.record postCreated),
        .request 3 (.record postCreated), .closeScope 2, .request 1 (.record postCreated)] =
      some [(1, ["first"], some "second"), (3, [], some "second"), (1, ["first"], none)] := by
  exact ⟨rfl, rfl⟩

end Rustasea.Orm.ActivityBatches
