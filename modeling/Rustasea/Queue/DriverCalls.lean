import Rustasea.Library.DelayedQueue
import Rustasea.Queue.Job

namespace Rustasea.Queue

open DelayedQueue

/-!
# Calls of a queue driver, and what they show

A driver is pushed payloads and popped at clock readings.  What its clients see
are jobs put into a delayed multi-queue and jobs taken out of it.  A job is a
payload without its id, which the drivers assign themselves.
-/

variable {Json Fault Store : Type}

def JobPayload.withoutId (payload : JobPayload Json) : JobPayload Json :=
  { payload with id := none }

/-- The job of a payload, under its queue and the instant it is scheduled at. -/
def JobPayload.entry (payload : JobPayload Json) :
    Entry String (Option Instant) (JobPayload Json) where
  queue := payload.queue
  due := payload.availableAt
  job := payload.withoutId

abbrev DriverEvent (Json : Type) := Event String (Option Instant) Instant (JobPayload Json)

/--
One call of a driver: a push, delayed when the payload says so, or a pop that
looks once.  A `uuid` is what the driver would draw, a fault what its store
would do to it.
-/
inductive DriverCall (Json Fault : Type) where
  | push (uuid : String) (now : Instant) (payload : JobPayload Json)
  | pop (queue : String) (now : Instant) (fault : Fault)

def DriverCall.now : DriverCall Json Fault → Instant
  | .push _ now _ => now
  | .pop _ now _ => now

/-- The clock never goes back from one call to the next. -/
def InOrder (calls : List (DriverCall Json Fault)) : Prop :=
  (calls.map DriverCall.now).Pairwise (· ≤ ·)

instance (calls : List (DriverCall Json Fault)) : Decidable (InOrder calls) :=
  inferInstanceAs (Decidable (List.Pairwise _ _))

/-- What a push and a pop do to a driver's store. -/
structure StoredQueue (Json Fault Store : Type) where
  push : String → Instant → JobPayload Json → Store → Store
  pop : String → Instant → Fault → Store → Option (JobPayload Json) × Store

def StoredQueue.step (driver : StoredQueue Json Fault Store) (store : Store) :
    DriverCall Json Fault → List (DriverEvent Json) × Store
  | .push uuid now payload => ([.put payload.entry], driver.push uuid now payload store)
  | .pop queue now fault =>
    ((driver.pop queue now fault store).1.toList.map fun payload =>
        .take queue now payload.withoutId,
      (driver.pop queue now fault store).2)

def StoredQueue.history (driver : StoredQueue Json Fault Store) (store : Store)
    (calls : List (DriverCall Json Fault)) : List (DriverEvent Json) :=
  DelayedQueue.history driver.step store calls

theorem StoredQueue.run_pop {driver : StoredQueue Json Fault Store}
    {discipline : Discipline String (Option Instant) Instant}
    {related : Store → List (Entry String (Option Instant) (JobPayload Json)) → Prop}
    {store : Store} {waiting : List (Entry String (Option Instant) (JobPayload Json))}
    {queue : String} {now : Instant} {fault : Fault}
    (hands : ∀ payload, (driver.pop queue now fault store).1 = some payload →
        ∃ entry rest, entry.job = payload.withoutId ∧ (entry :: rest).Perm waiting ∧
            discipline.serves queue entry.queue ∧ discipline.ready entry.due now ∧
            related (driver.pop queue now fault store).2 rest)
    (keeps : (driver.pop queue now fault store).1 = none →
      related (driver.pop queue now fault store).2 waiting) :
    ∃ after, Run discipline waiting (driver.step store (.pop queue now fault)).1 after ∧
      related (driver.step store (.pop queue now fault)).2 after := by
  have shown : (driver.step store (.pop queue now fault)).1 =
        (driver.pop queue now fault store).1.toList.map fun payload =>
          .take queue now payload.withoutId :=
    rfl
  rw [shown]
  cases popped : (driver.pop queue now fault store).1 with
  | none => exact ⟨waiting, .nil waiting, keeps popped⟩
  | some payload =>
    obtain ⟨entry, rest, isJob, isWaiting, serves, ready, isRelated⟩ := hands payload popped
    refine ⟨rest, ?_, isRelated⟩
    rw [Option.toList_some, List.map_cons, ← isJob]
    exact Run.single (.take isWaiting serves ready)

theorem eq_ok_of_join {Error Value : Type} {result : Except Error (Option Value)}
    {value : Value} (returned : result.toOption.join = some value) : result = .ok (some value) := by
  rcases result with _ | (_ | _)
  · cases returned
  · cases returned
  · cases returned
    rfl

/-! ## The sync driver -/

namespace SyncDriver

/-- Buffer a serialized job payload at the back of the queue. -/
def push (payload : JobPayload Json) (pending : List (JobPayload Json)) : List (JobPayload Json) :=
  pending ++ [payload]

/-- Pop the front of the buffered queue (FIFO); the queue is not looked at. -/
def pop (_queue : String) (pending : List (JobPayload Json)) :
    Option (JobPayload Json) × List (JobPayload Json) :=
  match pending with
  | [] => (none, [])
  | payload :: rest => (some payload, rest)

def stored (Json : Type) : StoredQueue Json Unit (List (JobPayload Json)) where
  push := fun _ _ payload pending => push payload pending
  pop := fun queue _ _ pending => pop queue pending

variable (calls : List (DriverCall Json Unit))

theorem accepts_anyJob :
    Accepts (anyJob String (Option Instant) Instant) ((stored Json).history [] calls) := by
  let related (pending : List (JobPayload Json))
      (waiting : List (Entry String (Option Instant) (JobPayload Json))) : Prop :=
    (pending.map JobPayload.entry).Perm waiting
  have always : ∀ call ∈ calls, (fun _ => True) call := fun _ _ => trivial
  have isEmpty : related [] [] := List.Perm.refl []
  refine accepts_history (fun _ => ()) (fun _ => related) ?_ (fun _ => isEmpty) ?_ always
  · rintro - pending waiting call holds - -
    cases call with
    | push uuid now payload =>
      refine ⟨_, Run.single (.put waiting payload.entry), ?_⟩
      show ((pending ++ [payload]).map JobPayload.entry).Perm _
      rw [List.map_append]
      exact List.perm_append_comm.trans (holds.cons _)
    | pop queue now fault =>
      refine StoredQueue.run_pop ?_ ?_
      · intro payload popped
        cases pending with
        | nil => cases popped
        | cons front rest =>
          cases popped
          exact ⟨payload.entry, rest.map JobPayload.entry, rfl, holds,
            trivial, trivial, List.Perm.refl _⟩
      · intro popped
        cases pending with
        | nil => exact holds
        | cons front rest => cases popped
  · exact List.pairwise_of_forall fun _ _ => trivial

def pushed : List (DriverCall Json Unit) → List (JobPayload Json)
  | [] => []
  | .push _ _ payload :: later => payload :: pushed later
  | .pop _ _ _ :: later => pushed later

def taken : List (DriverEvent Json) → List (JobPayload Json)
  | [] => []
  | .put _ :: later => taken later
  | .take _ _ job :: later => job :: taken later

theorem taken_prefix (pending : List (JobPayload Json)) :
    taken ((stored Json).history pending calls) <+:
      (pending ++ pushed calls).map JobPayload.withoutId := by
  induction calls generalizing pending with
  | nil => exact List.nil_prefix
  | cons call later ih =>
    show taken (_ ++ (stored Json).history _ later) <+: _
    cases call with
    | push uuid now payload =>
      have rest := ih (pending ++ [payload])
      rw [List.append_assoc] at rest
      exact rest
    | pop queue now fault =>
      cases pending with
      | nil => exact ih []
      | cons front rest => exact List.prefix_cons_inj _ |>.mpr (ih rest)

end SyncDriver

end Rustasea.Queue
