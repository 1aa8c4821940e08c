import Rustasea.Library.TransitionSystem
import Rustasea.Queue.ClaimReservation

namespace Rustasea.Queue.Workers

/-!
# Interleaved workers over the jobs table

Any number of workers share the two tables of the database driver.  Every
action is one SQL statement, so a claim is two actions and a dead letter is
followed by its own `DELETE`.  The history of a job, kept under its row id, is
ghost state: no statement reads it.
-/

variable {Json Text : Type}

/-- Where a worker stands between two statements. -/
inductive WorkerState (Json Text : Type) where
  | idle
  /-- Between the candidate `SELECT` and the guarded `UPDATE`. -/
  | selected (now id : String) (row : JobRow Text) (seenReleases : Nat)
  | running (payload : JobPayload Json)
  /-- The dead letter is inserted and the row is not deleted yet. -/
  | buried (payload : JobPayload Json)

/-- The payload a worker was handed and has not finished with. -/
def WorkerState.heldPayload : WorkerState Json Text → Option (JobPayload Json)
  | .idle | .selected .. => none
  | .running payload | .buried payload => some payload

def WorkerState.heldId (worker : WorkerState Json Text) : Option String :=
  worker.heldPayload.bind JobPayload.id

/-- What happened to one pushed job so far. -/
structure JobHistory (Json : Type) where
  pushed : JobPayload Json
  claims : Nat
  releases : Nat
  /-- A guarded `UPDATE` took the row after a release its `SELECT` missed. -/
  stale : Bool
  acknowledged : Bool

namespace JobHistory

def start (payload : JobPayload Json) : JobHistory Json where
  pushed := payload
  claims := 0
  releases := 0
  stale := false
  acknowledged := false

/-- The pushed attempt number plus a number of releases, capped at `u32::MAX`. -/
def attemptsAfter (entry : JobHistory Json) (releases : Nat) : Nat :=
  min (entry.pushed.attempts.val + releases) 4294967295

/-- A guarded `UPDATE` reserved the row. -/
def claimed (seenReleases : Nat) (entry : JobHistory Json) : JobHistory Json :=
  { entry with claims := entry.claims + 1, stale := entry.stale || entry.releases != seenReleases }

/-- `release` gave the row back. -/
def released (entry : JobHistory Json) : JobHistory Json :=
  { entry with releases := entry.releases + 1 }

/-- `ack` deleted the row of a job that succeeded. -/
def acked (entry : JobHistory Json) : JobHistory Json :=
  { entry with acknowledged := true }

end JobHistory

/-- The shared tables, the workers, and the ghost histories. -/
structure State (Json Text : Type) where
  jobs : JobsTable Text
  failed : FailedTable Text
  workers : Nat → WorkerState Json Text
  history : String → Option (JobHistory Json)

def State.initial (Json Text : Type) : State Json Text where
  jobs := SqlTable.empty _
  failed := SqlTable.empty _
  workers := fun _ => .idle
  history := fun _ => none

namespace State

def setWorker (state : State Json Text) (worker : Nat)
    (next : WorkerState Json Text) : State Json Text :=
  { state with workers := Function.update state.workers worker next }

def note (state : State Json Text) (id : Option String)
    (extend : JobHistory Json → JobHistory Json) : State Json Text :=
  { state with
    history := fun other =>
      if id = some other then (state.history other).map extend
      else state.history other }

def releasesOf (state : State Json Text) (id : String) : Nat :=
  (state.history id).elim 0 JobHistory.releases

end State

/-- One statement of one party, with every choice the environment makes. -/
inductive Action (Json : Type) where
  | push (uuid : String) (now : Instant) (payload : JobPayload Json)
  | select (worker : Nat) (queue now : String)
  | reserve (worker : Nat)
  | ack (worker : Nat)
  | release (worker : Nat) (now : Instant) (delay : Duration)
  | deadLetter (worker : Nat) (failedId exception : String) (now : Instant)

/-- What the worker holds once the claim transaction handed it a row. -/
def handed (codec : Codec (JobPayload Json) Text)
    (claimed : Option (Claimed Text)) : WorkerState Json Text :=
  match claimed with
  | none => .idle
  | some claimed =>
    match decodeClaimed codec claimed with
    | .error _ => .idle
    | .ok payload => .running payload

/-- The guarded `UPDATE` of `claim` and the exits after it. -/
def reserve (codec : Codec (JobPayload Json) Text) (state : State Json Text)
    (worker : Nat) (now id : String) (row : JobRow Text) (seenReleases : Nat) : State Json Text :=
  if state.jobs.affected (JobRow.reservable id) = 0 then state.setWorker worker .idle
  else
    ({ state with jobs := claimUpdate id now state.jobs }.setWorker
      worker (handed codec (claimedFrom id row))).note (some id) (JobHistory.claimed seenReleases)

/-- Execute one statement; `none` when it is not the party's next statement. -/
def step? (codec : Codec (JobPayload Json) Text) (rfc3339 : Instant → String)
    (state : State Json Text) : Action Json → Option (State Json Text)
  | .push uuid now payload =>
    match state.history uuid with
    | some _ => none
    | none =>
      (push codec rfc3339 uuid now payload state.jobs).map
        fun jobs =>
          { state with
            jobs := jobs
            history := Function.update state.history uuid (some (JobHistory.start payload)) }
  | .select worker queue now =>
    match state.workers worker with
    | .idle =>
      match claimSelect queue now state.jobs with
      | none => some state
      | some row =>
        match row.id with
        | none => some state
        | some id => some (state.setWorker worker (.selected now id row (state.releasesOf id)))
    | _ => none
  | .reserve worker =>
    match state.workers worker with
    | .selected now id row seenReleases => some (reserve codec state worker now id row seenReleases)
    | _ => none
  | .ack worker =>
    match state.workers worker with
    | .running payload =>
      some (({ state with jobs := ack payload state.jobs }.setWorker
          worker .idle).note payload.id JobHistory.acked)
    | .buried payload => some ({ state with jobs := ack payload state.jobs }.setWorker worker .idle)
    | _ => none
  | .release worker now delay =>
    match state.workers worker with
    | .running payload =>
      (release rfc3339 now delay payload state.jobs).map
        fun jobs =>
          ({ state with jobs := jobs }.setWorker worker .idle).note payload.id JobHistory.released
    | _ => none
  | .deadLetter worker failedId exception now =>
    match state.workers worker with
    | .running payload =>
      (deadLetter codec rfc3339
        { id := failedId
          connection := payload.connection
          queue := payload.queue
          payload := payload
          exception := exception
          failedAt := now }
        state.failed).map fun failed =>
          { state with failed := failed }.setWorker worker (.buried payload)
    | _ => none

/-! ## State updates -/

section Updates

variable (state : State Json Text)

@[simp] theorem setWorker_history (worker : Nat) (next : WorkerState Json Text) :
    (state.setWorker worker next).history = state.history :=
  rfl

@[simp] theorem setWorker_workers (worker other : Nat) (next : WorkerState Json Text) :
    (state.setWorker worker next).workers other =
      if other = worker then next else state.workers other := by
  simp [State.setWorker, Function.update_apply]

variable (id : Option String) (extend : JobHistory Json → JobHistory Json)

@[simp] theorem note_workers : (state.note id extend).workers = state.workers :=
  rfl

@[simp] theorem note_history (other : String) :
    (state.note id extend).history other =
      if id = some other then (state.history other).map extend
      else state.history other :=
  rfl

@[simp] theorem note_self : state.note id (fun entry => entry) = state := by
  simp [State.note]

end Updates

/-! ## What a statement can do -/

variable {codec : Codec (JobPayload Json) Text} {rfc3339 : Instant → String}
  {state after : State Json Text}

/-- The statements that are taken, with what they found and what they leave. -/
inductive Step (codec : Codec (JobPayload Json) Text) (rfc3339 : Instant → String)
    (state : State Json Text) : Action Json → State Json Text → Prop where
  | push {uuid : String} {now : Instant} {payload : JobPayload Json} {jobs : JobsTable Text}
      (unknown : state.history uuid = none)
      (inserted : Queue.push codec rfc3339 uuid now payload state.jobs = some jobs) :
    Step codec rfc3339 state (.push uuid now payload)
      { state with
        jobs := jobs
        history := Function.update state.history uuid (some (JobHistory.start payload)) }
  | nothing {worker : Nat} {queue now : String} :
    Step codec rfc3339 state (.select worker queue now) state
  | select {worker : Nat} {queue now id : String} {row : JobRow Text}
      (isIdle : state.workers worker = .idle)
      (found : claimSelect queue now state.jobs = some row) (hasId : row.id = some id) :
    Step codec rfc3339 state (.select worker queue now)
      (state.setWorker worker (.selected now id row (state.releasesOf id)))
  | lost {worker : Nat} {now id : String} {row : JobRow Text} {seenReleases : Nat}
      (selected : state.workers worker = .selected now id row seenReleases) :
    Step codec rfc3339 state (.reserve worker) (state.setWorker worker .idle)
  | reserve {worker : Nat} {now id : String} {row : JobRow Text} {seenReleases : Nat}
      (selected : state.workers worker = .selected now id row seenReleases)
      (touched : state.jobs.affected (JobRow.reservable id) ≠ 0) :
    Step codec rfc3339 state (.reserve worker)
      (({ state with jobs := claimUpdate id now state.jobs }.setWorker
        worker (handed codec (claimedFrom id row))).note (some id)
          (JobHistory.claimed seenReleases))
  | ack {worker : Nat} {payload : JobPayload Json}
      (isRunning : state.workers worker = .running payload) :
    Step codec rfc3339 state (.ack worker)
      (({ state with jobs := Queue.ack payload state.jobs }.setWorker
        worker .idle).note payload.id JobHistory.acked)
  | ackBuried {worker : Nat} {payload : JobPayload Json}
      (isBuried : state.workers worker = .buried payload) :
    Step codec rfc3339 state (.ack worker)
      ({ state with jobs := Queue.ack payload state.jobs }.setWorker worker .idle)
  | release {worker : Nat} {now : Instant} {delay : Duration} {payload : JobPayload Json}
      {jobs : JobsTable Text} (isRunning : state.workers worker = .running payload)
      (released : Queue.release rfc3339 now delay payload state.jobs = some jobs) :
    Step codec rfc3339 state (.release worker now delay)
      (({ state with jobs := jobs }.setWorker worker .idle).note payload.id JobHistory.released)
  | deadLetter {worker : Nat} {failedId exception : String} {now : Instant}
      {payload : JobPayload Json} {job : FailedJob Json} {failed : FailedTable Text}
      (isRunning : state.workers worker = .running payload) (isPayload : job.payload = payload)
      (inserted : Queue.deadLetter codec rfc3339 job state.failed = some failed) :
    Step codec rfc3339 state (.deadLetter worker failedId exception now)
      ({ state with failed := failed }.setWorker worker (.buried payload))

theorem step_cases {action : Action Json} (taken : step? codec rfc3339 state action = some after) :
    Step codec rfc3339 state action after := by
  cases action with
  | push uuid now payload =>
    simp only [step?] at taken
    split at taken
    · cases taken
    · next unknown =>
      obtain ⟨jobs, inserted, rfl⟩ := Option.map_eq_some_iff.mp taken
      exact .push unknown inserted
  | select worker queue now =>
    simp only [step?] at taken
    split at taken
    · next isIdle =>
      split at taken
      · cases taken
        exact .nothing
      · next row found =>
        split at taken <;> cases taken
        · exact .nothing
        · next id hasId => exact .select isIdle found hasId
    · cases taken
  | reserve worker =>
    simp only [step?, reserve] at taken
    split at taken
    · next selected =>
      split at taken <;> cases taken
      · exact .lost selected
      · next touched => exact .reserve selected touched
    · cases taken
  | ack worker =>
    simp only [step?] at taken
    split at taken
    · next isRunning =>
      cases taken
      exact .ack isRunning
    · next isBuried =>
      cases taken
      exact .ackBuried isBuried
    · cases taken
  | release worker now delay =>
    simp only [step?] at taken
    split at taken
    · next isRunning =>
      obtain ⟨jobs, released, rfl⟩ := Option.map_eq_some_iff.mp taken
      exact .release isRunning released
    · cases taken
  | deadLetter worker failedId exception now =>
    simp only [step?] at taken
    split at taken
    · next isRunning =>
      obtain ⟨failed, inserted, rfl⟩ := Option.map_eq_some_iff.mp taken
      exact .deadLetter isRunning rfl inserted
    · cases taken

end Rustasea.Queue.Workers
