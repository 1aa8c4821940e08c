import Rustasea.Library.SqlTable
import Rustasea.Queue.Job
import Mathlib.Data.List.MinMax
import Mathlib.Data.Prod.Lex
import Mathlib.Data.String.Basic

namespace Rustasea.Queue

/-!
# The database queue driver

Every definition here is one SQL statement of the driver, or one method made of
such statements.  The text of the serialized envelope is the type parameter
`Text`, read and written by a codec; `rfc3339` is
`to_rfc3339_opts(SecondsFormat::Micros, true)`.
-/

variable {Json Text : Type}

/-- One row of the `jobs` table.  A null payload comes from a custom schema. -/
structure JobRow (Text : Type) where
  id : Option String
  queue : String
  payload : Option Text
  attempts : Option Int
  reservedAt : Option String
  availableAt : String
  createdAt : String
  deriving DecidableEq

abbrev JobsTable (Text : Type) := SqlTable (JobRow.id : JobRow Text → Option String)

/-- One row of the `failed_jobs` table. -/
structure FailedRow (Text : Type) where
  id : String
  connection : String
  queue : String
  payload : Text
  exception : String
  failedAt : String
  deriving DecidableEq

/-- The primary-key column of `failed_jobs`. -/
def FailedRow.key (row : FailedRow Text) : Option String := some row.id

abbrev FailedTable (Text : Type) := SqlTable (FailedRow.key : FailedRow Text → Option String)

/-! ## Claiming a row -/

def JobRow.available (queue now : String) (row : JobRow Text) : Bool :=
  row.queue = queue && row.reservedAt.isNone && row.availableAt ≤ now

/-- `ORDER BY available_at ASC, created_at ASC, id ASC`. -/
def JobRow.orderKey (row : JobRow Text) : String ×ₗ (String ×ₗ WithBot String) :=
  toLex (row.availableAt, toLex (row.createdAt, row.id))

/-- The candidate `SELECT … LIMIT 1` of `claim`. -/
def claimSelect (queue now : String) (table : JobsTable Text) : Option (JobRow Text) :=
  (table.rows.filter (JobRow.available queue now)).argmin JobRow.orderKey

/-- `id = $2 AND reserved_at IS NULL`, the guard of the claim `UPDATE`. -/
def JobRow.reservable (id : String) (row : JobRow Text) : Bool :=
  row.id = some id && row.reservedAt.isNone

/-- `UPDATE jobs SET reserved_at = $1 WHERE id = $2 AND reserved_at IS NULL`. -/
def claimUpdate (id now : String) (table : JobsTable Text) : JobsTable Text :=
  table.update (JobRow.reservable id)
    (fun row => { row with reservedAt := some now })
    (fun _ => rfl)

def U32.tryFrom (value : Int) : Option U32 :=
  if inRange : 0 ≤ value ∧ value < 4294967296 then some ⟨value.toNat, by omega⟩
  else none

@[simp] theorem U32.tryFrom_val (count : U32) : U32.tryFrom (count.val : Int) = some count := by
  have inRange : 0 ≤ (count.val : Int) ∧ (count.val : Int) < 4294967296 :=
    ⟨Int.natCast_nonneg _, Int.ofNat_lt.mpr count.isLt⟩
  rw [U32.tryFrom, dif_pos inRange]
  exact congrArg some (Fin.ext (Int.toNat_natCast count.val))

/-- The statement of a claim transaction that the store fails. -/
inductive ClaimStatement where
  | select
  | update
  | commit
  deriving DecidableEq

/-- One execution of `claim`: its clock reading and the store's failure. -/
structure Poll where
  now : String
  fault : Option (ClaimStatement × String)

/-- The error the store reports at one statement of the transaction. -/
def Poll.failure (poll : Poll) (statement : ClaimStatement) : Option QueueError :=
  match poll.fault with
  | some (failed, message) =>
    if failed = statement then some (.storeUnavailable message)
    else none
  | none => none

/-- What the claim transaction hands out: row id, payload text, attempts. -/
structure Claimed (Text : Type) where
  id : String
  text : Text
  attempts : Option U32

/-- The columns the transaction reads from its candidate row. -/
def claimedFrom (id : String) (row : JobRow Text) : Option (Claimed Text) :=
  row.payload.map fun text =>
    { id := id, text := text, attempts := row.attempts.bind U32.tryFrom }

def claimBody (queue : String) (poll : Poll) (table : JobsTable Text) :
    Except QueueError (Option (Claimed Text)) × JobsTable Text :=
  match poll.failure .select with
  | some error => (.error error, table)
  | none =>
    match claimSelect queue poll.now table with
    | none => (.ok none, table)
    | some row =>
      match row.id with
      | none => (.ok none, table)
      | some id =>
        match poll.failure .update with
        | some error => (.error error, table)
        | none =>
          if table.affected (JobRow.reservable id) = 0 then (.ok none, table)
          else (.ok (claimedFrom id row), claimUpdate id poll.now table)

def transaction {Value Store : Type} (commitFailure : Option QueueError)
    (body : Store → Except QueueError Value × Store)
    (store : Store) : Except QueueError Value × Store :=
  match body store with
  | (.error error, _) => (.error error, store)
  | (.ok value, after) =>
    match commitFailure with
    | some error => (.error error, store)
    | none => (.ok value, after)

/-- Decode the claimed text; the `attempts` column overrides the envelope. -/
def decodeClaimed (codec : Codec (JobPayload Json) Text) (claimed : Claimed Text) :
    Except QueueError (JobPayload Json) :=
  match codec.decode claimed.text with
  | .error message => .error (.serialization message)
  | .ok payload =>
    .ok { payload with attempts := claimed.attempts.getD payload.attempts, id := some claimed.id }

/-- `DatabaseDriver::claim`. -/
def claim (codec : Codec (JobPayload Json) Text) (queue : String) (poll : Poll)
    (table : JobsTable Text) : Except QueueError (Option (JobPayload Json)) × JobsTable Text :=
  match transaction (poll.failure .commit) (claimBody queue poll) table
  with
  | (.error error, after) => (.error error, after)
  | (.ok none, after) => (.ok none, after)
  | (.ok (some claimed), after) => ((decodeClaimed codec claimed).map some, after)

/--
`DatabaseDriver::pop`: claim, and claim again until the deadline.  The list
holds the polls that fit before the deadline; the code makes at least one.
-/
def pop (codec : Codec (JobPayload Json) Text) (queue : String) :
    List Poll → JobsTable Text → Except QueueError (Option (JobPayload Json)) × JobsTable Text
  | [], table => (.ok none, table)
  | poll :: later, table =>
    match claim codec queue poll table with
    | (.error error, after) => (.error error, after)
    | (.ok (some payload), after) => (.ok (some payload), after)
    | (.ok none, after) => pop codec queue later after

theorem pop_singleton (codec : Codec (JobPayload Json) Text) (queue : String) (poll : Poll)
    (table : JobsTable Text) : pop codec queue [poll] table = claim codec queue poll table := by
  unfold pop
  rcases claim codec queue poll table with ⟨error | (_ | payload), after⟩ <;> rfl

/-! ## The other statements -/

/-- `chrono::Duration::from_std(delay).unwrap_or_default()`. -/
def chronoDuration (delay : Duration) : Int :=
  if delay ≤ 9223372036854775807 * 1000000 then delay
  else 0

/-- `DateTime::<Utc>::MAX_UTC`. -/
def Instant.maxUtc : Instant := 8210266876799 * 1000000000 + 999999999

/-- `now + delay`, which panics past the last representable instant. -/
def Instant.after? (now : Instant) (delay : Duration) : Option Instant :=
  if now + chronoDuration delay ≤ Instant.maxUtc then some (now + chronoDuration delay)
  else none

/-- The row `push` inserts under a fresh uuid. -/
def pushRow (codec : Codec (JobPayload Json) Text) (rfc3339 : Instant → String)
    (uuid : String) (now : Instant) (payload : JobPayload Json) : JobRow Text where
  id := some uuid
  queue := payload.queue
  payload := some (codec.encode payload)
  attempts := some payload.attempts.val
  reservedAt := none
  availableAt := rfc3339 (payload.availableAt.getD now)
  createdAt := rfc3339 now

/-- `DatabaseDriver::push`; `none` when the uuid is already a row id. -/
def push (codec : Codec (JobPayload Json) Text) (rfc3339 : Instant → String)
    (uuid : String) (now : Instant) (payload : JobPayload Json)
    (table : JobsTable Text) : Option (JobsTable Text) :=
  table.insert? (pushRow codec rfc3339 uuid now payload)

/-- `DatabaseDriver::ack`. -/
def ack (payload : JobPayload Json) (table : JobsTable Text) : JobsTable Text :=
  match payload.id with
  | none => table
  | some id => table.delete fun row => row.id = some id

def JobRow.released (availableAt : String) (attempts : U32) (row : JobRow Text) : JobRow Text :=
  { row with reservedAt := none, availableAt := availableAt, attempts := some attempts.val }

/-- `DatabaseDriver::release`; `none` when the clock addition panics. -/
def release (rfc3339 : Instant → String) (now : Instant) (delay : Duration)
    (payload : JobPayload Json) (table : JobsTable Text) : Option (JobsTable Text) :=
  match payload.id with
  | none => some table
  | some id =>
    (now.after? delay).map fun availableAt =>
      table.update (fun row => row.id = some id)
        (JobRow.released (rfc3339 availableAt) payload.attempts.saturatingSucc)
        (fun _ => rfl)

/-- The row `dead_letter` inserts. -/
def failedRow (codec : Codec (JobPayload Json) Text) (rfc3339 : Instant → String)
    (failed : FailedJob Json) : FailedRow Text where
  id := failed.id
  connection := failed.connection
  queue := failed.queue
  payload := codec.encode failed.payload
  exception := failed.exception
  failedAt := rfc3339 failed.failedAt

/-- `DatabaseDriver::dead_letter`; `none` when the id is already used. -/
def deadLetter (codec : Codec (JobPayload Json) Text) (rfc3339 : Instant → String)
    (failed : FailedJob Json) (table : FailedTable Text) : Option (FailedTable Text) :=
  table.insert? (failedRow codec rfc3339 failed)

/-! ## The operator's `retry_failed` -/

def retrySelect (id : String) (table : FailedTable Text) : Option (FailedRow Text) :=
  table.rows.find? fun row => row.id = id

/--
The payload that `retry_failed` pushes: the stored envelope as a fresh first
attempt, or a rebuilt one when the column holds no envelope.  `jsonText` is the
column as a JSON value.
-/
def retryPayload (codec : Codec (JobPayload Json) Text) (jsonText : Text → Json)
    (row : FailedRow Text) : JobPayload Json :=
  let payload :=
    match codec.decode row.payload with
    | .ok payload => payload
    | .error _ => JobPayload.new row.queue row.connection none (jsonText row.payload)
  { payload with id := none, attempts := 1, availableAt := none }

/-- The `DELETE … WHERE id = $1` of `retry_failed` and `forget_failed`. -/
def deleteFailed (id : String) (table : FailedTable Text) : FailedTable Text :=
  table.delete fun row => row.id = id

end Rustasea.Queue
