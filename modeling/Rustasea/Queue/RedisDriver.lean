import Rustasea.Library.RedisContents
import Rustasea.Queue.DatabaseDriver

namespace Rustasea.Queue.RedisDriver

open Redis

/-!
# The redis queue driver

Immediate jobs live on a list, delayed ones on a sorted set by availability
second, reserved ones on a second sorted set, and a third one mirrors the
pending list by enqueue time.  Every definition here is one method made of
commands; a command on a key of another type ends the method where it is.
The driver is the enabled one.  A method reads the clock once, but for
`release`, whose push reads it again.
-/

variable {Json : Type}

/-- How a method ends when it returns no value. -/
inductive Failure where
  | error (error : QueueError)
  | panicked
  deriving DecidableEq

/-- What a method returns, and the keyspace it leaves. -/
abbrev Outcome (Value : Type) := Except Failure Value × Keyspace

def wrongType : Failure :=
  .error (.storeUnavailable "WRONGTYPE: Operation against a key holding the wrong kind of value")

def command {Reply Value : Type} (keys : Keyspace) (reply : Option Reply)
    (next : Reply → Outcome Value) : Outcome Value :=
  match reply with
  | none => (.error wrongType, keys)
  | some reply => next reply

def andThen {First Value : Type} (first : Outcome First)
    (next : First → Keyspace → Outcome Value) : Outcome Value :=
  match first with
  | (.error failure, keys) => (.error failure, keys)
  | (.ok value, keys) => next value keys

/-! ## Keys -/

def listKey (keyPrefix queue : String) : String := keyPrefix ++ queue

/-- The delayed sorted-set key for `queue`. -/
def delayedKey (keyPrefix queue : String) : String := keyPrefix ++ queue ++ ":delayed"

/-- The reserved sorted-set key for `queue`. -/
def reservedKey (keyPrefix queue : String) : String := keyPrefix ++ queue ++ ":reserved"

def pendingTimesKey (keyPrefix queue : String) : String := keyPrefix ++ queue ++ ":pending_times"

def failedKey (keyPrefix : String) : String := keyPrefix ++ "failed"

/-- The keys that hold the jobs of `queue`. -/
def keysOf (keyPrefix queue : String) : List String :=
  [listKey keyPrefix queue, delayedKey keyPrefix queue,
    reservedKey keyPrefix queue, pendingTimesKey keyPrefix queue]

@[simp] theorem keys_ne (keyPrefix queue : String) :
    listKey keyPrefix queue ≠ delayedKey keyPrefix queue ∧
    listKey keyPrefix queue ≠ reservedKey keyPrefix queue ∧
    listKey keyPrefix queue ≠ pendingTimesKey keyPrefix queue ∧
    delayedKey keyPrefix queue ≠ listKey keyPrefix queue ∧
    delayedKey keyPrefix queue ≠ reservedKey keyPrefix queue ∧
    delayedKey keyPrefix queue ≠ pendingTimesKey keyPrefix queue ∧
    reservedKey keyPrefix queue ≠ listKey keyPrefix queue ∧
    reservedKey keyPrefix queue ≠ delayedKey keyPrefix queue ∧
    reservedKey keyPrefix queue ≠ pendingTimesKey keyPrefix queue ∧
    pendingTimesKey keyPrefix queue ≠ listKey keyPrefix queue ∧
    pendingTimesKey keyPrefix queue ≠ delayedKey keyPrefix queue ∧
    pendingTimesKey keyPrefix queue ≠ reservedKey keyPrefix queue := by
  have byLength : ∀ {first second : String}, first.length ≠ second.length → first ≠ second :=
    fun differ same => differ (congrArg String.length same)
  have lengths : ":delayed".length = 8 ∧ ":reserved".length = 9 ∧ ":pending_times".length = 14 :=
    ⟨rfl, rfl, rfl⟩
  unfold listKey delayedKey reservedKey pendingTimesKey
  refine ⟨?_, ?_, ?_, ?_, ?_, ?_, ?_, ?_, ?_, ?_, ?_, ?_⟩ <;>
    · apply byLength
      simp [lengths]

/-! ## Clock readings -/

/-- `DateTime::timestamp`: whole seconds, rounded down. -/
def timestamp (instant : Instant) : Int := instant / 1000000000

/-- `DateTime::timestamp_millis`. -/
def timestampMillis (instant : Instant) : Int := instant / 1000000

def reservationTtl : Duration := 90 * 1000000000

/-! ## Enqueueing and reserving -/

def promoteMember (codec : TextForm (JobPayload Json) String) (keyPrefix queue : String)
    (now : Instant) (member : String) (keys : Keyspace) : Outcome Unit :=
  command keys (zrem (delayedKey keyPrefix queue) member keys)
    fun (removed, keys) =>
      if 0 < removed then
        command keys (lpush (listKey keyPrefix queue) member keys)
          fun keys =>
            match codec.decode member with
            | .error _ => (.ok (), keys)
            | .ok payload =>
              match payload.id with
              | none => (.ok (), keys)
              | some id =>
                command keys (zadd (pendingTimesKey keyPrefix queue) id (timestampMillis now) keys)
                  fun keys => (.ok (), keys)
      else (.ok (), keys)

/-- The loop of `promote_due`. -/
def promoteMembers (codec : TextForm (JobPayload Json) String) (keyPrefix queue : String)
    (now : Instant) : List String → Keyspace → Outcome Unit
  | [], keys => (.ok (), keys)
  | member :: rest, keys =>
    andThen (promoteMember codec keyPrefix queue now member keys)
      fun _ keys => promoteMembers codec keyPrefix queue now rest keys

/-- Promote every delayed member that is now due onto the pending list. -/
def promoteDue (codec : TextForm (JobPayload Json) String) (keyPrefix queue : String)
  (now : Instant)
    (keys : Keyspace) : Outcome Unit :=
  command keys (zrangeByScore (delayedKey keyPrefix queue) (timestamp now) keys)
    fun due => promoteMembers codec keyPrefix queue now due keys

/-- The payload with a stable job id, reused when already set. -/
def withId (uuid : String) (payload : JobPayload Json) : JobPayload Json :=
  { payload with id := some (payload.id.getD uuid) }

@[simp] theorem withId_queue (uuid : String) (payload : JobPayload Json) :
    (withId uuid payload).queue = payload.queue :=
  rfl

@[simp] theorem withId_id (uuid : String) (payload : JobPayload Json) :
    (withId uuid payload).id = some (payload.id.getD uuid) :=
  rfl

/-- The payload waits for an instant after `now`. -/
def delayed (now : Instant) (payload : JobPayload Json) : Option Instant :=
  payload.availableAt.filter fun at_ => now < at_

/-- Push `payload` to the delayed set (future) or the pending list (now). -/
def push (codec : TextForm (JobPayload Json) String) (keyPrefix uuid : String)
    (now : Instant) (payload : JobPayload Json) (keys : Keyspace) : Outcome Unit :=
  let payload := withId uuid payload
  let body := codec.encode payload
  match delayed now payload with
  | some at_ =>
    command keys (zadd (delayedKey keyPrefix payload.queue) body (timestamp at_) keys)
      fun keys => (.ok (), keys)
  | none =>
    command keys (lpush (listKey keyPrefix payload.queue) body keys)
      fun keys =>
        command keys (zadd (pendingTimesKey keyPrefix payload.queue)
            (payload.id.getD uuid) (timestampMillis now) keys)
          fun keys => (.ok (), keys)

/-- `ZREM` of the pending time of a payload that carries an id. -/
def forgetPendingTime (keyPrefix queue : String) (id : Option String)
    (keys : Keyspace) : Outcome Unit :=
  match id with
  | none => (.ok (), keys)
  | some id =>
    command keys (zrem (pendingTimesKey keyPrefix queue) id keys) fun (_, keys) => (.ok (), keys)

/-- Reserve the next job, promoting due delayed members first. -/
def pop (codec : TextForm (JobPayload Json) String) (keyPrefix queue : String)
    (now : Instant) (keys : Keyspace) : Outcome (Option (JobPayload Json)) :=
  andThen (promoteDue codec keyPrefix queue now keys) fun _ keys =>
    command keys (rpop (listKey keyPrefix queue) keys)
      fun (popped, keys) =>
        match popped with
        | none => (.ok none, keys)
        | some body =>
          match codec.decode body with
          | .error message => (.error (.error (.serialization message)), keys)
          | .ok payload =>
            andThen (forgetPendingTime keyPrefix queue payload.id keys)
              fun _ keys =>
                command keys
                  (zadd (reservedKey keyPrefix queue) body (timestamp (now + reservationTtl)) keys)
                  fun keys => (.ok (some payload), keys)

/-! ## Sizes -/

/-- Count pending jobs (due delayed members plus list length). -/
def pendingSize (keyPrefix queue : String) (now : Instant) (keys : Keyspace) : Outcome Nat :=
  command keys (zcountUpTo (delayedKey keyPrefix queue) (timestamp now) keys)
    fun due =>
      command keys (llen (listKey keyPrefix queue) keys) fun listed => (.ok (due + listed), keys)

def delayedSize (keyPrefix queue : String) (now : Instant) (keys : Keyspace) : Outcome Nat :=
  command keys (zcountFrom (delayedKey keyPrefix queue) (timestamp now) keys)
    fun count => (.ok count, keys)

def reservedSize (keyPrefix queue : String) (keys : Keyspace) : Outcome Nat :=
  command keys (zcard (reservedKey keyPrefix queue) keys) fun count => (.ok count, keys)

/-! ## Finishing a job -/

def ack (codec : TextForm (JobPayload Json) String) (keyPrefix : String) (payload : JobPayload Json)
    (keys : Keyspace) : Outcome Unit :=
  command keys (zrem (reservedKey keyPrefix payload.queue) (codec.encode payload) keys)
    fun (_, keys) =>
      forgetPendingTime keyPrefix payload.queue payload.id keys

/-- The retry of a payload, available after `delay`. -/
def retryOf (now : Instant) (delay : Duration)
    (payload : JobPayload Json) : Option (JobPayload Json) :=
  let next := { payload with id := none, attempts := payload.attempts.saturatingSucc }
  if delay = 0 then some { next with availableAt := none }
  else (now.after? delay).map fun at_ => { next with availableAt := some at_ }

/-- Clear the old reservation and push the delayed retry. -/
def release (codec : TextForm (JobPayload Json) String) (keyPrefix uuid : String)
    (now later : Instant) (delay : Duration) (payload : JobPayload Json)
    (keys : Keyspace) : Outcome Unit :=
  andThen (ack codec keyPrefix payload keys) fun _ keys =>
    match retryOf now delay payload with
    | none => (.error .panicked, keys)
    | some next => push codec keyPrefix uuid later next keys

def deadLetter (keyPrefix : String) (letter : FailedJob Json → String) (failed : FailedJob Json)
    (keys : Keyspace) : Outcome Unit :=
  command keys (lpush (failedKey keyPrefix) (letter failed) keys)
    fun keys => forgetPendingTime keyPrefix failed.queue failed.payload.id keys

end Rustasea.Queue.RedisDriver
