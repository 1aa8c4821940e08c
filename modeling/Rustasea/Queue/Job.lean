import Mathlib.Algebra.Group.Nat.Defs
import Mathlib.Algebra.GroupWithZero.Nat
import Rustasea.Library.PrefixCodec

namespace Rustasea.Queue

/-!
# Jobs, payload envelopes and retry policies

The serialized job body (`serde_json::Value`) is the type parameter `Json`.
Instants are nanoseconds since the Unix epoch and durations are nanoseconds;
`u32` counters are `Fin (2 ^ 32)`.
-/

abbrev U32 := Fin 4294967296

instance U32.neZero : NeZero 4294967296 := ⟨by decide⟩

def U32.saturatingSucc (count : U32) : U32 := ⟨min (count.val + 1) 4294967295, by omega⟩

@[simp] theorem U32.val_saturatingSucc (count : U32) :
    count.saturatingSucc.val = min (count.val + 1) 4294967295 :=
  rfl

abbrev Instant := Int

/-- A `std::time::Duration`, in nanoseconds. -/
abbrev Duration := Nat

/-- `Duration::MAX`: `u64::MAX` seconds and 999 999 999 nanoseconds. -/
def Duration.max : Duration := 18446744073709551615 * 1000000000 + 999999999

/-- Outcome of a single job execution attempt. -/
inductive JobOutcome where
  | succeeded
  | skipped
  | failed (exception : String)
  | retrying (attempt : U32) (delay : Duration) (exception : String)
  deriving DecidableEq

/-- Serialized job envelope stored on a queue. -/
structure JobPayload (Json : Type) where
  queue : String
  connection : String
  availableAt : Option Instant
  attempts : U32
  id : Option String
  job : Option String
  batchId : Option String
  payload : Json
  deriving DecidableEq

/-- `JobPayload::new`: an immediate payload, whose attempts start at one. -/
def JobPayload.new {Json : Type} (queue connection : String) (job : Option String)
    (payload : Json) : JobPayload Json where
  queue := queue
  connection := connection
  availableAt := none
  attempts := 1
  id := none
  job := job
  batchId := none
  payload := payload

/--
Dead-letter record for a permanently failed job.  `worker::dead_letter_payload`
stores the whole envelope, so `payload` is the envelope's JSON value.
-/
structure FailedJob (Json : Type) where
  id : String
  connection : String
  queue : String
  payload : JobPayload Json
  exception : String
  failedAt : Instant
  deriving DecidableEq

/-- The errors of the queue crate that the modelled functions return. -/
inductive QueueError where
  | unrouted (typeKey : String)
  | unknownConnection (connection : String)
  | serialization (message : String)
  | storeUnavailable (message : String)
  | empty (id : String)
  deriving DecidableEq

/-- Consolidated retry/timing policy attached to a job's execution. -/
structure JobPolicy where
  maxTries : U32
  backoff : Duration
  timeout : Duration
  deriving DecidableEq

namespace JobPolicy

/-- Maximum exponent applied when doubling the backoff. -/
def maxBackoffShift : Nat := 30

/-- Whether another attempt is permitted after `attempts` started attempts. -/
def allowsRetry (policy : JobPolicy) (attempts : U32) : Bool := attempts < policy.maxTries

/-- Delay before the retry that follows failed attempt `failedAttempt`. -/
def delayForAttempt (policy : JobPolicy) (failedAttempt : U32) : Duration :=
  if policy.backoff = 0 ∨ failedAttempt.val ≤ 1 then policy.backoff
  else min Duration.max (policy.backoff * 2 ^ min (failedAttempt.val - 1) maxBackoffShift)

end JobPolicy

end Rustasea.Queue
