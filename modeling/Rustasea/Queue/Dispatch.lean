import Rustasea.Library.TransitionSystem
import Rustasea.Queue.DatabaseDriver
import Rustasea.Queue.UniqueLease

namespace Rustasea.Queue.Dispatch

/-!
# Dispatching and finishing unique jobs

A dispatch takes the lease, then runs the job inline or pushes its envelope; a
worker pops an envelope, runs it and finishes it.  The queue driver is any
implementation of the `QueueDriver` trait: it holds envelopes, and a call that
reports an error or panics may have done its work, none of it, or have lost
the envelope on the way.  Dead letters and batch counters are written beside
this state and never read here.
-/

variable {Json : Type}

/-! ## The driver contract -/

/-- An envelope held by a driver; a reserved one is in a worker's hands. -/
structure Held (Json : Type) where
  payload : JobPayload Json
  reserved : Bool

/-- What a failing driver call did to its envelope. -/
inductive Effect where
  | untouched
  | applied
  | lost
  deriving DecidableEq

/-- A failing driver call: the error it returns, or `none` when it panics. -/
structure DriverFault where
  error : Option QueueError
  effect : Effect

/-- How an `async fn` ends: `none` when it panics. -/
abbrev Ended (Result : Type) := Option (Except QueueError Result)

/-- The end of a driver call and what the driver holds after it. -/
def settle (fault : Option DriverFault) (before applied lost : List (Held Json)) :
    Ended Unit × List (Held Json) :=
  match fault with
  | none => (some (.ok ()), applied)
  | some failed =>
    (failed.error.map .error,
      match failed.effect with
      | .untouched => before
      | .applied => applied
      | .lost => lost)

def driverPush (fault : Option DriverFault) (payload : JobPayload Json)
    (held : List (Held Json)) : Ended Unit × List (Held Json) :=
  settle fault held (held ++ [{ payload := payload, reserved := false }])
    held

/-- `QueueDriver::pop` on the envelope it chooses. -/
def driverPop (fault : Option DriverFault) (index : Nat) (payload : JobPayload Json)
    (held : List (Held Json)) : Ended Unit × List (Held Json) :=
  settle fault held (held.set index { payload := payload, reserved := true })
    (held.eraseIdx index)

def driverAck (fault : Option DriverFault) (index : Nat) (held : List (Held Json)) :
    Ended Unit × List (Held Json) :=
  settle fault held (held.eraseIdx index) (held.eraseIdx index)

/-- The envelope `QueueDriver::release` re-enqueues. -/
def retried (payload : JobPayload Json) (availableAt : Option Instant) : JobPayload Json :=
  { payload with attempts := payload.attempts.saturatingSucc, availableAt := availableAt }

/-- `available_at` of a delayed envelope; the inner `none` means at once. -/
def availability? (utcNow : Instant) (delay : Duration) : Option (Option Instant) :=
  if delay = 0 then some none
  else (utcNow.after? delay).map some

/-- `QueueDriver::release`; it panics past the last representable instant. -/
def driverRelease (fault : Option DriverFault) (index : Nat) (payload : JobPayload Json)
    (delay : Duration) (utcNow : Instant) (held : List (Held Json)) :
    Ended Unit × List (Held Json) :=
  match availability? utcNow delay with
  | none => (none, held)
  | some availableAt =>
    settle fault held (held.set index { payload := retried payload availableAt, reserved := false })
      (held.eraseIdx index)

/-! ## Dispatching -/

/-- A resolved route: connection and queue for one job type. -/
structure Route where
  connection : String
  queue : String
  deriving DecidableEq

/-- What the application registered at boot. -/
structure Registry (Json : Type) where
  routes : String → Option Route
  drivers : String → Bool
  unique : UniqueRegistry Json
  resolver : JobPayload Json → Option JobPolicy

/-- `SYNC_CONNECTION`: the connection that executes jobs inline. -/
def syncConnection : String := "sync"

/-- A dispatch handle: the erased job and its per-dispatch overrides. -/
structure DispatchHandle (Json : Type) where
  typeKey : String
  body : Json
  queue : Option String
  connection : Option String
  delay : Duration
  batchId : Option String
  deriving DecidableEq

/-- Outcome of a dispatch that honours unique leases. -/
inductive DispatchOutcome where
  | enqueued (jobId : String)
  | deduplicated (uniqueId : String)
  deriving DecidableEq

/-- Stores, drivers and the monotonic clock. -/
structure World (Json : Type) where
  clock : Nat
  uniqueStore : UniqueStore
  held : List (Held Json)

/-- What the environment contributes to one dispatch. -/
structure Surroundings where
  utcNow : Instant
  uuid : String
  jobId : String
  push : Option DriverFault

/-- An override wins over the route; without either the job is unrouted. -/
def chosen (typeKey : String) (override routed : Option String) : Except QueueError String :=
  match override, routed with
  | some name, _ => .ok name
  | none, some name => .ok name
  | none, none => .error (.unrouted typeKey)

def Registry.connection (registry : Registry Json)
    (handle : DispatchHandle Json) : Except QueueError String :=
  chosen handle.typeKey handle.connection ((registry.routes handle.typeKey).map Route.connection)

def Registry.queue (registry : Registry Json)
    (handle : DispatchHandle Json) : Except QueueError String :=
  chosen handle.typeKey handle.queue ((registry.routes handle.typeKey).map Route.queue)

/-- The serialized envelope of a dispatch; `none` when the addition panics. -/
def toPayload (handle : DispatchHandle Json) (queue connection : String)
    (utcNow : Instant) : Option (JobPayload Json) :=
  (availability? utcNow handle.delay).map fun availableAt =>
    { queue := queue
      connection := connection
      availableAt := availableAt
      attempts := 1
      id := none
      job := some handle.typeKey
      batchId := handle.batchId
      payload := handle.body }

def giveBack (registry : Registry Json) (handle : DispatchHandle Json) (leased : Bool)
    (world : World Json) : World Json :=
  if leased then
    { world with
      uniqueStore := releaseUnique registry.unique handle.typeKey handle.body world.uniqueStore }
  else world

/-- The part of a dispatch after its lease is settled. -/
def enqueue (registry : Registry Json) (handle : DispatchHandle Json)
    (surroundings : Surroundings) (connection queue : String) (leased : Bool)
    (world : World Json) : Ended DispatchOutcome × World Json :=
  if connection = syncConnection then
    -- Every outcome of the inline execution is mapped to `Enqueued`.
    (some (.ok (.enqueued surroundings.jobId)), giveBack registry handle leased world)
  else
    match toPayload handle queue connection surroundings.utcNow with
    | none => (none, world)
    | some payload =>
      if registry.drivers connection then
        match driverPush surroundings.push payload world.held with
        | (some (.ok ()), held) =>
          (some (.ok (.enqueued surroundings.jobId)), { world with held := held })
        | (some (.error error), held) =>
          (some (.error error), giveBack registry handle leased { world with held := held })
        | (none, held) => (none, { world with held := held })
      else
        -- The `?` on the driver lookup returns before any release.
        (some (.error (.unknownConnection connection)), world)

/-- `dispatch_outcome`: resolve the route, honour the lease, enqueue. -/
def dispatchOutcome (registry : Registry Json) (handle : DispatchHandle Json)
    (surroundings : Surroundings) (world : World Json) : Ended DispatchOutcome × World Json :=
  match registry.connection handle with
  | .error error => (some (.error error), world)
  | .ok connection =>
    match registry.queue handle with
    | .error error => (some (.error error), world)
    | .ok queue =>
      match acquireLease registry.unique world.clock surroundings.uuid
          handle.typeKey handle.body world.uniqueStore with
      | (.held uniqueId, store) =>
        (some (.ok (.deduplicated uniqueId)), { world with uniqueStore := store })
      | (leaseState, store) =>
        enqueue registry handle surroundings connection queue
          leaseState.isAcquired { world with uniqueStore := store }

/-! ## Finishing -/

/-- One run of a popped job, with the faults of the driver calls after it. -/
structure Attempt where
  outcome : JobOutcome
  utcNow : Instant
  deadLetter : Option DriverFault
  ack : Option DriverFault
  release : Option DriverFault

/-- Continue after an awaited call that returned `Ok`. -/
def andThen (call : Ended Unit × World Json)
    (next : World Json → Ended Unit × World Json) : Ended Unit × World Json :=
  match call with
  | (some (.ok ()), world) => next world
  | ended => ended

/-- `dead_letter` leaves the held envelopes alone. -/
def deadLetter (attempt : Attempt) (world : World Json) : Ended Unit × World Json :=
  ((settle attempt.deadLetter world.held world.held world.held).1, world)

/-- `ack` on the popped envelope. -/
def acknowledge (attempt : Attempt) (index : Nat) (world : World Json) : Ended Unit × World Json :=
  ((driverAck attempt.ack index world.held).1,
    { world with held := (driverAck attempt.ack index world.held).2 })

def letGo (registry : Registry Json) (payload : JobPayload Json)
    (world : World Json) : Ended Unit × World Json :=
  (some (.ok ()),
    { world with uniqueStore := releaseLease registry.unique payload world.uniqueStore })

/-- What the worker does with the outcome of a job. -/
inductive Verdict where
  | finish
  | retry
  | bury
  deriving DecidableEq

/-- The arm of `process_one` an outcome selects. -/
def verdict (policy : JobPolicy) (payload : JobPayload Json) (outcome : JobOutcome) : Verdict :=
  match outcome with
  | .succeeded | .skipped => .finish
  | .retrying _ _ _ =>
    if policy.allowsRetry payload.attempts then .retry else .bury
  | .failed _ => .bury

/-- `process_one` on the reserved envelope at `index`. -/
def processOne (registry : Registry Json) (index : Nat) (payload : JobPayload Json)
    (attempt : Attempt) (world : World Json) : Ended Unit × World Json :=
  match registry.resolver payload with
  | none =>
    -- A missing handler buries the job without releasing its lease.
    andThen (deadLetter attempt world) (acknowledge attempt index)
  | some policy =>
    match verdict policy payload attempt.outcome with
    | .finish => andThen (acknowledge attempt index world) (letGo registry payload)
    | .retry =>
      let call := driverRelease attempt.release index payload
          (policy.delayForAttempt payload.attempts)
          attempt.utcNow world.held
      (call.1, { world with held := call.2 })
    | .bury =>
      andThen (deadLetter attempt world) fun buried =>
        andThen (acknowledge attempt index buried) (letGo registry payload)

/-! ## Runs -/

/-- One step of the application, with every choice of the environment. -/
inductive Action (Json : Type) where
  | tick (elapsed : Nat)
  | dispatch (handle : DispatchHandle Json) (surroundings : Surroundings)
  | pop (index : Nat) (fault : Option DriverFault)
  | process (index : Nat) (attempt : Attempt)

/-- The envelope at `index`, in the given state of reservation. -/
def World.envelope? (world : World Json) (index : Nat)
    (reserved : Bool) : Option (JobPayload Json) :=
  match world.held[index]? with
  | none => none
  | some entry =>
    if entry.reserved = reserved then some entry.payload else none

def step? (registry : Registry Json) (world : World Json)
    (action : Action Json) : Option (World Json) :=
  match action with
  | .tick elapsed => some { world with clock := world.clock + elapsed }
  | .dispatch handle surroundings => some (dispatchOutcome registry handle surroundings world).2
  | .pop index fault =>
    (world.envelope? index false).map fun payload =>
      { world with held := (driverPop fault index payload world.held).2 }
  | .process index attempt =>
    (world.envelope? index true).map fun payload =>
      (processOne registry index payload attempt world).2

/-- The application at boot, with or without a lock store installed. -/
def boot (installed : Bool) : World Json where
  clock := 0
  uniqueStore := if installed then some .new else none
  held := []

end Rustasea.Queue.Dispatch
