import Rustasea.Queue.ClaimReservation
import Rustasea.Queue.Dispatch

namespace Rustasea.Queue

/-!
# The worker loop over the database driver

One pass of the loop pops an envelope, resolves its handler, runs it and
finishes the job on the driver.  What the pass did is logged; no statement
reads the log.  The outcome of the handler, the clock and the fresh ids are
choices of the environment.  The unique lease and the batch of a job are kept
in other stores, which a pass does not read.
-/

namespace WorkerLoop

variable {Json Text : Type}

/-! ## Handlers -/

/-- Why an attempt failed. -/
inductive JobError where
  | timeout
  | maxAttemptsExceeded
  | exception (message : String)
  deriving DecidableEq

def JobError.text : JobError → String
  | timeout => "job timed out"
  | maxAttemptsExceeded => "max attempts exceeded"
  | exception message => message

/-- How one execution of the captured body ended. -/
inductive Handled where
  /-- The missing-model probe suppressed the job; its body did not run. -/
  | suppressed
  | returned
  | failed (error : JobError)

def Handled.fails : Handled → Bool
  | failed _ => true
  | _ => false

/-- A factory decodes a body; the handler it gives runs under the policy. -/
abbrev HandlerFactory (Json : Type) := Json → Option JobPolicy

abbrev Handlers (Json : Type) := String → Option (HandlerFactory Json)

/-- Look up the factory of the payload's job type, and decode its body. -/
def defaultResolver (handlers : Handlers Json) (payload : JobPayload Json) :
    Option JobPolicy := do
  let key ← payload.job
  let factory ← handlers key
  factory payload.payload

def run (policy : JobPolicy) : Handled → JobOutcome
  | .suppressed => .skipped
  | .returned => .succeeded
  | .failed error =>
    if policy.allowsRetry 1 then .retrying 2 (policy.delayForAttempt 1) error.text
    else .failed error.text

/-! ## One pass -/

/-- A release: the delay, when it was asked for, and what it led to. -/
structure Release where
  delay : Duration
  now : Instant
  availableAt : Instant

/-- What a pass did. -/
inductive Event (Json : Type) where
  | handled (payload : JobPayload Json) (handled : Handled)
  | released (payload : JobPayload Json) (release : Release)
  | deadLettered (failed : FailedJob Json)

/-- The two tables, and what the passes did so far. -/
structure World (Json Text : Type) where
  jobs : JobsTable Text
  failed : FailedTable Text
  log : List (Event Json)

/-- What the environment contributes to one pass. -/
structure Work where
  handled : Handled
  utcNow : Instant
  letterId : String
  failedAt : Instant

def letter (payload : JobPayload Json) (work : Work) (exception : String) : FailedJob Json where
  id := work.letterId
  connection := payload.connection
  queue := payload.queue
  payload := payload
  exception := exception
  failedAt := work.failedAt

/-- Dead-letter a job and acknowledge it; `none` when the letter's id is used. -/
def bury (codec : Codec (JobPayload Json) Text) (rfc3339 : Instant → String)
    (payload : JobPayload Json) (failed : FailedJob Json)
    (world : World Json Text) : Option (World Json Text) :=
  (deadLetter codec rfc3339 failed world.failed).map fun letters =>
    { jobs := ack payload world.jobs
      failed := letters
      log := world.log ++ [.deadLettered failed] }

def noHandler : String := "no handler registered for job payload"

def exceptionOf : JobOutcome → String
  | .failed exception => exception
  | .retrying _ _ exception => exception
  | _ => ""

/-- Release a job; a clock addition that panics ends the worker. -/
def releaseJob (rfc3339 : Instant → String) (payload : JobPayload Json)
    (delay : Duration) (utcNow : Instant) (world : World Json Text) : World Json Text :=
  match utcNow.after? delay with
  | none => world
  | some availableAt =>
    { world with
      jobs := (release rfc3339 utcNow delay payload world.jobs).getD world.jobs
      log := world.log ++ [.released payload ⟨delay, utcNow, availableAt⟩] }

/-- Execute one reserved payload and finalize it on the driver. -/
def processOne (codec : Codec (JobPayload Json) Text) (rfc3339 : Instant → String)
    (handlers : Handlers Json) (payload : JobPayload Json) (work : Work)
    (world : World Json Text) : Option (World Json Text) :=
  match defaultResolver handlers payload with
  | none => bury codec rfc3339 payload (letter payload work noHandler) world
  | some policy =>
    let outcome := run policy work.handled
    let world := { world with log := world.log ++ [.handled payload work.handled] }
    match Dispatch.verdict policy payload outcome with
    | .finish => some { world with jobs := ack payload world.jobs }
    | .retry =>
      some (releaseJob rfc3339 payload (policy.delayForAttempt payload.attempts) work.utcNow world)
    | .bury =>
      bury codec rfc3339 payload
        (letter payload work ("JobError::MaxAttemptsExceeded: " ++ exceptionOf outcome))
        world

/-! ## Runs -/

def Event.id : Event Json → Option String
  | handled payload _ => payload.id
  | released payload _ => payload.id
  | deadLettered failed => failed.payload.id

/-- A producer's push, or one pass of a worker. -/
inductive Action (Json : Type) where
  | push (uuid : String) (now : Instant) (payload : JobPayload Json)
  | pass (queue : String) (polls : List Poll) (work : Work)

local instance lawfulNames : LawfulBEq (Option String) := inferInstance

/-- Take one step; a push comes with a uuid that no job has had. -/
def step? (codec : Codec (JobPayload Json) Text) (rfc3339 : Instant → String)
    (handlers : Handlers Json) (world : World Json Text) : Action Json → Option (World Json Text)
  | .push uuid now payload =>
    if some uuid ∈ world.log.map Event.id then none
    else
      (push codec rfc3339 uuid now payload world.jobs).map fun jobs =>
        { world with jobs := jobs }
  | .pass queue polls work =>
    match pop codec queue polls world.jobs with
    | (.ok (some payload), jobs) =>
      processOne codec rfc3339 handlers payload work { world with jobs := jobs }
    | (_, jobs) => some { world with jobs := jobs }

end WorkerLoop

namespace ErasedJob

/-!
## The erased job and its overrides

A typed job declares its budget and may override `should_retry` and
`on_timeout`.  Dispatch captures it in a `ConcreteJob`, whose `run` takes the
body out, awaits it, and classifies the result under the policy alone.  What
the environment contributes to one execution is how the awaited body ends.
-/

open WorkerLoop (JobError Handled)

variable {Body Json : Type}

/-! ## Typed jobs -/

/-- Reason a queued notification was not delivered. -/
inductive NotificationSkipReason where
  | missingModel
  | noRecipient
  deriving DecidableEq

/-- Skipped-notification diagnostic record. -/
structure NotificationSkipped where
  notification : String
  modelId : String
  reason : NotificationSkipReason
  skippedAt : Instant
  deriving DecidableEq

/-- The accessors and overrides of a `Job` implementation. -/
structure JobType (Body : Type) where
  queueName : Body → String
  tries : Body → U32
  backoff : Body → Duration
  timeout : Body → Duration
  shouldRetry : Body → U32 → JobError → Bool
  deleteWhenMissingModels : Body → Bool
  isMissingModelSuppressed : Body → Bool
  skippedNotification : Body → Option NotificationSkipped

namespace JobType

def defaultShouldRetry (tries : Body → U32) (body : Body) (attempt : U32) (_error : JobError) :
    Bool :=
  attempt < tries body

/-- A type that overrides nothing: one try, no backoff, no timeout. -/
def plain (queueName : String) : JobType Body where
  queueName _ := queueName
  tries _ := 1
  backoff _ := 0
  timeout _ := 0
  shouldRetry := defaultShouldRetry fun _ => 1
  deleteWhenMissingModels _ := false
  isMissingModelSuppressed _ := false
  skippedNotification _ := none

end JobType

/-! ## The erased job -/

/-- Concrete erased job wrapping a typed job; `run` takes the body out. -/
structure ConcreteJob (Body : Type) where
  body : Option Body
  key : String
  policy : JobPolicy
  deleteWhenMissing : Bool
  deriving DecidableEq

/-- How the awaited body ends: its result, unless the deadline elapses first. -/
structure Handling where
  elapses : Bool
  result : Except JobError Unit

namespace Handling

/-- Whether the deadline ends the attempt; a zero timeout sets no deadline. -/
def timesOut (policy : JobPolicy) (handling : Handling) : Bool :=
  policy.timeout ≠ 0 && handling.elapses

/-- The result `run` classifies. -/
def ended (policy : JobPolicy) (handling : Handling) : Except JobError Unit :=
  if handling.timesOut policy then .error .timeout else handling.result

end Handling

/-- What one execution leaves behind. -/
structure Ran (Body : Type) where
  outcome : JobOutcome
  job : ConcreteJob Body
  /-- The bodies `on_timeout` ran on before the result was classified. -/
  hooks : List Body
  /-- The skip diagnostics recorded. -/
  records : List NotificationSkipped

namespace ConcreteJob

/-- Capture a concrete job with an explicit retry/timing policy. -/
def withPolicy (jobType : JobType Body) (job : Body) (policy : JobPolicy) : ConcreteJob Body where
  body := some job
  key := jobType.queueName job
  policy := policy
  deleteWhenMissing := jobType.deleteWhenMissingModels job

/-- Capture a concrete job plus the policy of its own accessors. -/
def new (jobType : JobType Body) (job : Body) : ConcreteJob Body where
  body := some job
  key := jobType.queueName job
  policy :=
    { maxTries := jobType.tries job
      backoff := jobType.backoff job
      timeout := jobType.timeout job }
  deleteWhenMissing := jobType.deleteWhenMissingModels job

def shouldRetry (jobType : JobType Body) (attempt : U32) (error : JobError)
    (job : ConcreteJob Body) : Bool :=
  match job.body with
  | some body => jobType.shouldRetry body attempt error
  | none => job.policy.allowsRetry attempt

/-- Forward the timeout hook to the concrete job: the bodies it runs on. -/
def onTimeout (job : ConcreteJob Body) : List Body :=
  match job.body with
  | some body => [body]
  | none => []

def classify (policy : JobPolicy) : Except JobError Unit → JobOutcome
  | .ok () => .succeeded
  | .error error =>
    if policy.allowsRetry 1 then .retrying 2 (policy.delayForAttempt 1) error.text
    else .failed error.text

/--
Consume the body and execute it under the retry policy; `none` when the body
was taken before and the execution panics.
-/
def run (jobType : JobType Body) (handling : Handling) (job : ConcreteJob Body) :
    Option (Ran Body) :=
  if job.body.any jobType.isMissingModelSuppressed then
    some
      { outcome := .skipped
        job := job
        hooks := []
        records := (job.body.bind jobType.skippedNotification).toList }
  else
    job.body.map fun _ =>
      -- The body has left the job before the deadline is looked at.
      let taken := { job with body := none }
      { outcome := classify taken.policy (handling.ended taken.policy)
        job := taken
        hooks := if handling.timesOut taken.policy then taken.onTimeout else []
        records := [] }

end ConcreteJob

/-! ## One attempt in the worker -/

/-- How the attempt of a captured body ended, as the worker sees it. -/
def handled (jobType : JobType Body) (policy : JobPolicy) (body : Body)
    (handling : Handling) : Handled :=
  if jobType.isMissingModelSuppressed body then .suppressed
  else
    match handling.ended policy with
    | .ok () => .returned
    | .error error => .failed error

/-- Whether the attempt of a captured body ends by timeout. -/
def TimesOut (jobType : JobType Body) (policy : JobPolicy) (body : Body)
    (handling : Handling) : Prop :=
  jobType.isMissingModelSuppressed body = false ∧ handling.timesOut policy = true

/-- `process_one` on the handler the resolver gives: the arm, and the run. -/
def attempt (jobType : JobType Body) (payload : JobPayload Json) (handling : Handling)
    (exec : ConcreteJob Body) : Option (Dispatch.Verdict × Ran Body) :=
  (exec.run jobType handling).map fun ran => (Dispatch.verdict exec.policy payload ran.outcome, ran)

variable (jobType : JobType Body) (policy : JobPolicy)

theorem run_withPolicy (body : Body) (handling : Handling) :
    ∃ ran, (ConcreteJob.withPolicy jobType body policy).run jobType handling = some ran ∧
      ran.outcome = WorkerLoop.run policy (handled jobType policy body handling) ∧
      ran.hooks = [] := by
  cases suppressed : jobType.isMissingModelSuppressed body with
  | true =>
    refine ⟨_, if_pos suppressed, ?_, rfl⟩
    simp [handled, suppressed, WorkerLoop.run]
  | false =>
    have runs : ¬ (ConcreteJob.withPolicy jobType body policy).body.any
        jobType.isMissingModelSuppressed := by
      simp [ConcreteJob.withPolicy, suppressed]
    refine ⟨_, if_neg runs, ?_, ite_self _⟩
    simp only [handled, suppressed, ConcreteJob.withPolicy]
    -- The deadline and the body's own error are classified alike.
    cases handling.ended policy <;> rfl

variable (payload : JobPayload Json)

theorem verdict_failed (error : JobError) :
    Dispatch.verdict policy payload (WorkerLoop.run policy (.failed error)) =
      if policy.allowsRetry 1 ∧ policy.allowsRetry payload.attempts then .retry
      else
        .bury := by
  cases first : policy.allowsRetry 1 with
  | true | false => simp [WorkerLoop.run, Dispatch.verdict, first]

/-! ## What the overrides ask for -/

/-- The arm that a job's own decision asks for, within the try budget. -/
def askedFor (jobType : JobType Body) (policy : JobPolicy) (payload : JobPayload Json)
    (body : Body) (error : JobError) : Dispatch.Verdict :=
  if
      jobType.shouldRetry body payload.attempts error ∧ payload.attempts < policy.maxTries then
    .retry
  else .bury

/-- The attempt follows the overrides of the job. -/
structure Follows (jobType : JobType Body) (policy : JobPolicy) (payload : JobPayload Json)
    (body : Body) (handling : Handling) (did : Dispatch.Verdict × Ran Body) :
    Prop where
  /-- A failure is retried or buried as `should_retry` says in the budget. -/
  decision : ∀ error, handled jobType policy body handling = .failed error →
        did.1 = askedFor jobType policy payload body error
  /-- A timeout runs the hook of the job once. -/
  hook : TimesOut jobType policy body handling → did.2.hooks = [body]

/-- The overrides agree with the budget where a failed attempt needs them. -/
def Agrees (jobType : JobType Body) (policy : JobPolicy) (payload : JobPayload Json)
    (body : Body) (handling : Handling) : Prop :=
  ∀ error,
    handled jobType policy body handling = .failed error → payload.attempts < policy.maxTries →
        jobType.shouldRetry body payload.attempts error = policy.allowsRetry 1

theorem budget_eq_askedFor_iff (body : Body) (error : JobError) :
    Dispatch.verdict policy payload (WorkerLoop.run policy (.failed error)) =
        askedFor jobType policy payload body error ↔
      (payload.attempts < policy.maxTries →
        jobType.shouldRetry body payload.attempts error = policy.allowsRetry 1) := by
  rw [verdict_failed, askedFor]
  by_cases within : payload.attempts < policy.maxTries
  · have allowed : policy.allowsRetry payload.attempts = true := by
      simp [JobPolicy.allowsRetry, within]
    cases jobType.shouldRetry body payload.attempts error <;> cases policy.allowsRetry 1 <;>
      simp [allowed, within]
  · have refused : policy.allowsRetry payload.attempts = false := by
      simp [JobPolicy.allowsRetry, within]
    simp [refused, within]

/--
An attempt follows the overrides exactly when it does not end by timeout and
the override gives the answer of the budget.
-/
theorem attempt_follows_iff (body : Body) (handling : Handling) :
    (∃ did,
      attempt jobType payload handling (ConcreteJob.withPolicy jobType body policy) = some did ∧
      Follows jobType policy payload body handling did) ↔
      ¬ TimesOut jobType policy body handling ∧ Agrees jobType policy payload body handling := by
  obtain ⟨ran, runs, outcome, hooks⟩ := run_withPolicy jobType policy body handling
  have attempted : attempt jobType payload handling (ConcreteJob.withPolicy jobType body policy) =
      some (Dispatch.verdict policy payload ran.outcome, ran) := by
    rw [attempt, runs]
    rfl
  constructor
  · rintro ⟨did, does, follows⟩
    obtain rfl := Option.some.inj (attempted.symm.trans does)
    constructor
    · intro timesOut
      have ranHook := follows.hook timesOut
      simp only [hooks] at ranHook
      cases ranHook
    · intro error failed
      have decided := follows.decision error failed
      simp only [outcome, failed] at decided
      exact (budget_eq_askedFor_iff jobType policy payload body error).mp decided
  · rintro ⟨intime, agrees⟩
    refine ⟨_, attempted, ?_, fun timesOut => absurd timesOut intime⟩
    intro error failed
    simp only [outcome, failed]
    exact (budget_eq_askedFor_iff jobType policy payload body error).mpr (agrees error failed)

/-! ## A job that refuses, and a job that times out -/

/-- A job type with a decision of its own, three tries and a timeout. -/
def stubborn (decides : U32 → JobError → Bool) : JobType Unit :=
  { JobType.plain "stubborn" with
    tries := fun _ => 3
    timeout := fun _ => 1000000000
    shouldRetry := fun _ => decides }

def firstAttempt : JobPayload Unit := JobPayload.new "default" "database" (some "stubborn") ()

def stubbornPolicy : JobPolicy :=
  { maxTries := 3, backoff := 0, timeout := 1000000000 }

/-- A refused failure is retried all the same, and a timeout runs no hook. -/
theorem overrides_are_not_asked :
    (¬ ∃ did,
      attempt (stubborn fun _ _ => false) firstAttempt ⟨false, .error (.exception "refused")⟩
        (ConcreteJob.withPolicy (stubborn fun _ _ => false) () stubbornPolicy) = some did ∧
      Follows (stubborn fun _ _ => false) stubbornPolicy firstAttempt ()
        ⟨false, .error (.exception "refused")⟩ did) ∧
    ¬ ∃ did,
      attempt (stubborn fun attempt _ => attempt < 3) firstAttempt ⟨true, .ok ()⟩
        (ConcreteJob.withPolicy (stubborn fun attempt _ => attempt < 3) () stubbornPolicy) =
        some did ∧
      Follows (stubborn fun attempt _ => attempt < 3) stubbornPolicy firstAttempt () ⟨true, .ok ()⟩
        did := by
  constructor
  · rintro ⟨did, does, follows⟩
    have decided := follows.decision (.exception "refused") rfl
    obtain rfl := Option.some.inj does
    exact absurd decided (by decide)
  · rintro ⟨did, does, follows⟩
    have ranHook := follows.hook ⟨rfl, rfl⟩
    obtain rfl := Option.some.inj does
    cases ranHook

end ErasedJob

end Rustasea.Queue
