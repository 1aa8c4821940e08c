import Rustasea.Queue.RowClaim
import Rustasea.Queue.ErasedJob

namespace Rustasea.Queue.WorkerLoop

open TransitionSystem List Option

/-!
# The retry budget

A job is handled once for each try of its policy, and no more: the attempts
column counts the releases, and a failure is released while the count is below
the tries.  The one thing that breaks this is a retry whose instant cannot be
represented: the clock addition then panics, and the row stays reserved.
-/

variable {Json Text : Type}

/-! ## What the log says of a job -/

@[grind =]
def handledOf (id : String) (log : List (Event Json)) : List Handled :=
  log.filterMap fun event =>
    match event with
    | .handled payload handled =>
      if payload.id = some id then some handled else none
    | _ => none

@[grind =]
def releasesOf (id : String) (log : List (Event Json)) : List Release :=
  log.filterMap fun event =>
    match event with
    | .released payload release =>
      if payload.id = some id then some release else none
    | _ => none

@[grind =]
def lettersOf (id : String) (log : List (Event Json)) : List (FailedJob Json) :=
  log.filterMap fun event =>
    match event with
    | .deadLettered failed =>
      if failed.payload.id = some id then some failed else none
    | _ => none

section Log

variable (id : String) (log events : List (Event Json))

@[simp] theorem handledOf_append :
    handledOf id (log ++ events) = handledOf id log ++ handledOf id events :=
  filterMap_append

@[simp] theorem releasesOf_append :
    releasesOf id (log ++ events) = releasesOf id log ++ releasesOf id events :=
  filterMap_append

@[simp] theorem lettersOf_append :
    lettersOf id (log ++ events) = lettersOf id log ++ lettersOf id events :=
  filterMap_append

end Log

/-! ## The budget -/

def budget (policy : JobPolicy) : Nat := max 1 policy.maxTries.val

def exponentialBackoff (backoff : Duration) (attempt : Nat) : Duration :=
  min Duration.max (backoff * 2 ^ min (attempt - 1) JobPolicy.maxBackoffShift)

def backoffs (backoff : Duration) (count : Nat) : List Duration :=
  (List.range count).map fun earlier => exponentialBackoff backoff (earlier + 1)

/-- The job was released so often, after the delays of its policy. -/
structure Released (policy : JobPolicy) (id : String) (log : List (Event Json))
    (count : Nat) : Prop where
  delays : (releasesOf id log).map Release.delay = backoffs policy.backoff count
  ascending : ((releasesOf id log).map Release.delay).Pairwise (· ≤ ·)
  exact : ∀ release ∈ releasesOf id log, release.availableAt = release.now + release.delay

/-- Every attempt so far failed and was released, and there are more. -/
structure Retrying (policy : JobPolicy) (id : String) (log : List (Event Json)) : Prop where
  failed : ∀ handled ∈ handledOf id log, handled.fails = true
  within : (handledOf id log).length < budget policy
  unburied : lettersOf id log = []
  released : Released policy id log (handledOf id log).length

/--
The last attempt ended the job: it did not fail, and there is no dead letter; or
it was the last of the budget, and there is one.
-/
def Ended (policy : JobPolicy) (id : String) (log : List (Event Json)) : Prop :=
  ∃ earlier last, handledOf id log = earlier ++ [last] ∧
      (∀ handled ∈ earlier, handled.fails = true) ∧ Released policy id log earlier.length ∧
      earlier.length < budget policy ∧
      if last.fails = true then earlier.length + 1 = budget policy ∧ (lettersOf id log).length = 1
      else lettersOf id log = []

/--
A job that is in the queue can be popped again and was retried within its
budget; a job that left the queue ended as its last attempt says.
-/
structure KeepsBudget (policy : JobPolicy) (id : String) (world : World Json Text) : Prop where
  queued :
    ∀ row ∈ world.jobs, row.id = some id → row.reservedAt = none ∧ Retrying policy id world.log
  gone : (∀ row ∈ world.jobs, row.id ≠ some id) → Ended policy id world.log

@[grind =] def popped? (codec : Codec (JobPayload Json) Text) (queue : String)
    (polls : List Poll) (table : JobsTable Text) : Option (JobPayload Json) :=
  match (pop codec queue polls table).1 with
  | .ok found => found
  | .error _ => none

/-- A retry of the job becomes available at an instant that exists. -/
def Representable (codec : Codec (JobPayload Json) Text) (handlers : Handlers Json)
    (id : String) (world : World Json Text) : Action Json → Prop
  | .push _ _ _ => True
  | .pass queue polls work =>
    ∀ payload ∈ popped? codec queue polls world.jobs, ∀ policy ∈ defaultResolver handlers payload,
        payload.id = some id → Dispatch.verdict policy payload (run policy work.handled) = .retry →
            work.utcNow.after? (policy.delayForAttempt payload.attempts) =
              some (work.utcNow + policy.delayForAttempt payload.attempts)

instance (codec : Codec (JobPayload Json) Text) (handlers : Handlers Json)
    (id : String) (world : World Json Text) (action : Action Json) :
    Decidable (Representable codec handlers id world action) := by
  cases action <;> unfold Representable <;> infer_instance

/-! ## The policy -/

variable {policy : JobPolicy}

theorem delayForAttempt_eq (isDuration : policy.backoff ≤ Duration.max) (attempt : U32) :
    policy.delayForAttempt attempt = exponentialBackoff policy.backoff attempt.val := by
  unfold JobPolicy.delayForAttempt exponentialBackoff
  split
  · next isBase =>
    rcases isBase with none | first
    · rw [none, Nat.zero_mul, Nat.min_zero]
    · rw [Nat.sub_eq_zero_of_le first, Nat.zero_min, Nat.pow_zero, Nat.mul_one]
      exact (Nat.min_eq_right isDuration).symm
  · rfl

variable (backoff : Duration)

theorem exponentialBackoff_mono {first second : Nat} (before : first ≤ second) :
    exponentialBackoff backoff first ≤ exponentialBackoff backoff second := by
  have shifts :
      min (first - 1) JobPolicy.maxBackoffShift ≤ min (second - 1) JobPolicy.maxBackoffShift := by
    exact min_le_min_right _ (Nat.sub_le_sub_right before 1)
  have factors := Nat.pow_le_pow_right Nat.two_pos shifts
  have delays := Nat.mul_le_mul_left backoff factors
  exact le_min (min_le_left _ _) ((min_le_right _ _).trans delays)

theorem backoffs_succ (count : Nat) :
    backoffs backoff (count + 1) =
      backoffs backoff count ++ [exponentialBackoff backoff (count + 1)] := by
  unfold backoffs
  rw [range_succ, map_append]
  rfl

theorem backoffs_ascending (count : Nat) : (backoffs backoff count).Pairwise (· ≤ ·) := by
  refine pairwise_map.mpr ?_
  refine List.Pairwise.imp ?_ (pairwise_lt_range)
  intro first second before
  exact exponentialBackoff_mono backoff (Nat.succ_le_succ before.le)

variable {count : Nat}

theorem Released.congr {id : String} {log after : List (Event Json)}
    (released : Released policy id log count) (same : releasesOf id after = releasesOf id log) :
    Released policy id after count where
  delays := by
    rw [same]
    exact released.delays
  ascending := by
    rw [same]
    exact released.ascending
  exact := by
    rw [same]
    exact released.exact

theorem Released.next {id : String} {log after : List (Event Json)}
    (released : Released policy id log count) {release : Release}
    (isLast : releasesOf id after = releasesOf id log ++ [release])
    (isDelay : release.delay = exponentialBackoff policy.backoff (count + 1))
    (isExact : release.availableAt = release.now + release.delay) :
    Released policy id after (count + 1) := by
  have delays : (releasesOf id after).map Release.delay = backoffs policy.backoff (count + 1) := by
    rw [isLast, map_append, released.delays, backoffs_succ, map_singleton, isDelay]
  refine ⟨delays, ?_, ?_⟩
  · rw [delays]
    exact backoffs_ascending policy.backoff (count + 1)
  · intro other isIn
    rw [isLast] at isIn
    rcases mem_append.mp isIn with isOld | isNew
    · exact released.exact other isOld
    · obtain rfl := mem_singleton.mp isNew
      exact isExact

theorem verdict_run (policy : JobPolicy) (payload : JobPayload Json) (handled : Handled) :
    Dispatch.verdict policy payload (run policy handled) =
      if handled.fails = true then
        if policy.allowsRetry 1 = true ∧ policy.allowsRetry payload.attempts = true then
          .retry
        else .bury
      else
        .finish := by
  cases handled with
  | suppressed => rfl
  | returned => rfl
  | failed error =>
    have runs : run policy (.failed error) =
        if policy.allowsRetry 1 = true then .retrying 2 (policy.delayForAttempt 1) error.text
        else .failed error.text :=
      rfl
    have fails : (Handled.failed error).fails = true := rfl
    rw [runs, if_pos fails]
    by_cases first : policy.allowsRetry 1 = true
    · rw [if_pos first]
      by_cases more : policy.allowsRetry payload.attempts = true
      · rw [if_pos ⟨first, more⟩, Dispatch.verdict, if_pos more]
      · rw [if_neg fun both => more both.2, Dispatch.verdict, if_neg more]
    · rw [if_neg first, if_neg fun both => first both.1]
      rfl

theorem allowsRetry_iff {attempts : U32}
    (inTurn : attempts.val = count + 1 ∨ policy.maxTries.val ≤ 1) :
    (policy.allowsRetry 1 = true ∧ policy.allowsRetry attempts = true) ↔
      count + 1 < budget policy := by
  have first : policy.allowsRetry 1 = true ↔ 1 < policy.maxTries.val := decide_eq_true_iff
  have more : policy.allowsRetry attempts = true ↔ attempts.val < policy.maxTries.val :=
    decide_eq_true_iff
  rw [first, more]
  unfold budget
  omega

/-! ## A pass over another job -/

/-- The step is about other jobs: the row and the log of this one are kept. -/
structure Keeps (id : String) (world after : World Json Text) : Prop where
  rows : ∀ row, row.id = some id → (row ∈ after.jobs ↔ row ∈ world.jobs)
  handled : handledOf id after.log = handledOf id world.log
  releases : releasesOf id after.log = releasesOf id world.log
  letters : lettersOf id after.log = lettersOf id world.log

section Other

variable {codec : Codec (JobPayload Json) Text} {rfc3339 : Instant → String}
  {handlers : Handlers Json} {id : String} {payload : JobPayload Json}
  (isOther : payload.id ≠ some id)

include isOther

theorem mem_ack_of_ne {table : JobsTable Text} {row : JobRow Text} (isRow : row.id = some id) :
    row ∈ ack payload table ↔ row ∈ table := by
  cases payloadId : payload.id with
  | none => rw [ack, payloadId]
  | some other =>
    rw [Workers.mem_ack payloadId, isRow]
    refine and_iff_left ?_
    rw [← payloadId]
    exact Ne.symm isOther

theorem mem_release_of_ne {now : Instant} {delay : Duration} {table after : JobsTable Text}
    (released : release rfc3339 now delay payload table = some after)
    {row : JobRow Text} (isRow : row.id = some id) : row ∈ after ↔ row ∈ table := by
  cases payloadId : payload.id with
  | none =>
    rw [release, payloadId] at released
    rw [Option.some.inj released]
  | some other =>
    obtain ⟨availableAt, isAfter⟩ := Workers.mem_release payloadId released
    rw [payloadId] at isOther
    rw [isAfter row, isRow]
    constructor
    · rintro (⟨isIn, -⟩ | ⟨before, -, isBefore, rfl⟩)
      · exact isIn
      · have sameId : before.id = some id := isRow
        exact absurd (isBefore.symm.trans sameId) isOther
    · exact fun isIn => .inl ⟨isIn, Ne.symm isOther⟩

theorem keeps_bury {failed : FailedJob Json} {world after : World Json Text}
    (isLetter : failed.payload = payload)
    (buried : bury codec rfc3339 payload failed world = some after) : Keeps id world after := by
  obtain ⟨letters, -, rfl⟩ := map_eq_some_iff.mp buried
  subst isLetter
  refine ⟨fun row isRow => mem_ack_of_ne isOther isRow, ?_, ?_, ?_⟩
  · simp [handledOf]
  · simp [releasesOf]
  · simp [lettersOf, isOther]

theorem keeps_releaseJob (delay : Duration) (utcNow : Instant) (world : World Json Text) :
    Keeps id world (releaseJob rfc3339 payload delay utcNow world) := by
  unfold releaseJob
  cases available : utcNow.after? delay with
  | none => exact ⟨fun _ _ => Iff.rfl, rfl, rfl, rfl⟩
  | some availableAt =>
    refine ⟨fun row isRow => ?_, ?_, ?_, ?_⟩
    · cases released :
          release rfc3339 utcNow delay payload world.jobs with
      | none => exact Iff.rfl
      | some jobs => exact mem_release_of_ne isOther released isRow
    · simp [handledOf]
    · simp [releasesOf, isOther]
    · simp [lettersOf]

theorem keeps_processOne {work : Work} {world after : World Json Text}
    (processed : processOne codec rfc3339 handlers payload work world = some after) :
    Keeps id world after := by
  unfold processOne at processed
  cases resolved : defaultResolver handlers payload with
  | none =>
    simp only [resolved] at processed
    exact keeps_bury isOther rfl processed
  | some policy =>
    have logged : Keeps id world
          { world with
            log := world.log ++ [.handled payload work.handled] } := by
      refine ⟨fun _ _ => Iff.rfl, ?_, ?_, ?_⟩
      · simp [handledOf, isOther]
      · simp [releasesOf]
      · simp [lettersOf]
    have finishes : Keeps id
          { world with log := world.log ++ [.handled payload work.handled] }
          after →
        Keeps id world after :=
      fun rest =>
        ⟨fun row isRow => (rest.rows row isRow).trans (logged.rows row isRow),
          rest.handled.trans logged.handled, rest.releases.trans logged.releases,
          rest.letters.trans logged.letters⟩
    simp only [resolved] at processed
    cases taken : Dispatch.verdict policy payload (run policy work.handled) with
    | finish =>
      rw [taken] at processed
      cases processed
      exact finishes ⟨fun row isRow => mem_ack_of_ne isOther isRow, rfl, rfl, rfl⟩
    | retry =>
      rw [taken] at processed
      cases processed
      exact finishes (keeps_releaseJob isOther _ _ _)
    | bury =>
      rw [taken] at processed
      exact finishes (keeps_bury isOther rfl processed)

end Other

/-! ## A pass over the job -/

structure HoldsJob (text : Text) (envelope : JobPayload Json) (id : String) (attempts : U32)
    (row : JobRow Text) : Prop where
  isRow : row.id = some id
  hasText : row.payload = some text
  counts : (row.attempts.bind U32.tryFrom).getD envelope.attempts = attempts

def handedOut (envelope : JobPayload Json) (id : String) (attempts : U32) : JobPayload Json :=
  { envelope with attempts := attempts, id := some id }

theorem attempts_released (row : JobRow Text) (availableAt : String) (attempts other : U32) :
    ((row.released availableAt attempts).attempts.bind U32.tryFrom).getD other = attempts := by
  have column : (row.released availableAt attempts).attempts = some (attempts.val : Int) := rfl
  rw [column, bind_some, U32.tryFrom_val, getD_some]

/-- Where the job stands: it waits for its next attempt, or it has ended. -/
inductive Stage (text : Text) (envelope : JobPayload Json) (policy : JobPolicy) (id : String)
    (world : World Json Text) : Prop where
  | queued (row : JobRow Text) (attempts : U32) (isIn : row ∈ world.jobs)
      (holds : HoldsJob text envelope id attempts row) (isFree : row.reservedAt = none)
      (inTurn : attempts.val = (handledOf id world.log).length + 1 ∨ policy.maxTries.val ≤ 1)
      (retrying : Retrying policy id world.log)
  | ended (isGone : ∀ row ∈ world.jobs, row.id ≠ some id) (ended : Ended policy id world.log)

/-- The row is stuck in a reservation, or a release went elsewhere. -/
inductive Broken (text : Text) (id : String) (world : World Json Text) : Prop where
  | stuck (row : JobRow Text) (isIn : row ∈ world.jobs) (isRow : row.id = some id)
      (hasText : row.payload = some text) (isReserved : row.reservedAt ≠ none)
  | displaced (release : Release) (isIn : release ∈ releasesOf id world.log)
      (differs : release.availableAt ≠ release.now + release.delay)

section Own

variable {codec : Codec (JobPayload Json) Text} {rfc3339 : Instant → String}
  {handlers : Handlers Json} {text : Text} {envelope : JobPayload Json} {policy : JobPolicy}
  {id : String} {attempts : U32} {row : JobRow Text} {work : Work} {world after : World Json Text}

def Retries (policy : JobPolicy) (attempts : U32) (handled : Handled) : Prop :=
  handled.fails = true ∧ policy.allowsRetry 1 = true ∧ policy.allowsRetry attempts = true

theorem verdict_of_retries (retries : Retries policy attempts work.handled) :
    Dispatch.verdict policy (handedOut envelope id attempts) (run policy work.handled) =
      .retry := by
  rw [verdict_run, if_pos retries.1]
  exact if_pos retries.2

theorem ended_of_bury (retrying : Retrying policy id world.log) (handled : Handled)
    (fails : handled.fails = true) (isLast : (handledOf id world.log).length + 1 = budget policy)
    (failed : FailedJob Json) (isLetter : failed.payload = handedOut envelope id attempts)
    (buried : bury codec rfc3339 (handedOut envelope id attempts) failed
        { world with log := world.log ++ [.handled (handedOut envelope id attempts) handled] } =
      some after) :
    Stage text envelope policy id after := by
  obtain ⟨letters, -, rfl⟩ := map_eq_some_iff.mp buried
  refine .ended ?_ ?_
  · intro row isIn
    exact (Workers.mem_ack rfl |>.mp isIn).2
  · refine ⟨handledOf id world.log, handled, ?_, retrying.failed, ?_, ?_, ?_⟩
    · simp [handledOf, handedOut]
    · exact retrying.released.congr (by simp [releasesOf])
    · exact retrying.within
    · rw [if_pos fails]
      refine ⟨isLast, ?_⟩
      rw [lettersOf_append, lettersOf_append, retrying.unburied]
      simp [lettersOf, isLetter, handedOut]

variable (log : List (Event Json))

theorem handledOf_handled (handled : Handled) :
    handledOf id (log ++ [.handled (handedOut envelope id attempts) handled]) =
      handledOf id log ++ [handled] := by
  simp [handledOf, handedOut]

theorem releasesOf_handled (payload : JobPayload Json) (handled : Handled) :
    releasesOf id (log ++ [.handled payload handled]) = releasesOf id log := by
  simp [releasesOf]

theorem lettersOf_handled (payload : JobPayload Json)
    (handled : Handled) : lettersOf id (log ++ [.handled payload handled]) = lettersOf id log := by
  simp [lettersOf]

theorem ended_of_finish (retrying : Retrying policy id world.log) {handled : Handled}
    (succeeds : ¬handled.fails = true) :
    Stage text envelope policy id
      { jobs := ack (handedOut envelope id attempts) world.jobs
        failed := world.failed
        log :=
          world.log ++ [.handled (handedOut envelope id attempts) handled] } := by
  refine .ended ?_ ?_
  · intro row isIn
    exact (Workers.mem_ack rfl |>.mp isIn).2
  · refine
      ⟨handledOf id world.log, handled, handledOf_handled _ _,
        retrying.failed, ?_, retrying.within, ?_⟩
    · exact retrying.released.congr (releasesOf_handled _ _ _)
    · rw [if_neg succeeds, lettersOf_handled]
      exact retrying.unburied

/-- A retry puts the row back with one more attempt. -/
theorem queued_of_retry (isDuration : policy.backoff ≤ Duration.max)
    (retrying : Retrying policy id world.log) (isIn : row ∈ world.jobs)
    (holds : HoldsJob text envelope id attempts row)
    (inTurn : attempts.val = (handledOf id world.log).length + 1 ∨ policy.maxTries.val ≤ 1)
    {handled : Handled} (retries : Retries policy attempts handled) {utcNow : Instant}
    (available : utcNow.after? (policy.delayForAttempt attempts) =
        some (utcNow + policy.delayForAttempt attempts)) :
    Stage text envelope policy id (releaseJob rfc3339 (handedOut envelope id attempts)
        (policy.delayForAttempt attempts) utcNow
        { world with
          log :=
            world.log ++ [.handled (handedOut envelope id attempts) handled] }) := by
  have more := (allowsRetry_iff inTurn).mp retries.2
  have turn : attempts.val = (handledOf id world.log).length + 1 := by
    rcases inTurn with turn | single
    · exact turn
    · unfold budget at more
      omega
  have released : ∃ jobs, release rfc3339 utcNow (policy.delayForAttempt attempts)
        (handedOut envelope id attempts) world.jobs =
      some jobs := by
    unfold release
    simp only [handedOut, available, map_some]
    exact ⟨_, rfl⟩
  obtain ⟨jobs, released⟩ := released
  obtain ⟨availableAt, isAfter⟩ := Workers.mem_release rfl released
  unfold releaseJob
  simp only [available, released, getD_some]
  have isReleased : row.released availableAt attempts.saturatingSucc ∈ jobs :=
    (isAfter _).mpr (.inr ⟨row, isIn, holds.isRow, rfl⟩)
  have handledNow : handledOf id
        (world.log ++ [.handled (handedOut envelope id attempts) handled] ++
          [.released (handedOut envelope id attempts) ⟨policy.delayForAttempt attempts, utcNow,
              utcNow + policy.delayForAttempt attempts⟩]) =
      handledOf id world.log ++ [handled] := by
    rw [handledOf_append, handledOf_handled]
    simp [handledOf]
  have releasesNow : releasesOf id
        (world.log ++ [.handled (handedOut envelope id attempts) handled] ++
          [.released (handedOut envelope id attempts) ⟨policy.delayForAttempt attempts, utcNow,
              utcNow + policy.delayForAttempt attempts⟩]) =
      releasesOf id world.log ++ [⟨policy.delayForAttempt attempts, utcNow,
          utcNow + policy.delayForAttempt attempts⟩] := by
    rw [releasesOf_append, releasesOf_handled]
    simp [releasesOf, handedOut]
  refine .queued _ attempts.saturatingSucc isReleased
    ⟨holds.isRow, holds.hasText, ?_⟩ rfl ?_ ⟨?_, ?_, ?_, ?_⟩
  · exact attempts_released row availableAt _ envelope.attempts
  · left
    rw [handledNow, U32.val_saturatingSucc, length_append, length_singleton, turn]
    have bound := policy.maxTries.isLt
    unfold budget at more
    omega
  · rw [handledNow]
    intro other isHandled
    rcases mem_append.mp isHandled with isOld | isNew
    · exact retrying.failed other isOld
    · obtain rfl := mem_singleton.mp isNew
      exact retries.1
  · rw [handledNow, length_append, length_singleton]
    exact more
  · rw [lettersOf_append, lettersOf_handled, retrying.unburied]
    simp [lettersOf]
  · rw [handledNow, length_append, length_singleton]
    refine retrying.released.next releasesNow ?_ rfl
    rw [delayForAttempt_eq isDuration, turn]

theorem stage_of_processOne (registered : defaultResolver handlers envelope = some policy)
    (isDuration : policy.backoff ≤ Duration.max) (retrying : Retrying policy id world.log)
    (isIn : row ∈ world.jobs) (holds : HoldsJob text envelope id attempts row)
    (inTurn : attempts.val = (handledOf id world.log).length + 1 ∨ policy.maxTries.val ≤ 1)
    (available : Retries policy attempts work.handled →
      work.utcNow.after? (policy.delayForAttempt attempts) =
        some (work.utcNow + policy.delayForAttempt attempts))
    (processed : processOne codec rfc3339 handlers (handedOut envelope id attempts) work
      world = some after) :
    Stage text envelope policy id after := by
  have resolved : defaultResolver handlers (handedOut envelope id attempts) = some policy :=
    registered
  unfold processOne at processed
  simp only [resolved] at processed
  by_cases fails : work.handled.fails = true
  · by_cases more : policy.allowsRetry 1 = true ∧ policy.allowsRetry attempts = true
    · rw [verdict_of_retries ⟨fails, more⟩] at processed
      cases processed
      exact queued_of_retry isDuration retrying isIn holds inTurn ⟨fails, more⟩
        (available ⟨fails, more⟩)
    · have buries : Dispatch.verdict policy (handedOut envelope id attempts)
            (run policy work.handled) =
          .bury := by
        rw [verdict_run, if_pos fails]
        exact if_neg more
      rw [buries] at processed
      have isLast : (handledOf id world.log).length + 1 = budget policy := by
        rw [allowsRetry_iff inTurn] at more
        have within := retrying.within
        omega
      exact ended_of_bury retrying work.handled fails isLast _ rfl processed
  · have finishes : Dispatch.verdict policy (handedOut envelope id attempts)
          (run policy work.handled) =
        .finish := by
      rw [verdict_run, if_neg fails]
    rw [finishes] at processed
    cases processed
    exact ended_of_finish retrying fails

end Own

/-! ## Runs -/

section Runs

variable {codec : Codec (JobPayload Json) Text} {rfc3339 : Instant → String}
  {handlers : Handlers Json} {text : Text} {envelope : JobPayload Json} {policy : JobPolicy}
  {id : String} {world after : World Json Text} {uuid : String} {now : Instant}
  {payload : JobPayload Json}

theorem exists_of_push
    (taken : step? codec rfc3339 handlers world (.push uuid now payload) = some after) :
    some uuid ∉ world.log.map Event.id ∧
      ∃ jobs, push codec rfc3339 uuid now payload world.jobs = some jobs ∧
        after = { world with jobs := jobs } := by
  have steps : step? codec rfc3339 handlers world (.push uuid now payload) =
        if some uuid ∈ world.log.map Event.id then none
        else
          (push codec rfc3339 uuid now payload world.jobs).map fun jobs =>
            { world with jobs := jobs } :=
    rfl
  rw [steps] at taken
  by_cases isUsed : some uuid ∈ world.log.map Event.id
  · rw [if_pos isUsed] at taken
    cases taken
  · rw [if_neg isUsed] at taken
    obtain ⟨jobs, accepted, rfl⟩ := map_eq_some_iff.mp taken
    exact ⟨isUsed, jobs, accepted, rfl⟩

theorem exists_of_pass {queue : String} {polls : List Poll} {work : Work}
    (taken : step? codec rfc3339 handlers world (.pass queue polls work) = some after) :
    ∃ result jobs, pop codec queue polls world.jobs = (result, jobs) ∧
      ((∀ payload, result ≠ .ok (some payload)) ∧ after = { world with jobs := jobs } ∨
        ∃ payload, result = .ok (some payload) ∧
          processOne codec rfc3339 handlers payload work
            { world with jobs := jobs } = some after) := by
  rcases popped : pop codec queue polls world.jobs with ⟨result, jobs⟩
  refine ⟨result, jobs, rfl, ?_⟩
  unfold step? at taken
  simp only [popped] at taken
  cases result with
  | error error =>
    cases taken
    refine .inl ⟨fun payload same => ?_, rfl⟩
    cases same
  | ok found =>
    cases found with
    | none =>
      cases taken
      refine .inl ⟨fun payload same => ?_, rfl⟩
      cases same
    | some payload => exact .inr ⟨payload, rfl, taken⟩

variable {row : JobRow Text}

theorem mem_of_push {table pushed : JobsTable Text}
    (accepted : push codec rfc3339 uuid now payload table = some pushed) :
    row ∈ pushed ↔ row ∈ table ∨ row = pushRow codec rfc3339 uuid now payload :=
  SqlTable.mem_of_insert? accepted

theorem Stage.of_keeps (stage : Stage text envelope policy id world)
    (keeps : Keeps id world after) : Stage text envelope policy id after := by
  cases stage with
  | queued row attempts isIn holds isFree inTurn retrying =>
    refine
      .queued row attempts ((keeps.rows row holds.isRow).mpr isIn) holds isFree ?_ ⟨?_, ?_, ?_, ?_⟩
    · rw [keeps.handled]
      exact inTurn
    · rw [keeps.handled]
      exact retrying.failed
    · rw [keeps.handled]
      exact retrying.within
    · rw [keeps.letters]
      exact retrying.unburied
    · rw [keeps.handled]
      exact retrying.released.congr keeps.releases
  | ended isGone ended =>
    obtain ⟨earlier, last, isHandled, failed, released, within, outcome⟩ := ended
    refine .ended
      (fun row isIn isRow => isGone row ((keeps.rows row isRow).mp isIn) isRow)
      ⟨earlier, last, ?_, failed, released.congr keeps.releases, within, ?_⟩
    · rw [keeps.handled]
      exact isHandled
    · rw [keeps.letters]
      exact outcome

theorem mem_log_of_ended (ended : Ended policy id world.log) :
    some id ∈ world.log.map Event.id := by
  obtain ⟨earlier, last, isHandled, -⟩ := ended
  have isIn : last ∈ handledOf id world.log := by
    rw [isHandled]
    exact mem_append_right _ (mem_singleton_self last)
  obtain ⟨event, isEvent, found⟩ := mem_filterMap.mp isIn
  refine mem_map.mpr ⟨event, isEvent, ?_⟩
  cases event with
  | handled payload handled =>
    by_cases isJob : payload.id = some id
    · exact isJob
    · simp [isJob] at found
  | released payload release => cases found
  | deadLettered failed => cases found

variable {action : Action Json}

/-- Every step with a representable retry keeps the job on its course. -/
theorem Stage.step (decodes : codec.decode text = .ok envelope)
    (registered : defaultResolver handlers envelope = some policy)
    (isDuration : policy.backoff ≤ Duration.max) (stage : Stage text envelope policy id world)
    (representable : Representable codec handlers id world action)
    (taken : step? codec rfc3339 handlers world action = some after) :
    Stage text envelope policy id after := by
  cases action with
  | push uuid now payload =>
    obtain ⟨isFresh, jobs, accepted, rfl⟩ := exists_of_push taken
    cases stage with
    | queued row attempts isIn holds isFree inTurn retrying =>
      exact .queued row attempts ((mem_of_push accepted).mpr (.inl isIn))
        holds isFree inTurn retrying
    | ended isGone ended =>
      refine .ended (fun row isIn => ?_) ended
      rcases (mem_of_push accepted).mp isIn with wasIn | rfl
      · exact isGone row wasIn
      · intro isRow
        have sameId : uuid = id := Option.some.inj isRow
        subst sameId
        exact isFresh (mem_log_of_ended ended)
  | pass queue polls work =>
    obtain ⟨result, jobs, popped, goes⟩ := exists_of_pass taken
    cases stage with
    | queued row attempts isIn holds isFree inTurn retrying =>
      rcases pop_row decodes holds.isRow holds.hasText polls isIn with
        ⟨remains, isOther⟩ | ⟨-, now, reserved, isReserved, isPopped⟩
      · rw [popped] at remains isOther
        have stageAfter : Stage text envelope policy id { world with jobs := jobs } :=
          .queued row attempts remains holds isFree inTurn retrying
        rcases goes with ⟨-, rfl⟩ | ⟨payload, rfl, processed⟩
        · exact stageAfter
        · exact stageAfter.of_keeps (keeps_processOne (isOther payload rfl) processed)
      · rw [holds.counts, popped] at isPopped
        cases isPopped
        rcases goes with ⟨noJob, -⟩ | ⟨payload, isPayload, processed⟩
        · exact absurd rfl (noJob _)
        · cases isPayload
          obtain ⟨taken, isTaken, takenHolds⟩ :
              ∃ taken ∈ jobs, HoldsJob text envelope id attempts taken :=
            ⟨_, isReserved, holds.isRow, holds.hasText, holds.counts⟩
          have handled : processOne codec rfc3339 handlers (handedOut envelope id attempts) work
                { world with jobs := jobs } =
              some after :=
            processed
          generalize isMiddle : { world with jobs := jobs } = middle at handled
          have sameJobs : middle.jobs = jobs := by rw [← isMiddle]
          have sameLog : middle.log = world.log := by rw [← isMiddle]
          rw [← sameJobs] at isTaken
          rw [← sameLog] at retrying inTurn
          refine
            stage_of_processOne registered isDuration retrying isTaken takenHolds inTurn ?_ handled
          intro retries
          have found : handedOut envelope id attempts ∈ popped? codec queue polls world.jobs := by
            unfold popped?
            rw [popped]
            rfl
          exact representable _ found policy registered rfl (verdict_of_retries retries)
    | ended isGone ended =>
      obtain ⟨stillGone, isOther⟩ := pop_absent polls isGone
      rw [popped] at stillGone isOther
      have stageAfter : Stage text envelope policy id { world with jobs := jobs } :=
        .ended stillGone ended
      rcases goes with ⟨-, rfl⟩ | ⟨payload, rfl, processed⟩
      · exact stageAfter
      · exact stageAfter.of_keeps (keeps_processOne (isOther payload rfl) processed)

/-! ## A retry that goes wrong -/

theorem exists_log_of_processOne {work : Work}
    (processed : processOne codec rfc3339 handlers payload work world = some after) :
    ∃ events, after.log = world.log ++ events := by
  have burial : ∀ {failed : FailedJob Json} {before : World Json Text},
      bury codec rfc3339 payload failed before = some after →
        after.log = before.log ++ [.deadLettered failed] := by
    intro failed before buried
    obtain ⟨letters, -, rfl⟩ := map_eq_some_iff.mp buried
    rfl
  unfold processOne at processed
  cases resolved : defaultResolver handlers payload with
  | none =>
    simp only [resolved] at processed
    exact ⟨_, burial processed⟩
  | some policy =>
    simp only [resolved] at processed
    cases taken : Dispatch.verdict policy payload (run policy work.handled) with
    | finish =>
      rw [taken] at processed
      cases processed
      exact ⟨_, rfl⟩
    | retry =>
      rw [taken] at processed
      cases processed
      unfold releaseJob
      cases work.utcNow.after? (policy.delayForAttempt payload.attempts) with
      | none => exact ⟨_, rfl⟩
      | some availableAt => exact ⟨_, append_assoc _ _ _⟩
    | bury =>
      rw [taken] at processed
      exact ⟨_, (burial processed).trans (append_assoc _ _ _)⟩

theorem Broken.step (decodes : codec.decode text = .ok envelope) (broken : Broken text id world)
    (taken : step? codec rfc3339 handlers world action = some after) : Broken text id after := by
  cases action with
  | push uuid now payload =>
    obtain ⟨-, jobs, accepted, rfl⟩ := exists_of_push taken
    cases broken with
    | stuck row isIn isRow hasText isReserved =>
      exact .stuck row ((mem_of_push accepted).mpr (.inl isIn)) isRow hasText isReserved
    | displaced release isIn differs => exact .displaced release isIn differs
  | pass queue polls work =>
    obtain ⟨result, jobs, popped, goes⟩ := exists_of_pass taken
    cases broken with
    | stuck row isIn isRow hasText isReserved =>
      rcases pop_row decodes isRow hasText polls isIn with ⟨remains, isOther⟩ | ⟨isFree, -⟩
      · rw [popped] at remains isOther
        rcases goes with ⟨-, rfl⟩ | ⟨payload, rfl, processed⟩
        · exact .stuck row remains isRow hasText isReserved
        · have keeps := keeps_processOne (isOther payload rfl) processed
          exact .stuck row ((keeps.rows row isRow).mpr remains) isRow hasText isReserved
      · exact absurd isFree isReserved
    | displaced release isIn differs =>
      rcases goes with ⟨-, rfl⟩ | ⟨payload, -, processed⟩
      · exact .displaced release isIn differs
      · obtain ⟨events, extended⟩ := exists_log_of_processOne processed
        refine .displaced release ?_ differs
        rw [extended, releasesOf_append]
        exact mem_append_left _ isIn

theorem Broken.not_keepsBudget (broken : Broken text id world) : ¬KeepsBudget policy id world := by
  intro keeps
  cases broken with
  | stuck row isIn isRow hasText isReserved => exact isReserved (keeps.queued row isIn isRow).1
  | displaced release isIn differs =>
    by_cases isThere : ∃ row ∈ world.jobs, row.id = some id
    · obtain ⟨row, isRow, hasId⟩ := isThere
      have retrying := (keeps.queued row isRow hasId).2
      exact differs (retrying.released.exact release isIn)
    · have isGone : ∀ row ∈ world.jobs, row.id ≠ some id :=
        fun row isRow hasId => isThere ⟨row, isRow, hasId⟩
      obtain ⟨earlier, last, -, -, released, -⟩ := keeps.gone isGone
      exact differs (released.exact release isIn)

theorem Stage.keepsBudget (stage : Stage text envelope policy id world) :
    KeepsBudget policy id world := by
  cases stage with
  | queued row attempts isIn holds isFree inTurn retrying =>
    constructor
    · intro other isOther isRow
      obtain rfl := SqlTable.eq_of_key isOther isIn isRow holds.isRow
      exact ⟨isFree, retrying⟩
    · intro isGone
      exact absurd holds.isRow (isGone row isIn)
  | ended isGone ended =>
    constructor
    · intro row isIn isRow
      exact absurd isRow (isGone row isIn)
    · exact fun _ => ended

theorem broken_of_releaseJob (isJob : payload.id = some id) (isIn : row ∈ world.jobs)
    (isRow : row.id = some id) (hasText : row.payload = some text)
    (isReserved : row.reservedAt ≠ none) {delay : Duration} {utcNow : Instant}
    (displaced : utcNow.after? delay ≠ some (utcNow + delay)) :
    Broken text id (releaseJob rfc3339 payload delay utcNow world) := by
  unfold releaseJob
  cases available : utcNow.after? delay with
  | none => exact .stuck row isIn isRow hasText isReserved
  | some availableAt =>
    refine .displaced ⟨delay, utcNow, availableAt⟩ ?_ ?_
    · rw [releasesOf_append]
      refine mem_append_right _ ?_
      simp [releasesOf, isJob]
    · intro same
      exact displaced (available.trans (congrArg some same))

/-- A retry whose instant cannot be represented breaks the job. -/
theorem Stage.broken (decodes : codec.decode text = .ok envelope)
    (stage : Stage text envelope policy id world)
    (lost : ¬Representable codec handlers id world action)
    (taken : step? codec rfc3339 handlers world action = some after) : Broken text id after := by
  cases action with
  | push uuid now payload => exact absurd trivial lost
  | pass queue polls work =>
    unfold Representable at lost
    push Not at lost
    obtain ⟨payload, isPopped, found, isFound, isJob, retries, displaced⟩ := lost
    obtain ⟨result, jobs, popped, goes⟩ := exists_of_pass taken
    have isResult : result = .ok (some payload) := by
      unfold popped? at isPopped
      rw [popped] at isPopped
      cases result with
      | error error => cases isPopped
      | ok handed => exact congrArg Except.ok isPopped
    subst isResult
    rcases goes with ⟨noJob, -⟩ | ⟨same, isSame, processed⟩
    · exact absurd rfl (noJob payload)
    · cases isSame
      cases stage with
      | ended isGone ended =>
        obtain ⟨-, isOther⟩ := pop_absent polls isGone
        rw [popped] at isOther
        exact absurd isJob (isOther payload rfl)
      | queued row attempts isIn holds isFree inTurn retrying =>
        rcases pop_row decodes holds.isRow holds.hasText polls isIn with
          ⟨-, isOther⟩ | ⟨-, now, reserved, isReserved, isOwn⟩
        · rw [popped] at isOther
          exact absurd isJob (isOther payload rfl)
        · rw [popped] at isOwn
          obtain rfl : jobs = reserved := (Prod.mk.inj isOwn).2
          have resolved : defaultResolver handlers payload = some found := isFound
          unfold processOne at processed
          simp only [resolved, retries] at processed
          cases processed
          obtain ⟨reserved, isIn, isRow, hasText, notFree⟩ : ∃ reserved ∈ jobs,
              reserved.id = some id ∧ reserved.payload = some text ∧ reserved.reservedAt ≠ none :=
            ⟨_, isReserved, holds.isRow, holds.hasText, some_ne_none now⟩
          exact broken_of_releaseJob isJob isIn isRow hasText notFree displaced

/-- The job waits in the queue; it can be read, and it has a handler. -/
structure Enqueued (codec : Codec (JobPayload Json) Text) (handlers : Handlers Json)
    (envelope : JobPayload Json) (policy : JobPolicy) (id : String) (attempts : U32)
    (world : World Json Text) : Prop where
  waits : ∃ text, codec.decode text = .ok envelope ∧
        ∃ row ∈ world.jobs, HoldsJob text envelope id attempts row ∧ row.reservedAt = none
  registered : defaultResolver handlers envelope = some policy
  isDuration : policy.backoff ≤ Duration.max
  unlogged : world.log = []

theorem stage_of_enqueued {start : World Json Text} {attempts : U32}
    (isIn : row ∈ start.jobs) (holds : HoldsJob text envelope id attempts row)
    (isFree : row.reservedAt = none) (unlogged : start.log = [])
    (first : attempts = 1 ∨ policy.maxTries.val ≤ 1) : Stage text envelope policy id start := by
  have isFirst : attempts.val = 1 ∨ policy.maxTries.val ≤ 1 := by
    rcases first with rfl | single
    · exact .inl rfl
    · exact .inr single
  refine .queued row attempts isIn holds isFree ?_ ⟨?_, ?_, ?_, ?_, ?_, ?_⟩
  · rw [unlogged]
    exact isFirst
  · rw [unlogged]
    exact fun _ isIn => absurd isIn not_mem_nil
  · rw [unlogged]
    exact Nat.lt_of_lt_of_le Nat.zero_lt_one (le_max_left 1 _)
  · rw [unlogged]
    rfl
  · rw [unlogged]
    rfl
  · rw [unlogged]
    exact List.Pairwise.nil
  · rw [unlogged]
    exact fun _ isIn => absurd isIn not_mem_nil

end Runs

/-! ## Fixed runs -/

def ping (attempts : U32) : JobPayload Unit where
  queue := "default"
  connection := "database"
  availableAt := none
  attempts := attempts
  id := none
  job := some "Ping"
  batchId := none
  payload := ()

def pingRow (attempts : U32) : JobRow (Option (JobPayload Unit)) where
  id := some "6f1c"
  queue := "default"
  payload := some (some (ping attempts))
  attempts := some attempts.val
  reservedAt := none
  availableAt := "2027"
  createdAt := "2027"

def waiting (attempts : U32) : World Unit (Option (JobPayload Unit)) where
  jobs :=
    { rows := [pingRow attempts], primaryKey := nodup_singleton _ }
  failed := SqlTable.empty _
  log := []

def pings (policy : JobPolicy) : Handlers Unit :=
  fun key => if key = "Ping" then some fun _ => some policy else none

def failingPass (letterId : String) : Action Unit :=
  .pass "default" [{ now := "2028", fault := none }]
    { handled := .failed (.exception "refused"), utcNow := 0, letterId := letterId, failedAt := 0 }

def pingStep? (policy : JobPolicy) : World Unit (Option (JobPayload Unit)) →
      Action Unit → Option (World Unit (Option (JobPayload Unit))) :=
  step? (Codec.plain (JobPayload Unit)) (fun _ => "2027") (pings policy)

def twoTries : JobPolicy where
  maxTries := 2
  backoff := 0
  timeout := 0

def twoDistantTries : JobPolicy where
  maxTries := 2
  backoff := 10000000000000 * 1000000000
  timeout := 0

theorem waiting_enqueued : Enqueued (Codec.plain (JobPayload Unit)) (pings twoTries) (ping 1)
      twoTries "6f1c" 1 (waiting 1) where
  waits := ⟨some (ping 1), rfl, pingRow 1, mem_singleton_self _, ⟨rfl, rfl, rfl⟩, rfl⟩
  registered := rfl
  isDuration := Nat.zero_le _
  unlogged := rfl

end Rustasea.Queue.WorkerLoop
