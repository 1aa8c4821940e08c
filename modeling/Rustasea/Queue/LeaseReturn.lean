import Rustasea.Queue.Dispatch

namespace Rustasea.Queue.Dispatch

open TransitionSystem Option

/-!
# Leases come back

A held lease is covered by an envelope in flight under its unique id, as long
as no exit of the dispatch or of the worker forgets the release.  The exits
that do forget it are named below.
-/

variable {Json : Type}

def Registry.uniqueId (registry : Registry Json) (handle : DispatchHandle Json) : Option String :=
  (uniqueSpec registry.unique handle.typeKey handle.body).map Prod.fst

/-- Some queued, delayed, reserved or running envelope has the unique id. -/
def InFlight (registry : Registry Json) (world : World Json) (uniqueId : String) : Prop :=
  ∃ entry ∈ world.held, entry.payload.uniqueId registry.unique = some uniqueId

/-- Whether a dispatch of the unique id would be let through now. -/
def World.free (world : World Json) (uniqueId : String) : Bool :=
  leaseFree world.clock uniqueId world.uniqueStore

/-! ## The exits that forget the lease -/

def takesLease (registry : Registry Json) (handle : DispatchHandle Json)
    (surroundings : Surroundings) (world : World Json) : Bool :=
  (acquireLease registry.unique world.clock surroundings.uuid
    handle.typeKey handle.body world.uniqueStore).1.isAcquired

/--
The exits of a dispatch that neither queue the envelope nor release: the
unknown connection, the delay past the last instant, and a panicking push.
-/
@[grind =]
def strandsLease (registry : Registry Json) (handle : DispatchHandle Json)
    (surroundings : Surroundings) : Bool :=
  match registry.connection handle, registry.queue handle with
  | .ok connection, .ok _ =>
    connection != syncConnection &&
      ((availability? surroundings.utcNow handle.delay).isNone || !registry.drivers connection ||
          surroundings.push.any fun fault => fault.error.isNone && fault.effect != .applied)
  | _, _ => false

def takesAway (fault : Option DriverFault) : Bool :=
  fault.any fun failed => failed.effect != .untouched

/--
The exits of the worker that drop an envelope and keep its lease: the missing
handler, a failing `ack` that removed the envelope, and a failing `release`
that lost it.
-/
def forgetsLease (registry : Registry Json) (payload : JobPayload Json)
    (attempt : Attempt) : Bool :=
  match registry.resolver payload with
  | none => attempt.deadLetter.isNone && (attempt.ack.isNone || takesAway attempt.ack)
  | some policy =>
    match verdict policy payload attempt.outcome with
    | .finish => takesAway attempt.ack
    | .retry => attempt.release.any fun failed => failed.effect == .lost
    | .bury => attempt.deadLetter.isNone && takesAway attempt.ack

/-- The step does not take an exit that forgets a lease. -/
def ReturnsLease (registry : Registry Json) (world : World Json) : Action Json → Prop
  | .tick _ => True
  | .dispatch handle surroundings =>
    takesLease registry handle surroundings world = true →
      strandsLease registry handle surroundings = false
  | .pop index fault =>
    ∀ payload ∈ world.envelope? index false, (payload.uniqueId registry.unique).isSome = true →
        (fault.any fun failed => failed.effect == .lost) = false
  | .process index attempt =>
    ∀ payload ∈ world.envelope? index true, (payload.uniqueId registry.unique).isSome = true →
        forgetsLease registry payload attempt = false

instance (registry : Registry Json) (world : World Json) (action : Action Json) :
    Decidable (ReturnsLease registry world action) := by
  cases action <;> unfold ReturnsLease <;> infer_instance

/-- Whether the attempt ends the job, unless a driver call fails. -/
def isTerminal (registry : Registry Json) (payload : JobPayload Json) (attempt : Attempt) : Bool :=
  match registry.resolver payload with
  | none => true
  | some policy => verdict policy payload attempt.outcome != .retry

/-- Every lease that was taken has come back, or its job is in flight. -/
structure LeasesReturned (registry : Registry Json) (world : World Json) : Prop where
  freeWhenIdle : ∀ uniqueId, ¬ InFlight registry world uniqueId → world.free uniqueId = true
  failedDispatch : ∀ handle surroundings error after uniqueId,
      ReturnsLease registry world (.dispatch handle surroundings) → world.free uniqueId = true →
      dispatchOutcome registry handle surroundings world = (some (.error error), after) →
      after.free uniqueId = true
  terminalOutcome : ∀ index payload attempt after uniqueId,
      ReturnsLease registry world (.process index attempt) →
      world.envelope? index true = some payload → payload.uniqueId registry.unique = some uniqueId →
      isTerminal registry payload attempt = true →
      processOne registry index payload attempt world = (some (.ok ()), after) →
      after.free uniqueId = true
  nextDispatch : ∀ handle surroundings uniqueId other, registry.uniqueId handle = some uniqueId →
      world.free uniqueId = true →
      (dispatchOutcome registry handle surroundings world).1 ≠ some (.ok (.deduplicated other))
  undisturbedDispatch : ∀ handle surroundings uniqueId connection queue,
      registry.connection handle = .ok connection → registry.queue handle = .ok queue →
      strandsLease registry handle surroundings = false → surroundings.push = none →
      registry.uniqueId handle = some uniqueId → world.free uniqueId = true →
      (dispatchOutcome registry handle surroundings world).1 =
        some (.ok (.enqueued surroundings.jobId))

/-! ## What the driver holds -/

variable {world : World Json} {index : Nat} {payload : JobPayload Json}

theorem getElem?_of_envelope? {reserved : Bool}
    (found : world.envelope? index reserved = some payload) :
    world.held[index]? = some { payload, reserved } := by
  unfold World.envelope? at found
  split at found
  · simp at found
  · next entry atIndex =>
    split_ifs at found with same
    rw [atIndex, ← Option.some.inj found, ← same]

variable {registry : Registry Json} {world after : World Json}

theorem inFlight_set {old new : Held Json} (atIndex : world.held[index]? = some old)
    (sameId : new.payload.uniqueId registry.unique = old.payload.uniqueId registry.unique)
    (holds : after.held = world.held.set index new) {uniqueId : String}
    (inFlight : InFlight registry world uniqueId) : InFlight registry after uniqueId := by
  obtain ⟨entry, member, hasId⟩ := inFlight
  obtain ⟨place, atPlace⟩ := List.mem_iff_getElem?.mp member
  unfold InFlight
  rw [holds]
  by_cases same : place = index
  · subst same
    rw [atIndex, Option.some.injEq] at atPlace
    refine ⟨new, ?_, by rw [sameId, atPlace, hasId]⟩
    apply List.mem_of_getElem?
    rw [List.getElem?_set_self]
    exact (List.getElem?_eq_some_iff.mp atIndex).1
  · refine ⟨entry, ?_, hasId⟩
    apply List.mem_of_getElem?
    rw [List.getElem?_set_ne (Ne.symm same), atPlace]

variable {uniqueId : String}

theorem inFlight_eraseIdx {old : Held Json} (atIndex : world.held[index]? = some old)
    (holds : after.held = world.held.eraseIdx index) (inFlight : InFlight registry world uniqueId) :
    InFlight registry after uniqueId ∨ old.payload.uniqueId registry.unique = some uniqueId := by
  obtain ⟨entry, member, hasId⟩ := inFlight
  obtain ⟨place, atPlace⟩ := List.mem_iff_getElem?.mp member
  by_cases same : place = index
  · subst same
    rw [atIndex, Option.some.injEq] at atPlace
    exact .inr (atPlace ▸ hasId)
  · left
    refine ⟨entry, ?_, hasId⟩
    rw [holds]
    exact List.mem_eraseIdx_iff_getElem?.mpr ⟨place, same, atPlace⟩

/-! ## Dispatches -/

theorem dispatchOutcome_cases (registry : Registry Json) (handle : DispatchHandle Json)
    (surroundings : Surroundings) (world : World Json) :
    (∃ error, dispatchOutcome registry handle surroundings world = (some (.error error), world)) ∨
    (∃ uniqueId, registry.uniqueId handle = some uniqueId ∧ world.free uniqueId = false ∧
      dispatchOutcome registry handle surroundings world =
        (some (.ok (.deduplicated uniqueId)), world)) ∨
    ∃ connection queue acquisition, registry.connection handle = .ok connection ∧
      registry.queue handle = .ok queue ∧
      acquisition = acquireLease registry.unique world.clock surroundings.uuid handle.typeKey
          handle.body world.uniqueStore ∧
      dispatchOutcome registry handle surroundings world =
        enqueue registry handle surroundings connection queue acquisition.1.isAcquired
          { world with uniqueStore := acquisition.2 } := by
  unfold dispatchOutcome
  cases connection : registry.connection handle with
  | error failure => exact .inl ⟨failure, rfl⟩
  | ok name =>
    cases queue : registry.queue handle with
    | error failure => exact .inl ⟨failure, rfl⟩
    | ok queueName =>
      right
      rcases acquireLease_cases registry.unique world.clock
          surroundings.uuid handle.typeKey handle.body
          world.uniqueStore with
        ⟨outcome, -⟩ | ⟨uniqueId, uniqueFor, spec, taken, outcome⟩ |
          ⟨installed, uniqueId, uniqueFor, -, -, -, outcome⟩
      · right
        refine ⟨name, queueName, _, rfl, rfl, rfl, ?_⟩
        simp [outcome]
      · left
        refine ⟨uniqueId, ?_, taken, ?_⟩
        · simp [Registry.uniqueId, spec]
        · simp [outcome]
      · right
        refine ⟨name, queueName, _, rfl, rfl, rfl, ?_⟩
        simp [outcome]

variable {handle : DispatchHandle Json} {leased : Bool}

theorem free_giveBack (free : world.free uniqueId = true) :
    (giveBack registry handle leased world).free uniqueId = true := by
  unfold giveBack
  split
  · exact leaseFree_releaseUnique free _ _
  · exact free

theorem free_giveBack_self (dispatches : registry.uniqueId handle = some uniqueId)
    (world : World Json) : (giveBack registry handle true world).free uniqueId = true := by
  unfold Registry.uniqueId at dispatches
  rw [map_eq_some_iff] at dispatches
  obtain ⟨⟨found, uniqueFor⟩, spec, rfl⟩ := dispatches
  exact leaseFree_releaseUnique_self spec _

theorem uniqueId_of_toPayload {queue connection : String} {utcNow : Instant}
    (built : toPayload handle queue connection utcNow = some payload) :
    payload.uniqueId registry.unique = registry.uniqueId handle := by
  unfold toPayload at built
  rw [map_eq_some_iff] at built
  obtain ⟨availableAt, -, rfl⟩ := built
  rfl

variable {connection queue : String}

/--
A dispatch past its lease gives the lease back, queues the envelope, or takes
one of the exits that strand the lease.
-/
theorem enqueue_cases (connects : registry.connection handle = .ok connection)
    (queues : registry.queue handle = .ok queue) (surroundings : Surroundings)
    (leased : Bool) (world : World Json) :
    let call := enqueue registry handle surroundings connection queue leased world
    (∃ held,
      world.held ⊆ held ∧ call.2 = giveBack registry handle leased { world with held := held }) ∨
    (∃ payload, payload.uniqueId registry.unique = registry.uniqueId handle ∧ call.2 =
          { world with held := world.held ++ [{ payload := payload, reserved := false }] } ∧
        ∀ error, call.1 ≠ some (.error error)) ∨
    (strandsLease registry handle surroundings = true ∧ call.2 = world) := by
  intro call
  unfold call enqueue
  by_cases isSync : connection = syncConnection
  · left
    exact ⟨world.held, List.Subset.refl _, by rw [if_pos isSync]⟩
  rw [if_neg isSync]
  cases built : toPayload handle queue connection surroundings.utcNow with
  | none =>
    right
    right
    have overflows : availability? surroundings.utcNow handle.delay = none := by
      simpa [toPayload] using built
    simp [strandsLease, connects, queues, isSync, overflows]
  | some payload =>
    have hasId : payload.uniqueId registry.unique = _ := uniqueId_of_toPayload built
    cases registered : registry.drivers connection with
    | false =>
      right
      right
      simp [strandsLease, connects, queues, isSync, registered]
    | true =>
      simp only [driverPush]
      cases push : surroundings.push with
      | none =>
        right
        left
        exact ⟨payload, hasId, rfl, by simp [settle]⟩
      | some failed =>
        obtain ⟨_ | error, effect⟩ := failed
        · cases effect with
          | applied =>
            right
            left
            exact ⟨payload, hasId, rfl, by simp [settle]⟩
          | untouched | lost =>
            right
            right
            simp [strandsLease, connects, queues, isSync, push, settle]
        · left
          cases effect with
          | applied => exact ⟨_, List.subset_append_left _ _, rfl⟩
          | untouched | lost => exact ⟨_, List.Subset.refl _, rfl⟩

theorem inFlight_of_subset (holds : world.held ⊆ after.held)
    (inFlight : InFlight registry world uniqueId) : InFlight registry after uniqueId := by
  obtain ⟨entry, member, hasId⟩ := inFlight
  exact ⟨entry, holds member, hasId⟩

@[simp] theorem giveBack_held
    (registry : Registry Json) (handle : DispatchHandle Json) (leased : Bool) (world : World Json) :
    (giveBack registry handle leased world).held = world.held := by
  unfold giveBack
  split <;> rfl

/-- Every held lease has an envelope of its unique id in flight. -/
def Covered (registry : Registry Json) (world : World Json) : Prop :=
  ∀ uniqueId, world.free uniqueId = true ∨ InFlight registry world uniqueId

variable {surroundings : Surroundings}

private theorem covered_enqueue (connects : registry.connection handle = .ok connection)
    (queues : registry.queue handle = .ok queue)
    (notStranded : leased = true → strandsLease registry handle surroundings = false)
    (covered : ∀ uniqueId, world.free uniqueId = true ∨ InFlight registry world uniqueId ∨
      (leased = true ∧ registry.uniqueId handle = some uniqueId)) :
    Covered registry (enqueue registry handle surroundings connection queue leased world).2 := by
  intro uniqueId
  rcases enqueue_cases connects queues surroundings leased world with
    ⟨held, grows, outcome⟩ | ⟨payload, hasId, outcome, -⟩ | ⟨stranded, outcome⟩
  · rw [outcome]
    rcases covered uniqueId with free | inFlight | ⟨rfl, own⟩
    · exact .inl (free_giveBack free)
    · right
      exact inFlight_of_subset (by simpa using grows) inFlight
    · exact .inl (free_giveBack_self own _)
  · rw [outcome]
    rcases covered uniqueId with free | inFlight | ⟨-, own⟩
    · exact .inl free
    · right
      exact inFlight_of_subset (List.subset_append_left _ _) inFlight
    · right
      exact ⟨_, List.mem_append_right _ (List.mem_singleton_self _), hasId.trans own⟩
  · rw [outcome]
    rcases covered uniqueId with free | inFlight | ⟨wasLeased, -⟩
    · exact .inl free
    · exact .inr inFlight
    · rw [notStranded wasLeased] at stranded
      simp at stranded

private theorem free_or_own {uuid : String} {acquisition : LeaseState × UniqueStore}
    (uniqueId : String)
    (acquired : acquisition =
      acquireLease registry.unique world.clock uuid handle.typeKey handle.body world.uniqueStore) :
    leaseFree world.clock uniqueId acquisition.2 = world.free uniqueId ∨
      (acquisition.1.isAcquired = true ∧ registry.uniqueId handle = some uniqueId) := by
  subst acquired
  rcases acquireLease_cases registry.unique world.clock uuid
      handle.typeKey handle.body world.uniqueStore with
    ⟨outcome, -⟩ | ⟨_, _, -, -, outcome⟩ | ⟨installed, found, uniqueFor, -, spec, -, outcome⟩
  · left
    rw [outcome]
    rfl
  · left
    rw [outcome]
    rfl
  · by_cases same : uniqueId = found
    · right
      refine ⟨by rw [outcome]; rfl, ?_⟩
      simp [Registry.uniqueId, spec, same]
    · left
      apply leaseFree_acquireLease
      rw [outcome]
      simpa using Ne.symm same

theorem covered_dispatch (covered : Covered registry world)
    (returns : ReturnsLease registry world (.dispatch handle surroundings)) :
    Covered registry (dispatchOutcome registry handle surroundings world).2 := by
  rcases dispatchOutcome_cases registry handle surroundings world with
    ⟨error, outcome⟩ | ⟨_, -, -, outcome⟩ |
      ⟨connection, queue, acquisition, connects, queues, acquired, outcome⟩
  · rw [outcome]
    exact covered
  · rw [outcome]
    exact covered
  · rw [outcome]
    apply covered_enqueue connects queues
    · intro leased
      exact returns (by rw [takesLease, ← acquired, leased])
    · intro uniqueId
      rcases free_or_own uniqueId acquired with same | own
      · rcases covered uniqueId with free | inFlight
        · exact .inl (same.trans free)
        · exact .inr (.inl inFlight)
      · exact .inr (.inr own)

theorem free_of_failedDispatch {error : QueueError}
    (returns : ReturnsLease registry world (.dispatch handle surroundings))
    (free : world.free uniqueId = true)
    (failed : dispatchOutcome registry handle surroundings world = (some (.error error), after)) :
    after.free uniqueId = true := by
  rcases dispatchOutcome_cases registry handle surroundings world with
    ⟨_, outcome⟩ | ⟨_, -, -, outcome⟩ |
      ⟨connection, queue, acquisition, connects, queues, acquired, outcome⟩
  · rw [outcome, Prod.mk.injEq] at failed
    exact failed.2 ▸ free
  · rw [outcome] at failed
    simp at failed
  · rw [outcome] at failed
    have afterwards := congrArg Prod.snd failed
    have ended := congrArg Prod.fst failed
    dsimp only at afterwards ended
    rcases enqueue_cases connects queues surroundings
        acquisition.1.isAcquired
        { world with uniqueStore := acquisition.2 } with
      ⟨held, -, settled⟩ | ⟨_, -, -, notFailed⟩ | ⟨stranded, settled⟩
    · rw [← afterwards, settled]
      rcases free_or_own uniqueId acquired with same | ⟨leased, own⟩
      · exact free_giveBack (same.trans free)
      · rw [leased]
        exact free_giveBack_self own _
    · exact (notFailed error ended).elim
    · rw [← afterwards, settled]
      rcases free_or_own uniqueId acquired with same | ⟨leased, -⟩
      · exact same.trans free
      · rw [returns (by rw [takesLease, ← acquired, leased])] at stranded
        simp at stranded

/-! ## Workers -/

private theorem settle_snd (fault : Option DriverFault) (before applied lost : List (Held Json)) :
    (settle fault before applied lost).2 = before ∨ (settle fault before applied lost).2 = applied ∨
      (settle fault before applied lost).2 = lost ∧
      (fault.any fun failed => failed.effect == .lost) = true := by
  cases fault with
  | none => exact .inr (.inl rfl)
  | some failed =>
    obtain ⟨error, effect⟩ := failed
    cases effect <;> simp [settle]

theorem covered_pop {fault : Option DriverFault} (covered : Covered registry world)
    (returns : ReturnsLease registry world (.pop index fault))
    (found : world.envelope? index false = some payload) :
    Covered registry
      { world with
        held := (driverPop fault index payload world.held).2 } := by
  have atIndex := getElem?_of_envelope? found
  intro uniqueId
  rcases covered uniqueId with free | inFlight
  · exact .inl free
  · right
    rcases settle_snd fault world.held
        (world.held.set index { payload := payload, reserved := true })
        (world.held.eraseIdx index) with
      held | held | ⟨held, loses⟩
    · exact inFlight_of_subset (by rw [driverPop, held]; simp) inFlight
    · refine inFlight_set atIndex ?_ held inFlight
      rfl
    · refine (inFlight_eraseIdx atIndex held inFlight).resolve_right ?_
      intro own
      rw [returns payload found (by rw [own]; rfl)] at loses
      simp at loses

private theorem acknowledge_cases (attempt : Attempt) (index : Nat) (world : World Json) :
    (acknowledge attempt index world =
        (some (.ok ()), { world with held := world.held.eraseIdx index }) ∧
      attempt.ack = none) ∨
    (∃ ended, ended ≠ some (.ok ()) ∧ acknowledge attempt index world = (ended, world)) ∨
    ∃ ended, ended ≠ some (.ok ()) ∧
      acknowledge attempt index world = (ended, { world with held := world.held.eraseIdx index }) ∧
      takesAway attempt.ack = true := by
  unfold acknowledge driverAck
  cases fault : attempt.ack with
  | none => exact .inl ⟨rfl, rfl⟩
  | some failed =>
    right
    obtain ⟨error, effect⟩ := failed
    have notOk : (error.map .error : Ended Unit) ≠ some (.ok ()) := by
      cases error <;> simp
    cases effect with
    | untouched => exact .inl ⟨_, notOk, rfl⟩
    | applied | lost => exact .inr ⟨_, notOk, rfl, rfl⟩

@[simp] theorem andThen_of_ne {ended : Ended Unit} (notOk : ended ≠ some (.ok ()))
    (world : World Json) (next : World Json → Ended Unit × World Json) :
    andThen (ended, world) next = (ended, world) := by
  rcases ended with _ | error | ⟨⟩
  · rfl
  · rfl
  · exact (notOk rfl).elim

variable {entry : Held Json}

private theorem covered_erase (covered : Covered registry world)
    (atIndex : world.held[index]? = some entry)
    (notUnique : entry.payload.uniqueId registry.unique = none) :
    Covered registry { world with held := world.held.eraseIdx index } := by
  intro uniqueId
  rcases covered uniqueId with free | inFlight
  · exact .inl free
  · right
    apply (inFlight_eraseIdx atIndex rfl inFlight).resolve_right
    simp [notUnique]

private theorem covered_letGo (covered : Covered registry world)
    (atIndex : world.held[index]? = some entry) :
    Covered registry
      (letGo registry entry.payload { world with held := world.held.eraseIdx index }).2 := by
  intro uniqueId
  rcases covered uniqueId with free | inFlight
  · exact .inl (leaseFree_releaseLease free entry.payload)
  · by_cases own : entry.payload.uniqueId registry.unique = some uniqueId
    · exact .inl (leaseFree_releaseLease_self own _)
    · right
      exact (inFlight_eraseIdx atIndex rfl inFlight).resolve_right own

variable {attempt : Attempt}

private theorem covered_finish (covered : Covered registry world)
    (atIndex : world.held[index]? = some entry)
    (returns : (entry.payload.uniqueId registry.unique).isSome = true →
      takesAway attempt.ack = false) :
    Covered registry (andThen (acknowledge attempt index world) (letGo registry entry.payload)).2 := by
  rcases acknowledge_cases attempt index world with
    ⟨outcome, -⟩ | ⟨ended, notOk, outcome⟩ | ⟨ended, notOk, outcome, taken⟩
  · rw [outcome]
    exact covered_letGo covered atIndex
  · rw [outcome, andThen_of_ne notOk]
    exact covered
  · rw [outcome, andThen_of_ne notOk]
    apply covered_erase covered atIndex
    by_contra isUnique
    rw [returns (isSome_iff_ne_none.mpr isUnique)] at taken
    simp at taken

private theorem deadLetter_cases (attempt : Attempt) (world : World Json) :
    (deadLetter attempt world = (some (.ok ()), world) ∧ attempt.deadLetter.isNone = true) ∨
    ∃ ended, ended ≠ some (.ok ()) ∧ deadLetter attempt world = (ended, world) := by
  unfold deadLetter settle
  cases attempt.deadLetter with
  | none => exact .inl ⟨rfl, rfl⟩
  | some failed =>
    right
    refine ⟨_, ?_, rfl⟩
    cases failed.error <;> simp

/-- A worker that forgets no lease keeps every lease covered. -/
theorem covered_process (covered : Covered registry world)
    (returns : ReturnsLease registry world (.process index attempt))
    (found : world.envelope? index true = some payload) :
    Covered registry (processOne registry index payload attempt world).2 := by
  have atIndex := getElem?_of_envelope? found
  have forgets := returns payload found
  unfold forgetsLease at forgets
  unfold processOne
  cases handler : registry.resolver payload with
  | none =>
    simp only [handler] at forgets ⊢
    rcases deadLetter_cases attempt world with ⟨outcome, written⟩ | ⟨ended, notOk, outcome⟩
    · have notUnique : attempt.ack.isNone = true ∨ takesAway attempt.ack = true →
          payload.uniqueId registry.unique = none := by
        intro removes
        by_contra isUnique
        have kept := forgets (isSome_iff_ne_none.mpr isUnique)
        rw [written, Bool.true_and, Bool.or_eq_false_iff] at kept
        rcases removes with removes | removes
        · rw [kept.1] at removes
          simp at removes
        · rw [kept.2] at removes
          simp at removes
      rw [outcome]
      rcases acknowledge_cases attempt index world with
        ⟨acked, noFault⟩ | ⟨ended, -, acked⟩ | ⟨ended, -, acked, taken⟩
      · simp only [andThen, acked]
        exact covered_erase covered atIndex (notUnique (.inl (by
          rw [noFault]
          rfl)))
      · simp only [andThen, acked]
        exact covered
      · simp only [andThen, acked]
        exact covered_erase covered atIndex (notUnique (.inr taken))
    · rw [outcome, andThen_of_ne notOk]
      exact covered
  | some policy =>
    simp only [handler] at forgets ⊢
    cases arm : verdict policy payload attempt.outcome with
    | finish =>
      simp only [arm] at forgets ⊢
      exact covered_finish covered atIndex forgets
    | retry =>
      simp only [arm] at forgets ⊢
      intro uniqueId
      rcases covered uniqueId with free | inFlight
      · exact .inl free
      · right
        unfold driverRelease
        cases availability? attempt.utcNow (policy.delayForAttempt payload.attempts) with
        | none => exact inFlight
        | some availableAt =>
          rcases settle_snd attempt.release world.held
              (world.held.set index { payload := retried payload availableAt, reserved := false })
              (world.held.eraseIdx index) with
            held | held | ⟨held, loses⟩
          · rw [held]
            exact inFlight
          · refine inFlight_set atIndex ?_ held inFlight
            rfl
          · refine
              (inFlight_eraseIdx atIndex held inFlight).resolve_right ?_
            intro own
            rw [forgets (by rw [own]; rfl)] at loses
            simp at loses
    | bury =>
      simp only [arm] at forgets ⊢
      rcases deadLetter_cases attempt world with ⟨outcome, written⟩ | ⟨ended, notOk, outcome⟩
      · rw [outcome]
        apply covered_finish covered atIndex
        intro isUnique
        simpa [written] using forgets isUnique
      · rw [outcome, andThen_of_ne notOk]
        exact covered

private theorem free_of_finish (isUnique : payload.uniqueId registry.unique = some uniqueId)
    (finished : andThen (acknowledge attempt index world) (letGo registry payload) =
      (some (.ok ()), after)) : after.free uniqueId = true := by
  rcases acknowledge_cases attempt index world with
    ⟨outcome, -⟩ | ⟨ended, notOk, outcome⟩ | ⟨ended, notOk, outcome, -⟩
  · rw [outcome] at finished
    have afterwards := congrArg Prod.snd finished
    dsimp only [andThen] at afterwards
    rw [← afterwards]
    exact leaseFree_releaseLease_self isUnique _
  all_goals
    rw [outcome, andThen_of_ne notOk, Prod.mk.injEq] at finished
    exact (notOk finished.1).elim

theorem free_of_terminalOutcome (returns : ReturnsLease registry world (.process index attempt))
    (found : world.envelope? index true = some payload)
    (isUnique : payload.uniqueId registry.unique = some uniqueId)
    (terminal : isTerminal registry payload attempt = true)
    (finished : processOne registry index payload attempt world = (some (.ok ()), after)) :
    after.free uniqueId = true := by
  have forgets := returns payload found (by rw [isUnique]; rfl)
  unfold forgetsLease at forgets
  unfold isTerminal at terminal
  unfold processOne at finished
  cases handler : registry.resolver payload with
  | none =>
    simp only [handler] at forgets finished
    rcases deadLetter_cases attempt world with ⟨outcome, written⟩ | ⟨ended, notOk, outcome⟩
    · rw [written, Bool.true_and] at forgets
      rw [outcome] at finished
      rcases acknowledge_cases attempt index world with
        ⟨-, noFault⟩ | ⟨ended, notOk, acked⟩ | ⟨ended, notOk, acked, -⟩
      · simp [noFault] at forgets
      all_goals
        simp only [andThen, acked, Prod.mk.injEq] at finished
        exact (notOk finished.1).elim
    · rw [outcome, andThen_of_ne notOk, Prod.mk.injEq] at finished
      exact (notOk finished.1).elim
  | some policy =>
    simp only [handler] at terminal finished
    cases arm : verdict policy payload attempt.outcome with
    | finish =>
      simp only [arm] at finished
      exact free_of_finish isUnique finished
    | retry => simp [arm] at terminal
    | bury =>
      simp only [arm] at finished
      rcases deadLetter_cases attempt world with ⟨outcome, -⟩ | ⟨ended, notOk, outcome⟩
      · rw [outcome] at finished
        exact free_of_finish isUnique finished
      · rw [outcome, andThen_of_ne notOk, Prod.mk.injEq] at finished
        exact (notOk finished.1).elim

/-! ## Whole runs -/

theorem not_deduplicated_of_free (dispatches : registry.uniqueId handle = some uniqueId)
    (free : world.free uniqueId = true) (surroundings : Surroundings) (other : String) :
    (dispatchOutcome registry handle surroundings world).1 ≠ some (.ok (.deduplicated other)) := by
  rcases dispatchOutcome_cases registry handle surroundings world with
    ⟨_, outcome⟩ | ⟨found, sameId, taken, outcome⟩ |
      ⟨connection, queue, acquisition, -, -, -, outcome⟩
  · simp [outcome]
  · rw [dispatches, Option.some.injEq] at sameId
    rw [← sameId, free] at taken
    simp at taken
  · rw [outcome]
    unfold enqueue driverPush settle
    cases toPayload handle queue connection surroundings.utcNow <;>
      cases surroundings.push with
      | none =>
        repeat' split
        all_goals simp_all
      | some failed =>
        cases failed.error <;> repeat' split
        all_goals simp_all

theorem enqueue_undisturbed (connects : registry.connection handle = .ok connection)
    (queues : registry.queue handle = .ok queue)
    (notStranded : strandsLease registry handle surroundings = false)
    (works : surroundings.push = none) (leased : Bool) (world : World Json) :
    (enqueue registry handle surroundings connection queue leased
      world).1 = some (.ok (.enqueued surroundings.jobId)) := by
  unfold enqueue
  by_cases isSync : connection = syncConnection
  · rw [if_pos isSync]
  · simp only [strandsLease, connects, queues, works, any_none, Bool.or_false,
      Bool.and_eq_false_iff, Bool.or_eq_false_iff, bne_eq_false_iff_eq, isSync, false_or,
        isNone_eq_false_iff, isSome_iff_exists, Bool.not_eq_eq_eq_not] at notStranded
    obtain ⟨⟨availableAt, available⟩, registered⟩ := notStranded
    simp [isSync, toPayload, available, registered, driverPush, works, settle]

theorem enqueued_of_free {uniqueId connection queue : String}
    (connects : registry.connection handle = .ok connection)
    (queues : registry.queue handle = .ok queue)
    (notStranded : strandsLease registry handle surroundings = false)
    (works : surroundings.push = none) (dispatches : registry.uniqueId handle = some uniqueId)
    (free : world.free uniqueId = true) :
    (dispatchOutcome registry handle surroundings world).1 =
      some (.ok (.enqueued surroundings.jobId)) := by
  have notRefused := not_deduplicated_of_free dispatches free surroundings
  rcases dispatchOutcome_cases registry handle surroundings world with
    ⟨error, outcome⟩ | ⟨found, -, -, outcome⟩ |
      ⟨name, queueName, acquisition, sameConnection, sameQueue, -, outcome⟩
  · exfalso
    revert outcome
    unfold dispatchOutcome
    simp only [connects, queues]
    split
    · simp
    · intro outcome
      have ended := congrArg Prod.fst outcome
      rw [enqueue_undisturbed connects queues notStranded works] at ended
      simp at ended
  · exact (notRefused found (by rw [outcome])).elim
  · rw [outcome]
    exact enqueue_undisturbed sameConnection sameQueue notStranded works _ _

theorem covered_step {action : Action Json}
    (covered : Covered registry world) (returns : ReturnsLease registry world action)
    (taken : step? registry world action = some after) : Covered registry after := by
  cases action with
  | tick elapsed =>
    obtain rfl := Option.some.inj taken
    intro uniqueId
    rcases covered uniqueId with free | inFlight
    · exact .inl (leaseFree_of_later (Nat.le_add_right _ _) free)
    · exact .inr inFlight
  | dispatch handle surroundings =>
    obtain rfl := Option.some.inj taken
    exact covered_dispatch covered returns
  | pop index fault =>
    simp only [step?, map_eq_some_iff] at taken
    obtain ⟨payload, found, rfl⟩ := taken
    exact covered_pop covered returns found
  | process index attempt =>
    simp only [step?, map_eq_some_iff] at taken
    obtain ⟨payload, found, rfl⟩ := taken
    exact covered_process covered returns found

theorem covered_boot (registry : Registry Json) (installed : Bool) :
    Covered registry (boot installed) := by
  intro uniqueId
  left
  cases installed <;> rfl

/--
Along every run that takes no forgetful exit, a lease is free whenever no job
of its unique id is in flight, every failed dispatch and every terminal
outcome leaves it free, and the next dispatch is let through.
-/
theorem leases_returned (registry : Registry Json) (installed : Bool) {world : World Json}
    (reached : ReachableAlong (step? registry) (ReturnsLease registry) (boot installed) world) :
    LeasesReturned registry world := by
  have covered : Covered registry world := reached.invariant (Covered registry)
      (covered_boot registry installed)
      (fun _ _ _ before returns taken => covered_step before returns taken)
  constructor
  · intro uniqueId idle
    exact (covered uniqueId).resolve_right idle
  · intro handle surroundings error after uniqueId returns free failed
    exact free_of_failedDispatch returns free failed
  · intro index payload attempt after uniqueId returns found isUnique
      terminal finished
    exact free_of_terminalOutcome returns found isUnique terminal finished
  · intro handle surroundings uniqueId other dispatches free
    exact not_deduplicated_of_free dispatches free surroundings other
  · intro handle surroundings uniqueId connection queue connects queues
      notStranded works dispatches free
    exact enqueued_of_free connects queues notStranded works dispatches free

/-! ## Runs of a small application -/

/-- Two unique job types on the `database` connection; one has a handler. -/
private def shop : Registry String where
  routes := fun _ => some { connection := "database", queue := "default" }
  drivers := fun connection => connection == "database"
  unique := fun _ => some fun body => some (body, 0)
  resolver := fun payload =>
    if payload.job = some "Invoice" then some { maxTries := 1, backoff := 0, timeout := 0 }
    else none

private def order (typeKey : String) (connection : Option String) : Action String :=
  .dispatch
    { typeKey := typeKey
      body := "42"
      queue := none
      connection := connection
      delay := 0
      batchId := none }
    { utcNow := 0, uuid := "a1", jobId := "b1", push := none }

/-- Run the popped job to success, with the given end of its `ack`. -/
private def succeed (ack : Option DriverFault) : Action String :=
  .process 0 { outcome := .succeeded, utcNow := 0, deadLetter := none, ack := ack, release := none }

/-- The dispatch names a connection nobody registered. -/
private def strayRun : List (Action String) := [order "Invoice" (some "redis")]

private def orphanRun : List (Action String) := [order "Receipt" none, .pop 0 none, succeed none]

/-- The `ack` removes the envelope and then reports a lost connection. -/
private def brokenAckRun : List (Action String) :=
  [order "Invoice" none, .pop 0 none,
    succeed (some { error := some (.storeUnavailable "connection reset"), effect := .applied })]

/-- Each forgetful exit leaves a lease held with nothing in flight. -/
theorem lease_outlives_its_job :
    [strayRun, orphanRun, brokenAckRun].Forall fun run => ∃ world,
      run? (step? shop) (boot true) run = some world ∧ Reachable (step? shop) (boot true) world ∧
      ¬ InFlight shop world "42" ∧ world.free "42" = false := by
  have stuck : ∀ run world, run? (step? shop) (boot true) run = some world → world.held = [] →
      world.free "42" = false →
      run? (step? shop) (boot true) run = some world ∧ Reachable (step? shop) (boot true) world ∧
          ¬ InFlight shop world "42" ∧ world.free "42" = false := by
    intro run world accepted empty held
    refine ⟨accepted, reachable_of_run? accepted, ?_, held⟩
    simp [InFlight, empty]
  refine ⟨?_, ?_, ?_⟩
  all_goals exact ⟨_, stuck _ _ rfl rfl (by decide)⟩

/-- An invoice is dispatched, popped and run to success. -/
private def paidRun : List (Action String) :=
  [order "Invoice" none, .tick 5, .pop 0 none, succeed none]

theorem leases_returned_paidRun :
    ∃ world, runAlong? (step? shop) (ReturnsLease shop) (boot true) paidRun = some world ∧
      LeasesReturned shop world ∧ world.free "42" = true := by
  refine ⟨_, rfl, ?_, by decide⟩
  exact leases_returned shop true (reachableAlong_of_runAlong? .start
    (show runAlong? (step? shop) (ReturnsLease shop) (boot true) paidRun = _ from rfl))

end Rustasea.Queue.Dispatch
