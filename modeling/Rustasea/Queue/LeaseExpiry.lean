import Rustasea.Library.TransitionSystem
import Rustasea.Queue.UniqueLease
import Mathlib.Data.List.Nodup

namespace Rustasea.Queue.Lease

open TransitionSystem List Option Function
open Cache (MemoryStore Entry)

/-!
# Leases that expire while their job is in flight

Dispatchers and workers interleave statement by statement: a dispatch takes
the lease, later pushes the envelope; a worker pops it, runs it, acknowledges
it and releases the lease.  A sync dispatch, and a push that fails, release
right after the lease was taken.  The release is an unconditional delete, so
the machine records beside each accepted dispatch whether some release of its
unique id came after it.
-/

variable {Json : Type}

/-- How far an accepted dispatch and its job have come. -/
inductive Phase where
  | leased
  | queued
  | running
  | finished
  | done
  deriving DecidableEq

/-- The statements that move a job along. -/
inductive Move where
  | enqueue
  | pop
  | retry
  | ack
  | release
  deriving DecidableEq

/-- The phase a statement leads to, when the job can take it. -/
def Phase.next? : Phase → Move → Option Phase
  | .leased, .enqueue => some .queued
  | .queued, .pop => some .running
  | .running, .retry => some .queued
  | .running, .ack => some .finished
  | .leased, .release | .finished, .release => some .done
  | _, _ => none

/-- A dispatch that took its lease. -/
structure Accepted (Json : Type) where
  typeKey : String
  body : Json
  uuid : String
  uniqueId : String
  deadline : Nat
  cleared : Bool

/--
The lock store, the clock, every accepted dispatch in order, and the phase of
the job each of them dispatched.
-/
structure State (Json : Type) where
  clock : Nat
  store : UniqueStore
  accepted : List (Accepted Json)
  phase : Nat → Phase

/-- One statement of some dispatcher or worker, or the passing of time. -/
inductive Action (Json : Type) where
  | tick (elapsed : Nat)
  | dispatch (typeKey : String) (body : Json) (uuid : String)
  | move (index : Nat) (statement : Move)

def leaseDeadline (registry : UniqueRegistry Json) (clock : Nat) (typeKey : String)
    (body : Json) : Nat :=
  match uniqueSpec registry typeKey body with
  | none => clock
  | some (_, uniqueFor) => clock + effectiveTtl uniqueFor

/-- A dispatch tries to take the lease, under a fresh token. -/
def dispatch? (registry : UniqueRegistry Json) (typeKey : String) (body : Json)
    (uuid : String) (state : State Json) : Option (State Json) :=
  if uuid ∈ state.accepted.map Accepted.uuid then none
  else
    match acquireLease registry state.clock uuid typeKey body state.store with
    | (.acquired uniqueId, store) =>
      some
        { state with
          store := store
          accepted :=
            state.accepted ++
              [{ typeKey := typeKey
                 body := body
                 uuid := uuid
                 uniqueId := uniqueId
                 deadline := leaseDeadline registry state.clock typeKey body
                 cleared := false }] }
    | (_, store) => some { state with store := store }

/-- A release of the unique id came after this dispatch. -/
def Accepted.clearedBy (uniqueId : String) (job : Accepted Json) : Accepted Json :=
  { job with cleared := job.cleared || job.uniqueId == uniqueId }

def State.release (registry : UniqueRegistry Json) (job : Accepted Json)
    (state : State Json) : State Json :=
  { state with
    store := releaseUnique registry job.typeKey job.body state.store
    accepted := state.accepted.map (Accepted.clearedBy job.uniqueId) }

/-- The job of the dispatch at `index` enters a phase. -/
def State.enter (index : Nat) (phase : Phase) (state : State Json) : State Json :=
  { state with phase := Function.update state.phase index phase }

def step? (registry : UniqueRegistry Json) (state : State Json)
    (action : Action Json) : Option (State Json) :=
  match action with
  | .tick elapsed => some { state with clock := state.clock + elapsed }
  | .dispatch typeKey body uuid => dispatch? registry typeKey body uuid state
  | .move index statement =>
    match state.accepted[index]? with
    | none => none
    | some job =>
      ((state.phase index).next? statement).map fun phase =>
        if statement = .release then (state.release registry job).enter index phase
        else state.enter index phase

/-- An installed, empty lock store and no dispatch yet. -/
def boot : State Json where
  clock := 0
  store := some .new
  accepted := []
  phase := fun _ => .leased

/-! ## Who holds a lease -/

/-- The lease is unexpired and no release of its unique id came after it. -/
def Standing (state : State Json) (job : Accepted Json) : Prop :=
  job.cleared = false ∧ state.clock < job.deadline

/-- The dispatch at `index` took the lease that stands under the unique id. -/
structure Holds (state : State Json) (uniqueId : String) (index : Nat)
    (job : Accepted Json) : Prop where
  accepted : state.accepted[index]? = some job
  sameId : job.uniqueId = uniqueId
  standing : Standing state job
  token : leaseToken state.clock uniqueId state.store = some (uniqueToken job.uuid)

def Refuses (registry : UniqueRegistry Json) (state : State Json) (uniqueId : String) : Prop :=
  ∀ uuid typeKey body uniqueFor, uniqueSpec registry typeKey body = some (uniqueId, uniqueFor) →
    (acquireLease registry state.clock uuid typeKey body state.store).1 = .held uniqueId

def State.storeAfterRelease (registry : UniqueRegistry Json) (state : State Json)
    (job : Accepted Json) : UniqueStore :=
  releaseUnique registry job.typeKey job.body state.store

/-- What a lease guards in every reachable state. -/
structure Guarded (registry : UniqueRegistry Json) (state : State Json) : Prop where
  distinctTokens : (state.accepted.map fun job => uniqueToken job.uuid).Nodup
  holderOfLease : ∀ uniqueId, leaseFree state.clock uniqueId state.store = false →
      ∃ index job, Holds state uniqueId index job
  standingHolds : ∀ (index : Nat) (job : Accepted Json), state.accepted[index]? = some job →
      Standing state job → Holds state job.uniqueId index job
  oneHolder : ∀ uniqueId first second firstJob secondJob, Holds state uniqueId first firstJob →
      Holds state uniqueId second secondJob → first = second
  refused : ∀ uniqueId index job, Holds state uniqueId index job → Refuses registry state uniqueId
  releaseOwnId : ∀ (index : Nat) (job : Accepted Json), state.accepted[index]? = some job →
      leaseFree state.clock job.uniqueId (state.storeAfterRelease registry job) = true ∧
        ∀ other, other ≠ job.uniqueId → leaseToken state.clock other
              (state.storeAfterRelease registry job) =
            leaseToken state.clock other state.store
  releaseOwnOrLater : ∀ (index : Nat) (job : Accepted Json) holder holderJob,
      state.accepted[index]? = some job → Holds state job.uniqueId holder holderJob →
      index ≤ holder ∧ (Standing state job → holder = index)

/--
The releasing job's own lease is unexpired, or no lease stands under its
unique id.
-/
def Timely (state : State Json) : Action Json → Prop
  | .move index .release =>
    ∀ job ∈ state.accepted[index]?,
      state.clock < job.deadline ∨ leaseFree state.clock job.uniqueId state.store = true
  | _ => True

instance
    (state : State Json) (action : Action Json) : Decidable (Timely state action) := by
  unfold Timely
  split <;> infer_instance

/-- What a lease guards while every release is timely. -/
structure Exclusive (registry : UniqueRegistry Json) (state : State Json) : Prop where
  inFlightHolds : ∀ (index : Nat) (job : Accepted Json), state.accepted[index]? = some job →
      state.phase index ≠ .done → state.clock < job.deadline → Holds state job.uniqueId index job
  oneInFlight : ∀ (first second : Nat) (firstJob secondJob : Accepted Json),
      state.accepted[first]? = some firstJob → state.accepted[second]? = some secondJob →
      state.phase first ≠ .done → state.phase second ≠ .done → state.clock < firstJob.deadline →
      state.clock < secondJob.deadline → firstJob.uniqueId = secondJob.uniqueId → first = second
  nextRefused : ∀ (index : Nat) (job : Accepted Json), state.accepted[index]? = some job →
      state.phase index ≠ .done → state.clock < job.deadline → Refuses registry state job.uniqueId
  ownRelease : ∀ (index : Nat) (job : Accepted Json) holder holderJob,
      state.accepted[index]? = some job → state.phase index ≠ .done →
      Timely state (.move index .release) → Holds state job.uniqueId holder holderJob →
      holder = index

/-! ## The invariant behind them -/

/-- What the store and the accepted dispatches know about each other. -/
structure Tracked (registry : UniqueRegistry Json) (state : State Json) : Prop where
  tokens : (state.accepted.map Accepted.uuid).Nodup
  spec : ∀ job ∈ state.accepted,
      ∃ uniqueFor, uniqueSpec registry job.typeKey job.body = some (job.uniqueId, uniqueFor)
  stored : ∀ job ∈ state.accepted, Standing state job → ∃ installed : MemoryStore String,
        state.store = some installed ∧ installed.inner (uniqueKey job.uniqueId) = some
              { value := uniqueToken job.uuid, expiresAt := some job.deadline }
  holder : ∀ uniqueId, leaseFree state.clock uniqueId state.store = false →
      ∃ job ∈ state.accepted, job.uniqueId = uniqueId ∧ Standing state job
  latest : ∀ (earlier later : Nat) (earlierJob laterJob : Accepted Json),
      state.accepted[earlier]? = some earlierJob → state.accepted[later]? = some laterJob →
      earlier < later → earlierJob.uniqueId = laterJob.uniqueId → ¬ Standing state earlierJob

variable {registry : UniqueRegistry Json} {state : State Json} {job : Accepted Json}

theorem Tracked.token (tracked : Tracked registry state) (member : job ∈ state.accepted)
    (standing : Standing state job) :
    leaseToken state.clock job.uniqueId state.store = some (uniqueToken job.uuid) := by
  obtain ⟨installed, store, found⟩ := tracked.stored job member standing
  rw [store]
  apply MemoryStore.get_eq_some_iff.mpr
  exact ⟨_, found, by simpa [Entry.alive] using standing.2, rfl⟩

theorem Tracked.holds (tracked : Tracked registry state) {index : Nat}
    (atIndex : state.accepted[index]? = some job) (standing : Standing state job) :
    Holds state job.uniqueId index job where
  accepted := atIndex
  sameId := rfl
  standing := standing
  token := tracked.token (mem_of_getElem? atIndex) standing

theorem Tracked.index_le (tracked : Tracked registry state) {index holder : Nat}
    {job holderJob : Accepted Json} (atIndex : state.accepted[index]? = some job)
    (holds : Holds state job.uniqueId holder holderJob) : index ≤ holder := by
  by_contra earlier
  exact tracked.latest holder index holderJob job holds.accepted atIndex
    (by omega) holds.sameId holds.standing

theorem refuses_of_not_free {uniqueId : String}
    (taken : leaseFree state.clock uniqueId state.store = false) :
    Refuses registry state uniqueId := by
  intro uuid typeKey body uniqueFor spec
  rcases acquireLease_cases registry state.clock uuid typeKey body
      state.store with
    ⟨-, notApplicable⟩ | ⟨found, _, sameSpec, -, outcome⟩ | ⟨_, found, _, -, sameSpec, free, -⟩
  · rcases notApplicable with noStore | noSpec
    · simp [noStore, leaseFree, leaseToken] at taken
    · simp [noSpec] at spec
  · rw [spec, Option.some.injEq, Prod.mk.injEq] at sameSpec
    rw [outcome, sameSpec.1]
  · rw [spec, Option.some.injEq, Prod.mk.injEq] at sameSpec
    rw [← sameSpec.1, taken] at free
    simp at free

variable {body : Json}

theorem leaseToken_releaseUnique_other {typeKey uniqueId other : String} {uniqueFor : Duration}
    (spec : uniqueSpec registry typeKey body = some (uniqueId, uniqueFor))
    (differs : other ≠ uniqueId) (clock : Nat) (store : UniqueStore) :
    leaseToken clock other (releaseUnique registry typeKey body store) =
      leaseToken clock other store := by
  cases store with
  | none => rfl
  | some installed =>
    have otherKey : uniqueKey other ≠ uniqueKey uniqueId :=
      fun same => differs (uniqueKey_injective same)
    simp only [releaseUnique, spec]
    exact MemoryStore.get_forget_other otherKey clock installed

/-- The invariant says what a lease guards. -/
theorem Tracked.guarded (tracked : Tracked registry state) : Guarded registry state where
  distinctTokens := by
    have injective : Function.Injective uniqueToken :=
      fun _ _ same => (String.append_right_inj "unique-").mp same
    simpa [comp_def] using List.Nodup.map injective tracked.tokens
  holderOfLease := by
    intro uniqueId taken
    obtain ⟨job, member, rfl, standing⟩ := tracked.holder uniqueId taken
    obtain ⟨index, atIndex⟩ := mem_iff_getElem?.mp member
    exact ⟨index, job, tracked.holds atIndex standing⟩
  standingHolds := by
    intro index job atIndex standing
    exact tracked.holds atIndex standing
  oneHolder := by
    intro uniqueId first second firstJob secondJob firstHolds secondHolds
    apply le_antisymm
    · apply tracked.index_le firstHolds.accepted
      rw [firstHolds.sameId]
      exact secondHolds
    · apply tracked.index_le secondHolds.accepted
      rw [secondHolds.sameId]
      exact firstHolds
  refused := by
    intro uniqueId index job holds
    apply refuses_of_not_free
    simp [leaseFree, holds.token]
  releaseOwnId := by
    intro index job atIndex
    obtain ⟨uniqueFor, spec⟩ := tracked.spec job (mem_of_getElem? atIndex)
    constructor
    · exact leaseFree_releaseUnique_self spec state.store
    · intro other differs
      exact leaseToken_releaseUnique_other spec differs _ _
  releaseOwnOrLater := by
    intro index job holder holderJob atIndex holds
    refine ⟨tracked.index_le atIndex holds, fun standing => ?_⟩
    apply le_antisymm
    · apply tracked.index_le holds.accepted
      rw [holds.sameId]
      exact tracked.holds atIndex standing
    · exact tracked.index_le atIndex holds

/-! ## Every statement keeps it -/

theorem Tracked.enter (tracked : Tracked registry state) (index : Nat) (phase : Phase) :
    Tracked registry (state.enter index phase) where
  tokens := tracked.tokens
  spec := tracked.spec
  stored := tracked.stored
  holder := tracked.holder
  latest := tracked.latest

theorem Tracked.tick (tracked : Tracked registry state) (elapsed : Nat) :
    Tracked registry { state with clock := state.clock + elapsed } where
  tokens := tracked.tokens
  spec := tracked.spec
  stored := by
    intro job member standing
    apply tracked.stored job member
    exact ⟨standing.1, (Nat.le_add_right _ _).trans_lt standing.2⟩
  holder := by
    intro uniqueId taken
    have takenBefore : leaseFree state.clock uniqueId state.store = false := by
      by_contra free
      rw [leaseFree_of_later (Nat.le_add_right _ _) (by simpa using free)] at taken
      simp at taken
    obtain ⟨job, member, rfl, standing⟩ := tracked.holder uniqueId takenBefore
    refine ⟨job, member, rfl, standing.1, ?_⟩
    obtain ⟨installed, store, found⟩ := tracked.stored job member standing
    by_contra expired
    simp only [leaseFree, store, isNone_eq_false_iff, isSome_iff_exists] at taken
    obtain ⟨token, read⟩ := taken
    obtain ⟨entry, foundLater, isAlive, -⟩ := MemoryStore.get_eq_some_iff.mp read
    rw [found, Option.some.injEq] at foundLater
    rw [← foundLater] at isAlive
    simp only [Entry.alive, decide_eq_true_eq] at isAlive
    exact expired isAlive
  latest := by
    intro earlier later earlierJob laterJob atEarlier atLater before sameId standing
    apply tracked.latest earlier later earlierJob laterJob atEarlier atLater before sameId
    exact ⟨standing.1, (Nat.le_add_right _ _).trans_lt standing.2⟩

private theorem standing_of_clearedBy {released job : Accepted Json}
    (standing : Standing (state.release registry released) (job.clearedBy released.uniqueId)) :
    Standing state job ∧ job.uniqueId ≠ released.uniqueId := by
  obtain ⟨notCleared, unexpired⟩ := standing
  simp only [Accepted.clearedBy, Bool.or_eq_false_iff, beq_eq_false_iff_ne] at notCleared
  exact ⟨⟨notCleared.1, unexpired⟩, notCleared.2⟩

theorem Tracked.release (tracked : Tracked registry state) {released : Accepted Json}
    (member : released ∈ state.accepted) : Tracked registry (state.release registry released) := by
  obtain ⟨releasedFor, releasedSpec⟩ := tracked.spec released member
  constructor
  · have same : (state.release registry released).accepted.map Accepted.uuid =
        state.accepted.map Accepted.uuid := by
      simp [State.release, Accepted.clearedBy]
    rw [same]
    exact tracked.tokens
  · intro after afterMember
    obtain ⟨job, jobMember, rfl⟩ := mem_map.mp afterMember
    exact tracked.spec job jobMember
  · intro after afterMember standing
    obtain ⟨job, jobMember, rfl⟩ := mem_map.mp afterMember
    obtain ⟨standingBefore, differs⟩ := standing_of_clearedBy standing
    obtain ⟨installed, store, found⟩ := tracked.stored job jobMember standingBefore
    refine ⟨installed.forget (uniqueKey released.uniqueId), ?_, ?_⟩
    · simp [State.release, releaseUnique, store, releasedSpec]
    · have otherKey : uniqueKey job.uniqueId ≠ uniqueKey released.uniqueId :=
        fun same => differs (uniqueKey_injective same)
      simp only [MemoryStore.forget, Accepted.clearedBy]
      rw [update_of_ne otherKey, found]
  · intro uniqueId taken
    have differs : uniqueId ≠ released.uniqueId := by
      rintro rfl
      rw [State.release, leaseFree_releaseUnique_self releasedSpec] at taken
      simp at taken
    have sameToken := leaseToken_releaseUnique_other releasedSpec differs state.clock state.store
    rw [leaseFree, State.release, sameToken] at taken
    obtain ⟨job, jobMember, rfl, standing⟩ := tracked.holder uniqueId taken
    refine ⟨_, mem_map_of_mem jobMember, rfl, ?_, standing.2⟩
    simp [Accepted.clearedBy, standing.1, differs]
  · intro earlier later earlierJob laterJob atEarlier atLater before sameId
      standing
    simp only [State.release, getElem?_map, map_eq_some_iff] at atEarlier atLater
    obtain ⟨earlierBefore, atEarlier, rfl⟩ := atEarlier
    obtain ⟨laterBefore, atLater, rfl⟩ := atLater
    exact tracked.latest earlier later _ _ atEarlier atLater before sameId
      (standing_of_clearedBy standing).1

theorem Tracked.not_free (tracked : Tracked registry state) (member : job ∈ state.accepted)
    (standing : Standing state job) : leaseFree state.clock job.uniqueId state.store = false := by
  simp [leaseFree, tracked.token member standing]

variable {typeKey uuid : String} {state after : State Json}

private theorem dispatch?_cases (taken : dispatch? registry typeKey body uuid state = some after) :
    uuid ∉ state.accepted.map Accepted.uuid ∧ (after = state ∨ ∃ installed uniqueId uniqueFor,
          state.store = some installed ∧
            uniqueSpec registry typeKey body = some (uniqueId, uniqueFor) ∧
            leaseFree state.clock uniqueId state.store = true ∧ after =
              { state with
                store :=
                  some (installed.putIfAbsent state.clock (uniqueKey uniqueId) (uniqueToken uuid)
                    (effectiveTtl uniqueFor)).2
                accepted :=
                  state.accepted ++
                    [{ typeKey := typeKey
                       body := body
                       uuid := uuid
                       uniqueId := uniqueId
                       deadline := state.clock + effectiveTtl uniqueFor
                       cleared := false }] }) := by
  unfold dispatch? at taken
  split_ifs at taken with used
  refine ⟨used, ?_⟩
  rcases acquireLease_cases registry state.clock uuid typeKey body
      state.store with
    ⟨outcome, -⟩ | ⟨_, _, -, -, outcome⟩ |
      ⟨installed, uniqueId, uniqueFor, store, spec, free, outcome⟩
  · left
    simpa [outcome] using taken.symm
  · left
    simpa [outcome] using taken.symm
  · right
    refine ⟨installed, uniqueId, uniqueFor, store, spec, free, ?_⟩
    simpa [outcome, leaseDeadline, spec] using taken.symm

/-- A dispatch keeps the invariant. -/
theorem Tracked.dispatch (tracked : Tracked registry state)
    (taken : dispatch? registry typeKey body uuid state = some after) : Tracked registry after := by
  obtain ⟨fresh, rfl | ⟨installed, uniqueId, uniqueFor, store, spec, free,
      rfl⟩⟩ := dispatch?_cases taken
  · exact tracked
  have absent : (installed.get state.clock (uniqueKey uniqueId)).1 = none := by
    simpa [leaseFree, leaseToken, store] using free
  have inner := MemoryStore.inner_putIfAbsent absent (uniqueToken uuid) (effectiveTtl uniqueFor)
  have otherId : ∀ job ∈ state.accepted, Standing state job → job.uniqueId ≠ uniqueId := by
    rintro job member standing rfl
    rw [tracked.not_free member standing] at free
    simp at free
  constructor
  · simp only [map_append]
    apply List.Nodup.append tracked.tokens (by simp)
    simpa using fresh
  · intro job member
    simp only [mem_append, mem_singleton] at member
    rcases member with member | rfl
    · exact tracked.spec job member
    · exact ⟨uniqueFor, spec⟩
  · intro job member standing
    refine ⟨_, rfl, ?_⟩
    rw [inner]
    simp only [mem_append, mem_singleton] at member
    rcases member with member | rfl
    · obtain ⟨found, sameStore, stored⟩ := tracked.stored job member standing
      rw [store, Option.some.injEq] at sameStore
      subst sameStore
      have otherKey : uniqueKey job.uniqueId ≠ uniqueKey uniqueId :=
        fun same => otherId job member standing (uniqueKey_injective same)
      rw [update_of_ne otherKey, stored]
    · have notZero := Nat.ne_of_gt (effectiveTtl_pos uniqueFor)
      rw [update_self, MemoryStore.expiry, if_neg notZero]
  · intro other held
    by_cases same : other = uniqueId
    · subst same
      refine ⟨_, mem_append_right _ (mem_singleton_self _), rfl, rfl, ?_⟩
      exact Nat.lt_add_of_pos_right (effectiveTtl_pos uniqueFor)
    · have otherKey : uniqueKey other ≠ uniqueKey uniqueId :=
        fun sameKey => same (uniqueKey_injective sameKey)
      have heldBefore : leaseFree state.clock other state.store = false := by
        rw [← held, store]
        simp only [leaseFree, leaseToken, bind_some]
        rw [MemoryStore.get_putIfAbsent_other otherKey]
      obtain ⟨job, member, sameId, standing⟩ := tracked.holder other heldBefore
      exact ⟨job, mem_append_left _ member, sameId, standing⟩
  · intro earlier later earlierJob laterJob atEarlier atLater before sameId
      standing
    have bound := (List.getElem?_eq_some_iff.mp atLater).1
    simp only [length_append, length_singleton] at bound
    rw [getElem?_append_left (by omega)] at atEarlier
    by_cases isOld : later < state.accepted.length
    · rw [getElem?_append_left isOld] at atLater
      exact tracked.latest earlier later _ _ atEarlier atLater before sameId standing
    · rw [getElem?_append_right (by omega),
        show later - state.accepted.length = 0 by omega,
        getElem?_cons_zero, Option.some.injEq] at atLater
      subst atLater
      exact otherId earlierJob (mem_of_getElem? atEarlier) standing sameId

variable {action : Action Json}

theorem tracked_step (tracked : Tracked registry state)
    (taken : step? registry state action = some after) : Tracked registry after := by
  cases action with
  | tick elapsed =>
    obtain rfl := Option.some.inj taken
    exact tracked.tick elapsed
  | dispatch typeKey body uuid => exact tracked.dispatch taken
  | move index statement =>
    cases atIndex : state.accepted[index]? with
    | none => simp [step?, atIndex] at taken
    | some job =>
      simp only [step?, atIndex, map_eq_some_iff] at taken
      obtain ⟨phase, -, rfl⟩ := taken
      split
      · exact (tracked.release (mem_of_getElem? atIndex)).enter index phase
      · exact tracked.enter index phase

theorem tracked_boot (registry : UniqueRegistry Json) : Tracked registry boot where
  tokens := by simp [boot]
  spec := by simp [boot]
  stored := by simp [boot]
  holder := by
    intro uniqueId taken
    simp [boot, leaseFree, leaseToken] at taken
  latest := by simp [boot]

/-! ## Timely releases -/

/-- Every unexpired lease of a job in flight still stands. -/
def Undisturbed (state : State Json) : Prop :=
  ∀ (index : Nat) (job : Accepted Json), state.accepted[index]? = some job →
    state.phase index ≠ .done → state.clock < job.deadline → job.cleared = false

variable {phase next : Phase}

private theorem not_done_of_next? {statement : Move} (moves : phase.next? statement = some next) :
    phase ≠ .done := by
  rintro rfl
  simp [Phase.next?] at moves

private theorem done_of_release (moves : phase.next? .release = some next) : next = .done := by
  cases phase <;> simp [Phase.next?] at moves <;> exact moves.symm

/-- Timely statements disturb no unexpired lease of a job in flight. -/
theorem undisturbed_step (tracked : Tracked registry state)
    (undisturbed : Undisturbed state) (timely : Timely state action)
    (taken : step? registry state action = some after) : Undisturbed after := by
  cases action with
  | tick elapsed =>
    obtain rfl := Option.some.inj taken
    intro index job atIndex inFlight unexpired
    exact undisturbed index job atIndex inFlight ((Nat.le_add_right _ _).trans_lt unexpired)
  | dispatch typeKey body uuid =>
    obtain ⟨-, rfl | ⟨_, _, _, -, -, -, rfl⟩⟩ := dispatch?_cases taken
    · exact undisturbed
    · intro index job atIndex inFlight unexpired
      by_cases isOld : index < state.accepted.length
      · rw [getElem?_append_left isOld] at atIndex
        exact undisturbed index job atIndex inFlight unexpired
      · have bound := (List.getElem?_eq_some_iff.mp atIndex).1
        simp only [length_append, length_singleton] at bound
        rw [getElem?_append_right (by omega),
          show index - state.accepted.length = 0 by omega,
          getElem?_cons_zero, Option.some.injEq] at atIndex
        rw [← atIndex]
  | move index statement =>
    cases atIndex : state.accepted[index]? with
    | none => simp [step?, atIndex] at taken
    | some released =>
      simp only [step?, atIndex, map_eq_some_iff] at taken
      obtain ⟨phase, moves, rfl⟩ := taken
      have wasInFlight := not_done_of_next? moves
      split
      · next isRelease =>
        subst isRelease
        obtain rfl := done_of_release moves
        intro other after atOther inFlight unexpired
        have differs : other ≠ index := by
          rintro rfl
          simp [State.enter] at inFlight
        simp only [State.enter, State.release, getElem?_map, map_eq_some_iff,
          update_of_ne differs] at atOther inFlight
        obtain ⟨job, atOther, rfl⟩ := atOther
        have notCleared := undisturbed other job atOther inFlight unexpired
        have standing : Standing state job := ⟨notCleared, unexpired⟩
        have otherId : job.uniqueId ≠ released.uniqueId := by
          intro sameId
          have holds := tracked.holds atOther standing
          rw [sameId] at holds
          rcases timely released atIndex with inTime | free
          · have own : Standing state released :=
              ⟨undisturbed index released atIndex wasInFlight inTime, inTime⟩
            exact differs
              ((tracked.guarded.releaseOwnOrLater index released other job atIndex holds).2 own)
          · simp [leaseFree, holds.token] at free
        simp [Accepted.clearedBy, notCleared, otherId]
      · intro other job atOther inFlight unexpired
        apply undisturbed other job atOther ?_ unexpired
        by_cases same : other = index
        · exact same ▸ wasInFlight
        · simpa [State.enter, update_of_ne same] using inFlight

theorem Undisturbed.exclusive (undisturbed : Undisturbed state) (tracked : Tracked registry state) :
    Exclusive registry state := by
  have holds : ∀ (index : Nat) (job : Accepted Json), state.accepted[index]? = some job →
      state.phase index ≠ .done → state.clock < job.deadline →
      Holds state job.uniqueId index job := by
    intro index job atIndex inFlight unexpired
    apply tracked.holds atIndex
    exact ⟨undisturbed index job atIndex inFlight unexpired, unexpired⟩
  constructor
  · exact holds
  · intro first second firstJob secondJob atFirst atSecond firstInFlight
      secondInFlight firstUnexpired secondUnexpired sameId
    apply tracked.guarded.oneHolder firstJob.uniqueId
    · exact holds first firstJob atFirst firstInFlight firstUnexpired
    · rw [sameId]
      exact holds second secondJob atSecond secondInFlight secondUnexpired
  · intro index job atIndex inFlight unexpired
    exact tracked.guarded.refused _ _ _ (holds index job atIndex inFlight unexpired)
  · intro index job holder holderJob atIndex inFlight timely held
    rcases timely job atIndex with inTime | free
    · apply (tracked.guarded.releaseOwnOrLater index job holder holderJob
        atIndex held).2
      exact (holds index job atIndex inFlight inTime).standing
    · simp [leaseFree, held.token] at free

/-! ## Whole runs -/

/--
In every reachable state a release removes the lease that stands under the
job's own unique id, at most one dispatch holds that lease, and it is the
releasing job's or a later one's.  Along timely releases it is the releasing
job's own, and an unexpired job in flight keeps the next dispatch out.
-/
theorem lease_guards_until_release (registry : UniqueRegistry Json) {state : State Json}
    (reached : Reachable (step? registry) boot state) :
    Guarded registry state ∧
    (ReachableAlong (step? registry) Timely boot state → Exclusive registry state) := by
  have tracked : Tracked registry state :=
    reached.invariant (Tracked registry) (tracked_boot registry)
      (fun _ _ _ before _ taken => tracked_step before taken)
  refine ⟨tracked.guarded, fun timely => ?_⟩
  have both : Tracked registry state ∧ Undisturbed state := by
    apply timely.invariant (fun state => Tracked registry state ∧ Undisturbed state)
    · exact ⟨tracked_boot registry, by simp [Undisturbed, boot]⟩
    · intro before action after holds isTimely taken
      exact ⟨tracked_step holds.1 taken, undisturbed_step holds.1 holds.2 isTimely taken⟩
  exact both.2.exclusive both.1

/-! ## Runs with two and three dispatches -/

/-- One unique job type whose lease lasts ten nanoseconds. -/
private def billing : UniqueRegistry String := fun _ => some fun body => some (body, 10)

/-- The job outlives its lease, and a second dispatch takes the lease. -/
private def overrunRun : List (Action String) :=
  [.dispatch "Invoice" "42" "a", .move 0 .enqueue, .move 0 .pop,
    .tick 10, .dispatch "Invoice" "42" "b", .move 1 .enqueue,
    .move 0 .ack]

private def intrusion : List (Action String) := [.move 0 .release, .dispatch "Invoice" "42" "c"]

/--
The first job deletes the second dispatch's unexpired lease, and a third
dispatch is accepted while the second job is queued.
-/
theorem release_removes_later_lease :
    ∃ before after,
      run? (step? billing) boot overrunRun = some before ∧ Reachable (step? billing) boot before ∧
      leaseToken before.clock "42" before.store = some (uniqueToken "b") ∧
      run? (step? billing) before intrusion = some after ∧ Reachable (step? billing) boot after ∧
      after.clock = before.clock ∧ after.phase 1 = .queued ∧
      after.accepted.map Accepted.uuid = ["a", "b", "c"] ∧
      (after.accepted.map fun job => decide (after.clock < job.deadline)) = [false, true, true] ∧
      leaseToken after.clock "42" after.store = some (uniqueToken "c") := by
  have beforeReached := reachable_of_run?
      (show run? (step? billing) boot overrunRun = some _ from rfl)
  have afterReached := reachable_of_run?
      (show run? (step? billing) boot (overrunRun ++ intrusion) = some _ from rfl)
  exact ⟨_, _, rfl, beforeReached, by decide, rfl, afterReached, rfl, rfl,
    by decide, by decide, by decide⟩

/-- The second dispatch waits for the first job and is accepted after it. -/
private def orderlyRun : List (Action String) :=
  [.dispatch "Invoice" "42" "a", .move 0 .enqueue, .move 0 .pop,
    .tick 4, .dispatch "Invoice" "42" "b", .move 0 .ack,
    .move 0 .release, .dispatch "Invoice" "42" "c", .move 1 .enqueue]

theorem lease_guards_until_release_orderlyRun :
    ∃ state, runAlong? (step? billing) Timely boot orderlyRun = some state ∧ Guarded billing state ∧
      Exclusive billing state ∧
      leaseToken state.clock "42" state.store = some (uniqueToken "c") := by
  refine ⟨_, rfl, ?_⟩
  have timely := reachableAlong_of_runAlong? .start
      (show runAlong? (step? billing) Timely boot orderlyRun = _ from rfl)
  have guards := lease_guards_until_release billing (timely.mono fun _ _ _ => trivial)
  exact ⟨guards.1, guards.2 timely, by decide⟩

end Rustasea.Queue.Lease
