import Rustasea.Queue.WorkerExclusion

namespace Rustasea.Queue.Workers

open SqlTable TransitionSystem

/-!
# Every job is in one place

A pushed job is available, reserved, acknowledged or dead-lettered.  The four
places exclude each other except between the two statements that bury a job:
its dead letter is inserted before its row is deleted.
-/

variable {Json Text : Type}

def deadJob (codec : Codec (JobPayload Json) Text) (row : FailedRow Text) : Option String :=
  match codec.decode row.payload with
  | .ok payload => payload.id
  | .error _ => none

/-- Where a pushed job can be. -/
inductive Place where
  | available
  | reserved
  | acknowledged
  | deadLettered

def InPlace (codec : Codec (JobPayload Json) Text) (state : State Json Text)
    (id : String) : Place → Prop
  | .available => ∃ row ∈ state.jobs, row.id = some id ∧ row.reservedAt = none
  | .reserved => ∃ row ∈ state.jobs, row.id = some id ∧ row.reservedAt.isSome = true
  | .acknowledged => ∃ entry, state.history id = some entry ∧ entry.acknowledged = true
  | .deadLettered => ∃ row ∈ state.failed, deadJob codec row = some id

/-- A worker has inserted the dead letter and not yet deleted the row. -/
def BeingBuried (state : State Json Text) (id : String) : Prop :=
  ∃ worker payload, state.workers worker = .buried payload ∧ payload.id = some id

/-- The dead letters account for the jobs that left the table unfinished. -/
structure Accounted (codec : Codec (JobPayload Json) Text) (state : State Json Text) : Prop where
  dead : ∀ row ∈ state.failed, ∃ id entry,
        deadJob codec row = some id ∧ state.history id = some entry ∧ entry.acknowledged = false
  burying : ∀ row ∈ state.failed, ∀ job ∈ state.jobs, deadJob codec row = job.id →
        ∃ worker payload, state.workers worker = .buried payload ∧ payload.id = job.id
  buried : ∀ worker payload, state.workers worker = .buried payload →
      ∃ row ∈ state.failed, deadJob codec row = payload.id
  distinct : (state.failed.rows.map (deadJob codec)).Nodup
  placed : ∀ id entry, state.history id = some entry → (∃ row ∈ state.jobs, row.id = some id) ∨
        entry.acknowledged = true ∨ ∃ row ∈ state.failed, deadJob codec row = some id

section Preservation

variable {codec : Codec (JobPayload Json) Text} {rfc3339 : Instant → String}
  {state : State Json Text}

theorem accounted_initial : Accounted codec (State.initial Json Text) where
  dead := by
    intro row member
    exact (not_mem_empty member).elim
  burying := by
    intro row member
    exact (not_mem_empty member).elim
  buried := by
    intro worker payload isBuried
    cases isBuried
  distinct := by
    simp [State.initial, SqlTable.empty]
  placed := by
    intro id entry known
    cases known

namespace Accounted

variable {worker : Nat} {payload : JobPayload Json} {id : String}

theorem not_dead_of_running (accounted : Accounted codec state) (exclusive : Exclusive codec state)
    (isRunning : state.workers worker = .running payload)
    (payloadId : payload.id = some id) : ∀ row ∈ state.failed, deadJob codec row ≠ some id := by
  intro row member isDead
  have holds : (state.workers worker).heldId = some id := by
    simp [WorkerState.heldId, isRunning, WorkerState.heldPayload, payloadId]
  obtain ⟨job, jobMember, jobId, _⟩ := exclusive.held worker id holds
  obtain ⟨other, buried, isBuried, buriedId⟩ :=
    accounted.burying row member job jobMember (isDead.trans jobId.symm)
  have otherHolds : (state.workers other).heldId = some id := by
    simp [WorkerState.heldId, isBuried, WorkerState.heldPayload, buriedId, jobId]
  obtain rfl := exclusive.holder_unique other worker id otherHolds holds
  rw [isRunning] at isBuried
  cases isBuried

/--
Steps that keep the ids in the jobs table, the dead letters, the buried
workers and who is acknowledged.
-/
theorem sameIds (accounted : Accounted codec state) {after : State Json Text}
    (failed : after.failed = state.failed)
    (ids : ∀ id, (∃ row ∈ after.jobs, row.id = some id) ↔ ∃ row ∈ state.jobs, row.id = some id)
    (allIds : ∀ row ∈ after.jobs, ∃ id, row.id = some id)
    (buried : ∀ worker payload, after.workers worker = .buried payload ↔
        state.workers worker = .buried payload)
    (history : ∀ id, (after.history id).map JobHistory.acknowledged =
        (state.history id).map JobHistory.acknowledged) : Accounted codec after := by
  have historyForward : ∀ {id entry}, state.history id = some entry → ∃ next,
      after.history id = some next ∧ next.acknowledged = entry.acknowledged := by
    intro id entry known
    have same := history id
    rw [known] at same
    simpa using same
  have historyBack : ∀ {id next}, after.history id = some next → ∃ entry,
      state.history id = some entry ∧ entry.acknowledged = next.acknowledged := by
    intro id next known
    have same := history id
    rw [known] at same
    simpa using same.symm
  refine { dead := ?_, burying := ?_, buried := ?_, distinct := ?_, placed := ?_ }
  · intro row member
    rw [failed] at member
    obtain ⟨id, entry, isDead, known, unfinished⟩ := accounted.dead row member
    obtain ⟨next, nextKnown, same⟩ := historyForward known
    exact ⟨id, next, isDead, nextKnown, same.trans unfinished⟩
  · intro row member job jobMember isDead
    rw [failed] at member
    obtain ⟨id, jobId⟩ := allIds job jobMember
    obtain ⟨old, oldMember, oldId⟩ := (ids id).mp ⟨job, jobMember, jobId⟩
    obtain ⟨worker, payload, isBuried, payloadId⟩ :=
      accounted.burying row member old oldMember (isDead.trans (jobId.trans oldId.symm))
    exact ⟨worker, payload, (buried worker payload).mpr isBuried,
      payloadId.trans (oldId.trans jobId.symm)⟩
  · intro worker payload isBuried
    rw [failed]
    exact accounted.buried worker payload ((buried worker payload).mp isBuried)
  · rw [failed]
    exact accounted.distinct
  · intro id next known
    obtain ⟨entry, entryKnown, same⟩ := historyBack known
    rcases accounted.placed id entry entryKnown with inJobs | isAcknowledged | isDead
    · exact .inl ((ids id).mpr inJobs)
    · exact .inr (.inl (same ▸ isAcknowledged))
    · rw [failed]
      exact .inr (.inr isDead)

theorem push (accounted : Accounted codec state) {uuid : String} {now : Instant}
    {jobs : JobsTable Text} (unknown : state.history uuid = none)
    (inserted : Queue.push codec rfc3339 uuid now payload state.jobs = some jobs) :
    Accounted codec
      { state with
        jobs := jobs
        history :=
          Function.update state.history uuid (some (JobHistory.start payload)) } := by
  have known_ne : ∀ {id entry}, state.history id = some entry → id ≠ uuid := by
    rintro id entry known rfl
    simp [unknown] at known
  refine
    { dead := ?_
      burying := ?_
      buried := accounted.buried
      distinct := accounted.distinct
      placed := ?_ }
  · intro row member
    obtain ⟨id, entry, isDead, known, unfinished⟩ := accounted.dead row member
    exact ⟨id, entry, isDead, by simp [known_ne known, known], unfinished⟩
  · intro row member job jobMember isDead
    rcases (mem_of_insert? inserted).mp jobMember with old | rfl
    · exact accounted.burying row member job old isDead
    · obtain ⟨id, entry, deadId, known, _⟩ := accounted.dead row member
      have same : some id = some uuid := deadId.symm.trans isDead
      exact (known_ne known (Option.some.inj same)).elim
  · intro id entry known
    by_cases isNew : id = uuid
    · subst isNew
      exact .inl ⟨_, (mem_of_insert? inserted).mpr (.inr rfl), rfl⟩
    · replace known : state.history id = some entry := by
        simpa [isNew] using known
      rcases accounted.placed id entry known with ⟨row, member, rowId⟩ | elsewhere
      · exact .inl ⟨row, (mem_of_insert? inserted).mpr (.inl member), rowId⟩
      · exact .inr elsewhere

theorem ackRunning (accounted : Accounted codec state) (exclusive : Exclusive codec state)
    (isRunning : state.workers worker = .running payload) (payloadId : payload.id = some id) :
    Accounted codec (({ state with jobs := Queue.ack payload state.jobs }.setWorker
        worker .idle).note (some id) JobHistory.acked) := by
  have notDead := accounted.not_dead_of_running exclusive isRunning payloadId
  refine { dead := ?_, burying := ?_, buried := ?_, distinct := accounted.distinct, placed := ?_ }
  · intro row member
    obtain ⟨deadId, entry, isDead, known, unfinished⟩ := accounted.dead row member
    have different : id ≠ deadId := by
      rintro rfl
      exact notDead row member isDead
    exact ⟨deadId, entry, isDead, by simpa [different] using known, unfinished⟩
  · intro row member job jobMember isDead
    obtain ⟨other, buried, isBuried, buriedId⟩ :=
      accounted.burying row member job ((mem_ack payloadId).mp jobMember).1 isDead
    have different : other ≠ worker := by
      rintro rfl
      rw [isRunning] at isBuried
      cases isBuried
    exact ⟨other, buried, by simpa [different] using isBuried, buriedId⟩
  · intro other buried isBuried
    simp only [note_workers, setWorker_workers] at isBuried
    split at isBuried
    · cases isBuried
    · exact accounted.buried other buried isBuried
  · intro other next known
    by_cases isAcked : id = other
    · subst isAcked
      simp only [note_history, ↓reduceIte, Option.map_eq_some_iff] at known
      obtain ⟨entry, _, rfl⟩ := known
      exact .inr (.inl rfl)
    · simp only [note_history, Option.some.injEq, isAcked] at known
      rcases accounted.placed other next known with ⟨row, member, rowId⟩ | elsewhere
      · refine .inl ⟨row, (mem_ack payloadId).mpr ⟨member, ?_⟩, rowId⟩
        rw [rowId]
        simpa using Ne.symm isAcked
      · exact .inr elsewhere

theorem ackBuried (accounted : Accounted codec state)
    (isBuried : state.workers worker = .buried payload) (payloadId : payload.id = some id) :
    Accounted codec
      ({ state with jobs := Queue.ack payload state.jobs }.setWorker worker .idle) := by
  refine
    { dead := accounted.dead
      burying := ?_
      buried := ?_
      distinct := accounted.distinct
      placed := ?_ }
  · intro row member job jobMember isDead
    obtain ⟨old, jobNe⟩ := (mem_ack payloadId).mp jobMember
    obtain ⟨other, buried, otherBuried, buriedId⟩ := accounted.burying row member job old isDead
    have different : other ≠ worker := by
      rintro rfl
      rw [isBuried] at otherBuried
      cases otherBuried
      exact jobNe (buriedId.symm.trans payloadId)
    exact ⟨other, buried, by simpa [different] using otherBuried, buriedId⟩
  · intro other buried otherBuried
    simp only [setWorker_workers] at otherBuried
    split at otherBuried
    · cases otherBuried
    · exact accounted.buried other buried otherBuried
  · intro other entry known
    rcases accounted.placed other entry known with ⟨row, member, rowId⟩ | elsewhere
    · by_cases isDeleted : other = id
      · subst isDeleted
        obtain ⟨dead, deadMember, isDead⟩ := accounted.buried worker payload isBuried
        exact .inr (.inr ⟨dead, deadMember, isDead.trans payloadId⟩)
      · refine .inl ⟨row, (mem_ack payloadId).mpr ⟨member, ?_⟩, rowId⟩
        rw [rowId]
        simpa using isDeleted
    · exact .inr elsewhere

/-- `dead_letter` adds the one dead letter of a running job. -/
theorem deadLetter (accounted : Accounted codec state) (exclusive : Exclusive codec state)
    {id : String} {job : FailedJob Json} {failed : FailedTable Text}
    (isRunning : state.workers worker = .running payload) (payloadId : payload.id = some id)
    (isPayload : job.payload = payload)
    (inserted : Queue.deadLetter codec rfc3339 job state.failed = some failed) :
    Accounted codec ({ state with failed := failed }.setWorker worker (.buried payload)) := by
  have notDead := accounted.not_dead_of_running exclusive isRunning payloadId
  have holds : (state.workers worker).heldId = some id := by
    simp [WorkerState.heldId, isRunning, WorkerState.heldPayload, payloadId]
  have newDead : deadJob codec (failedRow codec rfc3339 job) = some id := by
    simp [deadJob, failedRow, isPayload, payloadId]
  have workersAfter : ∀ other buried, state.workers other = .buried buried → other ≠ worker := by
    rintro other buried isBuried rfl
    rw [isRunning] at isBuried
    cases isBuried
  refine { dead := ?_, burying := ?_, buried := ?_, distinct := ?_, placed := ?_ }
  · intro row member
    rcases (mem_of_insert? inserted).mp member with old | rfl
    · exact accounted.dead row old
    · obtain ⟨job, jobMember, jobId, _⟩ := exclusive.held worker id holds
      obtain ⟨rowId, entry, isRowId, known, tracks⟩ := exclusive.row job jobMember
      obtain rfl : rowId = id := by simpa [isRowId] using jobId
      exact ⟨rowId, entry, newDead, known, tracks.unfinished⟩
  · intro row member job jobMember isDead
    rcases (mem_of_insert? inserted).mp member with old | rfl
    · obtain ⟨other, buried, isBuried, buriedId⟩ := accounted.burying row old job jobMember isDead
      have different := workersAfter other buried isBuried
      exact ⟨other, buried, by simpa [different] using isBuried, buriedId⟩
    · refine ⟨worker, payload, by simp, ?_⟩
      rw [payloadId, ← isDead, newDead]
  · intro other buried isBuried
    simp only [setWorker_workers] at isBuried
    split at isBuried
    · cases isBuried
      exact ⟨_, (mem_of_insert? inserted).mpr (.inr rfl),
        (newDead).trans payloadId.symm⟩
    · obtain ⟨row, member, isDead⟩ := accounted.buried other buried isBuried
      exact ⟨row, (mem_of_insert? inserted).mpr (.inl member), isDead⟩
  · change (failed.rows.map (deadJob codec)).Nodup
    rw [rows_of_insert? inserted, List.map_append]
    refine List.nodup_append.mpr ⟨accounted.distinct, List.nodup_singleton _, ?_⟩
    intro seen seenMember other otherMember same
    obtain ⟨row, member, rfl⟩ := List.mem_map.mp seenMember
    simp only [List.map_cons, List.map_nil, List.mem_singleton] at otherMember
    exact notDead row member (same.trans (otherMember.trans (newDead)))
  · intro other entry known
    rcases accounted.placed other entry known with inJobs | isAcknowledged | ⟨row, member, isDead⟩
    · exact .inl inJobs
    · exact .inr (.inl isAcknowledged)
    · exact .inr (.inr ⟨row, (mem_of_insert? inserted).mpr (.inl member), isDead⟩)

end Accounted

private theorem ids_claimUpdate {table : JobsTable Text} {rowId now id : String} :
    (∃ row ∈ claimUpdate rowId now table, row.id = some id) ↔ ∃ row ∈ table, row.id = some id := by
  constructor
  · rintro ⟨row, member, hasId⟩
    rcases mem_claimUpdate.mp member with ⟨old, _⟩ | ⟨before, old, _, rfl⟩
    · exact ⟨row, old, hasId⟩
    · exact ⟨before, old, hasId⟩
  · rintro ⟨row, member, hasId⟩
    by_cases chosen : row.reservable rowId = true
    · exact ⟨_, mem_claimUpdate.mpr (.inr ⟨row, member, chosen, rfl⟩), hasId⟩
    · exact ⟨row, mem_claimUpdate.mpr (.inl ⟨member, chosen⟩), hasId⟩

private theorem ids_release {now : Instant} {delay : Duration} {payload : JobPayload Json}
    {heldId id : String} (payloadId : payload.id = some heldId) {table after : JobsTable Text}
    (released : release rfc3339 now delay payload table = some after) :
    (∃ row ∈ after, row.id = some id) ↔ ∃ row ∈ table, row.id = some id := by
  obtain ⟨availableAt, rows⟩ := mem_release payloadId released
  constructor
  · rintro ⟨row, member, hasId⟩
    rcases (rows row).mp member with ⟨old, _⟩ | ⟨before, old, _, rfl⟩
    · exact ⟨row, old, hasId⟩
    · exact ⟨before, old, hasId⟩
  · rintro ⟨row, member, hasId⟩
    by_cases isHeld : row.id = some heldId
    · exact ⟨_, (rows _).mpr (.inr ⟨row, member, isHeld, rfl⟩), hasId⟩
    · exact ⟨row, (rows row).mpr (.inl ⟨member, isHeld⟩), hasId⟩

private theorem buried_setWorker {worker : Nat} {next : WorkerState Json Text}
    (wasNot : ∀ payload, state.workers worker ≠ .buried payload)
    (isNot : ∀ payload, next ≠ .buried payload) (other : Nat) (payload : JobPayload Json) :
    (state.setWorker worker next).workers other = .buried payload ↔
      state.workers other = .buried payload := by
  rw [setWorker_workers]
  split
  · next isWorker => simp [isWorker, wasNot, isNot]
  · rfl

private theorem acknowledged_note {id : Option String} {extend : JobHistory Json → JobHistory Json}
    (same : ∀ entry, (extend entry).acknowledged = entry.acknowledged) (other : String) :
    ((state.note id extend).history other).map JobHistory.acknowledged =
      (state.history other).map JobHistory.acknowledged := by
  rw [note_history]
  split
  · simp [Function.comp_def, same]
  · rfl

/-- Every statement keeps the jobs accounted for. -/
theorem accounted_step {after : State Json Text} {action : Action Json}
    (exclusive : Exclusive codec state) (accounted : Accounted codec state)
    (taken : step? codec rfc3339 state action = some after) : Accounted codec after := by
  have exclusiveAfter := exclusive_step exclusive taken
  have allIds : ∀ row ∈ after.jobs, ∃ id, row.id = some id := by
    intro row member
    obtain ⟨id, _, hasId, _⟩ := exclusiveAfter.row row member
    exact ⟨id, hasId⟩
  cases step_cases taken with
  | push unknown inserted => exact accounted.push unknown inserted
  | nothing => exact accounted
  | select isWaiting found hasId | lost isWaiting =>
    refine accounted.sameIds rfl (fun _ => Iff.rfl) allIds ?_ (fun _ => rfl)
    exact buried_setWorker (by simp [isWaiting]) (by simp)
  | @reserve worker now id row _ selected touched =>
    obtain ⟨entry, known, snapshot⟩ := exclusive.snapshot worker now id row _ selected
    obtain ⟨attempts, handedShape, -⟩ := handed_of_snapshot id snapshot
    refine accounted.sameIds rfl (fun _ => ids_claimUpdate) allIds ?_ ?_
    · exact buried_setWorker (by simp [selected]) (by simp [handedShape])
    · exact acknowledged_note fun _ => rfl
  | ack isRunning =>
    obtain ⟨id, payloadId, -⟩ := exclusive.held_of_running isRunning
    rw [payloadId]
    exact accounted.ackRunning exclusive isRunning payloadId
  | ackBuried isBuried =>
    obtain ⟨id, payloadId, -⟩ := exclusive.held_of_buried isBuried
    exact accounted.ackBuried isBuried payloadId
  | release isRunning released =>
    obtain ⟨id, payloadId, -⟩ := exclusive.held_of_running isRunning
    refine accounted.sameIds rfl (fun _ => ids_release payloadId released) allIds ?_ ?_
    · exact buried_setWorker (by simp [isRunning]) (by simp)
    · exact acknowledged_note fun _ => rfl
  | deadLetter isRunning isPayload inserted =>
    obtain ⟨id, payloadId, -⟩ := exclusive.held_of_running isRunning
    exact accounted.deadLetter exclusive isRunning payloadId isPayload inserted

theorem invariant_of_reachable
    (reached : Reachable (step? codec rfc3339) (State.initial Json Text) state) :
    Exclusive codec state ∧ Accounted codec state := by
  refine reached.invariant (fun state => Exclusive codec state ∧ Accounted codec state) ?_ ?_
  · exact ⟨exclusive_initial, accounted_initial⟩
  · intro before action after holds _ taken
    exact ⟨exclusive_step holds.1 taken, accounted_step holds.1 holds.2 taken⟩

/-- A statement deletes no row but the one that its worker acks. -/
theorem row_kept {after : State Json Text} {action : Action Json}
    (exclusive : Exclusive codec state) (taken : step? codec rfc3339 state action = some after)
    {id : String} (present : ∃ row ∈ state.jobs, row.id = some id) :
    (∃ row ∈ after.jobs, row.id = some id) ∨
    ∃ worker, action = .ack worker ∧ (state.workers worker).heldId = some id := by
  have acked {worker : Nat} {payload : JobPayload Json} {heldId : String}
      (payloadId : payload.id = some heldId) (holds : (state.workers worker).heldId = some heldId) :
      (∃ row ∈ ack payload state.jobs, row.id = some id) ∨
        ∃ other, (.ack worker : Action Json) = .ack other ∧
          (state.workers other).heldId = some id := by
    by_cases isHeld : heldId = id
    · exact .inr ⟨worker, rfl, isHeld ▸ holds⟩
    · obtain ⟨row, member, rowId⟩ := present
      refine .inl ⟨row, (mem_ack payloadId).mpr ⟨member, ?_⟩, rowId⟩
      simpa [rowId] using Ne.symm isHeld
  cases step_cases taken with
  | push unknown inserted =>
    obtain ⟨row, member, rowId⟩ := present
    exact .inl ⟨row, (mem_of_insert? inserted).mpr (.inl member), rowId⟩
  | nothing | select _ _ _ | lost _ | deadLetter _ _ _ => exact .inl present
  | reserve selected touched => exact .inl (ids_claimUpdate.mpr present)
  | ack isRunning =>
    obtain ⟨heldId, payloadId, holds⟩ := exclusive.held_of_running isRunning
    exact acked payloadId holds
  | ackBuried isBuried =>
    obtain ⟨heldId, payloadId, holds⟩ := exclusive.held_of_buried isBuried
    exact acked payloadId holds
  | release isRunning released =>
    obtain ⟨heldId, payloadId, -⟩ := exclusive.held_of_running isRunning
    exact .inl ((ids_release payloadId released).mpr present)

/-! ## The four places -/

variable {id : String}

private theorem gone_of_acknowledged (exclusive : Exclusive codec state)
    (accounted : Accounted codec state) (done : InPlace codec state id .acknowledged) :
    (∀ row ∈ state.jobs, row.id ≠ some id) ∧ ¬ InPlace codec state id .deadLettered := by
  obtain ⟨entry, known, isAcknowledged⟩ := done
  constructor
  · intro row member rowId
    obtain ⟨other, otherEntry, otherId, otherKnown, tracks⟩ := exclusive.row row member
    obtain rfl : other = id := by simpa [otherId] using rowId
    obtain rfl : otherEntry = entry := by simpa [otherKnown] using known
    have unfinished := tracks.unfinished
    simp [isAcknowledged] at unfinished
  · rintro ⟨row, member, isDead⟩
    obtain ⟨other, otherEntry, otherId, otherKnown, unfinished⟩ := accounted.dead row member
    obtain rfl : other = id := by simpa [otherId] using isDead
    obtain rfl : otherEntry = entry := by simpa [otherKnown] using known
    simp [isAcknowledged] at unfinished

private theorem beingBuried_of_dead (accounted : Accounted codec state) {job : JobRow Text}
    (dead : InPlace codec state id .deadLettered) (member : job ∈ state.jobs)
    (jobId : job.id = some id) : BeingBuried state id := by
  obtain ⟨row, rowMember, isDead⟩ := dead
  obtain ⟨worker, payload, isBuried, payloadId⟩ :=
    accounted.burying row rowMember job member (isDead.trans jobId.symm)
  exact ⟨worker, payload, isBuried, payloadId.trans jobId⟩

theorem inPlace_of_beingBuried (exclusive : Exclusive codec state)
    (accounted : Accounted codec state) (burying : BeingBuried state id) (place : Place) :
    InPlace codec state id place ↔ place = .reserved ∨ place = .deadLettered := by
  obtain ⟨worker, payload, isBuried, payloadId⟩ := burying
  have holds : (state.workers worker).heldId = some id := by
    simp [WorkerState.heldId, isBuried, WorkerState.heldPayload, payloadId]
  have isReserved : InPlace codec state id .reserved := exclusive.held worker id holds
  have isDead : InPlace codec state id .deadLettered := by
    obtain ⟨row, member, dead⟩ := accounted.buried worker payload isBuried
    exact ⟨row, member, dead.trans payloadId⟩
  cases place with
  | available =>
    simp only [reduceCtorEq, or_self, iff_false]
    rintro ⟨row, member, rowId, isFree⟩
    have reserved := exclusive.reserved_of_held holds member rowId
    simp [isFree] at reserved
  | reserved => simpa using isReserved
  | acknowledged =>
    simp only [reduceCtorEq, or_self, iff_false]
    intro done
    exact (gone_of_acknowledged exclusive accounted done).2 isDead
  | deadLettered => simpa using isDead

/-- A pushed job that is not being buried is in exactly one place. -/
theorem existsUnique_place (exclusive : Exclusive codec state) (accounted : Accounted codec state)
    {entry : JobHistory Json} (known : state.history id = some entry)
    (notBurying : ¬ BeingBuried state id) : ∃! place, InPlace codec state id place := by
  rcases accounted.placed id entry known with ⟨row, member, rowId⟩ | isAcknowledged | isDead
  · have notDead : ¬ InPlace codec state id .deadLettered := fun dead =>
      notBurying (beingBuried_of_dead accounted dead member rowId)
    have notDone : ¬ InPlace codec state id .acknowledged := fun done =>
      (gone_of_acknowledged exclusive accounted done).1 row member rowId
    have sameRow : ∀ {other : JobRow Text}, other ∈ state.jobs → other.id = some id → other = row :=
      fun otherMember otherId => eq_of_key otherMember member otherId rowId
    cases reservation : row.reservedAt with
    | none =>
      refine ⟨.available, ⟨row, member, rowId, reservation⟩, ?_⟩
      intro place inPlace
      cases place with
      | available => rfl
      | reserved =>
        obtain ⟨other, otherMember, otherId, reserved⟩ := inPlace
        rw [sameRow otherMember otherId] at reserved
        simp [reservation] at reserved
      | acknowledged => exact (notDone inPlace).elim
      | deadLettered => exact (notDead inPlace).elim
    | some since =>
      refine ⟨.reserved, ⟨row, member, rowId, by simp [reservation]⟩, ?_⟩
      intro place inPlace
      cases place with
      | available =>
        obtain ⟨other, otherMember, otherId, isFree⟩ := inPlace
        rw [sameRow otherMember otherId] at isFree
        simp [reservation] at isFree
      | reserved => rfl
      | acknowledged => exact (notDone inPlace).elim
      | deadLettered => exact (notDead inPlace).elim
  · have done : InPlace codec state id .acknowledged := ⟨entry, known, isAcknowledged⟩
    obtain ⟨noRow, notDead⟩ := gone_of_acknowledged exclusive accounted done
    refine ⟨.acknowledged, done, ?_⟩
    intro place inPlace
    cases place with
    | available | reserved =>
      obtain ⟨row, member, rowId, _⟩ := inPlace
      exact (noRow row member rowId).elim
    | acknowledged => rfl
    | deadLettered => exact (notDead inPlace).elim
  · refine ⟨.deadLettered, isDead, ?_⟩
    intro place inPlace
    cases place with
    | available | reserved =>
      obtain ⟨row, member, rowId, _⟩ := inPlace
      exact (notBurying (beingBuried_of_dead accounted isDead member rowId)).elim
    | acknowledged => exact ((gone_of_acknowledged exclusive accounted inPlace).2 isDead).elim
    | deadLettered => rfl

theorem attempts_of_held (exclusive : Exclusive codec state) {worker : Nat}
    {payload : JobPayload Json} (held : (state.workers worker).heldPayload = some payload) :
    ∃ id entry, state.history id = some entry ∧
      payload = { entry.pushed with attempts := payload.attempts, id := some id } ∧
      0 < entry.claims ∧
      (entry.stale = false → payload.attempts.val = entry.attemptsAfter (entry.claims - 1)) := by
  obtain ⟨id, entry, known, attempts, shape, fresh⟩ := exclusive.carried worker payload held
  have payloadId : payload.id = some id := by rw [shape]
  have holds : (state.workers worker).heldId = some id := by
    simp [WorkerState.heldId, held, payloadId]
  obtain ⟨row, member, rowId, reserved⟩ := exclusive.held worker id holds
  obtain ⟨other, otherEntry, otherId, otherKnown, tracks⟩ := exclusive.row row member
  obtain rfl : other = id := by simpa [otherId] using rowId
  obtain rfl : otherEntry = entry := by simpa [otherKnown] using known
  have balance : otherEntry.claims = otherEntry.releases + 1 := by
    simpa [reserved] using tracks.claims
  have sameAttempts : payload.attempts = attempts := by rw [shape]
  refine ⟨other, otherEntry, known, ?_, by omega, ?_⟩
  · rw [sameAttempts]
    exact shape
  · intro notStale
    rw [sameAttempts, fresh notStale, balance, Nat.add_sub_cancel]

end Preservation

/-! ## A job that is buried -/

private def epochPayload : JobPayload Unit :=
  JobPayload.new "default" "database" (some "app::SendInvoice") ()

private def epochText (_ : Instant) : String := "1970-01-01T00:00:00.000000Z"

/-- One job is pushed, claimed and its dead letter inserted, all at once. -/
private def buryingRun : List (Action Unit) :=
  [.push "6f1c" 0 epochPayload, .select 0 "default" "1970-01-01T00:00:00.000000Z", .reserve 0,
    .deadLetter 0 "91d2" "JobError::MaxAttemptsExceeded: boom" 0]

private theorem buryingRun_accepted :
    ∃ state entry,
      run? (step? (Codec.plain (JobPayload Unit)) epochText) (State.initial Unit _)
        buryingRun = some state ∧
      state.workers 0 = .buried { epochPayload with id := some "6f1c" } ∧
      state.history "6f1c" = some entry ∧ entry.pushed = epochPayload ∧ entry.claims = 1 ∧
      entry.stale = false := by
  refine ⟨_, _, rfl, rfl, rfl, rfl, rfl, rfl⟩

end Rustasea.Queue.Workers
