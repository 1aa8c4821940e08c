import Rustasea.Queue.WorkerInterleaving

namespace Rustasea.Queue.Workers

open SqlTable

/-!
# Exclusive reservations

Reserved rows and workers with a payload in hand match one to one along every
interleaving.  The invariant says what each row, each candidate snapshot and
each held payload knows of the history of its job; it does not mention the
dead-letter table.
-/

variable {Json Text : Type}

/-! ## What a row, a snapshot and a held payload know of the history -/

/-- The columns of a row agree with the history of its job. -/
structure Tracks (codec : Codec (JobPayload Json) Text) (entry : JobHistory Json)
    (row : JobRow Text) : Prop where
  payload : row.payload = some (codec.encode entry.pushed)
  claims : entry.claims = entry.releases + if row.reservedAt.isSome then 1 else 0
  unfinished : entry.acknowledged = false
  attempts : ∃ attempts : U32,
      row.attempts = some (attempts.val : Int) ∧ (entry.stale = false →
          attempts.val = entry.attemptsAfter entry.releases)

/-- A candidate row as its `SELECT` saw it, after `seenReleases` releases. -/
structure SnapshotOf
    (codec : Codec (JobPayload Json) Text) (entry : JobHistory Json) (seenReleases : Nat)
    (row : JobRow Text) : Prop where
  payload : row.payload = some (codec.encode entry.pushed)
  attempts : ∃ attempts : U32,
      row.attempts = some (attempts.val : Int) ∧ (entry.stale = false →
          attempts.val = entry.attemptsAfter seenReleases)

/-- The payload handed out for a row is the pushed one, stamped. -/
def Carries (entry : JobHistory Json) (id : String) (payload : JobPayload Json) : Prop :=
  ∃ attempts : U32, payload =
        { entry.pushed with attempts := attempts, id := some id } ∧
      (entry.stale = false → attempts.val = entry.attemptsAfter entry.releases)

/-- Reserved rows and holding workers match one to one. -/
structure Exclusive (codec : Codec (JobPayload Json) Text) (state : State Json Text) : Prop where
  row : ∀ row ∈ state.jobs,
      ∃ id entry, row.id = some id ∧ state.history id = some entry ∧ Tracks codec entry row
  snapshot : ∀ worker now id row seenReleases,
      state.workers worker = .selected now id row seenReleases →
      ∃ entry, state.history id = some entry ∧ SnapshotOf codec entry seenReleases row
  carried : ∀ worker payload, (state.workers worker).heldPayload = some payload →
      ∃ id entry, state.history id = some entry ∧ Carries entry id payload
  held : ∀ worker id, (state.workers worker).heldId = some id →
      ∃ row ∈ state.jobs, row.id = some id ∧ row.reservedAt.isSome = true
  holder : ∀ row ∈ state.jobs, row.reservedAt.isSome = true →
      ∃ worker, (state.workers worker).heldId = row.id
  holder_unique : ∀ first second id, (state.workers first).heldId = some id →
      (state.workers second).heldId = some id → first = second

/-! ## Every statement keeps the reservations exclusive -/

section Preservation

variable {codec : Codec (JobPayload Json) Text} {rfc3339 : Instant → String}
  {state : State Json Text}

theorem exclusive_initial : Exclusive codec (State.initial Json Text) where
  row := by
    intro row member
    exact (not_mem_empty member).elim
  snapshot := by
    intro worker now id row seenReleases selected
    cases selected
  carried := by
    intro worker payload holds
    cases holds
  held := by
    intro worker id holds
    cases holds
  holder := by
    intro row member
    exact (not_mem_empty member).elim
  holder_unique := by
    intro first second id holds
    cases holds

variable {table : JobsTable Text}

theorem mem_claimUpdate {id now : String} {row : JobRow Text} :
    row ∈ claimUpdate id now table ↔
      (row ∈ table ∧ ¬ row.reservable id = true) ∨
        ∃ before ∈ table, before.reservable id = true ∧
          row = { before with reservedAt := some now } :=
  mem_update

theorem mem_ack {payload : JobPayload Json} {id : String} (payloadId : payload.id = some id)
    {row : JobRow Text} : row ∈ ack payload table ↔ row ∈ table ∧ row.id ≠ some id := by
  simp [ack, payloadId]

theorem mem_release {now : Instant} {delay : Duration} {payload : JobPayload Json} {id : String}
    (payloadId : payload.id = some id) {table after : JobsTable Text}
    (released : release rfc3339 now delay payload table = some after) :
    ∃ availableAt, ∀ row, row ∈ after ↔
          (row ∈ table ∧ row.id ≠ some id) ∨
            ∃ before ∈ table, before.id = some id ∧
                row = before.released availableAt payload.attempts.saturatingSucc := by
  simp only [release, payloadId, Option.map_eq_some_iff] at released
  obtain ⟨availableAt, _, rfl⟩ := released
  exact ⟨rfc3339 availableAt, fun row => mem_update.trans (by simp)⟩

variable {entry : JobHistory Json} {row : JobRow Text} {seenReleases : Nat}

theorem handed_of_snapshot (id : String) (snapshot : SnapshotOf codec entry seenReleases row) :
    ∃ attempts : U32,
      handed codec (claimedFrom id row) =
          .running { entry.pushed with attempts := attempts, id := some id } ∧
        (entry.stale = false → attempts.val = entry.attemptsAfter seenReleases) := by
  obtain ⟨attempts, value, fresh⟩ := snapshot.attempts
  refine ⟨attempts, ?_, fresh⟩
  have read : row.attempts.bind U32.tryFrom = some attempts := by
    rw [value, Option.bind_some, U32.tryFrom_val]
  simp [handed, claimedFrom, snapshot.payload, read, decodeClaimed]

theorem Tracks.claimed (tracks : Tracks codec entry row) (free : row.reservedAt = none)
    (seenReleases : Nat) (now : String) :
    Tracks codec (entry.claimed seenReleases) { row with reservedAt := some now } := by
  obtain ⟨attempts, value, fresh⟩ := tracks.attempts
  refine
    { payload := tracks.payload
      claims := ?_
      unfinished := tracks.unfinished
      attempts := ⟨attempts, value, ?_⟩ }
  · have balance := tracks.claims
    simp only [free] at balance
    simp [JobHistory.claimed, balance]
  · intro notStale
    simp only [JobHistory.claimed, Bool.or_eq_false_iff] at notStale
    exact fresh notStale.1

theorem SnapshotOf.claimed {otherReleases : Nat}
    (snapshot : SnapshotOf codec entry otherReleases row) (seenReleases : Nat) :
    SnapshotOf codec (entry.claimed seenReleases) otherReleases row := by
  obtain ⟨attempts, value, fresh⟩ := snapshot.attempts
  refine { payload := snapshot.payload, attempts := ⟨attempts, value, ?_⟩ }
  intro notStale
  simp only [JobHistory.claimed, Bool.or_eq_false_iff] at notStale
  exact fresh notStale.1

theorem carries_claimed {attempts : U32} (id : String)
    (attemptsValue : entry.stale = false → attempts.val = entry.attemptsAfter seenReleases) :
    Carries (entry.claimed seenReleases) id
      { entry.pushed with attempts := attempts, id := some id } := by
  refine ⟨attempts, rfl, fun notStale => ?_⟩
  simp only [JobHistory.claimed, Bool.or_eq_false_iff, bne_eq_false_iff_eq] at notStale
  simpa [JobHistory.claimed, JobHistory.attemptsAfter, notStale.2] using attemptsValue notStale.1

namespace Exclusive

variable {worker : Nat} {id : String}

theorem history_of_held (exclusive : Exclusive codec state)
    (holds : (state.workers worker).heldId = some id) : ∃ entry, state.history id = some entry := by
  obtain ⟨row, member, rowId, _⟩ := exclusive.held worker id holds
  obtain ⟨other, entry, otherId, known, _⟩ := exclusive.row row member
  have same : other = id := by simpa [otherId] using rowId
  exact ⟨entry, same ▸ known⟩

variable {payload : JobPayload Json}

theorem heldId_of_heldPayload (exclusive : Exclusive codec state)
    (holds : (state.workers worker).heldPayload = some payload) :
    ∃ id, payload.id = some id ∧ (state.workers worker).heldId = some id := by
  obtain ⟨id, entry, _, attempts, shape, _⟩ := exclusive.carried worker payload holds
  have payloadId : payload.id = some id := by rw [shape]
  exact ⟨id, payloadId, by simp [WorkerState.heldId, holds, payloadId]⟩

theorem held_of_running (exclusive : Exclusive codec state)
    (isRunning : state.workers worker = .running payload) :
    ∃ id, payload.id = some id ∧ (state.workers worker).heldId = some id :=
  exclusive.heldId_of_heldPayload (isRunning ▸ rfl)

theorem held_of_buried (exclusive : Exclusive codec state)
    (isBuried : state.workers worker = .buried payload) :
    ∃ id, payload.id = some id ∧ (state.workers worker).heldId = some id :=
  exclusive.heldId_of_heldPayload (isBuried ▸ rfl)

theorem setWorker (exclusive : Exclusive codec state) {next : WorkerState Json Text}
    (sameHeld : next.heldPayload = (state.workers worker).heldPayload)
    (nextSnapshot : ∀ now id row seenReleases, next = .selected now id row seenReleases →
      ∃ entry, state.history id = some entry ∧ SnapshotOf codec entry seenReleases row) :
    Exclusive codec (state.setWorker worker next) := by
  have samePayload : ∀ other, ((state.setWorker worker next).workers other).heldPayload =
      (state.workers other).heldPayload := by
    intro other
    rw [setWorker_workers]
    split
    · next isWorker => rw [sameHeld, isWorker]
    · rfl
  have sameId : ∀ other,
      ((state.setWorker worker next).workers other).heldId = (state.workers other).heldId := by
    intro other
    rw [WorkerState.heldId, WorkerState.heldId, samePayload]
  refine
    { row := exclusive.row
      snapshot := ?_
      carried := ?_
      held := ?_
      holder := ?_
      holder_unique := ?_ }
  · intro other now id row seenReleases selected
    rw [setWorker_workers] at selected
    split at selected
    · exact nextSnapshot now id row seenReleases selected
    · exact exclusive.snapshot other now id row seenReleases selected
  · intro other payload holds
    exact exclusive.carried other payload (samePayload other ▸ holds)
  · intro other id holds
    exact exclusive.held other id (sameId other ▸ holds)
  · intro row member reserved
    obtain ⟨other, holds⟩ := exclusive.holder row member reserved
    exact ⟨other, (sameId other).trans holds⟩
  · intro first second id firstHolds secondHolds
    exact exclusive.holder_unique first second id
      (sameId first ▸ firstHolds) (sameId second ▸ secondHolds)

theorem withFailed (exclusive : Exclusive codec state) (failed : FailedTable Text) :
    Exclusive codec { state with failed := failed } :=
  { exclusive with }

variable {jobs : JobsTable Text} {now : Instant}

/-- `push` adds an unreserved row under an unknown id. -/
theorem push (exclusive : Exclusive codec state) {uuid : String}
    (unknown : state.history uuid = none)
    (inserted : Queue.push codec rfc3339 uuid now payload state.jobs = some jobs) :
    Exclusive codec
      { state with
        jobs := jobs
        history :=
          Function.update state.history uuid (some (JobHistory.start payload)) } := by
  have known_ne : ∀ {id entry}, state.history id = some entry → id ≠ uuid := by
    rintro id entry known rfl
    simp [unknown] at known
  refine
    { row := ?_
      snapshot := ?_
      carried := ?_
      held := ?_
      holder := ?_
      holder_unique := exclusive.holder_unique }
  · intro row member
    rcases (mem_of_insert? inserted).mp member with old | rfl
    · obtain ⟨id, entry, rowId, known, tracks⟩ := exclusive.row row old
      refine ⟨id, entry, rowId, ?_, tracks⟩
      simp [known_ne known, known]
    · refine
        ⟨uuid, JobHistory.start payload, rfl, by simp, ?_⟩
      refine
        { payload := rfl
          claims := rfl
          unfinished := rfl
          attempts := ⟨payload.attempts, rfl, fun _ => ?_⟩ }
      simp only [JobHistory.attemptsAfter, JobHistory.start]
      omega
  · intro worker selectedAt id row seenReleases selected
    obtain ⟨entry, known, snapshot⟩ :=
      exclusive.snapshot worker selectedAt id row seenReleases selected
    refine ⟨entry, ?_, snapshot⟩
    simp [known_ne known, known]
  · intro worker held holds
    obtain ⟨id, entry, known, carries⟩ := exclusive.carried worker held holds
    refine ⟨id, entry, ?_, carries⟩
    simp [known_ne known, known]
  · intro worker id holds
    obtain ⟨row, member, rowId, reserved⟩ := exclusive.held worker id holds
    exact ⟨row, (mem_of_insert? inserted).mpr (.inl member), rowId, reserved⟩
  · intro row member reserved
    rcases (mem_of_insert? inserted).mp member with old | rfl
    · exact exclusive.holder row old reserved
    · simp [pushRow] at reserved

variable {row : JobRow Text}

theorem reserved_of_held (exclusive : Exclusive codec state)
    (holds : (state.workers worker).heldId = some id)
    (member : row ∈ state.jobs) (rowId : row.id = some id) : row.reservedAt.isSome = true := by
  obtain ⟨held, heldMember, heldId, reserved⟩ := exclusive.held worker id holds
  obtain rfl := eq_of_key member heldMember rowId heldId
  exact reserved

theorem snapshot_of_select (exclusive : Exclusive codec state) {queue now id : String}
    (found : claimSelect queue now state.jobs = some row) (hasId : row.id = some id) :
    ∃ entry, state.history id = some entry ∧ SnapshotOf codec entry (state.releasesOf id) row := by
  have member : row ∈ state.jobs := (List.mem_filter.mp (List.argmin_mem found)).1
  obtain ⟨rowId, entry, isRowId, known, tracks⟩ := exclusive.row row member
  obtain rfl : rowId = id := by simpa [isRowId] using hasId
  refine ⟨entry, known, { payload := tracks.payload, attempts := ?_ }⟩
  simpa [State.releasesOf, known] using tracks.attempts

/-- The guarded `UPDATE` hands the row to the worker that selected it. -/
theorem reserveRow (exclusive : Exclusive codec state) {now id : String} {seenReleases : Nat}
    (selected : state.workers worker = .selected now id row seenReleases)
    (touched : state.jobs.affected (JobRow.reservable id) ≠ 0) :
    Exclusive codec
      (({ state with jobs := claimUpdate id now state.jobs }.setWorker
        worker (handed codec (claimedFrom id row))).note
          (some id) (JobHistory.claimed seenReleases)) := by
  obtain ⟨target, targetMember, isTarget⟩ := affected_pos.mp (Nat.pos_of_ne_zero touched)
  simp only [JobRow.reservable, Bool.and_eq_true, decide_eq_true_eq,
    Option.isNone_iff_eq_none] at isTarget
  obtain ⟨targetId, targetFree⟩ := isTarget
  have noHolder : ∀ other, (state.workers other).heldId ≠ some id := by
    intro other holds
    have reserved := exclusive.reserved_of_held holds targetMember targetId
    simp [targetFree] at reserved
  obtain ⟨entry, known, snapshot⟩ := exclusive.snapshot worker now id row seenReleases selected
  obtain ⟨attempts, handedShape, attemptsValue⟩ := handed_of_snapshot id snapshot
  have heldAfter : ∀ other, ((state.setWorker worker
      (handed codec (claimedFrom id row))).workers other).heldId =
      if other = worker then some id
      else (state.workers other).heldId := by
    intro other
    rw [setWorker_workers]
    split
    · simp [handedShape, WorkerState.heldId, WorkerState.heldPayload]
    · rfl
  refine { row := ?_, snapshot := ?_, carried := ?_, held := ?_, holder := ?_, holder_unique := ?_ }
  · intro updated member
    rcases mem_claimUpdate.mp member with ⟨old, notChosen⟩ | ⟨before, old, chosen, rfl⟩
    · obtain ⟨rowId, rowEntry, hasId, rowKnown, tracks⟩ := exclusive.row updated old
      have other : rowId ≠ id := by
        rintro rfl
        obtain rfl := eq_of_key old targetMember hasId targetId
        simp [JobRow.reservable, targetId, targetFree] at notChosen
      refine ⟨rowId, rowEntry, hasId, ?_, tracks⟩
      simpa [Ne.symm other] using rowKnown
    · simp only [JobRow.reservable, Bool.and_eq_true, decide_eq_true_eq] at chosen
      obtain ⟨rowId, rowEntry, hasId, rowKnown, tracks⟩ := exclusive.row before old
      obtain rfl := eq_of_key old targetMember chosen.1 targetId
      obtain rfl : rowId = id := by simpa [hasId] using targetId
      obtain rfl : rowEntry = entry := by simpa [rowKnown] using known
      exact ⟨rowId, rowEntry.claimed seenReleases, hasId,
        by simp [known], tracks.claimed targetFree seenReleases now⟩
  · intro other selectedAt otherId otherRow seen otherSelected
    simp only [note_workers, setWorker_workers] at otherSelected
    split at otherSelected
    · simp [handedShape] at otherSelected
    · obtain ⟨otherEntry, otherKnown, otherSnapshot⟩ :=
        exclusive.snapshot other selectedAt otherId otherRow seen otherSelected
      by_cases same : id = otherId
      · subst same
        obtain rfl : entry = otherEntry := by simpa [known] using otherKnown
        exact ⟨entry.claimed seenReleases, by simp [known], otherSnapshot.claimed seenReleases⟩
      · exact ⟨otherEntry, by simpa [same] using otherKnown, otherSnapshot⟩
  · intro other payload holds
    simp only [note_workers, setWorker_workers] at holds
    split at holds
    · simp only [handedShape, WorkerState.heldPayload, Option.some.injEq] at holds
      subst holds
      exact ⟨id, entry.claimed seenReleases, by simp [known], carries_claimed id attemptsValue⟩
    · obtain ⟨otherId, otherEntry, otherKnown, carries⟩ := exclusive.carried other payload holds
      obtain ⟨heldId, payloadId, isHeld⟩ := exclusive.heldId_of_heldPayload holds
      have shape := carries.choose_spec.1
      have sameId : heldId = otherId := by
        rw [shape] at payloadId
        simpa using payloadId.symm
      have different : id ≠ otherId := by
        rintro rfl
        exact noHolder other (sameId ▸ isHeld)
      exact ⟨otherId, otherEntry, by simpa [different] using otherKnown, carries⟩
  · intro other otherId holds
    replace holds := (heldAfter other).symm.trans holds
    split at holds
    · obtain rfl : id = otherId := by simpa using holds
      refine ⟨{ target with reservedAt := some now }, ?_, targetId, rfl⟩
      exact mem_claimUpdate.mpr
        (.inr ⟨target, targetMember, by simp [JobRow.reservable, targetId, targetFree], rfl⟩)
    · obtain ⟨held, member, heldId, reserved⟩ := exclusive.held other otherId holds
      refine ⟨held, mem_claimUpdate.mpr (.inl ⟨member, ?_⟩), heldId, reserved⟩
      intro chosen
      simp only [JobRow.reservable, Bool.and_eq_true, Option.isNone_iff_eq_none] at chosen
      simp [chosen.2] at reserved
  · intro updated member reserved
    rcases mem_claimUpdate.mp member with ⟨old, notChosen⟩ | ⟨before, old, chosen, rfl⟩
    · obtain ⟨other, holds⟩ := exclusive.holder updated old reserved
      have different : other ≠ worker := by
        rintro rfl
        obtain ⟨rowId, _, hasId, _⟩ := exclusive.row updated old
        simp [hasId, WorkerState.heldId, selected, WorkerState.heldPayload] at holds
      exact ⟨other, (heldAfter other).trans (by simp [different, holds])⟩
    · simp only [JobRow.reservable, Bool.and_eq_true, decide_eq_true_eq] at chosen
      exact ⟨worker, (heldAfter worker).trans (by simp [chosen.1])⟩
  · intro first second otherId firstHolds secondHolds
    replace firstHolds := (heldAfter first).symm.trans firstHolds
    replace secondHolds := (heldAfter second).symm.trans secondHolds
    split at firstHolds <;> split at secondHolds
    · next firstIs secondIs => exact firstIs.trans secondIs.symm
    · obtain rfl : id = otherId := by simpa using firstHolds
      exact (noHolder second secondHolds).elim
    · obtain rfl : id = otherId := by simpa using secondHolds
      exact (noHolder first firstHolds).elim
    · exact exclusive.holder_unique first second otherId firstHolds secondHolds

private theorem others_of_letGo (exclusive : Exclusive codec state) {worker other : Nat}
    {id otherId : String} (holds : (state.workers worker).heldId = some id)
    (different : other ≠ worker)
    (otherHolds : (state.workers other).heldId = some otherId) : otherId ≠ id := by
  rintro rfl
  exact different (exclusive.holder_unique other worker otherId otherHolds holds)

variable {extend : JobHistory Json → JobHistory Json}

/--
A worker lets its reservation go: the row is deleted or made available again,
and only the history of that row moves on.
-/
theorem letGo (exclusive : Exclusive codec state)
    (holds : (state.workers worker).heldId = some id)
    (othersKept : ∀ row, row.id ≠ some id → (row ∈ jobs ↔ row ∈ state.jobs))
    (freed : ∀ row ∈ jobs, row.id = some id → row.reservedAt.isSome = false)
    (tracked : ∀ row ∈ jobs, row.id = some id →
      ∀ entry, state.history id = some entry → Tracks codec (extend entry) row)
    (samePushed : ∀ entry, (extend entry).pushed = entry.pushed)
    (sameStale : ∀ entry, (extend entry).stale = entry.stale) :
    Exclusive codec (({ state with jobs := jobs }.setWorker worker .idle).note (some id) extend) := by
  obtain ⟨entry, known⟩ := exclusive.history_of_held holds
  have heldAfter : ∀ other otherId, ((state.setWorker worker .idle).workers other).heldId =
        some otherId →
      other ≠ worker ∧ (state.workers other).heldId = some otherId := by
    intro other otherId otherHolds
    rw [setWorker_workers] at otherHolds
    split at otherHolds
    · simp [WorkerState.heldId, WorkerState.heldPayload] at otherHolds
    · next different => exact ⟨different, otherHolds⟩
  refine { row := ?_, snapshot := ?_, carried := ?_, held := ?_, holder := ?_, holder_unique := ?_ }
  · intro row member
    by_cases hasId : row.id = some id
    · exact ⟨id, extend entry, hasId, by simp [known], tracked row member hasId entry known⟩
    · obtain ⟨rowId, rowEntry, isRowId, rowKnown, tracks⟩ :=
        exclusive.row row ((othersKept row hasId).mp member)
      have different : id ≠ rowId := by
        rintro rfl
        exact hasId isRowId
      exact ⟨rowId, rowEntry, isRowId, by simpa [different] using rowKnown, tracks⟩
  · intro other now otherId row seenReleases selected
    simp only [note_workers, setWorker_workers] at selected
    split at selected
    · cases selected
    · obtain ⟨otherEntry, otherKnown, snapshot⟩ :=
        exclusive.snapshot other now otherId row seenReleases selected
      by_cases same : id = otherId
      · subst same
        obtain rfl : entry = otherEntry := by simpa [known] using otherKnown
        refine
          ⟨extend entry, by simp [known],
            { payload := by rw [samePushed]; exact snapshot.payload, attempts := ?_ }⟩
        obtain ⟨attempts, value, fresh⟩ := snapshot.attempts
        refine ⟨attempts, value, fun notStale => ?_⟩
        rw [sameStale] at notStale
        simpa [JobHistory.attemptsAfter, samePushed] using fresh notStale
      · exact ⟨otherEntry, by simpa [same] using otherKnown, snapshot⟩
  · intro other payload otherHolds
    simp only [note_workers, setWorker_workers] at otherHolds
    split at otherHolds
    · cases otherHolds
    · next different =>
      obtain ⟨otherId, otherEntry, otherKnown, carries⟩ :=
        exclusive.carried other payload otherHolds
      obtain ⟨heldId, payloadId, isHeld⟩ := exclusive.heldId_of_heldPayload otherHolds
      have sameId : heldId = otherId := by
        rw [carries.choose_spec.1] at payloadId
        simpa using payloadId.symm
      have otherNe : id ≠ otherId :=
        sameId ▸ (exclusive.others_of_letGo holds different isHeld).symm
      exact ⟨otherId, otherEntry, by simpa [otherNe] using otherKnown, carries⟩
  · intro other otherId otherHolds
    obtain ⟨different, wasHeld⟩ := heldAfter other otherId otherHolds
    have otherNe := exclusive.others_of_letGo holds different wasHeld
    obtain ⟨row, member, rowId, reserved⟩ := exclusive.held other otherId wasHeld
    have rowNe : row.id ≠ some id := by
      rw [rowId]
      simpa using otherNe
    exact ⟨row, (othersKept row rowNe).mpr member, rowId, reserved⟩
  · intro row member reserved
    have rowNe : row.id ≠ some id := by
      intro hasId
      simp [freed row member hasId] at reserved
    obtain ⟨other, wasHeld⟩ := exclusive.holder row ((othersKept row rowNe).mp member) reserved
    have different : other ≠ worker := by
      rintro rfl
      exact rowNe (wasHeld ▸ holds)
    refine ⟨other, ?_⟩
    simpa [different] using wasHeld
  · intro first second otherId firstHolds secondHolds
    exact exclusive.holder_unique first second otherId (heldAfter first otherId firstHolds).2
      (heldAfter second otherId secondHolds).2

theorem ack (exclusive : Exclusive codec state) (payloadId : payload.id = some id)
    (holds : (state.workers worker).heldId = some id)
    (samePushed : ∀ entry, (extend entry).pushed = entry.pushed)
    (sameStale : ∀ entry, (extend entry).stale = entry.stale) :
    Exclusive codec
      (({ state with jobs := Queue.ack payload state.jobs }.setWorker
        worker .idle).note (some id) extend) := by
  refine exclusive.letGo holds ?_ ?_ ?_ samePushed sameStale
  · intro row rowNe
    simp [mem_ack payloadId, rowNe]
  all_goals
    intro row member hasId
    exact (((mem_ack payloadId).mp member).2 hasId).elim

/-- `release` makes the row of the reservation available again. -/
theorem release (exclusive : Exclusive codec state) {delay : Duration}
    (held : (state.workers worker).heldPayload = some payload) (payloadId : payload.id = some id)
    (released : Queue.release rfc3339 now delay payload state.jobs = some jobs) :
    Exclusive codec
      (({ state with jobs := jobs }.setWorker
        worker .idle).note (some id) JobHistory.released) := by
  obtain ⟨availableAt, rows⟩ := mem_release payloadId released
  have holds : (state.workers worker).heldId = some id := by
    simp [WorkerState.heldId, held, payloadId]
  refine exclusive.letGo holds ?_ ?_ ?_ (fun _ => rfl) (fun _ => rfl)
  · intro row rowNe
    rw [rows]
    constructor
    · rintro (⟨member, _⟩ | ⟨before, _, beforeId, rfl⟩)
      · exact member
      · exact (rowNe beforeId).elim
    · intro member
      exact .inl ⟨member, rowNe⟩
  · intro row member hasId
    rcases (rows row).mp member with ⟨_, rowNe⟩ | ⟨before, _, _, rfl⟩
    · exact (rowNe hasId).elim
    · rfl
  · intro row member hasId entry known
    rcases (rows row).mp member with ⟨_, rowNe⟩ | ⟨before, old, beforeId, rfl⟩
    · exact (rowNe hasId).elim
    · obtain ⟨rowId, rowEntry, isRowId, rowKnown, tracks⟩ := exclusive.row before old
      obtain rfl : rowId = id := by simpa [isRowId] using beforeId
      obtain rfl : rowEntry = entry := by simpa [rowKnown] using known
      obtain ⟨heldId, heldEntry, heldKnown, attempts, shape, fresh⟩ :=
        exclusive.carried worker payload held
      obtain rfl : heldId = rowId := by
        rw [shape] at payloadId
        simpa using payloadId
      obtain rfl : heldEntry = rowEntry := by simpa [heldKnown] using rowKnown
      have reserved := exclusive.reserved_of_held holds old isRowId
      have balance := tracks.claims
      simp only [reserved] at balance
      refine
        { payload := tracks.payload
          claims := ?_
          unfinished := tracks.unfinished
          attempts := ⟨payload.attempts.saturatingSucc, rfl, ?_⟩ }
      · simp [JobHistory.released, JobRow.released, balance]
      · intro notStale
        have value := fresh notStale
        rw [U32.val_saturatingSucc, shape]
        simp only [JobHistory.attemptsAfter, JobHistory.released] at value ⊢
        omega

end Exclusive

/-- Every statement keeps the reservations exclusive. -/
theorem exclusive_step {after : State Json Text} {action : Action Json}
    (exclusive : Exclusive codec state)
    (taken : step? codec rfc3339 state action = some after) : Exclusive codec after := by
  cases step_cases taken with
  | push unknown inserted => exact exclusive.push unknown inserted
  | nothing => exact exclusive
  | select isIdle found hasId =>
    refine exclusive.setWorker (by rw [isIdle]; rfl) ?_
    rintro _ _ _ _ ⟨⟩
    exact exclusive.snapshot_of_select found hasId
  | lost selected => exact exclusive.setWorker (by rw [selected]; rfl) (by simp)
  | reserve selected touched => exact exclusive.reserveRow selected touched
  | ack isRunning =>
    obtain ⟨id, payloadId, holds⟩ := exclusive.held_of_running isRunning
    rw [payloadId]
    exact exclusive.ack payloadId holds (fun _ => rfl) (fun _ => rfl)
  | ackBuried isBuried =>
    obtain ⟨id, payloadId, holds⟩ := exclusive.held_of_buried isBuried
    rw [← note_self (State.setWorker _ _ _) (some id)]
    exact exclusive.ack payloadId holds (fun _ => rfl) (fun _ => rfl)
  | release isRunning released =>
    obtain ⟨id, payloadId, -⟩ := exclusive.held_of_running isRunning
    rw [payloadId]
    exact exclusive.release (by rw [isRunning]; rfl) payloadId released
  | deadLetter isRunning isPayload inserted =>
    exact (exclusive.withFailed _).setWorker (by rw [isRunning]; rfl) (by simp)

end Preservation

/-! ## What a statement can change -/

section Frame

variable {codec : Codec (JobPayload Json) Text} {rfc3339 : Instant → String}
  {state after : State Json Text}

theorem push_frame {uuid : String} {now : Instant} {payload : JobPayload Json}
    (taken : step? codec rfc3339 state (.push uuid now payload) = some after) :
    state.history uuid = none ∧
    after.history = Function.update state.history uuid (some (JobHistory.start payload)) ∧
    after.failed = state.failed ∧ after.workers = state.workers ∧
    ∀ row, row ∈ after.jobs ↔ row ∈ state.jobs ∨ row = pushRow codec rfc3339 uuid now payload := by
  cases step_cases taken with
  | push unknown inserted =>
    exact ⟨unknown, rfl, rfl, rfl, fun row => mem_of_insert? inserted⟩

/-- What the statements of workers leave alone. -/
structure WorkFrame (codec : Codec (JobPayload Json) Text)
    (state after : State Json Text) : Prop where
  pushed : ∀ id, (after.history id).map JobHistory.pushed = (state.history id).map JobHistory.pushed
  jobs : ∀ row ∈ after.jobs, ∃ before ∈ state.jobs, before.id = row.id
  failed : ∀ row ∈ after.failed, row ∈ state.failed ∨ ∃ worker payload,
          (state.workers worker).heldPayload = some payload ∧ codec.decode row.payload = .ok payload

private theorem pushed_note (id : Option String) {extend : JobHistory Json → JobHistory Json}
    (samePushed : ∀ entry, (extend entry).pushed = entry.pushed) (other : String) :
    ((state.note id extend).history other).map JobHistory.pushed =
      (state.history other).map JobHistory.pushed := by
  rw [note_history]
  split
  · simp [Function.comp_def, samePushed]
  · rfl

/-- Workers never add rows, and bury only the payload they hold. -/
theorem work_frame {action : Action Json}
    (notPush : ∀ uuid now payload, action ≠ .push uuid now payload)
    (taken : step? codec rfc3339 state action = some after) : WorkFrame codec state after := by
  have sameRow : ∀ row ∈ state.jobs, ∃ before ∈ state.jobs, before.id = row.id :=
    fun row member => ⟨row, member, rfl⟩
  have fewerRows : ∀ payload : JobPayload Json,
      ∀ row ∈ ack payload state.jobs, ∃ before ∈ state.jobs, before.id = row.id := by
    intro payload row member
    cases payloadId : payload.id with
    | none =>
      simp only [ack, payloadId] at member
      exact ⟨row, member, rfl⟩
    | some id => exact ⟨row, ((mem_ack payloadId).mp member).1, rfl⟩
  cases step_cases taken with
  | push unknown inserted => exact (notPush _ _ _ rfl).elim
  | nothing | select _ _ _ | lost _ => exact ⟨fun _ => rfl, sameRow, fun _ => .inl⟩
  | reserve selected touched =>
    refine ⟨pushed_note _ fun _ => rfl, ?_, fun _ => .inl⟩
    intro updated member
    rcases mem_claimUpdate.mp member with ⟨old, _⟩ | ⟨before, old, _, rfl⟩
    · exact ⟨updated, old, rfl⟩
    · exact ⟨before, old, rfl⟩
  | ack isRunning => exact ⟨pushed_note _ fun _ => rfl, fewerRows _, fun _ => .inl⟩
  | ackBuried isBuried => exact ⟨fun _ => rfl, fewerRows _, fun _ => .inl⟩
  | @release _ _ _ payload _ isRunning released =>
    refine ⟨pushed_note payload.id fun _ => rfl, ?_, fun _ => .inl⟩
    intro row member
    cases payloadId : payload.id with
    | none =>
      simp only [release, payloadId, Option.some.injEq] at released
      exact ⟨row, released ▸ member, rfl⟩
    | some id =>
      obtain ⟨availableAt, rows⟩ := mem_release payloadId released
      rcases (rows row).mp member with ⟨old, _⟩ | ⟨before, old, _, rfl⟩
      · exact ⟨row, old, rfl⟩
      · exact ⟨before, old, rfl⟩
  | @deadLetter worker _ _ _ payload _ _ isRunning isPayload inserted =>
    refine ⟨fun _ => rfl, sameRow, ?_⟩
    intro row member
    rcases (mem_of_insert? inserted).mp member with old | rfl
    · exact .inl old
    · exact .inr ⟨worker, payload, isRunning ▸ rfl, isPayload ▸ codec.decode_encode _⟩

theorem gone_of_ack {worker : Nat} {id : String} (holds : (state.workers worker).heldId = some id)
    (taken : step? codec rfc3339 state (.ack worker) = some after) :
    ∀ row ∈ after.jobs, row.id ≠ some id := by
  intro row member
  cases step_cases taken with
  | ack isHeld | ackBuried isHeld =>
    rw [isHeld] at holds
    exact ((mem_ack holds).mp member).2

end Frame

end Rustasea.Queue.Workers
