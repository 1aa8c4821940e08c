import Rustasea.Queue.BatchRetries
import Mathlib.Data.Finset.Card

namespace Rustasea.Queue.Members

open List TransitionSystem

/-!
# The pending counter and the outcomes of the members

A member ends when its job is acked after a success or when its dead letter is
inserted; the counter goes down later, when the worker's report reaches the
batch row.  Every row that left the table is reported and no report gives up,
so that the counter is compared with the outcomes themselves.
-/

variable {Json Text Ids : Type}

/-- An original row is of the batch, and reported as soon as it left the table. -/
structure Placed (batchId : String) (state : State Json Text Ids) : Prop where
  ofBatch : ∀ id index, state.member id = some { index := index, retried := false } →
      ∃ entry, state.queue.history id = some entry ∧ entry.pushed.batchId = some batchId
  present : ∀ id index, state.member id = some { index := index, retried := false } →
      (∃ row ∈ state.queue.jobs, row.id = some id) ∨ id ∈ state.reporters

section Preservation

variable {codec : Codec (JobPayload Json) Text} {idsCodec : Codec (List String) Ids}
  {rfc3339 : Instant → String} {parseTs : String → Option Instant} {jsonText : Text → Json}
  {batchId : String} {total : Nat} {state after : State Json Text Ids} {action : Action Json}

namespace Placed

variable {queue : Workers.State Json Text}

/-- The push of a row of the batch, of another job, or of a retried member. -/
theorem push (placed : Placed batchId state) {uuid : String} {now : Instant}
  {payload : JobPayload Json}
    (taken : Workers.step? codec rfc3339 state.queue (.push uuid now payload) = some queue)
    (operators : Nat → Operator Json) (newMember : Option Member) (dispatched : List Nat)
    (ofBatch : ∀ index, newMember = some { index := index, retried := false } →
      payload.batchId = some batchId) :
    Placed batchId (state.pushed queue operators uuid newMember dispatched) := by
  obtain ⟨unknown, history, _, _, rows⟩ := Workers.push_frame taken
  refine { ofBatch := ?_, present := ?_ }
  · intro id index isMember
    simp only [history, Function.update_apply] at isMember ⊢
    split at isMember
    · next isNew => exact ⟨_, if_pos isNew, ofBatch index isMember⟩
    · next isOld =>
      rw [if_neg isOld]
      exact placed.ofBatch id index isMember
  · intro id index isMember
    simp only [Function.update_apply] at isMember
    split at isMember
    · next isNew => exact .inl ⟨_, (rows _).mpr (.inr rfl), by simp [pushRow, isNew]⟩
    · refine (placed.present id index isMember).imp_left ?_
      rintro ⟨row, member, rowId⟩
      exact ⟨row, (rows row).mpr (.inl member), rowId⟩

/-- A worker's statement, with the original rows that it reports. -/
theorem work (placed : Placed batchId state) (tracked : Tracked codec batchId total state)
    {action : Workers.Action Json} (notPush : ∀ uuid now payload, action ≠ .push uuid now payload)
    (taken : Workers.step? codec rfc3339 state.queue action = some queue)
    (batch : Batch.State Ids) {reporters : List String}
    (grows : ∀ id ∈ state.reporters, id ∈ reporters) (acked : ∀ worker id index,
      action = .ack worker → (state.queue.workers worker).heldId = some id →
      state.member id = some { index := index, retried := false } → id ∈ reporters) :
    Placed batchId { state with queue := queue, batch := batch, reporters := reporters } where
  ofBatch := by
    intro id index isMember
    obtain ⟨entry, known, ofBatch⟩ := placed.ofBatch id index isMember
    have same := (Workers.work_frame notPush taken).pushed id
    rw [known] at same
    obtain ⟨next, nextKnown, samePushed⟩ := Option.map_eq_some_iff.mp same
    exact ⟨next, nextKnown, samePushed ▸ ofBatch⟩
  present := by
    intro id index isMember
    rcases placed.present id index isMember with present | isReported
    · refine (Workers.row_kept tracked.exclusive taken present).imp_right ?_
      rintro ⟨worker, isAck, holds⟩
      exact acked worker id index isAck holds isMember
    · exact .inr (grows id isReported)

/-- An original row that a worker holds is of the batch, so its end is reported. -/
theorem reports_of_original (placed : Placed batchId state)
    (tracked : Tracked codec batchId total state) (synthetic : String) {worker : Nat}
    {id : String} {index : Nat} (holds : (state.queue.workers worker).heldId = some id)
    (isMember : state.member id = some { index := index, retried := false }) :
    ∃ outcome, reportOf batchId synthetic (state.queue.workers worker) = some outcome := by
  obtain ⟨entry, known, ofBatch⟩ := placed.ofBatch id index isMember
  cases at_ : state.queue.workers worker with
  | running payload | buried payload =>
    obtain ⟨other, otherEntry, otherKnown, attempts, shape, _⟩ :=
      tracked.exclusive.carried worker payload (by rw [at_]; rfl)
    obtain rfl : other = id := by
      simpa [Workers.WorkerState.heldId, at_, Workers.WorkerState.heldPayload, shape] using holds
    obtain rfl : otherEntry = entry := by simpa [known] using otherKnown.symm
    have payloadBatch : payload.batchId = some batchId := by
      rw [shape]
      exact ofBatch
    simp [reportOf, payloadBatch]
  | _ => simp [Workers.WorkerState.heldId, at_, Workers.WorkerState.heldPayload] at holds

end Placed

/-- Every statement keeps the original rows in the table or reported. -/
theorem placed_step [DecidableEq Ids] (placed : Placed batchId state)
    (tracked : Tracked codec batchId total state) (taken :
      step? codec idsCodec rfc3339 parseTs jsonText batchId total state action = some after) :
    Placed batchId after := by
  cases step_cases tracked taken with
  | push pushed _ _ original =>
    exact placed.push pushed _ _ _ fun index isNew => (original index isNew).1
  | work notPush notAck worked =>
    refine placed.work tracked notPush worked state.batch (fun _ isIn => isIn) ?_
    intro worker id index isAck
    exact (notAck worker isAck).elim
  | @reports worker synthetic id outcome queue isReport holds worked =>
    refine placed.work tracked (by simp) worked _ (fun _ isIn => mem_append_left _ isIn) ?_
    rintro _ other index ⟨⟩ otherHolds _
    obtain rfl : id = other := Option.some.inj (holds.symm.trans otherHolds)
    exact mem_append_right _ (mem_singleton_self id)
  | @silent worker synthetic queue noReport worked =>
    refine placed.work tracked (by simp) worked _ (fun _ isIn => isIn) ?_
    rintro _ other index ⟨⟩ holds isMember
    obtain ⟨outcome, isReport⟩ := placed.reports_of_original tracked synthetic holds isMember
    exact (noReport outcome other isReport holds).elim
  | advance | cancel | operate => exact { placed with }

/-! ## What the counter counts -/

/-- A report whose last append is not in vain does not give up. -/
theorem ne_gaveUp_of_moves [DecidableEq Ids] (reported : Reported idsCodec total state)
    {index : Nat} {report : Batch.Report Ids} (present : state.batch.reports[index]? = some report)
    (fits : FitsBudget state.batch.row report) {phase : Batch.Phase Ids}
    (moves : Batch.Moves idsCodec parseTs state.batch.row report.phase phase) :
    phase ≠ .gaveUp := by
  have knows := reported.counted.knows_at present
  have positive := reported.counted.pending_pos (mem_of_getElem? present)
  obtain ⟨outcome, recorded, before⟩ := report
  cases moves with
  | conflict conflict =>
    obtain ⟨notRecorded, _, inBudget, _⟩ := knows
    split
    · simp
    · next spent =>
      have same := fits (by omega)
      simp [failureUpdate, positive notRecorded, same] at conflict
  | settled =>
    unfold Batch.afterSettled
    split <;> simp
  | _ => simp

/-- What every run keeps whose statements all count once. -/
structure Kept (codec : Codec (JobPayload Json) Text) (idsCodec : Codec (List String) Ids)
    (batchId : String) (total : Nat) (state : State Json Text Ids) : Prop where
  tracked : Tracked codec batchId total state
  reports : Reported idsCodec total state
  placed : Placed batchId state
  inBudget : ∀ report ∈ state.batch.reports, report.phase ≠ .gaveUp

theorem kept_step [DecidableEq Ids] (kept : Kept codec idsCodec batchId total state)
    (counts : CountsOnce state action) (taken :
      step? codec idsCodec rfc3339 parseTs jsonText batchId total state action = some after) :
    Kept codec idsCodec batchId total after where
  tracked := tracked_step kept.tracked taken
  reports := reported_step kept.tracked kept.reports counts.1 taken
  placed := placed_step kept.placed kept.tracked taken
  inBudget := by
    cases step_cases kept.tracked taken with
    | push | work | silent | operate => exact kept.inBudget
    | reports =>
      intro report member
      rcases mem_append.mp member with old | isNew
      · exact kept.inBudget report old
      · obtain rfl := mem_singleton.mp isNew
        unfold Batch.Report.start
        split <;> simp
    | cancel cancelled =>
      cases cancelled
      exact kept.inBudget
    | advance advanced =>
      cases Batch.step_cases advanced with
      | @move _ _ report phase present moves =>
        refine Parties.forall_mem_set kept.inBudget ?_
        exact ne_gaveUp_of_moves kept.reports present (counts.2 report present) moves
      | @fireCatch _ _ _ record =>
        refine Parties.forall_mem_set kept.inBudget ?_
        unfold Batch.afterSettled
        split <;> simp
      | recordFailure | recordSuccess | claim | complete =>
        exact Parties.forall_mem_set kept.inBudget (by simp)

theorem kept_of_reachableAlong [DecidableEq Ids]
    (reached : ReachableAlong (step? codec idsCodec rfc3339 parseTs jsonText batchId total)
      CountsOnce (State.initial Json Text idsCodec total) state) :
    Kept codec idsCodec batchId total state := by
  refine reached.invariant (Kept codec idsCodec batchId total) ?_ fun _ _ _ kept => kept_step kept
  exact
    { tracked := Tracked.initial
      reports := Reported.initial
      placed :=
        { ofBatch := by simp [State.initial], present := by simp [State.initial] }
      inBudget := by simp [State.initial, Batch.State.initial] }

namespace Kept

theorem mem_recordedMembers (kept : Kept codec idsCodec batchId total state) {index : Nat} :
    index ∈ recordedMembers state ↔
      ∃ entry ∈ state.batch.reports.zip state.reporters, entry.1.recorded = true ∧
        state.member entry.2 = some { index := index, retried := false } := by
  rw [recordedMembers, mem_filterMap]
  refine exists_congr fun entry => and_congr_right fun isIn => ?_
  obtain ⟨original, _, isMember⟩ := kept.reports.original entry.2 (of_mem_zip isIn).2
  cases entry.1.recorded <;> simp [isMember]

/-- A report is recorded once its `UPDATE` ran, and none gave up. -/
theorem recorded_iff (kept : Kept codec idsCodec batchId total state) {report : Batch.Report Ids}
    (member : report ∈ state.batch.reports) :
    report.recorded = true ↔ beforeUpdate report = false := by
  have knows := kept.reports.counted.knows report member
  have inBudget := kept.inBudget report member
  unfold Batch.PhaseKnows at knows
  unfold beforeUpdate
  cases phase : report.phase <;> simp_all

theorem mem_zip (kept : Kept codec idsCodec batchId total state) {id : String}
    (isReported : id ∈ state.reporters) :
    ∃ entry ∈ state.batch.reports.zip state.reporters, entry.2 = id := by
  have zipped : id ∈ (state.batch.reports.zip state.reporters).map Prod.snd := by
    rwa [map_snd_zip kept.reports.parallel.le]
  exact mem_map.mp zipped

theorem hasOutcome_iff (kept : Kept codec idsCodec batchId total state) {index : Nat} :
    HasOutcome state index ↔ index ∈ recordedMembers state ∨ InFlight state index := by
  rw [kept.mem_recordedMembers]
  constructor
  · rintro ⟨id, isMember, gone | buried⟩
    · have isReported := (kept.placed.present id index isMember).resolve_left
        fun ⟨row, member, rowId⟩ => gone row member rowId
      obtain ⟨entry, isIn, rfl⟩ := kept.mem_zip isReported
      cases before : beforeUpdate entry.1 with
      | true => exact .inr ⟨entry.2, isMember, .inr ⟨entry, isIn, rfl, before⟩⟩
      | false =>
        exact .inl ⟨entry, isIn, (kept.recorded_iff (of_mem_zip isIn).1).mpr before, isMember⟩
    · exact .inr ⟨id, isMember, .inl buried⟩
  · rintro (⟨entry, isIn, _, isMember⟩ | ⟨id, isMember, buried | ⟨entry, isIn, rfl, _⟩⟩)
    · exact ⟨entry.2, isMember, .inl (kept.reports.gone entry.2 (of_mem_zip isIn).2)⟩
    · exact ⟨id, isMember, .inr buried⟩
    · exact ⟨entry.2, isMember, .inl (kept.reports.gone entry.2 (of_mem_zip isIn).2)⟩

theorem not_inFlight_of_recorded (kept : Kept codec idsCodec batchId total state) {index : Nat}
    (isRecorded : index ∈ recordedMembers state) : ¬InFlight state index := by
  obtain ⟨entry, isIn, recorded, isMember⟩ := kept.mem_recordedMembers.mp isRecorded
  rintro ⟨id, isOriginal, onItsWay⟩
  obtain rfl := kept.tracked.original_unique id entry.2 index isOriginal isMember
  rcases onItsWay with ⟨worker, payload, isBuried, payloadId⟩ | ⟨other, otherIn, sameRow, before⟩
  · have holds : (state.queue.workers worker).heldId = some entry.2 := by
      simp [Workers.WorkerState.heldId, isBuried, Workers.WorkerState.heldPayload, payloadId]
    obtain ⟨row, member, rowId, _⟩ := kept.tracked.exclusive.held worker entry.2 holds
    exact kept.reports.gone entry.2 (of_mem_zip isIn).2 row member rowId
  · have distinct : ((state.batch.reports.zip state.reporters).map Prod.snd).Nodup := by
      rw [map_snd_zip kept.reports.parallel.le]
      exact kept.reports.distinct
    obtain rfl := inj_on_of_nodup_map distinct otherIn isIn sameRow
    rw [(kept.recorded_iff (of_mem_zip isIn).1).mp recorded] at before
    cases before

open Classical in
/-- Every member has no outcome, or an outcome in flight, or one that is recorded. -/
theorem card_members (kept : Kept codec idsCodec batchId total state) :
    ((Finset.range total).filter fun index => ¬HasOutcome state index).card +
        ((Finset.range total).filter (InFlight state)).card +
        (recordedMembers state).length = total := by
  obtain ⟨distinct, inRange, _⟩ := recordedMembers_distinct kept.tracked kept.reports
  have ended : (Finset.range total).filter (HasOutcome state) =
      (Finset.range total).filter (InFlight state) ∪ (recordedMembers state).toFinset := by
    ext index
    simp only [Finset.mem_filter, Finset.mem_union, Finset.mem_range, mem_toFinset,
      kept.hasOutcome_iff]
    have := inRange index
    tauto
  have apart : Disjoint ((Finset.range total).filter (InFlight state))
      (recordedMembers state).toFinset := by
    refine Finset.disjoint_left.mpr fun index inFlight isRecorded => ?_
    exact kept.not_inFlight_of_recorded (mem_toFinset.mp isRecorded)
      (Finset.mem_filter.mp inFlight).2
  have both : ((Finset.range total).filter (HasOutcome state)).card +
      ((Finset.range total).filter fun index => ¬HasOutcome state index).card =
        (Finset.range total).card :=
    Finset.card_filter_add_card_filter_not _
  rw [ended, Finset.card_union_of_disjoint apart, toFinset_card_of_nodup distinct,
    Finset.card_range] at both
  omega

end Kept

theorem tracked_of_reachable [DecidableEq Ids]
    (reached : Reachable (step? codec idsCodec rfc3339 parseTs jsonText batchId total)
      (State.initial Json Text idsCodec total) state) : Tracked codec batchId total state :=
  reached.invariant (Tracked codec batchId total) Tracked.initial
    fun _ _ _ tracked _ taken => tracked_step tracked taken

/-- A member whose row lies in the table unreserved has had no outcome. -/
theorem not_hasOutcome_of_waiting (tracked : Tracked codec batchId total state) {id : String}
    {index : Nat} (isMember : state.member id = some { index := index, retried := false })
    (waiting : ∃ row ∈ state.queue.jobs, row.id = some id ∧ row.reservedAt = none) :
    ¬HasOutcome state index := by
  obtain ⟨row, isIn, rowId, isFree⟩ := waiting
  rintro ⟨other, isOther, ended⟩
  obtain rfl := tracked.original_unique other id index isOther isMember
  rcases ended with gone | ⟨worker, payload, isBuried, payloadId⟩
  · exact gone row isIn rowId
  · have holds : (state.queue.workers worker).heldId = some other := by
      simp [Workers.WorkerState.heldId, isBuried, Workers.WorkerState.heldPayload, payloadId]
    obtain ⟨held, heldIn, heldId, isReserved⟩ := tracked.exclusive.held worker other holds
    obtain rfl := SqlTable.eq_of_key heldIn isIn heldId rowId
    simp [isFree] at isReserved

end Preservation

/-! ## A dead letter that is retried -/

private def memberPayload : JobPayload Unit :=
  { JobPayload.new "default" "database" (some "app::SendInvoice") ()
    with batchId := some "b7c4" }

private def epochText (_ : Instant) : String := "1970-01-01T00:00:00.000000Z"

private def epochTs (text : String) : Option Instant :=
  if text = "1970-01-01T00:00:00.000000Z" then some 0 else none

/-- The step function over plain texts, for a batch of `total` members. -/
private abbrev epochStep? (total : Nat) :=
  step? (Codec.plain (JobPayload Unit)) (Codec.plain (List String))
    epochText epochTs (fun _ => ()) "b7c4" total

private def claimRun : List (Action Unit) :=
  [.work (.select 0 "default" "1970-01-01T00:00:00.000000Z"), .work (.reserve 0)]

private def finishRun (report : Nat) : List (Action Unit) :=
  List.replicate 6 (.advance report "1970-01-01T00:00:00.000000Z")

/--
Two members; the first is dead-lettered, retried, and finishes again while the
second still waits.
-/
private def retriedRun : List (Action Unit) :=
  [.dispatch 0 "a1" 0 memberPayload, .dispatch 1 "b2" 0 memberPayload] ++ claimRun ++
  [.work (.deadLetter 0 "d1" "JobError::MaxAttemptsExceeded: boom" 0),
    .finish 0 "", .advance 0 "", .advance 0 "", .advance 0 "",
    .advance 0 "", .retrySelect 0 "d1", .retryInsert 0 "a3" 0,
    .retryDelete 0] ++
  claimRun ++ [.finish 0 ""] ++ finishRun 1

private theorem retriedRun_accepted :
    ∃ state,
      run? (epochStep? 2) (State.initial Unit _ (Codec.plain (List String)) 2)
        retriedRun = some state ∧
      state.batch.row.pendingJobs = 0 ∧ state.batch.row.finishedAt.isSome = true ∧
      .onFinally ∈ state.batch.fired ∧ recordedMembers state = [0, 0] ∧
      state.member "b2" = some { index := 1, retried := false } ∧
      ∃ row ∈ state.queue.jobs, row.id = some "b2" ∧ row.reservedAt = none := by
  refine ⟨_, rfl, ?_⟩
  decide

/--
Two members: the first is dead-lettered and pushed back, the second succeeds,
and both reports run to their end.
-/
private def mixedRun : List (Action Unit) :=
  [.dispatch 0 "a1" 0 memberPayload, .dispatch 1 "b2" 0 memberPayload] ++ claimRun ++
  [.work (.deadLetter 0 "d1" "JobError::MaxAttemptsExceeded: boom" 0),
    .work (.select 1 "default" "1970-01-01T00:00:00.000000Z"), .work (.reserve 1),
    .finish 0 "", .retrySelect 0 "d1", .advance 0 "", .retryInsert 0 "a3" 0, .finish 1 "",
    .retryDelete 0, .advance 1 "", .advance 1 "", .advance 1 ""] ++
  finishRun 0

private theorem mixedRun_accepted :
    ∃ state,
      runAlong? (epochStep? 2) CountsOnce (State.initial Unit _ (Codec.plain (List String)) 2)
          mixedRun = some state ∧
        .onFinally ∈ state.batch.fired ∧ state.batch.row.pendingJobs = 0 ∧
        ∃ row ∈ state.queue.jobs, row.id = some "a3" := by
  refine ⟨_, rfl, ?_⟩
  decide

end Rustasea.Queue.Members
