import Rustasea.Queue.BatchMembers
import Mathlib.Data.List.Perm.Subperm

namespace Rustasea.Queue.Members

open List Function

/-!
# The pending counter and retried dead letters

As long as no worker finishes a payload that `retry_failed` pushed, every
report of the batch is about the one original row of a member, so the batch
row counts distinct members.  A finished retried payload is reported again.
-/

variable {Json Text Ids : Type}

/-- The state after the push of a row. -/
abbrev State.pushed (state : State Json Text Ids) (queue : Workers.State Json Text)
    (operators : Nat → Operator Json) (uuid : String) (member : Option Member)
    (dispatched : List Nat) : State Json Text Ids :=
  { state with
    queue := queue
    operators := operators
    member := update state.member uuid member
    dispatched := dispatched }

def IsMember (total : Nat) (state : State Json Text Ids) (id : String) : Prop :=
  ∃ member, state.member id = some member ∧ member.index < total

/-- Payloads of the batch stand for members, and reports for original rows. -/
structure Tracked (codec : Codec (JobPayload Json) Text) (batchId : String) (total : Nat)
    (state : State Json Text Ids) : Prop where
  exclusive : Workers.Exclusive codec state.queue
  ofBatch : ∀ id entry, state.queue.history id = some entry → entry.pushed.batchId = some batchId →
      IsMember total state id
  known : ∀ id member, state.member id = some member → ∃ entry, state.queue.history id = some entry
  original : ∀ id index, state.member id = some { index := index, retried := false } →
      index ∈ state.dispatched
  original_unique : ∀ first second index,
      state.member first = some { index := index, retried := false } →
      state.member second = some { index := index, retried := false } → first = second
  dead : ∀ row ∈ state.queue.failed, ∃ payload id,
        codec.decode row.payload = .ok payload ∧ payload.id = some id ∧
            (payload.batchId = some batchId → IsMember total state id)
  pushing : ∀ operator failedId dead payload,
      state.operators operator = .pushing failedId dead payload → payload.batchId = some batchId →
      ∃ id, dead = some id ∧ IsMember total state id

/-- The reports are about distinct original rows that left the table. -/
structure Reported (idsCodec : Codec (List String) Ids) (total : Nat)
    (state : State Json Text Ids) : Prop where
  parallel : state.reporters.length = state.batch.reports.length
  distinct : state.reporters.Nodup
  original : ∀ id ∈ state.reporters,
      ∃ index, index < total ∧ state.member id = some { index := index, retried := false }
  gone : ∀ id ∈ state.reporters, ∀ row ∈ state.queue.jobs, row.id ≠ some id
  counted : Batch.Counted idsCodec total state.batch
  completed : Batch.Completed idsCodec total state.batch

section Preservation

variable {codec : Codec (JobPayload Json) Text} {idsCodec : Codec (List String) Ids}
  {rfc3339 : Instant → String} {parseTs : String → Option Instant} {jsonText : Text → Json}
  {batchId : String} {total : Nat} {state : State Json Text Ids}

namespace Tracked

theorem initial : Tracked codec batchId total (State.initial Json Text idsCodec total) where
  exclusive := Workers.exclusive_initial
  ofBatch := by
    intro id entry known
    cases known
  known := by
    intro id member known
    cases known
  original := by
    intro id index known
    cases known
  original_unique := by
    intro first second index known
    cases known
  dead := by
    intro row member
    exact (SqlTable.not_mem_empty member).elim
  pushing := by
    intro operator failedId dead payload isPushing
    cases isPushing

variable {payload : JobPayload Json}

theorem isMember_of_held (tracked : Tracked codec batchId total state) {worker : Nat}
    (held : (state.queue.workers worker).heldPayload = some payload) :
    ∃ id, payload.id = some id ∧ (state.queue.workers worker).heldId = some id ∧
      (payload.batchId = some batchId → IsMember total state id) := by
  obtain ⟨id, entry, known, attempts, shape, _⟩ := tracked.exclusive.carried worker payload held
  have payloadId : payload.id = some id := by rw [shape]
  refine ⟨id, payloadId,
    by simp [Workers.WorkerState.heldId, held, payloadId],
    fun ofBatch => tracked.ofBatch id entry known ?_⟩
  rw [shape] at ofBatch
  exact ofBatch

theorem work (tracked : Tracked codec batchId total state)
    {action : Workers.Action Json} {queue : Workers.State Json Text}
    (notPush : ∀ uuid now payload, action ≠ .push uuid now payload)
    (taken : Workers.step? codec rfc3339 state.queue action = some queue) :
    Tracked codec batchId total { state with queue := queue } := by
  have frame := Workers.work_frame notPush taken
  refine
    { exclusive := Workers.exclusive_step tracked.exclusive taken
      ofBatch := ?_
      known := ?_
      original := tracked.original
      original_unique := tracked.original_unique
      dead := ?_
      pushing := tracked.pushing }
  · intro id next nextKnown ofBatch
    have same := frame.pushed id
    rw [nextKnown] at same
    obtain ⟨entry, known, samePushed⟩ := Option.map_eq_some_iff.mp same.symm
    exact tracked.ofBatch id entry known (samePushed ▸ ofBatch)
  · intro id member isMember
    obtain ⟨entry, known⟩ := tracked.known id member isMember
    have same := frame.pushed id
    rw [known] at same
    obtain ⟨next, nextKnown, _⟩ := Option.map_eq_some_iff.mp same
    exact ⟨next, nextKnown⟩
  · intro row member
    rcases frame.failed row member with old | ⟨worker, payload, held, text⟩
    · exact tracked.dead row old
    · obtain ⟨id, payloadId, _, isMember⟩ := tracked.isMember_of_held held
      exact ⟨payload, id, text, payloadId, isMember⟩

theorem member_eq_none (tracked : Tracked codec batchId total state) {id : String}
    (unknown : state.queue.history id = none) : state.member id = none := by
  cases isMember : state.member id with
  | none => rfl
  | some member =>
    obtain ⟨entry, known⟩ := tracked.known id member isMember
    simp [unknown] at known

/-- A push keeps the members tracked when its own row is. -/
theorem push (tracked : Tracked codec batchId total state) {uuid : String} {now : Instant}
    {queue : Workers.State Json Text}
    (taken : Workers.step? codec rfc3339 state.queue (.push uuid now payload) = some queue)
    {operators : Nat → Operator Json}
    (sameOperators : ∀ operator failedId dead payload,
      operators operator = .pushing failedId dead payload →
      state.operators operator = .pushing failedId dead payload) {newMember : Option Member}
    {dispatched : List Nat}
    (ofBatch : payload.batchId = some batchId →
      ∃ member, newMember = some member ∧ member.index < total)
    (original : ∀ index, newMember = some { index := index, retried := false } →
      payload.batchId = some batchId ∧ index ∉ state.dispatched ∧ index ∈ dispatched)
    (grows : ∀ index ∈ state.dispatched, index ∈ dispatched) :
    Tracked codec batchId total (state.pushed queue operators uuid newMember dispatched) := by
  obtain ⟨unknown, history, failed, _, _⟩ := Workers.push_frame taken
  have fresh := tracked.member_eq_none unknown
  have keeps : ∀ {id}, IsMember total state id →
      IsMember total (state.pushed queue operators uuid newMember dispatched) id := by
    rintro id ⟨member, isMember, inRange⟩
    have different : id ≠ uuid := by
      rintro rfl
      simp [fresh] at isMember
    exact ⟨member, by simp [different, isMember], inRange⟩
  refine
    { exclusive := Workers.exclusive_step tracked.exclusive taken
      ofBatch := ?_
      known := ?_
      original := ?_
      original_unique := ?_
      dead := ?_
      pushing := ?_ }
  · intro id entry known isOfBatch
    simp only [history] at known
    by_cases isNew : id = uuid
    · subst isNew
      simp only [update_self, Option.some.injEq] at known
      subst known
      obtain ⟨member, isMember, inRange⟩ := ofBatch isOfBatch
      exact ⟨member, by simp [isMember], inRange⟩
    · rw [update_of_ne isNew] at known
      exact keeps (tracked.ofBatch id entry known isOfBatch)
  · intro id member isMember
    simp only [history]
    by_cases isNew : id = uuid
    · exact ⟨Workers.JobHistory.start payload, by simp [isNew]⟩
    · simp only [update_of_ne isNew] at isMember ⊢
      exact tracked.known id member isMember
  · intro id index isMember
    by_cases isNew : id = uuid
    · simp only [isNew, update_self] at isMember
      exact (original index isMember).2.2
    · simp only [update_of_ne isNew] at isMember
      exact grows index (tracked.original id index isMember)
  · intro first second index firstMember secondMember
    by_cases firstNew : first = uuid <;> by_cases secondNew : second = uuid
    · exact firstNew.trans secondNew.symm
    · simp only [firstNew, update_self] at firstMember
      simp only [update_of_ne secondNew] at secondMember
      exact ((original index firstMember).2.1 (tracked.original second index secondMember)).elim
    · simp only [secondNew, update_self] at secondMember
      simp only [update_of_ne firstNew] at firstMember
      exact ((original index secondMember).2.1 (tracked.original first index firstMember)).elim
    · simp only [update_of_ne firstNew] at firstMember
      simp only [update_of_ne secondNew] at secondMember
      exact tracked.original_unique first second index firstMember secondMember
  · intro row member
    simp only [failed] at member
    obtain ⟨dead, id, text, deadId, isMember⟩ := tracked.dead row member
    exact ⟨dead, id, text, deadId, fun isOfBatch => keeps (isMember isOfBatch)⟩
  · intro operator failedId dead held isPushing isOfBatch
    obtain ⟨id, isDead, isMember⟩ := tracked.pushing operator failedId dead held
        (sameOperators operator failedId dead held isPushing) isOfBatch
    exact ⟨id, isDead, keeps isMember⟩

end Tracked

/-! ## What a step can do -/

section Steps

variable [DecidableEq Ids] (codec : Codec (JobPayload Json) Text)
  (idsCodec : Codec (List String) Ids) (rfc3339 : Instant → String)
  (parseTs : String → Option Instant) (batchId : String) (total : Nat)

/-- A push, a statement of a worker, the end of a job,
  a statement of the batch or of an operator. -/
inductive Step (state : State Json Text Ids) : Action Json → State Json Text Ids → Prop where
  | push {action : Action Json} {uuid : String} {now : Instant} {payload : JobPayload Json}
    {queue : Workers.State Json Text} {operators : Nat → Operator Json}
    {newMember : Option Member} {dispatched : List Nat}
    (pushed : Workers.step? codec rfc3339 state.queue (.push uuid now payload) = some queue)
    (sameOperators : ∀ operator failedId dead payload,
      operators operator = .pushing failedId dead payload →
        state.operators operator = .pushing failedId dead payload)
    (ofBatch : payload.batchId = some batchId →
      ∃ member, newMember = some member ∧ member.index < total)
    (original : ∀ index, newMember = some { index := index, retried := false } →
      payload.batchId = some batchId ∧ index ∉ state.dispatched ∧ index ∈ dispatched)
    (grows : ∀ index ∈ state.dispatched, index ∈ dispatched) :
    Step state action (state.pushed queue operators uuid newMember dispatched)
  | work {action : Workers.Action Json} {queue : Workers.State Json Text}
    (notPush : ∀ uuid now payload, action ≠ .push uuid now payload)
    (notAck : ∀ worker, action ≠ .ack worker)
    (worked : Workers.step? codec rfc3339 state.queue action = some queue) :
    Step state (.work action) { state with queue := queue }
  | reports {worker : Nat} {synthetic id : String} {outcome : Option String}
    {queue : Workers.State Json Text}
    (isReport : reportOf batchId synthetic (state.queue.workers worker) = some outcome)
    (holds : (state.queue.workers worker).heldId = some id)
    (worked : Workers.step? codec rfc3339 state.queue (.ack worker) = some queue) :
    Step state (.finish worker synthetic)
      { state with
        queue := queue
        batch := { state.batch with reports := state.batch.reports ++ [.start outcome] }
        reporters := state.reporters ++ [id] }
  | silent {worker : Nat} {synthetic : String} {queue : Workers.State Json Text}
    (noReport : ∀ outcome id,
      reportOf batchId synthetic (state.queue.workers worker) = some outcome →
        (state.queue.workers worker).heldId ≠ some id)
    (worked : Workers.step? codec rfc3339 state.queue (.ack worker) = some queue) :
    Step state (.finish worker synthetic) { state with queue := queue }
  | advance {report : Nat} {now : String} {batch : Batch.State Ids}
    (advanced : Batch.step? idsCodec parseTs state.batch (.advance report now) = some batch) :
    Step state (.advance report now) { state with batch := batch }
  | cancel {now : String} {batch : Batch.State Ids}
    (cancelled : Batch.step? idsCodec parseTs state.batch (.cancel now) = some batch) :
    Step state (.cancel now) { state with batch := batch }
  | operate {action : Action Json} {operators : Nat → Operator Json} {failed : FailedTable Text}
    (kept : ∀ row ∈ failed, row ∈ state.queue.failed)
    (pushing : ∀ operator failedId dead payload,
      operators operator = .pushing failedId dead payload → payload.batchId = some batchId →
        ∃ id, dead = some id ∧ IsMember total state id) :
    Step state action
      { state with queue := { state.queue with failed := failed }, operators := operators }

end Steps

variable {after : State Json Text Ids} {action : Action Json}

theorem step_cases [DecidableEq Ids] (tracked : Tracked codec batchId total state) (taken :
      step? codec idsCodec rfc3339 parseTs jsonText batchId total state action = some after) :
    Step codec idsCodec rfc3339 parseTs batchId total state action after := by
  cases action with
  | dispatch index uuid now payload =>
    simp only [step?] at taken
    split at taken
    · next allowed =>
      obtain ⟨inRange, fresh, ofBatch⟩ := allowed
      obtain ⟨queue, pushed, rfl⟩ := Option.map_eq_some_iff.mp taken
      refine .push pushed (fun _ _ _ _ same => same) (fun _ => ⟨_, rfl, inRange⟩) ?_
        (fun _ old => mem_cons_of_mem index old)
      rintro _ ⟨⟩
      exact ⟨ofBatch, fresh, mem_cons_self⟩
    · cases taken
  | work action =>
    cases action with
    | push uuid now payload =>
      simp only [step?] at taken
      split at taken
      · cases taken
      · next foreign =>
        obtain ⟨queue, pushed, rfl⟩ := Option.map_eq_some_iff.mp taken
        have unknown := tracked.member_eq_none (Workers.push_frame pushed).1
        have step : Step codec idsCodec rfc3339 parseTs batchId total state
            (.work (.push uuid now payload))
            { state with queue := queue, member := update state.member uuid none } :=
          .push pushed (fun _ _ _ _ same => same) (fun ofBatch => (foreign ofBatch).elim)
            (fun _ isNone => by cases isNone) (fun _ old => old)
        rwa [← unknown, update_eq_self] at step
    | ack worker => simp [step?] at taken
    | select worker queue now | reserve worker | release worker now delay
    | deadLetter worker failedId exception now =>
      obtain ⟨queue, worked, rfl⟩ := Option.map_eq_some_iff.mp taken
      exact .work (by simp) (by simp) worked
  | finish worker synthetic =>
    obtain ⟨queue, worked, rfl⟩ := Option.map_eq_some_iff.mp taken
    split
    · next isReport holds => exact .reports isReport holds worked
    · next noReport => exact .silent noReport worked
  | advance report now =>
    obtain ⟨batch, advanced, rfl⟩ := Option.map_eq_some_iff.mp taken
    exact .advance advanced
  | cancel now =>
    cases taken
    exact .cancel rfl
  | retrySelect operator failedId =>
    simp only [step?] at taken
    split at taken
    · split at taken <;> cases taken
      · exact .operate (fun _ isIn => isIn) tracked.pushing
      · next row found =>
        refine .operate (fun _ isIn => isIn) ?_
        intro other otherId dead payload isPushing isOfBatch
        simp only [update_apply] at isPushing
        split at isPushing
        · cases isPushing
          obtain ⟨dead, id, text, deadId, isMember⟩ :=
            tracked.dead row (mem_of_find?_eq_some found)
          refine ⟨id, ?_, isMember ?_⟩
          · simp [Workers.deadJob, text, deadId]
          · simpa [retryPayload, text] using isOfBatch
        · exact tracked.pushing other otherId dead payload isPushing isOfBatch
    · cases taken
  | retryInsert operator uuid now =>
    simp only [step?] at taken
    split at taken
    · next failedId dead payload at_ =>
      obtain ⟨queue, pushed, rfl⟩ := Option.map_eq_some_iff.mp taken
      refine .push pushed ?_ ?_ ?_ (fun _ old => old)
      · intro other otherId otherDead otherPayload isPushing
        simp only [State.setOperator, update_apply] at isPushing
        split at isPushing
        · cases isPushing
        · exact isPushing
      · intro isOfBatch
        obtain ⟨id, isDead, member, isMember, inRange⟩ :=
          tracked.pushing operator failedId dead payload at_ isOfBatch
        exact ⟨{ member with retried := true }, by simp [isDead, isMember], inRange⟩
      · intro index isNew
        obtain ⟨member, _, same⟩ := Option.map_eq_some_iff.mp isNew
        simp at same
    · cases taken
  | retryDelete operator =>
    simp only [step?] at taken
    split at taken
    · cases taken
      refine .operate (fun _ isIn => (SqlTable.mem_delete.mp isIn).1) ?_
      intro other otherId dead payload isPushing isOfBatch
      simp only [State.setOperator, update_apply] at isPushing
      split at isPushing
      · cases isPushing
      · exact tracked.pushing other otherId dead payload isPushing isOfBatch
    · cases taken

/-- Every statement keeps the members tracked. -/
theorem tracked_step [DecidableEq Ids] (tracked : Tracked codec batchId total state) (taken :
      step? codec idsCodec rfc3339 parseTs jsonText batchId total state action = some after) :
    Tracked codec batchId total after := by
  cases step_cases tracked taken with
  | push pushed sameOperators ofBatch original grows =>
    exact tracked.push pushed sameOperators ofBatch original grows
  | work notPush _ worked => exact tracked.work notPush worked
  | reports _ _ worked | silent _ worked => exact { tracked.work (by simp) worked with }
  | advance | cancel => exact { tracked with }
  | operate kept pushing =>
    exact
      { tracked with
        exclusive := tracked.exclusive.withFailed _
        dead := fun row isIn => tracked.dead row (kept row isIn)
        pushing := pushing }

/-! ## Reports of original rows -/

def memberIndex (state : State Json Text Ids) (id : String) : Nat :=
  ((state.member id).map Member.index).getD 0

variable {ids : List String}

theorem memberIndex_nodup (tracked : Tracked codec batchId total state) (distinct : ids.Nodup)
    (original : ∀ id ∈ ids,
        ∃ index, index < total ∧ state.member id = some { index := index, retried := false }) :
    (ids.map (memberIndex state)).Nodup := by
  refine List.Nodup.map_on ?_ distinct
  intro first firstMember second secondMember same
  obtain ⟨firstIndex, _, isFirst⟩ := original first firstMember
  obtain ⟨secondIndex, _, isSecond⟩ := original second secondMember
  simp only [memberIndex, isFirst, isSecond, Option.map_some, Option.getD_some] at same
  exact tracked.original_unique first second secondIndex (same ▸ isFirst) isSecond

theorem length_le_total (tracked : Tracked codec batchId total state) (distinct : ids.Nodup)
    (original : ∀ id ∈ ids,
        ∃ index, index < total ∧ state.member id = some { index := index, retried := false }) :
    ids.length ≤ total := by
  have inRange : ids.map (memberIndex state) ⊆ List.range total := by
    intro index member
    obtain ⟨id, idMember, rfl⟩ := mem_map.mp member
    obtain ⟨index, bound, isMember⟩ := original id idMember
    simpa [memberIndex, isMember] using bound
  have shorter := (subperm_of_subset (memberIndex_nodup tracked distinct original)
      inRange).length_le
  simpa using shorter

namespace Reported

theorem initial : Reported idsCodec total (State.initial Json Text idsCodec total) where
  parallel := rfl
  distinct := nodup_nil
  original := by
    intro id member
    exact (not_mem_nil member).elim
  gone := by
    intro id member
    exact (not_mem_nil member).elim
  counted := Batch.Counted.initial idsCodec total
  completed := Batch.Completed.initial idsCodec total

theorem frame (reported : Reported idsCodec total state) {after : State Json Text Ids}
    (sameBatch : after.batch = state.batch) (sameReporters : after.reporters = state.reporters)
    (sameMembers : ∀ id ∈ state.reporters, after.member id = state.member id)
    (jobs : ∀ row ∈ after.queue.jobs, (∃ before ∈ state.queue.jobs, before.id = row.id) ∨
      ∀ id ∈ state.reporters, row.id ≠ some id) : Reported idsCodec total after := by
  refine
    { parallel := ?_, distinct := ?_, original := ?_, gone := ?_, counted := ?_, completed := ?_ }
  · rw [sameBatch, sameReporters]
    exact reported.parallel
  · rw [sameReporters]
    exact reported.distinct
  · intro id member
    rw [sameReporters] at member
    rw [sameMembers id member]
    exact reported.original id member
  · intro id member row rowMember
    rw [sameReporters] at member
    rcases jobs row rowMember with ⟨before, old, sameId⟩ | different
    · exact sameId ▸ reported.gone id member before old
    · exact different id member
  · rw [sameBatch]
    exact reported.counted
  · rw [sameBatch]
    exact reported.completed

variable {queue : Workers.State Json Text}

theorem push (reported : Reported idsCodec total state)
    (tracked : Tracked codec batchId total state) {uuid : String}
    {now : Instant} {payload : JobPayload Json}
    (taken : Workers.step? codec rfc3339 state.queue (.push uuid now payload) = some queue)
    (operators : Nat → Operator Json) (newMember : Option Member) (dispatched : List Nat) :
    Reported idsCodec total (state.pushed queue operators uuid newMember dispatched) := by
  obtain ⟨unknown, _, _, _, rows⟩ := Workers.push_frame taken
  have fresh : ∀ id ∈ state.reporters, id ≠ uuid := by
    rintro id member rfl
    obtain ⟨index, _, isMember⟩ := reported.original id member
    simp [tracked.member_eq_none unknown] at isMember
  refine reported.frame rfl rfl ?_ ?_
  · intro id member
    exact update_of_ne (fresh id member) _ _
  · intro row member
    rcases (rows row).mp member with old | rfl
    · exact .inl ⟨row, old, rfl⟩
    · right
      intro id idMember same
      have isNew : uuid = id := by simpa [pushRow] using same
      exact fresh id idMember isNew.symm

theorem work (reported : Reported idsCodec total state) {action : Workers.Action Json}
    (notPush : ∀ uuid now payload, action ≠ .push uuid now payload)
    (taken : Workers.step? codec rfc3339 state.queue action = some queue) :
    Reported idsCodec total { state with queue := queue } :=
  reported.frame rfl rfl (fun _ _ => rfl) fun row member =>
    .inl ((Workers.work_frame notPush taken).jobs row member)

theorem batchStep [DecidableEq Ids] (reported : Reported idsCodec total state)
    {action : Batch.Action} {batch : Batch.State Ids}
    (notReport : ∀ outcome, action ≠ .report outcome)
    (taken : Batch.step? idsCodec parseTs state.batch action = some batch) :
    Reported idsCodec total { state with batch := batch } := by
  have within : Batch.ReportsWithin total state.batch action := by
    cases action with
    | report outcome => exact (notReport outcome rfl).elim
    | _ => trivial
  have sameLength : batch.reports.length = state.batch.reports.length := by
    cases Batch.step_cases taken with
    | report outcome => exact (notReport outcome rfl).elim
    | cancel => rfl
    | _ => exact length_set
  exact
    { parallel := reported.parallel.trans sameLength.symm
      distinct := reported.distinct
      original := reported.original
      gone := reported.gone
      counted := Batch.counted_step reported.counted within taken
      completed := Batch.completed_step reported.counted reported.completed taken }

/-- A finished original row is reported for the first time. -/
theorem finish [DecidableEq Ids] (reported : Reported idsCodec total state)
    (tracked : Tracked codec batchId total state) {worker : Nat} {id : String}
    {outcome : Option String}
    (taken : Workers.step? codec rfc3339 state.queue (.ack worker) = some queue)
    (holds : (state.queue.workers worker).heldId = some id) (isMember : IsMember total state id)
    (notRetried : ∀ member ∈ state.member id, member.retried = false) :
    Reported idsCodec total
      { state with
        queue := queue
        batch :=
          { state.batch with reports := state.batch.reports ++ [.start outcome] }
        reporters := state.reporters ++ [id] } := by
  have frame := Workers.work_frame (by simp) taken
  have gone := Workers.gone_of_ack holds taken
  obtain ⟨⟨index, retried⟩, known, inRange⟩ := isMember
  obtain rfl : retried = false := notRetried _ known
  have unreported : id ∉ state.reporters := by
    intro member
    obtain ⟨row, rowMember, rowId, _⟩ := tracked.exclusive.held worker id holds
    exact reported.gone id member row rowMember rowId
  have distinct : (state.reporters ++ [id]).Nodup := by
    refine nodup_append.mpr ⟨reported.distinct, nodup_singleton id, ?_⟩
    intro first firstMember second secondMember same
    obtain rfl := mem_singleton.mp secondMember
    exact unreported (same ▸ firstMember)
  have original : ∀ other ∈ state.reporters ++ [id], ∃ index, index < total ∧
      state.member other = some { index := index, retried := false } := by
    intro other member
    rcases mem_append.mp member with old | isNew
    · exact reported.original other old
    · obtain rfl := mem_singleton.mp isNew
      exact ⟨index, inRange, known⟩
  have room : Batch.ReportsWithin total state.batch (.report outcome) := by
    have bound := length_le_total tracked distinct original
    have parallel := reported.parallel
    simp only [length_append, length_singleton] at bound
    simp only [Batch.ReportsWithin]
    omega
  have reportTaken : Batch.step? idsCodec (fun _ => none) state.batch (.report outcome) =
        some
          { state.batch with reports := state.batch.reports ++ [.start outcome] } :=
    rfl
  exact
    { parallel := by
        simp [reported.parallel]
      distinct := distinct
      original := original
      gone := by
        intro other member row rowMember
        rcases mem_append.mp member with old | isNew
        · obtain ⟨before, beforeMember, sameId⟩ := frame.jobs row rowMember
          exact sameId ▸ reported.gone other old before beforeMember
        · obtain rfl := mem_singleton.mp isNew
          exact gone row rowMember
      counted := Batch.counted_step reported.counted room reportTaken
      completed := Batch.completed_step reported.counted reported.completed reportTaken }

end Reported

theorem isMember_of_reportOf (tracked : Tracked codec batchId total state) {worker : Nat}
    {synthetic : String} {outcome : Option String} {id : String}
    (reports : reportOf batchId synthetic (state.queue.workers worker) = some outcome)
    (holds : (state.queue.workers worker).heldId = some id) : IsMember total state id := by
  cases at_ : state.queue.workers worker with
  | running payload | buried payload =>
    have held : (state.queue.workers worker).heldPayload = some payload := by
      rw [at_]
      rfl
    obtain ⟨other, _, otherHolds, isMember⟩ := tracked.isMember_of_held held
    obtain rfl : other = id := by simpa [holds] using otherHolds.symm
    refine isMember ?_
    simp only [at_, reportOf] at reports
    split at reports
    · assumption
    · simp at reports
  | _ => simp [at_, reportOf] at reports

/-- Every statement that finishes no retried payload keeps the reports. -/
theorem reported_step [DecidableEq Ids] (tracked : Tracked codec batchId total state)
    (reported : Reported idsCodec total state) (finishes : FinishesNoRetried state action) (taken :
      step? codec idsCodec rfc3339 parseTs jsonText batchId total state action = some after) :
    Reported idsCodec total after := by
  cases step_cases tracked taken with
  | push pushed => exact reported.push tracked pushed _ _ _
  | work notPush _ worked => exact reported.work notPush worked
  | @reports worker synthetic id outcome queue isReport holds worked =>
    exact reported.finish tracked worked holds (isMember_of_reportOf tracked isReport holds)
      (finishes id holds)
  | silent _ worked => exact reported.work (by simp) worked
  | advance batchTaken | cancel batchTaken => exact reported.batchStep (by simp) batchTaken
  | operate => exact { reported with }

/-! ## Distinct members -/

private theorem recordedMembers_eq (reports : List (Batch.Report Ids)) {reporters : List String}
    (original : ∀ id ∈ reporters,
        ∃ index, index < total ∧ state.member id = some { index := index, retried := false }) :
    ((reports.zip reporters).filterMap fun entry =>
        if entry.1.recorded then (state.member entry.2).map Member.index
        else none) =
      ((reports.zip reporters).filter fun entry =>
        entry.1.recorded).map fun entry =>
          memberIndex state entry.2 := by
  induction reports generalizing reporters with
  | nil => simp
  | cons report rest ih =>
    cases reporters with
    | nil => simp
    | cons id others =>
      obtain ⟨index, _, isMember⟩ := original id mem_cons_self
      have restEq := ih fun other member => original other (mem_cons_of_mem id member)
      cases recorded : report.recorded <;> simp [recorded, isMember, memberIndex, restEq]

theorem recordedMembers_distinct (tracked : Tracked codec batchId total state)
    (reported : Reported idsCodec total state) :
    (recordedMembers state).Nodup ∧ (∀ index ∈ recordedMembers state, index < total) ∧
    (recordedMembers state).length = state.batch.reports.countP Batch.Report.recorded := by
  have shape := recordedMembers_eq state.batch.reports reported.original
  have allIds : (state.batch.reports.zip state.reporters).map Prod.snd = state.reporters :=
    map_snd_zip reported.parallel.le
  have allReports : (state.batch.reports.zip state.reporters).map Prod.fst = state.batch.reports :=
    map_fst_zip reported.parallel.ge
  refine ⟨?_, ?_, ?_⟩
  · rw [recordedMembers, shape]
    have distinct := memberIndex_nodup tracked reported.distinct reported.original
    rw [← allIds, map_map] at distinct
    exact ((filter_sublist).map _).nodup distinct
  · intro index member
    rw [recordedMembers, shape] at member
    obtain ⟨entry, entryMember, rfl⟩ := mem_map.mp member
    have reporter : entry.2 ∈ state.reporters :=
      (of_mem_zip (mem_filter.mp entryMember).1).2
    obtain ⟨index, inRange, isMember⟩ := reported.original entry.2 reporter
    simpa [memberIndex, isMember] using inRange
  · rw [recordedMembers, shape, length_map, ← countP_eq_length_filter]
    conv_rhs => rw [← allReports]
    rw [countP_map]
    rfl

end Preservation

end Rustasea.Queue.Members
