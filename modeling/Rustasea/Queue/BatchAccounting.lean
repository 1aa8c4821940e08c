import Rustasea.Queue.BatchInterleaving

namespace Rustasea.Queue.Batch

open List

/-!
# The counters of a batch row

Whatever the interleaving, the row counts exactly the calls whose outcome
`UPDATE` took effect, and its id list holds exactly the ids they recorded.
Each phase knows something of the row that later rows still satisfy.
-/

variable {Text : Type}

def failedIds (codec : Codec (List String) Text) (row : BatchRow Text) : List String :=
  parseIds codec row.failedJobIds

variable (codec : Codec (List String) Text)

@[simp] theorem parseIds_encode (ids : List String) : parseIds codec (codec.encode ids) = ids := by
  simp [parseIds]

/-- How a row may change over time. -/
structure Later (codec : Codec (List String) Text) (row after : BatchRow Text) : Prop where
  pending : after.pendingJobs ≤ row.pendingJobs
  ids : failedIds codec row <+: failedIds codec after
  drained : row.pendingJobs ≤ 0 → after.failedJobs = row.failedJobs

variable {row after : BatchRow Text} {codec : Codec (List String) Text}

theorem Later.ids_ne_nil (later : Later codec row after)
    (some : failedIds codec row ≠ []) : failedIds codec after ≠ [] := by
  intro none
  have shorter := later.ids.length_le
  rw [none, length_nil, Nat.le_zero, length_eq_zero_iff] at shorter
  exact some shorter

def PhaseKnows (codec : Codec (List String) Text) (row : BatchRow Text)
    (report : Report Text) : Prop :=
  match report.phase with
  | .failureSelect failedId attempt =>
    report.recorded = false ∧ report.outcome = some failedId ∧ attempt < maxAppendRetries ∧
      attempt ≤ (failedIds codec row).length
  | .failureUpdate failedId attempt ids priorText =>
    report.recorded = false ∧ report.outcome = some failedId ∧ attempt < maxAppendRetries ∧
      attempt ≤ ids.length ∧ priorText = codec.encode ids ∧ ids <+: failedIds codec row
  | .decrementUpdate => report.recorded = false ∧ report.outcome = none
  | .gaveUp =>
    report.recorded = false ∧ report.outcome ≠ none ∧
      maxAppendRetries ≤ (failedIds codec row).length
  | .failureReselect _ => report.recorded = true ∧ failedIds codec row ≠ []
  | .decrementFind | .done => report.recorded = true
  | .settled record firstFailure =>
    report.recorded = true ∧ (record.pendingJobs ≤ 0 → row.pendingJobs ≤ 0) ∧
      (firstFailure = true → failedIds codec row ≠ [])
  | .finishUpdate | .finishFind _ => report.recorded = true ∧ row.pendingJobs ≤ 0
  | .completing record =>
    report.recorded = true ∧ row.pendingJobs ≤ 0 ∧ record.failedJobs = row.failedJobs

theorem PhaseKnows.later {report : Report Text} (knows : PhaseKnows codec row report)
    (later : Later codec row after) : PhaseKnows codec after report := by
  have longer := later.ids.length_le
  have lower := later.pending
  obtain ⟨outcome, recorded, phase⟩ := report
  cases phase with
  | failureSelect failedId attempt =>
    obtain ⟨notRecorded, outcome, inBudget, conflicts⟩ := knows
    exact ⟨notRecorded, outcome, inBudget, conflicts.trans longer⟩
  | failureUpdate failedId attempt ids priorText =>
    obtain ⟨notRecorded, outcome, inBudget, conflicts, prior, seen⟩ := knows
    exact ⟨notRecorded, outcome, inBudget, conflicts, prior, seen.trans later.ids⟩
  | decrementUpdate | decrementFind | done => exact knows
  | gaveUp => exact ⟨knows.1, knows.2.1, knows.2.2.trans longer⟩
  | failureReselect firstFailure => exact ⟨knows.1, later.ids_ne_nil knows.2⟩
  | settled record firstFailure =>
    obtain ⟨recorded, drained, first⟩ := knows
    exact ⟨recorded, fun zero => lower.trans (drained zero),
      fun isFirst => later.ids_ne_nil (first isFirst)⟩
  | finishUpdate | finishFind claimed => exact ⟨knows.1, lower.trans knows.2⟩
  | completing record =>
    obtain ⟨recorded, drained, sameFailed⟩ := knows
    exact ⟨recorded, lower.trans drained, sameFailed.trans (later.drained drained).symm⟩

/-! ## What a step can do -/

section Steps

variable [DecidableEq Text] (codec : Codec (List String) Text) (parseTs : String → Option Instant)

/-- The statements of a call that change nothing but the phase. -/
inductive Moves (row : BatchRow Text) : Phase Text → Phase Text → Prop where
  | drained {failedId : String} {attempt : Nat} (drained : row.pendingJobs ≤ 0) :
    Moves row (.failureSelect failedId attempt) (.settled (batchFromRow codec parseTs row) false)
  | selected {failedId : String} {attempt : Nat} :
    Moves row (.failureSelect failedId attempt)
      (.failureUpdate failedId attempt (parseIds codec row.failedJobIds) row.failedJobIds)
  | conflict {failedId : String} {attempt : Nat} {ids : List String} {priorText : Text}
    (conflict : failureUpdate (codec.encode (ids ++ [failedId])) priorText row = none) :
    Moves row (.failureUpdate failedId attempt ids priorText)
      (if attempt + 1 < maxAppendRetries then .failureSelect failedId (attempt + 1) else .gaveUp)
  | reselected {firstFailure : Bool} :
    Moves row (.failureReselect firstFailure)
      (.settled (batchFromRow codec parseTs row) firstFailure)
  | missed (drained : ¬0 < row.pendingJobs) : Moves row .decrementUpdate .decrementFind
  | found : Moves row .decrementFind (.settled (batchFromRow codec parseTs row) false)
  | settled {record : BatchRecord} : Moves row (.settled record false) (afterSettled record)
  | lost (finished : row.finishedAt ≠ none) : Moves row .finishUpdate (.finishFind false)
  | claimed : Moves row (.finishFind true) (.completing (batchFromRow codec parseTs row))
  | unclaimed : Moves row (.finishFind false) .done

inductive Step (state : State Text) : Action → State Text → Prop where
  | report (outcome : Option String) :
    Step state (.report outcome) { state with reports := state.reports ++ [.start outcome] }
  | cancel (now : String) :
    Step state (.cancel now) { state with row := cancelUpdate now state.row }
  | move {index : Nat} {now : String} {report : Report Text} {phase : Phase Text}
    (present : state.reports[index]? = some report)
    (moves : Moves codec parseTs state.row report.phase phase) :
    Step state (.advance index now)
      { state with reports := state.reports.set index { report with phase := phase } }
  | recordFailure {index : Nat} {now : String} {report : Report Text} {failedId : String}
    {attempt : Nat} {ids : List String} (present : state.reports[index]? = some report)
    (phase : report.phase = .failureUpdate failedId attempt ids state.row.failedJobIds)
    (positive : 0 < state.row.pendingJobs) :
    Step state (.advance index now)
      { state with
        row :=
          { state.row with
            pendingJobs := state.row.pendingJobs - 1
            failedJobs := state.row.failedJobs + 1
            failedJobIds := codec.encode (ids ++ [failedId]) }
        reports := state.reports.set index
          { report with recorded := true, phase := .failureReselect ids.isEmpty } }
  | recordSuccess {index : Nat} {now : String} {report : Report Text}
    (present : state.reports[index]? = some report) (phase : report.phase = .decrementUpdate)
    (positive : 0 < state.row.pendingJobs) :
    Step state (.advance index now)
      { state with
        row := { state.row with pendingJobs := state.row.pendingJobs - 1 }
        reports := state.reports.set index
          { report with recorded := true, phase := .decrementFind } }
  | fireCatch {index : Nat} {now : String} {report : Report Text} {record : BatchRecord}
    (present : state.reports[index]? = some report) (phase : report.phase = .settled record true) :
    Step state (.advance index now)
      { state with
        callbacks := (fireCatch state.callbacks).1
        reports := state.reports.set index { report with phase := afterSettled record }
        fired := state.fired ++ (fireCatch state.callbacks).2 }
  | claim {index : Nat} {now : String} {report : Report Text}
    (present : state.reports[index]? = some report) (phase : report.phase = .finishUpdate)
    (unfinished : state.row.finishedAt = none) :
    Step state (.advance index now)
      { state with
        row := { state.row with finishedAt := some now }
        reports := state.reports.set index { report with phase := .finishFind true }
        winners := state.winners + 1 }
  | complete {index : Nat} {now : String} {report : Report Text} {record : BatchRecord}
    (present : state.reports[index]? = some report) (phase : report.phase = .completing record) :
    Step state (.advance index now)
      { state with
        callbacks := (fireCompletion record state.callbacks).1
        reports := state.reports.set index { report with phase := .done }
        fired := state.fired ++ (fireCompletion record state.callbacks).2 }

variable {codec parseTs}

theorem step_cases {state after : State Text} {action : Action}
    (taken : step? codec parseTs state action = some after) :
    Step codec parseTs state action after := by
  cases action with
  | report outcome => exact Option.some.inj taken ▸ .report outcome
  | cancel now => exact Option.some.inj taken ▸ .cancel now
  | advance index now =>
    cases present : state.reports[index]? with
    | none => simp [step?, present] at taken
    | some report =>
      simp only [step?, present, Option.map_eq_some_iff] at taken
      obtain ⟨effect, statement, rfl⟩ := taken
      have move {phase : Phase Text} (moves : Moves codec parseTs state.row report.phase phase) :
          Step codec parseTs state (.advance index now)
            { state with
              reports := state.reports.set index { report with phase := phase }
              fired := state.fired ++ [] } := by
        rw [append_nil]
        exact .move present moves
      obtain ⟨outcome, recorded, phase⟩ := report
      cases phase with
      | failureSelect failedId attempt =>
        simp only [nextStatement] at statement
        split at statement <;> cases statement
        · next drained => exact move (.drained drained)
        · exact move .selected
      | failureUpdate failedId attempt ids priorText =>
        simp only [nextStatement] at statement
        split at statement
        · next updated =>
          cases statement
          unfold failureUpdate at updated
          split at updated <;> cases updated
          next guard =>
            obtain ⟨positive, rfl⟩ := guard
            simpa using Step.recordFailure present rfl positive
        · next conflict =>
          have moved := move (.conflict conflict)
          split at statement <;> cases statement
          · next again => rwa [if_pos again] at moved
          · next spent => rwa [if_neg spent] at moved
      | failureReselect firstFailure =>
        cases statement
        exact move .reselected
      | decrementUpdate =>
        simp only [nextStatement, decrementUpdate] at statement
        by_cases positive : 0 < state.row.pendingJobs
        · rw [if_pos positive] at statement
          cases statement
          simpa using Step.recordSuccess present rfl positive
        · rw [if_neg positive] at statement
          cases statement
          exact move (.missed positive)
      | decrementFind =>
        cases statement
        exact move .found
      | settled record firstFailure =>
        cases statement
        cases firstFailure
        · exact move .settled
        · exact .fireCatch present rfl
      | finishUpdate =>
        simp only [nextStatement, finishUpdate, Option.isNone_iff_eq_none] at statement
        by_cases unfinished : state.row.finishedAt = none
        · rw [if_pos unfinished] at statement
          cases statement
          simpa using Step.claim present rfl unfinished
        · rw [if_neg unfinished] at statement
          cases statement
          exact move (.lost unfinished)
      | finishFind claimed =>
        cases claimed <;> cases statement
        · exact move .unclaimed
        · exact move .claimed
      | completing record =>
        cases statement
        exact .complete present rfl
      | done | gaveUp => cases statement

end Steps

/-- The row counts the recorded calls. -/
structure Counted (codec : Codec (List String) Text) (total : Nat) (state : State Text) : Prop where
  within : state.reports.length ≤ total
  totalJobs : state.row.totalJobs = total
  pending : state.row.pendingJobs = total - (state.reports.countP Report.recorded : Int)
  stored : state.row.failedJobIds = codec.encode (failedIds codec state.row)
  failedJobs : state.row.failedJobs = (failedIds codec state.row).length
  ids : ∀ id, (failedIds codec state.row).count id =
        state.reports.countP fun report => report.recorded && report.outcome == some id
  knows : ∀ report ∈ state.reports, PhaseKnows codec state.row report

namespace Counted

variable {codec : Codec (List String) Text} {parseTs : String → Option Instant} {total : Nat}
  {state : State Text}

theorem initial (codec : Codec (List String) Text) (total : Nat) :
    Counted codec total (State.initial codec total) := by
  refine
    { within := ?_
      totalJobs := ?_
      pending := ?_
      stored := ?_
      failedJobs := ?_
      ids := ?_
      knows := ?_ } <;>
    simp [State.initial, createBatch, failedIds]

theorem pending_bounds (counted : Counted codec total state) :
    0 ≤ state.row.pendingJobs ∧ state.row.pendingJobs ≤ total := by
  have recordedCalls : state.reports.countP Report.recorded ≤ state.reports.length :=
    countP_le_length
  have within := counted.within
  have pending := counted.pending
  omega

variable {report : Report Text}

theorem pending_pos (counted : Counted codec total state) (member : report ∈ state.reports)
    (notRecorded : report.recorded = false) : 0 < state.row.pendingJobs := by
  have fewer : state.reports.countP Report.recorded < state.reports.length := by
    refine lt_of_le_of_ne countP_le_length fun allRecorded => ?_
    have recorded := countP_eq_length.mp allRecorded report member
    simp [notRecorded] at recorded
  have within := counted.within
  have pending := counted.pending
  omega

variable {index : Nat}

theorem knows_at (counted : Counted codec total state)
    (present : state.reports[index]? = some report) : PhaseKnows codec state.row report :=
  counted.knows report (mem_of_getElem? present)

/-- A step that records nothing: the counters and the ids stay. -/
theorem move (counted : Counted codec total state)
    (present : state.reports[index]? = some report) (phase : Phase Text)
    (finishedAt : Option String)
    (knows : PhaseKnows codec { state.row with finishedAt := finishedAt }
      { report with phase := phase }) :
    Counted codec total
      { state with
        row := { state.row with finishedAt := finishedAt }
        reports := state.reports.set index { report with phase := phase } } := by
  have sameCount (counts : Report Text → Bool)
      (same : counts { report with phase := phase } = counts report) :
      (state.reports.set index { report with phase := phase }).countP counts =
        state.reports.countP counts := by
    have moved := Parties.countP_set_add present counts { report with phase := phase }
    rw [same] at moved
    omega
  have later : Later codec state.row { state.row with finishedAt := finishedAt } :=
    { pending := le_rfl, ids := prefix_rfl, drained := fun _ => rfl }
  exact
    { within := by simpa using counted.within
      totalJobs := counted.totalJobs
      pending := by
        rw [sameCount _ rfl]
        exact counted.pending
      stored := counted.stored
      failedJobs := counted.failedJobs
      ids := by
        intro id
        rw [sameCount _ rfl]
        exact counted.ids id
      knows := Parties.forall_mem_set
        (fun other member => (counted.knows other member).later later) knows }

/-- An outcome is recorded: one member fewer is pending, and a failure is appended. -/
theorem record (counted : Counted codec total state)
    (present : state.reports[index]? = some report) (notRecorded : report.recorded = false)
    {row : BatchRow Text} {phase : Phase Text} (sameTotal : row.totalJobs = state.row.totalJobs)
    (onePending : row.pendingJobs = state.row.pendingJobs - 1)
    (stored : row.failedJobIds = codec.encode (failedIds codec row))
    (failedJobs : row.failedJobs = state.row.failedJobs + report.outcome.toList.length)
    (appended : failedIds codec row = failedIds codec state.row ++ report.outcome.toList)
    (knows : PhaseKnows codec row { report with recorded := true, phase := phase }) :
    Counted codec total
      { state with
        row := row
        reports := state.reports.set index
          { report with recorded := true, phase := phase } } := by
  have positive := counted.pending_pos (mem_of_getElem? present) notRecorded
  have later : Later codec state.row row :=
    { pending := by omega, ids := appended ▸ prefix_append _ _, drained := fun drained => by omega }
  have moved := Parties.countP_set_add present Report.recorded
    { report with recorded := true, phase := phase }
  simp only [notRecorded, Bool.false_eq_true, ↓reduceIte] at moved
  have pending := counted.pending
  have failed := counted.failedJobs
  exact
    { within := by simpa using counted.within
      totalJobs := sameTotal.trans counted.totalJobs
      pending := by
        simp only
        omega
      stored := stored
      failedJobs := by
        simp only [appended, length_append]
        omega
      ids := by
        intro id
        have moved := Parties.countP_set_add present
          (fun report => report.recorded && report.outcome == some id)
          { report with recorded := true, phase := phase }
        simp only [notRecorded, Bool.false_and, Bool.false_eq_true, ↓reduceIte, Nat.add_zero] at moved
        rw [moved, appended, count_append, counted.ids id]
        cases report.outcome <;> simp [count_singleton]
      knows := Parties.forall_mem_set
        (fun other member => (counted.knows other member).later later) knows }

/-- The compare-and-swap finds the ids as they were read. -/
theorem failedIds_of_swap (counted : Counted codec total state)
    (present : state.reports[index]? = some report) {failedId : String} {attempt : Nat}
    {ids : List String}
    (phase : report.phase = .failureUpdate failedId attempt ids state.row.failedJobIds) :
    failedIds codec state.row = ids := by
  have knows := counted.knows_at present
  simp only [PhaseKnows, phase] at knows
  exact (codec.encode_injective (knows.2.2.2.2.1.symm.trans counted.stored)).symm

theorem longer_of_conflict [DecidableEq Text] (counted : Counted codec total state)
    {failedId : String} {ids : List String} {attempt : Nat} {text priorText : Text}
    (present : state.reports[index]? = some report)
    (phase : report.phase = .failureUpdate failedId attempt ids priorText)
    (conflict : failureUpdate text priorText state.row = none) :
    ids.length < (failedIds codec state.row).length := by
  have knows := counted.knows_at present
  simp only [PhaseKnows, phase] at knows
  obtain ⟨notRecorded, _, _, _, prior, seen⟩ := knows
  have positive := counted.pending_pos (mem_of_getElem? present) notRecorded
  unfold failureUpdate at conflict
  split at conflict
  · simp at conflict
  · next guard =>
    refine lt_of_le_of_ne seen.length_le fun sameLength => ?_
    refine guard ⟨positive, ?_⟩
    rw [counted.stored, prior, seen.eq_of_length sameLength]

/-- What the next phase of a call knows. -/
theorem knows_of_moves [DecidableEq Text] (counted : Counted codec total state)
    (present : state.reports[index]? = some report) {phase : Phase Text}
    (moves : Moves codec parseTs state.row report.phase phase) :
    PhaseKnows codec state.row { report with phase := phase } := by
  have knows := counted.knows_at present
  have positive := counted.pending_pos (mem_of_getElem? present)
  obtain ⟨outcome, recorded, before⟩ := report
  cases moves with
  | drained drained => exact absurd (positive knows.1) (by omega)
  | selected =>
    obtain ⟨notRecorded, isFailure, inBudget, conflicts⟩ := knows
    exact ⟨notRecorded, isFailure, inBudget, conflicts, counted.stored, prefix_rfl⟩
  | conflict conflict =>
    have longer := counted.longer_of_conflict present rfl conflict
    obtain ⟨notRecorded, isFailure, inBudget, conflicts, _⟩ := knows
    split
    · next again => exact ⟨notRecorded, isFailure, again, by omega⟩
    · exact ⟨notRecorded, by simp_all, by omega⟩
  | reselected => exact ⟨knows.1, fun drained => drained, fun _ => knows.2⟩
  | missed drained => exact absurd (positive knows.1) drained
  | found => exact ⟨knows, fun drained => drained, fun isFirst => by simp at isFirst⟩
  | @settled record =>
    unfold afterSettled
    split
    · next finishing => exact ⟨knows.1, knows.2.1 finishing.1⟩
    · exact knows.1
  | lost => exact knows
  | claimed => exact ⟨knows.1, knows.2, rfl⟩
  | unclaimed => exact knows.1

end Counted

/-- Every action keeps the row counting the recorded calls. -/
theorem counted_step [DecidableEq Text]
    {parseTs : String → Option Instant} {total : Nat} {state after : State Text} {action : Action}
    (counted : Counted codec total state) (within : ReportsWithin total state action)
    (taken : step? codec parseTs state action = some after) : Counted codec total after := by
  cases step_cases taken with
  | report outcome =>
    have countNew (counts : Report Text → Bool) (notCounted : counts (.start outcome) = false) :
        (state.reports ++ [Report.start outcome]).countP counts = state.reports.countP counts := by
      simp [countP_append, notCounted]
    refine { counted with within := ?_, pending := ?_, ids := ?_, knows := ?_ }
    · have room : state.reports.length < total := within
      simpa [Nat.succ_le_iff] using room
    · rw [countNew Report.recorded rfl]
      exact counted.pending
    · intro id
      rw [countNew _ rfl]
      exact counted.ids id
    · intro report member
      rcases mem_append.mp member with old | isNew
      · exact counted.knows report old
      · obtain rfl := mem_singleton.mp isNew
        cases outcome with
        | none => exact ⟨rfl, rfl⟩
        | some failedId => exact ⟨rfl, rfl, by decide, Nat.zero_le _⟩
  | cancel now =>
    unfold cancelUpdate
    split
    · exact { counted with }
    · exact counted
  | move present moves => exact counted.move present _ _ (counted.knows_of_moves present moves)
  | @recordFailure index _ report failedId attempt ids present phase positive =>
    have knows := counted.knows_at present
    simp only [PhaseKnows, phase] at knows
    have same := counted.failedIds_of_swap present phase
    refine counted.record present knows.1 rfl rfl ?_ ?_ ?_ ⟨rfl, ?_⟩ <;>
      simp [failedIds, knows.2.1, ← same]
  | recordSuccess present phase positive =>
    have knows := counted.knows_at present
    simp only [PhaseKnows, phase] at knows
    refine counted.record present knows.1 rfl rfl counted.stored ?_ ?_ rfl <;>
      simp [failedIds, knows.2]
  | fireCatch present phase =>
    have knows := counted.knows_at present
    simp only [PhaseKnows, phase] at knows
    refine { counted.move present _ _ ?_ with }
    unfold afterSettled
    split
    · next finishing => exact ⟨knows.1, knows.2.1 finishing.1⟩
    · exact knows.1
  | @claim _ now _ present phase =>
    have knows := counted.knows_at present
    simp only [PhaseKnows, phase] at knows
    exact { counted.move present (.finishFind true) (some now) knows with }
  | complete present phase =>
    have knows := counted.knows_at present
    simp only [PhaseKnows, phase] at knows
    exact { counted.move present .done _ knows.1 with }

end Rustasea.Queue.Batch
