import Rustasea.Queue.BatchAccounting

namespace Rustasea.Queue.Batch

open TransitionSystem

/-!
# Completion and callbacks

The finish `UPDATE` picks one winner, and only the winner takes the callback
set.  While the row is drained and not finished, some call is still on its way
to the finish `UPDATE`.
-/

variable {Text : Type}

/-- The call won the finish claim and has not taken the callbacks yet. -/
def completingCall (report : Report Text) : Bool :=
  match report.phase with
  | .finishFind claimed => claimed
  | .completing _ => true
  | _ => false

/-- The call will reach the finish `UPDATE` if the row is drained. -/
def finishingCall (report : Report Text) : Bool :=
  match report.phase with
  | .failureReselect _ | .decrementFind | .finishUpdate => true
  | .settled record _ => decide (record.pendingJobs ≤ 0) && !record.isFinished
  | _ => false

/-- What was called so far, and what is still registered. -/
inductive CallbacksKept (ids : List String) :
    Option CallbackSet → List Callback → Prop where
  | untouched : CallbacksKept ids (some { onThen := true, onCatch := true, onFinally := true }) []
  | caught : ids ≠ [] → CallbacksKept ids
        (some { onThen := true, onCatch := false, onFinally := true }) [.onCatch]
  | succeeded : ids = [] → CallbacksKept ids none [.onThen, .onFinally]
  | failedUncaught : ids ≠ [] → CallbacksKept ids none [.onFinally]
  | failed : ids ≠ [] → CallbacksKept ids none [.onCatch, .onFinally]

private theorem fireCatch_no_finally (callbacks : Option CallbackSet) :
    (fireCatch callbacks).2.count .onFinally = 0 := by
  cases callbacks with
  | none => rfl
  | some set =>
    obtain ⟨onThen, onCatch, onFinally⟩ := set
    cases onCatch <;> rfl

namespace CallbacksKept

variable {ids : List String} {callbacks : Option CallbackSet} {fired : List Callback}

theorem fireCatch (kept : CallbacksKept ids callbacks fired) (someFailed : ids ≠ []) :
    CallbacksKept ids (Queue.fireCatch callbacks).1 (fired ++ (Queue.fireCatch callbacks).2) := by
  cases kept with
  | untouched | caught => exact .caught someFailed
  | succeeded none => exact .succeeded none
  | failedUncaught => exact .failedUncaught someFailed
  | failed => exact .failed someFailed

theorem fireCompletion (kept : CallbacksKept ids callbacks fired)
    (notYet : fired.count .onFinally = 0) {record : BatchRecord}
    (sameFailed : record.failedJobs = ids.length) :
    CallbacksKept ids (Queue.fireCompletion record callbacks).1
      (fired ++ (Queue.fireCompletion record callbacks).2) ∧
      (fired ++ (Queue.fireCompletion record callbacks).2).count .onFinally = 1 := by
  have noneFailed : record.failedJobs = 0 ↔ ids = [] := by
    rw [sameFailed]
    simp
  cases kept with
  | untouched =>
    by_cases none : ids = []
    · simp only [Queue.fireCompletion, noneFailed, none]
      exact ⟨.succeeded rfl, rfl⟩
    · simp only [Queue.fireCompletion, noneFailed, none]
      exact ⟨.failedUncaught none, rfl⟩
  | caught someFailed =>
    simp only [Queue.fireCompletion, noneFailed, someFailed]
    exact ⟨.failed someFailed, rfl⟩
  | succeeded | failedUncaught | failed => simp at notYet

theorem appended (kept : CallbacksKept ids callbacks fired) (notYet : fired.count .onFinally = 0)
    {longer : List String} (someFailed : longer ≠ []) : CallbacksKept longer callbacks fired := by
  cases kept with
  | untouched => exact .untouched
  | caught => exact .caught someFailed
  | succeeded | failedUncaught | failed => simp at notYet

theorem fired_of_finally (kept : CallbacksKept ids callbacks fired)
    (called : fired.count .onFinally = 1) :
    (ids = [] → fired = [.onThen, .onFinally]) ∧
    (ids ≠ [] → fired = [.onFinally] ∨ fired = [.onCatch, .onFinally]) := by
  cases kept with
  | untouched | caught => simp at called
  | succeeded none => exact ⟨fun _ => rfl, fun someFailed => (someFailed none).elim⟩
  | failedUncaught someFailed => exact ⟨fun none => (someFailed none).elim, fun _ => .inl rfl⟩
  | failed someFailed => exact ⟨fun none => (someFailed none).elim, fun _ => .inr rfl⟩

end CallbacksKept

/-- The batch finishes once, after the last outcome, and calls back once. -/
structure Completed (codec : Codec (List String) Text) (total : Nat)
    (state : State Text) : Prop where
  drained : state.row.finishedAt.isSome = true → state.row.pendingJobs ≤ 0
  winners : state.winners = if state.row.finishedAt.isSome then 1 else 0
  completion : state.reports.countP completingCall + state.fired.count .onFinally = state.winners
  callbacks : CallbacksKept (failedIds codec state.row) state.callbacks state.fired
  last : state.row.pendingJobs ≤ 0 → state.row.finishedAt = none → 0 < total →
    ∃ report ∈ state.reports, finishingCall report = true

namespace Completed

variable {codec : Codec (List String) Text} {parseTs : String → Option Instant} {total : Nat}
  {state : State Text}

theorem initial (codec : Codec (List String) Text) (total : Nat) :
    Completed codec total (State.initial codec total) where
  drained := by
    simp [State.initial, createBatch]
  winners := rfl
  completion := rfl
  callbacks := .untouched
  last := by
    intro drained _ positive
    simp only [State.initial, createBatch] at drained
    omega

variable {index : Nat} {report next : Report Text}

private theorem last_of_set (completed : Completed codec total state)
    (present : state.reports[index]? = some report)
    (finishing : state.row.pendingJobs ≤ 0 → state.row.finishedAt = none →
      finishingCall report = true → finishingCall next = true)
    (drained : state.row.pendingJobs ≤ 0) (unfinished : state.row.finishedAt = none)
    (positive : 0 < total) :
    ∃ report ∈ state.reports.set index next, finishingCall report = true := by
  obtain ⟨other, member, isFinishing⟩ := completed.last drained unfinished positive
  by_cases same : other = report
  · subst same
    exact ⟨next, Parties.mem_set_self_of_getElem? present next,
      finishing drained unfinished isFinishing⟩
  · exact ⟨other, Parties.mem_set_of_mem present member same next, isFinishing⟩

theorem move (completed : Completed codec total state)
    (present : state.reports[index]? = some report)
    (sameCompleting : completingCall next = completingCall report) (finishing :
      state.row.pendingJobs ≤ 0 → state.row.finishedAt = none → finishingCall report = true →
      finishingCall next = true) :
    Completed codec total { state with reports := state.reports.set index next } where
  drained := completed.drained
  winners := completed.winners
  completion := by
    have moved := Parties.countP_set_add present completingCall next
    have completion := completed.completion
    rw [sameCompleting] at moved
    simp only
    omega
  callbacks := completed.callbacks
  last := completed.last_of_set present finishing

theorem drained_of_finally (completed : Completed codec total state)
    (called : state.fired.count .onFinally ≠ 0) : state.row.pendingJobs ≤ 0 := by
  refine completed.drained ?_
  by_contra unfinished
  have winners := completed.winners
  have completion := completed.completion
  simp only [unfinished, ↓reduceIte] at winners
  omega

theorem finally_not_called (completed : Completed codec total state)
    (positive : 0 < state.row.pendingJobs) : state.fired.count .onFinally = 0 := by
  by_contra called
  have drained := completed.drained_of_finally called
  omega

theorem record (completed : Completed codec total state) {row : BatchRow Text}
    (present : state.reports[index]? = some report) (positive : 0 < state.row.pendingJobs)
    (sameFinished : row.finishedAt = state.row.finishedAt)
    (notCompleting : completingCall report = false)
    (nextNotCompleting : completingCall next = false) (finishing : finishingCall next = true)
    (ids : failedIds codec row = failedIds codec state.row ∨ failedIds codec row ≠ []) :
    Completed codec total { state with row := row, reports := state.reports.set index next } where
  drained := by
    intro finished
    have drained := completed.drained (sameFinished ▸ finished)
    omega
  winners := by
    rw [sameFinished]
    exact completed.winners
  completion := by
    have moved := Parties.countP_set_add present completingCall next
    have completion := completed.completion
    rw [notCompleting, nextNotCompleting] at moved
    simp only
    omega
  callbacks := by
    rcases ids with same | someFailed
    · rw [same]
      exact completed.callbacks
    · exact completed.callbacks.appended (completed.finally_not_called positive) someFailed
  last := by
    intro _ _ _
    exact ⟨next, Parties.mem_set_self_of_getElem? present next, finishing⟩

theorem fireCatch (completed : Completed codec total state)
    (someFailed : failedIds codec state.row ≠ []) : Completed codec total
      { state with
        callbacks := (Queue.fireCatch state.callbacks).1
        fired := state.fired ++ (Queue.fireCatch state.callbacks).2 } where
  drained := completed.drained
  winners := completed.winners
  completion := by
    have count : (state.fired ++ (Queue.fireCatch state.callbacks).2).count
          .onFinally =
        state.fired.count .onFinally := by
      rw [List.count_append, fireCatch_no_finally, Nat.add_zero]
    rw [count]
    exact completed.completion
  callbacks := completed.callbacks.fireCatch someFailed
  last := completed.last

theorem finish (completed : Completed codec total state)
    (present : state.reports[index]? = some report) (notCompleting : completingCall report = false)
    (nextCompleting : completingCall next = true) (drained : state.row.pendingJobs ≤ 0)
    (unfinished : state.row.finishedAt = none) (now : String) :
    Completed codec total
      { state with
        row := { state.row with finishedAt := some now }
        reports := state.reports.set index next
        winners := state.winners + 1 } := by
  have winners := completed.winners
  simp only [unfinished] at winners
  have completion := completed.completion
  have moved := Parties.countP_set_add present completingCall next
  rw [notCompleting, nextCompleting] at moved
  simp only [Bool.false_eq_true, ↓reduceIte] at moved
  exact
    { drained := fun _ => drained
      winners := by simp [winners]
      completion := by
        simp only
        omega
      callbacks := completed.callbacks
      last := by simp }

theorem complete (completed : Completed codec total state)
    (present : state.reports[index]? = some report) (isCompleting : completingCall report = true)
    (notFinishing : finishingCall report = false)
    (nextNotCompleting : completingCall next = false) {record : BatchRecord}
    (sameFailed : record.failedJobs = ((failedIds codec state.row).length : Int)) :
    Completed codec total
      { state with
        callbacks := (fireCompletion record state.callbacks).1
        reports := state.reports.set index next
        fired := state.fired ++ (fireCompletion record state.callbacks).2 } := by
  have moved := Parties.countP_set_add present completingCall next
  rw [isCompleting, nextNotCompleting] at moved
  simp only [↓reduceIte, Bool.false_eq_true] at moved
  have winners := completed.winners
  have atMostOne : state.winners ≤ 1 := by
    rw [winners]
    split <;> omega
  have completion := completed.completion
  have notYet : state.fired.count .onFinally = 0 := by omega
  obtain ⟨kept, count⟩ := completed.callbacks.fireCompletion notYet sameFailed
  exact
    { drained := completed.drained
      winners := completed.winners
      completion := by
        simp only
        omega
      callbacks := kept
      last := completed.last_of_set present (by simp [notFinishing]) }

theorem move_of_moves [DecidableEq Text] (completed : Completed codec total state)
    (present : state.reports[index]? = some report) {phase : Phase Text}
    (moves : Moves codec parseTs state.row report.phase phase) :
    Completed codec total
      { state with reports := state.reports.set index { report with phase := phase } } := by
  obtain ⟨outcome, recorded, before⟩ := report
  refine completed.move present ?_ fun drained unfinished finishing => ?_
  · cases moves with
    | conflict => split <;> rfl
    | settled =>
      unfold afterSettled
      split <;> rfl
    | _ => rfl
  · cases moves with
    | drained | selected | conflict | missed | claimed | unclaimed => cases finishing
    | reselected | found =>
      simp [finishingCall, batchFromRow, drained, unfinished, BatchRecord.isFinished]
    | settled =>
      simp only [finishingCall, Bool.and_eq_true, decide_eq_true_eq, Bool.not_eq_true']
        at finishing
      simp [finishingCall, afterSettled, finishing]
    | lost finished => exact (finished unfinished).elim

end Completed

variable {codec : Codec (List String) Text} {parseTs : String → Option Instant} {total : Nat}

/-- Every action keeps the completion single. -/
theorem completed_step [DecidableEq Text] {state after : State Text} {action : Action}
    (counted : Counted codec total state) (completed : Completed codec total state)
    (taken : step? codec parseTs state action = some after) : Completed codec total after := by
  cases step_cases taken with
  | report outcome =>
    have notCompleting : completingCall (Report.start outcome : Report Text) = false := by
      cases outcome <;> rfl
    refine { completed with completion := ?_, last := ?_ }
    · simpa [notCompleting] using completed.completion
    · intro drained unfinished positive
      obtain ⟨report, member, finishing⟩ := completed.last drained unfinished positive
      exact ⟨report, List.mem_append_left _ member, finishing⟩
  | cancel now =>
    unfold cancelUpdate
    split
    · exact { completed with }
    · exact completed
  | move present moves => exact completed.move_of_moves present moves
  | recordFailure present phase positive =>
    refine completed.record present positive rfl ?_ rfl rfl (.inr ?_)
    · simp [completingCall, phase]
    · simp [failedIds]
  | recordSuccess present phase positive =>
    refine completed.record present positive rfl ?_ rfl rfl (.inl rfl)
    simp [completingCall, phase]
  | fireCatch present phase =>
    have knows := counted.knows_at present
    simp only [PhaseKnows, phase] at knows
    refine (completed.move present ?_ ?_).fireCatch (knows.2.2 trivial)
    · unfold afterSettled
      split <;> simp [completingCall, phase]
    · intro _ _ finishing
      simp only [finishingCall, phase, Bool.and_eq_true,
        decide_eq_true_eq, Bool.not_eq_true'] at finishing
      simp [finishingCall, afterSettled, finishing]
  | claim present phase unfinished =>
    have knows := counted.knows_at present
    simp only [PhaseKnows, phase] at knows
    refine completed.finish present ?_ rfl knows.2 unfinished _
    simp [completingCall, phase]
  | complete present phase =>
    have knows := counted.knows_at present
    simp only [PhaseKnows, phase] at knows
    refine completed.complete present ?_ ?_ rfl (knows.2.2.trans counted.failedJobs)
    · simp [completingCall, phase]
    · simp [finishingCall, phase]

variable {state : State Text}

theorem invariant_of_reachableAlong [DecidableEq Text] (reached : ReachableAlong
      (step? codec parseTs) (ReportsWithin total) (State.initial codec total) state) :
    Counted codec total state ∧ Completed codec total state := by
  refine
    reached.invariant (fun state => Counted codec total state ∧ Completed codec total state) ?_ ?_
  · exact ⟨Counted.initial codec total, Completed.initial codec total⟩
  · intro before action after holds within taken
    exact ⟨counted_step holds.1 within taken, completed_step holds.1 holds.2 taken⟩

/-! ## When every call has returned -/

def AllDone (state : State Text) : Prop := ∀ report ∈ state.reports, report.phase = .done

theorem finished_of_allDone (counted : Counted codec total state)
    (completed : Completed codec total state) (allDone : AllDone state)
    (allReported : state.reports.length = total) (positive : 0 < total) :
    state.row.pendingJobs = 0 ∧ state.winners = 1 ∧ state.fired.count .onFinally = 1 := by
  have allRecorded : state.reports.countP Report.recorded = state.reports.length := by
    refine List.countP_eq_length.mpr fun report member => ?_
    have knows := counted.knows report member
    simpa only [PhaseKnows, allDone report member] using knows
  have drained : state.row.pendingJobs = 0 := by
    have pending := counted.pending
    omega
  have finished : state.row.finishedAt.isSome = true := by
    by_contra unfinished
    obtain ⟨report, member, finishing⟩ :=
      completed.last drained.le (by simpa using unfinished) positive
    simp [finishingCall, allDone report member] at finishing
  have noneCompleting : state.reports.countP completingCall = 0 := by
    refine List.countP_eq_zero.mpr fun report member => ?_
    simp [completingCall, allDone report member]
  have winners := completed.winners
  have completion := completed.completion
  simp only [finished, ↓reduceIte] at winners
  exact ⟨drained, winners, by omega⟩

theorem ids_of_allDone
    (counted : Counted codec total state) (allDone : AllDone state) (id : String) :
    (failedIds codec state.row).count id =
      state.reports.countP fun report => report.outcome == some id := by
  rw [counted.ids id]
  refine List.countP_congr fun report member => ?_
  have knows := counted.knows report member
  simp only [PhaseKnows, allDone report member] at knows
  simp [knows]

theorem ids_eq_nil_iff_of_allDone (counted : Counted codec total state) (allDone : AllDone state) :
    failedIds codec state.row = [] ↔ ∀ report ∈ state.reports, report.outcome = none := by
  constructor
  · intro none report member
    cases outcome : report.outcome with
    | none => rfl
    | some id =>
      have stored := ids_of_allDone counted allDone id
      rw [none] at stored
      have notCounted := List.countP_eq_zero.mp stored.symm report member
      simp [outcome] at notCounted
  · intro successes
    refine List.eq_nil_iff_forall_not_mem.mpr fun id member => ?_
    have stored := ids_of_allDone counted allDone id
    have positive := List.count_pos_iff.mpr member
    rw [stored, List.countP_pos_iff] at positive
    obtain ⟨report, reported, isId⟩ := positive
    simp [successes report reported] at isId

/-- Nine members fail; the last one loses its compare-and-swap eight times. -/
private def contendedRun : List Action :=
  (["f0", "f1", "f2", "f3", "f4", "f5", "f6", "f7", "f8"].map fun id => .report (some id)) ++
  ([0, 1, 2, 3, 4, 5, 6, 7].flatMap fun winner =>
    [.advance 8 "", .advance winner "", .advance winner "", .advance 8 ""]) ++
  [0, 1, 2, 3, 4, 5, 6, 7].flatMap fun winner => [.advance winner "", .advance winner ""]

private theorem contendedRun_accepted :
    ∃ state,
      runAlong? (step? (Codec.plain (List String)) fun _ => none) (ReportsWithin 9)
        (State.initial (Codec.plain (List String)) 9) contendedRun = some state ∧
      (∀ report ∈ state.reports, report.phase = .done ∨ report.phase = .gaveUp) ∧
      state.reports.length = 9 ∧ state.row.pendingJobs = 1 ∧ state.winners = 0 ∧
      "f8" ∉ failedIds (Codec.plain (List String)) state.row ∧
      ∃ report ∈ state.reports, report.outcome = some "f8" := by
  refine ⟨_, rfl, ?_⟩
  decide

private def epochTs (text : String) : Option Instant :=
  if text = "1970-01-01T00:00:00.000000Z" then some 0 else none

/-- One member fails and one succeeds, one after the other. -/
private def mixedRun : List Action :=
  [.report (some "6f1c"), .advance 0 "", .advance 0 "", .advance 0 "",
    .advance 0 "", .report none, .advance 1 "", .advance 1 "",
    .advance 1 "", .advance 1 "1970-01-01T00:00:00.000000Z",
    .advance 1 "", .advance 1 ""]

private theorem mixedRun_accepted :
    ∃ state,
      runAlong? (step? (Codec.plain (List String)) epochTs) (ReportsWithin 2)
          (State.initial (Codec.plain (List String)) 2) mixedRun = some state ∧
        (∀ report ∈ state.reports, report.phase = .done) ∧ state.reports.length = 2 ∧
        ∃ report ∈ state.reports, report.outcome ≠ none := by
  refine ⟨_, rfl, ?_⟩
  decide

end Rustasea.Queue.Batch
