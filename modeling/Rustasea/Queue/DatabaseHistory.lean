import Rustasea.Library.CivilDate
import Rustasea.Queue.DriverCalls
import Rustasea.Queue.RowClaim

namespace Rustasea.Queue.DatabaseDriver

open List

open CalendarTime (rfc3339 IsPlain le_of_rfc3339_le)
open DelayedQueue

/-!
# The database driver as a delayed multi-queue

The rows that are not reserved are the jobs that wait.  A pop compares the text
of `available_at` with the text of the clock, so that a job is due by the
microsecond of the clock where both are instants of the years from 0 to 9999.
-/

variable {Json : Type}

/-- The database driver; the polls of a longer pop are pops of one poll. -/
def stored (codec : Codec (JobPayload Json) String) :
    StoredQueue Json (Option (ClaimStatement × String)) (JobsTable String) where
  push := fun uuid now payload table => (push codec rfc3339 uuid now payload table).getD table
  pop := fun queue now fault table =>
    let outcome := pop codec queue [{ now := rfc3339 now, fault }] table
    (outcome.1.toOption.join, outcome.2)

def noRows : JobsTable String := SqlTable.empty JobRow.id

/-- `DateTime::timestamp_micros`. -/
def timestampMicros (instant : Instant) : Int := instant / 1000

/-- The clock of a call and the instant of its payload have plain years. -/
def IsPlainCall {Fault : Type} : DriverCall Json Fault → Prop
  | .push _ _ payload => ∀ instant ∈ payload.availableAt, IsPlain instant
  | .pop _ now _ => IsPlain now

instance {Fault : Type} : DecidablePred (IsPlainCall : DriverCall Json Fault → Prop)
  | .push _ _ payload => inferInstanceAs (Decidable (∀ instant ∈ payload.availableAt, _))
  | .pop _ now _ => inferInstanceAs (Decidable (IsPlain now))

/-! ## Rows -/

/-- What the row of a pushed payload holds, and keeps while it waits. -/
structure IsRowOf (codec : Codec (JobPayload Json) String) (payload : JobPayload Json)
    (row : JobRow String) : Prop where
  text : row.payload = some (codec.encode payload)
  queue : row.queue = payload.queue
  attempts : row.attempts = some (payload.attempts.val : Int)
  available : ∀ instant ∈ payload.availableAt, IsPlain instant ∧ row.availableAt = rfc3339 instant

def freeRows (table : JobsTable String) : List (JobRow String) :=
  table.rows.filter fun row => row.reservedAt.isNone

def rowEntry (codec : Codec (JobPayload Json) String) (row : JobRow String) :
    Option (Entry String (Option Instant) (JobPayload Json)) :=
  row.payload.bind fun text => (codec.decode text).toOption.map JobPayload.entry

theorem rowEntry_eq {codec : Codec (JobPayload Json) String} {payload : JobPayload Json}
    {row : JobRow String} (isRow : IsRowOf codec payload row) :
    rowEntry codec row = some payload.entry := by
  unfold rowEntry
  rw [isRow.text, Option.bind_some, codec.decode_encode]
  rfl

/-- The rows were pushed, and the free ones are jobs that wait. -/
structure Holds (codec : Codec (JobPayload Json) String) (table : JobsTable String)
    (waiting : List (Entry String (Option Instant) (JobPayload Json))) :
    Prop where
  rows : ∀ row ∈ table, ∃ payload, IsRowOf codec payload row
  covered : ((freeRows table).map (rowEntry codec)).Subperm (waiting.map some)

section Keeping

variable {codec : Codec (JobPayload Json) String} {table : JobsTable String}
  {waiting : List (Entry String (Option Instant) (JobPayload Json))}

theorem Holds.push (holds : Holds codec table waiting) (uuid : String) (now : Instant)
    {payload : JobPayload Json} (arePlain : ∀ instant ∈ payload.availableAt, IsPlain instant) :
    Holds codec ((push codec rfc3339 uuid now payload table).getD table)
      (payload.entry :: waiting) := by
  have isRow : IsRowOf codec payload (pushRow codec rfc3339 uuid now payload) := by
    refine ⟨rfl, rfl, rfl, fun instant isAvailable => ?_⟩
    refine ⟨arePlain instant isAvailable, ?_⟩
    have isInstant : payload.availableAt = some instant := isAvailable
    show rfc3339 (payload.availableAt.getD now) = rfc3339 instant
    rw [isInstant, Option.getD_some]
  unfold Queue.push
  cases inserted : table.insert? (pushRow codec rfc3339 uuid now payload) with
  | none => exact ⟨holds.rows, holds.covered.trans (sublist_cons_self _ _).subperm⟩
  | some after =>
    refine ⟨fun row isIn => ?_, ?_⟩
    · rcases (SqlTable.mem_of_insert? inserted).mp isIn with wasIn | rfl
      · exact holds.rows row wasIn
      · exact ⟨payload, isRow⟩
    · unfold freeRows
      rw [Option.getD_some, SqlTable.rows_of_insert? inserted,
        filter_append, filter_cons_of_pos rfl, filter_nil,
        map_append, map_cons, map_nil, rowEntry_eq isRow]
      refine perm_append_comm.subperm.trans ?_
      exact (subperm_cons _).mpr holds.covered

variable {id : String}

theorem id_ne_of_split {before behind : List (JobRow String)} {row other : JobRow String}
    (isSplit : table.rows = before ++ row :: behind)
    (isRow : row.id = some id) (isOther : other ∈ before ++ behind) : other.id ≠ some id := by
  have distinct := table.primaryKey
  rw [isSplit, filterMap_append, filterMap_cons_some isRow,
    nodup_middle, nodup_cons, ← filterMap_append] at distinct
  exact fun same => distinct.1 (mem_filterMap.mpr ⟨other, isOther, same⟩)

theorem freeRows_claimUpdate {row : JobRow String} (now : String) (isIn : row ∈ table)
    (isFree : row.reservedAt = none) (isRow : row.id = some id) :
    (row :: freeRows (claimUpdate id now table)).Perm (freeRows table) := by
  obtain ⟨before, behind, isSplit⟩ := append_of_mem isIn
  have keeps (other : JobRow String) (isOther : other ∈ before ++ behind) :
      (if JobRow.reservable id other = true then
          { other with reservedAt := some now }
        else other) = other := by
    have differs := id_ne_of_split isSplit isRow isOther
    rw [if_neg (by simp [JobRow.reservable, differs])]
  have beforeKept : before.map (fun other =>
      if JobRow.reservable id other = true then { other with reservedAt := some now }
      else other) = before := by
    conv_rhs => rw [← map_id before]
    exact map_congr_left fun other isOther => keeps other (mem_append_left _ isOther)
  have behindKept : behind.map (fun other =>
      if JobRow.reservable id other = true then { other with reservedAt := some now }
      else other) = behind := by
    conv_rhs => rw [← map_id behind]
    exact map_congr_left fun other isOther => keeps other (mem_append_right _ isOther)
  have isReservable : JobRow.reservable id row = true := by simp [JobRow.reservable, isRow, isFree]
  unfold freeRows claimUpdate SqlTable.update
  simp only
  rw [isSplit, map_append, map_cons, beforeKept, behindKept,
    if_pos isReservable, filter_append, filter_append,
    filter_cons_of_neg (by simp), filter_cons_of_pos (by simp [isFree])]
  exact perm_middle.symm

theorem Holds.rows_claimUpdate (holds : Holds codec table waiting) (id now : String) :
    ∀ row ∈ claimUpdate id now table, ∃ payload, IsRowOf codec payload row := by
  intro row isIn
  rcases Workers.mem_claimUpdate.mp isIn with ⟨wasIn, -⟩ | ⟨before, wasIn, -, rfl⟩
  · exact holds.rows row wasIn
  · obtain ⟨payload, isRow⟩ := holds.rows before wasIn
    exact ⟨payload, isRow.text, isRow.queue, isRow.attempts, isRow.available⟩

/--
A pop of one poll that hands out a payload takes a job that waits under the
queue's name and is due; another one takes none.
-/
theorem Holds.pop (holds : Holds codec table waiting) (queue : String) {now : Instant}
    (isPlain : IsPlain now) (fault : Option (ClaimStatement × String)) :
    (∀ payload, (pop codec queue [{ now := rfc3339 now, fault }] table).1 = .ok (some payload) →
      ∃ entry rest, entry.job = payload.withoutId ∧ (entry :: rest).Perm waiting ∧
        entry.queue = queue ∧
        (∀ instant ∈ entry.due, timestampMicros instant ≤ timestampMicros now) ∧
        Holds codec (pop codec queue [{ now := rfc3339 now, fault }] table).2 rest) ∧
      Holds codec (pop codec queue [{ now := rfc3339 now, fault }] table).2 waiting := by
  rw [pop_singleton]
  rcases claim_cases codec queue { now := rfc3339 now, fault } table with
    ⟨sameTable, handsNothing⟩ | ⟨row, id, isIn, isAvailable, isRow, claimed⟩
  · rw [sameTable]
    exact ⟨fun payload handed => absurd handed (handsNothing payload), holds⟩
  · obtain ⟨pushed, isPushed⟩ := holds.rows row isIn
    have isFree := JobRow.reservedAt_of_available isAvailable
    have ⟨isQueue, isTime⟩ : row.queue = queue ∧ row.availableAt ≤ rfc3339 now := by
      simp only [JobRow.available, Bool.and_eq_true, decide_eq_true_eq] at isAvailable
      exact ⟨isAvailable.1.1, isAvailable.2⟩
    have taken := freeRows_claimUpdate (rfc3339 now) isIn isFree isRow
    have isCovered : (some pushed.entry :: (freeRows (claimUpdate id (rfc3339 now) table)).map
        (rowEntry codec)).Subperm (waiting.map some) := by
      have covered := (taken.map (rowEntry codec)).subperm.trans holds.covered
      rw [map_cons, rowEntry_eq isPushed] at covered
      exact covered
    obtain ⟨rest, isWaiting, isRest⟩ := exists_perm_of_cons_subperm isCovered
    have holdsRest : Holds codec (claimUpdate id (rfc3339 now) table) rest :=
      ⟨holds.rows_claimUpdate id (rfc3339 now), isRest⟩
    rw [claimed]
    refine ⟨fun payload handed => ?_, ?_⟩
    · rw [handOut_claimedFrom isPushed.text (codec.decode_encode pushed)]
        at handed
      cases handed
      refine ⟨pushed.entry, rest, ?_, isWaiting, ?_, ?_, holdsRest⟩
      · have sameAttempts : (row.attempts.bind U32.tryFrom).getD pushed.attempts =
            pushed.attempts := by
          rw [isPushed.attempts, Option.bind_some, U32.tryFrom_val, Option.getD_some]
        rw [sameAttempts]
        rfl
      · exact isPushed.queue.symm.trans isQueue
      · intro instant isDue
        obtain ⟨isInstant, isText⟩ := isPushed.available instant isDue
        rw [isText] at isTime
        exact le_of_rfc3339_le isInstant isPlain isTime
    · exact ⟨holdsRest.rows, isRest.trans
        (subperm_map some ((sublist_cons_self _ _).subperm.trans isWaiting.subperm))⟩

end Keeping

variable (codec : Codec (JobPayload Json) String)

theorem holds_noRows : Holds codec noRows [] where
  rows := fun _ isIn => absurd isIn SqlTable.not_mem_empty
  covered := nil_subperm

theorem accepts_micros {calls : List (DriverCall Json (Option (ClaimStatement × String)))}
    (arePlain : ∀ call ∈ calls, IsPlainCall call) :
    Accepts (keptApart String timestampMicros) ((stored codec).history noRows calls) := by
  refine accepts_history (fun _ => ()) (fun _ => Holds codec) ?_
    (fun _ => holds_noRows codec) ?_ arePlain
  · rintro - table waiting call holds - isPlain
    cases call with
    | push uuid now payload =>
      exact ⟨_, Run.single (.put waiting payload.entry), holds.push uuid now isPlain⟩
    | pop queue now fault =>
      obtain ⟨hands, keeps⟩ := holds.pop queue isPlain fault
      refine StoredQueue.run_pop (fun payload popped => ?_) fun _ => keeps
      obtain ⟨entry, rest, isJob, isWaiting, isQueue, isDue, holdsRest⟩ :=
        hands payload (eq_ok_of_join popped)
      exact ⟨entry, rest, isJob, isWaiting, isQueue.symm, isDue, holdsRest⟩
  · exact pairwise_of_forall fun _ _ => trivial

end Rustasea.Queue.DatabaseDriver
