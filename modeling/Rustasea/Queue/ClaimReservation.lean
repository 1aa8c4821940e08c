import Rustasea.Queue.DatabaseDriver

namespace Rustasea.Queue

open Option

/-!
# Reservations of calls that hand out no job

The claim transaction commits the reservation before the payload text is
decoded.  This module classifies what one poll finds in the table and shows on
which tables, and along which polls, a call without a job leaves every
reservation as it was.
-/

variable {Json Text : Type}

/-- The reservation columns of every row, in table order. -/
def reservations (table : JobsTable Text) : List (Option String × Option String × Option Int) :=
  table.rows.map fun row => (row.id, row.reservedAt, row.attempts)

/-- Whether a call returned `Ok(Some(payload))`. -/
@[grind =]
def handsOut (result : Except QueueError (Option (JobPayload Json))) : Bool :=
  match result with
  | .ok (some _) => true
  | _ => false

/-- A call that hands out no job changes no reservation. -/
def KeepsReservations (before : JobsTable Text)
    (outcome : Except QueueError (Option (JobPayload Json)) × JobsTable Text) : Prop :=
  handsOut outcome.1 = false → reservations outcome.2 = reservations before

/-- The candidate the claim `SELECT` asks for: first available row in order. -/
def OldestAvailable (queue now : String) (table : JobsTable Text) (row : JobRow Text) : Prop :=
  row ∈ table ∧ row.available queue now = true ∧
      ∀ other ∈ table, other.available queue now = true → row.orderKey ≤ other.orderKey

/-- The payload column holds a text that decodes as an envelope. -/
def JobRow.readable (codec : Codec (JobPayload Json) Text) (row : JobRow Text) : Bool :=
  match row.payload with
  | none => false
  | some text => (codec.decode text).isOk

/-! ## The candidate row -/

variable {queue now : String} {table : JobsTable Text} {row : JobRow Text}

theorem oldestAvailable_of_claimSelect (selected : claimSelect queue now table = some row) :
    OldestAvailable queue now table row := by
  have member := List.argmin_mem selected
  rw [List.mem_filter] at member
  refine ⟨member.1, member.2, fun other otherMember available => ?_⟩
  exact List.le_of_mem_argmin (List.mem_filter.mpr ⟨otherMember, available⟩) selected

theorem claimSelect_isSome (member : row ∈ table) (available : row.available queue now = true) :
    ∃ candidate, claimSelect queue now table = some candidate := by
  cases selected : claimSelect queue now table with
  | some candidate => exact ⟨candidate, rfl⟩
  | none =>
    have empty := List.argmin_eq_none.mp selected
    have listed : row ∈ table.rows.filter (JobRow.available queue now) :=
      List.mem_filter.mpr ⟨member, available⟩
    rw [empty] at listed
    exact (List.not_mem_nil listed).elim

theorem JobRow.reservedAt_of_available
    (available : row.available queue now = true) : row.reservedAt = none := by
  simp only [JobRow.available, Bool.and_eq_true, isNone_iff_eq_none] at available
  exact available.1.2

theorem OldestAvailable.id_eq {first second : JobRow Text}
    (firstOldest : OldestAvailable queue now table first)
    (secondOldest : OldestAvailable queue now table second) : first.id = second.id := by
  have sameKey : first.orderKey = second.orderKey := le_antisymm
      (firstOldest.2.2 second secondOldest.1 secondOldest.2.1)
      (secondOldest.2.2 first firstOldest.1 firstOldest.2.1)
  have sameRest := (Prod.mk.inj (toLex.injective sameKey)).2
  exact (Prod.mk.inj (toLex.injective sameRest)).2

theorem OldestAvailable.eq_of_claimSelect {queue now id : String} {row candidate : JobRow Text}
    (oldest : OldestAvailable queue now table row) (rowId : row.id = some id)
    (selected : claimSelect queue now table = some candidate) : row = candidate := by
  have candidateOldest := oldestAvailable_of_claimSelect selected
  have candidateId : candidate.id = some id := by rw [← oldest.id_eq candidateOldest, rowId]
  exact SqlTable.eq_of_key oldest.1 candidateOldest.1 rowId candidateId

theorem affected_of_claimSelect {queue now id : String}
    (selected : claimSelect queue now table = some row)
    (rowId : row.id = some id) : table.affected (JobRow.reservable id) ≠ 0 := by
  have oldest := oldestAvailable_of_claimSelect selected
  refine Nat.pos_iff_ne_zero.mp (SqlTable.affected_pos.mpr ?_)
  refine ⟨row, oldest.1, ?_⟩
  simp [JobRow.reservable, rowId, JobRow.reservedAt_of_available oldest.2.1]

/-! ## What one poll finds -/

/-- The ways one execution of `claim` can go. -/
inductive Finding where
  | failure
  | nothing
  | undecodable (id : String)
  | nullPayload (id : String)
  | job (id : String)

/-- What a poll finds, read off the table and the store's failure. -/
@[grind =] def pollFinding (codec : Codec (JobPayload Json) Text) (queue : String) (poll : Poll)
    (table : JobsTable Text) : Finding :=
  if (poll.failure .select).isSome then .failure
  else
    match (claimSelect queue poll.now table).bind (fun row => row.id.map fun id => (id, row)) with
    | none =>
      if (poll.failure .commit).isSome then .failure else .nothing
    | some (id, row) =>
      if poll.fault.isSome then .failure
      else if row.payload.isNone then .nullPayload id
      else if row.readable codec then .job id
      else .undecodable id

@[grind =] def FindingLeadsTo (table : JobsTable Text) (now : String)
    (outcome : Except QueueError (Option (JobPayload Json)) × JobsTable Text) : Finding → Prop
  | .failure => ∃ error, outcome = (.error error, table)
  | .nothing => outcome = (.ok none, table)
  | .undecodable id => ∃ error, outcome = (.error error, claimUpdate id now table)
  | .nullPayload id => outcome = (.ok none, claimUpdate id now table)
  | .job id => ∃ payload, outcome = (.ok (some payload), claimUpdate id now table)

variable {poll : Poll}

private theorem failure_eq_none (noFault : poll.fault = none) (statement : ClaimStatement) :
    poll.failure statement = none := by
  simp [Poll.failure, noFault]

private theorem exists_failure (faulty : poll.fault ≠ none) :
    ∃ statement error, poll.failure statement = some error := by
  cases fault : poll.fault with
  | none => exact (faulty fault).elim
  | some failed => exact ⟨failed.1, .storeUnavailable failed.2, by simp [Poll.failure, fault]⟩

variable {queue id : String}

private theorem claimBody_of_candidate (selectWorks : poll.failure .select = none)
    (selected : claimSelect queue poll.now table = some row) (rowId : row.id = some id) :
    claimBody queue poll table =
      match poll.failure .update with
      | some error => (.error error, table)
      | none =>
        (.ok (claimedFrom id row), claimUpdate id poll.now table) := by
  have touched := affected_of_claimSelect selected rowId
  cases fault : poll.failure .update <;>
    simp [claimBody, selectWorks, selected, rowId, if_neg touched, fault]

private theorem claimBody_of_no_candidate
    {queue : String} (selectWorks : poll.failure .select = none)
    (noCandidate : ∀ row, claimSelect queue poll.now table = some row → row.id = none) :
    claimBody queue poll table = (.ok none, table) := by
  cases selected : claimSelect queue poll.now table with
  | none => simp [claimBody, selectWorks, selected]
  | some row => simp [claimBody, selectWorks, selected, noCandidate row selected]

theorem claim_leadsTo (codec : Codec (JobPayload Json) Text) (queue : String) (poll : Poll)
    (table : JobsTable Text) :
    FindingLeadsTo table poll.now (claim codec queue poll table)
      (pollFinding codec queue poll table) := by
  unfold pollFinding claim transaction
  cases selectFailure : poll.failure .select with
  | some error => simp [claimBody, selectFailure, FindingLeadsTo]
  | none =>
    cases candidate :
        (claimSelect queue poll.now table).bind (fun row => row.id.map fun id => (id, row)) with
    | none =>
      rw [claimBody_of_no_candidate selectFailure]
      · cases commitFailure : poll.failure .commit <;>
          simp [FindingLeadsTo]
      · intro row selected
        simpa [selected] using candidate
    | some found =>
      obtain ⟨row, selected, id, rowId, rfl⟩ : ∃ row, claimSelect queue poll.now table = some row ∧
          ∃ id, row.id = some id ∧ (id, row) = found := by
        simpa only [bind_eq_some_iff, map_eq_some_iff] using candidate
      rw [claimBody_of_candidate selectFailure selected rowId]
      by_cases faulty : poll.fault = none
      · simp only [failure_eq_none faulty, faulty, claimedFrom]
        cases payload : row.payload with
        | none => simp [FindingLeadsTo]
        | some text =>
          cases decoded : codec.decode text <;>
            simp [payload, decoded, FindingLeadsTo, JobRow.readable, decodeClaimed, Except.toBool,
              Except.map]
      · obtain ⟨statement, error, failed⟩ := exists_failure faulty
        have isFailure : poll.fault.isSome = true := isSome_iff_ne_none.mpr faulty
        cases statement with
        | select => simp [selectFailure] at failed
        | update => simp [failed, isFailure, FindingLeadsTo]
        | commit =>
          cases updateFailure : poll.failure .update <;> simp [failed, isFailure, FindingLeadsTo]

/-! ## Reserved rows -/

def reservedRows (table : JobsTable Text) : Nat := table.affected fun row => row.reservedAt.isSome

private theorem reservedRows_eq {first second : JobsTable Text}
    (same : reservations first = reservations second) :
    reservedRows first = reservedRows second := by
  have counted : ∀ table : JobsTable Text,
      reservedRows table = (reservations table).countP fun columns => columns.2.1.isSome := by
    intro table
    simp only [reservations, List.countP_map]
    rfl
  rw [counted, counted, same]

private theorem reservedRows_claimUpdate (id now : String) (table : JobsTable Text) :
    reservedRows (claimUpdate id now table) =
      reservedRows table + table.affected (JobRow.reservable id) := by
  simp only [reservedRows, claimUpdate, SqlTable.affected, SqlTable.update, List.countP_map]
  induction table.rows with
  | nil => rfl
  | cons row rest ih =>
    simp only [List.countP_cons]
    by_cases chosen : row.reservable id = true
    · have free : row.reservedAt = none := by
        simp only [JobRow.reservable, Bool.and_eq_true, isNone_iff_eq_none] at chosen
        exact chosen.2
      simp [chosen, free]
      omega
    · simp [chosen]
      omega

variable {codec : Codec (JobPayload Json) Text}

private theorem touched_of_pollFinding
    (reserves : pollFinding codec queue poll table = .undecodable id ∨
      pollFinding codec queue poll table = .nullPayload id ∨
      pollFinding codec queue poll table = .job id) :
    table.affected (JobRow.reservable id) ≠ 0 := by
  unfold pollFinding at reserves
  cases candidate :
      (claimSelect queue poll.now table).bind (fun row => row.id.map fun id => (id, row)) with
  | none =>
    simp only [candidate] at reserves
    split_ifs at reserves <;> simp at reserves
  | some found =>
    obtain ⟨row, selected, rowId, hasId, rfl⟩ : ∃ row, claimSelect queue poll.now table = some row ∧
        ∃ id, row.id = some id ∧ (id, row) = found := by
      simpa only [bind_eq_some_iff, map_eq_some_iff] using candidate
    have sameId : rowId = id := by
      simp only [candidate] at reserves
      split_ifs at reserves <;> simp at reserves <;> exact reserves
    exact sameId ▸ affected_of_claimSelect selected hasId

private theorem reservedRows_lt
    (reserves : pollFinding codec queue poll table = .undecodable id ∨
      pollFinding codec queue poll table = .nullPayload id ∨
      pollFinding codec queue poll table = .job id) :
    reservedRows table < reservedRows (claimUpdate id poll.now table) := by
  have touched := touched_of_pollFinding reserves
  rw [reservedRows_claimUpdate]
  omega

private theorem reservedRows_le_claim
    (codec : Codec (JobPayload Json) Text) (queue : String) (poll : Poll) (table : JobsTable Text) :
    reservedRows table ≤ reservedRows (claim codec queue poll table).2 := by
  have leads := claim_leadsTo codec queue poll table
  cases finding : pollFinding codec queue poll table with
  | failure =>
    obtain ⟨error, outcome⟩ := finding ▸ leads
    rw [outcome]
  | nothing =>
    have outcome := finding ▸ leads
    rw [show claim codec queue poll table = _ from outcome]
  | undecodable id =>
    obtain ⟨error, outcome⟩ := finding ▸ leads
    rw [outcome]
    exact (reservedRows_lt (.inl finding)).le
  | nullPayload id =>
    have outcome := finding ▸ leads
    rw [show claim codec queue poll table = _ from outcome]
    exact (reservedRows_lt (.inr (.inl finding))).le
  | job id =>
    obtain ⟨payload, outcome⟩ := finding ▸ leads
    rw [outcome]
    exact (reservedRows_lt (.inr (.inr finding))).le

/-! ## Which calls keep every reservation -/

/--
The polls hand out a job: every poll before the one that does finds nothing or
a null payload.
-/
def pollsDeliver (codec : Codec (JobPayload Json) Text) (queue : String) :
    List Poll → JobsTable Text → Bool
  | [], _ => false
  | poll :: later, table =>
    match pollFinding codec queue poll table with
    | .failure | .undecodable _ => false
    | .job _ => true
    | .nothing => pollsDeliver codec queue later table
    | .nullPayload id => pollsDeliver codec queue later (claimUpdate id poll.now table)

/--
The polls keep the reservations or hand out a job: the first one that finds a
row finds a readable one, or a null payload that later polls make up for.
-/
@[grind =]
def pollsKeep (codec : Codec (JobPayload Json) Text) (queue : String) :
    List Poll → JobsTable Text → Bool
  | [], _ => true
  | poll :: later, table =>
    match pollFinding codec queue poll table with
    | .failure | .job _ => true
    | .undecodable _ => false
    | .nothing => pollsKeep codec queue later table
    | .nullPayload id => pollsDeliver codec queue later (claimUpdate id poll.now table)

private theorem reservedRows_le_pop (codec : Codec (JobPayload Json) Text) (queue : String)
    (polls : List Poll) (table : JobsTable Text) :
    reservedRows table ≤ reservedRows (pop codec queue polls table).2 := by
  induction polls generalizing table with
  | nil => exact le_refl _
  | cons poll later ih =>
    have step := reservedRows_le_claim codec queue poll table
    unfold pop
    generalize claim codec queue poll table = outcome at step ⊢
    rcases outcome with ⟨error | (_ | payload), after⟩
    · exact step
    · exact step.trans (ih after)
    · exact step

theorem handsOut_pop (codec : Codec (JobPayload Json) Text) (queue : String)
    (polls : List Poll) (table : JobsTable Text) :
    handsOut (pop codec queue polls table).1 = pollsDeliver codec queue polls table := by
  induction polls generalizing table with
  | nil => rfl
  | cons poll later ih =>
    have leads := claim_leadsTo codec queue poll table
    unfold pop pollsDeliver
    cases finding : pollFinding codec queue poll table with
    | failure | undecodable id =>
      obtain ⟨error, outcome⟩ := finding ▸ leads
      simp [outcome, handsOut]
    | nothing | nullPayload id =>
      have outcome : claim codec queue poll table = _ := finding ▸ leads
      simp [outcome, ih]
    | job id =>
      obtain ⟨payload, outcome⟩ := finding ▸ leads
      simp [outcome, handsOut]

private theorem keepsReservations_of_lt {before : JobsTable Text}
    {outcome : Except QueueError (Option (JobPayload Json)) × JobsTable Text}
    (more : reservedRows before < reservedRows outcome.2) :
    KeepsReservations before outcome ↔ handsOut outcome.1 = true := by
  constructor
  · intro keeps
    by_contra notHanded
    have same := reservedRows_eq (keeps (by simpa using notHanded))
    omega
  · intro handed notHanded
    simp [handed] at notHanded

theorem keepsReservations_pop_iff (codec : Codec (JobPayload Json) Text) (queue : String)
    (polls : List Poll) (table : JobsTable Text) :
    KeepsReservations table (pop codec queue polls table) ↔
      pollsKeep codec queue polls table = true := by
  induction polls generalizing table with
  | nil => simp [KeepsReservations, pop, pollsKeep]
  | cons poll later ih =>
    have leads := claim_leadsTo codec queue poll table
    unfold pop pollsKeep
    cases finding : pollFinding codec queue poll table with
    | failure =>
      obtain ⟨error, outcome⟩ := finding ▸ leads
      simp [outcome, KeepsReservations]
    | nothing =>
      have outcome : claim codec queue poll table = _ := finding ▸ leads
      simpa [outcome] using ih table
    | undecodable id =>
      obtain ⟨error, outcome⟩ := finding ▸ leads
      have more := reservedRows_lt (.inl finding)
      simp only [outcome]
      rw [keepsReservations_of_lt more]
      simp [handsOut]
    | nullPayload id =>
      have outcome : claim codec queue poll table = _ := finding ▸ leads
      have more := reservedRows_lt (.inr (.inl finding))
      simp only [outcome]
      rw [keepsReservations_of_lt (more.trans_le (reservedRows_le_pop _ _ _ _)), handsOut_pop]
    | job id =>
      obtain ⟨payload, outcome⟩ := finding ▸ leads
      simp [outcome, KeepsReservations, handsOut]

private theorem pollFinding_of_candidate (noFault : poll.fault = none)
    (selected : claimSelect queue poll.now table = some row) (rowId : row.id = some id) :
    pollFinding codec queue poll table =
      if row.payload.isNone then .nullPayload id
      else if row.readable codec then .job id
      else .undecodable id := by
  simp [pollFinding, failure_eq_none noFault, noFault, selected, rowId]

/-- One claim keeps the reservations unless it takes an unreadable row. -/
theorem keepsReservations_claim_iff
    (codec : Codec (JobPayload Json) Text) (queue : String) (poll : Poll) (table : JobsTable Text) :
    KeepsReservations table (claim codec queue poll table) ↔
      (poll.fault = none →
        ∀ row, OldestAvailable queue poll.now table row →
          row.id = none ∨ row.readable codec = true) := by
  rw [← pop_singleton, keepsReservations_pop_iff]
  unfold pollsKeep
  constructor
  · intro keeps noFault row oldest
    cases rowId : row.id with
    | none => exact .inl rfl
    | some id =>
      right
      obtain ⟨candidate, selected⟩ := claimSelect_isSome oldest.1 oldest.2.1
      obtain rfl := oldest.eq_of_claimSelect rowId selected
      rw [pollFinding_of_candidate noFault selected rowId] at keeps
      by_contra unreadable
      cases payload : row.payload <;> simp [payload, unreadable, pollsDeliver] at keeps
  · intro readable
    by_cases noFault : poll.fault = none
    · cases selected : claimSelect queue poll.now table with
      | none => simp [pollFinding, failure_eq_none noFault, selected, pollsKeep]
      | some row =>
        cases rowId : row.id with
        | none => simp [pollFinding, failure_eq_none noFault, selected, rowId, pollsKeep]
        | some id =>
          have isReadable : row.readable codec = true := by
            simpa [rowId] using readable noFault row (oldestAvailable_of_claimSelect selected)
          have hasPayload : row.payload.isNone = false := by
            cases payload : row.payload with
            | none => simp [JobRow.readable, payload] at isReadable
            | some text => rfl
          simp [pollFinding_of_candidate noFault selected rowId, isReadable, hasPayload]
    · have isFailure : poll.fault.isSome = true := isSome_iff_ne_none.mpr noFault
      unfold pollFinding
      cases (claimSelect queue poll.now table).bind (fun row => row.id.map fun id => (id, row)) with
      | none =>
        split_ifs <;> simp [pollsKeep]
      | some found =>
        split_ifs <;> rfl

/--
A call without a job keeps every reservation exactly when what it takes can be
read: one claim, when its candidate has a null id or a readable payload; a
whole `pop`, along the polls of `pollsKeep`.
-/
theorem reservations_kept_iff (codec : Codec (JobPayload Json) Text) (queue : String) :
    (∀ poll (table : JobsTable Text), KeepsReservations table (claim codec queue poll table) ↔
        (poll.fault = none →
          ∀ row, OldestAvailable queue poll.now table row →
            row.id = none ∨ row.readable codec = true)) ∧
      ∀ polls (table : JobsTable Text), KeepsReservations table (pop codec queue polls table) ↔
          pollsKeep codec queue polls table = true :=
  ⟨keepsReservations_claim_iff codec queue, keepsReservations_pop_iff codec queue⟩

/-- A row whose payload text is no envelope stays reserved without a worker. -/
theorem undecodable_row_stays_reserved :
    ¬ ∀ (Json Text : Type)
      (codec : Codec (JobPayload Json) Text) (queue : String) (polls : List Poll)
      (table : JobsTable Text), KeepsReservations table (pop codec queue polls table) := by
  intro always
  have kept := always Unit _ (Codec.plain (JobPayload Unit)) "default"
      [{ now := "2027-01-01T00:00:01.000000Z", fault := none }]
      { rows :=
          [{ id := some "6f1c"
             queue := "default"
             payload := some none
             attempts := some 1
             reservedAt := none
             availableAt := "2027-01-01T00:00:00.000000Z"
             createdAt := "2027-01-01T00:00:00.000000Z" }]
        primaryKey := by decide }
  rw [keepsReservations_pop_iff] at kept
  revert kept
  decide

end Rustasea.Queue
