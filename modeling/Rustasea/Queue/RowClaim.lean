import Rustasea.Queue.WorkerExclusion

namespace Rustasea.Queue

/-!
# A pop, seen from one row

A pop leaves a row as it is and hands out some other job or none; or it takes
the row, which then is reserved, and hands out the row's own envelope.
-/

variable {Json Text : Type}

def handOut (codec : Codec (JobPayload Json) Text) :
    Option (Claimed Text) → Except QueueError (Option (JobPayload Json))
  | none => .ok none
  | some claimed => (decodeClaimed codec claimed).map some

variable {codec : Codec (JobPayload Json) Text}

theorem id_of_handOut {id : String} {row : JobRow Text} {payload : JobPayload Json}
    (handed : handOut codec (claimedFrom id row) = .ok (some payload)) : payload.id = some id := by
  unfold claimedFrom at handed
  cases text : row.payload with
  | none =>
    rw [text] at handed
    cases handed
  | some held =>
    rw [text] at handed
    unfold handOut decodeClaimed at handed
    cases decoded : codec.decode held with
    | error message =>
      simp only [Option.map_some, decoded] at handed
      cases handed
    | ok envelope =>
      simp only [Option.map_some, decoded] at handed
      cases handed
      rfl

theorem handOut_claimedFrom {row : JobRow Text} {text : Text}
    {envelope : JobPayload Json} (hasText : row.payload = some text)
    (decodes : codec.decode text = .ok envelope) (id : String) :
    handOut codec (claimedFrom id row) = .ok (some
          { envelope with
            attempts := (row.attempts.bind U32.tryFrom).getD envelope.attempts
            id := some id }) := by
  simp only [claimedFrom, hasText, Option.map_some, handOut, decodeClaimed, decodes]
  rfl

/-- A claim takes nothing, or it takes the candidate row and hands it out. -/
theorem claim_cases (codec : Codec (JobPayload Json) Text) (queue : String) (poll : Poll)
    (table : JobsTable Text) :
    ((claim codec queue poll table).2 = table ∧
      ∀ payload, (claim codec queue poll table).1 ≠ .ok (some payload)) ∨
      ∃ row id, row ∈ table ∧ row.available queue poll.now = true ∧ row.id = some id ∧
        claim codec queue poll table =
          (handOut codec (claimedFrom id row), claimUpdate id poll.now table) := by
  have idle : ∀ result : Except QueueError (Option (JobPayload Json)),
      claim codec queue poll table = (result, table) → (∀ payload, result ≠ .ok (some payload)) →
          (claim codec queue poll table).2 = table ∧
            ∀ payload, (claim codec queue poll table).1 ≠ .ok (some payload) := by
    intro result claimed handsNothing
    rw [claimed]
    exact ⟨rfl, handsNothing⟩
  have noJob : ∀ payload : JobPayload Json,
      (.ok none : Except QueueError (Option (JobPayload Json))) ≠ .ok (some payload) := by
    intro payload same
    cases same
  have noError : ∀ (error : QueueError) (payload : JobPayload Json),
      (.error error : Except QueueError (Option (JobPayload Json))) ≠ .ok (some payload) := by
    intro error payload same
    cases same
  unfold claim transaction claimBody at idle ⊢
  cases selectFailure : poll.failure .select with
  | some error =>
    simp only [selectFailure] at idle ⊢
    exact .inl (idle _ rfl (noError error))
  | none =>
    cases selected : claimSelect queue poll.now table with
    | none =>
      simp only [selectFailure, selected] at idle ⊢
      cases commitFailure : poll.failure .commit with
      | some error =>
        simp only [commitFailure] at idle ⊢
        exact .inl (idle _ rfl (noError error))
      | none =>
        simp only [commitFailure] at idle ⊢
        exact .inl (idle _ rfl noJob)
    | some row =>
      have oldest := oldestAvailable_of_claimSelect selected
      cases rowId : row.id with
      | none =>
        simp only [selectFailure, selected, rowId] at idle ⊢
        cases commitFailure : poll.failure .commit with
        | some error =>
          simp only [commitFailure] at idle ⊢
          exact .inl (idle _ rfl (noError error))
        | none =>
          simp only [commitFailure] at idle ⊢
          exact .inl (idle _ rfl noJob)
      | some id =>
        have touched := affected_of_claimSelect selected rowId
        simp only [selectFailure, selected, rowId, if_neg touched] at idle ⊢
        cases updateFailure : poll.failure .update with
        | some error =>
          simp only [updateFailure] at idle ⊢
          exact .inl (idle _ rfl (noError error))
        | none =>
          simp only [updateFailure] at idle ⊢
          cases commitFailure : poll.failure .commit with
          | some error =>
            simp only [commitFailure] at idle ⊢
            exact .inl (idle _ rfl (noError error))
          | none =>
            refine .inr ⟨row, id, oldest.1, oldest.2.1, rowId, ?_⟩
            cases claimed : claimedFrom id row with
            | none => rfl
            | some taken => rfl

section Pop

variable {codec : Codec (JobPayload Json) Text} {queue id : String} {table : JobsTable Text}
  {row : JobRow Text}

theorem mem_claimUpdate_of_ne {other now : String} (isIn : row ∈ table)
    (isOther : row.id ≠ some other) : row ∈ claimUpdate other now table := by
  refine Workers.mem_claimUpdate.mpr (.inl ⟨isIn, ?_⟩)
  simp [JobRow.reservable, isOther]

theorem claim_row (isIn : row ∈ table) (isRow : row.id = some id) (poll : Poll) :
    (row ∈ (claim codec queue poll table).2 ∧
      ∀ payload, (claim codec queue poll table).1 = .ok (some payload) → payload.id ≠ some id) ∨
      row.reservedAt = none ∧
        claim codec queue poll table =
          (handOut codec (claimedFrom id row), claimUpdate id poll.now table) := by
  rcases claim_cases codec queue poll table with
    ⟨sameTable, handsNothing⟩ | ⟨taken, other, isTaken, isAvailable, isOther, claimed⟩
  · refine .inl ⟨?_, fun payload handed => absurd handed (handsNothing payload)⟩
    rw [sameTable]
    exact isIn
  · by_cases same : other = id
    · subst same
      obtain rfl := SqlTable.eq_of_key isIn isTaken isRow isOther
      exact .inr ⟨JobRow.reservedAt_of_available isAvailable, claimed⟩
    · have differs : row.id ≠ some other := by
        rw [isRow]
        exact fun sameId => same (Option.some.inj sameId).symm
      rw [claimed]
      refine .inl ⟨mem_claimUpdate_of_ne isIn differs, fun payload handed => ?_⟩
      rw [id_of_handOut handed]
      exact fun sameId => same (Option.some.inj sameId)

theorem pop_row {text : Text} {envelope : JobPayload Json}
    (decodes : codec.decode text = .ok envelope) (isRow : row.id = some id)
    (hasText : row.payload = some text) (polls : List Poll) (isIn : row ∈ table) :
    (row ∈ (pop codec queue polls table).2 ∧
        ∀ payload, (pop codec queue polls table).1 = .ok (some payload) → payload.id ≠ some id) ∨
      row.reservedAt = none ∧ ∃ now after,
          { row with reservedAt := some now } ∈ after ∧ pop codec queue polls table = (.ok (some
                  { envelope with
                    attempts := (row.attempts.bind U32.tryFrom).getD envelope.attempts
                    id := some id }),
                after) := by
  induction polls generalizing table with
  | nil =>
    refine .inl ⟨isIn, fun payload handed => ?_⟩
    cases handed
  | cons poll later ih =>
    rcases claim_row isIn isRow poll with ⟨remains, isOther⟩ | ⟨isFree, claimed⟩
    · unfold pop
      rcases claimed : claim codec queue poll table with ⟨result, after⟩
      rw [claimed] at remains isOther
      cases result with
      | error error =>
        refine .inl ⟨remains, fun payload handed => ?_⟩
        cases handed
      | ok handed =>
        cases handed with
        | none => exact ih remains
        | some payload => exact .inl ⟨remains, isOther⟩
    · refine
        .inr ⟨isFree, poll.now, claimUpdate id poll.now table, ?_, ?_⟩
      · refine Workers.mem_claimUpdate.mpr (.inr ⟨row, isIn, ?_, rfl⟩)
        simp [JobRow.reservable, isRow, isFree]
      · rw [pop, claimed, handOut_claimedFrom hasText decodes]

theorem pop_absent (polls : List Poll) (isAbsent : ∀ row ∈ table, row.id ≠ some id) :
    (∀ row ∈ (pop codec queue polls table).2, row.id ≠ some id) ∧
    ∀ payload, (pop codec queue polls table).1 = .ok (some payload) → payload.id ≠ some id := by
  induction polls generalizing table with
  | nil =>
    refine ⟨isAbsent, fun payload handed => ?_⟩
    cases handed
  | cons poll later ih =>
    have claims : (∀ row ∈ (claim codec queue poll table).2, row.id ≠ some id) ∧ ∀ payload,
        (claim codec queue poll table).1 = .ok (some payload) → payload.id ≠ some id := by
      rcases claim_cases codec queue poll table with
        ⟨sameTable, handsNothing⟩ | ⟨taken, other, isTaken, -, isOther, claimed⟩
      · rw [sameTable]
        exact ⟨isAbsent, fun payload handed => absurd handed (handsNothing payload)⟩
      · have differs := isAbsent taken isTaken
        rw [isOther] at differs
        rw [claimed]
        refine ⟨fun row isIn => ?_, fun payload handed => ?_⟩
        · rcases Workers.mem_claimUpdate.mp isIn with ⟨wasIn, -⟩ | ⟨before, wasIn, -, rfl⟩
          · exact isAbsent row wasIn
          · exact isAbsent before wasIn
        · rw [id_of_handOut handed]
          exact differs
    unfold pop
    rcases claimed : claim codec queue poll table with ⟨result, after⟩
    rw [claimed] at claims
    cases result with
    | error error =>
      refine ⟨claims.1, fun payload handed => ?_⟩
      cases handed
    | ok handed =>
      cases handed with
      | none => exact ih claims.1
      | some payload => exact claims

end Pop

end Rustasea.Queue
