import Rustasea.App.AccountEnumeration

namespace Rustasea.App

open Auth Threads List TransitionSystem Option Function

/-!
# Reset tokens are used once

Requests for links and submitted forms interleave call by call.  A form is let
through by the token it presents, but consumes whatever token its email has by
then; a token is used once as long as that still is the one it presented.
-/

/-! ## What happens -/

/-- A token that the store got for an account. -/
structure IssuedToken where
  email : String
  token : String

/-- A form consumed a token: the one it presented, and the row that went. -/
structure Removal where
  presented : String
  row : Option PasswordResetRecord

/-- A form wrote a password; it saw these tokens issued at its check. -/
structure PasswordWrite where
  email : String
  presented : String
  seen : List IssuedToken

/-- What the handlers share, and what they did to it. -/
structure ResetHistory where
  state : ResetState
  issued : List IssuedToken
  removals : List Removal
  writes : List PasswordWrite

def ResetHistory.initial (state : ResetState) : ResetHistory :=
  { state := state, issued := [], removals := [], writes := [] }

def newestToken (issued : List IssuedToken) (email : String) : Option String :=
  ((issued.filter fun issue => issue.email = email).getLast?).map IssuedToken.token

inductive ResetCall where
  | forgot (request : ForgotRequest)
  | reset (request : ResetRequest)

/-- The next call that a handler makes. -/
inductive ResetThread where
  | throttle (request : ForgotRequest)
  | find (request : ForgotRequest)
  | issue (request : ForgotRequest) (user : AuthUserRecord)
  | mail (request : ForgotRequest) (user : AuthUserRecord) (token : String)
  | checking (request : ResetRequest)
  | prepare (request : ResetRequest) (row : PasswordResetRecord) (seen : List IssuedToken)
  | consume (request : ResetRequest) (row : PasswordResetRecord) (seen : List IssuedToken)
      (update : PasswordUpdate)
  | write (request : ResetRequest) (seen : List IssuedToken) (update : PasswordUpdate)

def startReset (_ : ResetHistory) : ResetCall → ResetThread
  | .forgot request => .throttle request
  | .reset request => .checking request

/-- A handler makes its next call, and goes on unless it has answered. -/
def advanceReset (setup : ResetSetup) (thread : ResetThread)
    (history : ResetHistory) : ResetHistory × Option ResetThread :=
  match thread with
  | .throttle request =>
    match refuseForgot setup request history.state.limiter with
    | (some _, limiter) =>
      ({ history with state := { history.state with limiter := limiter } }, none)
    | (none, limiter) =>
      ({ history with state := { history.state with limiter := limiter } },
        some (.find request))
  | .find request =>
    match findForgotten setup request with
    | .error _ => (history, none)
    | .ok user => (history, some (.issue request user))
  | .issue request user =>
    match issueToken setup request user history.state with
    | (.error _, state) => ({ history with state := state }, none)
    | (.ok token, state) =>
      ({ history with
          state := state
          issued := history.issued ++ [{ email := user.email, token := token }] },
        some (.mail request user token))
  | .mail request user token =>
    ({ history with state := (mailLink setup request user token history.state).2 },
      none)
  | .checking request =>
    match refuseLink setup request with
    | some _ => (history, none)
    | none =>
      match checkToken setup request history.state.rows with
      | .error _ => (history, none)
      | .ok row => (history, some (.prepare request row history.issued))
  | .prepare request row seen =>
    match preparePassword setup request with
    | .error _ => (history, none)
    | .ok update => (history, some (.consume request row seen update))
  | .consume request _ seen update =>
    match consumeToken request history.state with
    | .error _ => (history, none)
    | .ok state =>
      ({ history with
          state := state
          removals :=
            history.removals ++
              [{ presented := request.token, row := history.state.rows request.email }] },
        some (.write request seen update))
  | .write request seen update =>
    let state := (writePassword request update history.state).2
    if request.faults.update then ({ history with state := state }, none)
    else
      ({ history with
          state := state
          writes :=
            history.writes ++
              [{ email := request.email, presented := request.token, seen := seen }] }, none)

def resetHandlers (setup : ResetSetup) : Component ResetHistory ResetThread ResetCall :=
  { start := startReset, advance := advanceReset setup }

/-- Tokens are never drawn twice, and a hash is that of one token. -/
structure LawfulTokens (setup : ResetSetup) : Prop where
  fresh : Function.Injective setup.tokens
  verify_hash : ∀ salt token presented,
      setup.services.verify (setup.hash salt token) presented = true ↔ presented = token

/--
A token writes one password at most, and was the newest of its email when it
was checked; a form removes no row but that of the token it presented.
-/
structure ResetHistory.SingleUse (setup : ResetSetup) (history : ResetHistory) : Prop where
  once : (history.writes.map PasswordWrite.presented).Nodup
  newest : ∀ write ∈ history.writes, newestToken write.seen write.email = some write.presented
  ownRow : ∀ removal ∈ history.removals,
      ∀ row ∈ removal.row, setup.services.verify row.tokenHash removal.presented = true

def ConsumesCheckedRow (history : ResetHistory) : ResetThread → Prop
  | .consume request row _ _ =>
    request.faults.delete = false → history.state.rows request.email = some row
  | _ => True

instance (history : ResetHistory) : DecidablePred (ConsumesCheckedRow history)
  | .consume _ _ _ _ => inferInstanceAs (Decidable (_ → _))
  | .throttle _ | .find _ | .issue _ _ | .mail _ _ _ | .checking _
  | .prepare _ _ _ | .write _ _ _ => isTrue trivial

/-! ## Issued tokens -/

theorem newestToken_append (issued : List IssuedToken) (issue : IssuedToken) (email : String) :
    newestToken (issued ++ [issue]) email =
      if issue.email = email then some issue.token
      else newestToken issued email := by
  unfold newestToken
  by_cases isEmail : issue.email = email
  · simp [isEmail]
  · simp [isEmail]

theorem mem_of_newestToken {issued : List IssuedToken} {email token : String}
    (isNewest : newestToken issued email = some token) :
    { email := email, token := token } ∈ issued := by
  obtain ⟨issue, isLast, rfl⟩ := map_eq_some_iff.mp isNewest
  have isIn := mem_of_getLast? isLast
  rw [mem_filter, decide_eq_true_eq] at isIn
  obtain ⟨isIssued, rfl⟩ := isIn
  exact isIssued

/-! ## What a call does -/

section Calls

variable {setup : ResetSetup} {state after : ResetState}
  {request : ForgotRequest} {user : AuthUserRecord}

theorem issueToken_rows {response : Response}
    (isRefused : issueToken setup request user state = (.error response, after)) :
    after.rows = state.rows ∧ state.drawn ≤ after.drawn := by
  unfold issueToken at isRefused
  split at isRefused
  · cases isRefused
    exact ⟨rfl, Nat.le_refl _⟩
  · split at isRefused
    · cases isRefused
      exact ⟨rfl, Nat.le_succ _⟩
    · cases isRefused

theorem issueToken_ok {token : String}
    (isIssued : issueToken setup request user state = (.ok token, after)) :
    token = setup.tokens state.drawn ∧ after.drawn = state.drawn + 1 ∧
      after.rows =
        state.rows.create user.email (setup.hash request.salt token) request.createdAt := by
  unfold issueToken at isIssued
  split at isIssued
  · cases isIssued
  · split at isIssued
    · cases isIssued
    · cases isIssued
      exact ⟨rfl, rfl, rfl⟩

theorem mailLink_rows (setup : ResetSetup) (request : ForgotRequest) (user : AuthUserRecord)
    (token : String) (state : ResetState) :
    (mailLink setup request user token state).2.rows = state.rows ∧
    (mailLink setup request user token state).2.drawn = state.drawn := by
  unfold mailLink
  split
  · exact ⟨rfl, rfl⟩
  · split <;> exact ⟨rfl, rfl⟩

theorem checkToken_ok {request : ResetRequest} {rows : ResetRows} {row : PasswordResetRecord}
    (isChecked : checkToken setup request rows = .ok row) :
    rows request.email = some row ∧ setup.services.verify row.tokenHash request.token = true := by
  unfold checkToken at isChecked
  split at isChecked
  · cases isChecked
  · split at isChecked
    · cases isChecked
    · next isRow =>
      cases isChecked
      rw [filter_eq_some_iff] at isRow
      unfold tokenMatches at isRow
      rw [Bool.and_eq_true] at isRow
      exact ⟨isRow.1, isRow.2.2⟩

theorem consumeToken_ok {request : ResetRequest}
    (isConsumed : consumeToken request state = .ok after) :
    request.faults.delete = false ∧ after.drawn = state.drawn ∧
    after.rows = state.rows.delete request.email := by
  unfold consumeToken at isConsumed
  split at isConsumed
  · cases isConsumed
  · next isMade =>
    cases isConsumed
    exact ⟨Bool.eq_false_of_not_eq_true isMade, rfl, rfl⟩

theorem writePassword_rows (request : ResetRequest) (update : PasswordUpdate) (state : ResetState) :
    (writePassword request update state).2.rows = state.rows ∧
    (writePassword request update state).2.drawn = state.drawn := by
  unfold writePassword
  split <;> exact ⟨rfl, rfl⟩

end Calls

/-! ## The newest token of an email -/

/--
Tokens are issued once, a row holds the newest token of its email, and so did
the row that a written password was let through by.
-/
structure ResetHistory.Tracked (setup : ResetSetup) (history : ResetHistory) : Prop where
  drawn : ∀ issue ∈ history.issued, ∃ index < history.state.drawn, setup.tokens index = issue.token
  distinct : (history.issued.map IssuedToken.token).Nodup
  rows : ∀ email row, history.state.rows email = some row → ∃ salt token,
          row.tokenHash = setup.hash salt token ∧ newestToken history.issued email = some token
  newest : ∀ write ∈ history.writes, newestToken write.seen write.email = some write.presented

def ResetThread.Checked (setup : ResetSetup) : ResetThread → Prop
  | .prepare request row seen | .consume request row seen _ =>
    setup.services.verify row.tokenHash request.token = true ∧
      newestToken seen request.email = some request.token
  | .write request seen _ => newestToken seen request.email = some request.token
  | _ => True

section Tracking

variable {setup : ResetSetup} {history : ResetHistory} {state : ResetState}

theorem ResetHistory.Tracked.withState (tracked : history.Tracked setup)
    (sameRows : state.rows = history.state.rows) (drawsMore : history.state.drawn ≤ state.drawn) :
    ResetHistory.Tracked setup { history with state := state } :=
  { drawn := fun issue isIssued =>
      have ⟨index, isDrawn, isToken⟩ := tracked.drawn issue isIssued
      ⟨index, Nat.lt_of_lt_of_le isDrawn drawsMore, isToken⟩
    distinct := tracked.distinct
    rows := fun email row isRow => tracked.rows email row (sameRows ▸ isRow)
    newest := tracked.newest }

variable {request : ForgotRequest} {user : AuthUserRecord} {token : String}

theorem ResetHistory.Tracked.token_not_issued
    (lawful : LawfulTokens setup) (tracked : history.Tracked setup)
    (isIssued : issueToken setup request user history.state = (.ok token, state)) :
    token ∉ history.issued.map IssuedToken.token := by
  intro isOld
  obtain ⟨issue, isIn, sameToken⟩ := mem_map.mp isOld
  obtain ⟨index, isEarlier, isDrawn⟩ := tracked.drawn issue isIn
  have sameDraw := lawful.fresh (isDrawn.trans (sameToken.trans (issueToken_ok isIssued).1))
  omega

theorem ResetHistory.Tracked.issue (lawful : LawfulTokens setup) (tracked : history.Tracked setup)
    (isIssued : issueToken setup request user history.state = (.ok token, state)) :
    ResetHistory.Tracked setup
      { history with
        state := state
        issued :=
          history.issued ++ [{ email := user.email, token := token }] } := by
  obtain ⟨isToken, isDrawn, isCreated⟩ := issueToken_ok isIssued
  have isFresh := tracked.token_not_issued lawful isIssued
  refine
    { drawn := fun issue isIn => ?_
      distinct := ?_
      rows := fun email row isRow => ?_
      newest := tracked.newest }
  · rcases mem_append.mp isIn with isOld | isNew
    · obtain ⟨index, isEarlier, isDrawnToken⟩ := tracked.drawn issue isOld
      exact ⟨index, by simp only [isDrawn]; omega, isDrawnToken⟩
    · cases mem_singleton.mp isNew
      exact ⟨history.state.drawn, by simp only [isDrawn]; omega, isToken.symm⟩
  · rw [map_append, nodup_append]
    refine ⟨tracked.distinct, nodup_singleton _, ?_⟩
    intro old isOld new isNew same
    cases mem_singleton.mp isNew
    rw [same] at isOld
    exact isFresh isOld
  · simp only [isCreated, ResetRows.create] at isRow
    by_cases isEmail : email = user.email
    · subst email
      rw [update_self, Option.some.injEq] at isRow
      subst row
      exact ⟨request.salt, token, rfl, by rw [newestToken_append, if_pos rfl]⟩
    · rw [update_of_ne isEmail] at isRow
      obtain ⟨salt, older, isHash, isNewest⟩ := tracked.rows email row isRow
      refine ⟨salt, older, isHash, ?_⟩
      rw [newestToken_append, if_neg (Ne.symm isEmail)]
      exact isNewest

theorem ResetHistory.Tracked.consume (tracked : history.Tracked setup) {request : ResetRequest}
    (removals : List Removal) (isConsumed : consumeToken request history.state = .ok state) :
    ResetHistory.Tracked setup
      { history with
        state := state
        removals := removals } := by
  obtain ⟨-, isDrawn, isDeleted⟩ := consumeToken_ok isConsumed
  refine
    { drawn := isDrawn.symm ▸ tracked.drawn
      distinct := tracked.distinct
      rows := fun email row isRow => ?_
      newest := tracked.newest }
  simp only [isDeleted, ResetRows.delete] at isRow
  by_cases isEmail : email = request.email
  · subst email
    rw [update_self] at isRow
    cases isRow
  · rw [update_of_ne isEmail] at isRow
    exact tracked.rows email row isRow

theorem ResetHistory.Tracked.check (lawful : LawfulTokens setup) (tracked : history.Tracked setup)
    {request : ResetRequest} {row : PasswordResetRecord}
    (isChecked : checkToken setup request history.state.rows = .ok row) :
    setup.services.verify row.tokenHash request.token = true ∧
    newestToken history.issued request.email = some request.token := by
  obtain ⟨isRow, verifies⟩ := checkToken_ok isChecked
  obtain ⟨salt, token, isHash, isNewest⟩ := tracked.rows _ row isRow
  have isToken : request.token = token :=
    (lawful.verify_hash salt token request.token).mp (isHash ▸ verifies)
  exact ⟨verifies, isToken ▸ isNewest⟩

theorem checked_none : ∀ next ∈ (none : Option ResetThread), next.Checked setup :=
  fun _ isNext => nomatch isNext

variable {thread : ResetThread}

theorem checked_some (checked : thread.Checked setup) : ∀ next ∈ some thread, next.Checked setup :=
  fun _ isNext => Option.some.inj isNext ▸ checked

theorem ResetHistory.Tracked.advance (lawful : LawfulTokens setup)
    (tracked : history.Tracked setup) (checked : thread.Checked setup) :
    (advanceReset setup thread history).1.Tracked setup ∧
    ∀ next ∈ (advanceReset setup thread history).2, next.Checked setup := by
  cases thread with
  | throttle request =>
    dsimp only [advanceReset]
    split
    · exact ⟨tracked.withState rfl (Nat.le_refl _), checked_none⟩
    · exact ⟨tracked.withState rfl (Nat.le_refl _), checked_some trivial⟩
  | find request =>
    dsimp only [advanceReset]
    split
    · exact ⟨tracked, checked_none⟩
    · exact ⟨tracked, checked_some trivial⟩
  | issue request user =>
    dsimp only [advanceReset]
    split
    · next isRefused =>
      obtain ⟨sameRows, drawsMore⟩ := issueToken_rows isRefused
      exact ⟨tracked.withState sameRows drawsMore, checked_none⟩
    · next isIssued => exact ⟨tracked.issue lawful isIssued, checked_some trivial⟩
  | mail request user token =>
    obtain ⟨sameRows, sameDraws⟩ := mailLink_rows setup request user token history.state
    exact ⟨tracked.withState sameRows (Nat.le_of_eq sameDraws.symm), checked_none⟩
  | checking request =>
    dsimp only [advanceReset]
    split
    · exact ⟨tracked, checked_none⟩
    · split
      · exact ⟨tracked, checked_none⟩
      · next isChecked => exact ⟨tracked, checked_some (tracked.check lawful isChecked)⟩
  | prepare request row seen =>
    dsimp only [advanceReset]
    split
    · exact ⟨tracked, checked_none⟩
    · exact ⟨tracked, checked_some checked⟩
  | consume request row seen update =>
    dsimp only [advanceReset]
    split
    · exact ⟨tracked, checked_none⟩
    · next isConsumed => exact ⟨tracked.consume _ isConsumed, checked_some checked.2⟩
  | write request seen update =>
    obtain ⟨sameRows, sameDraws⟩ := writePassword_rows request update history.state
    have kept := tracked.withState sameRows (Nat.le_of_eq sameDraws.symm)
    dsimp only [advanceReset]
    split
    · exact ⟨kept, checked_none⟩
    · refine ⟨{ kept with newest := fun other isIn => ?_ }, checked_none⟩
      rcases mem_append.mp isIn with isOld | isNew
      · exact tracked.newest other isOld
      · cases mem_singleton.mp isNew
        exact checked

end Tracking

/-! ## Consumed tokens -/

/-- A consumed token is in no row any more, and is consumed once. -/
structure ResetHistory.Consumed (setup : ResetSetup) (history : ResetHistory) : Prop where
  unused : ∀ email row, history.state.rows email = some row →
        ∀ removal ∈ history.removals, setup.services.verify row.tokenHash removal.presented ≠ true
  issued : ∀ removal ∈ history.removals, removal.presented ∈ history.issued.map IssuedToken.token
  once : (history.removals.map Removal.presented).Nodup
  ownRow : ∀ removal ∈ history.removals,
      ∀ row ∈ removal.row, setup.services.verify row.tokenHash removal.presented = true

section Consuming

variable {setup : ResetSetup} {history : ResetHistory} {state : ResetState}

theorem ResetHistory.Consumed.withState (consumed : history.Consumed setup)
    (sameRows : state.rows = history.state.rows) :
    ResetHistory.Consumed setup { history with state := state } :=
  { unused := fun email row isRow =>
      consumed.unused email row (sameRows ▸ isRow)
    issued := consumed.issued
    once := consumed.once
    ownRow := consumed.ownRow }

theorem ResetHistory.Consumed.issue (lawful : LawfulTokens setup) (tracked : history.Tracked setup)
    (consumed : history.Consumed setup) {request : ForgotRequest}
    {user : AuthUserRecord} {token : String}
    (isIssued : issueToken setup request user history.state = (.ok token, state)) :
    ResetHistory.Consumed setup
      { history with
        state := state
        issued :=
          history.issued ++ [{ email := user.email, token := token }] } := by
  have isFresh := tracked.token_not_issued lawful isIssued
  obtain ⟨-, -, isCreated⟩ := issueToken_ok isIssued
  refine
    { unused := fun email row isRow removal isRemoved => ?_
      issued := fun removal isRemoved => ?_
      once := consumed.once
      ownRow := consumed.ownRow }
  · simp only [isCreated, ResetRows.create] at isRow
    by_cases isEmail : email = user.email
    · subst email
      rw [update_self, Option.some.injEq] at isRow
      subst row
      intro verifies
      have isToken := (lawful.verify_hash _ _ _).mp verifies
      exact isFresh (isToken ▸ consumed.issued removal isRemoved)
    · rw [update_of_ne isEmail] at isRow
      exact consumed.unused email row isRow removal isRemoved
  · rw [map_append, mem_append]
    exact .inl (consumed.issued removal isRemoved)

theorem ResetHistory.Tracked.email_eq (tracked : history.Tracked setup)
    {first second token : String} (isFirst : newestToken history.issued first = some token)
    (isSecond : newestToken history.issued second = some token) : first = second :=
  congrArg IssuedToken.email (inj_on_of_nodup_map tracked.distinct (mem_of_newestToken isFirst)
      (mem_of_newestToken isSecond) rfl)

theorem ResetHistory.Consumed.consume
    (lawful : LawfulTokens setup) (tracked : history.Tracked setup)
    (consumed : history.Consumed setup) {request : ResetRequest} {row : PasswordResetRecord}
    (verifies : setup.services.verify row.tokenHash request.token = true)
    (isRow : history.state.rows request.email = some row)
    (isConsumed : consumeToken request history.state = .ok state) :
    ResetHistory.Consumed setup
      { history with
        state := state
        removals :=
          history.removals ++
            [{ presented := request.token
               row := history.state.rows request.email }] } := by
  obtain ⟨-, -, isDeleted⟩ := consumeToken_ok isConsumed
  obtain ⟨salt, token, isHash, isNewest⟩ := tracked.rows _ row isRow
  have isToken : request.token = token :=
    (lawful.verify_hash salt token request.token).mp (isHash ▸ verifies)
  subst token
  refine
    { unused := fun email other isOther removal isRemoved => ?_
      issued := fun removal isRemoved => ?_
      once := ?_
      ownRow := fun removal isRemoved => ?_ }
  · simp only [isDeleted, ResetRows.delete] at isOther
    have otherEmail : email ≠ request.email := by
      rintro rfl
      rw [update_self] at isOther
      cases isOther
    rw [update_of_ne otherEmail] at isOther
    rcases mem_append.mp isRemoved with isOld | isNew
    · exact consumed.unused email other isOther removal isOld
    · cases mem_singleton.mp isNew
      intro verifiesOther
      obtain ⟨otherSalt, newest, isOtherHash, isOtherNewest⟩ := tracked.rows email other isOther
      rw [isOtherHash, lawful.verify_hash] at verifiesOther
      cases verifiesOther
      exact otherEmail (tracked.email_eq isOtherNewest isNewest)
  · rcases mem_append.mp isRemoved with isOld | isNew
    · exact consumed.issued removal isOld
    · cases mem_singleton.mp isNew
      exact mem_map_of_mem (f := IssuedToken.token) (mem_of_newestToken isNewest)
  · rw [map_append, nodup_append]
    refine ⟨consumed.once, nodup_singleton _, ?_⟩
    intro old isOld new isNew same
    cases mem_singleton.mp isNew
    obtain ⟨removal, isRemoved, isOldToken⟩ := mem_map.mp isOld
    have isPresented : removal.presented = request.token := isOldToken.trans same
    rw [← isPresented] at verifies
    exact consumed.unused _ row isRow removal isRemoved verifies
  · rcases mem_append.mp isRemoved with isOld | isNew
    · exact consumed.ownRow removal isOld
    · cases mem_singleton.mp isNew
      rw [isRow]
      rintro _ ⟨⟩
      exact verifies

theorem ResetHistory.Consumed.advance (lawful : LawfulTokens setup)
    (tracked : history.Tracked setup) (consumed : history.Consumed setup) {thread : ResetThread}
    (checked : thread.Checked setup) (own : ConsumesCheckedRow history thread) :
    (advanceReset setup thread history).1.Consumed setup := by
  cases thread with
  | throttle request =>
    dsimp only [advanceReset]
    split <;> exact consumed.withState rfl
  | find request | prepare request row seen =>
    dsimp only [advanceReset]
    split <;> exact consumed
  | issue request user =>
    dsimp only [advanceReset]
    split
    · next isRefused => exact consumed.withState (issueToken_rows isRefused).1
    · next isIssued => exact consumed.issue lawful tracked isIssued
  | mail request user token =>
    exact consumed.withState (mailLink_rows setup request user token history.state).1
  | checking request =>
    dsimp only [advanceReset]
    split
    · exact consumed
    · split <;> exact consumed
  | consume request row seen update =>
    dsimp only [advanceReset]
    split
    · exact consumed
    · next isConsumed =>
      exact consumed.consume lawful tracked checked.1
        (own (consumeToken_ok isConsumed).1) isConsumed
  | write request seen update =>
    have kept := consumed.withState (writePassword_rows request update history.state).1
    dsimp only [advanceReset]
    split
    · exact kept
    · exact
        { unused := kept.unused, issued := kept.issued, once := kept.once, ownRow := kept.ownRow }

end Consuming

/-! ## Every run -/

/-- A form that has consumed a token and is about to write. -/
@[grind =] def ResetThread.holds (token : String) : ResetThread → Nat
  | .write request _ _ => if request.token = token then 1 else 0
  | _ => 0

section Runs

variable {setup : ResetSetup}

theorem advanceReset_holds (token : String) (history : ResetHistory) (thread : ResetThread) :
    ((advanceReset setup thread history).1.writes.map PasswordWrite.presented).count token +
      (advanceReset setup thread history).2.elim 0 (ResetThread.holds token) +
      (history.removals.map Removal.presented).count token ≤
      (history.writes.map PasswordWrite.presented).count token + thread.holds token +
        ((advanceReset setup thread history).1.removals.map Removal.presented).count token := by
  cases thread with
  | throttle request | find request | issue request user
  | prepare request row seen =>
    dsimp only [advanceReset]
    split <;> simp [ResetThread.holds]
  | mail request user issued => simp [advanceReset]
  | checking request =>
    dsimp only [advanceReset]
    split
    · simp
    · split <;> simp [ResetThread.holds]
  | consume request row seen update =>
    dsimp only [advanceReset]
    split
    · simp
    · simp [ResetThread.holds, count_singleton]
      omega
  | write request seen update =>
    dsimp only [advanceReset]
    split
    · simp
    · simp [ResetThread.holds, count_singleton]

variable {state : ResetState} {world : World ResetHistory ResetThread}

theorem writes_le_removals {side : World ResetHistory ResetThread → Action ResetCall → Prop}
    (reached : ReachableAlong (step? (resetHandlers setup)) side
      (World.initial (.initial state)) world) (token : String) :
    (world.shared.writes.map PasswordWrite.presented).count token ≤
      (world.shared.removals.map Removal.presented).count token := by
  have covered := spent_le_issued (ResetThread.holds token)
      (fun history => (history.writes.map PasswordWrite.presented).count token)
      (fun history => (history.removals.map Removal.presented).count token)
      (Nat.le_refl 0)
      (fun _ made => by cases made <;> rfl)
      (advanceReset_holds token)
      reached
  exact Nat.le_trans (Nat.le_add_right _ _) covered

theorem tracked_initial (noRows : ∀ email, state.rows email = none) :
    (ResetHistory.initial state).Tracked setup :=
  { drawn := fun _ isIssued => absurd isIssued not_mem_nil
    distinct := nodup_nil
    rows := fun email row isRow => by
      rw [ResetHistory.initial, noRows] at isRow
      cases isRow
    newest := fun _ isWrite => absurd isWrite not_mem_nil }

theorem checked_start (history : ResetHistory) (made : ResetCall) :
    ((resetHandlers setup).start history made).Checked setup := by
  cases made <;> trivial

theorem written_by_newest_token (lawful : LawfulTokens setup)
    (noRows : ∀ email, state.rows email = none)
    (reached : Reachable (step? (resetHandlers setup)) (World.initial (.initial state)) world) :
    ∀ write ∈ world.shared.writes, newestToken write.seen write.email = some write.presented := by
  refine (invariant_of_interference_free (ResetHistory.Tracked setup)
    (fun _ thread => thread.Checked setup) (tracked_initial noRows)
    (fun _ isIn => absurd isIn not_mem_nil)
    (fun history made _ => checked_start history made) ?_
    reached).1.newest
  intro world index thread isThread _ tracked checked
  obtain ⟨trackedAfter, checkedAfter⟩ :=
    tracked.advance lawful (checked thread (mem_of_getElem? isThread))
  exact
    ⟨trackedAfter, checkedAfter, fun other isOther =>
      checked other (mem_of_mem_eraseIdx isOther)⟩

/--
While forms consume the rows that they checked, every token is used once at
most, and only while it is the newest.
-/
theorem reset_tokens_are_single_use (lawful : LawfulTokens setup) {state : ResetState}
    (noRows : ∀ email, state.rows email = none) {world : World ResetHistory ResetThread}
    (reached : ReachableAlong (step? (resetHandlers setup)) (Along ConsumesCheckedRow)
      (World.initial (.initial state)) world) :
    world.shared.SingleUse setup := by
  have atStart : (ResetHistory.initial state).Consumed setup :=
    { unused := fun _ _ _ _ isRemoved => absurd isRemoved not_mem_nil
      issued := fun _ isRemoved => absurd isRemoved not_mem_nil
      once := nodup_nil
      ownRow := fun _ isRemoved => absurd isRemoved not_mem_nil }
  obtain ⟨⟨tracked, consumed⟩, -⟩ := invariant
      (fun history : ResetHistory => history.Tracked setup ∧ history.Consumed setup)
      (fun thread => thread.Checked setup)
      ⟨tracked_initial noRows, atStart⟩
      (fun _ isIn => absurd isIn not_mem_nil)
      checked_start
      (fun history thread before checked own => by
        obtain ⟨trackedAfter, checkedAfter⟩ := before.1.advance lawful checked
        exact ⟨⟨trackedAfter, before.2.advance lawful before.1 checked own⟩, checkedAfter⟩)
      reached
  refine
    { once := nodup_iff_count_le_one.mpr fun token => ?_
      newest := tracked.newest
      ownRow := consumed.ownRow }
  calc (world.shared.writes.map PasswordWrite.presented).count token
    ≤ (world.shared.removals.map Removal.presented).count token :=
        writes_le_removals reached token
    _ ≤ 1 := nodup_iff_count_le_one.mp consumed.once token

end Runs

def adaSetupForResets : ResetSetup :=
  (guestSetup (some [1])).withAccount "ada@example.com" adaRecord none

theorem lawful_adaSetupForResets : LawfulTokens adaSetupForResets :=
  { fresh := fun first second same => by
      have sameLength := congrArg List.length (String.ofList_injective same)
      simpa using sameLength
    verify_hash := fun _ _ _ => by
      simp [adaSetupForResets, guestSetup, ResetSetup.withAccount, eq_comm] }

def noResets : World ResetHistory ResetThread := World.initial (.initial noGuests.resets)

def forgotCall : ResetCall :=
  .forgot
    { fields := [("email", "ada@example.com")]
      throttledAt := 100
      createdAt := 100
      signedAt := 100
      salt := ""
      faults := .none }

def resetCall (token : String) : ResetCall :=
  .reset
    { fields :=
        [("email", "ada@example.com"), ("token", token), ("expires", "3700"),
          ("signature", transparentCrypto.hexEncode
              (transparentCrypto.hmac [1]
                (canonicalPayload (resetPath token) 3700 [("email", "ada@example.com")]))),
          ("password", "new"), ("password_confirmation", "new")]
      linkedAt := 200
      checkedAt := 200
      salt := ""
      faults := .none }

theorem ada_resets_twice :
    ∃ world, Reachable (step? (resetHandlers adaSetupForResets)) noResets world ∧
      world.shared.writes.map PasswordWrite.presented = ["a", "a"] ∧
      ∀ write ∈ world.shared.writes, newestToken write.seen write.email = some write.presented := by
  have accepted : ((run? (step? (resetHandlers adaSetupForResets)) noResets
          ([.call forgotCall, .advance 0, .advance 0, .advance 0, .advance 0,
            .call (resetCall "a"), .call (resetCall "a"), .advance 0, .advance 1] ++
              List.replicate 6 (.advance 0))).map fun world =>
          world.shared.writes.map PasswordWrite.presented) =
        some ["a", "a"] := by
    decide +kernel
  obtain ⟨world, isWorld, isSeen⟩ := map_eq_some_iff.mp accepted
  have reached := reachable_of_run? isWorld
  exact ⟨world, reached, isSeen,
    written_by_newest_token lawful_adaSetupForResets (fun _ => rfl) reached⟩

theorem ada_resets_once :
    ∃ history : ResetHistory,
      history.SingleUse adaSetupForResets ∧ history.writes.map PasswordWrite.presented = ["a"] ∧
      history.issued.map IssuedToken.token = ["a", "aa"] := by
  have accepted : ((runAlong? (step? (resetHandlers adaSetupForResets))
            (Along ConsumesCheckedRow) noResets
            [.call forgotCall, .advance 0, .advance 0, .advance 0, .advance 0,
              .call (resetCall "a"), .advance 0, .advance 0, .advance 0, .advance 0,
              .call forgotCall, .advance 0, .advance 0, .advance 0, .advance 0,
              .call (resetCall "a"), .advance 0]).map fun world =>
          (world.shared.writes.map PasswordWrite.presented,
            world.shared.issued.map IssuedToken.token)) =
        some (["a"], ["a", "aa"]) := by
    decide +kernel
  obtain ⟨world, isWorld, isSeen⟩ := map_eq_some_iff.mp accepted
  rw [Prod.mk.injEq] at isSeen
  exact ⟨world.shared, reset_tokens_are_single_use lawful_adaSetupForResets (fun _ => rfl)
      (reachableAlong_of_runAlong? .start isWorld),
    isSeen⟩

/--
Two forms that were both let through by a token both write; and a form whose
token was replaced in the meantime consumes the new one.
-/
theorem checked_tokens_are_reused :
    (∃ world, Reachable (step? (resetHandlers adaSetupForResets)) noResets world ∧
      world.shared.writes.map PasswordWrite.presented = ["a", "a"] ∧
      ¬ world.shared.SingleUse adaSetupForResets) ∧
    ∃ world, Reachable (step? (resetHandlers adaSetupForResets)) noResets world ∧
      world.shared.removals.map
        (fun removal => (removal.presented, removal.row.map PasswordResetRecord.tokenHash)) =
        [("a", some "aa")] ∧
      ¬ world.shared.SingleUse adaSetupForResets := by
  constructor
  · have accepted :
        ((run? (step? (resetHandlers adaSetupForResets))
              noResets
              [.call forgotCall, .advance 0, .advance 0, .advance 0, .advance 0,
                .call (resetCall "a"), .call (resetCall "a"), .advance 0, .advance 1,
                .advance 0, .advance 0, .advance 0,
                .advance 0, .advance 0, .advance 0]).map fun world =>
            world.shared.writes.map PasswordWrite.presented) =
          some ["a", "a"] := by
      decide +kernel
    obtain ⟨world, isWorld, isSeen⟩ := map_eq_some_iff.mp accepted
    refine ⟨world, reachable_of_run? isWorld, isSeen, fun singleUse => ?_⟩
    have once := singleUse.once
    rw [isSeen] at once
    exact absurd once (by decide)
  · have accepted :
        ((run? (step? (resetHandlers adaSetupForResets))
              noResets
              [.call forgotCall, .advance 0, .advance 0, .advance 0, .advance 0,
                .call (resetCall "a"), .advance 0,
                .call forgotCall, .advance 1, .advance 1, .advance 1, .advance 1,
                .advance 0, .advance 0]).map fun world =>
            world.shared.removals.map fun removal =>
              (removal.presented, removal.row.map PasswordResetRecord.tokenHash)) =
          some [("a", some "aa")] := by
      decide +kernel
    obtain ⟨world, isWorld, isSeen⟩ := map_eq_some_iff.mp accepted
    refine ⟨world, reachable_of_run? isWorld, isSeen, fun singleUse => ?_⟩
    obtain ⟨removal, isRemoved, isPair⟩ :=
      mem_map.mp (isSeen ▸ mem_singleton_self ("a", some "aa"))
    rw [Prod.mk.injEq] at isPair
    obtain ⟨row, isRow, isHash⟩ := map_eq_some_iff.mp isPair.2
    have verifies := singleUse.ownRow removal isRemoved row isRow
    rw [isPair.1, isHash] at verifies
    exact absurd verifies (by decide)

end Rustasea.App
