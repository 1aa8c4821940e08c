import Rustasea.App.Login

namespace Rustasea.App

open Auth Function TransitionSystem Option

/-!
# The second factor

An account with confirmed two-factor authentication is only logged in by its
challenge, unless the interception could not look it up and the login could.
-/

/-! ## The challenge handler -/

/-- Which calls fail, and what the two-factor service answers. -/
structure ChallengeRequest where
  guardWired : Bool
  session : Option SessionId
  now : Nat
  fresh : SessionId
  loadFails : Bool
  service : Option (Except AuthError Unit)
  cycleFails : Bool
  saveFails : Bool

def invalidCode : Response :=
  jsonError 422 "AuthError::InvalidTwoFactorCode" "The provided two-factor code was invalid."

/-- Make the pending identity the user, in a session with a new id. -/
def completeLogin (setup : Setup) (request : ChallengeRequest) (session : SessionId)
    (pending : SessionUser) (sessions : Sessions) : Response × Sessions :=
  if request.cycleFails then (failClosed authUnavailable, sessions)
  else
    let cycled := update sessions session none
    if request.saveFails then (failClosed authUnavailable, cycled)
    else
      ({ seeOther setup.config.home with cookie := some request.fresh },
        update cycled request.fresh
          (some { user := some pending, pending := none, origin := .challenge }))

@[grind =]
def answerChallenge (setup : Setup) (request : ChallengeRequest) (session : SessionId)
    (pending : SessionUser) (sessions : Sessions) : Response × Sessions :=
  match request.service with
  | none => (failClosed authUnavailable, sessions)
  | some (.error .invalidTwoFactorCode) => (invalidCode, sessions)
  | some (.error _) => (failClosed authUnavailable, sessions)
  | some (.ok ()) => completeLogin setup request session pending sessions

/-- `POST /two-factor-challenge` -/
@[grind =] def challengeSubmit (setup : Setup) (request : ChallengeRequest)
    (state : AppState) : Response × AppState :=
  if !request.guardWired then (failClosed authUnavailable, state)
  else
    match request.session with
    | none => (found loginPath, state)
    | some session =>
      if request.loadFails then (failClosed authUnavailable, state)
      else
        match (state.sessions session).bind StoredSession.pending with
        | none => (found loginPath, state)
        | some pending =>
          match check setup.definitions request.now "two-factor"
              { username := none
                ip := none
                sessionId := some session
                credentialId := none } state.limiter with
          | (.error _, limiter) => (failClosed authUnavailable, { state with limiter := limiter })
          | (.ok (.denied retryAfterSecs), limiter) =>
            (throttleResponse retryAfterSecs, { state with limiter := limiter })
          | (.ok (.allowed _), limiter) =>
            let (response, sessions) := answerChallenge setup request session pending state.sessions
            (response, { sessions := sessions, limiter := limiter })

/-! ## Runs -/

/-- What a login that was let through came to. -/
structure LoginEvent where
  record : Option AuthUserRecord
  interceptionFailed : Bool
  response : Response

/-- The application, and the logins so far. -/
structure LoginRun where
  app : AppState
  events : List LoginEvent

inductive AppAction where
  | login (request : LoginRequest)
  | challenge (request : ChallengeRequest)

def interceptionFails (services : Services) (faults : LoginFaults)
    (username password : String) : Bool :=
  faults.interceptFind ||
    (services.users username).any fun record =>
      faults.twoFactorGet || services.isConfirmed record.id &&
          services.verify record.passwordHash password && faults.challengeSave

@[grind =] def loginEvents (setup : Setup) (request : LoginRequest)
    (state : AppState) : List LoginEvent :=
  match refuseLogin setup request state.limiter with
  | (some _, _) => []
  | (none, _) =>
    [{ record := setup.services.users (request.username setup)
       interceptionFailed :=
         interceptionFails setup.services request.faults (request.username setup) request.password
       response := (authenticate setup request state.sessions).1 }]

/-- A request is handled; the id of a new session is not in use. -/
@[grind =] def appStep? (setup : Setup) (state : LoginRun) : AppAction → Option LoginRun
  | .login request =>
    if (state.app.sessions request.fresh).isNone then
      some
        { app := (loginSubmit setup request state.app).2
          events := state.events ++ loginEvents setup request state.app }
    else none
  | .challenge request =>
    if (state.app.sessions request.fresh).isNone then
      some { state with app := (challengeSubmit setup request state.app).2 }
    else none

def Response.IsRefused (response : Response) : Prop := response.status = 422 ∨ response.status = 500

/--
No login made the account the user of a session, and a login whose interception
failed was refused.
-/
structure LoginRun.Guarded (account : String) (state : LoginRun) : Prop where
  sessions : ∀ id session user,
      state.app.sessions id = some session → session.user = some user → user.id = account →
            session.origin ≠ .login
  refused : ∀ event ∈ state.events, event.interceptionFailed →
        ∀ record ∈ event.record, record.id = account → event.response.IsRefused

/--
When the interception cannot look the account up, the login cannot either, or
cannot be completed, or the password is wrong.
-/
def SecondPassRefuses (setup : Setup) (account : String) (_ : LoginRun) : AppAction → Prop
  | .login request =>
    request.faults.interceptFind → request.faults.loginFind = false →
        request.faults.persist = false → ∀ record ∈ setup.services.users (request.username setup),
            record.id = account → setup.services.verify record.passwordHash request.password = false
  | .challenge _ => True

instance (setup : Setup) (account : String) (state : LoginRun) :
    DecidablePred (SecondPassRefuses setup account state)
  | .login request =>
    inferInstanceAs (Decidable
        (request.faults.interceptFind → request.faults.loginFind = false →
            request.faults.persist = false →
              ∀ record ∈ setup.services.users (request.username setup),
                record.id = account → setup.services.verify record.passwordHash
                      request.password =
                    false))
  | .challenge _ => isTrue trivial

/-! ## What a login does -/

def NotAuthenticated (account : String) (before after : Sessions) : Prop :=
  ∀ id session user, after id = some session → session.user = some user → user.id = account →
          before id = some session

theorem NotAuthenticated.refl (account : String) (sessions : Sessions) :
    NotAuthenticated account sessions sessions :=
  fun _ _ _ isSession _ _ => isSession

variable {account : String} {sessions : Sessions} {fresh : SessionId}

theorem NotAuthenticated.update {stored : StoredSession}
    (isOther : ∀ user ∈ stored.user, user.id ≠ account) :
    NotAuthenticated account sessions (update sessions fresh (some stored)) := by
  intro id session user isSession isUser isAccount
  by_cases same : id = fresh
  · subst id
    rw [update_self, Option.some.injEq] at isSession
    subst session
    exact absurd isAccount (isOther user isUser)
  · rwa [update_of_ne same] at isSession

variable {services : Services} {faults : LoginFaults} {username password : String}

theorem notAuthenticated_interceptLogin (account : String) :
    NotAuthenticated account sessions
      (interceptLogin services faults username password fresh sessions).2 := by
  unfold interceptLogin
  split
  · exact .refl _ _
  · split
    · exact .refl _ _
    · split
      · exact .refl _ _
      · split
        · split
          · unfold startChallenge
            split
            · exact .refl _ _
            · exact NotAuthenticated.update nofun
          · exact .refl _ _
        · exact .refl _ _

theorem interceptLogin_eq_none {sessions after : Sessions}
    (isNone : interceptLogin services faults username password fresh sessions = (none, after)) :
    after = sessions ∧
      (faults.interceptFind = true ∨ services.users username = none ∨
        ∃ record, services.users username = some record ∧ services.isConfirmed record.id = false ∧
          faults.twoFactorGet = false) := by
  unfold interceptLogin at isNone
  split at isNone
  · next cannotFind =>
    cases isNone
    exact ⟨rfl, .inl cannotFind⟩
  · split at isNone
    · next unknown =>
      cases isNone
      exact ⟨rfl, .inr (.inl unknown)⟩
    · next record isRecord =>
      split at isNone
      · cases isNone
      · next isRead =>
        split at isNone
        · split at isNone <;> cases isNone
        · next notConfirmed =>
          cases isNone
          refine ⟨rfl, .inr (.inr ⟨record, isRecord, ?_, ?_⟩)⟩
          · simpa using notConfirmed
          · simpa using isRead

theorem loginWithProvider_refused (fresh : SessionId) (sessions : Sessions)
    (refuses : faults.loginFind = false → faults.persist = false →
      ∀ record ∈ services.users username, record.id = account →
        services.verify record.passwordHash password = false) :
    NotAuthenticated account sessions
      (loginWithProvider services faults username password fresh sessions).2 ∧
    ∀ record ∈ services.users username, record.id = account →
      ∃ failure, (loginWithProvider services faults username password fresh sessions).1 =
          .error failure := by
  unfold loginWithProvider
  split
  · exact ⟨.refl _ _, fun _ _ _ => ⟨_, rfl⟩⟩
  · next isFound =>
    cases isRecord : services.users username with
    | none => exact ⟨.refl _ _, nofun⟩
    | some record =>
      simp only [mem_some_iff, forall_eq']
      split
      · next isVerified =>
        split
        · exact ⟨.refl _ _, fun _ => ⟨_, rfl⟩⟩
        · next isPersisted =>
          have isOther : record.id ≠ account := by
            intro isAccount
            have refused := refuses (by simpa using isFound)
                (by simpa using isPersisted) record isRecord isAccount
            rw [refused] at isVerified
            cases isVerified
          refine ⟨NotAuthenticated.update ?_, (absurd · isOther)⟩
          intro user isUser
          cases isUser
          exact isOther
      · exact ⟨.refl _ _, fun _ => ⟨_, rfl⟩⟩

theorem LoginFailure.isRefused (failure : LoginFailure) : failure.response.IsRefused := by
  cases failure with
  | badCredentials => exact .inl rfl
  | unavailable => exact .inr rfl

theorem interceptLogin_of_fails (isFound : faults.interceptFind = false)
    (fails : interceptionFails services faults username password) :
    ∃ response after,
      interceptLogin services faults username password fresh sessions = (some response, after) ∧
      response.IsRefused := by
  unfold interceptionFails at fails
  unfold interceptLogin
  rw [isFound, Bool.false_or] at fails
  rw [if_neg (by simp [isFound])]
  cases isRecord : services.users username with
  | none =>
    rw [isRecord] at fails
    cases fails
  | some record =>
    rw [isRecord, any_some] at fails
    cases cannotRead : faults.twoFactorGet with
    | true => exact ⟨_, _, rfl, .inr rfl⟩
    | false =>
      rw [cannotRead, Bool.false_or, Bool.and_eq_true, Bool.and_eq_true] at fails
      obtain ⟨⟨isConfirmed, isVerified⟩, notSaved⟩ := fails
      simp only [isConfirmed, isVerified, notSaved]
      exact ⟨_, _, rfl, .inr rfl⟩

variable {setup : Setup} {state : LoginRun}

/-- The step of a login, when its second pass refuses what the first missed. -/
theorem authenticate_guarded (isConfirmed : setup.services.isConfirmed account)
    {request : LoginRequest} (refuses : SecondPassRefuses setup account state (.login request)) :
    NotAuthenticated account state.app.sessions (authenticate setup request state.app.sessions).2 ∧
    (interceptionFails setup.services request.faults (request.username setup) request.password →
      ∀ record ∈ setup.services.users (request.username setup),
          record.id = account → (authenticate setup request state.app.sessions).1.IsRefused) := by
  have passRefuses : ∀ after, interceptLogin setup.services request.faults (request.username setup)
          request.password request.fresh state.app.sessions =
        (none, after) →
      request.faults.loginFind = false → request.faults.persist = false →
          ∀ record ∈ setup.services.users (request.username setup),
            record.id = account → setup.services.verify record.passwordHash request.password =
                false := by
    intro after passed isFound isPersisted record isRecord isAccount
    rcases (interceptLogin_eq_none passed).2 with
      cannotFind | unknown | ⟨other, isOther, notConfirmed, -⟩
    · exact refuses cannotFind isFound isPersisted record isRecord isAccount
    · rw [unknown] at isRecord
      cases isRecord
    · cases isOther.symm.trans isRecord
      rw [isAccount, isConfirmed] at notConfirmed
      cases notConfirmed
  have unauthenticated : NotAuthenticated account state.app.sessions
      (interceptLogin setup.services request.faults (request.username setup)
        request.password request.fresh state.app.sessions).2 :=
    notAuthenticated_interceptLogin account
  unfold authenticate
  simp only
  cases intercepted : interceptLogin setup.services request.faults (request.username setup)
        request.password request.fresh state.app.sessions with
  | mk answer after =>
    rw [intercepted] at unauthenticated
    cases answer with
    | some response =>
      refine ⟨unauthenticated, fun fails _ _ _ => ?_⟩
      have isFound : request.faults.interceptFind = false := by
        rw [Bool.eq_false_iff]
        intro cannotFind
        rw [interceptLogin, if_pos cannotFind] at intercepted
        cases intercepted
      obtain ⟨refused, left, isRefusal, isRefused⟩ := interceptLogin_of_fails isFound fails
      rw [isRefusal] at intercepted
      cases intercepted
      exact isRefused
    | none =>
      obtain ⟨rfl, -⟩ := interceptLogin_eq_none intercepted
      obtain ⟨unauthenticated, refused⟩ :=
        loginWithProvider_refused request.fresh state.app.sessions (passRefuses _ intercepted)
      cases loggedIn : loginWithProvider setup.services request.faults
            (request.username setup) request.password request.fresh
            state.app.sessions with
      | mk result after =>
        rw [loggedIn] at unauthenticated refused
        simp only [loggedIn]
        cases result with
        | ok token =>
          refine ⟨unauthenticated, ?_⟩
          intro _ record isRecord isAccount
          obtain ⟨failure, isFailure⟩ := refused record isRecord isAccount
          cases isFailure
        | error failure => exact ⟨unauthenticated, fun _ _ _ _ => failure.isRefused⟩

variable {request : ChallengeRequest} {session : StoredSession}

theorem completeLogin_sessions {current id : SessionId} {pending : SessionUser}
    (isSession : (completeLogin setup request current pending sessions).2 id = some session) :
    sessions id = some session ∨ session.origin = .challenge := by
  have keeps (isCycled : update sessions current none id = some session) :
      sessions id = some session := by
    by_cases same : id = current
    · rw [same, update_self] at isCycled
      cases isCycled
    · rwa [update_of_ne same] at isCycled
  unfold completeLogin at isSession
  split at isSession
  · exact .inl isSession
  · split at isSession
    · exact .inl (keeps isSession)
    · dsimp only at isSession
      by_cases same : id = request.fresh
      · rw [same, update_self, Option.some.injEq] at isSession
        exact .inr (isSession ▸ rfl)
      · rw [update_of_ne same] at isSession
        exact .inl (keeps isSession)

theorem challengeSubmit_sessions {state : AppState} {id : SessionId}
    (isSession : (challengeSubmit setup request state).2.sessions id = some session) :
    state.sessions id = some session ∨ session.origin = .challenge := by
  unfold challengeSubmit at isSession
  split at isSession
  · exact .inl isSession
  · split at isSession
    · exact .inl isSession
    · split at isSession
      · exact .inl isSession
      · split at isSession
        · exact .inl isSession
        · split at isSession
          · exact .inl isSession
          · exact .inl isSession
          · simp only [answerChallenge] at isSession
            split at isSession
            · exact .inl isSession
            · exact .inl isSession
            · exact .inl isSession
            · exact completeLogin_sessions isSession

theorem loginSubmit_guarded (isConfirmed : setup.services.isConfirmed account)
    {request : LoginRequest} (refuses : SecondPassRefuses setup account state (.login request)) :
    NotAuthenticated account state.app.sessions (loginSubmit setup request state.app).2.sessions ∧
    ∀ event ∈ loginEvents setup request state.app, event.interceptionFailed →
        ∀ record ∈ event.record, record.id = account → event.response.IsRefused := by
  obtain ⟨unauthenticated, refused⟩ := authenticate_guarded isConfirmed refuses
  unfold loginSubmit loginEvents
  rcases refuseLogin setup request state.app.limiter with ⟨_ | response, limiter⟩
  · refine ⟨unauthenticated, fun event isEvent => ?_⟩
    cases List.mem_singleton.mp isEvent
    exact refused
  · exact ⟨.refl _ _, fun _ isEvent => absurd isEvent List.not_mem_nil⟩

/-! ## Every run -/

/--
An account with a confirmed second factor is not logged in by its password
alone, as long as the ordinary login refuses what the interception missed.
-/
theorem second_factor_guards_login {setup : Setup} {account : String}
    (isConfirmed : setup.services.isConfirmed account) {initial : AppState}
    (noLogin : ∀ id session, initial.sessions id = some session → session.origin = .other)
    {state : LoginRun}
    (reached : ReachableAlong (appStep? setup) (SecondPassRefuses setup account)
      { app := initial, events := [] } state) :
    state.Guarded account := by
  refine reached.invariant (LoginRun.Guarded account) ?_ ?_
  · refine
      { sessions := fun id session user isSession _ _ => ?_, refused := nofun }
    rw [noLogin id session isSession]
    exact nofun
  · intro before action after guarded refuses taken
    cases action with
    | login request =>
      rw [appStep?, ite_none_right_eq_some] at taken
      cases taken.2
      obtain ⟨unauthenticated, refused⟩ := loginSubmit_guarded isConfirmed refuses
      refine
        { sessions := fun id session user isSession isUser isAccount => ?_
          refused := fun event isEvent => ?_ }
      · exact guarded.sessions id session user
          (unauthenticated id session user isSession isUser isAccount)
          isUser isAccount
      · rcases List.mem_append.mp isEvent with isOld | isNew
        · exact guarded.refused event isOld
        · exact refused event isNew
    | challenge request =>
      rw [appStep?, ite_none_right_eq_some] at taken
      cases taken.2
      refine
        { sessions := fun id session user isSession isUser isAccount => ?_
          refused := guarded.refused }
      rcases challengeSubmit_sessions isSession with isOld | isChallenge
      · exact guarded.sessions id session user isOld isUser isAccount
      · rw [isChallenge]
        exact nofun

/-- An account with a confirmed second factor; hashes are passwords here. -/
def adaSetup : Setup :=
  { services :=
      { users := fun email =>
          if email = "ada@example.com" then
            some
              { id := "1"
                email := "ada@example.com"
                passwordHash := "secret"
                emailVerifiedAt := none
                timezone := none }
          else none
        twoFactor := fun account =>
          if account = "1" then
            some
              { userId := "1"
                secret := some "sealed"
                recoveryCodes := []
                confirmedAt := some "2024-01-01" }
          else none
        verify := fun hash password => hash = password }
    config :=
      { username := "email"
        lowercaseUsernames := false
        home := "/dashboard"
        resetPasswords := true }
    definitions :=
      fromFortifyConfig id { login := "login", twoFactor := some "two-factor", passkeys := none }
    toLowercase := id }

def adaLogin (fresh : SessionId) (faults : LoginFaults) : AppAction :=
  .login
    { guardWired := true
      fields := [("email", "ada@example.com"), ("password", "secret")]
      ip := "10.0.0.1"
      now := 100
      fresh := fresh
      faults := faults }

def noSessions : LoginRun :=
  { app := { sessions := fun _ => none, limiter := .new }, events := [] }

theorem ada_is_challenged :
    ∃ state : LoginRun,
      state.Guarded "1" ∧ (state.app.sessions "b").map StoredSession.origin = some .challenge ∧
      state.events.map (fun event => event.response.status) = [302, 500] := by
  have accepted : ((runAlong? (appStep? adaSetup)
            (SecondPassRefuses adaSetup "1") noSessions
            [adaLogin "a" .none, .challenge
                { guardWired := true
                  session := some "a"
                  now := 101
                  fresh := "b"
                  loadFails := false
                  service := some (.ok ())
                  cycleFails := false
                  saveFails := false },
              adaLogin "c"
                { LoginFaults.none with
                  interceptFind := true
                  loginFind := true }]).map fun state =>
          ((state.app.sessions "b").map StoredSession.origin,
            state.events.map fun event => event.response.status)) =
        some (some .challenge, [302, 500]) := by
    decide +kernel
  obtain ⟨state, isState, isSeen⟩ := map_eq_some_iff.mp accepted
  rw [Prod.mk.injEq] at isSeen
  refine ⟨state, ?_, isSeen⟩
  exact second_factor_guards_login (by decide) (fun _ _ isSession => by cases isSession)
    (reachableAlong_of_runAlong? .start isState)

/-- When only the interception cannot look it up, the password is enough. -/
theorem password_passes_failed_interception :
    ∃ state : LoginRun, Reachable (appStep? adaSetup) noSessions state ∧
      ((state.app.sessions "a").bind StoredSession.user).map SessionUser.id = some "1" ∧
      state.events.map (fun event => (event.interceptionFailed, event.response.status)) =
          [(true, 303)] ∧
      ¬ state.Guarded "1" := by
  have accepted : ((run? (appStep? adaSetup) noSessions
            [adaLogin "a" { LoginFaults.none with interceptFind := true }]).map fun state =>
          (((state.app.sessions "a").map fun session =>
              (session.user.map SessionUser.id, session.origin)),
            state.events.map fun event => (event.interceptionFailed, event.response.status))) =
        some (some (some "1", .login), [(true, 303)]) := by
    decide +kernel
  obtain ⟨state, isState, isSeen⟩ := map_eq_some_iff.mp accepted
  rw [Prod.mk.injEq] at isSeen
  obtain ⟨session, isSession, isUser⟩ := map_eq_some_iff.mp isSeen.1
  obtain ⟨isAccount, isLogin⟩ := Prod.mk.injEq _ _ _ _ |>.mp isUser
  obtain ⟨user, isUser, isAccount⟩ := map_eq_some_iff.mp isAccount
  refine ⟨state, reachable_of_run? isState, ?_, isSeen.2, fun guarded => ?_⟩
  · rw [isSession, bind_some, isUser, map_some, isAccount]
  · exact guarded.sessions "a" session user isSession isUser isAccount isLogin

end Rustasea.App
