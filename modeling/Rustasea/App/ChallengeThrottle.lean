import Rustasea.App.TwoFactorLogin

namespace Rustasea.App

open Auth MemoryRateLimiter List

/-!
# Guessing codes

Challenges have a limiter of their own, whose key is the pending session.  Each
login that is interrupted opens a pending session, with attempts of its own.
-/

def twoFactorRegistry : Definitions := Definitions.new.register "two-factor" twoFactorDefinition

def Setup.forChallenge (setup : Setup) : Setup := { setup with definitions := twoFactorRegistry }

structure VerifiedCode where
  session : SessionId
  account : String
  now : Nat

/-- The pending session of a challenge that comes to its limiter. -/
def challengeTarget (request : ChallengeRequest)
    (sessions : Sessions) : Option (SessionId × SessionUser) :=
  if !request.guardWired || request.loadFails then none
  else
    request.session.bind fun session =>
      ((sessions session).bind StoredSession.pending).map fun pending => (session, pending)

def challengeHit (request : ChallengeRequest) (sessions : Sessions) : List Hit :=
  ((challengeTarget request sessions).map fun target =>
    { now := request.now, key := target.1, limit := twoFactorDefinition.limit }).toList

/-- The code that a challenge hands to the two-factor service. -/
@[grind =] def verifiedCode (request : ChallengeRequest) (sessions : Sessions)
    (limiter : MemoryRateLimiter) : List VerifiedCode :=
  match challengeTarget request sessions with
  | none => []
  | some (session, pending) =>
    if (limiter.hit request.now session twoFactorDefinition.limit).1.isAllowed &&
        request.service.isSome then
      [{ session := session, account := pending.id, now := request.now }]
    else []

/-- The sessions, both limiters, and the codes so far. -/
structure GuessRun where
  sessions : Sessions
  login : MemoryRateLimiter
  challenge : MemoryRateLimiter
  verified : List VerifiedCode

namespace GuessRun

@[grind =] def step (setup : Setup) (run : GuessRun) : AppAction → GuessRun
  | .login request =>
    let after := (loginSubmit setup request { sessions := run.sessions, limiter := run.login }).2
    { run with sessions := after.sessions, login := after.limiter }
  | .challenge request =>
    let after :=
      (challengeSubmit setup.forChallenge request
        { sessions := run.sessions, limiter := run.challenge }).2
    { run with
      sessions := after.sessions
      challenge := after.limiter
      verified := run.verified ++ verifiedCode request run.sessions run.challenge }

def after (setup : Setup) (run : GuessRun) (actions : List AppAction) : GuessRun :=
  actions.foldl (step setup) run

/-- The hits of an action on the limiter of challenges. -/
@[grind =] def hitOf (run : GuessRun) : AppAction → List Hit
  | .login _ => []
  | .challenge request => challengeHit request run.sessions

@[grind =] def hitsOf (setup : Setup) : GuessRun → List AppAction → List Hit
  | _, [] => []
  | run, action :: rest => run.hitOf action ++ hitsOf setup (run.step setup action) rest

/-- No window of a minute sees more codes for one account than attempts. -/
def AccountBounded (run : GuessRun) : Prop :=
  ∀ account start,
    run.verified.countP (fun code =>
        code.account = account ∧ start ≤ code.now ∧ code.now < start + 60) ≤
      5

end GuessRun

/-! ## One challenge -/

variable {setup : Setup} {request : ChallengeRequest}

theorem limiter_challengeSubmit (setup : Setup) (request : ChallengeRequest) (state : AppState) :
    (challengeSubmit setup.forChallenge request state).2.limiter =
      state.limiter.run (challengeHit request state.sessions) := by
  have checked (session : SessionId) : check setup.forChallenge.definitions request.now "two-factor"
        { username := none, ip := none, sessionId := some session, credentialId := none }
        state.limiter =
      (.ok (state.limiter.hit request.now session twoFactorDefinition.limit).1,
        (state.limiter.hit request.now session twoFactorDefinition.limit).2) :=
    rfl
  unfold challengeSubmit challengeHit
  by_cases isWired : request.guardWired = true
  · cases isSession : request.session with
    | none => simp [challengeTarget, isWired, isSession, run]
    | some session =>
      by_cases fails : request.loadFails = true
      · simp [challengeTarget, fails, run]
      · have isTarget : challengeTarget request state.sessions =
            ((state.sessions session).bind StoredSession.pending).map (session, ·) := by
          simp [challengeTarget, isWired, fails, isSession]
        rw [isTarget]
        cases isPending : (state.sessions session).bind StoredSession.pending with
        | none =>
          simp only [isWired, fails, isPending]
          rfl
        | some pending =>
          simp only [isWired, fails, isPending, checked]
          cases (state.limiter.hit request.now session twoFactorDefinition.limit).1 <;> rfl
  · simp [challengeTarget, isWired, run]

def sessionBucket (session : SessionId) : String := bucketKey session twoFactorDefinition.limit

theorem countP_verifiedCode_le (request : ChallengeRequest) (sessions : Sessions)
    (limiter : MemoryRateLimiter) (session : SessionId) :
    (verifiedCode request sessions limiter).countP (fun code => code.session = session) ≤
      limiter.allowedIn (sessionBucket session) 5 (challengeHit request sessions) := by
  unfold verifiedCode challengeHit
  cases challengeTarget request sessions with
  | none => exact Nat.zero_le _
  | some target =>
    obtain ⟨found, pending⟩ := target
    simp only [Option.map_some, Option.toList_some, allowedIn]
    split
    · next isVerified =>
      rw [Bool.and_eq_true] at isVerified
      by_cases same : found = session
      · subst same
        have counts : Hit.countsFor (sessionBucket found) 5
            { now := request.now, key := found, limit := twoFactorDefinition.limit } = true := by
          simp [Hit.countsFor, Hit.bucket, sessionBucket]
          decide
        rw [if_pos ⟨counts, isVerified.1⟩]
        simp
      · simp [same]
    · exact Nat.zero_le _

/-! ## Runs -/

namespace GuessRun

theorem challenge_step (run : GuessRun) (action : AppAction) :
    (run.step setup action).challenge = run.challenge.run (run.hitOf action) := by
  cases action with
  | login request => rfl
  | challenge request => exact limiter_challengeSubmit setup request _

theorem challenge_after (run : GuessRun) (actions : List AppAction) :
    (run.after setup actions).challenge = run.challenge.run (run.hitsOf setup actions) := by
  induction actions generalizing run with
  | nil => rfl
  | cons action rest ih =>
    rw [after, foldl_cons, ← after, ih, challenge_step, hitsOf, MemoryRateLimiter.run,
      MemoryRateLimiter.run, MemoryRateLimiter.run, foldl_append]

theorem countP_verified_le (setup : Setup) (run : GuessRun) (actions : List AppAction)
    (session : SessionId) :
    (run.after setup actions).verified.countP (fun code => code.session = session) ≤
      run.verified.countP (fun code => code.session = session) +
        run.challenge.allowedIn (sessionBucket session) 5 (run.hitsOf setup actions) := by
  induction actions generalizing run with
  | nil => exact Nat.le_refl _
  | cons action rest ih =>
    have later := ih (run.step setup action)
    have first : (run.step setup action).verified.countP (fun code => code.session = session) ≤
        run.verified.countP (fun code => code.session = session) +
          run.challenge.allowedIn (sessionBucket session) 5 (run.hitOf action) := by
      cases action with
      | login request => exact Nat.le_refl _
      | challenge request =>
        rw [step, countP_append]
        exact Nat.add_le_add_left (countP_verifiedCode_le _ _ _ _) _
    rw [challenge_step] at later
    rw [hitsOf, allowedIn_append]
    rw [after, foldl_cons, ← after]
    omega

@[grind =] def challenged (actions : List AppAction) : List SessionId :=
  actions.flatMap fun
    | .login _ => []
    | .challenge request => request.session.toList

theorem of_mem_hitsOf {run : GuessRun} {actions : List AppAction} {hit : Hit}
    (isHit : hit ∈ run.hitsOf setup actions) :
    hit.limit = twoFactorDefinition.limit ∧ hit.key ∈ challenged actions ∧
    ∃ request, .challenge request ∈ actions ∧ request.now = hit.now := by
  induction actions generalizing run with
  | nil => exact absurd isHit not_mem_nil
  | cons action rest ih =>
    rcases mem_append.mp isHit with isFirst | isLater
    · cases action with
      | login request => exact absurd isFirst not_mem_nil
      | challenge request =>
        rw [hitOf, challengeHit, Option.mem_toList, Option.map_eq_some_iff] at isFirst
        obtain ⟨target, isTarget, rfl⟩ := isFirst
        have isSession : request.session = some target.1 := by
          unfold challengeTarget at isTarget
          split at isTarget
          · cases isTarget
          · obtain ⟨session, isSession, isPending⟩ := Option.bind_eq_some_iff.mp isTarget
            obtain ⟨pending, -, rfl⟩ := Option.map_eq_some_iff.mp isPending
            exact isSession
        exact ⟨rfl, by simp [challenged, isSession], request, mem_cons_self, rfl⟩
    · obtain ⟨isLimit, isKey, request, isRequest, now⟩ := ih isLater
      refine ⟨isLimit, ?_, request, mem_cons_of_mem _ isRequest, now⟩
      exact mem_append_right _ isKey

def StartsWindow (run : GuessRun) (first : ChallengeRequest) (session : SessionId) : Prop :=
  challengeHit first run.sessions =
      [{ now := first.now, key := session, limit := twoFactorDefinition.limit }] ∧
    run.challenge.startsWindow
      { now := first.now, key := session, limit := twoFactorDefinition.limit }

end GuessRun

/--
From the challenge that starts a window of a pending session to the window's
end, no more codes of the session are verified than its limit, unless as many
other sessions are challenged as there are buckets.
-/
theorem session_codes_bounded (setup : Setup) {start : GuessRun} (isNew : start.challenge = .new)
    (before : List AppAction) {first : ChallengeRequest} {session : SessionId}
    (starts : (start.after setup before).StartsWindow first session) {window : List AppAction}
    (inWindow : ∀ request, .challenge request ∈ window →
      first.now ≤ request.now ∧ request.now < first.now + 60)
    (few : ((GuessRun.challenged window).toFinset.erase session).card < maxBuckets) :
    ((start.after setup (before ++ .challenge first :: window)).verified.countP
        fun code => code.session = session) ≤
      ((start.after setup before).verified.countP fun code => code.session = session) + 5 := by
  obtain ⟨isHit, starts⟩ := starts
  have isRun :
      (start.after setup before).challenge = new.run (start.hitsOf setup before) := by
    rw [GuessRun.challenge_after, isNew]
  have isAfter : start.after setup (before ++ .challenge first :: window) =
      (start.after setup before).after setup (.challenge first :: window) :=
    foldl_append
  have counted := GuessRun.countP_verified_le setup (start.after setup before)
      (.challenge first :: window) session
  rw [GuessRun.hitsOf, GuessRun.hitOf, isHit, isRun] at counted
  rw [isRun] at starts
  rw [isAfter]
  refine Nat.le_trans counted (Nat.add_le_add_left ?_ _)
  refine allowedIn_window_le _ starts ?_ ?_ 5
  · intro hit isHit
    obtain ⟨-, -, request, isRequest, now⟩ := GuessRun.of_mem_hitsOf isHit
    rw [← now]
    exact inWindow request isRequest
  · refine Nat.lt_of_le_of_lt (Finset.card_le_card (t := (Finset.image sessionBucket
      ((GuessRun.challenged window).toFinset.erase session))) ?_)
      (Nat.lt_of_le_of_lt Finset.card_image_le few)
    intro bucket isOther
    obtain ⟨isOther, isBucket⟩ := Finset.mem_erase.mp isOther
    obtain ⟨hit, isHit, rfl⟩ := mem_map.mp (mem_toFinset.mp isBucket)
    obtain ⟨isLimit, isKey, -⟩ := GuessRun.of_mem_hitsOf isHit
    have isSession : hit.bucket = sessionBucket hit.key := by
      rw [Hit.bucket, isLimit, sessionBucket]
    rw [isSession] at isOther ⊢
    refine Finset.mem_image_of_mem _ (Finset.mem_erase.mpr ⟨?_, mem_toFinset.mpr isKey⟩)
    rintro rfl
    exact isOther rfl

/-! ## Attempts of many sessions -/

def noGuesses : GuessRun :=
  { sessions := fun _ => none, login := .new, challenge := .new, verified := [] }

def wrongCode (session : SessionId) (now : Nat) : ChallengeRequest :=
  { guardWired := true
    session := some session
    now := now
    fresh := "z"
    loadFails := false
    service := some (.error .invalidTwoFactorCode)
    cycleFails := false
    saveFails := false }

theorem sixth_code_is_denied :
    ((noGuesses.after adaSetup [adaLogin "a" .none, .challenge (wrongCode "a" 100),
      .challenge (wrongCode "a" 101), .challenge (wrongCode "a" 102),
      .challenge (wrongCode "a" 103), .challenge (wrongCode "a" 104),
      .challenge (wrongCode "a" 159)]).verified.countP fun code => code.session = "a") ≤ 0 + 5 :=
  @session_codes_bounded adaSetup noGuesses rfl [adaLogin "a" .none] (wrongCode "a" 100) "a"
    ⟨rfl, by decide +kernel⟩ _
    (by
      intro request isRequest
      simp only [mem_cons, AppAction.challenge.injEq, not_mem_nil, or_false] at isRequest
      rcases isRequest with rfl | rfl | rfl | rfl | rfl <;> decide)
    (by decide +kernel)

/-- Five codes of one pending session, and one of the next. -/
theorem sixth_code_of_new_session :
    ¬ (noGuesses.after adaSetup [adaLogin "a" .none, .challenge (wrongCode "a" 100),
      .challenge (wrongCode "a" 101), .challenge (wrongCode "a" 102),
      .challenge (wrongCode "a" 103), .challenge (wrongCode "a" 104), adaLogin "b" .none,
      .challenge (wrongCode "b" 105)]).AccountBounded := by
  intro bounded
  exact absurd (bounded "1" 100) (by decide +kernel)

end Rustasea.App
