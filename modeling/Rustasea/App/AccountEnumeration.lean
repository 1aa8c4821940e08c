import Rustasea.App.PasswordReset
import Rustasea.Auth.SignedUrlRoundTrip
import Rustasea.Library.Lockstep

namespace Rustasea.App

open Auth

/-!
# Telling accounts apart

Someone who asks for reset links and logs in with wrong passwords learns nothing
of whether an email has an account, as long as what only a known account gets as
far as does not fail.
-/

/-! ## Guests -/

/-- What the two handlers share between requests. -/
structure GuestState where
  app : AppState
  resets : ResetState

inductive Probe where
  | forgot (request : ForgotRequest)
  | login (request : LoginRequest)

def answer (setup : ResetSetup) : Lockstep.Machine GuestState Probe Response
  | state, .forgot request =>
    let (response, resets) := forgotSubmit setup request state.resets
    (response, { state with resets := resets })
  | state, .login request =>
    let (response, app) := loginSubmit setup.toSetup request state.app
    (response, { state with app := app })

def Response.visible (response : Response) : Nat × Option String × Option ErrorItem :=
  (response.status, response.location, response.error)

def ResetSetup.withAccount (setup : ResetSetup) (email : String) (record : AuthUserRecord)
    (enrolment : Option TwoFactorRecord) : ResetSetup :=
  { setup with
    services :=
      { setup.services with
        users := Function.update setup.services.users email (some record)
        twoFactor := Function.update setup.services.twoFactor record.id enrolment } }

/-- A request for an email, with a password that is not the account's. -/
def Probe.IsFor (setup : ResetSetup) (email : String) (record : AuthUserRecord) : Probe → Prop
  | .forgot request => request.email = email
  | .login request =>
    request.username setup.toSetup = email ∧
      setup.services.verify record.passwordHash request.password = false

instance (setup : ResetSetup) (email : String) (record : AuthUserRecord) :
    DecidablePred (Probe.IsFor setup email record)
  | .forgot request => inferInstanceAs (Decidable (request.email = email))
  | .login _ => inferInstanceAs (Decidable (_ ∧ _))

/-- Nothing fails between finding an account and having mailed its link. -/
def LinkGoesOut (setup : ResetSetup) (request : ForgotRequest) : Prop :=
  setup.signer.getD [] ≠ [] ∧ request.faults.hash = false ∧ request.faults.create = false ∧
    request.faults.mailer = false ∧ request.faults.message = false ∧ request.faults.deliver = false

instance
    (setup : ResetSetup) (request : ForgotRequest) : Decidable (LinkGoesOut setup request) :=
  inferInstanceAs (Decidable (_ ∧ _))

/--
The two-factor store fails only where the second lookup of the login does, and
that lookup does not fail where a confirmed account is answered without it.
-/
def SecondLookupAgrees (enrolment : Option TwoFactorRecord) (faults : LoginFaults) : Prop :=
  if faults.twoFactorGet then faults.loginFind = true
  else enrolment.any TwoFactorRecord.isConfirmed → faults.loginFind = false

instance (enrolment : Option TwoFactorRecord) (faults : LoginFaults) :
    Decidable (SecondLookupAgrees enrolment faults) := by
  unfold SecondLookupAgrees
  infer_instance

/-- A request that is let through to the lookup tells nothing by a failure. -/
def FailsAlike (setup : ResetSetup) (enrolment : Option TwoFactorRecord)
    (state : GuestState) : Probe → Prop
  | .forgot request =>
    (refuseForgot setup request state.resets.limiter).1 = none → request.faults.find = false →
        LinkGoesOut setup request
  | .login request =>
    (refuseLogin setup.toSetup request state.app.limiter).1 = none →
      request.faults.interceptFind = false → SecondLookupAgrees enrolment request.faults

instance (setup : ResetSetup) (enrolment : Option TwoFactorRecord) (state : GuestState) :
    DecidablePred (FailsAlike setup enrolment state)
  | .forgot request => inferInstanceAs (Decidable (_ → _ → LinkGoesOut setup request))
  | .login request =>
    inferInstanceAs (Decidable (_ → _ → SecondLookupAgrees enrolment request.faults))

/-! ## Logging in with a wrong password -/

def wrongPasswordResponse (faults : LoginFaults) : Response :=
  if faults.loginFind then failClosed authUnavailable
  else invalidCredentials

theorem authenticate_unknown {setup : Setup} {request : LoginRequest}
    (isUnknown : setup.services.users (request.username setup) = none) (sessions : Sessions) :
    (authenticate setup request sessions).1 = wrongPasswordResponse request.faults := by
  unfold authenticate interceptLogin loginWithProvider wrongPasswordResponse
  simp only [isUnknown, ite_self]
  cases request.faults.loginFind <;> rfl

theorem authenticate_wrongPassword
    {setup : Setup} {request : LoginRequest} {record : AuthUserRecord}
    (isKnown : setup.services.users (request.username setup) = some record)
    (isWrong : setup.services.verify record.passwordHash request.password = false)
    (sessions : Sessions) :
    (authenticate setup request sessions).1 =
      if request.faults.interceptFind then wrongPasswordResponse request.faults
      else if request.faults.twoFactorGet then failClosed authUnavailable
      else if setup.services.isConfirmed record.id then invalidCredentials
      else wrongPasswordResponse request.faults := by
  unfold authenticate interceptLogin loginWithProvider wrongPasswordResponse
  simp only [isKnown, isWrong]
  cases request.faults.interceptFind <;> cases request.faults.twoFactorGet <;>
    cases setup.services.isConfirmed record.id <;> cases request.faults.loginFind <;> rfl

section TwoWorlds

variable {setup : ResetSetup} {email : String} {record : AuthUserRecord}
  {enrolment : Option TwoFactorRecord}

theorem users_withAccount :
    (setup.withAccount email record enrolment).services.users email = some record := by
  simp [ResetSetup.withAccount]

theorem isConfirmed_withAccount :
    (setup.withAccount email record enrolment).services.isConfirmed record.id =
      enrolment.any TwoFactorRecord.isConfirmed := by
  simp [ResetSetup.withAccount, Services.isConfirmed]

theorem visible_unavailable_ne :
    (failClosed authUnavailable).visible ≠ invalidCredentials.visible := by
  decide

theorem visible_authenticate_eq_iff
    (isUnknown : setup.services.users email = none) {request : LoginRequest}
    (isFor : (Probe.login request).IsFor setup email record) (sessions shadow : Sessions) :
    (authenticate setup.toSetup request sessions).1.visible =
      (authenticate (setup.withAccount email record enrolment).toSetup request shadow).1.visible ↔
      (request.faults.interceptFind = false → SecondLookupAgrees enrolment request.faults) := by
  obtain ⟨isEmail, isWrong⟩ := isFor
  have isKnown : (setup.withAccount email record enrolment).services.users
        (request.username (setup.withAccount email record enrolment).toSetup) =
      some record :=
    isEmail.symm ▸ users_withAccount
  rw [authenticate_unknown (isEmail.symm ▸ isUnknown),
    authenticate_wrongPassword isKnown isWrong, isConfirmed_withAccount]
  unfold wrongPasswordResponse SecondLookupAgrees
  have differ := visible_unavailable_ne
  cases request.faults.interceptFind <;> cases request.faults.twoFactorGet <;>
    cases enrolment.any TwoFactorRecord.isConfirmed <;> cases request.faults.loginFind <;>
    simp [differ, differ.symm]

/-! ## Requesting a link -/

theorem visible_failClosed_ne (detail : String) :
    (failClosed detail).visible ≠ (seeOther forgotPath).visible := by
  intro same
  have sameStatus : 500 = 303 := congrArg Prod.fst same
  contradiction

theorem resetLink_eq (setup : ResetSetup) (key : List UInt8) (signedAt : Int)
    (email token : String) :
    ∃ link, resetLink setup key signedAt email token =
        if key = [] then .error .missingKey else .ok link := by
  unfold resetLink signExpiring
  by_cases isEmpty : key = []
  · exact ⟨[], by simp [isEmpty]⟩
  · exact ⟨_, by simp only [isEmpty]; rfl⟩

variable {request : ForgotRequest} {user : AuthUserRecord}

theorem visible_mailLink_eq_iff {token : String} {state : ResetState} :
    (mailLink setup request user token state).1.visible = (seeOther forgotPath).visible ↔
      setup.signer.getD [] ≠ [] ∧ request.faults.mailer = false ∧ request.faults.message = false ∧
      request.faults.deliver = false := by
  have differ := visible_failClosed_ne
  unfold mailLink
  obtain ⟨link, isLink⟩ :=
    resetLink_eq setup (setup.signer.getD []) request.signedAt user.email token
  rw [isLink]
  by_cases isEmpty : setup.signer.getD [] = []
  · simp [isEmpty, differ]
  · cases request.faults.mailer <;> cases request.faults.message <;>
      cases request.faults.deliver <;> simp [isEmpty, differ]

theorem visible_sendLink_eq_iff {state : ResetState} :
    (sendLink setup request user state).1.visible = (seeOther forgotPath).visible ↔
      LinkGoesOut setup request := by
  have differ := visible_failClosed_ne
  unfold sendLink issueToken LinkGoesOut
  cases isSigner : setup.signer with
  | none => simp [differ]
  | some key =>
    cases request.faults.hash <;> cases request.faults.create <;>
      simp [differ, visible_mailLink_eq_iff, isSigner]

theorem visible_forgotSubmit_eq_iff (isUnknown : setup.services.users email = none)
    (isFor : request.email = email) {state shadow : ResetState}
    (sameLimiter : state.limiter = shadow.limiter) :
    (forgotSubmit setup request state).1.visible =
        (forgotSubmit (setup.withAccount email record enrolment) request shadow).1.visible ↔
      ((refuseForgot setup request state.limiter).1 = none → request.faults.find = false →
        LinkGoesOut setup request) := by
  subst email
  have sameRefusal : refuseForgot (setup.withAccount request.email record enrolment)
        request shadow.limiter =
      refuseForgot setup request state.limiter :=
    sameLimiter ▸ rfl
  unfold forgotSubmit findForgotten
  rw [sameRefusal, isUnknown, users_withAccount]
  rcases refuseForgot setup request state.limiter with ⟨_ | response, limiter⟩
  · cases request.faults.find with
    | true => simp
    | false =>
      simp only [Bool.false_eq_true, if_false, forall_const]
      exact eq_comm.trans visible_sendLink_eq_iff
  · simp

end TwoWorlds

/-! ## Every sequence of requests -/

variable (setup : ResetSetup) (request : ForgotRequest) (user : AuthUserRecord) (state : ResetState)

theorem issueToken_limiter : (issueToken setup request user state).2.limiter = state.limiter := by
  unfold issueToken
  split
  · rfl
  · split <;> rfl

theorem mailLink_limiter (token : String) (state : ResetState) :
    (mailLink setup request user token state).2.limiter = state.limiter := by
  unfold mailLink
  split
  · rfl
  · split <;> rfl

theorem sendLink_limiter : (sendLink setup request user state).2.limiter = state.limiter := by
  have kept := issueToken_limiter setup request user state
  unfold sendLink
  rcases isIssued : issueToken setup request user state with
    ⟨response | token, after⟩ <;>
    rw [isIssued] at kept
  · exact kept
  · exact (mailLink_limiter setup request user token after).trans kept

theorem forgotSubmit_limiter :
    (forgotSubmit setup request state).2.limiter =
      (refuseForgot setup request state.limiter).2 := by
  unfold forgotSubmit
  rcases refuseForgot setup request state.limiter with ⟨_ | response, limiter⟩
  · cases findForgotten setup request with
    | error response => rfl
    | ok user => exact sendLink_limiter setup request user _
  · rfl

theorem loginSubmit_limiter (setup : Setup) (request : LoginRequest) (state : AppState) :
    (loginSubmit setup request state).2.limiter = (refuseLogin setup request state.limiter).2 := by
  unfold loginSubmit
  rcases refuseLogin setup request state.limiter with ⟨_ | response, limiter⟩ <;> rfl

theorem loginSubmit_fst (setup : Setup) (request : LoginRequest) (state : AppState) :
    (loginSubmit setup request state).1 = (refuseLogin setup request state.limiter).1.getD
      (authenticate setup request state.sessions).1 := by
  unfold loginSubmit
  rcases refuseLogin setup request state.limiter with ⟨_ | response, limiter⟩ <;> rfl

/--
Whether an email has an account shows in no sequence of answers, exactly when
every request fails alike for it and for an unknown email.
-/
theorem accounts_look_alike_iff {setup : ResetSetup} {email : String}
    (isUnknown : setup.services.users email = none) (record : AuthUserRecord)
    (enrolment : Option TwoFactorRecord) (start : GuestState) {probes : List Probe}
    (areFor : ∀ probe ∈ probes, probe.IsFor setup email record) :
    (Lockstep.answers (answer setup) start probes).map Response.visible =
        (Lockstep.answers (answer (setup.withAccount email record enrolment)) start probes).map
          Response.visible ↔
      Lockstep.Along (answer setup) (FailsAlike setup enrolment) start probes := by
  refine Lockstep.map_answers_eq_iff
      (fun state shadow : GuestState =>
        state.app.limiter = shadow.app.limiter ∧ state.resets.limiter = shadow.resets.limiter)
      ?_ ⟨rfl, rfl⟩ areFor
  rintro state shadow (request | request) ⟨sameLogins, sameResets⟩ isFor
  · refine ⟨visible_forgotSubmit_eq_iff isUnknown isFor sameResets, ?_⟩
    refine ⟨sameLogins, ?_⟩
    dsimp only [answer]
    rw [forgotSubmit_limiter, forgotSubmit_limiter, ← sameResets]
    rfl
  · have sameRefusal : refuseLogin (setup.withAccount email record enrolment).toSetup request
          shadow.app.limiter =
        refuseLogin setup.toSetup request state.app.limiter :=
      sameLogins ▸ rfl
    refine ⟨?_, ?_, sameResets⟩
    · dsimp only [answer, FailsAlike]
      rw [loginSubmit_fst, loginSubmit_fst, sameRefusal]
      cases (refuseLogin setup.toSetup request state.app.limiter).1 with
      | none =>
        rw [Option.getD_none, Option.getD_none, visible_authenticate_eq_iff isUnknown isFor,
          forall_prop_of_true rfl]
      | some response => simp
    · dsimp only [answer]
      rw [loginSubmit_limiter, loginSubmit_limiter, sameRefusal]

def guestSetup (signer : Option (List UInt8)) : ResetSetup :=
  { services :=
      { users := fun _ => none
        twoFactor := fun _ => none
        verify := fun hash password => hash = password }
    config :=
      { username := "email"
        lowercaseUsernames := false
        home := "/dashboard"
        resetPasswords := true }
    definitions :=
      fromFortifyConfig id { login := "login", twoFactor := some "two-factor", passkeys := none }
    toLowercase := id
    signer := signer
    crypto := transparentCrypto
    tokens := fun drawn => String.ofList (List.replicate (drawn + 1) 'a')
    hash := fun _ text => text
    acceptsPassword := fun password confirmation => password = confirmation
    expireMinutes := 60
    appUrl := "http://localhost" }

def adaRecord : AuthUserRecord :=
  { id := "1"
    email := "ada@example.com"
    passwordHash := "secret"
    emailVerifiedAt := none
    timezone := none }

/-- The two-factor authentication that an account has confirmed. -/
def adaEnrolment : TwoFactorRecord :=
  { userId := "1", secret := some "sealed", recoveryCodes := [], confirmedAt := some "2024-01-01" }

def askForLink (faults : ForgotFaults) : Probe :=
  .forgot
    { fields := [("email", "ada@example.com")]
      throttledAt := 100
      createdAt := 100
      signedAt := 100
      salt := ""
      faults := faults }

def guessPassword (faults : LoginFaults) : Probe :=
  .login
    { guardWired := true
      fields := [("email", "ada@example.com"), ("password", "guess")]
      ip := "10.0.0.1"
      now := 101
      fresh := "a"
      faults := faults }

def noGuests : GuestState :=
  { app :=
      { sessions := fun _ => none, limiter := .new }
    resets :=
      { limiter := .new, drawn := 0, rows := fun _ => none, outbox := [], updates := [] } }

theorem ada_looks_like_nobody :
    (Lockstep.answers
      (answer ((guestSetup (some [1])).withAccount "ada@example.com" adaRecord (some adaEnrolment)))
      noGuests [askForLink .none, guessPassword .none]).map Response.visible =
      (Lockstep.answers (answer (guestSetup (some [1]))) noGuests
        [askForLink .none, guessPassword .none]).map Response.visible :=
  ((accounts_look_alike_iff rfl adaRecord (some adaEnrolment) noGuests (by decide +kernel)).mpr
    (by decide +kernel)).symm

theorem account_shows_without_signer :
    (Lockstep.answers (answer ((guestSetup none).withAccount "ada@example.com" adaRecord none))
      noGuests [askForLink .none]).map Response.visible ≠
      (Lockstep.answers (answer (guestSetup none)) noGuests [askForLink .none]).map
        Response.visible := by
  decide +kernel

end Rustasea.App
