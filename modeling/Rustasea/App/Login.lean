import Rustasea.Auth.NamedLimiters
import Rustasea.Auth.SessionGuard

namespace Rustasea.App

open Auth

/-!
# Logging in

A login is throttled, then the two-factor interception looks the account up,
and then the ordinary login looks it up again.  Each call of a service may fail;
which ones do is part of the request.
-/

/-! ## Responses -/

structure ErrorItem where
  status : Nat
  code : String
  title : String
  detail : String
  deriving DecidableEq

structure Response where
  status : Nat
  location : Option String
  error : Option ErrorItem
  retryAfter : Option Nat
  cookie : Option SessionId
  deriving DecidableEq

def canonicalReason (status : Nat) : String :=
  if status = 403 then "Forbidden"
  else if status = 404 then "Not Found"
  else if status = 422 then "Unprocessable Entity"
  else if status = 429 then "Too Many Requests"
  else if status = 500 then "Internal Server Error"
  else "Error"

def jsonError (status : Nat) (code detail : String) : Response :=
  { status := status
    location := none
    error :=
      some { status := status, code := code, title := canonicalReason status, detail := detail }
    retryAfter := none
    cookie := none }

def failClosed (detail : String) : Response := jsonError 500 "AuthError::Unavailable" detail

def seeOther (location : String) : Response :=
  { status := 303, location := some location, error := none, retryAfter := none, cookie := none }

def found (location : String) : Response :=
  { seeOther location with status := 302 }

def throttleResponse (retryAfterSecs : Nat) : Response :=
  { jsonError 429 "Throttle"
      ("Rate limit exceeded; retry in " ++ toString retryAfterSecs ++ " seconds.") with
    retryAfter := some retryAfterSecs }

def invalidCredentials : Response :=
  jsonError 422 "AuthError::BadCredentials" "These credentials do not match our records."

def authUnavailable : String := "Authentication is temporarily unavailable."

def challengePath : String := "/two-factor-challenge"

def loginPath : String := "/login"

/-! ## Services -/

structure AuthUserRecord where
  id : String
  email : String
  passwordHash : String
  emailVerifiedAt : Option String
  timezone : Option String
  deriving DecidableEq

def AuthUserRecord.sessionUser (record : AuthUserRecord) : SessionUser :=
  { id := record.id
    email := some record.email
    emailVerifiedAt := record.emailVerifiedAt
    timezone := record.timezone }

/-- What the services answer when they do not fail. -/
structure Services where
  users : String → Option AuthUserRecord
  twoFactor : String → Option TwoFactorRecord
  verify : (hash password : String) → Bool

def Services.isConfirmed (services : Services) (account : String) : Bool :=
  (services.twoFactor account).any TwoFactorRecord.isConfirmed

structure FortifyConfig where
  username : String
  lowercaseUsernames : Bool
  home : String
  resetPasswords : Bool
  deriving DecidableEq

/-- How the application is set up. -/
structure Setup where
  services : Services
  config : FortifyConfig
  definitions : Definitions
  -- `str::to_lowercase`, over all of Unicode
  toLowercase : String → String

/-- Where the user of a session comes from. -/
inductive Origin where
  | login
  | challenge
  | other
  deriving DecidableEq

/-- What a session holds under the two keys of the guard. -/
structure StoredSession where
  user : Option SessionUser
  pending : Option SessionUser
  origin : Origin
  deriving DecidableEq

abbrev Sessions := SessionId → Option StoredSession

/-! ## The login handler -/

/-- Which calls of the services fail. -/
structure LoginFaults where
  interceptFind : Bool
  twoFactorGet : Bool
  challengeSave : Bool
  loginFind : Bool
  persist : Bool
  deriving DecidableEq

def LoginFaults.none : LoginFaults :=
  { interceptFind := false
    twoFactorGet := false
    challengeSave := false
    loginFind := false
    persist := false }

/-- A request with what happens around it. -/
structure LoginRequest where
  guardWired : Bool
  fields : List (String × String)
  ip : String
  now : Nat
  fresh : SessionId
  faults : LoginFaults
  deriving DecidableEq

def field (fields : List (String × String)) (name : String) : String := (fields.lookup name).getD ""

def trim (text : String) : String := String.ofList (Schedule.trim text.toList)

def Setup.username (setup : Setup) (raw : String) : String :=
  if setup.config.lowercaseUsernames then setup.toLowercase (trim raw)
  else trim raw

namespace LoginRequest

variable (setup : Setup) (request : LoginRequest)

def username : String := setup.username (field request.fields setup.config.username)

def password : String := field request.fields "password"

end LoginRequest

def startChallenge (user : SessionUser) (fails : Bool) (fresh : SessionId)
    (sessions : Sessions) : Response × Sessions :=
  if fails then (failClosed authUnavailable, sessions)
  else
    ({ found challengePath with cookie := some fresh }, Function.update sessions fresh
        (some { user := none, pending := some user, origin := .login }))

/-- Interrupt a login when the account has confirmed a second factor. -/
def interceptLogin (services : Services) (faults : LoginFaults) (username password : String)
    (fresh : SessionId) (sessions : Sessions) : Option Response × Sessions :=
  if faults.interceptFind then
    -- Left to the ordinary login to fail again.
    (none, sessions)
  else
    match services.users username with
    | none => (none, sessions)
    | some record =>
      if faults.twoFactorGet then (some (failClosed authUnavailable), sessions)
      else if services.isConfirmed record.id then
        if services.verify record.passwordHash password then
          (startChallenge record.sessionUser faults.challengeSave fresh sessions).map some id
        else (some invalidCredentials, sessions)
      else (none, sessions)

inductive LoginFailure where
  | badCredentials
  | unavailable
  deriving DecidableEq

/-- An unknown account and a wrong password are answered alike. -/
def LoginFailure.response : LoginFailure → Response
  | .badCredentials => invalidCredentials
  | .unavailable => failClosed authUnavailable

def loginWithProvider (services : Services) (faults : LoginFaults) (username password : String)
    (fresh : SessionId) (sessions : Sessions) : Except LoginFailure SessionId × Sessions :=
  if faults.loginFind then (.error .unavailable, sessions)
  else
    match services.users username with
    | none => (.error .badCredentials, sessions)
    | some record =>
      if services.verify record.passwordHash password then
        if faults.persist then (.error .unavailable, sessions)
        else
          (.ok fresh, Function.update sessions fresh
              (some { user := some record.sessionUser, pending := none, origin := .login }))
      else (.error .badCredentials, sessions)

def authenticate (setup : Setup) (request : LoginRequest)
    (sessions : Sessions) : Response × Sessions :=
  let username := request.username setup
  match interceptLogin setup.services request.faults username
      request.password request.fresh sessions with
  | (some response, after) => (response, after)
  | (none, intercepted) =>
    match loginWithProvider setup.services request.faults username
        request.password request.fresh intercepted with
    | (.ok token, after) => ({ seeOther setup.config.home with cookie := some token }, after)
    | (.error failure, after) => (failure.response, after)

/-- What stops a login before any account is looked up. -/
def refuseLogin (setup : Setup) (request : LoginRequest)
    (limiter : MemoryRateLimiter) : Option Response × MemoryRateLimiter :=
  if !request.guardWired then (some (failClosed authUnavailable), limiter)
  else if trim (field request.fields setup.config.username) = "" ∨ request.password = "" then
    (some
      (jsonError 422 "ValidationError" "The username and password fields are required."), limiter)
  else
    match check setup.definitions request.now "login"
        { username := some (request.username setup)
          ip := some request.ip
          sessionId := none
          credentialId := none } limiter with
    | (.ok (.allowed _), after) => (none, after)
    | (.ok (.denied retryAfterSecs), after) => (some (throttleResponse retryAfterSecs), after)
    | (.error _, after) =>
      (some (jsonError 500 "Throttle" "Rate limiting is misconfigured."), after)

/-- What handlers share: the sessions, and the hits of the limiters. -/
structure AppState where
  sessions : Sessions
  limiter : MemoryRateLimiter

/-- `POST /login` -/
def loginSubmit (setup : Setup) (request : LoginRequest) (state : AppState) : Response × AppState :=
  match refuseLogin setup request state.limiter with
  | (some response, limiter) => (response, { state with limiter := limiter })
  | (none, limiter) =>
    let (response, sessions) := authenticate setup request state.sessions
    (response, { sessions := sessions, limiter := limiter })

end Rustasea.App
