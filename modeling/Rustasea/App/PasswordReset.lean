import Rustasea.App.Login
import Rustasea.Auth.SignedUrl

namespace Rustasea.App

open Auth PercentEncoding

/-!
# Resetting a password

A request for a link stores the hash of a new token and mails the token in a
signed link; the form behind the link presents it.  Each handler is the sequence
of its calls of the store, the user provider and the mailer.
-/

/-! ## The token store -/

/-- A row of the token store. -/
structure PasswordResetRecord where
  email : String
  tokenHash : String
  createdAt : Int
  deriving DecidableEq

abbrev ResetRows := String → Option PasswordResetRecord

namespace ResetRows

def create (email tokenHash : String) (createdAt : Int) (rows : ResetRows) : ResetRows :=
  Function.update rows email
    (some { email := email, tokenHash := tokenHash, createdAt := createdAt })

def delete (email : String) (rows : ResetRows) : ResetRows :=
  Function.update rows email none

end ResetRows

/-! ## Wiring -/

/-- What the reset handlers are wired to. -/
structure ResetSetup extends Setup where
  signer : Option (List UInt8)
  crypto : UrlCrypto
  -- `generate_token`, draw by draw
  tokens : Nat → String
  hash : (salt text : String) → String
  -- `required|string|password|confirmed`, under the production policy
  acceptsPassword : (password confirmation : Option String) → Bool
  expireMinutes : Nat
  appUrl : String

structure ResetMail where
  address : String
  link : List UInt8
  deriving DecidableEq

structure PasswordUpdate where
  account : String
  passwordHash : String
  deriving DecidableEq

/-- What the reset handlers share. -/
structure ResetState where
  limiter : MemoryRateLimiter
  drawn : Nat
  rows : ResetRows
  outbox : List ResetMail
  updates : List PasswordUpdate

def resetDefinitions : Definitions :=
  Definitions.new.register "password.email"
    { limit := Limit.perMinute 6, deriveKey := fun input => input.username }

def resetDisabled : Response := jsonError 404 "ResetDisabled" "Password resets are disabled."

/-- The text for a missing signer, and for a token store that fails. -/
def resetUnavailable : String := "Password reset is temporarily unavailable."

def mailerUnavailable : String := "Email delivery is temporarily unavailable."

def forbidden (code : String) : Response :=
  jsonError 403 code "This password reset link is invalid or has expired."

def forgotPath : String := "/forgot-password"

def resetPath (token : String) : String := "/reset-password/" ++ token

/-! ## Requesting a link -/

/-- Which calls fail while a link is requested. -/
structure ForgotFaults where
  find : Bool
  hash : Bool
  create : Bool
  mailer : Bool
  message : Bool
  deliver : Bool
  deriving DecidableEq

def ForgotFaults.none : ForgotFaults :=
  { find := false
    hash := false
    create := false
    mailer := false
    message := false
    deliver := false }

/-- A request for a link, with the clock's readings along the way. -/
structure ForgotRequest where
  fields : List (String × String)
  throttledAt : Nat
  createdAt : Int
  signedAt : Int
  salt : String
  faults : ForgotFaults
  deriving DecidableEq

def ForgotRequest.email (request : ForgotRequest) : String := trim (field request.fields "email")

/-- What stops a request for a link before any account is looked up. -/
def refuseForgot (setup : ResetSetup) (request : ForgotRequest)
    (limiter : MemoryRateLimiter) : Option Response × MemoryRateLimiter :=
  if !setup.config.resetPasswords then (some resetDisabled, limiter)
  else if request.email = "" then
    (some (jsonError 422 "ValidationError" "The email field is required."), limiter)
  else
    match check resetDefinitions request.throttledAt "password.email"
        { username := some request.email
          ip := none
          sessionId := none
          credentialId := none } limiter with
    | (.ok (.allowed _), after) => (none, after)
    | (.ok (.denied retryAfterSecs), after) => (some (throttleResponse retryAfterSecs), after)
    | (.error _, after) => (some (failClosed authUnavailable), after)

def findForgotten (setup : ResetSetup) (request : ForgotRequest) : Except Response AuthUserRecord :=
  if request.faults.find then .error (failClosed authUnavailable)
  else
    match setup.services.users request.email with
    | none => .error (seeOther forgotPath)
    | some user => .ok user

def issueToken (setup : ResetSetup) (request : ForgotRequest) (user : AuthUserRecord)
    (state : ResetState) : Except Response String × ResetState :=
  if setup.signer.isNone then (.error (failClosed resetUnavailable), state)
  else
    let token := setup.tokens state.drawn
    let drawn := { state with drawn := state.drawn + 1 }
    if request.faults.hash || request.faults.create then
      (.error (failClosed resetUnavailable), drawn)
    else
      (.ok token,
        { drawn with
          rows := state.rows.create user.email (setup.hash request.salt token) request.createdAt })

def resetLink (setup : ResetSetup) (key : List UInt8) (signedAt : Int)
    (email token : String) : Except SignedUrlError (List UInt8) := do
  let query ←
    signExpiring setup.crypto key signedAt (resetPath token)
      (setup.expireMinutes * 60) [("email", email)]
  pure (utf8 setup.appUrl ++ utf8 (resetPath token) ++ utf8 "?" ++ query)

def mailLink (setup : ResetSetup) (request : ForgotRequest) (user : AuthUserRecord) (token : String)
    (state : ResetState) : Response × ResetState :=
  match resetLink setup (setup.signer.getD []) request.signedAt user.email token with
  | .error _ => (failClosed resetUnavailable, state)
  | .ok link =>
    if request.faults.mailer || request.faults.message ||
        request.faults.deliver then
      (failClosed mailerUnavailable, state)
    else
      (seeOther forgotPath,
        { state with outbox := state.outbox ++ [{ address := user.email, link := link }] })

def sendLink (setup : ResetSetup) (request : ForgotRequest) (user : AuthUserRecord)
    (state : ResetState) : Response × ResetState :=
  match issueToken setup request user state with
  | (.error response, state) => (response, state)
  | (.ok token, state) => mailLink setup request user token state

/-- `POST /forgot-password` -/
def forgotSubmit (setup : ResetSetup) (request : ForgotRequest)
    (state : ResetState) : Response × ResetState :=
  match refuseForgot setup request state.limiter with
  | (some response, limiter) => (response, { state with limiter := limiter })
  | (none, limiter) =>
    let state := { state with limiter := limiter }
    match findForgotten setup request with
    | .error response => (response, state)
    | .ok user => sendLink setup request user state

/-! ## Consuming a link -/

/-- Which calls fail while a password is reset. -/
structure ResetFaults where
  find : Bool
  findUser : Bool
  hash : Bool
  delete : Bool
  update : Bool
  deriving DecidableEq

def ResetFaults.none : ResetFaults :=
  { find := false, findUser := false, hash := false, delete := false, update := false }

/-- A submitted reset form, with the clock's readings along the way. -/
structure ResetRequest where
  fields : List (String × String)
  linkedAt : Int
  checkedAt : Int
  salt : String
  faults : ResetFaults
  deriving DecidableEq

namespace ResetRequest

variable (request : ResetRequest)

def email : String := trim (field request.fields "email")

def token : String := field request.fields "token"

def signedQuery : List UInt8 :=
  utf8 "email=" ++ encode (utf8 request.email) ++
    utf8 "&expires=" ++ utf8 (field request.fields "expires") ++
      utf8 "&signature=" ++ utf8 (field request.fields "signature")

end ResetRequest

/-- What stops a form before the token store is asked. -/
def refuseLink (setup : ResetSetup) (request : ResetRequest) : Option Response :=
  if !setup.config.resetPasswords then some resetDisabled
  else if request.email = "" ∨ request.token = "" then some (forbidden "MissingSignature")
  else
    match setup.signer with
    | none => some (failClosed resetUnavailable)
    | some key =>
      match verify setup.crypto key (resetPath request.token)
          request.signedQuery request.linkedAt with
      | .ok () => none
      | .error .missingKey => some (failClosed resetUnavailable)
      | .error error => some (forbidden error.code)

/-- Whether a row is unexpired and of the presented token. -/
def tokenMatches (setup : ResetSetup) (request : ResetRequest) (row : PasswordResetRecord) : Bool :=
  request.checkedAt ≤ row.createdAt + setup.expireMinutes * 60 &&
    setup.services.verify row.tokenHash request.token

def checkToken (setup : ResetSetup) (request : ResetRequest)
    (rows : ResetRows) : Except Response PasswordResetRecord :=
  if request.faults.find then .error (forbidden "InvalidSignature")
  else
    match (rows request.email).filter (tokenMatches setup request) with
    | none => .error (forbidden "InvalidSignature")
    | some row => .ok row

/-- Validate the new password, look the account up, and hash it. -/
def preparePassword (setup : ResetSetup)
    (request : ResetRequest) : Except Response PasswordUpdate :=
  if !setup.acceptsPassword (request.fields.lookup "password")
      (request.fields.lookup "password_confirmation") then
    .error (jsonError 422 "ValidationError" "The password field is invalid.")
  else if request.faults.findUser then .error (failClosed authUnavailable)
  else
    match setup.services.users request.email with
    | none => .error (forbidden "InvalidSignature")
    | some user =>
      if request.faults.hash then .error (failClosed resetUnavailable)
      else
        .ok
          { account := user.id
            passwordHash := setup.hash request.salt (field request.fields "password") }

def consumeToken (request : ResetRequest) (state : ResetState) : Except Response ResetState :=
  if request.faults.delete then .error (failClosed resetUnavailable)
  else .ok { state with rows := state.rows.delete request.email }

def writePassword (request : ResetRequest) (update : PasswordUpdate)
    (state : ResetState) : Response × ResetState :=
  if request.faults.update then (failClosed resetUnavailable, state)
  else (seeOther loginPath, { state with updates := state.updates ++ [update] })

end Rustasea.App
