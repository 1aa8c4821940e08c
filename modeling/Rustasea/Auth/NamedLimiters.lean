import Rustasea.Auth.WindowBound
import Rustasea.Schedule.Cron

namespace Rustasea.Auth

/-!
# Named limiters over one rate limiter

A registry maps names to definitions; a check derives the definition's key from
the request and records one hit under it.  Buckets are told apart by window size
and key only, not by the name a hit was made under.
-/

/-- The request identities from which a named limiter derives its bucket key. -/
structure LimiterInput where
  username : Option String
  ip : Option String
  sessionId : Option String
  credentialId : Option String
  deriving DecidableEq

/-- A named limiter: the limit and the derivation of its bucket key. -/
structure LimiterDefinition where
  limit : Limit
  deriveKey : LimiterInput → Option String

/-- No limiter is registered under the requested name. -/
inductive LimiterError where
  | unknownLimiter (name : String)
  deriving DecidableEq

abbrev Definitions := String → Option LimiterDefinition

namespace Definitions

def new : Definitions := fun _ => none

def register (name : String) (definition : LimiterDefinition)
    (definitions : Definitions) : Definitions :=
  Function.update definitions name (some definition)

/-- Register `definition` under a trimmed `name` unless it is blank. -/
def registerConfigured (name : String) (definition : LimiterDefinition)
    (definitions : Definitions) : Definitions :=
  let trimmed := Schedule.trim name.toList
  if trimmed = [] then definitions
  else definitions.register (String.ofList trimmed) definition

end Definitions

/-- Resolve `name`, derive its key and record one hit. -/
def check (definitions : Definitions) (now : Nat) (name : String)
    (input : LimiterInput) (limiter : MemoryRateLimiter) :
    Except LimiterError ThrottleDecision × MemoryRateLimiter :=
  match definitions name with
  | none => (.error (.unknownLimiter name), limiter)
  | some definition =>
    match definition.deriveKey input with
    | some key =>
      let (decision, after) := limiter.hit now key definition.limit
      (.ok decision, after)
    | none => (.ok (.denied definition.limit.decaySecs.toNat), limiter)

/-! ## The kit's limiters -/

section Kit

-- `str::to_lowercase`, over all of Unicode
variable (toLowercase : String → String)

/-- Normalize a username for the `login` bucket key. -/
def normalizeUsername (username : String) : String :=
  toLowercase (String.ofList (Schedule.trim username.toList))

/-- `login`: five a minute, by normalized username and address. -/
def loginDefinition : LimiterDefinition where
  limit := Limit.perMinute 5
  deriveKey := fun input =>
    input.username.map fun username =>
      normalizeUsername toLowercase username ++ "|" ++ input.ip.getD ""

/-- `two-factor`: five a minute, by the pending session alone. -/
def twoFactorDefinition : LimiterDefinition where
  limit := Limit.perMinute 5
  deriveKey := fun input => input.sessionId

/-- `passkeys`: ten a minute, by credential or session, and address. -/
def passkeysDefinition : LimiterDefinition where
  limit := Limit.perMinute 10
  deriveKey := fun input =>
    (input.credentialId.or input.sessionId).map fun identity => identity ++ "|" ++ input.ip.getD ""

structure FortifyLimiterConfig where
  login : String
  twoFactor : Option String
  passkeys : Option String
  deriving DecidableEq

/-- Register exactly the limiters the configuration names. -/
def fromFortifyConfig (config : FortifyLimiterConfig) : Definitions :=
  let withLogin := Definitions.new.registerConfigured config.login (loginDefinition toLowercase)
  let withTwoFactor :=
    match config.twoFactor with
    | some name => withLogin.registerConfigured name twoFactorDefinition
    | none => withLogin
  match config.passkeys with
  | some name => withTwoFactor.registerConfigured name passkeysDefinition
  | none => withTwoFactor

end Kit

/-! ## Runs of checks -/

/-- One call of `check`, with the instant of the clock it reads. -/
structure Check where
  now : Nat
  name : String
  input : LimiterInput

/-- The hit a check records, when its limiter is known and derives a key. -/
def Check.hit? (definitions : Definitions) (request : Check) : Option Hit :=
  (definitions request.name).bind fun definition =>
    (definition.deriveKey request.input).map fun key =>
      { now := request.now, key := key, limit := definition.limit }

def Check.bucket? (definitions : Definitions) (request : Check) : Option String :=
  (request.hit? definitions).map Hit.bucket

def Check.apply (definitions : Definitions) (request : Check)
    (limiter : MemoryRateLimiter) : Except LimiterError ThrottleDecision × MemoryRateLimiter :=
  check definitions request.now request.name request.input limiter

def answersOf (definitions : Definitions) (name : String) : MemoryRateLimiter → List Check →
    List (Except LimiterError ThrottleDecision)
  | _, [] => []
  | limiter, request :: rest =>
    let after := request.apply definitions limiter
    if request.name = name then after.1 :: answersOf definitions name after.2 rest
    else answersOf definitions name after.2 rest

theorem answersOf_cons (definitions : Definitions) (name : String) (limiter : MemoryRateLimiter)
    (request : Check) (rest : List Check) :
    answersOf definitions name limiter (request :: rest) =
      if request.name = name then
        (request.apply definitions limiter).1 ::
          answersOf definitions name (request.apply definitions limiter).2 rest
      else
        answersOf definitions name (request.apply definitions limiter).2 rest :=
  rfl

theorem Check.apply_snd (definitions : Definitions) (request : Check)
    (limiter : MemoryRateLimiter) :
    (request.apply definitions limiter).2 =
      match request.hit? definitions with
      | some hit => limiter.after hit
      | none => limiter := by
  unfold Check.apply check Check.hit?
  cases definitions request.name with
  | none => rfl
  | some definition =>
    cases isKey : definition.deriveKey request.input with
    | none => simp [isKey]
    | some key => simp [isKey, MemoryRateLimiter.after]

/-- The answer to a check is the decision on its hit, or one of the limiter's
definition alone. -/
theorem Check.apply_fst {definitions : Definitions} {request : Check}
    {limiter other : MemoryRateLimiter} (same :
      ∀ hit, request.hit? definitions = some hit → limiter.decision hit = other.decision hit) :
    (request.apply definitions limiter).1 = (request.apply definitions other).1 := by
  unfold Check.hit? at same
  unfold Check.apply check
  cases isKnown : definitions request.name with
  | none => rfl
  | some definition =>
    cases isKey : definition.deriveKey request.input with
    | none => simp [isKey]
    | some key =>
      have sameDecision := same
          { now := request.now, key := key, limit := definition.limit }
          (by simp [isKnown, isKey])
      simpa [MemoryRateLimiter.decision, isKey] using sameDecision

end Rustasea.Auth
