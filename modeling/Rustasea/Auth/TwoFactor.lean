import Mathlib.Data.List.Nodup

namespace Rustasea.Auth

/-!
# Errors of the authentication services
-/

/-- Typed authentication errors, as the services below return them. -/
inductive AuthError where
  | invalidToken
  | hash (cause : String)
  | storeUnavailable
  | twoFactorRequired
  | invalidTwoFactorCode
  | twoFactor (cause : String)
  | passkeyRequired
  | invalidPasskeyAssertion
  | passkey (cause : String)
  deriving DecidableEq

/-!
## Two-factor authentication

The secret is sealed, and each recovery code is stored as a hash that is removed
when the code is consumed.  The operations that read the record first are given
as what follows the read: the record they put, or the error they end with.
-/

/-! ## The service and its store -/

structure TwoFactorRecord where
  userId : String
  secret : Option String
  recoveryCodes : List String
  confirmedAt : Option String
  deriving DecidableEq

/-- Whether two-factor authentication has been confirmed for this user. -/
def TwoFactorRecord.isConfirmed (record : TwoFactorRecord) : Bool := record.confirmedAt.isSome

/-- `NONCE_LEN`. -/
abbrev Nonce := Vector UInt8 12

/-- The cipher, the password hash and the one-time codes of the service. -/
structure TwoFactorService where
  encrypt : (nonce : Nonce) → (secret : String) → Except AuthError String
  decrypt : (envelope : String) → Except AuthError String
  hash : (salt code : String) → Except AuthError String
  verify : (hash code : String) → Bool
  verifyCode : (secret code : String) → (nowSecs : Nat) → Bool

/-- A hash verifies no code but the one it is made of. -/
def TwoFactorService.HashesApart (service : TwoFactorService) : Prop :=
  ∀ salt code hash other,
    service.hash salt code = .ok hash → service.verify hash other = true → other = code

/-! ## Recovery codes -/

def RECOVERY_CODE_COUNT : Nat := 10

def RECOVERY_GROUP_LEN : Nat := 5

/-- A character of a recovery code: letters first, digits after the hyphen. -/
def recoveryCharacter (index : Nat) (byte : UInt8) : Char :=
  if index < RECOVERY_GROUP_LEN then Char.ofNat (97 + byte.toNat % 26)
  else Char.ofNat (48 + byte.toNat % 10)

abbrev RecoveryBytes := Vector UInt8 (RECOVERY_GROUP_LEN * 2)

def randomRecoveryCode (bytes : RecoveryBytes) : String :=
  String.ofList
    (bytes.toList.zipIdx.flatMap fun (byte, index) =>
      if index = RECOVERY_GROUP_LEN then ['-', recoveryCharacter index byte]
      else [recoveryCharacter index byte])

/-- The codes drawn so far and more, until there are enough different ones. -/
def generateRecoveryCodes (codes : List String) : List RecoveryBytes → Option (List String)
  | [] =>
    if RECOVERY_CODE_COUNT ≤ codes.length then some codes
    else none
  | bytes :: rest =>
    if RECOVERY_CODE_COUNT ≤ codes.length then some codes
    else if randomRecoveryCode bytes ∈ codes then generateRecoveryCodes codes rest
    else generateRecoveryCodes (codes ++ [randomRecoveryCode bytes]) rest

/-- The randomness of a new set of codes: draws that suffice, and salts. -/
structure Minting where
  draws : List RecoveryBytes
  enough : (generateRecoveryCodes [] draws).isSome
  salts : List (String × String)

namespace Minting

def codes (minting : Minting) : List String :=
  (generateRecoveryCodes [] minting.draws).get minting.enough

def salt (minting : Minting) (code : String) : String := (minting.salts.lookup code).getD ""

end Minting

namespace TwoFactorService

def hashRecoveryCodes (service : TwoFactorService)
    (minting : Minting) : Except AuthError (List String) :=
  minting.codes.mapM fun code => service.hash (minting.salt code) code

/-! ## The operations -/

/-- Generate and persist a fresh secret and recovery codes. -/
def enable (service : TwoFactorService) (userId secret : String) (nonce : Nonce)
    (minting : Minting) : Except AuthError TwoFactorRecord := do
  let envelope ← service.encrypt nonce secret
  let hashes ← service.hashRecoveryCodes minting
  pure { userId := userId, secret := some envelope, recoveryCodes := hashes, confirmedAt := none }

theorem exists_of_enable {service : TwoFactorService} {userId secret : String} {nonce : Nonce}
    {minting : Minting} {record : TwoFactorRecord}
    (enabled : service.enable userId secret nonce minting = .ok record) :
    ∃ envelope hashes,
      service.encrypt nonce secret = .ok envelope ∧ service.hashRecoveryCodes minting = .ok hashes ∧
      record =
        { userId, secret := some envelope, recoveryCodes := hashes, confirmedAt := none } := by
  unfold enable at enabled
  cases sealed : service.encrypt nonce secret with
  | error failure =>
    rw [sealed] at enabled
    cases enabled
  | ok envelope =>
    cases hashed : service.hashRecoveryCodes minting with
    | error failure =>
      rw [sealed, hashed] at enabled
      cases enabled
    | ok hashes =>
      rw [sealed, hashed] at enabled
      cases enabled
      exact ⟨envelope, hashes, rfl, rfl, rfl⟩

def confirm (service : TwoFactorService) (code : String) (nowSecs : Nat) (now : String) :
    Option TwoFactorRecord → Except AuthError TwoFactorRecord
  | none => .error .invalidTwoFactorCode
  | some record =>
    match record.secret with
    | none => .error .invalidTwoFactorCode
    | some envelope =>
      match service.decrypt envelope with
      | .error failure => .error failure
      | .ok secret =>
        if service.verifyCode secret code nowSecs then .ok { record with confirmedAt := some now }
        else .error .invalidTwoFactorCode

/-- Consume a single-use recovery code, removing its stored hash. -/
def consumeRecoveryCode (service : TwoFactorService) (code : String) :
    Option TwoFactorRecord → Except AuthError TwoFactorRecord
  | none => .error .invalidTwoFactorCode
  | some record =>
    match record.recoveryCodes.findIdx? (service.verify · code) with
    | some index => .ok { record with recoveryCodes := record.recoveryCodes.eraseIdx index }
    | none => .error .invalidTwoFactorCode

/-- Mint a fresh recovery-code set, replacing the stored hashes. -/
def regenerateRecoveryCodes (service : TwoFactorService) (minting : Minting) :
    Option TwoFactorRecord → Except AuthError TwoFactorRecord
  | none => .error .twoFactorRequired
  | some record =>
    if record.secret = none then .error .twoFactorRequired
    else
      match service.hashRecoveryCodes minting with
      | .error failure => .error failure
      | .ok hashes => .ok { record with recoveryCodes := hashes }

end TwoFactorService

end Rustasea.Auth
