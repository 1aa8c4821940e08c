import Rustasea.Auth.TwoFactor
import Rustasea.Library.ByteReads
import Rustasea.Library.PercentEncoding

namespace Rustasea.Auth

open ByteReads (ofBigEndian)
open PercentEncoding (utf8)

/-!
# Passkeys

An authentication ceremony takes its challenge out of one store, finds the
credential in another, checks the assertion against both and advances the
credential's signature counter.
-/

/-! ## The stores -/

structure PasskeyCredential where
  id : String
  userId : String
  publicKey : List UInt8
  counter : UInt32
  name : String
  createdAt : String
  deriving DecidableEq

/-- The registered credentials, each found under its own id. -/
abbrev PasskeyStore := List PasskeyCredential

namespace PasskeyStore

def find (store : PasskeyStore) (id : String) : Option PasskeyCredential :=
  List.find? (·.id = id) store

/-- Store the signature counter of a credential, whatever it was. -/
def updateCounter (store : PasskeyStore) (id : String)
    (counter : UInt32) : Except AuthError PasskeyStore :=
  if (store.find id).isNone then .error (.passkey "credential not found")
  else
    .ok (List.map
        (fun credential =>
          if credential.id = id then { credential with counter := counter }
          else credential)
        store)

variable {store after : PasskeyStore} {id : String} {counter : UInt32}

theorem find_updateCounter (updated : store.updateCounter id counter = .ok after) (other : String) :
    after.find other =
      if other = id then
        (store.find other).map fun credential =>
          { credential with counter := counter }
      else store.find other := by
  unfold updateCounter at updated
  split at updated
  · cases updated
  · cases updated
    have keepsId :
        (fun credential : PasskeyCredential =>
            decide (credential.id = other)) ∘
            (fun credential : PasskeyCredential =>
              if credential.id = id then { credential with counter := counter }
              else credential) =
          fun credential => decide (credential.id = other) := by
      funext credential
      by_cases isUpdated : credential.id = id
      · simp [isUpdated]
      · simp [isUpdated]
    unfold find
    rw [List.find?_map, keepsId]
    cases found : List.find? (fun credential => credential.id = other) store with
    | none => simp
    | some credential =>
      have isOther : credential.id = other := by simpa using List.find?_some found
      by_cases isUpdated : other = id
      all_goals simp [isOther, isUpdated]

theorem isSome_of_updateCounter (updated : store.updateCounter id counter = .ok after) :
    (store.find id).isSome := by
  unfold updateCounter at updated
  split at updated
  · cases updated
  · next isThere => simpa [Option.isSome_iff_ne_none] using isThere

end PasskeyStore

abbrev ChallengeStore := List (String × String)

namespace ChallengeStore

def put (store : ChallengeStore) (key challenge : String) : ChallengeStore :=
  (key, challenge) :: List.filter (·.1 ≠ key) store

def take (store : ChallengeStore) (key : String) : Option String × ChallengeStore :=
  (List.lookup key store, List.filter (·.1 ≠ key) store)

def pending (store : ChallengeStore) (challenge : String) : Nat :=
  List.countP (·.2 = challenge) store

theorem pending_put_le (store : ChallengeStore) (key challenge other : String) :
    (store.put key challenge).pending other ≤ store.pending other + [challenge].count other := by
  have fewer :
      List.countP (·.2 = other) (List.filter (·.1 ≠ key) store) ≤ List.countP (·.2 = other) store :=
    List.Sublist.countP_le List.filter_sublist
  rw [put, pending, pending, List.countP_cons, List.count_singleton]
  simpa using fewer

theorem pending_take_le (store : ChallengeStore) (key other : String) :
    (store.take key).2.pending other + (store.take key).1.toList.count other ≤
      store.pending other := by
  unfold take pending
  induction store with
  | nil => simp
  | cons first rest ih =>
    obtain ⟨name, challenge⟩ := first
    by_cases isKey : name = key
    · have fewer : List.countP (·.2 = other) (List.filter (·.1 ≠ key) rest) ≤
          List.countP (·.2 = other) rest :=
        List.Sublist.countP_le List.filter_sublist
      subst isKey
      simpa [List.countP_cons, List.count_singleton] using fewer
    · have differs : (key == name) = false := beq_eq_false_iff_ne.mpr (Ne.symm isKey)
      simp only [List.lookup_cons, differs] at ih ⊢
      rw [List.filter_cons_of_pos (by simpa using isKey), List.countP_cons, List.countP_cons]
      omega

end ChallengeStore

/-! ## The assertion -/

/-- What the browser signed over. -/
structure ClientData where
  ceremonyType : String
  challenge : String
  origin : String
  deriving DecidableEq

/-- The browser's answer to an authentication ceremony. -/
structure AuthenticationResponse where
  id : String
  clientDataJson : String
  authenticatorData : String
  signature : String
  userHandle : Option String
  deriving DecidableEq

/-- What a verified assertion says. -/
structure AssertionOutcome where
  counter : UInt32
  userHandle : Option String

/-- The service's settings, and the codecs and digests it is built on. -/
structure PasskeyService where
  relyingPartyId : String
  allowedOrigins : List String
  decodeBase64url : String → Option (List UInt8)
  parseClientData : List UInt8 → Option ClientData
  sha256 : List UInt8 → List UInt8
  verifySignature : (publicKey message signature : List UInt8) → Bool
  userHandle : (userId : String) → Except AuthError String
  debug : String → String

namespace PasskeyService

def decodeField (service : PasskeyService) (field value : String) : Except AuthError (List UInt8) :=
  match service.decodeBase64url value with
  | some bytes => .ok bytes
  | none => .error (.passkey (field ++ " is not valid base64url"))

/-- Check the ceremony, the challenge and the origin that were signed. -/
def checkClientData (service : PasskeyService) (data : ClientData)
    (expectedType expectedChallenge : String) : Except AuthError Unit :=
  if data.ceremonyType ≠ expectedType then
    .error (.passkey ("unexpected ceremony type " ++ service.debug data.ceremonyType))
  else if data.challenge ≠ expectedChallenge then .error (.passkey "challenge mismatch")
  else if data.origin ∉ service.allowedOrigins then .error (.passkey "origin is not allowed")
  else .ok ()

/-- The relying-party hash, the flags and the counter of an assertion. -/
structure AuthData where
  rpIdHash : List UInt8
  flags : UInt8
  counter : UInt32
  deriving DecidableEq

def RP_ID_HASH_LEN : Nat := 32

def AUTH_DATA_HEADER_LEN : Nat := RP_ID_HASH_LEN + 1 + 4

def AAGUID_LEN : Nat := 16

def parseAuthData (bytes : List UInt8) : Except AuthError AuthData :=
  let header : AuthData :=
    { rpIdHash := bytes.take RP_ID_HASH_LEN
      flags := bytes.getD RP_ID_HASH_LEN 0
      counter := UInt32.ofNat (ofBigEndian ((bytes.drop (RP_ID_HASH_LEN + 1)).take 4)) }
  let cursor := AUTH_DATA_HEADER_LEN + AAGUID_LEN
  let idLength := ofBigEndian ((bytes.drop cursor).take 2)
  if bytes.length < AUTH_DATA_HEADER_LEN then .error (.passkey "authenticatorData is too short")
  else if header.flags &&& 0x40 = 0 then .ok header
  else if bytes.length < cursor + 2 then .error (.passkey "attested credential data is truncated")
  else if bytes.length < cursor + 2 + idLength then .error (.passkey "credential id is truncated")
  else if bytes.length ≤ cursor + 2 + idLength then .error (.passkey "COSE public key is missing")
  else .ok header

def verifyAssertion (service : PasskeyService) (expectedChallenge : String)
    (publicKey : List UInt8) (response : AuthenticationResponse) :
    Except AuthError AssertionOutcome := do
  let clientBytes ← service.decodeField "clientDataJSON" response.clientDataJson
  let some data := service.parseClientData clientBytes
    | .error (.passkey "clientDataJSON is not valid JSON")
  service.checkClientData data "webauthn.get" expectedChallenge
  let authBytes ← service.decodeField "authenticatorData" response.authenticatorData
  let auth ← parseAuthData authBytes
  if auth.rpIdHash ≠ service.sha256 (utf8 service.relyingPartyId) then
    .error (.passkey "relying-party id hash mismatch")
  else if auth.flags &&& 0x01 = 0 then .error .invalidPasskeyAssertion
  else do
    let signature ← service.decodeField "signature" response.signature
    if service.verifySignature publicKey
        (authBytes ++ service.sha256 clientBytes) signature then
      pure { counter := auth.counter, userHandle := response.userHandle.filter (· ≠ "") }
    else .error .invalidPasskeyAssertion

/-- What is checked once the credential is found: the counter it answers with. -/
def checkAssertion (service : PasskeyService) (expected : String)
    (credential : PasskeyCredential)
    (response : AuthenticationResponse) : Except AuthError UInt32 := do
  let outcome ← service.verifyAssertion expected credential.publicKey response
  match outcome.userHandle with
  | some handle => do
    let own ← service.userHandle credential.userId
    if handle ≠ own then .error .invalidPasskeyAssertion
    else pure ()
  | none => pure ()
  if (credential.counter ≠ 0 ∨ outcome.counter ≠ 0) ∧ outcome.counter ≤ credential.counter then
    .error .invalidPasskeyAssertion
  else pure outcome.counter

end PasskeyService

end Rustasea.Auth
