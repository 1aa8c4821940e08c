import Mathlib.Data.String.Basic
import Rustasea.Library.DecimalText
import Rustasea.Library.PercentEncoding

namespace Rustasea.Auth

open DecimalText PercentEncoding

/-!
# Signed URLs

A signed query carries its parameters, an expiry and the HMAC of a canonical
payload.  Queries and payloads are the UTF-8 bytes of their texts; the HMAC and
the hexadecimal codec are those of the crates the signer is built on.
-/

inductive Malformed where
  | duplicateSignature
  | duplicateExpires
  | expiresNotInteger (value : String)
  | duplicateParameter (key : String)
  | missingExpires
  | emptySegment
  | missingEquals (segment : List UInt8)
  | truncatedEscape (input : List UInt8)
  | invalidEscape (input : List UInt8)
  | invalidUtf8 (input : List UInt8)
  deriving DecidableEq

/-- Typed failures for signed-URL operations. -/
inductive SignedUrlError where
  | missingKey
  | missingSignature
  | invalidSignature
  | expired (expiredAt now : Int)
  | malformed (detail : Malformed)
  deriving DecidableEq

def SignedUrlError.code : SignedUrlError → String
  | .missingKey => "MissingKey"
  | .missingSignature => "MissingSignature"
  | .invalidSignature => "InvalidSignature"
  | .expired _ _ => "Expired"
  | .malformed _ => "Malformed"

/-- The keyed digest and the hexadecimal codec. -/
structure UrlCrypto where
  hmac : (key payload : List UInt8) → List UInt8
  hexEncode : List UInt8 → String
  hexDecode : String → Option (List UInt8)

/-- A hexadecimal codec reads back what it writes, in plain characters. -/
structure LawfulHex (crypto : UrlCrypto) : Prop where
  decode_encode : ∀ tag, crypto.hexDecode (crypto.hexEncode tag) = some tag
  encode_plain : ∀ tag, ∀ byte ∈ utf8 (crypto.hexEncode tag), isUnreserved byte = true

/-! ## The canonical payload -/

abbrev Parameter := String × String

def parameterLe (first second : Parameter) : Bool :=
  first.1 < second.1 ∨ (first.1 = second.1 ∧ first.2 ≤ second.2)

def sorted (extra : List Parameter) : List Parameter := extra.mergeSort parameterLe

/-- An encoded `key=value` pair. -/
def encodedPair (pair : Parameter) : List UInt8 :=
  encode (utf8 pair.1) ++ [61] ++ encode (utf8 pair.2)

def canonicalPayload (path : String) (expires : Int) (extra : List Parameter) : List UInt8 :=
  encode (utf8 path) ++ [10] ++ decimal expires ++ [10] ++
    (sorted extra).flatMap fun pair => encodedPair pair ++ [10]

/-- Sign `path` with an absolute expiry, returning the query fragment. -/
def sign (crypto : UrlCrypto) (key : List UInt8) (path : String) (expires : Int)
    (extra : List Parameter) : List UInt8 :=
  let signature := crypto.hexEncode (crypto.hmac key (canonicalPayload path expires extra))
  ((sorted extra).flatMap fun pair => encodedPair pair ++ [38]) ++
    utf8 "expires" ++ [61] ++ decimal expires ++ [38] ++ utf8 "signature" ++ [61] ++ utf8 signature

def signExpiring (crypto : UrlCrypto) (key : List UInt8) (now : Int) (path : String)
    (ttlSecs : Int) (extra : List Parameter) : Except SignedUrlError (List UInt8) :=
  if key = [] then .error .missingKey
  else
    -- `i64::saturating_add`
    .ok (sign crypto key path (min (now + ttlSecs) (2 ^ 63 - 1)) extra)

/-! ## Reading a query -/

/-- Decode `%XX` percent-escapes back into a UTF-8 string. -/
def percentDecode (input : List UInt8) : Except SignedUrlError String :=
  match decode input with
  | .error .truncated => .error (.malformed (.truncatedEscape input))
  | .error .invalidEscape => .error (.malformed (.invalidEscape input))
  | .ok bytes =>
    match ofUtf8? bytes with
    | some text => .ok text
    | none => .error (.malformed (.invalidUtf8 input))

/-- One `key=value` segment of a query. -/
def parseSegment (segment : List UInt8) : Except SignedUrlError Parameter :=
  if segment = [] then .error (.malformed .emptySegment)
  else
    match splitOnce 61 segment with
    | none => .error (.malformed (.missingEquals segment))
    | some (key, value) => do
      let key ← percentDecode key
      let value ← percentDecode value
      pure (key, value)

def withoutQuestion : List UInt8 → List UInt8
  | 63 :: rest => rest
  | query => query

/-- Parse a query fragment into decoded key/value pairs. -/
def parseQuery (query : List UInt8) : Except SignedUrlError (List Parameter) :=
  if withoutQuestion query = [] then .ok []
  else ((withoutQuestion query).splitOn 38).mapM parseSegment

/-- What has been read of a signed query. -/
structure Collected where
  signature : Option String
  expires : Option Int
  extra : List Parameter

def collectPair (collected : Collected) (pair : Parameter) : Except SignedUrlError Collected :=
  if pair.1 = "signature" then
    if collected.signature.isSome then .error (.malformed .duplicateSignature)
    else .ok { collected with signature := some pair.2 }
  else if pair.1 = "expires" then
    if collected.expires.isSome then .error (.malformed .duplicateExpires)
    else
      match parseI64 (utf8 pair.2) with
      | some expires => .ok { collected with expires := some expires }
      | none => .error (.malformed (.expiresNotInteger pair.2))
  else if collected.extra.any fun existing => existing.1 = pair.1 then
    .error (.malformed (.duplicateParameter pair.1))
  else .ok { collected with extra := collected.extra ++ [pair] }

/-- A signed query: the signature, the expiry and the other parameters. -/
structure SignedQuery where
  signature : String
  expires : Int
  extra : List Parameter
  deriving DecidableEq

def readQuery
    (query : List UInt8) : Except SignedUrlError SignedQuery := do
  let pairs ← parseQuery query
  let collected ← pairs.foldlM collectPair { signature := none, expires := none, extra := [] }
  match collected.signature, collected.expires with
  | none, _ => .error .missingSignature
  | some _, none => .error (.malformed .missingExpires)
  | some signature, some expires =>
    pure { signature := signature, expires := expires, extra := collected.extra }

/-- Verify a signed query fragment at an explicit time. -/
def verify (crypto : UrlCrypto) (key : List UInt8) (path : String) (query : List UInt8)
    (now : Int) : Except SignedUrlError Unit :=
  if key = [] then .error .missingKey
  else do
    let read ← readQuery query
    let expected := crypto.hmac key (canonicalPayload path read.expires read.extra)
    match crypto.hexDecode read.signature with
    | none => .error .invalidSignature
    | some provided =>
      if expected ≠ provided then .error .invalidSignature
      else if read.expires < now then .error (.expired read.expires now)
      else pure ()

end Rustasea.Auth
