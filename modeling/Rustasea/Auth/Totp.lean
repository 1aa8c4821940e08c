import Rustasea.Auth.RecoveryCodes
import Rustasea.Auth.SecretCipher
import Rustasea.Auth.TextCodecs
import Rustasea.Library.ByteReads
import Rustasea.Library.DecimalText
import Rustasea.Schedule.Cron

namespace Rustasea.Auth

open PercentEncoding (utf8 utf8_ofList_ascii)
open Schedule (trim trim_of_no_whitespace)

/-!
# One-time codes of authenticator apps

A code is six digits cut out of a digest of the number of the current step of
thirty seconds.  HMAC-SHA1 is a parameter that takes keys of any length; times
and windows are `u64` and `u32`, so that no step number overflows an `i64`.
-/

namespace Totp

def DIGITS : Nat := 6

def STEP_SECS : Nat := 30

abbrev Hmac := (key message : List UInt8) → Vector UInt8 20

def offset (digest : Vector UInt8 20) : Nat := (digest[19] &&& 0x0f).toNat

theorem offset_lt (digest : Vector UInt8 20) : offset digest < 16 := by
  exact Nat.lt_succ_of_le Nat.and_le_right

/-- The dynamic truncation; no read is outside of the digest. -/
def truncate (digest : Vector UInt8 20) : UInt32 :=
  have inside := offset_lt digest
  (digest[offset digest] &&& 0x7f).toUInt32 <<< 24 ||| digest[offset digest + 1].toUInt32 <<< 16 |||
    digest[offset digest + 2].toUInt32 <<< 8 ||| digest[offset digest + 3].toUInt32

def generateSecret (bytes : Vector UInt8 20) : String :=
  String.ofList ((base32Encode bytes.toList).map fun byte => Char.ofNat byte.toNat)

def formatCode (value digits : Nat) : List Char := (Nat.toDigits 10 value).leftpad digits '0'

/-- Six bytes that are digits. -/
def isCode (code : List Char) : Bool :=
  (utf8 (String.ofList code)).length = DIGITS &&
    (utf8 (String.ofList code)).all fun byte => 48 ≤ byte && byte ≤ 57

section Hmac

variable (hmacSha1 : Hmac)

def hotp (secret : List UInt8) (counter digits : Nat) : Nat :=
  (truncate (hmacSha1 secret (ByteReads.toBigEndian 8 counter))).toNat % 10 ^ digits

def codeAt (secret : String) (nowSecs : Nat) : Option (List Char) :=
  (base32Decode (utf8 secret)).map fun key =>
    formatCode (hotp hmacSha1 key (nowSecs / STEP_SECS) DIGITS) DIGITS

def verifyCode (window : Nat) (secret code : String) (nowSecs : Nat) : Bool :=
  let code := trim code.toList
  if isCode code then
    match base32Decode (utf8 secret) with
    | none => false
    | some key =>
      (List.range (2 * window + 1)).any fun step =>
        let candidate : Int := (nowSecs / STEP_SECS : Nat) - window + step
        0 ≤ candidate && formatCode (hotp hmacSha1 key candidate.toNat DIGITS) DIGITS = code
  else false

/-- A code is accepted exactly when it is that of a step in the window. -/
theorem verifyCode_iff (window : Nat) (secret code : String) (nowSecs : Nat) :
    verifyCode hmacSha1 window secret code nowSecs = true ↔
      isCode (trim code.toList) = true ∧
        ∃ key counter, base32Decode (utf8 secret) = some key ∧
          counter ≤ nowSecs / STEP_SECS + window ∧ nowSecs / STEP_SECS ≤ counter + window ∧
          formatCode (hotp hmacSha1 key counter DIGITS) DIGITS = trim code.toList := by
  unfold verifyCode
  by_cases digits : isCode (trim code.toList) = true
  · cases decoded : base32Decode (utf8 secret) with
    | none => simp
    | some key =>
      rw [if_pos digits, List.any_eq_true]
      simp only [List.mem_range, Bool.and_eq_true, decide_eq_true_eq, digits, true_and,
        Option.some.injEq, exists_and_left, exists_eq_left']
      constructor
      · rintro ⟨step, inWindow, notNegative, same⟩
        exact ⟨_, by omega, by omega, same⟩
      · rintro ⟨counter, notLate, notEarly, same⟩
        refine ⟨counter + window - nowSecs / STEP_SECS, by omega, by omega, ?_⟩
        rwa [show ((nowSecs / STEP_SECS : Nat) - window +
          (counter + window - nowSecs / STEP_SECS : Nat) : Int).toNat = counter by omega]
  · simp [digits]

end Hmac

/-! ## The code of an enrolled app -/

theorem isDigit_formatCode (value digits : Nat) :
    ∀ char ∈ formatCode value digits, char.isDigit = true := by
  intro char isIn
  rcases List.mem_append.mp isIn with isPad | isDigit
  · rw [List.eq_of_mem_replicate isPad]
    rfl
  · exact DecimalText.isDigit_of_mem_toDigits isDigit

theorem isCode_formatCode {value : Nat} (small : value < 10 ^ DIGITS) :
    isCode (formatCode value DIGITS) = true := by
  have isDigit := isDigit_formatCode value DIGITS
  have few := (Nat.length_toDigits_le_iff (k := DIGITS) (by decide) (by decide)).mpr small
  have ascii : ∀ char ∈ formatCode value DIGITS, char.toNat < 128 := fun char isIn => by
    have := DecimalText.toNat_of_isDigit (isDigit char isIn)
    omega
  rw [isCode, utf8_ofList_ascii ascii]
  refine Bool.and_eq_true_iff.mpr ⟨decide_eq_true ?_, List.all_eq_true.mpr ?_⟩
  · rw [List.length_map, formatCode, List.length_leftpad, Nat.max_eq_left few]
  · rw [List.forall_mem_map]
    intro char isIn
    have bounds := DecimalText.toNat_of_isDigit (isDigit char isIn)
    simp [UInt8.le_iff_toNat_le]
    omega

theorem trim_formatCode (value digits : Nat) :
    trim (formatCode value digits) = formatCode value digits := by
  refine trim_of_no_whitespace fun char isIn => ?_
  have bounds := DecimalText.toNat_of_isDigit (isDigit_formatCode value digits char isIn)
  simp [Schedule.isWhitespace]
  omega

theorem utf8_generateSecret (bytes : Vector UInt8 20) :
    utf8 (generateSecret bytes) = base32Encode bytes.toList := by
  obtain ⟨values, small, same, -⟩ := base32Encode_symbols bytes.toList
  have symbol : ∀ value : UInt8, value.toNat < 2 ^ 5 →
      (Char.ofNat (base32Symbol value).toNat).toNat < 128 ∧
      UInt8.ofNat (Char.ofNat (base32Symbol value).toNat).toNat = base32Symbol value :=
    octet_cases (by decide +kernel)
  have ascii : ∀ char ∈ (base32Encode bytes.toList).map fun byte => Char.ofNat byte.toNat,
      char.toNat < 128 := by
    rw [same, List.forall_mem_map, List.forall_mem_map]
    exact fun value isIn => (symbol value (small value isIn)).1
  rw [generateSecret, utf8_ofList_ascii ascii, List.map_map, same, List.map_map]
  exact List.map_congr_left fun value isIn => (symbol value (small value isIn)).2

end Totp

/-- `verify_challenge`, on the record that it read. -/
def TwoFactorService.verifyChallenge (service : TwoFactorService) (code : String) (nowSecs : Nat) :
    Option TwoFactorRecord → Except AuthError Unit
  | none => .error .invalidTwoFactorCode
  | some record =>
    if record.isConfirmed then
      match record.secret with
      | none => .error .invalidTwoFactorCode
      | some envelope =>
        match service.decrypt envelope with
        | .error failure => .error failure
        | .ok secret =>
          if service.verifyCode secret code nowSecs then .ok () else .error .invalidTwoFactorCode
    else .error .invalidTwoFactorCode

/-- `new`: the cipher seals the secrets, and codes are checked in the window. -/
def TwoFactorService.new (aead : Aead) (cipher : SecretCipher) (hmacSha1 : Totp.Hmac)
    (hash : (salt code : String) → Except AuthError String) (verify : (hash code : String) → Bool)
    (window : Nat) : TwoFactorService :=
  { encrypt := cipher.encrypt aead
    decrypt := cipher.decrypt aead
    hash := hash
    verify := verify
    verifyCode := Totp.verifyCode hmacSha1 window }

namespace Totp

/--
An app that was handed the secret confirms the enrolment, and passes the
challenge, as long as its clock is off by no more steps than the window.
-/
theorem enrolled_app_passes {aead : Aead} (documented : aead.Documented) {cipher : SecretCipher}
    {hmacSha1 : Hmac} {hash : (salt code : String) → Except AuthError String}
    {verify : (hash code : String) → Bool} {window : Nat} {service : TwoFactorService}
    (isNew : service = .new aead cipher hmacSha1 hash verify window) {bytes : Vector UInt8 20}
    {userId : String} {nonce : Nonce} {minting : Minting} {record : TwoFactorRecord}
    (enabled : service.enable userId (generateSecret bytes) nonce minting = .ok record)
    {appSecs nowSecs : Nat} (notLate : appSecs / STEP_SECS ≤ nowSecs / STEP_SECS + window)
    (notEarly : nowSecs / STEP_SECS ≤ appSecs / STEP_SECS + window) (now : String) :
    ∃ code, codeAt hmacSha1 (generateSecret bytes) appSecs = some code ∧
      service.confirm (String.ofList code) nowSecs now (some record) =
        .ok { record with confirmedAt := some now } ∧
      service.verifyChallenge (String.ofList code) nowSecs
        (some { record with confirmedAt := some now }) = .ok () := by
  have decoded : base32Decode (utf8 (generateSecret bytes)) = some bytes.toList := by
    rw [utf8_generateSecret]
    exact base32Decode_base32Encode _
  have verified : verifyCode hmacSha1 window (generateSecret bytes)
      (String.ofList (formatCode (hotp hmacSha1 bytes.toList (appSecs / STEP_SECS) DIGITS) DIGITS))
        nowSecs = true := by
    rw [verifyCode_iff, String.toList_ofList, trim_formatCode]
    exact ⟨isCode_formatCode (Nat.mod_lt _ (by decide)), _, _, decoded, notLate, notEarly, rfl⟩
  obtain ⟨envelope, hashes, isSealed, -, rfl⟩ := TwoFactorService.exists_of_enable enabled
  subst isNew
  have opened := SecretCipher.decrypt_of_encrypt documented isSealed
  refine ⟨_, by rw [codeAt, decoded]; rfl, ?_, ?_⟩
  · simp [TwoFactorService.confirm, TwoFactorService.new, opened, verified]
  · simp [TwoFactorService.verifyChallenge, TwoFactorService.new, TwoFactorRecord.isConfirmed,
      opened, verified]

/-- The digests of the steps 0 and 1 under the secret of RFC 4226. -/
def rfcMac : Hmac := fun _ step =>
  if step = ByteReads.toBigEndian 8 0 then
    #v[0xcc, 0x93, 0xcf, 0x18, 0x50, 0x8d, 0x94, 0x93, 0x4c, 0x64,
      0xb6, 0x5d, 0x8b, 0xa7, 0x66, 0x7f, 0xb7, 0xcd, 0xe4, 0xb0]
  else
    #v[0x75, 0xa4, 0x8a, 0x19, 0xd4, 0xcb, 0xe1, 0x00, 0x64, 0x4e,
      0x8a, 0xc1, 0x39, 0x7e, 0xea, 0x74, 0x7a, 0x2d, 0x33, 0xab]

def rfcSecret : Vector UInt8 20 := Vector.ofFn fun index => 48 + UInt8.ofNat ((index + 1) % 10)

/-- A cipher that hides nothing: the tag is the first half of the key. -/
def plainAead : Aead :=
  { encrypt := fun key _ plaintext => some (plaintext ++ key.toList.take 16)
    decrypt := fun key _ ciphertext =>
      let length := ciphertext.length - 16
      if ciphertext.drop length = key.toList.take 16 then some (ciphertext.take length) else none }

theorem plainAead_documented : plainAead.Documented where
  decrypt_encrypt isSealed := by
    cases isSealed
    simp [plainAead]
  length_encrypt isSealed := by
    cases isSealed
    simp

def rfcService : TwoFactorService :=
  .new plainAead { key := .ofFn fun index => UInt8.ofNat index } rfcMac plainService.hash
    plainService.verify 1

theorem rfc_app_passes :
    ∃ record,
      rfcService.enable "ada" (generateSecret rfcSecret) plainNonce firstMinting = .ok record ∧
      codeAt rfcMac (generateSecret rfcSecret) 0 = some "755224".toList ∧
      rfcService.confirm "755224" 29 "now" (some record) =
        .ok { record with confirmedAt := some "now" } ∧
      rfcService.verifyChallenge "755224" 29
        (some { record with confirmedAt := some "now" }) = .ok () := by
  obtain ⟨record, enabled⟩ : ∃ record,
      rfcService.enable "ada" (generateSecret rfcSecret) plainNonce firstMinting = .ok record :=
    ⟨_, rfl⟩
  obtain ⟨code, isCode, confirmed, passed⟩ :=
    enrolled_app_passes plainAead_documented (rfl : rfcService = .new ..) enabled
      (show 0 / STEP_SECS ≤ 29 / STEP_SECS + 1 by decide)
      (show 29 / STEP_SECS ≤ 0 / STEP_SECS + 1 by decide) "now"
  have shown : codeAt rfcMac (generateSecret rfcSecret) 0 = some "755224".toList := by
    decide +kernel
  obtain rfl := Option.some.inj (isCode.symm.trans shown)
  exact ⟨record, enabled, shown, confirmed, passed⟩

end Totp

end Rustasea.Auth
