import Rustasea.Auth.TwoFactor
import Rustasea.Library.PercentEncoding

namespace Rustasea.Auth

open PercentEncoding (hexText ofHexText? ofHexText?_hexText ofUtf8? ofUtf8?_utf8 utf8)

/-!
# Two-factor secrets at rest

The envelope of a secret is `hex(nonce || ciphertext || tag)`.  The draw of the
nonce is the caller's; ChaCha20-Poly1305 is a parameter.
-/

abbrev CipherKey := Vector UInt8 32

/-- ChaCha20-Poly1305 without associated data. -/
structure Aead where
  encrypt : CipherKey → Nonce → List UInt8 → Option (List UInt8)
  decrypt : CipherKey → (nonce ciphertext : List UInt8) → Option (List UInt8)

/-- It opens what it sealed with the same key and nonce, and adds a tag of 16 bytes. -/
structure Aead.Documented (aead : Aead) : Prop where
  decrypt_encrypt {key : CipherKey} {nonce : Nonce} {plaintext ciphertext : List UInt8}
      (isSealed : aead.encrypt key nonce plaintext = some ciphertext) :
    aead.decrypt key nonce.toList ciphertext = some plaintext
  length_encrypt {key : CipherKey} {nonce : Nonce} {plaintext ciphertext : List UInt8}
      (isSealed : aead.encrypt key nonce plaintext = some ciphertext) :
    ciphertext.length = plaintext.length + 16

structure SecretCipher where
  key : CipherKey

namespace SecretCipher

variable (aead : Aead) (cipher : SecretCipher)

def encrypt (nonce : Nonce) (plaintext : String) : Except AuthError String :=
  match aead.encrypt cipher.key nonce (utf8 plaintext) with
  | none => .error (.twoFactor "secret encryption failed")
  | some ciphertext => .ok (hexText (nonce.toList ++ ciphertext))

/-- A malformed, truncated or tampered envelope is an error. -/
def decrypt (envelope : String) : Except AuthError String :=
  match ofHexText? envelope with
  | none => .error (.twoFactor "malformed secret envelope")
  | some bytes =>
    if bytes.length ≤ 12 then .error (.twoFactor "malformed secret envelope")
    else
      match aead.decrypt cipher.key (bytes.take 12) (bytes.drop 12) with
      | none => .error (.twoFactor "secret decryption failed")
      | some plaintext =>
        match ofUtf8? plaintext with
        | none => .error (.twoFactor "secret is not valid UTF-8")
        | some text => .ok text

variable {aead cipher}

/-- The cipher opens every envelope that it sealed. -/
theorem decrypt_of_encrypt (documented : aead.Documented) {nonce : Nonce}
    {plaintext envelope : String} (isSealed : cipher.encrypt aead nonce plaintext = .ok envelope) :
    cipher.decrypt aead envelope = .ok plaintext := by
  unfold encrypt at isSealed
  cases encrypted : aead.encrypt cipher.key nonce (utf8 plaintext) with
  | none =>
    rw [encrypted] at isSealed
    cases isSealed
  | some ciphertext =>
    rw [encrypted] at isSealed
    cases isSealed
    have isNonce : nonce.toList.length = 12 := nonce.length_toList
    have tagged := documented.length_encrypt encrypted
    have long : ¬(nonce.toList ++ ciphertext).length ≤ 12 := by
      rw [List.length_append]
      omega
    simp only [decrypt, ofHexText?_hexText, if_neg long, List.take_left' isNonce,
      List.drop_left' isNonce, documented.decrypt_encrypt encrypted, ofUtf8?_utf8]

end SecretCipher

end Rustasea.Auth
