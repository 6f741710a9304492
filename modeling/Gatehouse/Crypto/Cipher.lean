import Gatehouse.Crypto.Gcm
import Gatehouse.Text.Base64
import Gatehouse.Text.Decimal

/-!
# Encryption of cookie payloads

A cipher is a key of a legal length. An encrypted text is the Base64 form of the nonce
followed by the sealed octets. The key comes from a secret, which may be the key itself
or one of its Base64 spellings.
-/

namespace Gatehouse
namespace Crypto

/-- Why a cipher cannot be made or a text cannot be decrypted. -/
inductive CipherError
  /-- The key has this number of octets instead of 16, 24 or 32. -/
  | keyLength (length : Nat)
  /-- The text is not a sealed text under the key. -/
  | decrypt
  /-- The text is not in Base64. -/
  | encoding
  deriving DecidableEq, Repr

/-- The text that reports the error. -/
def CipherError.message : CipherError → String
  | .keyLength length =>
      "cookie secret must be 16, 24 or 32 bytes to create an AES cipher, got "
        ++ Text.Decimal.natural length
  | .decrypt => "failed to decrypt session payload"
  | .encoding => "invalid ciphertext encoding"

/-- Whether a number of octets makes a key. -/
def isKeyLength (length : Nat) : Bool :=
  length == 16 || length == 24 || length == 32

/-- A cipher: a key of legal length. -/
structure Cipher where
  key : Bytes
  legal : isKeyLength key.length = true

namespace Cipher

/-- The cipher of a key. -/
def ofKey (key : Bytes) : Except CipherError Cipher :=
  if legal : isKeyLength key.length = true then .ok ⟨key, legal⟩
  else .error (.keyLength key.length)

/-- The size of the key in bits. -/
def bits (cipher : Cipher) : Nat :=
  8 * cipher.key.length

/-- The octets that a secret stands for. A secret that is Base64 of 16, 24 or 32 octets,
in either alphabet and with or without padding, stands for these octets, and any other
one for itself. -/
def secretBytes (secret : String) : Bytes :=
  let trimmed := Text.trimLast (· == '=') secret.toList
  let decoded :=
    match Text.Base64.decode? Text.Base64.urlSafeUnpadded trimmed with
    | some octets => some octets
    | none => Text.Base64.decode? Text.Base64.standardUnpadded trimmed
  match decoded with
  | some octets => if isKeyLength octets.length then octets else Text.Utf8.encode secret
  | none => Text.Utf8.encode secret

/-- The cipher of a secret. -/
def ofSecret (secret : String) : Except CipherError Cipher :=
  ofKey (secretBytes secret)

/-- The size of a nonce in octets. -/
def nonceSize : Nat := 12

/-- Encrypt a text under a fresh nonce. -/
def encrypt (cipher : Cipher) (nonce : Gcm.Nonce) (plain : String) : String :=
  Text.Base64.text Text.Base64.urlSafe
    (nonce.toList ++ Gcm.encrypt cipher.key nonce (Text.Utf8.encode plain))

/-- Decrypt a text. -/
def decrypt (cipher : Cipher) (encoded : String) : Except CipherError String :=
  match Text.Base64.ofText? Text.Base64.urlSafe encoded with
  | none => .error .encoding
  | some octets =>
      if octets.length ≤ nonceSize then .error .decrypt
      else
        let nonce : Gcm.Nonce := Vector.ofFn fun (index : Fin 12) => octets.getD index 0
        match Gcm.decrypt? cipher.key nonce (octets.drop nonceSize) with
        | none => .error .decrypt
        | some plain =>
            match Text.Utf8.decode? plain with
            | none => .error .decrypt
            | some text => .ok text

end Cipher
end Crypto
end Gatehouse
