import Gatehouse.Crypto.Mac
import Gatehouse.Text.Base64
import Gatehouse.Text.Decimal
import Gatehouse.Text.Hex
import Gatehouse.Text.Split
import Gatehouse.Time.Basic

/-!
# Signed tokens

A token carries a payload and the time at which it was signed, under a tag that also
covers the name of the cookie. It is the Base64 form of the payload, the time and the
tag with bars between them.
-/

namespace Gatehouse

/-- What signs tokens and checks them. -/
structure TokenSigner where
  secret : Bytes
  algorithm : Crypto.HashAlgorithm
  deriving DecidableEq, Repr

/-- Why a token is refused. The causes are looked for in the order `encoding`, `format`,
`signature`, `timestamp`. -/
inductive TokenError
  | encoding
  | format
  | timestamp
  | signature
  deriving DecidableEq, Repr

/-- The text that reports the error. -/
def TokenError.message : TokenError → String
  | .encoding => "cookie value is not valid base64url"
  | .format => "cookie value is malformed"
  | .timestamp => "cookie timestamp is invalid"
  | .signature => "cookie signature does not match"

/-- A payload and the number of seconds since it was signed. -/
structure Verified where
  payload : String
  age : Nat
  deriving DecidableEq, Repr

namespace TokenSigner

/-- The tag of a payload and a time under the name of a cookie. -/
def tag (signer : TokenSigner) (name payload timestamp : String) : Bytes :=
  signer.algorithm.mac signer.secret
    (Text.Utf8.encode name ++ Text.Utf8.encode payload ++ Text.Utf8.encode timestamp)

/-- The text of a token before it is put into Base64. -/
def tokenText (payload timestamp tagText : String) : String :=
  payload ++ "|" ++ timestamp ++ "|" ++ tagText

/-- Sign a payload. -/
def sign (signer : TokenSigner) (name payload : String) (now : Time) : String :=
  let timestamp := Text.Decimal.integer now
  Text.Base64.text Text.Base64.urlSafe
    (Text.Utf8.encode (tokenText payload timestamp
      (Text.Hex.text (signer.tag name payload timestamp))))

/-- The payload, the time and the tag of a token, all as they are written. -/
def fields? (text : String) : Option (String × String × String) := do
  let (front, tagText) ← Text.splitLast? '|' text.toList
  let (payload, timestamp) ← Text.splitLast? '|' front
  some (String.ofList payload, String.ofList timestamp, String.ofList tagText)

/-- Check a token and take it apart. -/
def verify
    (signer : TokenSigner)
    (name token : String)
    (now : Time) : Except TokenError Verified :=
  match (Text.Base64.ofText? Text.Base64.urlSafe token).bind Text.Utf8.decode? with
  | none => .error .encoding
  | some text =>
      match fields? text with
      | none => .error .format
      | some (payload, timestamp, tagText) =>
          match Text.Hex.decode? tagText.toList with
          | none => .error .format
          | some claimed =>
              if signer.tag name payload timestamp == claimed then
                match Text.Decimal.signed64? timestamp with
                | none => .error .timestamp
                | some issued => .ok ⟨payload, elapsed issued now⟩
              else .error .signature

end TokenSigner
end Gatehouse
