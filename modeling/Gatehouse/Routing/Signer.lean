import Gatehouse.Crypto.Mac
import Gatehouse.Http.Headers
import Gatehouse.Http.RequestTarget
import Gatehouse.Text.Base64
import Gatehouse.Text.Split

/-!
# Signatures of requests

A backend that shares a key with the proxy can tell that a request has come through it.
The signature covers the method, a fixed list of header fields, and the path with its
query. It does not cover the body, but its length.
-/

namespace Gatehouse

/-- What signs requests and checks them. -/
structure RequestSigner where
  algorithm : Crypto.HashAlgorithm
  key : Bytes
  deriving DecidableEq, Repr

/-- Why a text describes no key. -/
inductive SignerError
  /-- There is no colon, or nothing behind it. -/
  | format
  | algorithm (unknown : Crypto.HashAlgorithm.Unknown)
  deriving DecidableEq, Repr

/-- The text that reports the error. -/
def SignerError.message : SignerError → String
  | .format => "signature key must be of the form algorithm:secret"
  | .algorithm unknown => unknown.message

namespace RequestSigner

/-- The field that carries the signature. -/
def header : String := "lap-signature"

/-- The fields that the signature covers, in order. -/
def signedHeaders : List String :=
  ["content-length", "content-md5", "content-type", "date", "authorization",
    "x-forwarded-user", "x-forwarded-email", "x-forwarded-access-token", "cookie",
    "lap-auth"]

/-- The signer of a text: the name of an algorithm, a colon, and a secret that is not
empty. -/
def ofText (text : String) : Except SignerError RequestSigner :=
  match Text.splitOnce? ":" text with
  | none => .error .format
  | some (name, secret) =>
      if secret = "" then .error .format
      else
        match Crypto.HashAlgorithm.ofName name with
        | .error unknown => .error (.algorithm unknown)
        | .ok algorithm => .ok ⟨algorithm, Text.Utf8.encode secret⟩

/-- The values of a field that are texts, with commas between them. -/
def joined (headers : Headers) (name : String) : String :=
  String.intercalate "," (headers.texts name)

/-- The path with its query; an empty query counts as none. -/
def resource (target : RequestTarget) : String :=
  match target.query?.filter (· != "") with
  | some query => target.path ++ "?" ++ query
  | none => target.path

/-- The text that is signed: the method, the covered fields and the resource, a line
each. -/
def stringToSign
    (method : String)
    (target : RequestTarget)
    (headers : Headers) : String :=
  method ++ "\n" ++ String.join
    (signedHeaders.map fun name => joined headers name ++ "\n") ++ resource target

/-- The tag of a request. -/
def tag
    (signer : RequestSigner)
    (method : String)
    (target : RequestTarget)
    (headers : Headers) : Bytes :=
  signer.algorithm.mac signer.key (Text.Utf8.encode (stringToSign method target headers))

/-- The text of a signature: the name of the algorithm and the tag. -/
def signature
    (signer : RequestSigner)
    (method : String)
    (target : RequestTarget)
    (headers : Headers) : String :=
  signer.algorithm.name ++ " "
    ++ Text.Base64.text Text.Base64.urlSafe (signer.tag method target headers)

/-- The header with the signature in place of any other. -/
def sign
    (signer : RequestSigner)
    (method : String)
    (target : RequestTarget)
    (headers : Headers) : Headers :=
  headers.insertText header (signer.signature method target headers)

/-- Whether a header carries the right signature. -/
def verify
    (signer : RequestSigner)
    (method : String)
    (target : RequestTarget)
    (headers : Headers) : Bool :=
  match (headers.firstText? header).bind (Text.splitOnce? " ") with
  | none => false
  | some (name, encoded) =>
      name == signer.algorithm.name &&
        match Text.Base64.ofText? Text.Base64.urlSafe encoded with
        | none => false
        | some claimed => signer.tag method target headers == claimed

end RequestSigner
end Gatehouse
