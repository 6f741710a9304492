import Gatehouse.Credentials.Htpasswd

/-!
# Basic credentials

The credentials that a client sends in the `Authorization` header: the word `Basic` and
the Base64 form of the user and the password with a colon between them.
-/

namespace Gatehouse

/-- A user and a password. -/
structure BasicCredentials where
  user : String
  password : String
  deriving DecidableEq, Repr

/-- Why credentials are not accepted. The causes are looked for in this order. -/
inductive BasicError
  | wrongScheme
  | badEncoding
  | missingDelimiter
  | rejected (user : String)
  deriving DecidableEq, Repr

/-- The text that reports the error. -/
def BasicError.message : BasicError → String
  | .wrongScheme => "invalid Authorization header: expected Basic scheme"
  | .badEncoding => "invalid Authorization header: credentials are not valid base64"
  | .missingDelimiter => "invalid Authorization header: credentials lack ':' delimiter"
  | .rejected user => user ++ " not in htpasswd file"

namespace BasicCredentials

/-- The text of a header that carries the credentials. -/
def header (credentials : BasicCredentials) : String :=
  "Basic " ++ Text.Base64.text Text.Base64.standard
    (Text.Utf8.encode (credentials.user ++ ":" ++ credentials.password))

/-- The credentials of a header. Blanks around the encoded part do not matter. -/
def ofHeader (header : String) : Except BasicError BasicCredentials :=
  match Text.splitOnce? " " header with
  | none => .error .wrongScheme
  | some (scheme, encoded) =>
      if scheme = "Basic" then
        match (Text.Base64.ofText? Text.Base64.standard (Text.trim encoded)).bind
            Text.Utf8.decode? with
        | none => .error .badEncoding
        | some text =>
            match Text.splitOnce? ":" text with
            | none => .error .missingDelimiter
            | some (user, password) => .ok ⟨user, password⟩
      else .error .wrongScheme

end BasicCredentials

/-- The identity of the sender of a header, if the password file accepts its
credentials. -/
def Htpasswd.identifyHeader
    (file : Htpasswd)
    (header : String) : Except BasicError Identity :=
  match BasicCredentials.ofHeader header with
  | .error cause => .error cause
  | .ok credentials =>
      if file.accepts credentials.user credentials.password then
        .ok (Identity.ofUser credentials.user)
      else .error (.rejected credentials.user)

end Gatehouse
