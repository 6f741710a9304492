import Gatehouse.Crypto.Cipher
import Gatehouse.Session.Basic
import Gatehouse.Session.Token

/-!
# Sealed sessions

The value of a session cookie: the payload of a session, encrypted if there is a cipher,
and signed under the name of the cookie.
-/

namespace Gatehouse

/-- What turns sessions into cookie values and back. -/
structure Sealer where
  cookieName : String
  signer : TokenSigner
  cipher : Option Crypto.Cipher

/-- Why a cookie value yields no session. -/
inductive SessionError
  | token (cause : TokenError)
  | cipher (cause : Crypto.CipherError)
  | payload
  deriving DecidableEq, Repr

/-- The text that reports the error. -/
def SessionError.message : SessionError → String
  | .token cause => cause.message
  | .cipher cause => cause.message
  | .payload => "malformed session payload"

/-- A session from a cookie and the number of seconds since it was sealed. -/
structure LoadedSession where
  session : Session
  age : Nat
  deriving DecidableEq, Repr

namespace Sealer

/-- Whether sessions are encrypted. -/
def encrypts (sealer : Sealer) : Bool :=
  sealer.cipher.isSome

/-- The cookie value of a session. The nonce matters only if there is a cipher. -/
def issue
    (sealer : Sealer)
    (nonce : Crypto.Gcm.Nonce)
    (session : Session)
    (now : Time) : String :=
  let payload :=
    match sealer.cipher with
    | some cipher => cipher.encrypt nonce session.payload
    | none => session.payload
  sealer.signer.sign sealer.cookieName payload now

/-- The payload of a session inside a verified token. -/
def plainPayload
    (sealer : Sealer)
    (payload : String) : Except Crypto.CipherError String :=
  match sealer.cipher with
  | some cipher => cipher.decrypt payload
  | none => .ok payload

/-- The session of a cookie value. -/
def load
    (sealer : Sealer)
    (value : String)
    (now : Time) : Except SessionError LoadedSession :=
  match sealer.signer.verify sealer.cookieName value now with
  | .error cause => .error (.token cause)
  | .ok verified =>
      match sealer.plainPayload verified.payload with
      | .error cause => .error (.cipher cause)
      | .ok plain =>
          match Session.ofPayload? plain with
          | none => .error .payload
          | some session => .ok ⟨session, verified.age⟩

end Sealer
end Gatehouse
