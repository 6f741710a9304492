import Gatehouse.Credentials.Basic
import Gatehouse.Session.Sealer

/-!
# Deciding about a request

The engine looks at the session cookie and at the basic credentials of a request. It
answers whether the request may pass and what becomes of the cookie.
-/

namespace Gatehouse

/-- How long sessions live, in seconds. A session is looked at again and sealed anew
when it is older than `refresh`, unless that is zero, and it ends when it is older than
`expire`. -/
structure Lifetime where
  expire : Nat
  refresh : Nat
  deriving DecidableEq, Repr

/-- What the refresher makes of a session: whether it has renewed the session, and the
session. -/
structure Refreshed where
  renewed : Bool
  session : Session
  deriving DecidableEq, Repr

/-- What decides about requests. -/
structure Engine where
  sealer : Sealer
  lifetime : Lifetime
  /-- Renews sessions; without a result the session is lost. -/
  refresher : Session → Option Refreshed
  /-- Tells whether a session that is to be sealed anew is still good. -/
  validator : Session → Bool
  /-- Tells whether the owner of an address may be signed in. -/
  admits : String → Bool
  basic : Option Htpasswd

/-- The refresher that leaves every session alone. -/
def neverRefresh (session : Session) : Option Refreshed :=
  some ⟨false, session⟩

/-- The validator that finds every session good. -/
def alwaysValid (_ : Session) : Bool :=
  true

/-- The parts of a request that matter for the decision. -/
structure Evidence where
  cookie : Option String
  authorization : Option String
  deriving DecidableEq, Repr

/-- Whether a request may pass. -/
inductive Decision
  | accept (session : Session)
  | reject
  /-- The session could not be sealed again. -/
  | internalError
  deriving DecidableEq, Repr

/-- What becomes of the session cookie. -/
inductive CookieEffect
  | set (value : String)
  | clear
  deriving DecidableEq, Repr

/-- A question that was put to the refresher or the validator. -/
inductive HookCall
  | refresh (session : Session)
  | validate (session : Session)
  deriving DecidableEq, Repr

/-- The answer of the engine. -/
structure Outcome where
  decision : Decision
  effects : List CookieEffect
  hooks : List HookCall
  deriving DecidableEq, Repr

/-- Whether the request may pass. -/
def Outcome.isAccepted (outcome : Outcome) : Bool :=
  match outcome.decision with
  | .accept _ => true
  | _ => false

namespace Engine

/-- The session of the cookie, if there is a cookie that can be opened. -/
def load
    (engine : Engine)
    (cookie : Option String)
    (now : Time) : Option LoadedSession := do
  let value ← cookie
  if value = "" then none
  else
    match engine.sealer.load value now with
    | .ok loaded => some loaded
    | .error _ => none

/-- The session of basic credentials, if they are looked at and accepted. -/
def basicSession (engine : Engine) (authorization : Option String) : Option Session := do
  let file ← engine.basic
  let header ← authorization
  if header = "" then none
  else
    match file.identifyHeader header with
    | .ok identity => some (Session.ofUser identity.user)
    | .error _ => none

/-- Whether the address of a session, if it has one, is admitted. -/
def admitsSession (engine : Engine) (session : Session) : Bool :=
  match session.email with
  | none => true
  | some email => email = "" || engine.admits email

/-- What is left of a loaded session: the session if it survives, whether it is to be
sealed anew, and the questions that were asked. -/
structure Review where
  session : Option Session
  reissue : Bool
  hooks : List HookCall

/-- Review a loaded session. The refresher is asked first; unless it has renewed the
session, the validator is asked about a session that has come of age; then the session
must not be expired, and its address must be admitted. -/
def review (engine : Engine) (loaded : LoadedSession) : Review :=
  let aged := engine.lifetime.refresh != 0 && engine.lifetime.refresh < loaded.age
  let asked := [HookCall.refresh loaded.session]
  match engine.refresher loaded.session with
  | none => ⟨none, false, asked⟩
  | some refreshed =>
      let checks := aged && !refreshed.renewed
      let hooks := if checks then asked ++ [.validate refreshed.session] else asked
      if checks && !engine.validator refreshed.session then ⟨none, false, hooks⟩
      else if engine.lifetime.expire < loaded.age then ⟨none, false, hooks⟩
      else if engine.admitsSession refreshed.session then
        ⟨some refreshed.session, aged || refreshed.renewed, hooks⟩
      else ⟨none, false, hooks⟩

/-- Decide about a request. A session that does not survive its review is cleared;
without a session the basic credentials decide. The nonce is used if the session is
sealed anew. -/
def authenticate
    (engine : Engine)
    (nonce : Crypto.Gcm.Nonce)
    (evidence : Evidence)
    (now : Time) : Outcome :=
  let fallback :=
    match engine.basicSession evidence.authorization with
    | some session => Decision.accept session
    | none => .reject
  match engine.load evidence.cookie now with
  | none => ⟨fallback, [], []⟩
  | some loaded =>
      let review := engine.review loaded
      match review.session with
      | none => ⟨fallback, [.clear], review.hooks⟩
      | some session =>
          let effects :=
            if review.reissue then [.set (engine.sealer.issue nonce session now)] else []
          ⟨.accept session, effects, review.hooks⟩

end Engine
end Gatehouse
