import Gatehouse.Text.Split

/-!
# Sessions

A session says who has signed in. Its payload is the text in which it travels inside a
cookie.
-/

namespace Gatehouse

/-- A signed-in user, with an electronic mail address if one is known. -/
structure Session where
  user : String
  email : Option String
  deriving DecidableEq, Repr

namespace Session

/-- The session of a user without an address. -/
def ofUser (user : String) : Session :=
  ⟨user, none⟩

/-- A session with an address; an empty address is no address. -/
def withEmail (session : Session) (email : String) : Session :=
  { session with email := if email = "" then none else some email }

/-- The name by which a backend knows the user: the address if there is one, else the
user. -/
def principal (session : Session) : String :=
  session.email.getD session.user

/-- A description of the session for people. -/
def display (session : Session) : String :=
  match session.email with
  | some email => "Session\x7buser:" ++ session.user ++ " email:" ++ email ++ "\x7d"
  | none => "Session\x7buser:" ++ session.user ++ "\x7d"

/-- The payload of a session. -/
def payload (session : Session) : String :=
  "email:" ++ session.email.getD "" ++ " user:" ++ session.user

/-- The session of a payload: what stands between the labels is the address, and the
user must not be empty. -/
def ofPayload? (payload : String) : Option Session := do
  let rest ← Text.stripStart? "email:" payload
  let (email, user) ← Text.splitOnce? " user:" rest
  if user = "" then none else some ((ofUser user).withEmail email)

end Session
end Gatehouse
