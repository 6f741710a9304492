import Gatehouse.Http.Form

/-!
# The sign-in form

What a client sends to sign in: a user, a password, and where to go afterwards.
-/

namespace Gatehouse

/-- A filled-in form. -/
structure SignInForm where
  user : String
  password : String
  destination : String
  deriving DecidableEq, Repr

namespace SignInForm

/-- The name of the field with the destination. -/
def destinationField : String := "rd"

/-- The form without any entry. -/
def empty : SignInForm := ⟨"", "", ""⟩

/-- The form of some fields. No field may occur twice. -/
def ofFields? (fields : List (String × String)) : Option SignInForm := do
  let user ← Form.single? fields "username"
  let password ← Form.single? fields "password"
  let destination ← Form.single? fields destinationField
  some ⟨user, password, destination⟩

/-- The destination in the query of a request; none if it is given twice. -/
def queryDestination (request : Request) : String :=
  (Form.single? (Form.ofQuery request) destinationField).getD ""

/-- The form of a request. A form that cannot be read counts as empty, and a destination
may stand in the query instead. -/
def ofRequest (request : Request) : SignInForm :=
  let form := ((Form.ofRequest? request).bind ofFields?).getD empty
  if form.destination = "" then { form with destination := queryDestination request }
  else form

end SignInForm
end Gatehouse
