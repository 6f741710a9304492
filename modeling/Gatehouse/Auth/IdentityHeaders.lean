import Gatehouse.Credentials.Basic
import Gatehouse.Http.Headers
import Gatehouse.Session.Basic

/-!
# Telling backends who has signed in

The header fields by which a backend learns the user of a request. What a client claims
about itself in these fields is removed.
-/

namespace Gatehouse
namespace IdentityHeaders

/-- The field that names the principal of a session. -/
def trust : String := "lap-auth"

/-- The field that names the user to a backend. -/
def forwardedUser : String := "x-forwarded-user"

/-- The field that names the address to a backend. -/
def forwardedEmail : String := "x-forwarded-email"

/-- The field that names the user in a response. -/
def responseUser : String := "x-auth-request-user"

/-- The field that names the address in a response. -/
def responseEmail : String := "x-auth-request-email"

/-- Which fields are written. -/
structure Options where
  passBasicAuth : Bool
  basicAuthPassword : String
  passUserHeaders : Bool
  setXAuthRequest : Bool
  deriving DecidableEq, Repr

/-- The header of a request to a backend and the header of the response to the client. -/
structure Pair where
  request : Headers
  response : Headers
  deriving DecidableEq, Repr

/-- Remove a principal that the client claims. -/
def strip (request : Headers) : Headers :=
  request.remove trust

/-- The value of a text that is not empty. -/
def value? (text : String) : Option Bytes :=
  if text = "" then none else Headers.value? text

/-- The header of a request with the identity of a session. -/
def intoRequest (session : Session) (options : Options) (request : Headers) : Headers :=
  let user := value? session.user
  let email := session.email.bind value?
  let withBasic :=
    if options.passBasicAuth then
      match value?
          (BasicCredentials.header ⟨session.user, options.basicAuthPassword⟩) with
      | some value => request.insert "authorization" value
      | none => request
    else request
  let withUser :=
    if options.passBasicAuth || options.passUserHeaders then
      (withBasic.setOrRemove forwardedUser user).setOrRemove forwardedEmail email
    else withBasic
  withUser.setOrRemove trust (value? session.principal)

/-- The header of a response with the identity of a session. -/
def intoResponse (session : Session) (options : Options) (response : Headers) : Headers :=
  let user := value? session.user
  let email := session.email.bind value?
  let withUser :=
    if options.setXAuthRequest then
      (response.setOrRemove responseUser user).setOrRemove responseEmail email
    else response
  withUser.setOrRemove trust (value? session.principal)

/-- Both headers with the identity of a session. -/
def inject (session : Session) (options : Options) (pair : Pair) : Pair :=
  ⟨intoRequest session options pair.request, intoResponse session options pair.response⟩

end IdentityHeaders
end Gatehouse
