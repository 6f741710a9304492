import Gatehouse.Access.Whitelist
import Gatehouse.Auth.IdentityHeaders
import Gatehouse.Gateway.Metrics
import Gatehouse.Gateway.Pages
import Gatehouse.Gateway.Paths
import Gatehouse.Gateway.SignInForm
import Gatehouse.Http.Cookie
import Gatehouse.Routing.Router

/-!
# Answering requests

Every request is answered in one of a few ways: by a fixed text, by the mount of its
path without further ado if it is among those that pass, by one of the pages for signing
in and out, by the bare decision about it, or by the mount of its path if it is
accepted.
-/

namespace Gatehouse

/-- A proxy that is ready to answer requests. -/
structure Gateway where
  paths : SystemPaths
  engine : Engine
  signIn : SignInService
  whitelist : Whitelist
  router : Router
  cookies : CookieSettings
  identity : IdentityHeaders.Options
  pages : Pages

/-- What an answer depends on besides the request. -/
structure Surroundings where
  now : Time
  /-- A fresh nonce for a session that is sealed. -/
  nonce : Crypto.Gcm.Nonce
  backends : Backends
  store : FileStore

/-- An answer, with what has happened on the way to it. -/
structure Answer where
  response : Response
  decision : Option Decision
  attempt : Option SignInAttempt
  delivery : Option Delivery
  deriving DecidableEq, Repr

namespace Answer

/-- An answer to which nothing has led. -/
def ofResponse (response : Response) : Answer :=
  ⟨response, none, none, none⟩

/-- The answer of a delivery. -/
def ofDelivery (delivery : Delivery) : Answer :=
  ⟨delivery.response, none, none, some delivery⟩

/-- An answer that nobody may keep. -/
def uncached (answer : Answer) : Answer :=
  { answer with response := answer.response.uncached }

/-- What is counted for an answer. -/
def metrics (answer : Answer) (kind : RequestKind) : List Metric :=
  ((answer.attempt.map (·.samples)).getD []).map (fun sample =>
      Metric.signIn sample.provider sample.result)
    ++ (answer.decision.map Metric.decision).toList
    ++ ((answer.delivery.bind (·.timed)).map Metric.answerTime).toList
    ++ [.request kind answer.response.status]

/-- What was asked of the directory. -/
def directoryCalls (answer : Answer) : List DirectoryCall :=
  (answer.attempt.map (·.calls)).getD []

end Answer

namespace Gateway

/-- The field that names where a client is to go after signing in. -/
def redirectHeader : String := "x-auth-request-redirect"

/-- The file for crawlers: nothing here is for them. -/
def robots : Response := Response.ofText 200 "User-agent: *\nDisallow: /"

/-- The sign of life. -/
def ping : Response := Response.ofText 200 "OK"

/-- The address of the client as its connection shows it. -/
def peerAddress (request : Request) : Option Address :=
  request.peer.map (·.address)

/-- Deliver a request. -/
def deliver (gateway : Gateway) (around : Surroundings) (request : Request) : Delivery :=
  gateway.router.deliver around.backends around.store (peerAddress request) request

/-- Decide about a request. -/
def authenticate
    (gateway : Gateway)
    (around : Surroundings)
    (request : Request) : Outcome :=
  gateway.engine.authenticate around.nonce
    ⟨gateway.cookies.read request.headers,
      request.headers.nonEmptyText? "authorization"⟩ around.now

/-- The sign-in page, which ends any session. There is none if a cookie cannot be
dated. -/
def signInPage?
    (gateway : Gateway)
    (around : Surroundings)
    (request : Request)
    (status : Nat)
    (destination : String)
    (failed : Bool) : Option Response := do
  let cookie ← gateway.cookies.clearedCookie? request.host? around.now
  let page := Response.ofPage status (gateway.pages.signIn destination failed)
  some { page with headers := page.headers.addCookie cookie }

/-- The response that begins a session and sends the client on. -/
def welcome?
    (gateway : Gateway)
    (around : Surroundings)
    (request : Request)
    (session : Session)
    (destination : String) : Option Response := do
  let value := gateway.engine.sealer.issue around.nonce session around.now
  let cookie ← gateway.cookies.sessionCookie? value request.host? around.now
  let response := Response.redirect 302 destination
  some { response with headers := response.headers.addCookie cookie }

/-- Answer a request for the sign-in page. A user and a password are tried if they have
been posted. -/
def signInAnswer?
    (gateway : Gateway)
    (around : Surroundings)
    (request : Request) : Option Answer :=
  let form := SignInForm.ofRequest request
  let destination := localDestination form.destination
  let shown := (request.headers.nonEmptyText? redirectHeader).getD destination
  if request.method != "POST" || form.user == "" then
    (gateway.signInPage? around request 200 shown false).map .ofResponse
  else
    let attempt := gateway.signIn.attempt form.user form.password
    let response? := match attempt.outcome with
      | .authenticated session => gateway.welcome? around request session destination
      | .failed => gateway.signInPage? around request 200 shown true
      | .denied => gateway.signInPage? around request 401 shown true
    response?.map fun response => ⟨response, none, some attempt, none⟩

/-- Answer a request to sign out: the session cookie is cleared. -/
def signOutAnswer? (gateway : Gateway) (around : Surroundings) (request : Request) :
    Option Answer := do
  let cookie ← gateway.cookies.clearedCookie? request.host? around.now
  let response := Response.redirect 307 "/"
  some (.ofResponse { response with headers := response.headers.addCookie cookie })

/-- The response with the cookies of an outcome. -/
def withEffects?
    (gateway : Gateway)
    (around : Surroundings)
    (request : Request)
    (outcome : Outcome)
    (response : Response) : Option Response :=
  (gateway.cookies.applyAll? outcome.effects request.host? around.now
    response.headers).map fun headers => { response with headers }

/-- Answer a request for the bare decision about it. -/
def authAnswer?
    (gateway : Gateway)
    (around : Surroundings)
    (request : Request)
    (outcome : Outcome) : Option Answer := do
  let response := match outcome.decision with
    | .accept session =>
        { Response.ofStatus 202 with
          headers := IdentityHeaders.intoResponse session gateway.identity Headers.empty }
    | _ => Response.ofText 401 "unauthorized request"
  let final ← gateway.withEffects? around request outcome response
  some ⟨final, some outcome.decision, none, none⟩

/-- The request that is delivered for a session. -/
def identified (gateway : Gateway) (session : Session) (request : Request) : Request :=
  { request with
    headers := IdentityHeaders.intoRequest session gateway.identity
      (IdentityHeaders.strip request.headers) }

/-- The response of a mount, with the fields that tell the client who it is. -/
def withIdentity
    (gateway : Gateway)
    (session : Session)
    (response : Response) : Response :=
  let identity := IdentityHeaders.intoResponse session gateway.identity Headers.empty
  { response with
    headers := identity.fields.foldl
      (fun headers (name, value) => headers.insert name value) response.headers }

/-- Where a client that is refused goes after signing in: to what it has asked for, but
not to the sign-in page itself. -/
def destinationOf (gateway : Gateway) (request : Request) : String :=
  let target :=
    (request.headers.nonEmptyText? redirectHeader).getD request.target.pathAndQuery
  if target = gateway.paths.signIn then "/" else target

/-- The page for a decision that could not be made. -/
def internalErrorAnswer (gateway : Gateway) (decision : Decision) : Answer :=
  let page := gateway.pages.error 500 "Internal Error" "Internal Error"
  ⟨(Response.ofPage 500 page).uncached, some decision, none, none⟩

/-- The sign-in page for a request that is refused. -/
def refusal?
    (gateway : Gateway)
    (around : Surroundings)
    (request : Request)
    (decision : Decision) : Option Answer :=
  (gateway.signInPage? around request 403 (gateway.destinationOf request) false).map
    fun response => ⟨response.uncached, some decision, none, none⟩

/-- The answer to a request that has been accepted and delivered. -/
def acceptance?
    (gateway : Gateway)
    (around : Surroundings)
    (request : Request)
    (outcome : Outcome)
    (session : Session)
    (delivery : Delivery) : Option Answer := do
  let response ← gateway.withEffects? around request outcome
    (gateway.withIdentity session delivery.response)
  some ⟨response, some outcome.decision, none, some delivery⟩

/-- Which part of the proxy answers a request. The fixed texts come first, then the
requests that pass, then the paths of the proxy itself. -/
def kindOf (gateway : Gateway) (request : Request) : RequestKind :=
  let path := request.path
  if path = robotsPath then .robots
  else if path = pingPath then .ping
  else if gateway.whitelist.bypasses request.method path request.headers request.peer then
    .bypass
  else if path = gateway.paths.signIn then .signIn
  else if path = gateway.paths.signOut then .signOut
  else if path = gateway.paths.auth then .auth
  else .proxy

section Entering

variable {m : Type → Type}
variable [Monad m]

/-- Answer a request that passes. The mounts are entered by the given action. -/
def bypassBy (enter : Request → m Delivery) (request : Request) : m Answer := do
  let delivery ← enter { request with headers := IdentityHeaders.strip request.headers }
  return .ofDelivery delivery

/-- Answer a request by the mount of its path, if it is accepted. -/
def proxyAnswerBy
    (enter : Request → m Delivery)
    (gateway : Gateway)
    (around : Surroundings)
    (request : Request)
    (outcome : Outcome) : m (Option Answer) :=
  match outcome.decision with
  | .internalError => return some (gateway.internalErrorAnswer outcome.decision)
  | .reject => return gateway.refusal? around request outcome.decision
  | .accept session => do
      let delivery ← enter (gateway.identified session request)
      return gateway.acceptance? around request outcome session delivery

/-- Answer a request about which there is an outcome. There is no answer if a cookie
would have to be dated outside the calendar. -/
def answerBy (enter : Request → m Delivery) (gateway : Gateway) (around : Surroundings)
    (request : Request) (outcome : Outcome) : m (Option Answer) :=
  match gateway.kindOf request with
  | .robots => return some (.uncached (.ofResponse robots))
  | .ping => return some (.uncached (.ofResponse ping))
  | .bypass => do
      let answer ← bypassBy enter request
      return some answer
  | .signIn => return (gateway.signInAnswer? around request).map .uncached
  | .signOut => return (gateway.signOutAnswer? around request).map .uncached
  | .auth => return (gateway.authAnswer? around request outcome).map .uncached
  | .proxy => proxyAnswerBy enter gateway around request outcome

end Entering

/-- Answer a request, after deciding about it and by the mounts of the router. -/
def answer?
    (gateway : Gateway)
    (around : Surroundings)
    (request : Request) : Option Answer :=
  let enter := fun delivered => (pure (gateway.deliver around delivered) : Id Delivery)
  Id.run (answerBy enter gateway around request (gateway.authenticate around request))

end Gateway
end Gatehouse
