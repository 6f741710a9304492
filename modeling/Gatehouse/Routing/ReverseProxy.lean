import Gatehouse.Credentials.Basic
import Gatehouse.Http.HopByHop
import Gatehouse.Http.Request
import Gatehouse.Http.Response
import Gatehouse.Routing.Signer
import Gatehouse.Url.Basic

/-!
# Forwarding to a backend

A request is forwarded with the path and the query as they were received, without the
fields for one connection, with the length of its body, with one more client on the list
of clients, and signed. A backend that does not answer makes the response an error.
-/

namespace Gatehouse

/-- A backend that requests are forwarded to. -/
structure ReverseProxy where
  /-- The address of the backend up to the path. -/
  origin : String
  /-- The host and the port of the backend. -/
  host : String
  /-- Backends see the host that the client has addressed. -/
  passHostHeader : Bool
  deriving DecidableEq, Repr

/-- What all backends have in common. -/
structure ForwardOptions where
  signer : Option RequestSigner
  maxBodySize : Nat
  deriving DecidableEq, Repr

/-- A request that is about to be sent to a backend. -/
structure OutboundRequest where
  method : String
  /-- The whole address of the resource. -/
  address : String
  headers : Headers
  body : Bytes
  deriving DecidableEq, Repr

/-- A request as a backend receives it. -/
structure ReceivedRequest where
  method : String
  /-- The path and the query. -/
  resource : String
  headers : Headers
  body : Bytes
  deriving DecidableEq, Repr

/-- The backends, as their answers to requests. There is no answer if a backend cannot
be reached or does not answer properly. -/
abbrev Backends := OutboundRequest → Option Response

/-- The backends of a place without a network. -/
def Backends.unreachable : Backends := fun _ => none

namespace OutboundRequest

/-- The user and the password that an address asks for, if it does. -/
def credentials? (url : Url) : Option BasicCredentials := do
  let decode :=
    fun (text : String) => Text.Utf8.decode? (Percent.decode (Text.Utf8.encode text))
  let user ← decode url.username
  if url.username = "" ∧ url.password = none then none
  else some ⟨user, (url.password.bind decode).getD ""⟩

/-- A header with a field added unless it has one of the name. -/
def ensure (name : String) (text : Option String) (headers : Headers) : Headers :=
  match text with
  | some text => if headers.contains name then headers else headers.insertText name text
  | none => headers

/-- What the backend receives. The address is normalized, and fields that every request
needs are added where they are missing. -/
def received? (request : OutboundRequest) : Option ReceivedRequest :=
  match Url.ofText request.address with
  | .error _ => none
  | .ok url =>
      let headers := ensure "authorization" ((credentials? url).map (·.header))
        (ensure "accept" (some "*/*")
          (ensure "host" (some url.hostAndPort) request.headers))
      some ⟨request.method, url.pathAndQuery, headers, request.body⟩

end OutboundRequest

/-- What came of a request that was routed: the response, the request that was sent to a
backend, and the mount whose answer was timed. -/
structure Delivery where
  response : Response
  sent : Option OutboundRequest
  timed : Option String
  deriving DecidableEq, Repr

/-- The field that names the backend of a response. -/
def backendHeader : String := "lap-upstream-address"

namespace ReverseProxy

/-- The backend of an address. -/
def ofUrl (url : Url) (passHostHeader : Bool) : ReverseProxy :=
  ⟨url.origin, url.hostAndPort, passHostHeader⟩

/-- The header with the length of a body. Retrievals without a body go out without the
field. -/
def withLength (request : Request) (headers : Headers) : Headers :=
  let plain := headers.remove "transfer-encoding"
  if request.body.isEmpty && request.isRetrieval then plain.remove "content-length"
  else plain.insertText "content-length" (Text.Decimal.natural request.body.length)

/-- The header with the host of the backend, unless that of the client is passed on. -/
def withHost (proxy : ReverseProxy) (headers : Headers) : Headers :=
  if proxy.passHostHeader then headers
  else
    match Headers.value? proxy.host with
    | some value => headers.insert "host" value
    | none => headers

/-- The header that a request is forwarded with. -/
def outboundHeaders
    (proxy : ReverseProxy)
    (options : ForwardOptions)
    (client : Option Address)
    (request : Request) : Headers :=
  let hosted := proxy.withHost (withLength request request.headers.stripHopByHop)
  let chained := match client with
    | some address => hosted.appendForwardedFor address
    | none => hosted
  match options.signer with
  | some signer => signer.sign request.method request.target chained
  | none => chained

/-- The request that is sent for a request, unless its body is too large. -/
def outbound? (proxy : ReverseProxy) (options : ForwardOptions) (client : Option Address)
    (request : Request) : Option OutboundRequest :=
  if options.maxBodySize < request.body.length then none
  else
    some ⟨request.method, proxy.origin ++ request.target.pathAndQuery,
      proxy.outboundHeaders options client request, request.body⟩

/-- The response that is made from the answer of a backend. -/
def relay : Option Response → Response
  | some reply => { reply with headers := reply.headers.stripHopByHop, streamed := true }
  | none => Response.ofText 502 "Upstream request failed"

/-- Forward a request. -/
def forward
    (proxy : ReverseProxy)
    (options : ForwardOptions)
    (backends : Backends)
    (mount : String)
    (client : Option Address)
    (request : Request) : Delivery :=
  match proxy.outbound? options client request with
  | none => ⟨Response.ofText 413 "Request body too large", none, none⟩
  | some outbound =>
      ⟨(relay (backends outbound)).insertIfValue backendHeader proxy.host,
        some outbound, some mount⟩

end ReverseProxy
end Gatehouse
