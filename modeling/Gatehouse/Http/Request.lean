import Gatehouse.Http.Headers
import Gatehouse.Http.RequestTarget
import Gatehouse.Net.Address

/-!
# Requests

A request of a client with its whole body, and the address of the peer that sent it.
-/

namespace Gatehouse

/-- Whether a text is the name of a method. -/
def isMethod (text : String) : Bool :=
  text != "" && text.toList.all Text.isTokenChar

/-- A request. -/
structure Request where
  method : String
  target : RequestTarget
  headers : Headers
  body : Bytes
  peer : Option Endpoint
  deriving DecidableEq, Repr

namespace Request

/-- The path of the target. -/
def path (request : Request) : String :=
  request.target.path

/-- The server that the client addresses: the field `host` if it is a text, else the
server in the target. -/
def host? (request : Request) : Option String :=
  match request.headers.firstText? "host" with
  | some host => some host
  | none => request.target.authority

/-- The field that identifies a request. -/
def idHeader : String := "x-request-id"

/-- The identifier of a request, for people. -/
def id (request : Request) : String :=
  (request.headers.firstText? idHeader).getD "unknown"

/-- Whether the method asks for a resource or for its header alone. -/
def isRetrieval (request : Request) : Bool :=
  request.method == "GET" || request.method == "HEAD"

end Request
end Gatehouse
