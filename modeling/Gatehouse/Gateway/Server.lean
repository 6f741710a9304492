import Gatehouse.Gateway.Dispatch

/-!
# Around an answer

What happens to every request and every response: requests are identified, lengths are
announced, and responses to requests for a header have no body.
-/

namespace Gatehouse
namespace Gateway

/-- A request with an identifier, a fresh one unless it has brought one. -/
def withId (fresh : Bytes) (request : Request) : Request :=
  if request.headers.contains Request.idHeader then request
  else { request with headers := request.headers.insert Request.idHeader fresh }

/-- A response with the identifier of its request, unless it has one of its own. -/
def echoId (request : Request) (response : Response) : Response :=
  match request.headers.get? Request.idHeader with
  | some id =>
      if response.headers.contains Request.idHeader then response
      else { response with headers := response.headers.insert Request.idHeader id }
  | none => response

/-- A response with the length of its body, if that is known and not given yet. -/
def withLength (response : Response) : Response :=
  if response.streamed || response.headers.contains "content-length" then response
  else response.insertText "content-length" (Text.Decimal.natural response.body.length)

/-- Whether a response opens a tunnel; it has no body then. -/
def opensTunnel (request : Request) (response : Response) : Bool :=
  request.method == "CONNECT" && 200 ≤ response.status && response.status < 300

/-- The response as it is sent. -/
def finish (request : Request) (response : Response) : Response :=
  if opensTunnel request response then { response with body := [] }
  else
    let sized := withLength response
    if request.method = "HEAD" then { sized with body := [] } else sized

/-- Serve a request: its answer with the response as it is sent, and what is counted. -/
def serve?
    (gateway : Gateway)
    (around : Surroundings)
    (fresh : Bytes)
    (request : Request) : Option (Answer × List Metric) := do
  let identified := withId fresh request
  let answer ← gateway.answer? around identified
  let response := finish request (echoId identified answer.response)
  some ({ answer with response }, answer.metrics (gateway.kindOf identified))

end Gateway
end Gatehouse
