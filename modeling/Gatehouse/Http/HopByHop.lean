import Gatehouse.Http.Headers
import Gatehouse.Net.Address
import Gatehouse.Text.Split

/-!
# Fields for one connection

Some fields belong to a single connection and must not be passed on: nine standard ones,
and those that the field `connection` lists. The field `x-forwarded-for` lists the
clients that a request has come from.
-/

namespace Gatehouse
namespace Headers

/-- The standard fields for one connection. -/
def hopByHopNames : List String :=
  ["connection", "keep-alive", "proxy-connection", "proxy-authenticate",
    "proxy-authorization", "te", "trailer", "transfer-encoding", "upgrade"]

/-- The names that the text values of the field `connection` list. -/
def connectionNames (headers : Headers) : List String :=
  (headers.texts "connection").flatMap fun text =>
    (Text.pieces ',' text).filterMap fun piece => name? (Text.trim piece)

/-- Remove the fields for one connection. -/
def stripHopByHop (headers : Headers) : Headers :=
  let listed := headers.connectionNames
  ⟨headers.fields.filter fun field =>
    !listed.contains field.1 && !hopByHopNames.contains field.1⟩

/-- The field that lists the clients of a request. -/
def forwardedFor : String := "x-forwarded-for"

/-- The list of clients with one more at its end. -/
def forwardedChain (earlier : List String) (client : Address) : String :=
  String.intercalate ", " (earlier ++ [client.text])

/-- Add a client to the list of clients; values that are not texts are dropped. -/
def appendForwardedFor (headers : Headers) (client : Address) : Headers :=
  match value? (forwardedChain (headers.texts forwardedFor) client) with
  | some value => headers.insert forwardedFor value
  | none => headers

end Headers
end Gatehouse
