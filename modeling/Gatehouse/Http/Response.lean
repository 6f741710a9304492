import Gatehouse.Http.Headers
import Gatehouse.Text.Decimal

/-!
# Responses

The responses that the proxy makes itself: texts, pages, redirections and bare statuses.
-/

namespace Gatehouse

/-- A response. -/
structure Response where
  status : Nat
  headers : Headers
  body : Bytes
  /-- The body is passed on while it arrives, so that its length is not known in
  advance. -/
  streamed : Bool
  deriving DecidableEq, Repr

namespace Response

/-- A response with nothing but a status. -/
def ofStatus (status : Nat) : Response :=
  ⟨status, Headers.empty, [], false⟩

/-- A response with a field added behind the others. -/
def append (response : Response) (name : String) (value : Bytes) : Response :=
  { response with headers := response.headers.append name value }

/-- A response with the fields of a name replaced by a text. -/
def insertText (response : Response) (name text : String) : Response :=
  { response with headers := response.headers.insertText name text }

/-- A response with the fields of a name replaced by a value, if the text can stand in a
header. -/
def insertIfValue (response : Response) (name text : String) : Response :=
  match Headers.value? text with
  | some value => { response with headers := response.headers.insert name value }
  | none => response

/-- A response with a text as its body. -/
def ofText (status : Nat) (text : String) : Response :=
  { ofStatus status with
    headers := Headers.empty.insertText "content-type" "text/plain; charset=utf-8"
    body := Text.Utf8.encode text }

/-- A response with a page as its body. -/
def ofPage (status : Nat) (page : String) : Response :=
  (ofText status page).insertText "content-type" "text/html; charset=utf-8"

/-- A response that sends the client elsewhere. A location that cannot stand in a header
field is replaced by the root. -/
def redirect (status : Nat) (location : String) : Response :=
  let value := (Headers.value? location).getD (Text.Utf8.encode "/")
  { ofStatus status with headers := Headers.empty.insert "location" value }

/-- The fields that forbid keeping a response. -/
def withoutCaching (headers : Headers) : Headers :=
  ((headers.insertText "expires" "Thu, 01 Jan 1970 00:00:00 UTC").insertText
    "cache-control" "no-cache, no-store, must-revalidate, max-age=0").insertText
    "x-accel-expires" "0"

/-- A response that nobody may keep. -/
def uncached (response : Response) : Response :=
  { response with headers := withoutCaching response.headers }

end Response
end Gatehouse
