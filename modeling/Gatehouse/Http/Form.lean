import Gatehouse.Http.Request
import Gatehouse.Text.Split
import Gatehouse.Url.Percent

/-!
# Forms

The fields of a form, as they stand in a query or in the body of a request: pairs of
names and values with ampersands between them, in which a plus sign is a space and other
characters may be escaped.
-/

namespace Gatehouse
namespace Form

/-- The largest number of octets in a body that is read as a form. -/
def maxBodySize : Nat := 2097152

/-- How the fields of a form are written. -/
def mediaType : String := "application/x-www-form-urlencoded"

/-- The text of a name or a value. -/
def unescape (octets : Bytes) : String :=
  Text.Utf8.decodeLenient
    (Percent.decode (octets.map fun octet => if octet = 0x2B then 0x20 else octet))

/-- The name and the value of a field; a field without an equals sign has an empty
value. -/
def field (octets : Bytes) : String × String :=
  match Text.splitFirst? [0x3D] octets with
  | some (name, value) => (unescape name, unescape value)
  | none => (unescape octets, "")

/-- The fields of a form, in order. -/
def fields (octets : Bytes) : List (String × String) :=
  ((Text.splitEvery 0x26 octets).filter fun piece => !piece.isEmpty).map field

/-- The values of a name. -/
def values (fields : List (String × String)) (name : String) : List String :=
  (fields.filter fun field => field.1 == name).map (·.2)

/-- The value of a name that must not occur twice; empty if it does not occur. -/
def single? (fields : List (String × String)) (name : String) : Option String :=
  match values fields name with
  | [] => some ""
  | [value] => some value
  | _ => none

/-- The fields in the query of a request. -/
def ofQuery (request : Request) : List (String × String) :=
  fields (Text.Utf8.encode (request.target.query?.getD ""))

/-- The fields of the form that a request carries: in its query if it only retrieves
something, else in its body, which has to be declared as a form and must not be too
large. -/
def ofRequest? (request : Request) : Option (List (String × String)) :=
  if request.isRetrieval then some (ofQuery request)
  else
    match request.headers.firstText? "content-type" with
    | none => none
    | some declared =>
        if Text.startsWith mediaType declared && request.body.length ≤ maxBodySize then
          some (fields request.body)
        else none

end Form
end Gatehouse
