import Gatehouse.Http.Headers
import Gatehouse.Net.Address
import Gatehouse.Text.Quoted
import Gatehouse.Text.Split

/-!
# The address of a client

Behind other proxies the address of a client is named in header fields that the
configuration trusts. A field that is missing or does not name an address is passed
over.
-/

namespace Gatehouse

/-- The fields that name the address of a client: one for a single address, and one for
a list that begins with the address. -/
structure ClientAddress where
  realHeader : Option String
  proxyHeader : Option String
  deriving DecidableEq, Repr

namespace ClientAddress

/-- The address in a field, blanks around it being ignored. -/
def parse? (text : String) : Option Address :=
  Address.ofText? (Text.trim text)

/-- The address in the field for a single address. -/
def fromReal? (source : ClientAddress) (headers : Headers) : Option Address := do
  let name ← source.realHeader
  let text ← headers.nonEmptyText? name
  parse? text

/-- The first address in the field for a list. -/
def fromProxy? (source : ClientAddress) (headers : Headers) : Option Address := do
  let name ← source.proxyHeader
  let text ← headers.nonEmptyText? name
  let first ← (Text.pieces ',' text).head?
  parse? first

/-- The address of the client of a request that came from a peer. -/
def resolve? (source : ClientAddress) (headers : Headers) (peer : Option Endpoint) :
    Option Address :=
  match source.fromReal? headers with
  | some address => some address
  | none =>
      match source.fromProxy? headers with
      | some address => some address
      | none => peer.map (·.address)

/-- A description of the client for people: the peer, and the values of the trusted
fields. -/
def describe
    (source : ClientAddress)
    (headers : Headers)
    (peer : Option Endpoint) : String :=
  let start := match peer with
    | some endpoint => endpoint.text
    | none => "unknown"
  let values := [source.realHeader, source.proxyHeader].filterMap fun name =>
    name.bind headers.nonEmptyText?
  values.foldl (fun text value => text ++ " (" ++ Text.Quoted.text value ++ ")") start

end ClientAddress
end Gatehouse
