import Gatehouse.Access.ClientAddress
import Gatehouse.Config.Schema
import Gatehouse.Net.AddressRange
import Gatehouse.Regex.Matching
import Gatehouse.Regex.Pattern

/-!
# Requests that pass without authentication

A request passes if it asks what a server permits and such requests are let through, if
a pattern matches somewhere in its path, or if its client has an address in one of the
listed ranges.
-/

namespace Gatehouse

/-- The requests that pass. -/
structure Whitelist where
  patterns : List Regex
  ranges : List AddressRange
  preflight : Bool
  client : ClientAddress

/-- Why a configuration describes no such requests. -/
inductive WhitelistError
  | pattern (given : String)
  | range (invalid : AddressRange.Invalid)
  | headerName (given : String)
  deriving DecidableEq, Repr

/-- The text that reports the error, as far as it does not describe a mistake inside a
pattern. -/
def WhitelistError.message : WhitelistError → String
  | .pattern given => "invalid skip_auth regex " ++ Text.Quoted.text given ++ ": "
  | .range invalid => invalid.message
  | .headerName given => "invalid header name " ++ Text.Quoted.text given

namespace Whitelist

/-- Read a pattern. -/
def patternOf (given : String) : Except WhitelistError Regex :=
  match Regex.ofText? given with
  | some pattern => .ok pattern
  | none => .error (.pattern given)

/-- Read a range of addresses. -/
def rangeOf (given : String) : Except WhitelistError AddressRange :=
  match AddressRange.ofText given with
  | .ok range => .ok range
  | .error invalid => .error (.range invalid)

/-- Read the name of a header field; a blank name counts as none. -/
def headerOf (given : Option String) : Except WhitelistError (Option String) :=
  match (given.map Text.trim).filter (· != "") with
  | none => .ok none
  | some text =>
      match Headers.name? text with
      | some name => .ok (some name)
      | none => .error (.headerName text)

/-- The requests that a configuration describes. -/
def ofConfig (config : Config.SkipAuth) : Except WhitelistError Whitelist := do
  let patterns ← config.patterns.mapM patternOf
  let ranges ← config.ranges.mapM rangeOf
  let realHeader ← headerOf config.realHeader
  let proxyHeader ← headerOf config.proxyHeader
  return ⟨patterns, ranges, config.preflight, ⟨realHeader, proxyHeader⟩⟩

/-- Whether no request passes. -/
def isEmpty (whitelist : Whitelist) : Bool :=
  whitelist.patterns.isEmpty && whitelist.ranges.isEmpty && !whitelist.preflight

/-- Whether a request passes. -/
def bypasses (whitelist : Whitelist) (method path : String) (headers : Headers)
    (peer : Option Endpoint) : Bool :=
  (whitelist.preflight && method == "OPTIONS")
    || (whitelist.patterns.any fun pattern => pattern.matchesIn path)
    || match whitelist.client.resolve? headers peer with
       | some address => whitelist.ranges.any fun range => range.contains address
       | none => false

end Whitelist
end Gatehouse
