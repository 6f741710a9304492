import Gatehouse.Text.Ascii
import Gatehouse.Text.Utf8

/-!
# Targets of requests

The first line of a request names its target: usually a path and a query, sometimes a
whole address, and for special methods a server or a star. The parts are kept as they
are written; only a fragment is dropped.
-/

namespace Gatehouse

/-- The target of a request. -/
structure RequestTarget where
  scheme : Option String
  authority : Option String
  /-- The path and the query as they are written, possibly nothing. -/
  written : String
  deriving DecidableEq, Repr

namespace RequestTarget

/-- The largest number of octets in a target. -/
def maxLength : Nat := 65534

/-- The largest number of characters in a scheme. -/
def maxSchemeLength : Nat := 64

/-- Whether a character may stand in a path. -/
def isPathChar (char : Char) : Bool :=
  let code := char.toNat
  code == 0x21 || (0x24 ≤ code && code ≤ 0x3B) || code == 0x3D
    || (0x40 ≤ code && code ≤ 0x5F)
    || (0x61 ≤ code && code ≤ 0x7A) || code == 0x7C || 0x7E ≤ code ||
      "\"\x7b\x7d".toList.contains char

/-- Whether a character may stand in a query. -/
def isQueryChar (char : Char) : Bool :=
  let code := char.toNat
  code == 0x21 || (0x24 ≤ code && code ≤ 0x3B) || code == 0x3D || 0x3F ≤ code

/-- Whether a character may stand in a scheme. -/
def isSchemeChar (char : Char) : Bool :=
  Text.isLetter char || Text.isDigit char || "+-.".toList.contains char

/-- Whether a character may stand in the name of a server, signs with a meaning
included. -/
def isAuthorityChar (char : Char) : Bool :=
  Text.isLetter char || Text.isDigit char || "!$&'()*+,-.:;=@[]_~".toList.contains char

/-- Whether a character ends the name of a server. -/
def endsAuthority (char : Char) : Bool :=
  char == '/' || char == '?' || char == '#'

/-- What has been seen of the name of a server. -/
structure AuthorityScan where
  colons : Nat
  opened : Bool
  closed : Bool
  percent : Bool

/-- Look at one more character of the name of a server. Colons and percent signs in
front of an at sign or inside square brackets do not count. -/
def AuthorityScan.step? (scan : AuthorityScan) (char : Char) : Option AuthorityScan :=
  match char with
  | ':' => if 8 ≤ scan.colons then none else some { scan with colons := scan.colons + 1 }
  | '[' => if scan.percent || scan.opened then none else some { scan with opened := true }
  | ']' =>
      if !scan.opened || scan.closed then none
      else some { scan with closed := true, colons := 0, percent := false }
  | '@' => some { scan with colons := 0, percent := false }
  | '%' => some { scan with percent := true }
  | _ => if isAuthorityChar char then some scan else none

/-- Whether characters name a server. -/
def isAuthority (chars : List Char) : Bool :=
  match chars.foldlM AuthorityScan.step? ⟨0, false, false, false⟩ with
  | none => false
  | some scan =>
      scan.opened == scan.closed && scan.colons ≤ 1 && !scan.percent &&
        chars.getLast? != some '@'

/-- The path and the query of a text, without its fragment. -/
def readWritten? (chars : List Char) : Option String :=
  let body := chars.takeWhile (· != '#')
  let path := body.takeWhile (· != '?')
  let query := (body.drop path.length).drop 1
  if path.all isPathChar && query.all isQueryChar then some (String.ofList body) else none

/-- The beginning of a text up to the two slashes behind a scheme. -/
inductive SchemeScan
  | absent
  | tooLong
  | found (scheme rest : List Char)

/-- Look for a scheme at the start of a text. -/
def scanScheme (chars : List Char) : SchemeScan :=
  let scheme := chars.takeWhile isSchemeChar
  match chars.drop scheme.length with
  | ':' :: '/' :: '/' :: rest =>
      if maxSchemeLength < scheme.length then .tooLong else .found scheme rest
  | _ => .absent

/-- The target of a text that does not begin with a path. -/
def readAbsolute? (chars : List Char) : Option RequestTarget :=
  match scanScheme chars with
  | .tooLong => none
  | .absent =>
      if isAuthority chars then some ⟨none, some (String.ofList chars), ""⟩ else none
  | .found scheme rest =>
      let authority := rest.takeWhile fun char => !endsAuthority char
      if authority.isEmpty || !isAuthority authority then none
      else (readWritten? (rest.drop authority.length)).map fun written =>
        ⟨some (String.ofList scheme), some (String.ofList authority), written⟩

/-- The target that a text denotes. -/
def ofText? (text : String) : Option RequestTarget :=
  let chars := text.toList
  if maxLength < text.utf8ByteSize then none
  else
    match chars with
    | [] => none
    | ['*'] => some ⟨none, none, "*"⟩
    | '/' :: _ => (readWritten? chars).map fun written => ⟨none, none, written⟩
    | _ => readAbsolute? chars

/-- The characters of the path as they are written. -/
def pathChars (target : RequestTarget) : List Char :=
  target.written.toList.takeWhile (· != '?')

/-- The path. Where an address leaves it out it is a slash; a server alone has none. -/
def path (target : RequestTarget) : String :=
  if target.written = "" ∧ target.scheme = none then ""
  else if target.pathChars.isEmpty then "/"
  else String.ofList target.pathChars

/-- The query, if there is one. -/
def query? (target : RequestTarget) : Option String :=
  match target.written.toList.drop target.pathChars.length with
  | _ :: query => some (String.ofList query)
  | [] => none

/-- The path and the query; a slash if there is neither. -/
def pathAndQuery (target : RequestTarget) : String :=
  if target.written = "" then "/" else target.written

end RequestTarget
end Gatehouse
