import Gatehouse.Text.Decimal
import Gatehouse.Url.Host

/-!
# Addresses of resources

An address has a scheme, a host with an optional user, password and port, a path, and an
optional query and fragment. Reading normalizes: dots in the path are resolved, a port
that the scheme implies is left out, and characters that may not stand for themselves
are encoded.
-/

namespace Gatehouse

/-- The address of a resource, all parts in their encoded form. -/
structure Url where
  scheme : String
  username : String
  password : Option String
  host : Option Host
  port : Option Nat
  path : String
  query : Option String
  fragment : Option String
  deriving DecidableEq, Repr

namespace Url

/-- How the schemes are told apart. -/
inductive SchemeKind
  | file
  /-- Schemes with a host and with paths of segments. -/
  | special
  | other
  deriving DecidableEq, Repr

/-- The kind of a scheme. -/
def schemeKind (scheme : String) : SchemeKind :=
  if scheme = "file" then .file
  else if ["http", "https", "ws", "wss", "ftp"].contains scheme then .special
  else .other

/-- The port that a scheme implies. -/
def defaultPort? (scheme : String) : Option Nat :=
  if scheme = "http" ∨ scheme = "ws" then some 80
  else if scheme = "https" ∨ scheme = "wss" then some 443
  else if scheme = "ftp" then some 21
  else none

/-- The host and the port of an address, as they are written. -/
def hostAndPort (url : Url) : String :=
  (match url.host with | some host => host.text | none => "")
    ++ (match url.port with | some port => ":" ++ Text.Decimal.natural port | none => "")

/-- The user and the password of an address, as they are written. -/
def userinfo (url : Url) : String :=
  if url.username = "" ∧ url.password = none then ""
  else
    url.username
      ++ (match url.password with | some password => ":" ++ password | none => "") ++ "@"

/-- An address with a host up to its path. -/
def origin (url : Url) : String :=
  url.scheme ++ "://" ++ url.userinfo ++ url.hostAndPort

/-- The path and the query of an address. -/
def pathAndQuery (url : Url) : String :=
  url.path ++ (match url.query with | some query => "?" ++ query | none => "")

/-- Whether two addresses have the same scheme, host and port. -/
def SameServer (first second : Url) : Prop :=
  first.scheme = second.scheme ∧ first.host = second.host ∧ first.port = second.port

/-- Whether a segment of a path stands for the directory itself. -/
def isSingleDot (segment : List Char) : Bool :=
  [['.'], ['%', '2', 'e'], ['%', '2', 'E']].contains segment

/-- Whether a segment of a path stands for the directory above. -/
def isDoubleDot (segment : List Char) : Bool :=
  let dots := [['.'], ['%', '2', 'e'], ['%', '2', 'E']]
  dots.any fun first => dots.any fun second => first ++ second == segment

/-- Whether a segment is a letter and a colon or a bar. -/
def isDriveLetter (segment : List Char) : Bool :=
  match segment with
  | [letter, ':'] => Text.isLetter letter
  | [letter, '|'] => Text.isLetter letter
  | _ => false

/-- Whether a segment is a letter and a colon. -/
def isPlainDriveLetter (segment : List Char) : Bool :=
  match segment with
  | [letter, ':'] => Text.isLetter letter
  | _ => false

/-- The segments without the last one; a drive letter in front stays. -/
def dropSegment (kind : SchemeKind) (done : List (List Char)) : List (List Char) :=
  match done with
  | [] => []
  | [only] => if kind = .file ∧ isPlainDriveLetter only then [only] else []
  | _ :: rest => rest

/-- Resolve the dots among segments. The segments that are done are in reverse order. -/
def resolveDots (kind : SchemeKind) :
    List (List Char) → List (List Char) → List (List Char)
  | done, [] => done
  | done, segment :: rest =>
      let last := rest.isEmpty
      if isDoubleDot segment then
        let shorter := dropSegment kind done
        resolveDots kind (if last then [] :: shorter else shorter) rest
      else if isSingleDot segment then
        resolveDots kind (if last then [] :: done else done) rest
      else if kind = .file ∧ done.isEmpty ∧ isDriveLetter segment then
        resolveDots kind ((segment.take 1 ++ [':']) :: done) rest
      else resolveDots kind (segment :: done) rest

/-- The pieces of a path between slashes, and for schemes with segments also between
backslashes. -/
def segments (kind : SchemeKind) (chars : List Char) : List (List Char) :=
  Text.splitEvery '/' (if kind = .other then chars else
    chars.map fun char => if char = '\\' then '/' else char)

/-- Segments as a path. -/
def joinSegments (parts : List (List Char)) : List Char :=
  parts.flatMap fun segment => '/' :: segment

/-- The path of segments that follow those of a directory, which are in reverse order.
In the path of a file, several slashes in front count as one. -/
def pathFrom
    (kind : SchemeKind)
    (directory : List (List Char))
    (chars : List Char) : String :=
  let encoded := (segments kind chars).map (Percent.encode Percent.inPath)
  let resolved := (resolveDots kind directory encoded).reverse
  let path := joinSegments resolved
  match kind with
  | .file => String.ofList ('/' :: path.dropWhile (· == '/'))
  | _ => String.ofList path

/-- The characters before the query and the fragment, the query and the fragment. -/
structure Tail where
  front : List Char
  query : Option (List Char)
  fragment : Option (List Char)

/-- Split off the query and the fragment. -/
def splitTail (chars : List Char) : Tail :=
  let (body, fragment) := match Text.splitFirst? ['#'] chars with
    | some (before, after) => (before, some after)
    | none => (chars, none)
  match Text.splitFirst? ['?'] body with
  | some (before, after) => ⟨before, some after, fragment⟩
  | none => ⟨body, none, fragment⟩

/-- The encoded query. -/
def encodeQuery (kind : SchemeKind) (query : Option (List Char)) : Option String :=
  query.map fun chars => String.ofList (Percent.encode
    (if kind = .other then Percent.inQuery else Percent.inSpecialQuery) chars)

/-- The encoded fragment. -/
def encodeFragment (fragment : Option (List Char)) : Option String :=
  fragment.map fun chars => String.ofList (Percent.encode Percent.inFragment chars)

/-- Whether a character ends the part of an address that names the server. -/
def endsAuthority (kind : SchemeKind) (char : Char) : Bool :=
  char == '/' || char == '?' || char == '#' || (kind != .other && char == '\\')

/-- The user, the password and the rest of the part that names the server. -/
structure Userinfo where
  username : String
  password : Option String
  rest : List Char

/-- Split off the user and the password, which stand before the last at sign. -/
def splitUserinfo (authority after : List Char) : Except UrlError Userinfo :=
  match Text.splitLast? '@' authority with
  | none => .ok ⟨"", none, authority⟩
  | some ([], rest) =>
      if rest.isEmpty && !after.isEmpty then .error .emptyHost else .ok ⟨"", none, rest⟩
  | some (info, rest) =>
      let encode := fun (chars : List Char) =>
        String.ofList (Percent.encode Percent.inUserinfo chars)
      match Text.splitFirst? [':'] info with
      | none => .ok ⟨encode info, none, rest⟩
      | some (user, []) => .ok ⟨encode user, none, rest⟩
      | some (user, password) => .ok ⟨encode user, some (encode password), rest⟩

/-- The characters of the host, which end at a colon outside square brackets, and the
rest. -/
def splitHost : Bool → List Char → List Char × List Char
  | _, [] => ([], [])
  | inside, char :: rest =>
      if char = ':' ∧ ¬ inside then ([], char :: rest)
      else
        let inside := if char = '[' then true else if char = ']' then false else inside
        let (host, after) := splitHost inside rest
        (char :: host, after)

/-- The port of the characters behind the host. A port that the scheme implies is none. -/
def readPort (scheme : String) (chars : List Char) : Except UrlError (Option Nat) :=
  match chars with
  | ':' :: [] => .ok none
  | ':' :: digits =>
      match Text.Decimal.digits? digits with
      | some port =>
          if 65535 < port then .error .port
          else .ok (if some port = defaultPort? scheme then none else some port)
      | none => .error .port
  | _ => .ok none

/-- Read what follows the two slashes in front of the server. -/
def afterSlashes (scheme : String) (chars : List Char) : Except UrlError Url := do
  let kind := schemeKind scheme
  let authority := chars.takeWhile fun char => !endsAuthority kind char
  let after := chars.drop authority.length
  let info ← splitUserinfo authority after
  let (hostChars, portChars) := splitHost false info.rest
  let host ←
    if hostChars.isEmpty then
      if kind = .special ∨ portChars.head? = some ':' ∨ info.username ≠ "" ∨
          info.password.isSome then
        throw .emptyHost
      else pure (Host.domain "")
    else if kind = .special then Host.ofSpecial hostChars
    else Host.ofOpaque hostChars
  let port ← readPort scheme portChars
  let tail := splitTail after
  let path :=
    if tail.front.isEmpty then (if kind = .special then "/" else "")
    else pathFrom kind [] (tail.front.drop 1)
  return { scheme, username := info.username, password := info.password,
           host := some host, port, path, query := encodeQuery kind tail.query,
           fragment := encodeFragment tail.fragment }

/-- The address of a file with a host and the characters from its path on. -/
def fileUrl (host : Option Host) (chars : List Char) : Url :=
  let tail := splitTail chars
  let front := match tail.front with
    | '/' :: rest => rest
    | '\\' :: rest => rest
    | front => front
  { scheme := "file", username := "", password := none, host, port := none
    path := pathFrom .file [] front
    query := encodeQuery .file tail.query, fragment := encodeFragment tail.fragment }

/-- Read what follows the colon behind the scheme of a file. -/
def readFile (chars : List Char) : Except UrlError Url := do
  let isSlash := fun (char : Option Char) => char = some '/' ∨ char = some '\\'
  if isSlash chars.head? ∧ isSlash (chars.drop 1).head? then
    let rest := chars.drop 2
    let hostChars := rest.takeWhile fun char => !endsAuthority .file char
    if isDriveLetter hostChars then return fileUrl none rest
    else if hostChars.isEmpty then return fileUrl none rest
    else
      let host ← Host.ofSpecial hostChars
      let shown := if host = .domain "localhost" then none else some host
      return fileUrl shown (rest.drop hostChars.length)
  else return fileUrl none chars

/-- Read what follows the colon behind a scheme that is not special. -/
def readOther (scheme : String) (chars : List Char) : Except UrlError Url :=
  match chars with
  | '/' :: '/' :: rest => afterSlashes scheme rest
  | _ =>
      let tail := splitTail chars
      let path := match tail.front with
        | '/' :: rest => pathFrom .other [] rest
        | front => String.ofList (Percent.encode Percent.controls front)
      .ok { scheme, username := "", password := none, host := none, port := none, path
            query := encodeQuery .other tail.query,
            fragment := encodeFragment tail.fragment }

/-- The characters of a text that count: control characters and spaces at the ends, and
tabs and line ends anywhere, do not. -/
def significant (text : String) : List Char :=
  (Text.trimBoth (fun char => char.toNat ≤ 0x20) text.toList).filter fun char =>
    char != '\t' && char != '\n' && char != '\r'

/-- Whether a character may stand in a scheme behind its first letter. -/
def isSchemeChar (char : Char) : Bool :=
  Text.isLetter char || Text.isDigit char || char == '+' || char == '-' || char == '.'

/-- The scheme of an address and what follows its colon. -/
def splitScheme? (chars : List Char) : Option (String × List Char) :=
  let scheme := chars.takeWhile isSchemeChar
  match scheme.head?, chars.drop scheme.length with
  | some first, ':' :: rest =>
      if Text.isLetter first then some (String.ofList (scheme.map Text.lowerAscii), rest)
      else none
  | _, _ => none

/-- Read what follows a scheme and its colon. -/
def afterScheme (scheme : String) (chars : List Char) : Except UrlError Url :=
  match schemeKind scheme with
  | .file => readFile chars
  | .special =>
      afterSlashes scheme (chars.dropWhile fun char => char == '/' || char == '\\')
  | .other => readOther scheme chars

/-- The address that a text denotes. -/
def ofText (text : String) : Except UrlError Url :=
  match splitScheme? (significant text) with
  | some (scheme, rest) => afterScheme scheme rest
  | none => .error .relativeWithoutBase

/-- The segments of the directory in which a resource lies, in reverse order. -/
def directory (url : Url) : List (List Char) :=
  (Text.splitEvery '/' (url.path.toList.drop 1)).reverse.drop 1

/-- Read a reference without a scheme at a base with a special scheme. -/
def relativeTo (base : Url) (chars : List Char) : Except UrlError Url :=
  let slash := fun (char : Char) => char == '/' || char == '\\'
  let tail := splitTail chars
  let query := encodeQuery .special tail.query
  let fragment := encodeFragment tail.fragment
  match tail.front with
  | [] =>
      match tail.query with
      | some _ => .ok { base with query, fragment }
      | none => .ok { base with fragment }
  | first :: rest =>
      if slash first then
        if rest.head?.any slash then afterSlashes base.scheme (chars.dropWhile slash)
        else .ok { base with path := pathFrom .special [] rest, query, fragment }
      else
        .ok { base with
          path := pathFrom .special base.directory (first :: rest), query, fragment }

/-- The address that a reference denotes at a base with a special scheme. -/
def resolve (base : Url) (reference : String) : Except UrlError Url :=
  let chars := significant reference
  match splitScheme? chars with
  | some (scheme, rest) =>
      let slashes := rest.takeWhile fun char => char == '/' || char == '\\'
      if scheme = base.scheme ∧ slashes.length < 2 then relativeTo base rest
      else afterScheme scheme rest
  | none => relativeTo base chars

end Url
end Gatehouse
