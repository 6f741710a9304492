import Gatehouse.Text.Hex
import Gatehouse.Text.Split

/-!
# Search filters

The textual form of search filters in a directory, their syntax trees, and templates in
which the placeholder `%s` stands for a value. Values are escaped when they are put into
a template, so that they stay inside the assertion in which the placeholder stands.

The reader takes what RFC 4515 admits. That includes an extensible comparison by the
rule `dn`, as in `(:dn:=v)`, and by a rule whose name begins so, as in
`(cn:dnMatch:=x)`. A reader that looks for the mark of entry names first, and does not
go back, refuses both.
-/

namespace Gatehouse

/-- How an assertion compares, other than for equality. -/
inductive Comparison
  | greaterOrEqual (key : String)
  | lessOrEqual (key : String)
  | approximate (key : String)
  | extensible (key rule : Option String) (dnAttributes : Bool)
  deriving DecidableEq, Repr

/-- The tree of a search filter, whose values are sequences of items. -/
inductive FilterTree (α : Type)
  | all (parts : List (FilterTree α))
  | any (parts : List (FilterTree α))
  | not (part : FilterTree α)
  | equal (key : String) (value : List α)
  | substrings (key : String) (initial : List α) (middle : List (List α)) (final : List α)
  | present (key : String)
  | compare (comparison : Comparison) (value : List α)

/-- A search filter. Values are octets. -/
abbrev Filter := FilterTree UInt8

namespace Filter

/-- The escaped form of one octet of a value. The octets with a meaning in filters are
written as a backslash and two hexadecimal digits. -/
def escapeChar (char : Char) : List Char :=
  if char.toNat = 0 then ['\\', '0', '0']
  else if char = '(' then ['\\', '2', '8']
  else if char = ')' then ['\\', '2', '9']
  else if char = '*' then ['\\', '2', 'a']
  else if char = '\\' then ['\\', '5', 'c']
  else [char]

/-- The escaped form of a value. -/
def escape (value : String) : String :=
  String.ofList (value.toList.flatMap escapeChar)

/-- Put characters in place of each placeholder `%s` of a template. -/
def fill (value : List Char) : List Char → List Char
  | [] => []
  | '%' :: 's' :: rest => value ++ fill value rest
  | char :: rest => char :: fill value rest

/-- The filter text of a template for a value. -/
def render (template value : String) : String :=
  String.ofList (fill (escape value).toList template.toList)

/-- The octets of a value in which escapes stand for single octets. -/
def unescape? : List Char → Option Bytes
  | [] => some []
  | '\\' :: high :: low :: rest => do
      let highValue ← Text.Hex.value? high
      let lowValue ← Text.Hex.value? low
      let octets ← unescape? rest
      some (UInt8.ofNat (highValue * 16 + lowValue) :: octets)
  | char :: rest =>
      if char = '\\' then none
      else (unescape? rest).map (Text.Utf8.encode (String.singleton char) ++ ·)

/-- Whether a character may stand in a descriptor after its first one. -/
def isKeyChar (char : Char) : Bool :=
  ('a' ≤ char && char ≤ 'z') || ('A' ≤ char && char ≤ 'Z') || ('0' ≤ char && char ≤ '9')
    || char == '-'

/-- Whether characters are a number without superfluous zeros. -/
def isNumber (chars : List Char) : Bool :=
  !chars.isEmpty && chars.all Char.isDigit &&
    (chars.length == 1 || chars.head? != some '0')

/-- Whether characters are a descriptor or a dotted identifier. -/
def isType (chars : List Char) : Bool :=
  match chars with
  | [] => false
  | first :: rest =>
      if first.isAlpha then rest.all isKeyChar
      else (Text.splitEvery '.' chars).all isNumber

/-- Whether characters are a type with options behind semicolons. -/
def isDescription (chars : List Char) : Bool :=
  match Text.splitEvery ';' chars with
  | [] => false
  | first :: options =>
      isType first && options.all fun item => !item.isEmpty && item.all isKeyChar

/-- The assertion about the pieces of a value between wildcards: equality without a
wildcard, presence for a wildcard alone, and substrings else. -/
def ofPieces? {α : Type} (key : String) : List (List α) → Option (FilterTree α)
  | [] => none
  | [value] => some (.equal key value)
  | [[], []] => some (.present key)
  | initial :: rest =>
      if rest.dropLast.any List.isEmpty then none
      else some (.substrings key initial rest.dropLast (rest.getLastD []))

/-- The assertion of equality, presence or substrings for a value with wildcards. -/
def ofPattern? (key : String) (pattern : List Char) : Option Filter := do
  let pieces ← (Text.splitEvery '*' pattern).mapM unescape?
  ofPieces? key pieces

/-- A description, unless it is left out. -/
def optionalKey? (chars : List Char) : Option (Option String) :=
  if chars.isEmpty then some none
  else if isDescription chars then some (some (String.ofList chars))
  else none

/-- An extensible comparison: a description, the mark for names of entries, and a rule,
with colons between them. -/
def extensible? (chars : List Char) : Option Comparison :=
  match Text.splitEvery ':' chars with
  | [key] =>
      if key.isEmpty then none
      else (optionalKey? key).map fun name => .extensible name none false
  | [key, rule] => do
      let name ← optionalKey? key
      if rule = ['d', 'n'] ∧ name.isSome then some (.extensible name none true)
      else if isType rule then some (.extensible name (some (String.ofList rule)) false)
      else none
  | [key, dn, rule] => do
      let name ← optionalKey? key
      if dn = ['d', 'n'] ∧ isType rule then
        some (.extensible name (some (String.ofList rule)) true)
      else none
  | _ => none

/-- The comparison that is written in front of an equals sign. -/
def comparison? (chars : List Char) : Option Comparison :=
  let key := chars.dropLast
  match chars.getLast? with
  | some '>' =>
      if isDescription key then some (.greaterOrEqual (String.ofList key)) else none
  | some '<' =>
      if isDescription key then some (.lessOrEqual (String.ofList key)) else none
  | some '~' =>
      if isDescription key then some (.approximate (String.ofList key)) else none
  | some ':' => extensible? key
  | _ => none

/-- An assertion: what stands between the parentheses of a filter without parts. Only
equality admits wildcards. -/
def item? (chars : List Char) : Option Filter := do
  let (left, pattern) ← Text.splitFirst? ['='] chars
  if isDescription left then ofPattern? (String.ofList left) pattern
  else if pattern.all (· != '*') then do
    let comparison ← comparison? left
    let value ← unescape? pattern
    some (.compare comparison value)
  else none

/-- Whether a character may stand in an assertion. -/
def isItemChar (char : Char) : Bool :=
  char != '(' && char != ')' && char.toNat != 0

/-- The filter made of what has been read, if a parenthesis closes behind it. -/
def enclose?
    {α : Type}
    (wrap : α → Filter) : Option (α × List Char) → Option (Filter × List Char)
  | some (part, ')' :: rest) => some (wrap part, rest)
  | _ => none

mutual

/-- Read a filter in parentheses. The depth bounds the nesting. -/
def read? : Nat → List Char → Option (Filter × List Char)
  | 0, _ => none
  | depth + 1, '(' :: '&' :: rest => enclose? .all (readList? depth rest)
  | depth + 1, '(' :: '|' :: rest => enclose? .any (readList? depth rest)
  | depth + 1, '(' :: '!' :: rest => enclose? .not (read? depth rest)
  | _ + 1, '(' :: rest =>
      enclose? id ((item? (rest.takeWhile isItemChar)).map (·, rest.dropWhile isItemChar))
  | _ + 1, _ => none

/-- Read as many filters as there are. -/
def readList? : Nat → List Char → Option (List Filter × List Char)
  | 0, _ => none
  | depth + 1, chars =>
      match chars with
      | '(' :: _ => do
          let (part, after) ← read? depth chars
          let (parts, remaining) ← readList? depth after
          some (part :: parts, remaining)
      | _ => some ([], chars)

end

/-- The filter of a text. The parentheses around an assertion may be left out. -/
def ofText? (text : String) : Option Filter :=
  let chars := text.toList
  match chars with
  | '(' :: _ =>
      match read? (2 * chars.length + 2) chars with
      | some (filter, []) => some filter
      | _ => none
  | _ => if chars.all isItemChar then item? chars else none

end Filter
end Gatehouse
