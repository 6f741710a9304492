import Gatehouse.Regex.Basic
import Gatehouse.Regex.Folding
import Gatehouse.Regex.Property
import Gatehouse.Text.Decimal
import Gatehouse.Text.Hex
import Gatehouse.Text.Split

/-!
# The notation of patterns: single parts

The flags under which a pattern is read, and the reading of escapes, of bracketed sets
and of the heads of groups. A reader fails on anything that is not well formed, and on
the names of sets that are not among those of `Property`. The sizes of sets are rough:
each kind of set has one.
-/

namespace Gatehouse
namespace Regex

/-- The flags under which a part of a pattern is read. -/
structure Flags where
  ignoreCase : Bool := false
  multiLine : Bool := false
  dotAll : Bool := false
  carriage : Bool := false
  unicode : Bool := true
  /-- Blanks and comments between parts do not count. -/
  extended : Bool := false

/-- What is left of a pattern, the current flags, and the names of groups so far. -/
structure Reading where
  rest : List Char
  flags : Flags
  names : List String

/-- A reader of a part of a pattern. -/
abbrev Reader := StateT Reading Option

namespace Reader

/-- What follows blanks and comments; the flag tells whether a comment has been begun. -/
def afterBlanks : Bool → List Char → List Char
  | _, [] => []
  | true, char :: rest => afterBlanks (char != '\n') rest
  | false, char :: rest =>
      if Text.isBlank char then afterBlanks false rest
      else if char = '#' then afterBlanks true rest
      else char :: rest

/-- Skip blanks and comments if they do not count. -/
def skipBlanks : Reader Unit :=
  modify fun reading =>
    if reading.flags.extended then { reading with rest := afterBlanks false reading.rest }
    else reading

/-- The next character, which stays. -/
def peek? : Reader (Option Char) := do
  return (← get).rest.head?

/-- Take the next character. -/
def next : Reader Char := do
  let reading ← get
  match reading.rest with
  | [] => failure
  | char :: rest =>
      set { reading with rest }
      return char

/-- Take the next character and the blanks behind it. -/
def nextSpaced : Reader Char := do
  let char ← next
  skipBlanks
  return char

/-- Take given characters if they follow. -/
def accept (expected : List Char) : Reader Bool := do
  let reading ← get
  match Text.afterStart? expected reading.rest with
  | some rest =>
      set { reading with rest }
      return true
  | none => return false

/-- Take characters up to a closing one, which is taken too. At most `limit` are taken. -/
def until? (close : Char) : Nat → Reader (List Char)
  | 0 => failure
  | limit + 1 => do
      let char ← nextSpaced
      if char = close then return []
      else return char :: (← until? close limit)

/-- A number that is no larger than a word of 32 bits, with blanks around it. -/
def decimal : Reader Nat := do
  modify fun reading => { reading with rest := reading.rest.dropWhile Text.isBlank }
  let reading ← get
  let digits := reading.rest.takeWhile Text.isDigit
  match Text.Decimal.digits? digits with
  | none => failure
  | some value =>
      if UInt32.size ≤ value then failure
      else
        set { reading with
          rest := (reading.rest.drop digits.length).dropWhile Text.isBlank }
        skipBlanks
        return value

end Reader

/-- What an escape stands for. -/
inductive Escape
  /-- A character; `octet` tells that it was written as an octet. -/
  | literal (char : Char) (octet : Bool)
  | set (set : CodeSet) (cost : Nat)
  | look (look : Look)

/-- The complement of a set. -/
def complement (set : CodeSet) : CodeSet := fun code => !set code

/-- A set or its complement. -/
def negateIf (negated : Bool) (set : CodeSet) : CodeSet :=
  if negated then complement set else set

/-- A set with the variants of its characters if case does not count. -/
def foldIf (flags : Flags) (set : CodeSet) : CodeSet :=
  if flags.ignoreCase then (if flags.unicode then fold set else foldAscii set) else set

/-- Whether a set has no octets but those of ASCII. -/
def isAscii (set : CodeSet) : Bool :=
  !(List.range 128).any fun offset => set (128 + offset)

/-- The size of a small set. -/
def smallCost : Nat := 64

/-- The size of a set that reaches beyond ASCII. -/
def wideCost : Nat := 600

/-- The size of a set with very many ranges. -/
def hugeCost : Nat := 54000

/-- The characters of words under flags. -/
def Flags.word (flags : Flags) : CodeSet :=
  if flags.unicode then wordChars else asciiWordChars

/-- The set of a letter behind a backslash. -/
def letterSet? (flags : Flags) (letter : Char) : Option Escape :=
  let base? : Option (CodeSet × CodeSet × Nat) :=
    match Text.lowerAscii letter with
    | 'd' => some (digits, inRanges [(0x30, 0x39)], 4600)
    | 's' => some (blanks, inRanges [(0x09, 0x0D), (0x20, 0x20)], 800)
    | 'w' => some (wordChars, asciiWordChars, hugeCost)
    | _ => none
  base?.bind fun (wide, narrow, cost) =>
    let negated := letter.toNat < 0x60
    if flags.unicode then some (.set (negateIf negated wide) cost)
    else if negated then none
    else some (.set narrow smallCost)

namespace Reader

/-- The character of hexadecimal digits. -/
def scalar (digits : List Char) : Reader Char :=
  match digits.mapM Text.Hex.value? with
  | none => failure
  | some values =>
      let code := values.foldl (fun code value => code * 16 + value) 0
      if digits.isEmpty || !decide code.isValidChar then failure
      else return Char.ofNat code

/-- Take so many characters. -/
def take : Nat → Reader (List Char)
  | 0 => return []
  | count + 1 => do
      let char ← nextSpaced
      return char :: (← take count)

/-- A character by its number, in braces or with a fixed number of digits. -/
def hexadecimal (letter : Char) : Reader Escape := do
  skipBlanks
  if (← peek?) = some '{' then
    discard nextSpaced
    let char ← scalar (← until? '\x7d' (← get).rest.length)
    return .literal char false
  else
    let digits := if letter = 'x' then 2 else if letter = 'u' then 4 else 8
    let char ← scalar (← take digits)
    return .literal char (letter = 'x')

/-- The set of a name, or of a property and a value, with a mark for its complement. -/
def propertySet? (text : String) : Option (Bool × CodeSet) :=
  match Text.splitOnce? "!=" text with
  | some (property, value) => (valuedSet? property value).map fun set => (true, set)
  | none =>
      match Text.splitOnce? ":" text with
      | some (property, value) => (valuedSet? property value).map fun set => (false, set)
      | none =>
          match Text.splitOnce? "=" text with
          | some (property, value) =>
              (valuedSet? property value).map fun set => (false, set)
          | none => (namedSet? text).map fun set => (false, set)

/-- A set by the name of a category, a script or a property. -/
def property (negated : Bool) : Reader Escape := do
  skipBlanks
  let first ← nextSpaced
  let name ← if first = '{' then until? '\x7d' ((← get).rest.length + 1) else pure [first]
  let flags := (← get).flags
  match if flags.unicode then propertySet? (String.ofList name) else none with
  | none => failure
  | some (different, set) =>
      return .set (negateIf (negated != different) (foldIf flags set)) hugeCost

/-- What may stand in braces behind a boundary of words. -/
def boundaryNames : List (String × Look) :=
  [("start", .wordStart), ("end", .wordEnd), ("start-half", .halfWordStart),
    ("end-half", .halfWordEnd)]

/-- A boundary of words, with or without a kind in braces. -/
def boundary : Reader Escape := do
  let reading ← get
  let isNameChar := fun (char : Char) => Text.isLetter char || char == '-'
  match reading.rest with
  | '{' :: _ =>
      discard nextSpaced
      match ← peek? with
      | none => failure
      | some char =>
          if isNameChar char then
            let name ← until? '\x7d' (reading.rest.length)
            match boundaryNames.lookup (String.ofList name) with
            | some look => return .look look
            | none => failure
          else
            set reading
            return .look .wordBoundary
  | _ => return .look .wordBoundary

/-- The control characters that letters behind a backslash stand for. -/
def controlLetters : List (Char × Nat) :=
  [('a', 7), ('f', 12), ('t', 9), ('n', 10), ('r', 13), ('v', 11)]

/-- What follows a backslash. -/
def escape : Reader Escape := do
  let char ← next
  let flags := (← get).flags
  if ['x', 'u', 'U'].contains char then hexadecimal char
  else if char = 'p' ∨ char = 'P' then property (char = 'P')
  else if ['d', 's', 'w', 'D', 'S', 'W'].contains char then
    match letterSet? flags char with
    | some escape => return escape
    | none => failure
  else
    match char with
    | 'A' => return .look .textStart
    | 'z' => return .look .textEnd
    | 'b' => boundary
    | 'B' => return .look .noWordBoundary
    | '<' => return .look .wordStart
    | '>' => return .look .wordEnd
    | _ =>
        match controlLetters.lookup char with
        | some code => return .literal (Char.ofNat code) false
        | none =>
            if char.toNat < 0x80 && !Text.isLetter char && !Text.isDigit char then
              return .literal char false
            else failure

/-- An operation on the sets before and behind it. -/
inductive SetOperation
  | intersection
  | difference
  | symmetricDifference

/-- The result of an operation. -/
def SetOperation.apply
    (operation : SetOperation)
    (first second : CodeSet) : CodeSet := fun code =>
  match operation with
  | .intersection => first code && second code
  | .difference => first code && !second code
  | .symmetricDifference => first code != second code

/-- A set whose left part and operation have been read, completed by its right part. -/
def complete
    (flags : Flags)
    (pending : Option (SetOperation × CodeSet))
    (items : CodeSet) : CodeSet :=
  match pending with
  | none => items
  | some (operation, first) => operation.apply (foldIf flags first) (foldIf flags items)

/-- The union of a set with further characters. -/
def union (first second : CodeSet) : CodeSet := fun code => first code || second code

/-- A class of ASCII in brackets and colons, if one follows. -/
def asciiClass : Reader (Option CodeSet) := do
  let reading ← get
  match Text.afterStart? ['[', ':'] reading.rest with
  | none => return none
  | some rest =>
      let (negated, rest) := match rest with
        | '^' :: after => (true, after)
        | _ => (false, rest)
      let name := rest.takeWhile (· != ':')
      match Text.afterStart? [':', ']'] (rest.drop name.length),
          asciiClass? (String.ofList name) with
      | some after, some members =>
          set { reading with rest := after }
          return some (negateIf negated members)
      | _, _ => return none

/-- One item of a bracketed set: a character, or a set behind a backslash. -/
def setItem : Reader Escape := do
  let char ← next
  if char = '\\' then escape else return .literal char false

/-- The character of an item, if it is one that the flags admit. -/
def itemChar (item : Escape) : Reader Char := do
  match item with
  | .literal char _ =>
      if (← get).flags.unicode || char.toNat < 0x80 then return char else failure
  | _ => failure

/-- Whether the character behind a hyphen makes the hyphen stand for itself. -/
def hyphenStands (flags : Flags) (rest : List Char) : Bool :=
  let behind := if flags.extended then afterBlanks false rest else rest
  behind.head? == some ']' || behind.head? == some '-'

/-- An item, or a range between two characters. -/
def setRange : Reader CodeSet := do
  let first ← setItem
  skipBlanks
  let reading ← get
  match reading.rest with
  | [] => failure
  | char :: rest =>
      if char != '-' || hyphenStands reading.flags rest then
        match first with
        | .set members _ => return members
        | .look _ => failure
        | .literal .. =>
            let only ← itemChar first
            return fun code => code == only.toNat
      else
        discard nextSpaced
        let second ← setItem
        let low ← itemChar first
        let high ← itemChar second
        if high < low then failure
        else return fun code => low.toNat ≤ code && code ≤ high.toNat

/-- Hyphens at the start of a set, which stand for themselves. -/
def leadingHyphens : Nat → Bool → Reader Bool
  | 0, _ => failure
  | limit + 1, found => do
      if (← peek?) = some '-' then
        discard nextSpaced
        leadingHyphens limit true
      else return found

/-- The start of a bracketed set, behind its bracket: whether the complement is meant,
and the characters that stand for themselves because of their place. -/
def setStart : Reader (Bool × CodeSet) := do
  skipBlanks
  let negated := (← peek?) = some '^'
  if negated then discard nextSpaced
  let hyphens ← leadingHyphens ((← get).rest.length + 1) false
  let closes := !hyphens && (← peek?) = some ']'
  if closes then discard nextSpaced
  return (negated, fun code => (hyphens && code == 0x2D) || (closes && code == 0x5D))

/-- A bracketed set behind its start, and how deep sets are nested in it. At most
`limit` items are read. -/
def setBody : Nat → Bool → CodeSet → Option (SetOperation × CodeSet) → Nat →
  Reader (CodeSet × Nat)
  | 0, _, _, _, _ => failure
  | limit + 1, negated, items, pending, depth => do
      skipBlanks
      let reading ← get
      let flags := reading.flags
      match reading.rest with
      | [] => failure
      | '[' :: rest =>
          match ← asciiClass with
          | some members => setBody limit negated (union items members) pending depth
          | none =>
              set { reading with rest }
              let (innerNegated, start) ← setStart
              let (inner, innerDepth) ← setBody limit innerNegated start none 0
              setBody limit negated (union items inner) pending
                (max depth (innerDepth + 1))
      | ']' :: rest =>
          set { reading with rest }
          let members := negateIf negated (foldIf flags (complete flags pending items))
          if flags.unicode || isAscii members then return (members, depth) else failure
      | '&' :: '&' :: rest =>
          set { reading with rest }
          let first := complete flags pending items
          setBody limit negated (fun _ => false) (some (.intersection, first)) depth
      | '-' :: '-' :: rest =>
          set { reading with rest }
          let first := complete flags pending items
          setBody limit negated (fun _ => false) (some (.difference, first)) depth
      | '~' :: '~' :: rest =>
          set { reading with rest }
          let first := complete flags pending items
          setBody limit negated (fun _ => false)
            (some (.symmetricDifference, first)) depth
      | _ =>
          let members ← setRange
          setBody limit negated (union items members) pending depth

/-- The head of a group. -/
inductive GroupHead
  /-- Flags for the rest of the group around it. -/
  | flags (flags : Flags)
  /-- A group with its flags. -/
  | group (flags : Flags)

/-- The flags with one of them set or cleared by its letter. -/
def setFlag? (value : Bool) (letter : Char) (flags : Flags) : Option Flags :=
  match letter with
  | 'i' => some { flags with ignoreCase := value }
  | 'm' => some { flags with multiLine := value }
  | 's' => some { flags with dotAll := value }
  | 'R' => some { flags with carriage := value }
  | 'u' => some { flags with unicode := value }
  | 'x' => some { flags with extended := value }
  | 'U' => some flags
  | _ => none

/-- The flags that letters set, and those that letters behind a hyphen clear. -/
def readFlags? : Bool → List Char → List Char → Flags → Option Flags
  | _, _, [], flags => some flags
  | negated, seen, letter :: rest, flags =>
      if seen.contains letter then none
      else if letter = '-' then
        if rest.isEmpty then none else readFlags? true ('-' :: seen) rest flags
      else
        (setFlag? (!negated) letter flags).bind (readFlags? negated (letter :: seen) rest)

/-- Whether characters are the name of a group. -/
def isGroupName (name : List Char) : Bool :=
  match name with
  | [] => false
  | first :: rest =>
      (first == '_' || alphabetic first.toNat) &&
        rest.all fun char =>
          alphabetic char.toNat || (ofCategories ["Nd", "Nl", "No"]) char.toNat
          || "_.[]".toList.contains char

/-- The head of a group, behind its parenthesis. -/
def groupHead : Reader GroupHead := do
  skipBlanks
  for lookaround in ["?=", "?!", "?<=", "?<!"] do
    if ← accept lookaround.toList then failure
  let flags := (← get).flags
  if (← accept "?P<".toList) || (← accept "?<".toList) then
    let reading ← get
    let name := reading.rest.takeWhile (· != '>')
    match reading.rest.drop name.length with
    | [] => failure
    | _ :: rest =>
        let text := String.ofList name
        if !isGroupName name || reading.names.contains text then failure
        else
          set { reading with rest, names := text :: reading.names }
          return .group flags
  else if ← accept ['?'] then
    let reading ← get
    let letters := reading.rest.takeWhile fun char => char != ':' && char != ')'
    match reading.rest.drop letters.length, readFlags? false [] letters flags with
    | ':' :: rest, some changed =>
        set { reading with rest }
        return .group changed
    | _ :: rest, some changed =>
        if letters.isEmpty then failure
        else
          set { reading with rest }
          return .flags changed
    | _, _ => failure
  else return .group flags

end Reader
end Regex
end Gatehouse
