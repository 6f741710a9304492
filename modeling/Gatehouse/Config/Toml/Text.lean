import Gatehouse.Text.Ascii
import Gatehouse.Text.Hex

/-!
# Texts in configuration files

Blanks, comments and line ends of a configuration file, its four kinds of quoted texts,
and its keys. Every reader takes characters and gives what it has read together with the
characters that follow.
-/

namespace Gatehouse
namespace Toml

/-- Spaces and tabs. -/
def isSpace (char : Char) : Bool :=
  char == ' ' || char == '\t'

/-- The characters that may stand for themselves in comments and texts. -/
def isPlain (char : Char) : Bool :=
  char == '\t' || (0x20 ≤ char.toNat && char.toNat != 0x7F)

/-- The characters of keys without quotes. -/
def isBare (char : Char) : Bool :=
  Text.isLetter char || Text.isDigit char || char == '_' || char == '-'

/-- What follows spaces and tabs. -/
def skipSpaces (chars : List Char) : List Char :=
  chars.dropWhile isSpace

/-- What follows a line end. -/
def afterLineEnd? : List Char → Option (List Char)
  | '\n' :: rest => some rest
  | '\r' :: '\n' :: rest => some rest
  | _ => none

/-- What follows a comment, if there is one. -/
def skipComment : List Char → List Char
  | '#' :: rest => rest.dropWhile isPlain
  | chars => chars

/-- What follows the end of a line, with a comment in front of it, or the end of the
file. -/
def endLine? (chars : List Char) : Option (List Char) :=
  match skipComment (skipSpaces chars) with
  | [] => some []
  | rest => afterLineEnd? rest

/-- What follows blanks, comments and line ends. At most `limit` lines are skipped. -/
def skipLines : Nat → List Char → List Char
  | 0, chars => chars
  | limit + 1, chars =>
      let rest := skipComment (skipSpaces chars)
      match afterLineEnd? rest with
      | some after => skipLines limit after
      | none => rest

/-- The character with a number in hexadecimal. -/
def scalar? (digits : List Char) : Option Char := do
  let values ← digits.mapM Text.Hex.value?
  let code := values.foldl (fun code value => code * 16 + value) 0
  if code.isValidChar then some (Char.ofNat code) else none

/-- The character that a letter behind a backslash stands for. -/
def escaped? : Char → Option Char
  | 'b' => some (Char.ofNat 8)
  | 't' => some '\t'
  | 'n' => some '\n'
  | 'f' => some (Char.ofNat 12)
  | 'r' => some '\r'
  | '"' => some '"'
  | '\\' => some '\\'
  | _ => none

/-- A character in front of what has been read. -/
def push (char : Char) : List Char × List Char → List Char × List Char
  | (done, rest) => (char :: done, rest)

/-- The rest of a text in double quotes on one line. -/
def readBasic : List Char → Option (List Char × List Char)
  | [] => none
  | '"' :: rest => some ([], rest)
  | '\\' :: 'u' :: a :: b :: c :: d :: rest => do
      let char ← scalar? [a, b, c, d]
      (readBasic rest).map (push char)
  | '\\' :: 'U' :: a :: b :: c :: d :: e :: f :: g :: h :: rest => do
      let char ← scalar? [a, b, c, d, e, f, g, h]
      (readBasic rest).map (push char)
  | '\\' :: letter :: rest => do
      let char ← escaped? letter
      (readBasic rest).map (push char)
  | char :: rest =>
      if char != '\\' && isPlain char then (readBasic rest).map (push char) else none

/-- The rest of a text in single quotes on one line. -/
def readLiteral : List Char → Option (List Char × List Char)
  | [] => none
  | '\'' :: rest => some ([], rest)
  | char :: rest => if isPlain char then (readLiteral rest).map (push char) else none

/-- Whether a backslash in front of these characters only breaks the line. -/
def breaksLine (chars : List Char) : Bool :=
  (afterLineEnd? (skipSpaces chars)).isSome

/-- The rest of a text in three double quotes. One or two quotes may stand in front of
the closing ones. Behind a backslash that breaks the line, blanks and line ends are
skipped. -/
def readLongBasic : Bool → List Char → Option (List Char × List Char)
  | _, [] => none
  | true, '\n' :: rest => readLongBasic true rest
  | true, '\r' :: '\n' :: rest => readLongBasic true rest
  | true, ' ' :: rest => readLongBasic true rest
  | true, '\t' :: rest => readLongBasic true rest
  | _, '"' :: '"' :: '"' :: '"' :: '"' :: rest => some (['"', '"'], rest)
  | _, '"' :: '"' :: '"' :: '"' :: rest => some (['"'], rest)
  | _, '"' :: '"' :: '"' :: rest => some ([], rest)
  | _, '\r' :: '\n' :: rest => (readLongBasic false rest).map (push '\n')
  | _, '\n' :: rest => (readLongBasic false rest).map (push '\n')
  | _, '\\' :: 'u' :: a :: b :: c :: d :: rest => do
      let char ← scalar? [a, b, c, d]
      (readLongBasic false rest).map (push char)
  | _, '\\' :: 'U' :: a :: b :: c :: d :: e :: f :: g :: h :: rest => do
      let char ← scalar? [a, b, c, d, e, f, g, h]
      (readLongBasic false rest).map (push char)
  | _, '\\' :: letter :: rest =>
      if breaksLine (letter :: rest) then readLongBasic true (letter :: rest)
      else do
        let char ← escaped? letter
        (readLongBasic false rest).map (push char)
  | _, char :: rest =>
      if char != '\\' && isPlain char then (readLongBasic false rest).map (push char)
      else none
termination_by _ chars => chars.length

/-- The rest of a text in three single quotes. One or two quotes may stand in front of
the closing ones. -/
def readLongLiteral : List Char → Option (List Char × List Char)
  | [] => none
  | '\'' :: '\'' :: '\'' :: '\'' :: '\'' :: rest => some (['\'', '\''], rest)
  | '\'' :: '\'' :: '\'' :: '\'' :: rest => some (['\''], rest)
  | '\'' :: '\'' :: '\'' :: rest => some ([], rest)
  | '\r' :: '\n' :: rest => (readLongLiteral rest).map (push '\n')
  | '\n' :: rest => (readLongLiteral rest).map (push '\n')
  | char :: rest => if isPlain char then (readLongLiteral rest).map (push char) else none

/-- The characters without a line end in front. -/
def withoutLineEnd (chars : List Char) : List Char :=
  (afterLineEnd? chars).getD chars

/-- A quoted text. -/
def readText : List Char → Option (String × List Char)
  | '"' :: '"' :: '"' :: rest =>
      (readLongBasic false (withoutLineEnd rest)).map fun (text, after) =>
        (String.ofList text, after)
  | '"' :: rest => (readBasic rest).map fun (text, after) => (String.ofList text, after)
  | '\'' :: '\'' :: '\'' :: rest =>
      (readLongLiteral (withoutLineEnd rest)).map fun (text, after) =>
        (String.ofList text, after)
  | '\'' :: rest =>
      (readLiteral rest).map fun (text, after) => (String.ofList text, after)
  | _ => none

/-- One part of a key. -/
def readKeyPart : List Char → Option (String × List Char)
  | '"' :: rest => (readBasic rest).map fun (text, after) => (String.ofList text, after)
  | '\'' :: rest =>
      (readLiteral rest).map fun (text, after) => (String.ofList text, after)
  | chars =>
      let bare := chars.takeWhile isBare
      if bare.isEmpty then none else some (String.ofList bare, chars.drop bare.length)

/-- A key: parts with points between them, at most `limit` of them. -/
def readKey : Nat → List Char → Option (List String × List Char)
  | 0, _ => none
  | limit + 1, chars => do
      let (part, rest) ← readKeyPart chars
      match skipSpaces rest with
      | '.' :: after =>
          let (parts, final) ← readKey limit (skipSpaces after)
          some (part :: parts, final)
      | _ => some ([part], rest)

end Toml
end Gatehouse
