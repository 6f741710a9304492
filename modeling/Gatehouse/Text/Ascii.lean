import Gatehouse.Text.Blank

/-!
# The ASCII part of text

Case is folded for the letters of ASCII only; every other character is left alone. Names
of header fields, groups and algorithms compare in this way.
-/

namespace Gatehouse
namespace Text

/-- The lower-case form of an ASCII letter; any other character itself. -/
def lowerAscii (char : Char) : Char :=
  if 'A' ≤ char ∧ char ≤ 'Z' then Char.ofNat (char.toNat + 32) else char

/-- A text with its ASCII letters in lower case. -/
def lower (text : String) : String :=
  String.ofList (text.toList.map lowerAscii)

/-- Whether two texts agree up to the case of ASCII letters. -/
def sameIgnoringCase (first second : String) : Bool :=
  first.toList.map lowerAscii == second.toList.map lowerAscii

/-- The decimal digits of ASCII. -/
def isDigit (char : Char) : Bool :=
  '0' ≤ char && char ≤ '9'

/-- The letters of ASCII. -/
def isLetter (char : Char) : Bool :=
  ('a' ≤ char && char ≤ 'z') || ('A' ≤ char && char ≤ 'Z')

/-- The characters of a token: the names of methods and header fields consist of them. -/
def isTokenChar (char : Char) : Bool :=
  isDigit char || isLetter char || "!#$%&'*+-.^_|~\x60".toList.contains char

end Text
end Gatehouse
