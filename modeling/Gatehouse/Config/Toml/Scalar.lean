import Gatehouse.Config.Toml.Text
import Gatehouse.Config.Value
import Gatehouse.Text.Decimal

/-!
# Numbers and dates in configuration files

Truth values, integers in four bases, numbers with a fraction or an exponent, dates and
times. Of the last two only the form is checked, since no setting has such a value.
-/

namespace Gatehouse
namespace Toml

/-- More digits, with underscores between digits. -/
def moreDigits (isDigit : Char → Bool) : List Char → List Char × List Char
  | [] => ([], [])
  | '_' :: digit :: rest =>
      if isDigit digit then push digit (moreDigits isDigit rest)
      else ([], '_' :: digit :: rest)
  | digit :: rest =>
      if isDigit digit then push digit (moreDigits isDigit rest) else ([], digit :: rest)

/-- At least one digit, with underscores between digits. -/
def readDigits (isDigit : Char → Bool) : List Char → Option (List Char × List Char)
  | [] => none
  | digit :: rest =>
      if isDigit digit then some (push digit (moreDigits isDigit rest)) else none

/-- The integer of a sign and a magnitude, if it has 64 bits. -/
def integer? (negative : Bool) (magnitude : Nat) : Option ConfigValue :=
  if negative then
    if magnitude ≤ Text.Decimal.maxSigned64 + 1 then some (.integer (-(magnitude : Int)))
    else none
  else if magnitude ≤ Text.Decimal.maxSigned64 then some (.integer magnitude) else none

/-- The digits of a base above eight, or of another base up to sixteen. -/
def isDigitBelow (base : Nat) (char : Char) : Bool :=
  (Text.Hex.value? char).any (· < base)

/-- An integer in a base other than ten, without its mark. -/
def readInBase (base : Nat) (chars : List Char) : Option (ConfigValue × List Char) := do
  let (digits, rest) ← readDigits (isDigitBelow base) chars
  let magnitude := digits.foldl (fun value digit =>
    value * base + (Text.Hex.value? digit).getD 0) 0
  let value ← integer? false magnitude
  some (value, rest)

/-- A sign in front of a number. -/
def readSign : List Char → Bool × List Char
  | '-' :: rest => (true, rest)
  | '+' :: rest => (false, rest)
  | chars => (false, chars)

/-- The digits of a decimal integer: a zero, or digits that do not begin with one. -/
def readWhole : List Char → Option (List Char × List Char)
  | '0' :: rest => some (['0'], rest)
  | chars => readDigits Text.isDigit chars

/-- What follows an exponent, if there is one. -/
def skipExponent? : List Char → Option (List Char)
  | 'e' :: rest => (readDigits Text.isDigit (readSign rest).2).map (·.2)
  | 'E' :: rest => (readDigits Text.isDigit (readSign rest).2).map (·.2)
  | chars => some chars

/-- A decimal number. -/
def readDecimal (chars : List Char) : Option (ConfigValue × List Char) := do
  let (negative, unsigned) := readSign chars
  let (digits, rest) ← readWhole unsigned
  match rest with
  | '.' :: fraction =>
      let (_, after) ← readDigits Text.isDigit fraction
      let final ← skipExponent? after
      some (.foreign, final)
  | _ =>
      let final ← skipExponent? rest
      if final.length < rest.length then some (.foreign, final)
      else
        let magnitude ← Text.Decimal.digits? digits
        let value ← integer? negative magnitude
        some (value, rest)

/-- A number, or one of the words for values that are none. -/
def readNumber (chars : List Char) : Option (ConfigValue × List Char) :=
  match chars with
  | '0' :: 'x' :: rest => readInBase 16 rest
  | '0' :: 'o' :: rest => readInBase 8 rest
  | '0' :: 'b' :: rest => readInBase 2 rest
  | _ =>
      match (readSign chars).2 with
      | 'i' :: 'n' :: 'f' :: rest => some (.foreign, rest)
      | 'n' :: 'a' :: 'n' :: rest => some (.foreign, rest)
      | _ => readDecimal chars

/-- A number of exactly so many digits. -/
def readFixed (count : Nat) (chars : List Char) : Option (Nat × List Char) :=
  let digits := chars.take count
  if digits.length = count then
    (Text.Decimal.digits? digits).map fun value => (value, chars.drop count)
  else none

/-- A number of exactly so many digits between two limits, behind a given character. -/
def readPart (mark : Char) (low high : Nat) : List Char → Option (Nat × List Char)
  | [] => none
  | char :: rest => do
      let (value, after) ← readFixed 2 rest
      if char = mark ∧ low ≤ value ∧ value ≤ high then some (value, after) else none

/-- The number of days of a month. -/
def daysOfMonth (year month : Nat) : Nat :=
  if month = 2 then
    if year % 4 = 0 ∧ (year % 100 ≠ 0 ∨ year % 400 = 0) then 29 else 28
  else if [4, 6, 9, 11].contains month then 30
  else 31

/-- What follows a date. -/
def skipDate? (chars : List Char) : Option (List Char) := do
  let (year, rest) ← readFixed 4 chars
  let (month, rest) ← readPart '-' 1 12 rest
  let (_, rest) ← readPart '-' 1 (daysOfMonth year month) rest
  some rest

/-- What follows a time of day. -/
def skipTime? (chars : List Char) : Option (List Char) := do
  let (hour, rest) ← readFixed 2 chars
  if 23 < hour then none
  else
    let (_, rest) ← readPart ':' 0 59 rest
    let (_, rest) ← readPart ':' 0 60 rest
    match rest with
    | '.' :: digit :: after =>
        if Text.isDigit digit then some (after.dropWhile Text.isDigit) else some rest
    | _ => some rest

/-- What follows the difference to universal time, if there is one. -/
def skipOffset (chars : List Char) : List Char :=
  match chars with
  | 'Z' :: rest => rest
  | 'z' :: rest => rest
  | sign :: rest =>
      if sign = '+' ∨ sign = '-' then
        match readPart sign 0 23 (sign :: rest) with
        | some (_, after) =>
            match readPart ':' 0 59 after with
            | some (_, final) => final
            | none => chars
        | none => chars
      else chars
  | [] => []

/-- A date, a time, or both. -/
def readDate (chars : List Char) : Option (ConfigValue × List Char) :=
  match skipDate? chars with
  | none => (skipTime? chars).map fun rest => (.foreign, rest)
  | some rest =>
      match rest with
      | mark :: after =>
          if mark = 'T' ∨ mark = 't' ∨ mark = ' ' then
            match skipTime? after with
            | some final => some (.foreign, skipOffset final)
            | none => some (.foreign, rest)
          else some (.foreign, rest)
      | [] => some (.foreign, rest)

/-- A value without parts. -/
def readScalar (chars : List Char) : Option (ConfigValue × List Char) :=
  match chars with
  | 't' :: 'r' :: 'u' :: 'e' :: rest => some (.boolean true, rest)
  | 'f' :: 'a' :: 'l' :: 's' :: 'e' :: rest => some (.boolean false, rest)
  | _ =>
      match readText chars with
      | some (text, rest) => some (.text text, rest)
      | none =>
          match readDate chars with
          | some found => some found
          | none => readNumber chars

end Toml
end Gatehouse
