import Gatehouse.Text.Ascii

/-!
# Decimal literals

Reading of unsigned and signed decimal literals of bounded size. A sign may stand in
front, at least one digit has to follow, and leading zeros are allowed.
-/

namespace Gatehouse
namespace Text
namespace Decimal

/-- The number that a list of digits denotes, read after the digits of `value`. -/
def digitsFrom? (value : Nat) : List Char → Option Nat
  | [] => some value
  | char :: rest =>
      if isDigit char then digitsFrom? (value * 10 + (char.toNat - '0'.toNat)) rest
      else none

/-- The number that a non-empty list of digits denotes. -/
def digits? : List Char → Option Nat
  | [] => none
  | chars => digitsFrom? 0 chars

/-- The number of an unsigned literal, a plus sign being allowed, if it is at most
`limit`. -/
def unsigned? (limit : Nat) (chars : List Char) : Option Nat := do
  let value ← digits? (match chars with | '+' :: rest => rest | _ => chars)
  if value ≤ limit then some value else none

/-- The number of a signed literal between `-limit - 1` and `limit`. -/
def signed? (limit : Nat) : List Char → Option Int
  | '-' :: rest => do
      let value ← digits? rest
      if value ≤ limit + 1 then some (-(value : Int)) else none
  | chars => (unsigned? limit chars).map Int.ofNat

/-- The largest signed number of 64 bits. -/
def maxSigned64 : Nat := 0x7FFFFFFFFFFFFFFF

/-- The number of a signed literal of 64 bits. -/
def signed64? (text : String) : Option Int :=
  signed? maxSigned64 text.toList

/-- A natural number in decimal. -/
def natural (value : Nat) : String :=
  String.ofList (Nat.toDigits 10 value)

/-- An integer in decimal, with a minus sign if it is negative. -/
def integer : Int → String
  | .ofNat value => natural value
  | .negSucc value => String.ofList ('-' :: Nat.toDigits 10 (value + 1))

end Decimal
end Text
end Gatehouse
