import Gatehouse.Text.Utf8

/-!
# Hexadecimal text

Octets written as two hexadecimal digits each. Writing uses lower case; reading accepts
both cases and refuses an odd number of digits.
-/

namespace Gatehouse
namespace Text
namespace Hex

/-- The digit of a value below sixteen. -/
def digit (value : Nat) : Char :=
  if value < 10 then Char.ofNat (0x30 + value) else Char.ofNat (0x57 + value)

/-- The upper-case digit of a value below sixteen. -/
def upperDigit (value : Nat) : Char :=
  if value < 10 then Char.ofNat (0x30 + value) else Char.ofNat (0x37 + value)

/-- The value of a digit of either case. -/
def value? (char : Char) : Option Nat :=
  if '0' ≤ char ∧ char ≤ '9' then some (char.toNat - 0x30)
  else if 'a' ≤ char ∧ char ≤ 'f' then some (char.toNat - 0x57)
  else if 'A' ≤ char ∧ char ≤ 'F' then some (char.toNat - 0x37)
  else none

/-- The digits of a sequence of octets. -/
def encode (octets : Bytes) : List Char :=
  octets.flatMap fun octet => [digit (octet.toNat / 16), digit (octet.toNat % 16)]

/-- The octets that the digits stand for. -/
def decode? : List Char → Option Bytes
  | [] => some []
  | [_] => none
  | high :: low :: rest => do
      let highValue ← value? high
      let lowValue ← value? low
      let octets ← decode? rest
      some (UInt8.ofNat (highValue * 16 + lowValue) :: octets)

/-- The digits of a sequence of octets, as text. -/
def text (octets : Bytes) : String :=
  String.ofList (encode octets)

/-- A number in hexadecimal without leading zeros. -/
def natural (value : Nat) : String :=
  String.ofList (Nat.toDigits 16 value)

end Hex
end Text
end Gatehouse
