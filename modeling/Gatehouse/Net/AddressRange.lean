import Gatehouse.Net.Address
import Gatehouse.Text.Quoted

/-!
# Ranges of addresses

A range holds the addresses of its family that agree with its address in a number of
leading bits. A single address is a range in which all bits count.
-/

namespace Gatehouse

/-- An address and the number of leading bits that count. -/
structure AddressRange where
  address : Address
  length : Nat
  deriving DecidableEq, Repr

namespace AddressRange

/-- A text that is neither a range nor an address, without the blanks around it. -/
structure Invalid where
  given : String
  deriving DecidableEq, Repr

/-- The text that reports the error. -/
def Invalid.message (invalid : Invalid) : String :=
  "invalid skip_auth ip " ++ Text.Quoted.text invalid.given ++
    ": expected an address or CIDR range"

/-- The range of a single address. -/
def ofAddress : Address → AddressRange
  | .v4 bits => ⟨.v4 bits, 32⟩
  | .v6 bits => ⟨.v6 bits, 128⟩

/-- Read a slash and a length of up to a number of digits, which end a text. -/
def lengthOf? (maxDigits limit : Nat) (chars : List Char) : Option Nat :=
  match chars with
  | '/' :: rest =>
      match Address.readDecimal? Address.lax maxDigits limit rest with
      | some (length, []) => some length
      | _ => none
  | _ => none

/-- The range that a text with a slash spells. -/
def ofSlashed? (chars : List Char) : Option AddressRange :=
  let first := (Address.readV4? Address.lax chars).bind fun (bits, rest) =>
    (lengthOf? 2 33 rest).map fun length => AddressRange.mk (.v4 bits) length
  match first with
  | some range => some range
  | none => (Address.readV6? Address.lax chars).bind fun (bits, rest) =>
      (lengthOf? 3 129 rest).map fun length => AddressRange.mk (.v6 bits) length

/-- The range of a text: an address with a length behind a slash, or a single address. -/
def ofText (text : String) : Except Invalid AddressRange :=
  let trimmed := Text.trim text
  match ofSlashed? trimmed.toList with
  | some range => .ok range
  | none =>
      match Address.ofText? trimmed with
      | some address => .ok (ofAddress address)
      | none => .error ⟨trimmed⟩

/-- Whether an address lies in the range. -/
def contains (range : AddressRange) (address : Address) : Bool :=
  match range.address, address with
  | .v4 first, .v4 second =>
      first >>> (32 - range.length) == second >>> (32 - range.length)
  | .v6 first, .v6 second =>
      first >>> (128 - range.length) == second >>> (128 - range.length)
  | _, _ => false

/-- The usual spelling of a range. -/
def text (range : AddressRange) : String :=
  range.address.text ++ "/" ++ Text.Decimal.natural range.length

end AddressRange
end Gatehouse
