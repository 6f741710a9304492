import Gatehouse.Text.Hex

/-!
# Percent encoding

Octets that may not stand in a part of an address are written as a percent sign and two
hexadecimal digits. Each part has its own set of octets that have to be written so;
octets outside ASCII always have to.
-/

namespace Gatehouse
namespace Percent

/-- The set of control characters and everything outside ASCII. -/
def controls (octet : UInt8) : Bool :=
  octet < 0x20 || 0x7E < octet

/-- What is encoded in a fragment. -/
def inFragment (octet : UInt8) : Bool :=
  controls octet || (Text.Utf8.encode " \"<>\x60").contains octet

/-- What is encoded in a path. -/
def inPath (octet : UInt8) : Bool :=
  inFragment octet || (Text.Utf8.encode "#?\x7b\x7d").contains octet

/-- What is encoded in a user or a password. -/
def inUserinfo (octet : UInt8) : Bool :=
  inPath octet || (Text.Utf8.encode "/:;=@[\\]^|").contains octet

/-- What is encoded in a query. -/
def inQuery (octet : UInt8) : Bool :=
  controls octet || (Text.Utf8.encode " \"#<>").contains octet

/-- What is encoded in the query of an address with a special scheme. -/
def inSpecialQuery (octet : UInt8) : Bool :=
  inQuery octet || octet == 0x27

/-- One octet, encoded if it is in a set. -/
def encodeOctet (inSet : UInt8 → Bool) (octet : UInt8) : List Char :=
  if inSet octet then
    ['%', Text.Hex.upperDigit (octet.toNat / 16), Text.Hex.upperDigit (octet.toNat % 16)]
  else [Char.ofNat octet.toNat]

/-- Characters with the octets of a set encoded. -/
def encode (inSet : UInt8 → Bool) (chars : List Char) : List Char :=
  (Text.Utf8.encode (String.ofList chars)).flatMap (encodeOctet inSet)

/-- Octets in which each percent sign that two hexadecimal digits follow stands for one
octet. -/
def decode : Bytes → Bytes
  | [] => []
  | 0x25 :: high :: low :: rest =>
      match Text.Hex.value? (Char.ofNat high.toNat),
          Text.Hex.value? (Char.ofNat low.toNat) with
      | some highValue, some lowValue =>
          UInt8.ofNat (highValue * 16 + lowValue) :: decode rest
      | _, _ => 0x25 :: decode (high :: low :: rest)
  | octet :: rest => octet :: decode rest
termination_by octets => octets.length

end Percent
end Gatehouse
