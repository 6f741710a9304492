import Gatehouse.Net.Address
import Gatehouse.Url.DomainName
import Gatehouse.Url.Percent

/-!
# Hosts in addresses

A host is a domain name or a network address. A name whose last label is a number is a
network address of the first family, whose parts may be decimal, octal or hexadecimal
and may be left out.
-/

namespace Gatehouse

/-- Why a text is not an address of a resource. -/
inductive UrlError
  | emptyHost
  | domainName
  | port
  | ipv4
  | ipv6
  | domainCharacter
  | relativeWithoutBase
  deriving DecidableEq, Repr

/-- The text that reports the error. -/
def UrlError.message : UrlError → String
  | .emptyHost => "empty host"
  | .domainName => "invalid international domain name"
  | .port => "invalid port number"
  | .ipv4 => "invalid IPv4 address"
  | .ipv6 => "invalid IPv6 address"
  | .domainCharacter => "invalid domain character"
  | .relativeWithoutBase => "relative URL without a base"

/-- A host. -/
inductive Host
  | domain (name : String)
  | v4 (bits : BitVec 32)
  | v6 (bits : BitVec 128)
  deriving DecidableEq, Repr

namespace Host

/-- A host as it is written in an address. -/
def text : Host → String
  | .domain name => name
  | .v4 bits => Address.showV4 bits
  | .v6 bits => "[" ++ Address.showCompressed bits ++ "]"

/-- The value of digits in a base. -/
def digitsValue (base : Nat) (digits : List Char) : Nat :=
  digits.foldl (fun value char => value * base + (Text.Hex.value? char).getD 0) 0

/-- A number of a network address: hexadecimal behind `0x`, octal behind a zero, else
decimal. -/
def number? (chars : List Char) : Option Nat :=
  match chars with
  | [] => none
  | '0' :: 'x' :: digits => hex? digits
  | '0' :: 'X' :: digits => hex? digits
  | '0' :: first :: digits =>
      if (first :: digits).all fun char => '0' ≤ char && char ≤ '7' then
        some (digitsValue 8 (first :: digits))
      else none
  | digits => if digits.all Text.isDigit then some (digitsValue 10 digits) else none
where
  /-- The value of hexadecimal digits, zero if there are none. -/
  hex? (digits : List Char) : Option Nat :=
    if digits.all fun char =>
      (Text.Hex.value? char).isSome then some (digitsValue 16 digits)
    else none

/-- The labels of a name, without an empty one at the end. -/
def labels (name : List Char) : List (List Char) :=
  let all := Text.splitEvery '.' name
  if 1 < all.length && all.getLast? == some [] then all.dropLast else all

/-- Whether a name ends in a number. -/
def endsInNumber (name : List Char) : Bool :=
  match (labels name).getLast? with
  | none => false
  | some last => (!last.isEmpty && last.all Text.isDigit) || (number? last).isSome

/-- The network address of a name that ends in a number. The last part fills all the
octets that remain. -/
def ofNumbers? (name : List Char) : Option (BitVec 32) := do
  let parts := labels name
  if 4 < parts.length then none
  else
    let numbers ← parts.mapM number?
    let last ← numbers.getLast?
    let leading := numbers.dropLast
    if leading.all (· < 256) && last < 1 <<< (8 * (4 - leading.length)) then
      let high := leading.foldl (fun value part => value * 256 + part) 0
      some (BitVec.ofNat 32 (high <<< (8 * (4 - leading.length)) + last))
    else none

/-- The network address between square brackets. -/
def ofBrackets (chars : List Char) : Except UrlError Host :=
  match chars.getLast? with
  | some ']' =>
      match Address.readV6? Address.strict (chars.drop 1).dropLast with
      | some (bits, []) => .ok (.v6 bits)
      | _ => .error .ipv6
  | _ => .error .ipv6

/-- The host of an address with a special scheme. -/
def ofSpecial (chars : List Char) : Except UrlError Host :=
  if chars.head? = some '[' then ofBrackets chars
  else
    match DomainName.toAscii?
        (Percent.decode (Text.Utf8.encode (String.ofList chars))) with
    | none => .error .domainName
    | some name =>
        if name = "" then .error .emptyHost
        else if endsInNumber name.toList then
          match ofNumbers? name.toList with
          | some bits => .ok (.v4 bits)
          | none => .error .ipv4
        else .ok (.domain name)

/-- The host of an address with any other scheme. -/
def ofOpaque (chars : List Char) : Except UrlError Host :=
  if chars.head? = some '[' then ofBrackets chars
  else if chars.any fun char =>
      char.toNat = 0 || " #/:<>?@[\\]^|".toList.contains char then
    .error .domainCharacter
  else .ok (.domain (String.ofList (Percent.encode Percent.controls chars)))

end Host
end Gatehouse
