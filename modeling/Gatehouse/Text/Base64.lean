import Gatehouse.Text.Utf8

/-!
# Base64

Octets written with 64 characters, three octets in four characters. Two alphabets differ
in their last two characters, and each is used with or without padding. Reading is
strict: padding has to be there exactly where writing puts it, and the bits of the last
character that carry no data have to be zero, so each sequence of octets has one
spelling.
-/

namespace Gatehouse
namespace Text
namespace Base64

/-- The characters for the values 62 and 63. -/
inductive Alphabet
  | standard
  | urlSafe
  deriving DecidableEq, Repr

/-- A way of writing octets. -/
structure Scheme where
  alphabet : Alphabet
  padded : Bool
  deriving DecidableEq, Repr

/-- The standard alphabet with padding. -/
def standard : Scheme := ⟨.standard, true⟩

/-- The alphabet for addresses and file names, with padding. -/
def urlSafe : Scheme := ⟨.urlSafe, true⟩

/-- The standard alphabet without padding. -/
def standardUnpadded : Scheme := ⟨.standard, false⟩

/-- The alphabet for addresses and file names, without padding. -/
def urlSafeUnpadded : Scheme := ⟨.urlSafe, false⟩

/-- The character of a value below 64. -/
def Alphabet.character (alphabet : Alphabet) (value : Nat) : Char :=
  if value < 26 then Char.ofNat (0x41 + value)
  else if value < 52 then Char.ofNat (0x61 + (value - 26))
  else if value < 62 then Char.ofNat (0x30 + (value - 52))
  else if value = 62 then (match alphabet with | .standard => '+' | .urlSafe => '-')
  else (match alphabet with | .standard => '/' | .urlSafe => '_')

/-- The value of a character of the alphabet. -/
def Alphabet.value? (alphabet : Alphabet) (char : Char) : Option Nat :=
  if 'A' ≤ char ∧ char ≤ 'Z' then some (char.toNat - 0x41)
  else if 'a' ≤ char ∧ char ≤ 'z' then some (char.toNat - 0x61 + 26)
  else if '0' ≤ char ∧ char ≤ '9' then some (char.toNat - 0x30 + 52)
  else match alphabet, char with
    | .standard, '+' => some 62
    | .standard, '/' => some 63
    | .urlSafe, '-' => some 62
    | .urlSafe, '_' => some 63
    | _, _ => none

/-- The padding, if the scheme has it. -/
def Scheme.padding (scheme : Scheme) (count : Nat) : List Char :=
  if scheme.padded then List.replicate count '=' else []

/-- Write octets, three at a time. -/
def encode (scheme : Scheme) : Bytes → List Char
  | [] => []
  | [a] =>
      let bits := a.toNat * 16
      scheme.alphabet.character (bits / 64) :: scheme.alphabet.character (bits % 64)
        :: scheme.padding 2
  | [a, b] =>
      let bits := (a.toNat * 256 + b.toNat) * 4
      scheme.alphabet.character (bits / 4096)
        :: scheme.alphabet.character (bits / 64 % 64)
        :: scheme.alphabet.character (bits % 64) :: scheme.padding 1
  | a :: b :: c :: rest =>
      let bits := (a.toNat * 256 + b.toNat) * 256 + c.toNat
      scheme.alphabet.character (bits / 262144)
        :: scheme.alphabet.character (bits / 4096 % 64)
        :: scheme.alphabet.character (bits / 64 % 64)
        :: scheme.alphabet.character (bits % 64) :: encode scheme rest

/-- The octet of a last group of two characters, whose low four bits carry no data. -/
def lastOne? (alphabet : Alphabet) (first second : Char) : Option Bytes := do
  let high ← alphabet.value? first
  let low ← alphabet.value? second
  let bits := high * 64 + low
  if bits % 16 = 0 then some [UInt8.ofNat (bits / 16)] else none

/-- The octets of a last group of three characters, whose low two bits carry no data. -/
def lastTwo? (alphabet : Alphabet) (first second third : Char) : Option Bytes := do
  let high ← alphabet.value? first
  let middle ← alphabet.value? second
  let low ← alphabet.value? third
  let bits := (high * 64 + middle) * 64 + low
  if bits % 4 = 0 then some [UInt8.ofNat (bits / 1024), UInt8.ofNat (bits / 4 % 256)]
  else none

/-- The octets of a full group of four characters. -/
def three? (alphabet : Alphabet) (first second third fourth : Char) : Option Bytes := do
  let v1 ← alphabet.value? first
  let v2 ← alphabet.value? second
  let v3 ← alphabet.value? third
  let v4 ← alphabet.value? fourth
  let bits := ((v1 * 64 + v2) * 64 + v3) * 64 + v4
  some [UInt8.ofNat (bits / 65536), UInt8.ofNat (bits / 256 % 256),
    UInt8.ofNat (bits % 256)]

/-- Read octets; only what `encode` writes is accepted. -/
def decode? (scheme : Scheme) : List Char → Option Bytes
  | [] => some []
  | [_] => none
  | [a, b] => if scheme.padded then none else lastOne? scheme.alphabet a b
  | [a, b, c] => if scheme.padded then none else lastTwo? scheme.alphabet a b c
  | a :: b :: c :: d :: rest =>
      if scheme.padded && rest.isEmpty && d == '=' then
        if c == '=' then lastOne? scheme.alphabet a b else lastTwo? scheme.alphabet a b c
      else do
        let group ← three? scheme.alphabet a b c d
        let octets ← decode? scheme rest
        some (group ++ octets)

/-- Octets as text. -/
def text (scheme : Scheme) (octets : Bytes) : String :=
  String.ofList (encode scheme octets)

/-- The octets of a text. -/
def ofText? (scheme : Scheme) (text : String) : Option Bytes :=
  decode? scheme text.toList

end Base64
end Text
end Gatehouse
