import Gatehouse.Text.Ascii
import Gatehouse.Text.Printable
import Gatehouse.Text.Split
import Gatehouse.Text.Utf8

/-!
# Domain names

Names of hosts in the form in which they are looked up: in lower case, and with every
label that is not ASCII written in ASCII behind `xn--`. The characters outside ASCII
that are changed on the way are the capital letters of the Latin, Greek, Cyrillic and
Armenian alphabets and the full-width forms. Left out are all other mappings, the
composition of letters and marks, and the rules about the order of characters in a label
and about the direction of writing.
-/

namespace Gatehouse
namespace DomainName

/-- The digit of a value below 36. -/
def digit (value : Nat) : Char :=
  if value < 26 then Char.ofNat (0x61 + value) else Char.ofNat (0x30 + (value - 26))

/-- The value of a digit. -/
def digitValue? (char : Char) : Option Nat :=
  if 'a' ≤ char ∧ char ≤ 'z' then some (char.toNat - 0x61)
  else if 'A' ≤ char ∧ char ≤ 'Z' then some (char.toNat - 0x41)
  else if '0' ≤ char ∧ char ≤ '9' then some (char.toNat - 0x30 + 26)
  else none

/-- The value from which on a further digit follows, at the position `position` of a
number. -/
def threshold (position bias : Nat) : Nat :=
  min 26 (max 1 (position - bias))

/-- The bias after a number. The first argument bounds the number of divisions. -/
def biasLoop : Nat → Nat → Nat → Nat
  | 0, _, position => position
  | steps + 1, delta, position =>
      if 455 < delta then biasLoop steps (delta / 35) (position + 36)
      else position + 36 * delta / (delta + 38)

/-- The bias after the number `delta`, when `count` code points are known. -/
def adapt (delta count : Nat) (first : Bool) : Nat :=
  let scaled := if first then delta / 700 else delta / 2
  let total := scaled + scaled / count
  biasLoop (total + 1) total 0

/-- A number in digits, of which there are at most as many as the first argument says. -/
def encodeNumber : Nat → Nat → Nat → Nat → List Char
  | 0, _, _, value => [digit value]
  | steps + 1, position, bias, value =>
      let limit := threshold position bias
      if value < limit then [digit value]
      else
        let rest := value - limit
        digit (limit + rest % (36 - limit))
          :: encodeNumber steps (position + 36) bias (rest / (36 - limit))

/-- What is known while code points are encoded in ascending order. -/
structure Encoding where
  delta : Nat
  bias : Nat
  handled : Nat
  isFirst : Bool
  output : List Char

/-- Encode every occurrence of a code point in a label. -/
def encodePoint (basic point : Nat) (label : List Nat) (start : Encoding) : Encoding :=
  label.foldl (fun state code =>
    if code < point then { state with delta := state.delta + 1 }
    else if code = point then
      let digits := encodeNumber (state.delta + 1) 36 state.bias state.delta
      { delta := 0
        bias := adapt state.delta (state.handled + 1) (state.handled == basic)
        handled := state.handled + 1
        isFirst := false
        output := state.output ++ digits }
    else state) start

/-- Encode the code points of a label that are not ASCII, given in ascending order without
repetition. -/
def encodePoints (basic : Nat) (label : List Nat) : Nat → List Nat → Encoding → Encoding
  | _, [], state => state
  | reached, point :: rest, state =>
      let moved :=
        { state with delta := state.delta + (point - reached) * (state.handled + 1) }
      let after := encodePoint basic point label moved
      encodePoints basic label (point + 1) rest { after with delta := after.delta + 1 }

/-- A label in ASCII, without the mark in front. -/
def punycode (label : List Char) : List Char :=
  let codes := label.map Char.toNat
  let basic := label.filter fun char => char.toNat < 0x80
  let points := ((codes.filter fun code => 0x80 ≤ code).mergeSort).eraseDups
  let start := if basic.isEmpty then [] else basic ++ ['-']
  (encodePoints basic.length codes 0x80 points ⟨0, 72, basic.length, true, start⟩).output

/-- Read a number in digits: the value and the digits that follow it. -/
def decodeNumber? : Nat → Nat → Nat → Nat → List Char → Option (Nat × List Char)
  | _, _, _, _, [] => none
  | position, bias, weight, value, char :: rest => do
      let digitValue ← digitValue? char
      let total := value + digitValue * weight
      let limit := threshold position bias
      if digitValue < limit then some (total, rest)
      else decodeNumber? (position + 36) bias (weight * (36 - limit)) total rest

/-- Read the code points behind the ASCII ones and put them into their places. The first
argument bounds their number. -/
def decodePoints? : Nat → Nat → Nat → Nat → List Nat → List Char → Option (List Nat)
  | 0, _, _, _, _, _ => none
  | steps + 1, point, index, bias, output, chars =>
      if chars.isEmpty then some output
      else do
        let (delta, rest) ← decodeNumber? 36 bias 1 0 chars
        let count := output.length + 1
        let total := index + delta
        let code := point + total / count
        let place := total % count
        if code < 0x110000 ∧ ¬ (0xD800 ≤ code ∧ code < 0xE000) then
          decodePoints? steps code (place + 1) (adapt delta count (index == 0))
            (output.take place ++ [code] ++ output.drop place) rest
        else none

/-- The label that is written in ASCII, without the mark in front. -/
def ofPunycode? (chars : List Char) : Option (List Nat) :=
  match Text.splitLast? '-' chars with
  | some (basic, rest) =>
      decodePoints? (chars.length + 1) 0x80 0 72 (basic.map Char.toNat) rest
  | none => decodePoints? (chars.length + 1) 0x80 0 72 [] chars

/-- The characters that may not stand in a domain name. -/
def isForbidden (char : Char) : Bool :=
  char.toNat ≤ 0x20 || char.toNat == 0x7F || "#/:<>?@[\\]^|%".toList.contains char

/-- What becomes of a character of a name: nothing for the characters that are left out,
the small letter for a capital one, and the usual form of a full-width one. -/
def mapChar (char : Char) : List Char :=
  let code := char.toNat
  if code < 0x80 then [Text.lowerAscii char]
  else if code = 0xAD ∨ code = 0x200B ∨ code = 0x2060 ∨ code = 0xFEFF then []
  else if 0xC0 ≤ code ∧ code ≤ 0xDE ∧ code ≠ 0xD7 then [Char.ofNat (code + 32)]
  else if 0x100 ≤ code ∧ code ≤ 0x137 ∧ code % 2 = 0 ∧ code ≠ 0x130 then
    [Char.ofNat (code + 1)]
  else if 0x139 ≤ code ∧ code ≤ 0x148 ∧ code % 2 = 1 then [Char.ofNat (code + 1)]
  else if 0x14A ≤ code ∧ code ≤ 0x177 ∧ code % 2 = 0 then [Char.ofNat (code + 1)]
  else if code = 0x178 then [Char.ofNat 0xFF]
  else if 0x179 ≤ code ∧ code ≤ 0x17E ∧ code % 2 = 1 then [Char.ofNat (code + 1)]
  else if 0x391 ≤ code ∧ code ≤ 0x3AB ∧ code ≠ 0x3A2 then [Char.ofNat (code + 32)]
  else if 0x400 ≤ code ∧ code ≤ 0x40F then [Char.ofNat (code + 80)]
  else if 0x410 ≤ code ∧ code ≤ 0x42F then [Char.ofNat (code + 32)]
  else if 0x531 ≤ code ∧ code ≤ 0x556 then [Char.ofNat (code + 48)]
  else if code = 0x3002 ∨ code = 0xFF0E ∨ code = 0xFF61 then ['.']
  else if 0xFF01 ≤ code ∧ code ≤ 0xFF5E then
    [Text.lowerAscii (Char.ofNat (code - 0xFEE0))]
  else [char]

/-- Whether a character outside ASCII may stand in a label. -/
def isAdmitted (char : Char) : Bool :=
  char.toNat < 0x80 || (!Text.isBlank char && char.toNat != 0xFFFD
    && (Text.isPrintable char || (0x300 ≤ char.toNat && char.toNat < 0x370)))

/-- The mark in front of a label that is written in ASCII. -/
def mark : List Char := ['x', 'n', '-', '-']

/-- A label in ASCII. A label that carries the mark already has to be one that could
have been written so. -/
def labelToAscii? (label : List Char) : Option (List Char) :=
  if label.all fun char => char.toNat < 0x80 then
    match Text.afterStart? mark label with
    | none => some label
    | some encoded =>
        match ofPunycode? encoded with
        | none => none
        | some codes =>
            if codes.all (· < 0x80) ||
                !(codes.all fun code => isAdmitted (Char.ofNat code)) then
              none
            else if (codes.map Char.ofNat).flatMap mapChar = codes.map Char.ofNat then
              some label
            else none
  else if label.all isAdmitted then some (mark ++ punycode label)
  else none

/-- The form of a name in which it is looked up, given the octets of the name. -/
def toAscii? (octets : Bytes) : Option String := do
  let text ← Text.Utf8.decode? octets
  let mapped := text.toList.flatMap mapChar
  if mapped.any isForbidden then none
  else
    let labels ← (Text.splitEvery '.' mapped).mapM labelToAscii?
    some (String.ofList (List.intercalate ['.'] labels))

end DomainName
end Gatehouse
