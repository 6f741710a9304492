import Gatehouse.Text.Ascii
import Gatehouse.Text.Decimal
import Gatehouse.Text.Hex

/-!
# Network addresses

Addresses of both families, their usual spelling and the reading of all spellings.
Ranges of addresses are read by slightly laxer rules than single addresses.
-/

namespace Gatehouse

/-- A network address. -/
inductive Address
  | v4 (bits : BitVec 32)
  | v6 (bits : BitVec 128)
  deriving DecidableEq, Repr

namespace Address

/-- What a spelling may look like. -/
structure Spelling where
  /-- Decimal numbers may have leading zeros. -/
  leadingZeros : Bool
  /-- Two colons may stand for no group at all. -/
  emptyGap : Bool

/-- How single addresses are spelled. -/
def strict : Spelling := ⟨false, false⟩

/-- How the addresses of ranges are spelled. -/
def lax : Spelling := ⟨true, true⟩

/-- Read a decimal number of at most `maxDigits` digits below `limit` at the start of a
text. -/
def readDecimal? (spelling : Spelling) (maxDigits limit : Nat) (chars : List Char) :
    Option (Nat × List Char) :=
  let digits := chars.takeWhile Text.isDigit
  if digits.isEmpty || maxDigits < digits.length then none
  else if !spelling.leadingZeros && 1 < digits.length && digits.head? == some '0' then
    none
  else
    match Text.Decimal.digits? digits with
    | some value => if value < limit then some (value, chars.drop digits.length) else none
    | none => none

/-- Read a group of up to four hexadecimal digits at the start of a text. -/
def readGroup? (chars : List Char) : Option (Nat × List Char) :=
  let digits := chars.takeWhile fun char => (Text.Hex.value? char).isSome
  if digits.isEmpty || 4 < digits.length then none
  else
    let value :=
      digits.foldl (fun value char => value * 16 + (Text.Hex.value? char).getD 0) 0
    some (value, chars.drop digits.length)

/-- Read four decimal numbers with points between them at the start of a text. -/
def readV4?
    (spelling : Spelling)
    (chars : List Char) : Option (BitVec 32 × List Char) := do
  let (a, rest) ← readDecimal? spelling 3 256 chars
  let rest ← (match rest with | '.' :: after => some after | _ => none)
  let (b, rest) ← readDecimal? spelling 3 256 rest
  let rest ← (match rest with | '.' :: after => some after | _ => none)
  let (c, rest) ← readDecimal? spelling 3 256 rest
  let rest ← (match rest with | '.' :: after => some after | _ => none)
  let (d, rest) ← readDecimal? spelling 3 256 rest
  some (BitVec.ofNat 32 (((a * 256 + b) * 256 + c) * 256 + d), rest)

/-- Groups of sixteen bits at the start of a text, with colons between them. -/
structure Groups where
  values : List Nat
  /-- The last two groups were spelled in decimal. -/
  decimal : Bool
  rest : List Char

/-- Read at most a number of groups. If at least two may follow, they may be spelled in
decimal. -/
def readGroups (spelling : Spelling) : Nat → Bool → List Char → Groups
  | 0, _, chars => ⟨[], false, chars⟩
  | remaining + 1, isFirst, chars =>
      let start := if isFirst then some chars else
        match chars with
        | ':' :: after => some after
        | _ => none
      match start with
      | none => ⟨[], false, chars⟩
      | some start =>
          match if 1 ≤ remaining then readV4? spelling start else none with
          | some (bits, rest) => ⟨[bits.toNat / 65536, bits.toNat % 65536], true, rest⟩
          | none =>
              match readGroup? start with
              | none => ⟨[], false, chars⟩
              | some (value, rest) =>
                  let more := readGroups spelling remaining false rest
                  ⟨value :: more.values, more.decimal, more.rest⟩

/-- The address with given groups. -/
def ofGroups (groups : List Nat) : BitVec 128 :=
  BitVec.ofNat 128 (groups.foldl (fun value group => value * 65536 + group) 0)

/-- Read an address of the second family at the start of a text. -/
def readV6? (spelling : Spelling) (chars : List Char) : Option (BitVec 128 × List Char) :=
  let head := readGroups spelling 8 true chars
  if head.values.length = 8 then some (ofGroups head.values, head.rest)
  else if head.decimal then none
  else
    match head.rest with
    | ':' :: ':' :: after =>
        let room := 8 - head.values.length
        let tail :=
          readGroups spelling (if spelling.emptyGap then room else room - 1) true after
        let gap := List.replicate (room - tail.values.length) 0
        some (ofGroups (head.values ++ gap ++ tail.values), tail.rest)
    | _ => none

/-- The address that a text spells. -/
def ofText? (text : String) : Option Address :=
  let chars := text.toList
  match if chars.length ≤ 15 then readV4? strict chars else none with
  | some (bits, []) => some (.v4 bits)
  | _ =>
      match readV6? strict chars with
      | some (bits, []) => some (.v6 bits)
      | _ => none

/-- An address of the first family as text. -/
def showV4 (bits : BitVec 32) : String :=
  let octet := fun shift => Text.Decimal.natural ((bits.toNat >>> shift) % 256)
  octet 24 ++ "." ++ octet 16 ++ "." ++ octet 8 ++ "." ++ octet 0

/-- The eight groups of an address. -/
def groups (bits : BitVec 128) : List Nat :=
  (List.range 8).map fun index => (bits.toNat >>> (16 * (7 - index))) % 65536

/-- Where the first of the longest runs of zero groups begins, and its length. -/
structure ZeroRun where
  start : Nat
  length : Nat

/-- The first of the longest runs of zeros, among the groups from an index on. -/
def longestZeros : Nat → ZeroRun → ZeroRun → List Nat → ZeroRun
  | _, _, best, [] => best
  | index, current, best, group :: rest =>
      if group = 0 then
        let current :=
          if current.length = 0 then ⟨index, 1⟩ else ⟨current.start, current.length + 1⟩
        longestZeros (index + 1) current
          (if best.length < current.length then current else best) rest
      else longestZeros (index + 1) ⟨0, 0⟩ best rest

/-- Groups in hexadecimal with colons between them. -/
def showGroups (values : List Nat) : String :=
  String.intercalate ":" (values.map Text.Hex.natural)

/-- An address of the second family as text; the first of the longest runs of at least
two zero groups is left out. -/
def showCompressed (bits : BitVec 128) : String :=
  let values := groups bits
  let run := longestZeros 0 ⟨0, 0⟩ ⟨0, 0⟩ values
  if 1 < run.length then
    showGroups (values.take run.start) ++ "::" ++
      showGroups (values.drop (run.start + run.length))
  else showGroups values

/-- An address of the second family as text, in decimal at the end if it stands for an
address of the first family. -/
def showV6 (bits : BitVec 128) : String :=
  if bits.toNat / UInt32.size = 0xFFFF then "::ffff:" ++ showV4 (bits.setWidth 32)
  else showCompressed bits

/-- The usual spelling of an address. -/
def text : Address → String
  | .v4 bits => showV4 bits
  | .v6 bits => showV6 bits

end Address

/-- A network address with a port. The scope of an address of the second family is zero
unless it is given. -/
structure Endpoint where
  address : Address
  port : Nat
  scope : Nat
  deriving DecidableEq, Repr

namespace Endpoint

/-- Read a colon and a port that end a text. -/
def portOf? (chars : List Char) : Option Nat :=
  match chars with
  | ':' :: digits =>
      match Text.Decimal.digits? digits with
      | some port => if port ≤ 65535 then some port else none
      | none => none
  | _ => none

/-- The endpoint that a text spells. -/
def ofText? (text : String) : Option Endpoint :=
  match text.toList with
  | '[' :: rest => do
      let (bits, after) ← Address.readV6? Address.strict rest
      match after with
      | ']' :: final => (portOf? final).map fun port => ⟨.v6 bits, port, 0⟩
      | '%' :: zoned =>
          let digits := zoned.takeWhile Text.isDigit
          let scope ← Text.Decimal.digits? digits
          match zoned.drop digits.length with
          | ']' :: final =>
              if scope < UInt32.size then
                (portOf? final).map fun port => ⟨.v6 bits, port, scope⟩
              else none
          | _ => none
      | _ => none
  | chars => do
      let (bits, after) ← Address.readV4? Address.strict chars
      (portOf? after).map fun port => ⟨.v4 bits, port, 0⟩

/-- The usual spelling of an endpoint. -/
def text (endpoint : Endpoint) : String :=
  let port := ":" ++ Text.Decimal.natural endpoint.port
  match endpoint.address with
  | .v4 bits => Address.showV4 bits ++ port
  | .v6 bits =>
      let scope :=
        if endpoint.scope = 0 then "" else "%" ++ Text.Decimal.natural endpoint.scope
      "[" ++ Address.showV6 bits ++ scope ++ "]" ++ port

end Endpoint
end Gatehouse
