import Gatehouse.Text.Blank
import Gatehouse.Text.Decimal
import Gatehouse.Text.Split

/-!
# Ranges of octets

A client may ask for parts of a file. A part is given by its first and its last octet,
by its first octet alone, or by the number of octets at the end of the file.
-/

namespace Gatehouse

/-- A part of a file as a client asks for it. -/
inductive FileRange
  | between (first last : Nat)
  | startingAt (first : Nat)
  | suffix (length : Nat)
  deriving DecidableEq, Repr

namespace FileRange

/-- A number without a sign and without superfluous zeros. -/
def number? (chars : List Char) : Option Nat :=
  if chars.length ≠ 1 ∧ chars.head? = some '0' then none
  else (Text.Decimal.digits? chars).filter (· < UInt64.size)

/-- The range that characters denote. -/
def ofChars? (chars : List Char) : Option FileRange :=
  match Text.splitEvery '-' chars with
  | [[], length] =>
      (number? length).bind fun n => if n = 0 then none else some (.suffix n)
  | [first, []] => (number? first).map .startingAt
  | [first, last] => do some (.between (← number? first) (← number? last))
  | _ => none

/-- A piece of a list of ranges without the blank in front of it. -/
def piece? (chars : List Char) : Option (List Char) :=
  if chars.getLast?.any Text.isBlank || 1 < (chars.filter Text.isBlank).length then none
  else some (Text.trimBoth Text.isBlank chars)

/-- The ranges that a header field asks for. -/
def ofText? (text : String) : Option (List FileRange) := do
  let ranges ← Text.afterStart? "bytes=".toList text.toList
  if ranges.head?.any Text.isBlank then none
  else
    (Text.splitEvery ',' ranges).mapM fun range => do
      let chars ← piece? range
      ofChars? chars

/-- The first and the last octet of a range in a file of some size. A range may reach
beyond the end of the file. -/
def bounds (size : Nat) : FileRange → Nat × Nat
  | .between first last => (first, min last (size - 1))
  | .startingAt first => (first, size - 1)
  | .suffix length => (size - length, size - 1)

/-- The bounds of ranges, if each begins inside the file and before it ends, and no two
overlap. -/
def resolve? (size : Nat) (ranges : List FileRange) : Option (List (Nat × Nat)) :=
  let all := ranges.map (bounds size)
  let proper := all.all fun (first, last) => first ≤ last && first < size
  let apart := fun (one other : Nat × Nat) => one.2 < other.1 || other.2 < one.1
  if proper && all.Pairwise fun one other => apart one other then some all else none

end FileRange
end Gatehouse
