import Gatehouse.Regex.Reader

/-!
# The notation of patterns

Sequences, alternatives, groups and repetitions. A pattern may be nested only so deep,
and its compiled form must not be too large. Patterns are not compiled here: the size is
estimated from the parts. For a pattern whose size comes close to the limit, the
estimate may decide otherwise than a compiler would.
-/

namespace Gatehouse
namespace Regex

/-- A part of a sequence. -/
structure Piece where
  pattern : Regex
  /-- How deep groups, sets, repetitions, sequences and alternatives are nested in it. -/
  depth : Nat
  /-- A repetition may follow. -/
  repeatable : Bool

namespace Piece

/-- A part in which nothing is nested. -/
def leaf (pattern : Regex) : Piece := ⟨pattern, 0, true⟩

/-- The parts of a list as one part. -/
def ofList (combine : List Regex → Regex) (pieces : List Piece) : Piece :=
  match pieces with
  | [piece] => piece
  | _ =>
      let depth := (pieces.map (·.depth)).foldl max 0
      ⟨combine (pieces.map (·.pattern)), if pieces.isEmpty then 0 else depth + 1, true⟩

/-- A part that is repeated. -/
def repeatedBy (piece : Piece) (min : Nat) (max : Option Nat) : Piece :=
  ⟨.repeated piece.pattern min max, piece.depth + 1, true⟩

end Piece

/-- How deep a pattern may be nested. -/
def maxDepth : Nat := 250

/-- A character under flags. -/
def ofChar (flags : Flags) (char : Char) : Regex :=
  .one (foldIf flags fun code => code == char.toNat) (partCost * char.utf8Size)

/-- A point under flags: any character, or any but the end of a line. -/
def point (flags : Flags) : Regex :=
  .one (fun code => flags.dotAll || (code != 0x0A && !(flags.carriage && code == 0x0D)))
    wideCost

/-- The start or the end of the text, or of a line, under flags. -/
def anchor (flags : Flags) (start : Bool) : Regex :=
  let look :=
    if flags.multiLine then
      if start then Look.lineStart flags.carriage else .lineEnd flags.carriage
    else if start then .textStart
    else .textEnd
  .condition look flags.word

namespace Reader

/-- The part for an escape. An octet outside ASCII is no character. -/
def escapePiece (flags : Flags) : Escape → Reader Piece
  | .literal char octet =>
      if octet && !flags.unicode && 0x80 ≤ char.toNat then failure
      else return .leaf (ofChar flags char)
  | .set members cost => return .leaf (.one members cost)
  | .look look => return .leaf (.condition look flags.word)

/-- How often a part is repeated: the numbers between braces, behind the opening one. -/
def counts : Reader (Nat × Option Nat) := do
  skipBlanks
  let low ← decimal
  match ← nextSpaced with
  | '\x7d' => return (low, some low)
  | ',' =>
      if (← peek?) = some '\x7d' then
        discard next
        return (low, none)
      else
        let high ← decimal
        if (← next) = '\x7d' ∧ low ≤ high then return (low, some high) else failure
  | _ => failure

/-- How often a part is repeated, if a repetition follows. -/
def repetition? : Reader (Option (Nat × Option Nat)) := do
  let found ← match ← peek? with
    | some '?' => do discard next; pure (some (0, some 1))
    | some '*' => do discard next; pure (some (0, none))
    | some '+' => do discard next; pure (some (1, none))
    | some '\x7b' => do
        discard next
        let range ← counts
        skipBlanks
        pure (some range)
    | _ => pure none
  if found.isSome then discard (accept ['?'])
  return found

/-- Read alternatives up to a closing parenthesis or the end. The parts of the current
sequence and the earlier alternatives are in reverse order. At most `limit` parts are
read. -/
def alternatives : Nat → List Piece → List Piece → Reader Piece
  | 0, _, _ => failure
  | limit + 1, current, done => do
      skipBlanks
      let sequence := Piece.ofList Regex.ofList current.reverse
      match ← repetition? with
      | some (min, max) =>
          match current with
          | [] => failure
          | last :: before =>
              if last.repeatable then
                alternatives limit (last.repeatedBy min max :: before) done
              else failure
      | none =>
          let reading ← get
          let flags := reading.flags
          match reading.rest with
          | [] => return Piece.ofList Regex.anyOf (sequence :: done).reverse
          | ')' :: _ => return Piece.ofList Regex.anyOf (sequence :: done).reverse
          | '|' :: rest =>
              set { reading with rest }
              alternatives limit [] (sequence :: done)
          | '(' :: rest =>
              set { reading with rest }
              match ← groupHead with
              | .flags changed =>
                  modify fun reading => { reading with flags := changed }
                  alternatives limit (⟨.empty, 0, false⟩ :: current) done
              | .group changed =>
                  modify fun reading => { reading with flags := changed }
                  let inner ← alternatives limit [] []
                  if (← next) = ')' then
                    modify fun reading => { reading with flags }
                    alternatives limit
                      (⟨inner.pattern, inner.depth + 1, true⟩ :: current) done
                  else failure
          | '[' :: rest =>
              set { reading with rest }
              let (negated, start) ← setStart
              let (members, depth) ←
                setBody ((← get).rest.length + 1) negated start none 0
              let cost := if isAscii members then smallCost else wideCost
              alternatives limit (⟨.one members cost, depth + 1, true⟩ :: current) done
          | '\\' :: rest =>
              set { reading with rest }
              let piece ← escapePiece flags (← escape)
              alternatives limit (piece :: current) done
          | char :: rest =>
              set { reading with rest }
              let pattern ← match char with
                | '.' => if flags.unicode then pure (point flags) else failure
                | '^' => pure (anchor flags true)
                | '$' => pure (anchor flags false)
                | _ => pure (ofChar flags char)
              alternatives limit (.leaf pattern :: current) done

end Reader

/-- The pattern that a text denotes. -/
def ofText? (text : String) : Option Regex := do
  let chars := text.toList
  let (piece, reading) ←
    (Reader.alternatives (chars.length + 1) [] []).run ⟨chars, {}, []⟩
  if reading.rest.isEmpty && piece.depth ≤ maxDepth && piece.pattern.cost ≤ maxCost then
    some piece.pattern
  else none

end Regex
end Gatehouse
