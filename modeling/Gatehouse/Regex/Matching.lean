import Gatehouse.Regex.Basic

/-!
# Matching

Whether a pattern matches somewhere in a text. The positions that can be reached are the
bits of a number: a part of a pattern takes the positions where it may begin to those
where it may end.
-/

namespace Gatehouse

/-- A set of positions in a text: bit `n` stands for the position behind `n`
characters. -/
abbrev Positions := Nat

namespace Positions

/-- The positions of which a list tells whether they belong. -/
def ofList : List Bool → Positions
  | [] => 0
  | belongs :: rest => 2 * ofList rest + (if belongs then 1 else 0)

/-- All positions in a text with so many characters. -/
def all (length : Nat) : Positions :=
  (1 <<< (length + 1)) - 1

/-- Apply a step a number of times. A fixed point ends this early. -/
def iterate (step : Positions → Positions) : Nat → Positions → Positions
  | 0, positions => positions
  | count + 1, positions =>
      let next := step positions
      if next = positions then positions else iterate step count next

end Positions

/-- A character as a member of a set; no character is a member of none. -/
def CodeSet.holds (set : CodeSet) : Option Char → Bool
  | some char => set char.toNat
  | none => false

/-- Whether a condition holds between two characters, of which one is missing at an end
of the text. -/
def Look.holds (look : Look) (word : CodeSet) (before after : Option Char) : Bool :=
  match look with
  | .textStart => before.isNone
  | .textEnd => after.isNone
  | .lineStart carriage =>
      before.isNone || before == some '\n' ||
        (carriage && before == some '\r' && after != some '\n')
  | .lineEnd carriage =>
      after.isNone || (carriage && after == some '\r')
        || (after == some '\n' && !(carriage && before == some '\r'))
  | .wordBoundary => word.holds before != word.holds after
  | .noWordBoundary => word.holds before == word.holds after
  | .wordStart => !word.holds before && word.holds after
  | .wordEnd => word.holds before && !word.holds after
  | .halfWordStart => !word.holds before
  | .halfWordEnd => !word.holds after

/-- The positions at which a condition holds, from a character on. -/
def Look.positionsFrom (look : Look) (word : CodeSet) (before : Option Char) :
    List Char → List Bool
  | [] => [look.holds word before none]
  | char :: rest =>
      look.holds word before (some char) :: look.positionsFrom word (some char) rest

/-- A pattern for one text: for each part, the positions at which it applies. -/
inductive Plan
  | empty
  /-- One character, at one of these positions. -/
  | advance (starts : Positions)
  /-- No character, at one of these positions. -/
  | stay (places : Positions)
  | sequence (first second : Plan)
  | either (first second : Plan)
  | repeated (plan : Plan) (min : Nat) (max : Option Nat)

/-- The plan of a pattern for a text. -/
def Regex.plan (text : List Char) : Regex → Plan
  | .empty => .empty
  | .one set _ => .advance (Positions.ofList (text.map fun char => set char.toNat))
  | .condition look word => .stay (Positions.ofList (look.positionsFrom word none text))
  | .sequence first second => .sequence (first.plan text) (second.plan text)
  | .either first second => .either (first.plan text) (second.plan text)
  | .repeated pattern min max => .repeated (pattern.plan text) min max

/-- The positions that a plan leads to from given positions, in a text with so many
characters. -/
def Plan.run (length : Nat) : Plan → Positions → Positions
  | .empty, positions => positions
  | .advance starts, positions => (positions &&& starts) <<< 1
  | .stay places, positions => positions &&& places
  | .sequence first second, positions => second.run length (first.run length positions)
  | .either first second, positions =>
      first.run length positions ||| second.run length positions
  | .repeated plan min max, positions =>
      let more := fun reached => reached ||| plan.run length reached
      Positions.iterate more (match max with | some max => max - min | none => length + 1)
        (Positions.iterate (plan.run length) min positions)

/-- Whether a pattern matches somewhere in a text. -/
def Regex.matchesIn (pattern : Regex) (text : String) : Bool :=
  let chars := text.toList
  (pattern.plan chars).run chars.length (Positions.all chars.length) != 0

end Gatehouse
