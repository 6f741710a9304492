/-!
# Patterns of text

A pattern describes texts. Its parts match characters of a set, conditions on a
position, sequences, alternatives and repetitions. Which of several matches is found
does not matter here, so repetitions are neither greedy nor lazy.
-/

namespace Gatehouse

/-- A set of characters, given by their numbers. -/
abbrev CodeSet := Nat → Bool

/-- A condition on a position between two characters. -/
inductive Look
  | textStart
  | textEnd
  /-- The start of a line; with `carriage` a carriage return ends lines too. -/
  | lineStart (carriage : Bool)
  | lineEnd (carriage : Bool)
  | wordBoundary
  | noWordBoundary
  | wordStart
  | wordEnd
  | halfWordStart
  | halfWordEnd
  deriving DecidableEq, Repr

/-- A pattern. -/
inductive Regex
  | empty
  /-- One character of a set; `cost` is the size of the set's description in octets. -/
  | one (set : CodeSet) (cost : Nat)
  /-- A condition; `word` tells which characters make up words. -/
  | condition (look : Look) (word : CodeSet)
  | sequence (first second : Regex)
  | either (first second : Regex)
  /-- At least `min` and at most `max` matches one after the other. -/
  | repeated (pattern : Regex) (min : Nat) (max : Option Nat)

namespace Regex

/-- Several patterns one after the other. -/
def ofList : List Regex → Regex
  | [] => .empty
  | [pattern] => pattern
  | pattern :: rest => .sequence pattern (ofList rest)

/-- One of several patterns. -/
def anyOf : List Regex → Regex
  | [] => .empty
  | [pattern] => pattern
  | pattern :: rest => .either pattern (anyOf rest)

/-- The size of a part of a compiled pattern in octets. -/
def partCost : Nat := 32

/-- About how many octets a compiled pattern takes. Repetitions are spelled out. -/
def cost : Regex → Nat
  | .empty => partCost
  | .one _ cost => cost
  | .condition _ _ => partCost
  | .sequence first second => first.cost + second.cost
  | .either first second => first.cost + second.cost + partCost
  | .repeated pattern min max =>
      match max with
      | none => pattern.cost * (if min = 0 then 1 else min) + partCost
      | some max => pattern.cost * min + (pattern.cost + partCost) * (max - min)

/-- The largest size of a compiled pattern. -/
def maxCost : Nat := 10485760

end Regex
end Gatehouse
