/-!
# Splitting text

Splits at the first or at the last occurrence of a separator, splits at every
occurrence, and the removal of a fixed beginning. The functions work on lists of
characters; the forms on `String` wrap them.
-/

namespace Gatehouse
namespace Text

/-- What follows a fixed beginning, if the list has it. -/
def afterStart? [BEq α] : List α → List α → Option (List α)
  | [], rest => some rest
  | _ :: _, [] => none
  | expected :: start, item :: rest =>
      if expected == item then afterStart? start rest else none

/-- The parts before and after the first occurrence of a separator, if it occurs. -/
def splitFirst? [BEq α] (separator : List α) : List α → Option (List α × List α)
  | [] => if separator.isEmpty then some ([], []) else none
  | item :: rest =>
      match afterStart? separator (item :: rest) with
      | some after => some ([], after)
      | none =>
          (splitFirst? separator rest).map fun (before, after) => (item :: before, after)

/-- The parts before and after the last occurrence of an item, if it occurs. -/
def splitLast? [BEq α] (separator : α) : List α → Option (List α × List α)
  | [] => none
  | item :: rest =>
      match splitLast? separator rest with
      | some (before, after) => some (item :: before, after)
      | none => if item == separator then some ([], rest) else none

/-- The pieces between the occurrences of an item; there is always at least one piece. -/
def splitEvery [BEq α] (separator : α) : List α → List (List α)
  | [] => [[]]
  | item :: rest =>
      if item == separator then [] :: splitEvery separator rest
      else
        match splitEvery separator rest with
        | [] => [[item]]
        | piece :: pieces => (item :: piece) :: pieces

/-- What follows a fixed beginning of a text, if the text has it. -/
def stripStart? (start text : String) : Option String :=
  (afterStart? start.toList text.toList).map String.ofList

/-- Whether a text begins in a fixed way. -/
def startsWith (start text : String) : Bool :=
  (afterStart? start.toList text.toList).isSome

/-- Whether a text ends in a fixed way. -/
def endsWith (ending text : String) : Bool :=
  (afterStart? ending.toList.reverse text.toList.reverse).isSome

/-- The texts before and after the first occurrence of a separator. -/
def splitOnce? (separator text : String) : Option (String × String) :=
  (splitFirst? separator.toList text.toList).map fun (before, after) =>
    (String.ofList before, String.ofList after)

/-- The texts between the occurrences of a character. -/
def pieces (separator : Char) (text : String) : List String :=
  (splitEvery separator text.toList).map String.ofList

/-- Drop a carriage return that ends a line. -/
def withoutReturn (line : List Char) : List Char :=
  match line.getLast? with
  | some '\r' => line.dropLast
  | _ => line

/-- The lines of a text. A line feed, or a carriage return and a line feed, ends a line;
the text after the last line feed is a line unless it is empty. -/
def lines (text : String) : List String :=
  let parts := splitEvery '\n' text.toList
  let ended := parts.dropLast.map withoutReturn
  let final := match parts.getLast? with
    | none => []
    | some [] => []
    | some rest => [rest]
  (ended ++ final).map String.ofList

end Text
end Gatehouse
