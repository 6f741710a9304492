/-!
# Blank characters

The characters of the Unicode property `White_Space`, and the removal of blanks at the
ends of a text.
-/

namespace Gatehouse
namespace Text

/-- Whether a character has the Unicode property `White_Space`. -/
def isBlank (char : Char) : Bool :=
  let code := char.toNat
  (0x09 ≤ code && code ≤ 0x0D) || code == 0x20 || code == 0x85 || code == 0xA0
    || code == 0x1680
    || (0x2000 ≤ code && code ≤ 0x200A) || code == 0x2028 || code == 0x2029
    || code == 0x202F
    || code == 0x205F || code == 0x3000

/-- Remove the characters that satisfy a predicate from both ends of a list. -/
def trimBoth (drop : Char → Bool) (chars : List Char) : List Char :=
  (((chars.dropWhile drop).reverse).dropWhile drop).reverse

/-- Remove the characters that satisfy a predicate from the end of a list. -/
def trimLast (drop : Char → Bool) (chars : List Char) : List Char :=
  ((chars.reverse).dropWhile drop).reverse

/-- A text without the blanks at its ends. -/
def trim (text : String) : String :=
  String.ofList (trimBoth isBlank text.toList)

end Text
end Gatehouse
