import Gatehouse.Text.Hex
import Gatehouse.Text.Printable

/-!
# Quoted text

The form in which messages show a text that somebody else supplied: between double
quotes, with the quote, the backslash and everything that does not print on its own
escaped.
-/

namespace Gatehouse
namespace Text
namespace Quoted

/-- One character inside quotes. -/
def escape (char : Char) : List Char :=
  if char = '"' then ['\\', '"']
  else if char = '\\' then ['\\', '\\']
  else if char = '\n' then ['\\', 'n']
  else if char = '\r' then ['\\', 'r']
  else if char = '\t' then ['\\', 't']
  else if char.toNat = 0 then ['\\', '0']
  else if isPrintable char then [char]
  else ['\\', 'u', '\x7b'] ++ (Hex.natural char.toNat).toList ++ ['\x7d']

/-- A text between double quotes. -/
def text (value : String) : String :=
  String.ofList ('"' :: value.toList.flatMap escape ++ ['"'])

end Quoted
end Text
end Gatehouse
