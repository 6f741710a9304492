import Gatehouse.Text.Ascii
import Gatehouse.Text.Utf8

/-!
# Header fields

The header of a message is a list of fields. Names are kept in lower case, a name may
occur more than once, and the values of one name keep their order. Values are octets; a
value that consists of visible ASCII characters, spaces and tabs can be read as text.
-/

namespace Gatehouse

/-- The fields of a header, names in lower case. -/
structure Headers where
  fields : List (String × Bytes)
  deriving DecidableEq, Repr

namespace Headers

/-- The longest name of a field. -/
def maxNameLength : Nat := 65535

/-- The name of a field as it is kept, if the text is a token. -/
def name? (text : String) : Option String :=
  let chars := text.toList
  if !chars.isEmpty && chars.all Text.isTokenChar && chars.length ≤ maxNameLength then
    some (Text.lower text)
  else none

/-- Whether an octet may stand in a value. -/
def isValueOctet (octet : UInt8) : Bool :=
  (32 ≤ octet && octet != 127) || octet == 9

/-- Whether an octet may stand in a value that is read as text. -/
def isTextOctet (octet : UInt8) : Bool :=
  (32 ≤ octet && octet < 127) || octet == 9

/-- The value of a text, if it has no control characters. -/
def value? (text : String) : Option Bytes :=
  let octets := Text.Utf8.encode text
  if octets.all isValueOctet then some octets else none

/-- The text of a value, if it is visible ASCII. -/
def text? (value : Bytes) : Option String :=
  if value.all isTextOctet then
    some (String.ofList (value.map fun octet => Char.ofNat octet.toNat))
  else none

/-- The header without fields. -/
def empty : Headers := ⟨[]⟩

/-- The values of a name, in order. -/
def getAll (headers : Headers) (name : String) : List Bytes :=
  (headers.fields.filter fun field => field.1 == name).map (·.2)

/-- The first value of a name. -/
def get? (headers : Headers) (name : String) : Option Bytes :=
  (headers.getAll name).head?

/-- Whether a name occurs. -/
def contains (headers : Headers) (name : String) : Bool :=
  headers.fields.any fun field => field.1 == name

/-- Remove every field of a name. -/
def remove (headers : Headers) (name : String) : Headers :=
  ⟨headers.fields.filter fun field => field.1 != name⟩

/-- Add a field behind the others. -/
def append (headers : Headers) (name : String) (value : Bytes) : Headers :=
  ⟨headers.fields ++ [(name, value)]⟩

/-- Replace the fields of a name by one. -/
def insert (headers : Headers) (name : String) (value : Bytes) : Headers :=
  (headers.remove name).append name value

/-- Replace the fields of a name by one, or remove them if there is no value. -/
def setOrRemove (headers : Headers) (name : String) (value : Option Bytes) : Headers :=
  match value with
  | some octets => headers.insert name octets
  | none => headers.remove name

/-- Replace the fields of a name by a text. -/
def insertText (headers : Headers) (name text : String) : Headers :=
  headers.insert name (Text.Utf8.encode text)

/-- The values of a name that are texts, in order. -/
def texts (headers : Headers) (name : String) : List String :=
  (headers.getAll name).filterMap text?

/-- The first value of a name, if it is a text. -/
def firstText? (headers : Headers) (name : String) : Option String :=
  (headers.get? name).bind text?

/-- The first value of a name, if it is a text and not empty. -/
def nonEmptyText? (headers : Headers) (name : String) : Option String :=
  (headers.firstText? name).filter (· != "")

end Headers
end Gatehouse
