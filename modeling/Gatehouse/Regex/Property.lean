import Gatehouse.Regex.Basic
import Gatehouse.Regex.Category
import Gatehouse.Regex.Script
import Gatehouse.Text.Blank

/-!
# Named sets of characters

The sets that patterns name: digits, blanks and the characters of words, the classes of
ASCII, and the categories, scripts and properties of Unicode. Of the properties, only
the nine of `propertySets` are known; ages, breaks, extended scripts and all other
properties are left out. The alphabetic characters are told by their categories, without
the marks that belong to them.
-/

namespace Gatehouse
namespace Regex

/-- The characters of some general categories. -/
def ofCategories (names : List String) : CodeSet :=
  fun code => names.contains (category code)

/-- The decimal digits of all scripts. -/
def digits : CodeSet := ofCategories ["Nd"]

/-- The blank characters. -/
def blanks : CodeSet := fun code => Text.isBlank (Char.ofNat code)

/-- The letters in circles and squares, which are symbols by category. -/
def enclosedLetters : CodeSet :=
  inRanges [(0x24B6, 0x24E9), (0x1F130, 0x1F149), (0x1F150, 0x1F169), (0x1F170, 0x1F189)]

/-- The characters of words. -/
def wordChars : CodeSet := fun code =>
  ofCategories ["Lu", "Ll", "Lt", "Lm", "Lo", "Mn", "Mc", "Me", "Nd", "Nl", "Pc"] code
    || enclosedLetters code || code == 0x200C || code == 0x200D

/-- The characters of words in ASCII. -/
def asciiWordChars : CodeSet :=
  inRanges [(0x30, 0x39), (0x41, 0x5A), (0x5F, 0x5F), (0x61, 0x7A)]

/-- The classes of ASCII. -/
def asciiClasses : List (String × List (Nat × Nat)) :=
  [("alnum", [(0x30, 0x39), (0x41, 0x5A), (0x61, 0x7A)]),
    ("alpha", [(0x41, 0x5A), (0x61, 0x7A)]),
    ("ascii", [(0x00, 0x7F)]),
    ("blank", [(0x09, 0x09), (0x20, 0x20)]),
    ("cntrl", [(0x00, 0x1F), (0x7F, 0x7F)]),
    ("digit", [(0x30, 0x39)]),
    ("graph", [(0x21, 0x7E)]),
    ("lower", [(0x61, 0x7A)]),
    ("print", [(0x20, 0x7E)]),
    ("punct", [(0x21, 0x2F), (0x3A, 0x40), (0x5B, 0x60), (0x7B, 0x7E)]),
    ("space", [(0x09, 0x0D), (0x20, 0x20)]),
    ("upper", [(0x41, 0x5A)]),
    ("word", [(0x30, 0x39), (0x41, 0x5A), (0x5F, 0x5F), (0x61, 0x7A)]),
    ("xdigit", [(0x30, 0x39), (0x41, 0x46), (0x61, 0x66)])]

/-- The set of a class of ASCII. -/
def asciiClass? (name : String) : Option CodeSet :=
  (asciiClasses.lookup name).map inRanges

/-- The names of groups of general categories, in their folded form. -/
def categoryGroups : List (List String × List String) :=
  [(["l", "letter"], ["Lu", "Ll", "Lt", "Lm", "Lo"]),
    (["lc", "casedletter"], ["Lu", "Ll", "Lt"]),
    (["lu", "uppercaseletter"], ["Lu"]), (["ll", "lowercaseletter"], ["Ll"]),
    (["lt", "titlecaseletter"], ["Lt"]), (["lm", "modifierletter"], ["Lm"]),
    (["lo", "otherletter"], ["Lo"]),
    (["m", "mark", "combiningmark"], ["Mn", "Mc", "Me"]),
    (["mn", "nonspacingmark"], ["Mn"]), (["mc", "spacingmark"], ["Mc"]),
    (["me", "enclosingmark"], ["Me"]),
    (["n", "number"], ["Nd", "Nl", "No"]),
    (["nd", "decimalnumber", "digit"], ["Nd"]), (["nl", "letternumber"], ["Nl"]),
    (["no", "othernumber"], ["No"]),
    (["p", "punctuation", "punct"], ["Pc", "Pd", "Ps", "Pe", "Pi", "Pf", "Po"]),
    (["pc", "connectorpunctuation"], ["Pc"]), (["pd", "dashpunctuation"], ["Pd"]),
    (["ps", "openpunctuation"], ["Ps"]), (["pe", "closepunctuation"], ["Pe"]),
    (["pi", "initialpunctuation"], ["Pi"]), (["pf", "finalpunctuation"], ["Pf"]),
    (["po", "otherpunctuation"], ["Po"]),
    (["s", "symbol"], ["Sm", "Sc", "Sk", "So"]),
    (["sm", "mathsymbol"], ["Sm"]), (["sc", "currencysymbol"], ["Sc"]),
    (["sk", "modifiersymbol"], ["Sk"]), (["so", "othersymbol"], ["So"]),
    (["z", "separator"], ["Zs", "Zl", "Zp"]),
    (["zs", "spaceseparator"], ["Zs"]), (["zl", "lineseparator"], ["Zl"]),
    (["zp", "paragraphseparator"], ["Zp"]),
    (["c", "other"], ["Cc", "Cf", "Cs", "Co", "Cn"]),
    (["cc", "control", "cntrl"], ["Cc"]), (["cf", "format"], ["Cf"]),
    (["cs", "surrogate"], ["Cs"]), (["co", "privateuse"], ["Co"]),
    (["cn", "unassigned"], ["Cn"])]

/-- What stands beside one of several names. -/
def byName? (name : String) (table : List (List String × α)) : Option α :=
  (table.find? fun (names, _) => names.contains name).map (·.2)

/-- The set of a general category, or of one of the three sets that are named like one. -/
def categorySet? (name : String) : Option CodeSet :=
  if name = "any" then some fun _ => true
  else if name = "assigned" then some fun code => category code != "Cn"
  else if name = "ascii" then some fun code => code < 0x80
  else (byName? name categoryGroups).map ofCategories

/-- The set of a script. The characters that belong to no script in particular are
common; marks that take the script of their letter are inherited. -/
def scriptSet? (name : String) : Option CodeSet :=
  match byName? name scripts with
  | some ranges => some (inRanges ranges)
  | none =>
      let named := fun code => scripts.any fun (_, ranges) => inRanges ranges code
      if ["common", "zyyy"].contains name then
        some fun code => category code != "Cn" && category code != "Mn" && !named code
      else if ["inherited", "zinh", "qaai"].contains name then
        some fun code => category code == "Mn" && !named code
      else none

/-- The characters that count as lower case without being letters of that category. -/
def otherLowercase : List (Nat × Nat) :=
  [(0xAA, 0xAA), (0xBA, 0xBA), (0x2B0, 0x2B8), (0x2C0, 0x2C1), (0x2E0, 0x2E4),
    (0x345, 0x345), (0x37A, 0x37A), (0x1D2C, 0x1D6A), (0x1D78, 0x1D78), (0x1D9B, 0x1DBF),
    (0x2071, 0x2071), (0x207F, 0x207F), (0x2090, 0x209C), (0x2170, 0x217F),
    (0x24D0, 0x24E9), (0x2C7C, 0x2C7D), (0xA69C, 0xA69D), (0xA770, 0xA770),
    (0xA7F8, 0xA7F9), (0xAB5C, 0xAB5F), (0x10780, 0x10780), (0x10783, 0x10785),
    (0x10787, 0x107BA)]

/-- The characters that count as upper case without being letters of that category. -/
def otherUppercase : List (Nat × Nat) :=
  [(0x2160, 0x216F), (0x24B6, 0x24CF), (0x1F130, 0x1F149), (0x1F150, 0x1F169),
   (0x1F170, 0x1F189)]

/-- The letters, and other characters that are used like them. -/
def alphabetic : CodeSet := fun code =>
  ofCategories ["Lu", "Ll", "Lt", "Lm", "Lo", "Nl"] code || enclosedLetters code

/-- The sets of properties, by their names in folded form. -/
def propertySets : List (List String × CodeSet) :=
  [(["alphabetic", "alpha"], alphabetic),
    (["lowercase", "lower"],
      fun code => category code == "Ll" || inRanges otherLowercase code),
    (["uppercase", "upper"],
      fun code => category code == "Lu" || inRanges otherUppercase code),
    (["whitespace", "wspace", "space"], blanks),
    (["asciihexdigit", "ahex"], inRanges [(0x30, 0x39), (0x41, 0x46), (0x61, 0x66)]),
    (["hexdigit", "hex"],
      inRanges [(0x30, 0x39), (0x41, 0x46), (0x61, 0x66), (0xFF10, 0xFF19),
      (0xFF21, 0xFF26), (0xFF41, 0xFF46)]),
    (["joincontrol", "joinc"], fun code => code == 0x200C || code == 0x200D),
    (["idstart", "ids", "xidstart", "xids"],
      ofCategories ["Lu", "Ll", "Lt", "Lm", "Lo", "Nl"]),
    (["idcontinue", "idc", "xidcontinue", "xidc"],
      ofCategories ["Lu", "Ll", "Lt", "Lm", "Lo", "Nl", "Mn", "Mc", "Nd", "Pc"])]

/-- The folded form of a name: without blanks, hyphens, underscores and a leading "is",
in lower case. -/
def foldName (name : String) : String :=
  let folded := name.toList.filterMap fun char =>
    if [' ', '_', '-'].contains char then none else some (Text.lowerAscii char)
  match folded with
  | 'i' :: 's' :: rest => if rest = ['c'] then "isc" else String.ofList rest
  | chars => String.ofList chars

/-- The set of a name: a property, a category or a script. -/
def namedSet? (name : String) : Option CodeSet :=
  let folded := foldName name
  match byName? folded propertySets with
  | some set => some set
  | none =>
      match categorySet? folded with
      | some set => some set
      | none => scriptSet? folded

/-- The set of the characters that have a value for a property. -/
def valuedSet? (property value : String) : Option CodeSet :=
  let folded := foldName property
  if ["gc", "generalcategory"].contains folded then categorySet? (foldName value)
  else if ["sc", "script", "scx", "scriptextensions"].contains folded then
    scriptSet? (foldName value)
  else none

end Regex
end Gatehouse
