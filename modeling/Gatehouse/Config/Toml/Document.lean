import Gatehouse.Config.Toml.Scalar
import Gatehouse.Config.Toml.Table

/-!
# Configuration files

A configuration file consists of lines that assign values to keys and of headers that
say into which table the following keys go. Lists may extend over several lines, tables
in braces may not.
-/

namespace Gatehouse
namespace Toml

/-- How deep lists and tables in braces may be nested, and how many parts a key may
have. -/
def maxDepth : Nat := 79

/-- How the items between two brackets are written. -/
structure ItemStyle where
  close : Char
  /-- A comma may stand behind the last item. -/
  finalComma : Bool
  /-- What follows the blanks around items. -/
  skip : List Char → List Char

/-- Items with commas between them up to a closing bracket, which may come at once if
`mayEnd` holds. At most `limit` items are read. -/
def readItems (style : ItemStyle) (item : List Char → Option (α × List Char)) :
    Nat → Bool → List Char → Option (List α × List Char)
  | 0, _, _ => none
  | limit + 1, mayEnd, chars =>
      match style.skip chars with
      | [] => none
      | first :: rest =>
          if first = style.close then (if mayEnd then some ([], rest) else none)
          else do
            let (value, after) ← item (first :: rest)
            match style.skip after with
            | ',' :: next =>
                let (values, final) ← readItems style item limit style.finalComma next
                some (value :: values, final)
            | char :: final => if char = style.close then some ([value], final) else none
            | [] => none

/-- A key, an equals sign and a value. -/
def readAssignment
    (value : List Char → Option (ConfigValue × List Char))
    (chars : List Char) : Option ((List String × String × ConfigValue) × List Char) := do
  let (parts, rest) ← readKey maxDepth chars
  let key ← parts.getLast?
  match skipSpaces rest with
  | '=' :: after =>
      let (item, final) ← value (skipSpaces after)
      some ((parts.dropLast, key, item), final)
  | _ => none

/-- The table of assignments in braces. -/
def tableOf? (assignments : List (List String × String × ConfigValue)) :
    Option ConfigValue := do
  let entries ← assignments.foldlM (fun (entries : Entries) (path, key, value) =>
    entries.assign? path key (.value value) .header) []
  some (.table (finishEntries entries))

/-- A value, nested at most so deep. -/
def readValue : Nat → List Char → Option (ConfigValue × List Char)
  | depth + 1, '[' :: rest =>
      (readItems ⟨']', true, skipLines rest.length⟩ (readValue depth) (rest.length + 1)
        true rest).map fun (values, after) => (.list values, after)
  | depth + 1, '{' :: rest => do
      let (assignments, after) ← readItems ⟨'}', false, skipSpaces⟩
        (readAssignment (readValue depth)) (rest.length + 1) true rest
      let table ← tableOf? assignments
      some (table, after)
  | _, chars => readScalar chars

/-- The state between two lines: the whole tree and the path of the last header. -/
structure Progress where
  tree : Entries
  path : List String

/-- Take a header into account. -/
def Progress.header?
    (progress : Progress)
    (double : Bool)
    (path : List String) : Option Progress := do
  let key ← path.getLast?
  let change := fun (_ : TableOrigin) (entries : Entries) =>
    if double then entries.openItem? key else entries.openTable? key
  let tree ← progress.tree.within? .implied change path.dropLast .header
  some ⟨tree, path⟩

/-- Take an assignment into account. -/
def Progress.assign?
    (progress : Progress)
    (path : List String)
    (key : String)
    (value : ConfigValue) : Option Progress := do
  let change := fun (origin : TableOrigin) (entries : Entries) =>
    entries.assign? path key (.value value) origin
  let tree ← progress.tree.within? .implied change progress.path .header
  some { progress with tree }

/-- Read one line. -/
def readLine? (progress : Progress) (chars : List Char) : Option (Progress × List Char) :=
  match skipSpaces chars with
  | '[' :: '[' :: rest => do
      let (path, after) ← readKey maxDepth (skipSpaces rest)
      match skipSpaces after with
      | ']' :: ']' :: final => some (← progress.header? true path, ← endLine? final)
      | _ => none
  | '[' :: rest => do
      let (path, after) ← readKey maxDepth (skipSpaces rest)
      match skipSpaces after with
      | ']' :: final => some (← progress.header? false path, ← endLine? final)
      | _ => none
  | start =>
      match endLine? start with
      | some rest => some (progress, rest)
      | none => do
          let ((path, key, value), after) ← readAssignment (readValue maxDepth) start
          some (← progress.assign? path key value, ← endLine? after)

/-- Read at most so many lines. -/
def readLines? : Nat → Progress → List Char → Option Progress
  | _, progress, [] => some progress
  | 0, _, _ => none
  | limit + 1, progress, chars => do
      let (next, rest) ← readLine? progress chars
      readLines? limit next rest

/-- The characters without a mark of the byte order in front. -/
def withoutMark (chars : List Char) : List Char :=
  match chars with
  | first :: rest => if first.toNat = 0xFEFF then rest else chars
  | [] => []

/-- The table that a file describes. -/
def ofText? (text : String) : Option ConfigValue :=
  let chars := withoutMark text.toList
  (readLines? chars.length ⟨[], []⟩ chars).map fun progress =>
    .table (finishEntries progress.tree)

end Toml
end Gatehouse
