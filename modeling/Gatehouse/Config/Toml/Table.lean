import Gatehouse.Config.Value

/-!
# Tables of configuration files

The tree of tables that a configuration file builds up line by line. A table remembers
how it came to be, since that decides what may still be added to it: nothing is ever
defined twice.
-/

namespace Gatehouse
namespace Toml

/-- How a table came to be. -/
inductive TableOrigin
  /-- It has a header, or braces, of its own. -/
  | header
  /-- It stands on the way to a table with a header. -/
  | implied
  /-- It stands on the way in a key with points. -/
  | dotted
  deriving DecidableEq, Repr

/-- A part of a file: a value, a table, or the tables of headers in double brackets. -/
inductive Node
  | value (value : ConfigValue)
  | table (origin : TableOrigin) (entries : List (String × Node))
  | tables (items : List (List (String × Node)))

/-- The entries of a table that is being built. -/
abbrev Entries := List (String × Node)

namespace Entries

/-- The node of a key. -/
def find? (entries : Entries) (key : String) : Option Node :=
  List.lookup key entries

/-- The entries with the node of a key replaced. -/
def replace (entries : Entries) (key : String) (node : Node) : Entries :=
  entries.map fun (name, old) => if name = key then (name, node) else (name, old)

/-- Change the table at the end of a path. Tables that are missing on the way are made,
and of several tables under one header the last one is meant. A key with points does not
reach into a table with a header. -/
def within? (made : TableOrigin) (change : TableOrigin → Entries → Option Entries) :
    List String → TableOrigin → Entries → Option Entries
  | [], origin, entries => change origin entries
  | key :: path, _, entries =>
      match entries.find? key with
      | none =>
          (within? made change path made []).map fun inner =>
            entries ++ [(key, .table made inner)]
      | some (.value _) => none
      | some (.table origin inner) =>
          if made = .dotted ∧ origin = .header then none
          else
            (within? made change path origin inner).map fun changed =>
              entries.replace key (.table origin changed)
      | some (.tables items) =>
          match items.getLast? with
          | none => none
          | some last =>
              (within? made change path .header last).map fun changed =>
                entries.replace key (.tables (items.dropLast ++ [changed]))

/-- Add a value under a key with points, given by its last part and those before it. -/
def assign? (path : List String) (key : String) (value : Node) (origin : TableOrigin)
    (entries : Entries) : Option Entries :=
  within? .dotted (fun reached inner =>
    if (reached == .dotted) == path.isEmpty then none
    else
      match inner.find? key with
      | some _ => none
      | none => some (inner ++ [(key, value)])) path origin entries

/-- Open the table of a header. -/
def openTable? (key : String) (entries : Entries) : Option Entries :=
  match entries.find? key with
  | none => some (entries ++ [(key, .table .header [])])
  | some (.table .implied inner) => some (entries.replace key (.table .header inner))
  | some _ => none

/-- Open one more table of a header in double brackets. -/
def openItem? (key : String) (entries : Entries) : Option Entries :=
  match entries.find? key with
  | none => some (entries ++ [(key, .tables [[]])])
  | some (.tables items) => some (entries.replace key (.tables (items ++ [[]])))
  | some _ => none

end Entries

mutual

/-- The value of a node. -/
def Node.finish : Node → ConfigValue
  | .value value => value
  | .table _ entries => .table (finishEntries entries)
  | .tables items => .list (finishItems items)

/-- The values of the entries of a table. -/
def finishEntries : List (String × Node) → List (String × ConfigValue)
  | [] => []
  | (key, node) :: rest => (key, node.finish) :: finishEntries rest

/-- The values of several tables. -/
def finishItems : List (List (String × Node)) → List ConfigValue
  | [] => []
  | entries :: rest => .table (finishEntries entries) :: finishItems rest

end

end Toml
end Gatehouse
