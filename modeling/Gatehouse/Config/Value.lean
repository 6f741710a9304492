/-!
# Values in configurations

The values that a configuration document holds, and descriptions of settings. A
description says how a setting is read from a value and written to one, so that each
section of the configuration is one list of settings.
-/

namespace Gatehouse

/-- A value in a configuration document. -/
inductive ConfigValue
  | text (value : String)
  | integer (value : Int)
  | boolean (value : Bool)
  | list (items : List ConfigValue)
  | table (entries : List (String × ConfigValue))
  /-- No value, although it is named. -/
  | absent
  /-- A value of a kind that no setting has. -/
  | foreign
  deriving Inhabited

/-- A kind of values: how they are read and written. -/
structure ValueKind (α : Type) where
  read : ConfigValue → Option α
  write : α → ConfigValue

namespace ValueKind

/-- Texts. -/
def text : ValueKind String where
  read
    | .text value => some value
    | _ => none
  write := .text

/-- Truth values. -/
def boolean : ValueKind Bool where
  read
    | .boolean value => some value
    | _ => none
  write := .boolean

/-- Natural numbers up to a limit. -/
def naturalUpTo (limit : Nat) : ValueKind Nat where
  read
    | .integer value => if 0 ≤ value ∧ value ≤ limit then some value.toNat else none
    | _ => none
  write value := .integer value

/-- Natural numbers of 64 bits. -/
def natural : ValueKind Nat := naturalUpTo (UInt64.size - 1)

/-- Port numbers. -/
def port : ValueKind Nat := naturalUpTo 65535

/-- Lists of texts. -/
def texts : ValueKind (List String) where
  read
    | .list items => items.mapM text.read
    | _ => none
  write items := .list (items.map .text)

/-- Texts that may be absent. -/
def optionalText : ValueKind (Option String) where
  read
    | .absent => some none
    | value => (text.read value).map some
  write
    | some value => .text value
    | none => .absent

end ValueKind

/-- A setting of a section: its name, how a value sets it, and its value. -/
structure Setting (σ : Type) where
  name : String
  read : ConfigValue → σ → Option σ
  write : σ → ConfigValue

/-- The setting of a name and a kind. -/
def Setting.of
    (name : String)
    (kind : ValueKind α)
    (get : σ → α)
    (put : α → σ → σ) : Setting σ where
  name
  read value record := (kind.read value).map fun item => put item record
  write record := kind.write (get record)

/-- The entries of a section. In place of a table, the values of its first settings may
be listed. -/
def ConfigValue.entries? (names : List String) :
    ConfigValue → Option (List (String × ConfigValue))
  | .table entries => some entries
  | .list items => if items.length ≤ names.length then some (names.zip items) else none
  | _ => none

/-- The section that results from an initial one when the settings that occur are read. -/
def readSettings
    (settings : List (Setting σ))
    (entries : List (String × ConfigValue))
    (start : σ) : Option σ :=
  settings.foldlM (fun current setting =>
    match entries.lookup setting.name with
    | some value => setting.read value current
    | none => some current) start

/-- The kind of sections with given settings. Settings that do not occur keep their
values in an initial section, and entries that are no settings are ignored. -/
def ValueKind.ofSettings (settings : List (Setting σ)) (start : σ) : ValueKind σ where
  read value := do
    let entries ← value.entries? (settings.map (·.name))
    readSettings settings entries start
  write record :=
    .table (settings.map fun setting => (setting.name, setting.write record))

end Gatehouse
