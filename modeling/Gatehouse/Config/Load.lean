import Gatehouse.Config.Toml.Document
import Gatehouse.Config.Validation

/-!
# Loading a configuration

The configuration of a file: its text is read as a document, the document as a
configuration, and the configuration is checked.
-/

namespace Gatehouse
namespace Config

/-- Why a file gives no configuration. -/
inductive LoadError
  /-- The file cannot be read as text. -/
  | unreadable
  /-- The text is no document, or a setting has a value of the wrong kind. -/
  | malformed
  | invalid (problems : List Problem)
  deriving DecidableEq, Repr

/-- The text that reports the error. -/
def LoadError.message : LoadError → String
  | .unreadable => "IO error: the file cannot be read as text"
  | .malformed => "Parse error: the file is not a configuration"
  | .invalid problems =>
      "Validation failed: " ++ String.intercalate ", " (problems.map (·.text))

/-- A configuration with nothing wrong with it. -/
def validated (config : Config) : Except LoadError Config :=
  match config.problems with
  | [] => .ok config
  | problems => .error (.invalid problems)

/-- The configuration of a text. -/
def ofText (text : String) : Except LoadError Config :=
  match (Toml.ofText? text).bind Config.kind.read with
  | none => .error .malformed
  | some config => validated config

/-- The configuration of a file with some content. -/
def ofBytes (content : Bytes) : Except LoadError Config :=
  match Text.Utf8.decode? content with
  | none => .error .unreadable
  | some text => ofText text

end Config
end Gatehouse
