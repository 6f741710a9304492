import Gatehouse.Config.Load
import Gatehouse.Text.Split

/-!
# The command line

What an operator asks for when the proxy is started: which configuration, and where to
listen.
-/

namespace Gatehouse

/-- What an operator asks for. -/
structure Invocation where
  /-- The file with the configuration. -/
  config : Option String := none
  /-- Where to listen, in place of what the configuration says. -/
  bind : Option String := none
  deriving DecidableEq, Repr

/-- Why the words of a command line make no sense. -/
inductive UsageError
  | unexpected (word : String)
  | valueMissing (option : String)
  | repeated (option : String)
  deriving DecidableEq, Repr

namespace UsageError

/-- How the command is used. -/
def usage : String := "Usage: gatehouse [--config FILE] [--bind ADDRESS]"

/-- The text that reports the error. -/
def message : UsageError → String
  | .unexpected word => "unexpected argument " ++ Text.Quoted.text word ++ "\n" ++ usage
  | .valueMissing option => "a value is required for " ++ option ++ "\n" ++ usage
  | .repeated option => option ++ " cannot be used more than once\n" ++ usage

end UsageError

namespace Invocation

/-- A parameter of the command line. -/
inductive Parameter
  | config
  | bind
  deriving DecidableEq, Repr

/-- The long name of a parameter. -/
def Parameter.name : Parameter → String
  | .config => "--config"
  | .bind => "--bind"

/-- The parameter of a name, which may be its long or its short one. -/
def parameter? (word : String) : Option Parameter :=
  if word = "--config" || word = "-c" then some .config
  else if word = "--bind" || word = "-b" then some .bind
  else none

/-- The value of a parameter, so far. -/
def value? (invocation : Invocation) : Parameter → Option String
  | .config => invocation.config
  | .bind => invocation.bind

/-- Give a parameter its value, which it may get only once. -/
def set (invocation : Invocation) (parameter : Parameter) (value : String) :
    Except UsageError Invocation :=
  if (invocation.value? parameter).isSome then .error (.repeated parameter.name)
  else
    match parameter with
    | .config => .ok { invocation with config := some value }
    | .bind => .ok { invocation with bind := some value }

/-- Read the words that follow what has been read already. -/
def read (invocation : Invocation) : List String → Except UsageError Invocation
  | [] => .ok invocation
  | [word] =>
      match parameter? word with
      | some parameter => .error (.valueMissing parameter.name)
      | none => .error (.unexpected word)
  | word :: value :: rest =>
      match parameter? word with
      | some parameter => do
          let next ← invocation.set parameter value
          next.read rest
      | none => .error (.unexpected word)

/-- What the words of a command line ask for. -/
def ofWords (words : List String) : Except UsageError Invocation :=
  read {} words

/-- The configuration with the changes that are asked for. -/
def override (invocation : Invocation) (config : Config) : Config :=
  match invocation.bind with
  | some address => { config with listener := ⟨address⟩ }
  | none => config

end Invocation
end Gatehouse
