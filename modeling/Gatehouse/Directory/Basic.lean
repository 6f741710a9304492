import Gatehouse.Credentials.Identity

/-!
# Directories

A directory knows users that are not listed in a password file. Consulting it about a
user and a password has one of a few outcomes; an attempt to sign in turns the outcome
into an identity.
-/

namespace Gatehouse

/-- An entry of a directory: its name and the texts of its attributes. -/
structure DirectoryEntry where
  name : String
  attributes : List (String × List String)
  deriving DecidableEq, Repr

/-- The first value of an attribute. -/
def DirectoryEntry.first? (entry : DirectoryEntry) (key : String) : Option String :=
  (entry.attributes.lookup key).bind List.head?

/-- Why a directory gives no answer. -/
inductive DirectoryError
  | connect (cause : String)
  | bind (cause : String)
  | search (cause : String)
  | unknownUser (user : String)
  | ambiguousUser (user : String)
  deriving DecidableEq, Repr

/-- The text that reports the error. -/
def DirectoryError.message : DirectoryError → String
  | .connect cause => "failed to connect to directory: " ++ cause
  | .bind cause => "directory bind failed: " ++ cause
  | .search cause => "directory search failed: " ++ cause
  | .unknownUser user => "user " ++ user ++ " does not exist"
  | .ambiguousUser user => "too many entries returned for user " ++ user

/-- What comes of consulting a directory about a user and a password. -/
inductive Consultation
  /-- No connection could be opened. -/
  | unreachable (cause : DirectoryError)
  /-- The directory could not tell whether the password is right. -/
  | failed (cause : DirectoryError)
  /-- The password is wrong. -/
  | refused
  /-- The password is right; the search for the groups may have failed. -/
  | found (entry : DirectoryEntry) (groups : Except DirectoryError (List String))

/-- A directory, as the outcome of consulting it about a user and a password. -/
abbrev Directory := String → String → Consultation

/-- What is asked of a directory during an attempt. -/
inductive DirectoryCall
  | connect
  | authenticate (user password : String)
  | groups (name : String)
  | close
  deriving DecidableEq, Repr

/-- An attempt to identify somebody by a directory, with what was asked of the
directory. -/
structure DirectoryAttempt where
  identity : Option Identity
  calls : List DirectoryCall
  deriving DecidableEq, Repr

/-- The identity that an outcome establishes for a user. The address is the first value
of the attribute `mail`; a failed search for groups leaves the groups unknown. -/
def Consultation.identity? (user : String) : Consultation → Option Identity
  | .found entry groups => some ⟨user, entry.first? "mail", groups.toOption⟩
  | _ => none

/-- What was asked of the directory on the way to an outcome. A connection that was
opened is always closed. -/
def Consultation.calls (user password : String) : Consultation → List DirectoryCall
  | .unreachable _ => [.connect]
  | .found entry _ => [.connect, .authenticate user password, .groups entry.name, .close]
  | _ => [.connect, .authenticate user password, .close]

/-- Try to identify somebody. A directory takes an empty password for no password at
all, so without a user or a password it is not asked. -/
def Directory.identify
    (directory : Directory)
    (user password : String) : DirectoryAttempt :=
  if user = "" ∨ password = "" then ⟨none, []⟩
  else
    let outcome := directory user password
    ⟨outcome.identity? user, outcome.calls user password⟩

end Gatehouse
