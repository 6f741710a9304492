import Gatehouse.Credentials.Identity
import Gatehouse.Crypto.Bcrypt
import Gatehouse.Crypto.Sha1
import Gatehouse.Text.Base64
import Gatehouse.Text.Split

/-!
# Password files

A password file holds one user a line, the name and the hash of the password with a
colon between them. Two kinds of hashes are supported. Of several supported lines for
one user the last one counts; lines of any other form have no effect.
-/

namespace Gatehouse

/-- The hash of a password. -/
inductive PasswordHash
  /-- The octets with which the SHA-1 digest of the password has to agree. -/
  | digest (octets : Bytes)
  /-- A salted hash with an adjustable cost, as it is written. -/
  | salted (stored : String)
  deriving DecidableEq, Repr

namespace PasswordHash

/-- Read the hash of a line, if its kind is supported. -/
def ofText? (text : String) : Option PasswordHash :=
  match Text.stripStart? "\x7bSHA\x7d" text with
  | some encoded => (Text.Base64.ofText? Text.Base64.standard encoded).map .digest
  | none =>
      if ["$2a$", "$2b$", "$2y$"].any fun start => Text.startsWith start text then
        some (.salted text)
      else none

/-- Whether a password has the hash. -/
def accepts (hash : PasswordHash) (password : String) : Bool :=
  match hash with
  | .digest octets => Crypto.Sha1.digest (Text.Utf8.encode password) == octets
  | .salted stored => Crypto.Bcrypt.verify (Text.Utf8.encode password) stored

end PasswordHash

/-- A password file: the hash of each user, every user being listed once. -/
structure Htpasswd where
  entries : List (String × PasswordHash)
  deriving DecidableEq, Repr

namespace Htpasswd

/-- The file without users. -/
def empty : Htpasswd := ⟨[]⟩

/-- The hash of a user. -/
def find? (file : Htpasswd) (user : String) : Option PasswordHash :=
  file.entries.lookup user

/-- Set the hash of a user; an earlier one is forgotten. -/
def insert (file : Htpasswd) (user : String) (hash : PasswordHash) : Htpasswd :=
  ⟨file.entries.filter (fun entry => entry.1 != user) ++ [(user, hash)]⟩

/-- The entry of a line. Blank lines, comments, lines without a colon and unsupported
hashes have none. -/
def entry? (line : String) : Option (String × PasswordHash) :=
  let trimmed := Text.trim line
  if Text.startsWith "#" trimmed then none
  else do
    let (user, hash) ← Text.splitOnce? ":" trimmed
    let parsed ← PasswordHash.ofText? hash
    some (user, parsed)

/-- Take a line into the file. -/
def addLine (file : Htpasswd) (line : String) : Htpasswd :=
  match entry? line with
  | some (user, hash) => file.insert user hash
  | none => file

/-- The file with a given content. -/
def ofText (content : String) : Htpasswd :=
  (Text.lines content).foldl addLine empty

/-- The number of users. -/
def size (file : Htpasswd) : Nat :=
  file.entries.length

/-- Whether a user has a password. -/
def accepts (file : Htpasswd) (user password : String) : Bool :=
  match file.find? user with
  | some hash => hash.accepts password
  | none => false

/-- The identity of a user with the right password. -/
def identify? (file : Htpasswd) (user password : String) : Option Identity :=
  if file.accepts user password then some (Identity.ofUser user) else none

end Htpasswd
end Gatehouse
