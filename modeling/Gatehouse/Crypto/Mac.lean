import Gatehouse.Crypto.Sha1
import Gatehouse.Crypto.Sha2
import Gatehouse.Text.Ascii
import Gatehouse.Text.Quoted

/-!
# Message authentication

The hash functions that a configuration may name, and the keyed hash of a message under
each of them. Keys of every length are accepted: long ones are hashed first.
-/

namespace Gatehouse
namespace Crypto

/-- A hash function for message authentication. -/
inductive HashAlgorithm
  | sha1
  | sha256
  | sha512
  deriving DecidableEq, Repr

namespace HashAlgorithm

/-- The algorithm that is used where none is named. -/
instance : Inhabited HashAlgorithm := ⟨.sha256⟩

/-- The name of an algorithm in configurations and headers. -/
def name : HashAlgorithm → String
  | .sha1 => "sha1"
  | .sha256 => "sha256"
  | .sha512 => "sha512"

/-- The name of no algorithm, as it was given. -/
structure Unknown where
  given : String
  deriving DecidableEq, Repr

/-- The text that reports an unknown name. -/
def Unknown.message (unknown : Unknown) : String :=
  "unsupported hash algorithm " ++ Text.Quoted.text unknown.given
    ++ " (expected sha1, sha256 or sha512)"

/-- The algorithm of a name; blanks around it and the case of its letters do not
matter. -/
def ofName (given : String) : Except Unknown HashAlgorithm :=
  let folded := Text.lower (Text.trim given)
  if folded = "sha1" then .ok .sha1
  else if folded = "sha256" then .ok .sha256
  else if folded = "sha512" then .ok .sha512
  else .error ⟨given⟩

/-- The digest of a message. -/
def digest : HashAlgorithm → Bytes → Bytes
  | .sha1 => Sha1.digest
  | .sha256 => Sha256.digest
  | .sha512 => Sha512.digest

/-- The size of a block in octets. -/
def blockSize : HashAlgorithm → Nat
  | .sha1 => 64
  | .sha256 => 64
  | .sha512 => 128

/-- A key cut down to one block by hashing if it is longer, and filled up with zeros. -/
def blockKey (algorithm : HashAlgorithm) (key : Bytes) : Bytes :=
  let short := if key.length ≤ algorithm.blockSize then key else algorithm.digest key
  short ++ List.replicate (algorithm.blockSize - short.length) 0

/-- The tag of a message under a key. -/
def mac (algorithm : HashAlgorithm) (key message : Bytes) : Bytes :=
  let block := algorithm.blockKey key
  let inner := algorithm.digest (block.map (· ^^^ 0x36) ++ message)
  algorithm.digest (block.map (· ^^^ 0x5C) ++ inner)

/-- Whether a tag is the whole tag of a message under a key. -/
def verify (algorithm : HashAlgorithm) (key message tag : Bytes) : Bool :=
  algorithm.mac key message == tag

end HashAlgorithm
end Crypto
end Gatehouse
