import Gatehouse.Crypto.Constants
import Gatehouse.Crypto.Words
import Gatehouse.Text.Decimal
import Gatehouse.Text.Split

/-!
# Password hashes with an adjustable cost

A password is hashed by encrypting a fixed text with a block cipher whose key schedule
is run a number of times that grows exponentially with the cost. A stored hash names its
cost and its salt.
-/

namespace Gatehouse
namespace Crypto
namespace Bcrypt

/-- The tables of the block cipher: eighteen words that are combined with the halves of
a block, and four tables of 256 words each, one after the other. -/
structure Schedule where
  keys : Array UInt32
  boxes : Array UInt32

/-- The tables before any key: the fractional part of π. -/
def initialSchedule : Schedule :=
  let words := Constants.piWords 1042
  ⟨words.extract 0 18, words.extract 18 1042⟩

/-- The value of the four tables at a word. -/
@[inline] def mix (boxes : Array UInt32) (word : UInt32) : UInt32 :=
  let first := boxes.getD (word >>> 24).toNat 0
  let second := boxes.getD (256 + ((word >>> 16) &&& 0xFF).toNat) 0
  let third := boxes.getD (512 + ((word >>> 8) &&& 0xFF).toNat) 0
  let fourth := boxes.getD (768 + (word &&& 0xFF).toNat) 0
  ((first + second) ^^^ third) + fourth

/-- The rounds from a given one on; after each round the halves are exchanged. -/
def rounds (keys boxes : Array UInt32) : Nat → Nat → UInt32 → UInt32 → UInt32 × UInt32
  | 0, _, left, right => (left, right)
  | remaining + 1, index, left, right =>
      let newLeft := left ^^^ keys.getD index 0
      rounds keys boxes remaining (index + 1) (right ^^^ mix boxes newLeft) newLeft

/-- The encryption of a block of two words. -/
def encryptPair (keys boxes : Array UInt32) (left right : UInt32) : UInt32 × UInt32 :=
  let (first, second) := rounds keys boxes 16 0 left right
  (second ^^^ keys.getD 17 0, first ^^^ keys.getD 16 0)

/-- The word of four octets of a key that is repeated for ever, from a position on. -/
def cyclicWord (key : Array UInt8) (position : Nat) : UInt32 :=
  (List.range 4).foldl (fun word offset =>
    (word <<< 8) ||| (key.getD ((position + offset) % key.size) 0).toUInt32) 0

/-- Replace the words of a table, two at a time, by the encryption of the block before
them, combined with the words of the salt. The first table is at work while it is
replaced. -/
def renewKeys (salt : Array UInt8) (boxes : Array UInt32) :
    Nat → Nat → Array UInt32 → UInt32 → UInt32 → Array UInt32 × UInt32 × UInt32
  | 0, _, keys, left, right => (keys, left, right)
  | remaining + 1, index, keys, left, right =>
      let saltLeft := cyclicWord salt (4 * index)
      let saltRight := cyclicWord salt (4 * index + 4)
      let (newLeft, newRight) :=
        encryptPair keys boxes (left ^^^ saltLeft) (right ^^^ saltRight)
      renewKeys salt boxes remaining (index + 2)
        ((keys.setIfInBounds index newLeft).setIfInBounds (index + 1) newRight)
        newLeft newRight

/-- Replace the words of the four tables in the same way. The position in the salt goes
on where the first table has left it. -/
def renewBoxes (salt : Array UInt8) (keys : Array UInt32) :
    Nat → Nat → Array UInt32 → UInt32 → UInt32 → Array UInt32
  | 0, _, boxes, _, _ => boxes
  | remaining + 1, index, boxes, left, right =>
      let saltLeft := cyclicWord salt (4 * (index + 18))
      let saltRight := cyclicWord salt (4 * (index + 18) + 4)
      let (newLeft, newRight) :=
        encryptPair keys boxes (left ^^^ saltLeft) (right ^^^ saltRight)
      renewBoxes salt keys remaining (index + 2)
        ((boxes.setIfInBounds index newLeft).setIfInBounds (index + 1) newRight)
        newLeft newRight

/-- Mix a key and a salt into the tables. A salt of zeros has no influence. -/
def Schedule.expand (schedule : Schedule) (salt key : Array UInt8) : Schedule :=
  let mixed := Array.ofFn fun (index : Fin schedule.keys.size) =>
    schedule.keys[index] ^^^ cyclicWord key (4 * index.val)
  let (keys, left, right) := renewKeys salt schedule.boxes 9 0 mixed 0 0
  ⟨keys, renewBoxes salt keys 512 0 schedule.boxes left right⟩

/-- A salt without influence. -/
def noSalt : Array UInt8 := #[0]

/-- Mix the key and the salt into the tables in turn. -/
def Schedule.expandTimes (salt key : Array UInt8) : Nat → Schedule → Schedule
  | 0, schedule => schedule
  | times + 1, schedule =>
      expandTimes salt key times ((schedule.expand noSalt key).expand noSalt salt)

/-- Encrypt a block a number of times. -/
def encryptTimes (schedule : Schedule) : Nat → UInt32 → UInt32 → UInt32 × UInt32
  | 0, left, right => (left, right)
  | times + 1, left, right =>
      let (newLeft, newRight) := encryptPair schedule.keys schedule.boxes left right
      encryptTimes schedule times newLeft newRight

/-- The text that is encrypted. -/
def magicText : Bytes :=
  Text.Utf8.encode "OrpheanBeholderScryDoubt"

/-- The raw hash of a key, 24 octets long. -/
def rawHash (cost : Nat) (salt key : Bytes) : Bytes :=
  let saltArray := salt.toArray
  let keyArray := key.toArray
  let schedule := Schedule.expandTimes saltArray keyArray (1 <<< cost)
    (initialSchedule.expand saltArray keyArray)
  (chunks 8 magicText).flatMap fun block =>
    let (left, right) := encryptTimes schedule 64
      (UInt32.ofNat (ofBigEndian (block.take 4)))
      (UInt32.ofNat (ofBigEndian (block.drop 4)))
    toBigEndian 4 left.toNat ++ toBigEndian 4 right.toNat

/-- The key of a password: its octets and a zero, cut to 72 octets. -/
def keyOfPassword (password : Bytes) : Bytes :=
  (password ++ [0]).take 72

/-- The value of a character in stored salts and hashes. -/
def charValue? (char : Char) : Option Nat :=
  if char = '.' then some 0
  else if char = '/' then some 1
  else if 'A' ≤ char ∧ char ≤ 'Z' then some (char.toNat - 0x41 + 2)
  else if 'a' ≤ char ∧ char ≤ 'z' then some (char.toNat - 0x61 + 28)
  else if '0' ≤ char ∧ char ≤ '9' then some (char.toNat - 0x30 + 54)
  else none

/-- The octets of a stored salt or hash. The bits of the last character that carry no
data have to be zero. -/
def decode? : List Char → Option Bytes
  | [] => some []
  | [_] => none
  | [a, b] => do
      let bits := (← charValue? a) * 64 + (← charValue? b)
      if bits % 16 = 0 then some [UInt8.ofNat (bits / 16)] else none
  | [a, b, c] => do
      let bits := ((← charValue? a) * 64 + (← charValue? b)) * 64 + (← charValue? c)
      if bits % 4 = 0 then some [UInt8.ofNat (bits / 1024), UInt8.ofNat (bits / 4 % 256)]
      else none
  | a :: b :: c :: d :: rest => do
      let bits :=
        (((← charValue? a) * 64 + (← charValue? b)) * 64 + (← charValue? c)) * 64
          + (← charValue? d)
      let octets ← decode? rest
      some (UInt8.ofNat (bits / 65536) :: UInt8.ofNat (bits / 256 % 256)
        :: UInt8.ofNat (bits % 256) :: octets)

/-- A stored hash: its cost, its salt of sixteen octets and the first 23 octets of the
raw hash. -/
structure Stored where
  cost : Nat
  salt : Bytes
  hash : Bytes
  deriving DecidableEq, Repr

/-- Read a stored hash: a version, a cost between 4 and 31, and 22 characters of salt
followed by 31 characters of hash, after dollar signs, which may be repeated. -/
def Stored.ofText? (text : String) : Option Stored := do
  match (Text.splitEvery '$' text.toList).filter (! ·.isEmpty) with
  | [version, costText, rest] =>
      if ["2a", "2b", "2y", "2x"].contains (String.ofList version) then
        let cost ← Text.Decimal.unsigned? (UInt32.size - 1) costText
        if rest.length = 53 ∧ 4 ≤ cost ∧ cost ≤ 31 then
          let salt ← decode? (rest.take 22)
          let hash ← decode? (rest.drop 22)
          some ⟨cost, salt, hash⟩
        else none
      else none
  | _ => none

/-- Whether a password has a stored hash. A text that is not a stored hash is the hash
of no password. -/
def verify (password : Bytes) (stored : String) : Bool :=
  match Stored.ofText? stored with
  | none => false
  | some expected =>
      (rawHash expected.cost expected.salt (keyOfPassword password)).take 23 ==
        expected.hash

end Bcrypt
end Crypto
end Gatehouse
