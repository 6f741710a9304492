import Gatehouse.Crypto.Words

/-!
# The Advanced Encryption Standard

Encryption of one block of sixteen octets under a key of 16, 24 or 32 octets. The octets
of a block fill the state column by column.
-/

namespace Gatehouse
namespace Crypto
namespace Aes

/-- A block of sixteen octets. -/
abbrev Block := Vector UInt8 16

/-- The block of sixteen octets; missing ones are zero. -/
def Block.ofBytes (octets : Bytes) : Block :=
  Vector.ofFn fun (index : Fin 16) => octets.getD index 0

/-- A product with the polynomial `x` in the field of the standard. -/
def double (octet : UInt8) : UInt8 :=
  (octet <<< 1) ^^^ (if octet &&& 0x80 = 0 then 0 else 0x1B)

/-- The product of two octets in the field of the standard, by the bits of the first. -/
def multiply (first second : UInt8) : UInt8 :=
  ((List.range 8).foldl (fun (sum, power) bit =>
    (if first.toNat.testBit bit then sum ^^^ power else sum, double power))
    ((0 : UInt8), second)).1

/-- The inverse of an octet in the field, zero for zero: its power 254. -/
def inverse (octet : UInt8) : UInt8 :=
  (List.range 253).foldl (fun power _ => multiply octet power) octet

/-- An octet rotated to the left. -/
def rotateLeft (octet amount : UInt8) : UInt8 :=
  (octet <<< amount) ||| (octet >>> (8 - amount))

/-- The substitution of an octet: its inverse under an affine map. -/
def substitution (octet : UInt8) : UInt8 :=
  let value := inverse octet
  value ^^^ rotateLeft value 1 ^^^ rotateLeft value 2 ^^^ rotateLeft value 3
    ^^^ rotateLeft value 4 ^^^ 0x63

/-- The substitutions of all octets. -/
def substitutionTable : Vector UInt8 256 :=
  Vector.ofFn fun (index : Fin 256) => substitution (UInt8.ofNat index)

/-- The substitution of an octet, looked up. -/
def substitute (octet : UInt8) : UInt8 :=
  substitutionTable.get octet.toFin

/-- Rotate each row of the state by its number. -/
def shiftRows (block : Block) : Block :=
  Vector.ofFn fun (index : Fin 16) => block[(index.val + 4 * (index.val % 4)) % 16]

/-- Multiply each column of the state by the fixed matrix. -/
def mixColumns (block : Block) : Block :=
  Vector.ofFn fun (index : Fin 16) =>
    let column := index.val / 4 * 4
    let row := index.val % 4
    let first := block[column + row]
    let second := block[column + (row + 1) % 4]
    let third := block[column + (row + 2) % 4]
    let fourth := block[column + (row + 3) % 4]
    double first ^^^ double second ^^^ second ^^^ third ^^^ fourth

/-- Combine the state with a round key. -/
def addRoundKey (block roundKey : Block) : Block :=
  Vector.zipWith (· ^^^ ·) block roundKey

/-- The words of the expanded key, four octets each. -/
def expandWords (key : Bytes) : Array Bytes :=
  let keyWords := key.length / 4
  let rounds := keyWords + 6
  let start := (chunks 4 key).toArray
  ((List.range (4 * (rounds + 1) - keyWords)).foldl (fun (words, constant) offset =>
    let index := offset + keyWords
    let previous := words.getD (index - 1) []
    let before := words.getD (index - keyWords) []
    if index % keyWords = 0 then
      let turned := (previous.drop 1 ++ previous.take 1).map substitute
      (words.push (xorBytes before (xorBytes turned [constant, 0, 0, 0])),
        double constant)
    else if 6 < keyWords ∧ index % keyWords = 4 then
      (words.push (xorBytes before (previous.map substitute)), constant)
    else (words.push (xorBytes before previous), constant)) (start, (1 : UInt8))).1

/-- The round keys of a key, the one that is added first in front. -/
def expandKey (key : Bytes) : List Block :=
  (chunks 16 (expandWords key).toList.flatten).map Block.ofBytes

/-- The rounds after the first key has been added; the last one does not mix the
columns. -/
def rounds (block : Block) : List Block → Block
  | [] => block
  | [last] => addRoundKey (shiftRows (block.map substitute)) last
  | next :: rest =>
      rounds (addRoundKey (mixColumns (shiftRows (block.map substitute))) next) rest

/-- The encryption of a block under expanded round keys. -/
def encryptBlock (roundKeys : List Block) (block : Block) : Block :=
  match roundKeys with
  | [] => block
  | first :: rest => rounds (addRoundKey block first) rest

end Aes
end Crypto
end Gatehouse
