import Gatehouse.Crypto.Aes

/-!
# Authenticated encryption in Galois counter mode

A message is combined with a key stream made from a counter, and the result is
authenticated by a tag of sixteen octets. Decryption undoes encryption and accepts
nothing else.
-/

namespace Gatehouse
namespace Crypto
namespace Gcm

/-- A number that must not be used twice under one key. -/
abbrev Nonce := Vector UInt8 12

/-- The size of a tag in octets. -/
def tagSize : Nat := 16

/-- The product of two elements of the field with 2^128 elements. The highest bit of a
number is the coefficient of the lowest power. -/
def multiply (first second : Nat) : Nat :=
  ((List.range 128).reverse.foldl (fun (sum, power) bit =>
    (if first.testBit bit then sum ^^^ power else sum,
      if power % 2 = 1 then (power / 2) ^^^ (0xE1 <<< 120) else power / 2)) (0, second)).1

/-- The hash of a text that is sealed, under a secret element of the field. -/
def hash (secret : Nat) (sealedText : Bytes) : Nat :=
  let blocks := (chunks 16 sealedText).map fun block =>
    ofBigEndian (block ++ List.replicate (16 - block.length) 0)
  (blocks ++ [8 * sealedText.length]).foldl
    (fun value block => multiply (value ^^^ block) secret) 0

/-- The block of a nonce and a counter. -/
def counterBlock (nonce : Nonce) (counter : Nat) : Aes.Block :=
  Aes.Block.ofBytes (nonce.toList ++ toBigEndian 4 counter)

/-- The first octets of the key stream of a nonce. -/
def keystream (roundKeys : List Aes.Block) (nonce : Nonce) (size : Nat) : Bytes :=
  ((List.range ((size + 15) / 16)).flatMap fun index =>
    (Aes.encryptBlock roundKeys (counterBlock nonce (index + 2))).toList).take size

/-- The tag of a text that is sealed. -/
def tag (roundKeys : List Aes.Block) (nonce : Nonce) (sealedText : Bytes) : Bytes :=
  let secret := ofBigEndian (Aes.encryptBlock roundKeys (Aes.Block.ofBytes [])).toList
  xorBytes (toBigEndian tagSize (hash secret sealedText))
    (Aes.encryptBlock roundKeys (counterBlock nonce 1)).toList

/-- Encrypt and authenticate a message. -/
def encrypt (key : Bytes) (nonce : Nonce) (plain : Bytes) : Bytes :=
  let roundKeys := Aes.expandKey key
  let hidden := xorBytes plain (keystream roundKeys nonce plain.length)
  hidden ++ tag roundKeys nonce hidden

/-- Check the tag and decrypt. -/
def decrypt? (key : Bytes) (nonce : Nonce) (sealedText : Bytes) : Option Bytes :=
  if sealedText.length < tagSize then none
  else
    let roundKeys := Aes.expandKey key
    let hidden := sealedText.take (sealedText.length - tagSize)
    if tag roundKeys nonce hidden = sealedText.drop (sealedText.length - tagSize) then
      some (xorBytes hidden (keystream roundKeys nonce hidden.length))
    else none

end Gcm
end Crypto
end Gatehouse
