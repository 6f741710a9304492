import Gatehouse.Crypto.Words

/-!
# SHA-1

The hash function with five registers of 32 bits and a digest of twenty octets.
-/

namespace Gatehouse
namespace Crypto
namespace Sha1

/-- The five registers. -/
structure Registers where
  a : UInt32
  b : UInt32
  c : UInt32
  d : UInt32
  e : UInt32

/-- The registers before the first block. -/
def initial : Registers :=
  ⟨0x67452301, 0xEFCDAB89, 0x98BADCFE, 0x10325476, 0xC3D2E1F0⟩

/-- A word rotated to the left. -/
def rotateLeft (word : UInt32) (amount : UInt32) : UInt32 :=
  (word <<< amount) ||| (word >>> (32 - amount))

/-- The eighty words that a block is expanded to. -/
def schedule (block : Bytes) : Array UInt32 :=
  let words :=
    ((chunks 4 block).map fun piece => UInt32.ofNat (ofBigEndian piece)).toArray
  (List.range 64).foldl (fun known index =>
    known.push (rotateLeft
      (known.getD (index + 13) 0 ^^^ known.getD (index + 8) 0 ^^^ known.getD (index + 2) 0
        ^^^ known.getD index 0) 1)) words

/-- The function and the constant of a step: they change every twenty steps. -/
def mix (step : Nat) (b c d : UInt32) : UInt32 × UInt32 :=
  if step < 20 then ((b &&& c) ||| (~~~b &&& d), 0x5A827999)
  else if step < 40 then (b ^^^ c ^^^ d, 0x6ED9EBA1)
  else if step < 60 then ((b &&& c) ||| (b &&& d) ||| (c &&& d), 0x8F1BBCDC)
  else (b ^^^ c ^^^ d, 0xCA62C1D6)

/-- One step. -/
def stepOnce (registers : Registers) (step : Nat) (word : UInt32) : Registers :=
  let (value, constant) := mix step registers.b registers.c registers.d
  ⟨rotateLeft registers.a 5 + value + registers.e + constant + word, registers.a,
    rotateLeft registers.b 30, registers.c, registers.d⟩

/-- Take one block into the registers. -/
def absorb (registers : Registers) (block : Bytes) : Registers :=
  let words := (schedule block).toList
  let after := ((List.range 80).zip words).foldl
    (fun current (step, word) => stepOnce current step word) registers
  ⟨registers.a + after.a, registers.b + after.b, registers.c + after.c,
    registers.d + after.d, registers.e + after.e⟩

/-- The digest of a message. -/
def digest (message : Bytes) : Bytes :=
  let final := (chunks 64 (padMessage 64 8 message)).foldl absorb initial
  [final.a, final.b, final.c, final.d, final.e].flatMap fun word =>
    toBigEndian 4 word.toNat

end Sha1
end Crypto
end Gatehouse
