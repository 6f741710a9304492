import Gatehouse.Crypto.Constants
import Gatehouse.Crypto.Words

/-!
# SHA-256 and SHA-512

Both hash functions run the same steps on eight registers. They differ in the size of a
word, in the number of steps and in the rotations, which one record of parameters lists.
-/

namespace Gatehouse
namespace Crypto
namespace Sha2

/-- The eight registers. -/
structure Registers (Word : Type) where
  a : Word
  b : Word
  c : Word
  d : Word
  e : Word
  f : Word
  g : Word
  h : Word

/-- What sets one member of the family apart. -/
structure Parameters (Word : Type) where
  wordSize : Nat
  steps : Nat
  ofNat : Nat → Word
  toNat : Word → Nat
  /-- The functions that expand a block. -/
  expand0 : Word → Word
  expand1 : Word → Word
  /-- The functions that mix the registers. -/
  mix0 : Word → Word
  mix1 : Word → Word

variable {Word : Type} [Add Word] [AndOp Word] [XorOp Word] [Complement Word]

/-- The constants of the steps: the fractional parts of the cube roots of the first
primes. -/
def Parameters.constants (parameters : Parameters Word) : List Word :=
  (Constants.primes.take parameters.steps).map fun prime =>
    parameters.ofNat (Constants.rootFraction 3 (8 * parameters.wordSize) prime)

/-- The registers before the first block: the fractional parts of the square roots of
the first eight primes. -/
def Parameters.initial (parameters : Parameters Word) : Registers Word :=
  let root := fun prime =>
    parameters.ofNat (Constants.rootFraction 2 (8 * parameters.wordSize) prime)
  ⟨root 2, root 3, root 5, root 7, root 11, root 13, root 17, root 19⟩

/-- The words that a block is expanded to, one for each step. -/
def schedule (parameters : Parameters Word) (block : Bytes) : Array Word :=
  let zero := parameters.ofNat 0
  let words := ((chunks parameters.wordSize block).map fun piece =>
    parameters.ofNat (ofBigEndian piece)).toArray
  (List.range (parameters.steps - 16)).foldl (fun known index =>
    known.push (parameters.expand1 (known.getD (index + 14) zero) +
      known.getD (index + 9) zero
      + parameters.expand0 (known.getD (index + 1) zero) + known.getD index zero)) words

/-- One step, with the sum of its constant and its word of the schedule kept apart. -/
def stepOnce
    (parameters : Parameters Word)
    (registers : Registers Word)
    (constant word : Word) : Registers Word :=
  let choice := (registers.e &&& registers.f) ^^^ (~~~registers.e &&& registers.g)
  let majority := (registers.a &&& registers.b) ^^^ (registers.a &&& registers.c)
    ^^^ (registers.b &&& registers.c)
  let first := registers.h + parameters.mix1 registers.e + choice + constant + word
  let second := parameters.mix0 registers.a + majority
  ⟨first + second, registers.a, registers.b, registers.c,
    registers.d + first, registers.e, registers.f, registers.g⟩

/-- Take one block into the registers. -/
def absorb
    (parameters : Parameters Word)
    (constants : List Word)
    (registers : Registers Word)
    (block : Bytes) : Registers Word :=
  let after := (constants.zip (schedule parameters block).toList).foldl
    (fun current (constant, word) => stepOnce parameters current constant word) registers
  ⟨registers.a + after.a, registers.b + after.b, registers.c + after.c,
    registers.d + after.d,
    registers.e + after.e, registers.f + after.f, registers.g + after.g,
    registers.h + after.h⟩

/-- The digest of a message under given constants and initial registers. -/
def digestWith
    (parameters : Parameters Word)
    (constants : List Word)
    (initial : Registers Word)
    (message : Bytes) : Bytes :=
  let blockSize := 16 * parameters.wordSize
  let padded := padMessage blockSize (2 * parameters.wordSize) message
  let final := (chunks blockSize padded).foldl (absorb parameters constants) initial
  [final.a, final.b, final.c, final.d, final.e, final.f, final.g,
    final.h].flatMap fun word =>
    toBigEndian parameters.wordSize (parameters.toNat word)

end Sha2

namespace Sha256

/-- A word rotated to the right. -/
def rotateRight (word amount : UInt32) : UInt32 :=
  (word >>> amount) ||| (word <<< (32 - amount))

/-- Words of 32 bits and 64 steps. -/
def parameters : Sha2.Parameters UInt32 where
  wordSize := 4
  steps := 64
  ofNat := UInt32.ofNat
  toNat := UInt32.toNat
  expand0 word := rotateRight word 7 ^^^ rotateRight word 18 ^^^ (word >>> 3)
  expand1 word := rotateRight word 17 ^^^ rotateRight word 19 ^^^ (word >>> 10)
  mix0 word := rotateRight word 2 ^^^ rotateRight word 13 ^^^ rotateRight word 22
  mix1 word := rotateRight word 6 ^^^ rotateRight word 11 ^^^ rotateRight word 25

/-- The constants of the steps. -/
def constants : List UInt32 := parameters.constants

/-- The registers before the first block. -/
def initial : Sha2.Registers UInt32 := parameters.initial

/-- The digest of a message, 32 octets long. -/
def digest (message : Bytes) : Bytes :=
  Sha2.digestWith parameters constants initial message

end Sha256

namespace Sha512

/-- A word rotated to the right. -/
def rotateRight (word amount : UInt64) : UInt64 :=
  (word >>> amount) ||| (word <<< (64 - amount))

/-- Words of 64 bits and 80 steps. -/
def parameters : Sha2.Parameters UInt64 where
  wordSize := 8
  steps := 80
  ofNat := UInt64.ofNat
  toNat := UInt64.toNat
  expand0 word := rotateRight word 1 ^^^ rotateRight word 8 ^^^ (word >>> 7)
  expand1 word := rotateRight word 19 ^^^ rotateRight word 61 ^^^ (word >>> 6)
  mix0 word := rotateRight word 28 ^^^ rotateRight word 34 ^^^ rotateRight word 39
  mix1 word := rotateRight word 14 ^^^ rotateRight word 18 ^^^ rotateRight word 41

/-- The constants of the steps. -/
def constants : List UInt64 := parameters.constants

/-- The registers before the first block. -/
def initial : Sha2.Registers UInt64 := parameters.initial

/-- The digest of a message, 64 octets long. -/
def digest (message : Bytes) : Bytes :=
  Sha2.digestWith parameters constants initial message

end Sha512
end Crypto
end Gatehouse
