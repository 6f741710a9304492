/-!
# Constants without a hidden choice

The hash functions take their constants from the fractional parts of square and cube
roots of the first primes, and the block cipher behind password hashes takes its initial
tables from the fractional part of π. They are computed here in exact integer
arithmetic.
-/

namespace Gatehouse
namespace Crypto
namespace Constants

/-- Whether a number has no divisor between two and itself. -/
def isPrime (number : Nat) : Bool :=
  2 ≤ number && (List.range number).all fun divisor =>
    divisor < 2 || number % divisor != 0

/-- The primes below 410, of which there are eighty. -/
def primes : List Nat :=
  (List.range 410).filter isPrime

/-- The largest number of at most `bits` bits whose power does not exceed the target.
The bits are tried from the highest to the lowest. -/
def integerRoot (exponent bits target : Nat) : Nat :=
  (List.range bits).reverse.foldl (fun root bit =>
    let candidate := root + (1 <<< bit)
    if Nat.pow candidate exponent ≤ target then candidate else root) 0

/-- The leading bits of the fractional part of a root of a number below 1024. -/
def rootFraction (exponent bits number : Nat) : Nat :=
  integerRoot exponent (bits + 10) (number <<< (exponent * bits)) % (1 <<< bits)

/-- The sum of the terms of the alternating arctangent series of `1 / base`, in units of
the reciprocal of the scale, `power` being the scale divided by the odd power of the
base. -/
def arctangentTerms (square : Nat) : Nat → Nat → Int → Nat → Int
  | 0, _, _, _ => 0
  | terms + 1, power, sign, odd =>
      sign * (power / odd : Nat) +
        arctangentTerms square terms (power / square) (-sign) (odd + 2)

/-- The arctangent of `1 / base` in units of the reciprocal of the scale. -/
def arctangentOfInverse (base scale terms : Nat) : Int :=
  arctangentTerms (base * base) terms (scale / base) 1 1

/-- The leading bits of the fractional part of π, by the formula
`π = 16 arctan (1 / 5) - 4 arctan (1 / 239)` with 64 bits to spare. -/
def piFraction (bits : Nat) : Nat :=
  let scale := 1 <<< (bits + 64)
  let terms := bits / 4 + 32
  let value :=
    16 * arctangentOfInverse 5 scale terms - 4 * arctangentOfInverse 239 scale terms
  (value.toNat >>> 64) % (1 <<< bits)

/-- The leading words of 32 bits of the fractional part of π. -/
def piWords (count : Nat) : Array UInt32 :=
  let fraction := piFraction (32 * count)
  Array.ofFn fun (index : Fin count) =>
    UInt32.ofNat (fraction >>> (32 * (count - 1 - index.val)))

end Constants
end Crypto
end Gatehouse
