import Gatehouse.Text.Utf8

/-!
# Octets and words

Numbers as octets in big-endian order, the division of a message into blocks, and the
padding that the hash functions share.
-/

namespace Gatehouse
namespace Crypto

/-- Consecutive pieces of a positive size; the last one may be shorter. -/
def chunks (size : Nat) (items : List α) : List (List α) :=
  if size = 0 then []
  else
    match items with
    | [] => []
    | first :: rest => (first :: rest).take size :: chunks size (rest.drop (size - 1))
termination_by items.length
decreasing_by simp only [List.length_drop, List.length_cons]; omega

/-- The number that octets denote in big-endian order. -/
def ofBigEndian (octets : Bytes) : Nat :=
  octets.foldl (fun value octet => value * 256 + octet.toNat) 0

/-- The last `count` octets of a number in big-endian order. -/
def toBigEndian (count value : Nat) : Bytes :=
  (List.range count).reverse.map fun index => UInt8.ofNat (value >>> (8 * index))

/-- A message followed by a one bit, as few zero bits as possible, and its length in
bits, so that its size becomes a multiple of the block size. -/
def padMessage (blockSize lengthSize : Nat) (message : Bytes) : Bytes :=
  let used := message.length + 1 + lengthSize
  let zeros := (blockSize - used % blockSize) % blockSize
  message ++ [0x80] ++ List.replicate zeros 0 ++
    toBigEndian lengthSize (8 * message.length)

/-- Octets combined pairwise by exclusive or. -/
def xorBytes (first second : Bytes) : Bytes :=
  List.zipWith (· ^^^ ·) first second

end Crypto
end Gatehouse
