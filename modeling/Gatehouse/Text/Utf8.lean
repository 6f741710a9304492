/-!
# Text as bytes

The UTF-8 encoding of text, the strict reading that accepts exactly the encodings of
texts, and the lenient reading that puts the replacement character in place of each
maximal ill-formed piece.
-/

namespace Gatehouse

/-- A sequence of octets, such as a message, a key or a body. -/
abbrev Bytes := List UInt8

namespace Text
namespace Utf8

/-- The UTF-8 encoding of a text. -/
def encode (text : String) : Bytes :=
  text.toByteArray.data.toList

/-- The text that the octets encode, if they are well formed. -/
def decode? (octets : Bytes) : Option String :=
  String.fromUTF8? ⟨octets.toArray⟩

/-- Encoding loses nothing: the strict reading gives the text back. -/
theorem decode?_encode (text : String) : decode? (encode text) = some text := by
  have valid : (⟨(encode text).toArray⟩ : ByteArray) = text.toByteArray := by
    simp [encode]
  unfold decode? String.fromUTF8?
  rw [valid]
  simp [text.isValidUTF8, String.fromUTF8]

/-- The strict reading accepts nothing but encodings. -/
theorem eq_encode_of_decode?
    {octets : Bytes}
    {text : String}
    (decoded : decode? octets = some text) :
    octets = encode text := by
  unfold decode? String.fromUTF8? at decoded
  split at decoded
  · have same : String.fromUTF8 _ _ = text := Option.some.inj decoded
    rw [← same]
    simp [encode, String.fromUTF8]
  · simp at decoded

theorem encode_append (first second : String) :
    encode (first ++ second) = encode first ++ encode second := by
  simp [encode]

theorem encode_injective {first second : String} (same : encode first = encode second) :
    first = second := by
  have decoded := congrArg decode? same
  simpa [decode?_encode] using decoded

/-- A character of which the leading octets have been read: how many continuation octets
are still owed, the range of the next one, and the value of the bits read so far. -/
structure Partial where
  owed : Nat
  low : Nat
  high : Nat
  value : Nat

/-- What reading one octet yields. -/
inductive Progress
  | complete (char : Char)
  | pending (rest : Partial)
  | illFormed

/-- Read the first octet of a character. Overlong forms, surrogates and values beyond
the last code point are excluded by the ranges of the second octet. -/
def begin (octet : UInt8) : Progress :=
  let value := octet.toNat
  if value < 0x80 then .complete (Char.ofNat value)
  else if value < 0xC2 then .illFormed
  else if value < 0xE0 then .pending ⟨1, 0x80, 0xBF, value % 32⟩
  else if value = 0xE0 then .pending ⟨2, 0xA0, 0xBF, 0⟩
  else if value = 0xED then .pending ⟨2, 0x80, 0x9F, 13⟩
  else if value < 0xF0 then .pending ⟨2, 0x80, 0xBF, value % 16⟩
  else if value = 0xF0 then .pending ⟨3, 0x90, 0xBF, 0⟩
  else if value < 0xF4 then .pending ⟨3, 0x80, 0xBF, value % 8⟩
  else if value = 0xF4 then .pending ⟨3, 0x80, 0x8F, 4⟩
  else .illFormed

/-- Read the next octet of a character that has been begun. -/
def Partial.resume (part : Partial) (octet : UInt8) : Progress :=
  let octetValue := octet.toNat
  if part.low ≤ octetValue ∧ octetValue ≤ part.high then
    let value := part.value * 64 + octetValue % 64
    if part.owed ≤ 1 then .complete (Char.ofNat value)
    else .pending ⟨part.owed - 1, 0x80, 0xBF, value⟩
  else .illFormed

/-- The character that stands for an ill-formed piece. -/
def replacement : Char := Char.ofNat 0xFFFD

/-- Read octets from between two characters or from inside one, in reverse order of the
result. -/
def lenientFrom : Option Partial → List Char → Bytes → List Char
  | none, done, [] => done
  | some _, done, [] => replacement :: done
  | none, done, octet :: rest =>
      match begin octet with
      | .complete char => lenientFrom none (char :: done) rest
      | .pending part => lenientFrom (some part) done rest
      | .illFormed => lenientFrom none (replacement :: done) rest
  | some part, done, octet :: rest =>
      match part.resume octet with
      | .complete char => lenientFrom none (char :: done) rest
      | .pending next => lenientFrom (some next) done rest
      | .illFormed =>
          match begin octet with
          | .complete char => lenientFrom none (char :: replacement :: done) rest
          | .pending next => lenientFrom (some next) (replacement :: done) rest
          | .illFormed => lenientFrom none (replacement :: replacement :: done) rest

/-- The text that the octets encode, each maximal ill-formed piece being replaced by one
replacement character. -/
def decodeLenient (octets : Bytes) : String :=
  match decode? octets with
  | some text => text
  | none => String.ofList (lenientFrom none [] octets).reverse

end Utf8
end Text
end Gatehouse
