import Gatehouse.Text.Base64
import Gatehouse.Text.Hex
import Gatehouse.Text.Utf8
import Mathlib.Data.List.Basic
import Mathlib.Tactic.Common

/-!
# Texts as octets, and octets written as text

The encoding of a text goes character by character. Hexadecimal digits and Base64
characters are read back as the octets that were written, under every scheme of Base64.
Both consist of characters that divide nothing: neither writes a bar.
-/

namespace Gatehouse
namespace Text

/-- The character of a number below the surrogates has that number. -/
theorem toNat_ofNat_of_lt
    {code : Nat}
    (small : code < 0xD800) :
    (Char.ofNat code).toNat = code := by
  have valid : code.isValidChar := Or.inl small
  unfold Char.ofNat
  rw [dif_pos valid]
  rfl

namespace Utf8

theorem encode_eq_flatMap (text : String) :
    encode text = text.toList.flatMap String.utf8EncodeChar := by
  unfold encode
  rw [← String.utf8Encode_toList]
  simp [List.utf8Encode]

theorem utf8EncodeChar_of_ascii
    {char : Char}
    (ascii : char.toNat ≤ 0x7F) :
    String.utf8EncodeChar char = [UInt8.ofNat char.toNat] := by
  unfold String.utf8EncodeChar
  exact if_pos ascii

theorem encode_of_ascii
    {text : String}
    (ascii : ∀ char ∈ text.toList, char.toNat ≤ 0x7F) :
    encode text = text.toList.map fun char => UInt8.ofNat char.toNat := by
  rw [encode_eq_flatMap, List.map_eq_flatMap]
  exact List.flatMap_congr fun char present =>
    utf8EncodeChar_of_ascii (ascii char present)

theorem toNat_octet_of_ascii
    {char : Char}
    (ascii : char.toNat ≤ 0x7F) :
    (UInt8.ofNat char.toNat).toNat = char.toNat := by
  rw [UInt8.toNat_ofNat']
  omega

/-- The encoding of a text of ASCII has the octets of its characters and no others. -/
theorem mem_of_octet_mem_encode
    {text : String}
    {char : Char}
    (textAscii : ∀ char ∈ text.toList, char.toNat ≤ 0x7F)
    (ascii : char.toNat ≤ 0x7F)
    (present : UInt8.ofNat char.toNat ∈ encode text) :
    char ∈ text.toList := by
  rw [encode_of_ascii textAscii] at present
  obtain ⟨other, inText, same⟩ := List.mem_map.mp present
  have numbers := congrArg UInt8.toNat same
  rw [toNat_octet_of_ascii (textAscii other inText),
    toNat_octet_of_ascii ascii] at numbers
  rwa [← Char.toNat_inj.mp numbers]

/-- Different octets are the numbers of different characters. -/
theorem ofNat_toNat_injective :
    Function.Injective fun octet : UInt8 => Char.ofNat octet.toNat := by
  intro first second same
  have firstBounded := first.toNat_lt
  have secondBounded := second.toNat_lt
  have numbers := congrArg Char.toNat same
  rw [toNat_ofNat_of_lt (by omega), toNat_ofNat_of_lt (by omega)] at numbers
  exact UInt8.toNat_inj.mp numbers

/-- Characters of ASCII are those that their octets number. -/
theorem map_ofNat_octets_of_ascii
    {chars : List Char}
    (ascii : ∀ char ∈ chars, char.toNat ≤ 0x7F) :
    (chars.map fun char => UInt8.ofNat char.toNat).map
      (fun octet => Char.ofNat octet.toNat) =
      chars := by
  rw [List.map_map]
  refine (List.map_congr_left fun char present => ?_).trans (List.map_id chars)
  rw [Function.comp_apply, toNat_octet_of_ascii (ascii char present), Char.ofNat_toNat]
  rfl

theorem toList_of_ascii
    {text : String}
    (ascii : ∀ char ∈ text.toList, char.toNat ≤ 0x7F) :
    text.toList = (encode text).map fun octet => Char.ofNat octet.toNat := by
  rw [encode_of_ascii ascii, map_ofNat_octets_of_ascii ascii]

end Utf8

namespace Hex

theorem value?_digit :
    ∀ value < 16, value? (digit value) = some value := by
  decide

/-- Octets read back from their hexadecimal digits. -/
@[simp] theorem decode?_encode (octets : Bytes) :
    decode? (encode octets) = some octets := by
  induction octets with
  | nil => rfl
  | cons octet rest inductionHypothesis =>
      have bounded := octet.toNat_lt
      have high : octet.toNat / 16 < 16 := by omega
      have low : octet.toNat % 16 < 16 := by omega
      have whole : octet.toNat / 16 * 16 + octet.toNat % 16 = octet.toNat := by omega
      have step : encode (octet :: rest) =
          digit (octet.toNat / 16) :: digit (octet.toNat % 16) :: encode rest := rfl
      rw [step, decode?, value?_digit _ high, value?_digit _ low, inductionHypothesis]
      simp only [Option.bind_eq_bind, Option.bind_some, whole, UInt8.ofNat_toNat]

/-- The digits of octets have values. -/
theorem isSome_value?_of_mem_encode
    {char : Char}
    {octets : Bytes}
    (present : char ∈ encode octets) :
    (value? char).isSome = true := by
  obtain ⟨octet, -, inPair⟩ := List.mem_flatMap.mp present
  have bounded := octet.toNat_lt
  simp only [List.mem_cons, List.not_mem_nil, or_false] at inPair
  rcases inPair with rfl | rfl
  · rw [value?_digit _ (by omega)]
    rfl
  · rw [value?_digit _ (by omega)]
    rfl

theorem bar_notMem_encode (octets : Bytes) : '|' ∉ encode octets := by
  intro present
  exact absurd (isSome_value?_of_mem_encode present) (by decide)

theorem value?_digitChar :
    ∀ value < 16, value? value.digitChar = some value := by
  decide

/-- The digits of a number have values. -/
theorem isSome_value?_of_mem_toDigits
    {base number : Nat}
    {char : Char}
    (positional : 1 < base)
    (small : base ≤ 16)
    (present : char ∈ Nat.toDigits base number) :
    (value? char).isSome = true := by
  induction number using Nat.strongRecOn with
  | ind number inductionHypothesis =>
      rw [Nat.toDigits_eq_if positional] at present
      split at present
      · rw [List.mem_singleton.mp present, value?_digitChar _ (by omega)]
        rfl
      · rename_i large
        rcases List.mem_append.mp present with inFront | isLast
        · exact inductionHypothesis _ (Nat.div_lt_self (by omega) positional) inFront
        · have bounded := Nat.mod_lt number (by omega : base > 0)
          rw [List.mem_singleton.mp isLast, value?_digitChar _ (by omega)]
          rfl

/-- A number reads back from its digits. -/
theorem foldl_toDigits
    {base : Nat}
    (positional : 1 < base)
    (small : base ≤ 16)
    (number : Nat) :
    (Nat.toDigits base number).foldl
      (fun value char => value * base + (value? char).getD 0) 0 =
      number := by
  induction number using Nat.strongRecOn with
  | ind number inductionHypothesis =>
      rw [Nat.toDigits_eq_if positional]
      split
      · rename_i single
        simp [value?_digitChar number (by omega)]
      · have bounded := Nat.mod_lt number (by omega : base > 0)
        have smaller := Nat.div_lt_self (by omega : 0 < number) positional
        have lastRead := value?_digitChar (number % base) (by omega)
        rw [List.foldl_append, inductionHypothesis _ smaller]
        simp only [List.foldl_cons, List.foldl_nil, lastRead, Option.getD_some]
        rw [Nat.mul_comm]
        exact Nat.div_add_mod number base

end Hex

namespace Base64

/-- A character of an alphabet reads back as its value. -/
theorem Alphabet.value?_character
    (alphabet : Alphabet)
    {value : Nat}
    (bounded : value < 64) :
    alphabet.value? (alphabet.character value) = some value := by
  have all : ∀ value < 64, alphabet.value? (alphabet.character value) = some value := by
    cases alphabet <;> decide
  exact all value bounded

/-- The padding is not a character of an alphabet. -/
theorem Alphabet.character_ne_padding
    (alphabet : Alphabet)
    {value : Nat}
    (bounded : value < 64) :
    alphabet.character value ≠ '=' := by
  intro equality
  have read := alphabet.value?_character bounded
  rw [equality] at read
  have unread : alphabet.value? '=' = none := by cases alphabet <;> rfl
  rw [unread] at read
  cases read

/-- Octets are written in characters of the alphabet, and in padding. -/
theorem mem_encode
    {scheme : Scheme}
    {octets : Bytes}
    {char : Char}
    (present : char ∈ encode scheme octets) :
    char = '=' ∨ ∃ value < 64, char = scheme.alphabet.character value := by
  have isPadding : ∀ {count}, char ∈ scheme.padding count → char = '=' := by
    intro count inPadding
    unfold Scheme.padding at inPadding
    split at inPadding
    · exact List.eq_of_mem_replicate inPadding
    · cases inPadding
  fun_induction encode scheme octets with
  | case1 => cases present
  | case2 octet bits =>
      have bounded := octet.toNat_lt
      simp only [List.mem_cons] at present
      rcases present with isHigh | isLow | inPadding
      · exact .inr ⟨_, by omega, isHigh⟩
      · exact .inr ⟨_, by omega, isLow⟩
      · exact .inl (isPadding inPadding)
  | case3 first second bits =>
      have firstBounded := first.toNat_lt
      have secondBounded := second.toNat_lt
      simp only [List.mem_cons] at present
      rcases present with isHigh | isMiddle | isLow | inPadding
      · exact .inr ⟨_, by omega, isHigh⟩
      · exact .inr ⟨_, by omega, isMiddle⟩
      · exact .inr ⟨_, by omega, isLow⟩
      · exact .inl (isPadding inPadding)
  | case4 first second third rest bits inductionHypothesis =>
      have firstBounded := first.toNat_lt
      have secondBounded := second.toNat_lt
      have thirdBounded := third.toNat_lt
      simp only [List.mem_cons] at present
      rcases present with isFirst | isSecond | isThird | isFourth | behind
      · exact .inr ⟨_, by omega, isFirst⟩
      · exact .inr ⟨_, by omega, isSecond⟩
      · exact .inr ⟨_, by omega, isThird⟩
      · exact .inr ⟨_, by omega, isFourth⟩
      · exact inductionHypothesis behind

/-- A last group of one octet reads back. -/
theorem lastOne?_characters
    (alphabet : Alphabet)
    (octet : UInt8) :
    lastOne? alphabet (alphabet.character (octet.toNat * 16 / 64))
        (alphabet.character (octet.toNat * 16 % 64)) = some [octet] := by
  have bounded := octet.toNat_lt
  have whole :
      octet.toNat * 16 / 64 * 64 + octet.toNat * 16 % 64 = octet.toNat * 16 := by omega
  unfold lastOne?
  rw [alphabet.value?_character (by omega), alphabet.value?_character (by omega)]
  simp [whole]

/-- A last group of two octets reads back. -/
theorem lastTwo?_characters
    (alphabet : Alphabet)
    (first second : UInt8) :
    let bits := (first.toNat * 256 + second.toNat) * 4
    lastTwo? alphabet (alphabet.character (bits / 4096))
        (alphabet.character (bits / 64 % 64))
        (alphabet.character (bits % 64)) = some [first, second] := by
  intro bits
  have firstBounded := first.toNat_lt
  have secondBounded := second.toNat_lt
  have whole : (bits / 4096 * 64 + bits / 64 % 64) * 64 + bits % 64 = bits := by omega
  have ending : bits % 4 = 0 := by omega
  have high : bits / 1024 = first.toNat := by omega
  have low : bits / 4 % 256 = second.toNat := by omega
  unfold lastTwo?
  rw [alphabet.value?_character (by omega), alphabet.value?_character (by omega),
    alphabet.value?_character (by omega)]
  simp [whole, ending, high, low]

/-- A full group reads back. -/
theorem three?_characters
    (alphabet : Alphabet)
    (first second third : UInt8) :
    let bits := (first.toNat * 256 + second.toNat) * 256 + third.toNat
    three? alphabet (alphabet.character (bits / 262144))
        (alphabet.character (bits / 4096 % 64))
        (alphabet.character (bits / 64 % 64)) (alphabet.character (bits % 64)) =
      some [first, second, third] := by
  intro bits
  have firstBounded := first.toNat_lt
  have secondBounded := second.toNat_lt
  have thirdBounded := third.toNat_lt
  have whole :
      ((bits / 262144 * 64 + bits / 4096 % 64) * 64 + bits / 64 % 64) * 64 + bits % 64 =
      bits := by omega
  have high : bits / 65536 = first.toNat := by omega
  have middle : bits / 256 % 256 = second.toNat := by omega
  have low : bits % 256 = third.toNat := by omega
  unfold three?
  rw [alphabet.value?_character (by omega), alphabet.value?_character (by omega),
    alphabet.value?_character (by omega), alphabet.value?_character (by omega)]
  simp [whole, high, middle, low]

/-- Octets read back from their Base64 form under the same scheme. -/
@[simp] theorem decode?_encode
    (scheme : Scheme)
    (octets : Bytes) :
    decode? scheme (encode scheme octets) = some octets := by
  fun_induction encode scheme octets with
  | case1 => rfl
  | case2 octet bits =>
      have read := lastOne?_characters scheme.alphabet octet
      cases padded : scheme.padded with
      | true => simpa [Scheme.padding, padded, decode?, bits] using read
      | false => simpa [Scheme.padding, padded, decode?, bits] using read
  | case3 first second bits =>
      have read := lastTwo?_characters scheme.alphabet first second
      have firstBounded := first.toNat_lt
      have secondBounded := second.toNat_lt
      have unpadded : scheme.alphabet.character (bits % 64) ≠ '=' :=
        scheme.alphabet.character_ne_padding (by omega)
      cases padded : scheme.padded with
      | true =>
          simp only [Scheme.padding, padded, if_true, List.replicate_one, decode?,
            List.isEmpty_nil, beq_self_eq_true, Bool.and_self, beq_iff_eq, unpadded,
            if_false]
          exact read
      | false => simpa [Scheme.padding, padded, decode?, bits] using read
  | case4 first second third rest bits inductionHypothesis =>
      have read := three?_characters scheme.alphabet first second third
      have unpadded : scheme.alphabet.character (bits % 64) ≠ '=' :=
        scheme.alphabet.character_ne_padding (by omega)
      simp only [decode?, beq_eq_false_iff_ne.mpr unpadded, Bool.and_false,
        Bool.false_eq_true, if_false]
      rw [read, inductionHypothesis]
      rfl

@[simp] theorem ofText?_text
    (scheme : Scheme)
    (octets : Bytes) :
    ofText? scheme (text scheme octets) = some octets := by
  simp [ofText?, text]

end Base64
end Text
end Gatehouse
