import Gatehouse.Proofs.Text.Octets
import Gatehouse.Url.Percent
import Mathlib.Tactic.Common

/-!
# What percent encoding leaves alone

Encoding goes character by character. It leaves a text alone exactly if every character of
it stands for itself, and so it leaves alone whatever it has written. What it writes
besides the characters that stand for themselves are percent signs and hexadecimal digits.
-/

namespace Gatehouse
namespace Percent

open Text

/-- Whether a character stands for itself: of ASCII, with its octet not in the set. -/
def IsLiteral (inSet : UInt8 → Bool) (char : Char) : Prop :=
  char.toNat ≤ 0x7F ∧ inSet (UInt8.ofNat char.toNat) = false

instance (inSet : UInt8 → Bool) (char : Char) : Decidable (IsLiteral inSet char) :=
  inferInstanceAs (Decidable (_ ∧ _))

/-- Whether a character may be part of an encoded octet. -/
def IsEscape (char : Char) : Prop :=
  char = '%' ∨ ∃ value < 16, char = Hex.upperDigit value

/-- A proper set has all octets outside ASCII, and none that encodings consist of. -/
structure Proper (inSet : UInt8 → Bool) : Prop where
  outside : ∀ octet : UInt8, 0x7F < octet.toNat → inSet octet = true
  percent : inSet 0x25 = false
  digits : ∀ value < 16, inSet (UInt8.ofNat (Hex.upperDigit value).toNat) = false

/-- Octets outside ASCII are in the smallest set. -/
theorem controls_of_outside
    {octet : UInt8}
    (outside : 0x7F < octet.toNat) :
    controls octet = true := by
  have above : (0x7E : UInt8) < octet := by
    rw [UInt8.lt_iff_toNat_lt]
    exact Nat.lt_of_succ_lt outside
  simp [controls, above]

theorem proper_inPath : Proper inPath where
  outside octet outside := by
    unfold inPath inFragment
    rw [controls_of_outside outside]
    rfl
  percent := by decide
  digits := by decide

theorem proper_inUserinfo : Proper inUserinfo where
  outside octet outside := by
    unfold inUserinfo
    rw [proper_inPath.outside octet outside]
    rfl
  percent := by decide
  digits := by decide

theorem proper_inSpecialQuery : Proper inSpecialQuery where
  outside octet outside := by
    unfold inSpecialQuery inQuery
    rw [controls_of_outside outside]
    rfl
  percent := by decide
  digits := by decide

/-- The octets of a character outside ASCII are outside ASCII. -/
theorem outside_of_mem_utf8EncodeChar
    {char : Char}
    {octet : UInt8}
    (outside : 0x7F < char.toNat)
    (present : octet ∈ String.utf8EncodeChar char) :
    0x7F < octet.toNat := by
  have notAscii : ¬ char.val.toNat ≤ 0x7F := Nat.not_le.mpr outside
  unfold String.utf8EncodeChar at present
  simp only [if_neg notAscii] at present
  split at present
  · simp only [List.mem_cons, List.not_mem_nil, or_false] at present
    rcases present with rfl | rfl <;> rw [UInt8.toNat_ofNat'] <;> omega
  · split at present
    · simp only [List.mem_cons, List.not_mem_nil, or_false] at present
      rcases present with rfl | rfl | rfl <;> rw [UInt8.toNat_ofNat'] <;> omega
    · simp only [List.mem_cons, List.not_mem_nil, or_false] at present
      rcases present with rfl | rfl | rfl | rfl <;> rw [UInt8.toNat_ofNat'] <;> omega

section Encoding

variable {inSet : UInt8 → Bool}

/-- One character, with the octets of a set encoded. -/
def encodeChar (inSet : UInt8 → Bool) (char : Char) : List Char :=
  (String.utf8EncodeChar char).flatMap (encodeOctet inSet)

theorem encode_eq_flatMap (inSet : UInt8 → Bool) (chars : List Char) :
    encode inSet chars = chars.flatMap (encodeChar inSet) := by
  unfold encode
  rw [Utf8.encode_eq_flatMap, String.toList_ofList, List.flatMap_assoc]
  rfl

/-- A character that stands for itself is left alone. -/
theorem encodeChar_of_isLiteral
    {char : Char}
    (isLiteral : IsLiteral inSet char) :
    encodeChar inSet char = [char] := by
  obtain ⟨ascii, notIn⟩ := isLiteral
  have small : (UInt8.ofNat char.toNat).toNat = char.toNat := by
    rw [UInt8.toNat_ofNat']
    omega
  unfold encodeChar
  rw [Utf8.utf8EncodeChar_of_ascii ascii, List.flatMap_singleton]
  unfold encodeOctet
  rw [notIn, small, Char.ofNat_toNat]
  rfl

/-- A character that does not stand for itself is written with escapes only. -/
theorem isEscape_of_mem_encodeChar
    (proper : Proper inSet)
    {char written : Char}
    (notLiteral : ¬ IsLiteral inSet char)
    (present : written ∈ encodeChar inSet char) :
    IsEscape written := by
  obtain ⟨octet, isOctet, inEncoded⟩ := List.mem_flatMap.mp present
  have octetIn : inSet octet = true := by
    by_cases ascii : char.toNat ≤ 0x7F
    · rw [Utf8.utf8EncodeChar_of_ascii ascii, List.mem_singleton] at isOctet
      rw [isOctet]
      by_contra notIn
      exact notLiteral ⟨ascii, Bool.eq_false_iff.mpr notIn⟩
    · exact proper.outside octet
        (outside_of_mem_utf8EncodeChar (Nat.not_le.mp ascii) isOctet)
  have bounded := octet.toNat_lt
  unfold encodeOctet at inEncoded
  rw [if_pos octetIn] at inEncoded
  simp only [List.mem_cons, List.not_mem_nil, or_false] at inEncoded
  rcases inEncoded with rfl | rfl | rfl
  · exact Or.inl rfl
  · exact Or.inr ⟨octet.toNat / 16, by omega, rfl⟩
  · exact Or.inr ⟨octet.toNat % 16, by omega, rfl⟩

/-- Escapes stand for themselves. -/
theorem isLiteral_of_isEscape
    (proper : Proper inSet)
    {char : Char}
    (isEscape : IsEscape char) :
    IsLiteral inSet char := by
  rcases isEscape with rfl | ⟨value, small, rfl⟩
  · exact ⟨by decide, proper.percent⟩
  · have ascii : ∀ value < 16, (Hex.upperDigit value).toNat ≤ 0x7F := by decide
    exact ⟨ascii value small, proper.digits value small⟩

/-- What is written is a character that stands for itself, or an escape. -/
theorem mem_encode
    (proper : Proper inSet)
    {chars : List Char}
    {written : Char}
    (present : written ∈ encode inSet chars) :
    (written ∈ chars ∧ IsLiteral inSet written) ∨ IsEscape written := by
  rw [encode_eq_flatMap] at present
  obtain ⟨char, isChar, inEncoded⟩ := List.mem_flatMap.mp present
  by_cases isLiteral : IsLiteral inSet char
  · rw [encodeChar_of_isLiteral isLiteral, List.mem_singleton] at inEncoded
    rw [inEncoded]
    exact Or.inl ⟨isChar, isLiteral⟩
  · exact Or.inr (isEscape_of_mem_encodeChar proper isLiteral inEncoded)

/-- Everything that is written stands for itself. -/
theorem isLiteral_of_mem_encode
    (proper : Proper inSet)
    {chars : List Char}
    {written : Char}
    (present : written ∈ encode inSet chars) :
    IsLiteral inSet written := by
  rcases mem_encode proper present with ⟨-, isLiteral⟩ | isEscape
  · exact isLiteral
  · exact isLiteral_of_isEscape proper isEscape

/-- Characters that stand for themselves are left alone. -/
theorem encode_of_isLiteral
    {chars : List Char}
    (allLiteral : ∀ char ∈ chars, IsLiteral inSet char) :
    encode inSet chars = chars := by
  rw [encode_eq_flatMap]
  induction chars with
  | nil => rfl
  | cons char rest inductionHypothesis =>
      obtain ⟨first, others⟩ := List.forall_mem_cons.mp allLiteral
      rw [List.flatMap_cons, encodeChar_of_isLiteral first, inductionHypothesis others]
      rfl

/-- A text is left alone exactly if all of its characters stand for themselves. -/
theorem encode_eq_self_iff
    (proper : Proper inSet)
    (chars : List Char) :
    encode inSet chars = chars ↔ ∀ char ∈ chars, IsLiteral inSet char := by
  constructor
  · intro unchanged char present
    rw [← unchanged] at present
    exact isLiteral_of_mem_encode proper present
  · exact encode_of_isLiteral

/-- What has been encoded is left alone. -/
theorem encode_encode
    (proper : Proper inSet)
    (chars : List Char) :
    encode inSet (encode inSet chars) = encode inSet chars :=
  encode_of_isLiteral fun _ present => isLiteral_of_mem_encode proper present

/-- Nothing is written for nothing only. -/
theorem encode_eq_nil_iff (chars : List Char) :
    encode inSet chars = [] ↔ chars = [] := by
  constructor
  · intro nothing
    cases chars with
    | nil => rfl
    | cons char rest =>
        rw [encode_eq_flatMap, List.flatMap_cons, List.append_eq_nil_iff] at nothing
        have size : (String.utf8EncodeChar char).length = char.utf8Size :=
          String.length_utf8EncodeChar char
        have positive : 0 < char.utf8Size := Char.utf8Size_pos char
        obtain ⟨octet, isOctet⟩ := List.exists_mem_of_length_pos (size ▸ positive)
        have unwritten := List.flatMap_eq_nil_iff.mp nothing.1 octet isOctet
        unfold encodeOctet at unwritten
        split at unwritten <;> cases unwritten
  · rintro rfl
    rfl

end Encoding

/-- Octets without a percent sign stand for themselves. -/
theorem decode_of_notMem
    {octets : Bytes}
    (absent : 0x25 ∉ octets) :
    decode octets = octets := by
  induction octets with
  | nil => rw [decode]
  | cons octet rest inductionHypothesis =>
      obtain ⟨different, absentBehind⟩ := not_or.mp (mt List.mem_cons.mpr absent)
      rw [decode, inductionHypothesis absentBehind]
      intro high low others isPercent
      exact absurd isPercent (Ne.symm different)

/-- A text without a percent sign stands for its own octets. -/
theorem decode_encode_of_notMem
    {text : String}
    (absent : '%' ∉ text.toList) :
    decode (Utf8.encode text) = Utf8.encode text := by
  apply decode_of_notMem
  intro present
  rw [Utf8.encode_eq_flatMap] at present
  obtain ⟨char, isChar, inEncoded⟩ := List.mem_flatMap.mp present
  by_cases ascii : char.toNat ≤ 0x7F
  · rw [Utf8.utf8EncodeChar_of_ascii ascii, List.mem_singleton] at inEncoded
    have isCode : char.toNat = '%'.toNat := by
      have octets := congrArg UInt8.toNat inEncoded
      rw [UInt8.toNat_ofNat', Nat.mod_eq_of_lt (by omega)] at octets
      exact octets.symm
    rw [Char.toNat_inj] at isCode
    exact absent (isCode ▸ isChar)
  · have outside := outside_of_mem_utf8EncodeChar (Nat.not_le.mp ascii) inEncoded
    exact absurd outside (by decide)

end Percent
end Gatehouse
