import Gatehouse.Proofs.Text.Octets
import Gatehouse.Text.Ascii
import Mathlib.Data.List.Forall2

/-!
# Texts that differ in case

Two texts agree up to the case of ASCII letters exactly if they have equally many
characters and those at each place are the same, or are the two forms of one letter of
ASCII. No other characters are identified.
-/

namespace Gatehouse
namespace Text

/-- The first character is the ASCII capital of the second. -/
def IsCapitalOf (capital small : Char) : Prop :=
  0x41 ≤ capital.toNat ∧ capital.toNat ≤ 0x5A ∧ small.toNat = capital.toNat + 0x20

/-- Two characters are the same, or the two forms of one letter of ASCII. -/
def SameLetter (first second : Char) : Prop :=
  first = second ∨ IsCapitalOf first second ∨ IsCapitalOf second first

/-- The number of the lower-case form of a character. -/
theorem toNat_lowerAscii_eq (char : Char) :
    (lowerAscii char).toNat =
      if 0x41 ≤ char.toNat ∧ char.toNat ≤ 0x5A then char.toNat + 0x20
      else char.toNat := by
  have condition :
      'A' ≤ char ∧ char ≤ 'Z' ↔ 0x41 ≤ char.toNat ∧ char.toNat ≤ 0x5A := Iff.rfl
  unfold lowerAscii
  simp only [condition]
  split
  · next capital => rw [toNat_ofNat_of_lt (by omega)]
  · rfl

/-- Characters have the same lower-case form exactly if they differ in case at most. -/
theorem lowerAscii_eq_iff {first second : Char} :
    lowerAscii first = lowerAscii second ↔ SameLetter first second := by
  rw [← Char.toNat_inj, toNat_lowerAscii_eq, toNat_lowerAscii_eq]
  unfold SameLetter IsCapitalOf
  rw [← Char.toNat_inj]
  split <;> split <;> omega

/-- Texts agree up to case exactly if their characters do, one by one. -/
theorem sameIgnoringCase_iff {first second : String} :
    sameIgnoringCase first second = true ↔
      List.Forall₂ SameLetter first.toList second.toList := by
  unfold sameIgnoringCase
  rw [beq_iff_eq, ← List.forall₂_eq_eq_eq, List.forall₂_map_left_iff,
    List.forall₂_map_right_iff]
  simp only [lowerAscii_eq_iff]

theorem sameIgnoringCase_iff_lower {first second : String} :
    sameIgnoringCase first second = true ↔ lower first = lower second := by
  unfold sameIgnoringCase lower
  rw [beq_iff_eq]
  exact ⟨congrArg String.ofList, fun same => String.ofList_injective same⟩

end Text
end Gatehouse
