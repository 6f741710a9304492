import Gatehouse.Proofs.Text.Case
import Gatehouse.Proofs.Text.Splitting

/-!
# Blanks at the ends of a text

What is left of a text without the blanks at its ends does not depend on the blanks
around it, and the carriage return that ends a line is one of these. Blanks have no
case, so that trimming and folding the case of letters may be done in either order.
Texts agree after both exactly if they differ in the blanks at their ends and in the
case of letters at most.
-/

namespace Gatehouse
namespace Text

/-- The two forms of a letter are no blanks. -/
theorem isBlank_lowerAscii (char : Char) : isBlank (lowerAscii char) = isBlank char := by
  have number := toNat_lowerAscii_eq char
  split at number
  · next capital =>
      have kept :
          ∀ code, 0x41 ≤ code → code ≤ 0x7A → isBlank (Char.ofNat code) = false := by
        intro code lower upper
        have all : ∀ code < 0x7B,
            0x41 ≤ code → isBlank (Char.ofNat code) = false := by decide
        exact all code (by omega) lower
      have first := kept char.toNat (by omega) (by omega)
      have second := kept (lowerAscii char).toNat (by omega) (by omega)
      rw [Char.ofNat_toNat] at first second
      rw [first, second]
  · rw [Char.toNat_inj.mp number]

/-- The case of letters may be folded before or after trimming. -/
theorem lower_trim (text : String) : lower (trim text) = trim (lower text) := by
  have drops (chars : List Char) : (chars.map lowerAscii).dropWhile isBlank =
      (chars.dropWhile isBlank).map lowerAscii := by
    rw [List.dropWhile_map]
    exact congrArg (fun drop => (chars.dropWhile drop).map lowerAscii)
      (funext isBlank_lowerAscii)
  unfold lower trim trimBoth
  simp only [String.toList_ofList, drops, ← List.map_reverse]

/-- Folding the case of letters makes no text without letters out of another text. -/
theorem lower_eq_iff_of_unlettered
    {text other : String}
    (unlettered : ∀ char ∈ other.toList, isLetter char = false) :
    lower text = other ↔ text = other := by
  have char_eq_iff {char otherChar : Char} (noLetter : isLetter otherChar = false) :
      lowerAscii char = otherChar ↔ char = otherChar := by
    have small : 'a' ≤ otherChar ∧ otherChar ≤ 'z' ↔
        0x61 ≤ otherChar.toNat ∧ otherChar.toNat ≤ 0x7A := Iff.rfl
    have capital : 'A' ≤ otherChar ∧ otherChar ≤ 'Z' ↔
        0x41 ≤ otherChar.toNat ∧ otherChar.toNat ≤ 0x5A := Iff.rfl
    have neither :
        ¬ (('a' ≤ otherChar ∧ otherChar ≤ 'z') ∨
          ('A' ≤ otherChar ∧ otherChar ≤ 'Z')) := by
      have isNone := Bool.eq_false_iff.mp noLetter
      rwa [isLetter, ne_eq, Bool.or_eq_true, Bool.and_eq_true, Bool.and_eq_true,
        decide_eq_true_eq, decide_eq_true_eq, decide_eq_true_eq,
        decide_eq_true_eq] at isNone
    rw [small, capital] at neither
    rw [← Char.toNat_inj, ← Char.toNat_inj, toNat_lowerAscii_eq]
    split <;> omega
  have list_eq_iff {chars others : List Char}
      (free : ∀ char ∈ others, isLetter char = false) :
      chars.map lowerAscii = others ↔ chars = others := by
    induction chars generalizing others with
    | nil => simp
    | cons char rest inductionHypothesis =>
        cases others with
        | nil => simp
        | cons first behind =>
            obtain ⟨firstFree, behindFree⟩ := List.forall_mem_cons.mp free
            rw [List.map_cons, List.cons.injEq, List.cons.injEq, char_eq_iff firstFree,
              inductionHypothesis behindFree]
  rw [← String.toList_inj, lower, String.toList_ofList, list_eq_iff unlettered,
    String.toList_inj]

/-- A text with no blank at either end is not trimmed. -/
theorem trim_of_ends
    {text : String}
    (firstStays : ∀ char ∈ text.toList.head?, ¬ isBlank char = true)
    (lastStays : ∀ char ∈ text.toList.getLast?, ¬ isBlank char = true) :
    trim text = text := by
  have keeps {chars : List Char} (stays : ∀ char ∈ chars.head?, ¬ isBlank char = true) :
      chars.dropWhile isBlank = chars := by
    cases chars with
    | nil => rfl
    | cons first rest => exact List.dropWhile_cons_of_neg (stays first rfl)
  rw [← List.head?_reverse] at lastStays
  rw [trim, trimBoth, keeps firstStays, keeps lastStays, List.reverse_reverse,
    String.ofList_toList]

/-- The text is the core with blanks around it. -/
def IsPadded (core text : String) : Prop :=
  ∃ left right, text.toList = left ++ core.toList ++ right ∧
    ∀ char ∈ left ++ right, isBlank char = true

theorem isPadded_trim (text : String) : IsPadded (trim text) text := by
  obtain ⟨left, right, shape, blank⟩ := exists_eq_around_trimBoth isBlank text.toList
  exact ⟨left, right, by rwa [trim, String.toList_ofList], blank⟩

theorem IsPadded.trim_eq
    {core text : String}
    (padded : IsPadded core text) :
    trim text = trim core := by
  obtain ⟨left, right, shape, blank⟩ := padded
  rw [trim, shape, trimBoth_around blank, trim]

/-- The carriage return that ends a line is a blank. -/
theorem trim_withoutReturn (line : List Char) :
    trim (String.ofList (withoutReturn line)) = trim (String.ofList line) := by
  unfold withoutReturn
  split
  · next ends =>
      obtain ⟨front, rfl⟩ := List.getLast?_eq_some_iff.mp ends
      have padded : IsPadded (String.ofList front) (String.ofList (front ++ ['\r'])) :=
        ⟨[], ['\r'], by simp, List.forall_mem_singleton.mpr (by decide)⟩
      rw [List.dropLast_concat, padded.trim_eq]
  · rfl

/-- Two texts differ at most in outer blanks and the case of ASCII letters. -/
def Restyles (first second : String) : Prop :=
  ∃ core other, IsPadded core first ∧ IsPadded other second ∧
    sameIgnoringCase core other = true

/-- Texts agree, trimmed and in lower case, exactly if they differ at most in that. -/
theorem lower_trim_eq_iff {first second : String} :
    lower (trim first) = lower (trim second) ↔ Restyles first second := by
  constructor
  · intro same
    exact ⟨_, _, isPadded_trim first, isPadded_trim second,
      sameIgnoringCase_iff_lower.mpr same⟩
  · rintro ⟨core, other, isFirst, isSecond, same⟩
    rw [isFirst.trim_eq, isSecond.trim_eq, lower_trim, lower_trim,
      sameIgnoringCase_iff_lower.mp same]

end Text
end Gatehouse
