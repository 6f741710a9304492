import Gatehouse.Proofs.Text.Octets
import Gatehouse.Proofs.Url.Percent
import Gatehouse.Proofs.Url.Punycode
import Mathlib.Data.Bool.AllAny
import Mathlib.Tactic.Common

/-!
# Looking up a name that has been looked up

The form in which a name is looked up is a name of its own, and it is looked up in the
same form: its characters are in lower case already, its labels outside ASCII are marked
and read back, and the others stay as they are.
-/

namespace Gatehouse
namespace DomainName

open Text

/-- Whether a code point is the usual form of itself. -/
def IsUsual (code : Nat) : Prop :=
  if code < 0x80 then ¬ (0x41 ≤ code ∧ code ≤ 0x5A)
  else
    code ≠ 0xAD ∧ code ≠ 0x200B ∧ code ≠ 0x2060 ∧ code ≠ 0xFEFF
    ∧ ¬ (0xC0 ≤ code ∧ code ≤ 0xDE ∧ code ≠ 0xD7)
    ∧ ¬ (0x100 ≤ code ∧ code ≤ 0x137 ∧ code % 2 = 0 ∧ code ≠ 0x130)
    ∧ ¬ (0x139 ≤ code ∧ code ≤ 0x148 ∧ code % 2 = 1)
    ∧ ¬ (0x14A ≤ code ∧ code ≤ 0x177 ∧ code % 2 = 0)
    ∧ code ≠ 0x178
    ∧ ¬ (0x179 ≤ code ∧ code ≤ 0x17E ∧ code % 2 = 1)
    ∧ ¬ (0x391 ≤ code ∧ code ≤ 0x3AB ∧ code ≠ 0x3A2)
    ∧ ¬ (0x400 ≤ code ∧ code ≤ 0x42F)
    ∧ ¬ (0x531 ≤ code ∧ code ≤ 0x556)
    ∧ code ≠ 0x3002 ∧ code ≠ 0xFF0E ∧ code ≠ 0xFF61
    ∧ ¬ (0xFF01 ≤ code ∧ code ≤ 0xFF5E)

/-- A small letter of ASCII, or any other character of ASCII that is not a letter. -/
theorem toNat_lowerAscii
    {char : Char}
    (ascii : char.toNat < 0x80) :
    (lowerAscii char).toNat < 0x80 ∧
      ¬ (0x41 ≤ (lowerAscii char).toNat ∧ (lowerAscii char).toNat ≤ 0x5A) := by
  unfold lowerAscii
  split
  · rename_i capital
    have lower : 0x41 ≤ char.toNat := capital.1
    have upper : char.toNat ≤ 0x5A := capital.2
    rw [toNat_ofNat_of_lt (by omega)]
    omega
  · rename_i notCapital
    exact ⟨ascii, notCapital⟩

theorem isUsual_lowerAscii
    {char : Char}
    (ascii : char.toNat < 0x80) :
    IsUsual (lowerAscii char).toNat := by
  obtain ⟨stillAscii, notCapital⟩ := toNat_lowerAscii ascii
  unfold IsUsual
  rw [if_pos stillAscii]
  exact notCapital

/-- Where a list depends on a condition, its items are from the one or the other. -/
theorem of_mem_ite
    {α : Type}
    {condition : Prop}
    [Decidable condition]
    {item : α}
    {first second : List α}
    (present : item ∈ if condition then first else second) :
    (condition ∧ item ∈ first) ∨ (¬ condition ∧ item ∈ second) := by
  by_cases holds : condition
  · exact .inl ⟨holds, by rwa [if_pos holds] at present⟩
  · exact .inr ⟨holds, by rwa [if_neg holds] at present⟩

/-- A character whose number is that of a usual form is in its usual form. -/
theorem isUsual_of_mem_ofNat
    {code : Nat}
    {written : Char}
    (present : written ∈ [Char.ofNat code])
    (small : code < 0xD800)
    (usual : IsUsual code) :
    IsUsual written.toNat := by
  rw [List.mem_singleton.mp present, toNat_ofNat_of_lt small]
  exact usual

/-- A full-width form becomes a character of ASCII. -/
theorem isUsual_of_mem_lowerAscii
    {code : Nat}
    {written : Char}
    (present : written ∈ [lowerAscii (Char.ofNat code)])
    (small : code < 0x80) :
    IsUsual written.toNat := by
  rw [List.mem_singleton.mp present]
  apply isUsual_lowerAscii
  rwa [toNat_ofNat_of_lt (Nat.lt_trans small (by decide))]

/-- What becomes of a character is in its usual form. -/
theorem isUsual_of_mem_mapChar
    {char written : Char}
    (present : written ∈ mapChar char) :
    IsUsual written.toNat := by
  unfold mapChar at present
  simp only at present
  rcases of_mem_ite present with ⟨ascii, present⟩ | ⟨notAscii, present⟩
  · rw [List.mem_singleton.mp present]
    exact isUsual_lowerAscii ascii
  rcases of_mem_ite present with ⟨-, present⟩ | ⟨notLeftOut, present⟩
  · cases present
  rcases of_mem_ite present with ⟨latin, present⟩ | ⟨notLatin, present⟩
  · exact isUsual_of_mem_ofNat present (by omega) (by unfold IsUsual; split <;> omega)
  rcases of_mem_ite present with ⟨even, present⟩ | ⟨notEven, present⟩
  · exact isUsual_of_mem_ofNat present (by omega) (by unfold IsUsual; split <;> omega)
  rcases of_mem_ite present with ⟨odd, present⟩ | ⟨notOdd, present⟩
  · exact isUsual_of_mem_ofNat present (by omega) (by unfold IsUsual; split <;> omega)
  rcases of_mem_ite present with ⟨further, present⟩ | ⟨notFurther, present⟩
  · exact isUsual_of_mem_ofNat present (by omega) (by unfold IsUsual; split <;> omega)
  rcases of_mem_ite present with ⟨-, present⟩ | ⟨notDiaeresis, present⟩
  · exact isUsual_of_mem_ofNat present (by omega) (by unfold IsUsual; split <;> omega)
  rcases of_mem_ite present with ⟨last, present⟩ | ⟨notLast, present⟩
  · exact isUsual_of_mem_ofNat present (by omega) (by unfold IsUsual; split <;> omega)
  rcases of_mem_ite present with ⟨greek, present⟩ | ⟨notGreek, present⟩
  · exact isUsual_of_mem_ofNat present (by omega) (by unfold IsUsual; split <;> omega)
  rcases of_mem_ite present with ⟨serbian, present⟩ | ⟨notSerbian, present⟩
  · exact isUsual_of_mem_ofNat present (by omega) (by unfold IsUsual; split <;> omega)
  rcases of_mem_ite present with ⟨russian, present⟩ | ⟨notRussian, present⟩
  · exact isUsual_of_mem_ofNat present (by omega) (by unfold IsUsual; split <;> omega)
  rcases of_mem_ite present with ⟨armenian, present⟩ | ⟨notArmenian, present⟩
  · exact isUsual_of_mem_ofNat present (by omega) (by unfold IsUsual; split <;> omega)
  rcases of_mem_ite present with ⟨-, present⟩ | ⟨notStop, present⟩
  · rw [List.mem_singleton.mp present]
    exact @isUsual_lowerAscii '.' (by decide)
  rcases of_mem_ite present with ⟨wide, present⟩ | ⟨notWide, present⟩
  · exact isUsual_of_mem_lowerAscii present (by omega)
  rw [List.mem_singleton.mp present]
  unfold IsUsual
  rw [if_neg notAscii]
  omega

/-- A character in its usual form is left alone. -/
theorem mapChar_of_isUsual
    {char : Char}
    (usual : IsUsual char.toNat) :
    mapChar char = [char] := by
  unfold IsUsual at usual
  unfold mapChar
  simp only
  split at usual
  · rename_i ascii
    rw [if_pos ascii]
    unfold lowerAscii
    rw [if_neg]
    exact usual
  · rename_i notAscii
    obtain ⟨_, _, _, _, _, _, _, _, _, _, _, _, _, _, _, _, _⟩ := usual
    rw [if_neg notAscii]
    repeat rw [if_neg (by omega)]

/-- Characters that are left alone are left alone together. -/
theorem flatMap_mapChar
    {chars : List Char}
    (usual : ∀ char ∈ chars, IsUsual char.toNat) :
    chars.flatMap mapChar = chars := by
  induction chars with
  | nil => rfl
  | cons char rest inductionHypothesis =>
      obtain ⟨first, others⟩ := List.forall_mem_cons.mp usual
      rw [List.flatMap_cons, mapChar_of_isUsual first, inductionHypothesis others]
      rfl

/-- A character that may stand in a label of a name that is looked up. -/
structure IsLabelChar (char : Char) : Prop where
  usual : IsUsual char.toNat
  allowed : isForbidden char = false
  noStop : char ≠ '.'

/-- Characters of ASCII that are no capitals, and are not excluded, may stand in a
label. -/
theorem isLabelChar_of_small
    {char : Char}
    (small : char.toNat < 0x80 ∧ ¬ (0x41 ≤ char.toNat ∧ char.toNat ≤ 0x5A))
    (allowed : isForbidden char = false ∧ char ≠ '.') :
    IsLabelChar char := by
  refine ⟨?_, allowed.1, allowed.2⟩
  unfold IsUsual
  rw [if_pos small.1]
  exact small.2

/-- Digits may stand in a label. -/
theorem isLabelChar_of_isDigit
    {char : Char}
    (isDigit : IsDigit char) :
    char.toNat < 0x80 ∧ IsLabelChar char := by
  obtain ⟨value, inRange, rfl⟩ := isDigit
  have small : ∀ value < 36,
      (digit value).toNat < 0x80 ∧
      ¬ (0x41 ≤ (digit value).toNat ∧ (digit value).toNat ≤ 0x5A) := by
    decide
  have allowed : ∀ value < 36, isForbidden (digit value) = false ∧
      digit value ≠ '.' := by decide
  exact ⟨(small value inRange).1,
    isLabelChar_of_small (small value inRange) (allowed value inRange)⟩

/-- The characters of the mark may stand in a label. -/
theorem isLabelChar_of_mem_mark
    {char : Char}
    (present : char ∈ mark) :
    char.toNat < 0x80 ∧ IsLabelChar char := by
  have small :
      ∀ char ∈ mark, char.toNat < 0x80 ∧ ¬ (0x41 ≤ char.toNat ∧ char.toNat ≤ 0x5A) :=
    List.all_iff_forall_prop.mp (by decide)
  have allowed : ∀ char ∈ mark, isForbidden char = false ∧ char ≠ '.' :=
    List.all_iff_forall_prop.mp (by decide)
  exact ⟨(small char present).1,
    isLabelChar_of_small (small char present) (allowed char present)⟩

/-- A label of ASCII is its own form. -/
theorem labelToAscii?_eq_of_ascii
    {label written : List Char}
    (ascii : label.all (fun char => decide (char.toNat < 0x80)) = true)
    (found : labelToAscii? label = some written) :
    written = label := by
  unfold labelToAscii? at found
  rw [if_pos ascii] at found
  split at found
  · exact (Option.some.inj found).symm
  · split at found
    · cases found
    · split at found
      · cases found
      · split at found
        · exact (Option.some.inj found).symm
        · cases found

/-- A label that is marked is read back, and so it is its own form. -/
theorem labelToAscii?_mark
    {label : List Char}
    (notAscii : ¬ label.all (fun char => decide (char.toNat < 0x80)) = true)
    (admitted : label.all isAdmitted = true)
    (usual : ∀ char ∈ label, IsUsual char.toNat) :
    labelToAscii? (mark ++ punycode label) = some (mark ++ punycode label) := by
  have ascii :
      (mark ++ punycode label).all (fun char => decide (char.toNat < 0x80)) = true := by
    rw [List.all_eq_true]
    intro char present
    rcases List.mem_append.mp present with inMark | inCode
    · exact decide_eq_true (isLabelChar_of_mem_mark inMark).1
    · rcases mem_punycode inCode with ⟨-, isAscii⟩ | rfl | isDigit
      · exact decide_eq_true isAscii
      · rfl
      · exact decide_eq_true (isLabelChar_of_isDigit isDigit).1
  have characters : (label.map Char.toNat).map Char.ofNat = label := by
    rw [List.map_map]
    exact (List.map_congr_left fun char _ => Char.ofNat_toNat char).trans
      (List.map_id label)
  have outside :
      ¬ ((label.map Char.toNat).all (fun code => decide (code < 0x80)) = true) := by
    rw [List.all_map]
    exact notAscii
  have allAdmitted :
      (label.map Char.toNat).all (fun code => isAdmitted (Char.ofNat code)) = true := by
    rw [List.all_eq_true]
    intro code present
    obtain ⟨char, isOwn, rfl⟩ := List.mem_map.mp present
    rw [Char.ofNat_toNat]
    exact List.all_eq_true.mp admitted char isOwn
  unfold labelToAscii?
  rw [if_pos ascii, afterStart?_eq_some_iff.mpr rfl]
  simp only [ofPunycode?_punycode]
  rw [if_neg, if_pos]
  · rw [characters, flatMap_mapChar usual]
  · simp only [Bool.or_eq_true, Bool.not_eq_true', allAdmitted, Bool.true_eq_false,
      or_false]
    exact outside

/-- The form of a label is its own form, and of characters for labels. -/
theorem labelToAscii?_idempotent
    {label written : List Char}
    (labelChars : ∀ char ∈ label, IsLabelChar char)
    (found : labelToAscii? label = some written) :
    labelToAscii? written = some written ∧ ∀ char ∈ written, IsLabelChar char := by
  by_cases ascii : label.all (fun char => decide (char.toNat < 0x80)) = true
  · obtain rfl := labelToAscii?_eq_of_ascii ascii found
    exact ⟨found, labelChars⟩
  · unfold labelToAscii? at found
    rw [if_neg ascii] at found
    split at found
    · rename_i admitted
      rw [← Option.some.inj found]
      refine ⟨labelToAscii?_mark ascii admitted
        fun char present => (labelChars char present).usual, ?_⟩
      intro char present
      rcases List.mem_append.mp present with inMark | inCode
      · exact (isLabelChar_of_mem_mark inMark).2
      · rcases mem_punycode inCode with ⟨isOwn, -⟩ | rfl | isDigit
        · exact labelChars char isOwn
        · exact (isLabelChar_of_mem_mark (by decide)).2
        · exact (isLabelChar_of_isDigit isDigit).2
    · cases found

/-- What holds of the results of a function holds of all results together. -/
theorem forall_of_mapM_eq_some
    {α β : Type}
    {function : α → Option β}
    {items : List α}
    {results : List β}
    (all : items.mapM function = some results) :
    results.length = items.length ∧
      ∀ result ∈ results, ∃ item ∈ items, function item = some result := by
  induction items generalizing results with
  | nil =>
      rw [List.mapM_nil] at all
      obtain rfl := Option.some.inj all
      exact ⟨rfl, nofun⟩
  | cons item rest inductionHypothesis =>
      rw [List.mapM_cons] at all
      obtain ⟨first, isFirst, all⟩ := Option.bind_eq_some_iff.mp all
      obtain ⟨others, areOthers, all⟩ := Option.bind_eq_some_iff.mp all
      obtain rfl := Option.some.inj all
      obtain ⟨sameLength, inductionHypothesis⟩ := inductionHypothesis areOthers
      refine ⟨congrArg Nat.succ sameLength, ?_⟩
      intro result present
      rcases List.mem_cons.mp present with rfl | present
      · exact ⟨item, List.mem_cons_self, isFirst⟩
      · obtain ⟨source, isSource, found⟩ := inductionHypothesis result present
        exact ⟨source, List.mem_cons_of_mem item isSource, found⟩

/-- Items that a function leaves alone are left alone together. -/
theorem mapM_of_fixed
    {α : Type}
    {function : α → Option α}
    {items : List α}
    (fixed : ∀ item ∈ items, function item = some item) :
    items.mapM function = some items := by
  induction items with
  | nil => rfl
  | cons item rest inductionHypothesis =>
      obtain ⟨first, others⟩ := List.forall_mem_cons.mp fixed
      rw [List.mapM_cons, first, inductionHypothesis others]
      rfl

/-- Labels that are their own forms, with characters that may stand in a label. -/
structure AreForms (labels : List (List Char)) : Prop where
  nonempty : labels ≠ []
  forms : ∀ label ∈ labels, labelToAscii? label = some label
  labelChars : ∀ label ∈ labels, ∀ char ∈ label, IsLabelChar char

/-- A name that is looked up consists of labels that are their own forms. -/
theorem exists_areForms_of_toAscii?
    {octets : Bytes}
    {name : String}
    (found : toAscii? octets = some name) :
    ∃ labels, AreForms labels ∧ name = String.ofList (List.intercalate ['.'] labels) := by
  unfold toAscii? at found
  obtain ⟨text, -, found⟩ := Option.bind_eq_some_iff.mp found
  simp only at found
  split at found
  · cases found
  rename_i allowed
  obtain ⟨labels, areLabels, found⟩ := Option.bind_eq_some_iff.mp found
  obtain ⟨sameLength, areForms⟩ := forall_of_mapM_eq_some areLabels
  have idempotent : ∀ label ∈ labels,
      labelToAscii? label = some label ∧ ∀ char ∈ label, IsLabelChar char := by
    intro label present
    obtain ⟨source, isSource, isForm⟩ := areForms label present
    refine labelToAscii?_idempotent ?_ isForm
    intro char isChar
    obtain ⟨inMapped, noStop⟩ := mem_and_ne_of_mem_splitEvery isSource isChar
    obtain ⟨original, -, isMapped⟩ := List.mem_flatMap.mp inMapped
    refine ⟨isUsual_of_mem_mapChar isMapped, ?_, noStop⟩
    exact Bool.eq_false_iff.mpr fun forbidden =>
      allowed (List.any_eq_true.mpr ⟨char, inMapped, forbidden⟩)
  refine ⟨labels, ⟨?_, fun label isLabel => (idempotent label isLabel).1,
    fun label isLabel => (idempotent label isLabel).2⟩, (Option.some.inj found).symm⟩
  intro none
  rw [none, List.length_nil] at sameLength
  exact splitEvery_ne_nil _ _ (List.length_eq_zero_iff.mp sameLength.symm)

namespace AreForms

variable {labels : List (List Char)}

/-- The characters of a name are not excluded. -/
theorem isUsual_and_allowed
    (areForms : AreForms labels)
    {char : Char}
    (present : char ∈ List.intercalate ['.'] labels) :
    IsUsual char.toNat ∧ isForbidden char = false := by
  rcases mem_of_mem_intercalate present with rfl | ⟨label, isLabel, inLabel⟩
  · exact ⟨@isUsual_lowerAscii '.' (by decide), by decide⟩
  · have labelChar := areForms.labelChars label isLabel char inLabel
    exact ⟨labelChar.usual, labelChar.allowed⟩

theorem splitEvery_name (areForms : AreForms labels) :
    splitEvery '.' (List.intercalate ['.'] labels) = labels := by
  apply splitEvery_intercalate areForms.nonempty
  intro label isLabel present
  exact (areForms.labelChars label isLabel '.' present).noStop rfl

/-- A name of labels that are their own forms is looked up as it is. -/
theorem toAscii?_name (areForms : AreForms labels) :
    toAscii? (Utf8.encode (String.ofList (List.intercalate ['.'] labels)))
      = some (String.ofList (List.intercalate ['.'] labels)) := by
  have unchanged :=
    flatMap_mapChar fun _ present => (areForms.isUsual_and_allowed present).1
  have allowed : ¬ (List.intercalate ['.'] labels).any isForbidden = true := by
    intro forbidden
    obtain ⟨char, present, isForbidden⟩ := List.any_eq_true.mp forbidden
    rw [(areForms.isUsual_and_allowed present).2] at isForbidden
    cases isForbidden
  unfold toAscii?
  rw [Utf8.decode?_encode]
  simp only [Option.bind_eq_bind, Option.bind_some, String.toList_ofList, unchanged]
  rw [if_neg allowed, areForms.splitEvery_name, mapM_of_fixed areForms.forms,
    Option.bind_some]

end AreForms

end DomainName
end Gatehouse
