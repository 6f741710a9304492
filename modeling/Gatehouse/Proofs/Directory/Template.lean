import Gatehouse.Directory.Filter
import Gatehouse.Proofs.Text.Octets
import Gatehouse.Proofs.Text.Splitting
import Gatehouse.Text.Ascii

/-!
# Templates of assertions

A template is a sequence of characters and holes, and so is a value that has been read
from one. A word that stands for octets can be put into the holes: it has none of the
characters that mean something in a filter, and is read as its octets whatever follows.
A letter is such a word, and so is the escaped form of every value that is not empty.
What a template of an assertion is read as does not depend on the word, but for its
octets in the holes.
-/

namespace Gatehouse
namespace Filter

/-! ## Holes -/

section Holes

variable {α β : Type}

/-- Put a word into each hole. -/
def plug (word : List α) : List (Option α) → List α
  | [] => []
  | none :: rest => word ++ plug word rest
  | some item :: rest => item :: plug word rest

@[simp] theorem plug_append (word : List α) (front back : List (Option α)) :
    plug word (front ++ back) = plug word front ++ plug word back := by
  induction front with
  | nil => rfl
  | cons slot rest inductionHypothesis =>
      cases slot with
      | none => simp only [List.cons_append, plug, inductionHypothesis, List.append_assoc]
      | some item => simp only [List.cons_append, plug, inductionHypothesis]

@[simp] theorem plug_map_some (word items : List α) :
    plug word (items.map some) = items := by
  induction items with
  | nil => rfl
  | cons item rest inductionHypothesis =>
      simp only [List.map_cons, plug, inductionHypothesis]

theorem plug_singleton (item : α) (slots : List (Option α)) :
    plug [item] slots = slots.map (·.getD item) := by
  induction slots with
  | nil => rfl
  | cons slot rest inductionHypothesis =>
      cases slot <;> simp only [plug, inductionHypothesis] <;> rfl

/-- What stands in a filled template is of the template or of a word. -/
theorem mem_plug_iff {word : List α} {slots : List (Option α)} {item : α} :
    item ∈ plug word slots ↔ some item ∈ slots ∨ none ∈ slots ∧ item ∈ word := by
  induction slots with
  | nil => simp [plug]
  | cons slot rest inductionHypothesis =>
      cases slot with
      | none =>
          simp only [plug, List.mem_append, inductionHypothesis, List.mem_cons,
            reduceCtorEq, false_or, true_or, true_and]
          tauto
      | some first =>
          simp only [plug, List.mem_cons, inductionHypothesis, Option.some.injEq,
            reduceCtorEq, false_or]
          tauto

/-- A sequence in which there is no hole consists of items. -/
theorem exists_map_some_eq {slots : List (Option α)} (filled : none ∉ slots) :
    ∃ items : List α, items.map some = slots := by
  induction slots with
  | nil => exact ⟨[], rfl⟩
  | cons slot rest inductionHypothesis =>
      obtain ⟨items, rfl⟩ :=
        inductionHypothesis fun inRest => filled (List.mem_cons_of_mem _ inRest)
      cases slot with
      | none => exact absurd List.mem_cons_self filled
      | some item => exact ⟨item :: items, rfl⟩

/-- Nothing becomes empty by putting words into holes. -/
theorem plug_eq_nil_iff {word : List α} (nonempty : word ≠ []) {slots : List (Option α)} :
    plug word slots = [] ↔ slots = [] := by
  cases slots with
  | nil => simp [plug]
  | cons slot rest => cases slot <;> simp [plug, nonempty]

theorem length_plug_le {short long : List α} (shorter : short.length ≤ long.length)
    (slots : List (Option α)) :
    (plug short slots).length ≤ (plug long slots).length := by
  induction slots with
  | nil => exact Nat.le_refl _
  | cons slot rest inductionHypothesis =>
      cases slot <;> simp only [plug, List.length_append, List.length_cons] <;> omega

end Holes

/-- The characters and holes of a template. -/
def slots : List Char → List (Option Char)
  | [] => []
  | '%' :: 's' :: rest => none :: slots rest
  | char :: rest => some char :: slots rest

/-- Filling a template puts the characters into its holes. -/
theorem fill_eq_plug (word template : List Char) :
    fill word template = plug word (slots template) := by
  fun_induction slots template with
  | case1 => rfl
  | case2 rest inductionHypothesis => simp only [fill, plug, inductionHypothesis]
  | case3 char rest notHole inductionHypothesis =>
      rw [fill, plug, inductionHypothesis]
      exact notHole

theorem plug_slots (template : List Char) :
    plug ['%', 's'] (slots template) = template := by
  fun_induction slots template with
  | case1 => rfl
  | case2 rest inductionHypothesis => simp only [plug, inductionHypothesis]; rfl
  | case3 char rest notHole inductionHypothesis => rw [plug, inductionHypothesis]

/-! ## Escaped values -/

theorem unescape?_cons {char : Char} (plain : char ≠ '\\') (rest : List Char) :
    unescape? (char :: rest) =
      (unescape? rest).map (Text.Utf8.encode (String.singleton char) ++ ·) := by
  rw [unescape?]
  · rw [if_neg plain]
  · rintro high low more rfl
    exact absurd rfl plain

/-- An octet may be written as a backslash and two digits. -/
theorem unescape?_escaped
    {high low : Char}
    {highValue lowValue : Nat}
    (isHigh : Text.Hex.value? high = some highValue)
    (isLow : Text.Hex.value? low = some lowValue)
    (rest : List Char) :
    unescape? ('\\' :: high :: low :: rest) =
      (unescape? rest).map (UInt8.ofNat (highValue * 16 + lowValue) :: ·) := by
  rw [unescape?, isHigh, isLow]
  cases unescape? rest <;> rfl

/-- A backslash stands in front of two digits. -/
theorem exists_digits_of_unescape?
    {rest : List Char}
    {octets : Bytes}
    (reads : unescape? ('\\' :: rest) = some octets) :
    ∃ high low behind highValue lowValue after, rest = high :: low :: behind ∧
      Text.Hex.value? high = some highValue ∧ Text.Hex.value? low = some lowValue ∧
      unescape? behind = some after := by
  match rest with
  | [] => cases reads
  | [_] => cases reads
  | high :: low :: behind =>
      rw [unescape?] at reads
      simp only [Option.bind_eq_bind, Option.bind_eq_some_iff] at reads
      obtain ⟨highValue, isHigh, lowValue, isLow, after, isAfter, -⟩ := reads
      exact ⟨high, low, behind, highValue, lowValue, after, rfl, isHigh, isLow, isAfter⟩

/-- A character is ordinary if it means nothing in a filter. -/
def IsOrdinary (char : Char) : Prop :=
  isItemChar char = true ∧ char ≠ '*'

instance (char : Char) : Decidable (IsOrdinary char) :=
  inferInstanceAs (Decidable (_ ∧ _))

/-- An ordinary character is written as itself, any other as a backslash and digits. -/
theorem escapeChar_cases (char : Char) :
    (escapeChar char = [char] ∧ char ≠ '\\' ∧ IsOrdinary char) ∨
      ∃ high low highValue lowValue, escapeChar char = ['\\', high, low] ∧
        IsOrdinary high ∧ IsOrdinary low ∧
        Text.Hex.value? high = some highValue ∧ Text.Hex.value? low = some lowValue ∧
        Text.Utf8.encode (String.singleton char) =
          [UInt8.ofNat (highValue * 16 + lowValue)] := by
  unfold escapeChar
  split_ifs with isNull isOpen isClose isStar isBackslash
  · have isChar : char = '\x00' := Char.toNat_inj.mp isNull
    rw [isChar]
    exact .inr ⟨_, _, _, _, rfl, by decide, by decide, rfl, rfl, by decide⟩
  · rw [isOpen]
    exact .inr ⟨_, _, _, _, rfl, by decide, by decide, rfl, rfl, by decide⟩
  · rw [isClose]
    exact .inr ⟨_, _, _, _, rfl, by decide, by decide, rfl, rfl, by decide⟩
  · rw [isStar]
    exact .inr ⟨_, _, _, _, rfl, by decide, by decide, rfl, rfl, by decide⟩
  · rw [isBackslash]
    exact .inr ⟨_, _, _, _, rfl, by decide, by decide, rfl, rfl, by decide⟩
  · exact .inl ⟨rfl, isBackslash, by simp [isItemChar, isNull, isOpen, isClose], isStar⟩

/-- The escaped form of a character is read as its encoding. -/
theorem unescape?_escapeChar (char : Char) (rest : List Char) :
    unescape? (escapeChar char ++ rest) =
      (unescape? rest).map (Text.Utf8.encode (String.singleton char) ++ ·) := by
  rcases escapeChar_cases char with ⟨same, plain, -⟩ |
    ⟨high, low, highValue, lowValue, escaped, -, -, isHigh, isLow, encoded⟩
  · rw [same]
    exact unescape?_cons plain rest
  · rw [escaped, encoded]
    exact unescape?_escaped isHigh isLow rest

/-- The escaped form of a character has only ordinary characters. -/
theorem isOrdinary_of_mem_escapeChar
    {char written : Char}
    (present : written ∈ escapeChar char) :
    IsOrdinary written := by
  rcases escapeChar_cases char with ⟨same, -, ordinary⟩ |
    ⟨high, low, highValue, lowValue, escaped, highOrdinary, lowOrdinary, -⟩
  · rw [same, List.mem_singleton] at present
    rwa [present]
  · rw [escaped] at present
    simp only [List.mem_cons, List.not_mem_nil, or_false] at present
    rcases present with rfl | rfl | rfl
    · decide
    · exact highOrdinary
    · exact lowOrdinary

/-- The escaped form of a value is read as its encoding. -/
theorem unescape?_escape (value : List Char) (rest : List Char) :
    unescape? (value.flatMap escapeChar ++ rest) =
      (unescape? rest).map (Text.Utf8.encode (String.ofList value) ++ ·) := by
  induction value with
  | nil => exact Option.map_id'.symm
  | cons char others inductionHypothesis =>
      have encoded : Text.Utf8.encode (String.ofList (char :: others)) =
          Text.Utf8.encode (String.singleton char) ++
            Text.Utf8.encode (String.ofList others) := by
        rw [← Text.Utf8.encode_append]
        exact congrArg _ (String.toList_inj.mp (by simp))
      rw [List.flatMap_cons, List.append_assoc, unescape?_escapeChar, inductionHypothesis,
        encoded, Option.map_map]
      exact congrArg (Option.map · _)
        (funext fun octets => (List.append_assoc _ _ _).symm)

/-! ## Words -/

/-- A word stands for octets: its characters are ordinary and read as the octets. -/
structure Stands (word : List Char) (octets : Bytes) : Prop where
  nonempty : word ≠ []
  filled : octets ≠ []
  ordinary : ∀ char ∈ word, IsOrdinary char
  reads : ∀ rest, unescape? (word ++ rest) = (unescape? rest).map (octets ++ ·)

theorem encode_ne_nil
    {value : String}
    (nonempty : value ≠ "") :
    Text.Utf8.encode value ≠ [] :=
  fun empty => nonempty (Text.Utf8.encode_injective (empty.trans rfl))

/-- The escaped form of a value that is not empty stands for its encoding. -/
theorem stands_escape {value : String} (nonempty : value ≠ "") :
    Stands (escape value).toList (Text.Utf8.encode value) where
  nonempty := by
    intro empty
    have noRest := unescape?_escape value.toList []
    rw [escape, String.toList_ofList] at empty
    rw [empty, String.ofList_toList] at noRest
    exact encode_ne_nil nonempty
      ((List.append_nil _).symm.trans (Option.some.inj noRest).symm)
  filled := encode_ne_nil nonempty
  ordinary := by
    intro char present
    rw [escape, String.toList_ofList] at present
    obtain ⟨written, -, inside⟩ := List.mem_flatMap.mp present
    exact isOrdinary_of_mem_escapeChar inside
  reads := by
    intro rest
    rw [escape, String.toList_ofList, unescape?_escape, String.ofList_toList]

/-- A letter is ordinary, and not a backslash nor an equals sign. -/
theorem ordinary_of_isLetter {letter : Char} (isLetter : Text.isLetter letter = true) :
    IsOrdinary letter ∧ letter ≠ '\\' ∧ letter ≠ '=' := by
  have differs : ∀ other : Char, Text.isLetter other = false → letter ≠ other := by
    rintro other isOther rfl
    rw [isLetter] at isOther
    cases isOther
  have notNull : letter.toNat ≠ 0 := fun isNull =>
    differs '\x00' (by decide) (Char.toNat_inj.mp isNull)
  refine ⟨⟨?_, differs _ (by decide)⟩, differs _ (by decide), differs _ (by decide)⟩
  simp [isItemChar, differs '(' (by decide), differs ')' (by decide), notNull]

/-- A letter stands for its encoding. -/
theorem stands_letter {letter : Char} (isLetter : Text.isLetter letter = true) :
    Stands [letter] (Text.Utf8.encode (String.singleton letter)) where
  nonempty := List.cons_ne_nil _ _
  filled := encode_ne_nil (by simp)
  ordinary := by
    intro char present
    rw [List.mem_singleton.mp present]
    exact (ordinary_of_isLetter isLetter).1
  reads := fun rest => unescape?_cons (ordinary_of_isLetter isLetter).2.1 rest

/-! ## Values with holes -/

/-- The slots end inside an escape. -/
def EndsInEscape (before : List (Option Char)) : Prop :=
  ∃ front, before = front ++ [some '\\'] ∨ ∃ digit,
    before = front ++ [some '\\', some digit]

/-- No hole stands inside an escape. -/
def Unbroken (slots : List (Option Char)) : Prop :=
  ∀ before after, slots = before ++ none :: after → ¬ EndsInEscape before

/-- If no hole stands inside an escape, none does in a part of the slots. -/
theorem Unbroken.of_isInfix
    {slots part : List (Option Char)}
    (unbroken : Unbroken slots)
    (isPart : part <:+: slots) :
    Unbroken part := by
  rintro before after rfl ⟨start, ends⟩
  obtain ⟨front, back, rfl⟩ := isPart
  refine unbroken (front ++ before) (after ++ back) (by simp) ⟨front ++ start, ?_⟩
  rcases ends with rfl | ⟨digit, rfl⟩
  · exact .inl (List.append_assoc _ _ _).symm
  · exact .inr ⟨digit, (List.append_assoc _ _ _).symm⟩

theorem Unbroken.behind
    (front : List (Option Char))
    {slots : List (Option Char)}
    (unbroken : Unbroken (front ++ slots)) :
    Unbroken slots :=
  unbroken.of_isInfix (List.suffix_append front slots).isInfix

/-- A template is read as a value with the same holes, whatever is put into them. -/
structure ReadsAs
    (template : List (Option Char))
    (value : List (Option UInt8)) : Prop where
  holes : value.count none = template.count none
  reads : ∀ word octets, Stands word octets →
    unescape? (plug word template) = some (plug octets value)

/-- Slots that stand for octets in front of a template. -/
theorem ReadsAs.append
    (front : List (Option Char))
    (octets : List (Option UInt8))
    {rest : List (Option Char)}
    {value : List (Option UInt8)}
    (readsRest : ReadsAs rest value)
    (holes : octets.count none = front.count none)
    (reads : ∀ word bytes, Stands word bytes → unescape? (plug word (front ++ rest)) =
      (unescape? (plug word rest)).map (plug bytes octets ++ ·)) :
    ReadsAs (front ++ rest) (octets ++ value) where
  holes := by rw [List.count_append, List.count_append, holes, readsRest.holes]
  reads := fun word bytes stands => by
    rw [reads word bytes stands, readsRest.reads word bytes stands, Option.map_some,
      plug_append]

/-- A hole in front of a template. -/
theorem ReadsAs.hole
    {rest : List (Option Char)}
    {value : List (Option UInt8)}
    (readsRest : ReadsAs rest value) :
    ReadsAs (none :: rest) (none :: value) := by
  refine ReadsAs.append [none] [none] readsRest rfl ?_
  intro word bytes stands
  rw [List.singleton_append, plug, stands.reads, plug, plug, List.append_nil]

theorem count_none_map_some {α : Type} [DecidableEq α] (items : List α) :
    (items.map some).count none = 0 :=
  List.count_eq_zero.mpr (by simp)

/-- A character other than the backslash in front of a template. -/
theorem ReadsAs.character
    {char : Char}
    {rest : List (Option Char)}
    {value : List (Option UInt8)}
    (readsRest : ReadsAs rest value)
    (plain : char ≠ '\\') :
    ReadsAs (some char :: rest)
      ((Text.Utf8.encode (String.singleton char)).map some ++ value) := by
  refine ReadsAs.append [some char] _ readsRest ?_ ?_
  · rw [count_none_map_some]
    rfl
  · intro word bytes stands
    rw [List.singleton_append, plug, unescape?_cons plain, plug_map_some]

/-- An escape in front of a template. -/
theorem ReadsAs.escape
    {high low : Char}
    {highValue lowValue : Nat}
    {rest : List (Option Char)}
    {value : List (Option UInt8)}
    (readsRest : ReadsAs rest value)
    (isHigh : Text.Hex.value? high = some highValue)
    (isLow : Text.Hex.value? low = some lowValue) :
    ReadsAs (some '\\' :: some high :: some low :: rest)
      (some (UInt8.ofNat (highValue * 16 + lowValue)) :: value) := by
  refine ReadsAs.append [some '\\', some high, some low]
    [some (UInt8.ofNat (highValue * 16 + lowValue))] readsRest (by simp) ?_
  intro word bytes stands
  exact unescape?_escaped isHigh isLow _

variable {letter : Char}

/-- A template that is read as a value with a letter in its holes is one. -/
theorem exists_readsAs
    (isLetter : Text.isLetter letter = true)
    {template : List (Option Char)}
    (unbroken : Unbroken template)
    (readable : (unescape? (plug [letter] template)).isSome = true) :
    ∃ value, ReadsAs template value := by
  induction length : template.length using Nat.strongRecOn generalizing template with
  | ind size inductionHypothesis =>
  obtain ⟨sample, reads⟩ := Option.isSome_iff_exists.mp readable
  match template with
  | [] => exact ⟨[], rfl, fun word octets _ => rfl⟩
  | none :: rest =>
      rw [plug, (stands_letter isLetter).reads] at readable
      have shorter : rest.length < size := by rw [← length]; exact Nat.lt_succ_self _
      obtain ⟨value, readsRest⟩ := inductionHypothesis rest.length shorter
        (unbroken.behind [none]) (by simpa using readable) rfl
      exact ⟨_, readsRest.hole⟩
  | some char :: rest =>
      by_cases isBackslash : char = '\\'
      · subst isBackslash
        rw [plug] at reads
        obtain ⟨high, low, behind, highValue, lowValue, after, shape, isHigh, isLow,
            readsBehind⟩ :=
          exists_digits_of_unescape? reads
        match rest with
        | [] => cases shape
        | none :: more => exact absurd ⟨[], .inl rfl⟩ (unbroken [some '\\'] more rfl)
        | [some first] => cases shape
        | some first :: none :: more =>
            exact absurd ⟨[], .inr ⟨first, rfl⟩⟩
              (unbroken [some '\\', some first] more rfl)
        | some first :: some second :: more =>
            simp only [plug, List.cons.injEq] at shape
            obtain ⟨rfl, rfl, rfl⟩ := shape
            have shorter : more.length < size := by
              rw [← length]
              simp only [List.length_cons]
              omega
            have unbrokenMore := unbroken.behind [some '\\', some first, some second]
            obtain ⟨value, readsRest⟩ := inductionHypothesis more.length
              shorter unbrokenMore (by rw [readsBehind]; rfl) rfl
            exact ⟨_, readsRest.escape isHigh isLow⟩
      · rw [plug, unescape?_cons isBackslash] at readable
        have shorter : rest.length < size := by rw [← length]; exact Nat.lt_succ_self _
        obtain ⟨value, readsRest⟩ := inductionHypothesis rest.length shorter
          (unbroken.behind [some char]) (by simpa using readable) rfl
        exact ⟨_, readsRest.character isBackslash⟩

end Filter
end Gatehouse
