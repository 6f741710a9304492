import Gatehouse.Http.Request
import Gatehouse.Proofs.Text.Decimal
import Gatehouse.Proofs.Text.Octets
import Gatehouse.Proofs.Http.Fields
import Gatehouse.Time.Date
import Mathlib.Data.Bool.AllAny
import Mathlib.Data.List.Basic
import Mathlib.Tactic.Common

/-!
# Texts that can stand in a field

A text can stand in a field if its parts can, and if all of its characters are visible.
Dates are such texts, and so is the server that a client addresses, whether it is named in
a field or in the target of a request.
-/

namespace Gatehouse
namespace Headers

/-- Whether a text can stand in a field. -/
def IsText (text : String) : Prop :=
  (value? text).isSome = true

instance (text : String) : Decidable (IsText text) :=
  inferInstanceAs (Decidable (_ = true))

/-- A text can stand in a field if every octet of it can. -/
theorem isText_iff (text : String) :
    IsText text ↔ ∀ octet ∈ Text.Utf8.encode text, isValueOctet octet = true := by
  rw [← List.all_eq_true]
  unfold IsText value?
  by_cases valid : (Text.Utf8.encode text).all isValueOctet = true
  · simp [valid]
  · simp [valid]

theorem isText_append (first second : String) :
    IsText (first ++ second) ↔ IsText first ∧ IsText second := by
  simp only [isText_iff, Text.Utf8.encode_append, List.mem_append, or_imp, forall_and]

theorem isText_empty : IsText "" := by
  decide

/-- A text of characters of another one fits a field if the other does. -/
theorem isText_of_subset
    {whole part : String}
    (wholeIsText : IsText whole)
    (subset : ∀ char ∈ part.toList, char ∈ whole.toList) :
    IsText part := by
  rw [isText_iff, Text.Utf8.encode_eq_flatMap] at wholeIsText ⊢
  intro octet present
  obtain ⟨char, isChar, inChar⟩ := List.mem_flatMap.mp present
  exact wholeIsText octet (List.mem_flatMap.mpr ⟨char, subset char isChar, inChar⟩)

/-- Whether a character is a tab, a space or a visible character of ASCII. -/
def IsVisible (char : Char) : Prop :=
  char.toNat = 9 ∨ (32 ≤ char.toNat ∧ char.toNat < 127)

instance (char : Char) : Decidable (IsVisible char) :=
  inferInstanceAs (Decidable (_ ∨ _))

theorem IsVisible.ascii
    {char : Char}
    (visible : IsVisible char) :
    char.toNat ≤ 0x7F := by
  rcases visible with tab | ⟨-, upper⟩ <;> omega

/-- What holds of the characters of tokens below a limit holds of all characters of
tokens. -/
theorem of_isTokenChar
    {holds : Char → Prop}
    (below : ∀ code < 127,
      Text.isTokenChar (Char.ofNat code) = true → holds (Char.ofNat code))
    {char : Char}
    (isToken : Text.isTokenChar char = true) :
    holds char := by
  have bounded : char.toNat < 127 := by
    have signs : ∀ sign ∈ "!#$%&'*+-.^_|~\x60".toList, sign.toNat < 127 :=
      List.all_iff_forall_prop.mp (by decide)
    simp only [Text.isTokenChar, Text.isDigit, Text.isLetter, Bool.or_eq_true,
      Bool.and_eq_true, decide_eq_true_eq, Char.le_def, UInt32.le_iff_toNat_le,
      List.contains_iff_mem] at isToken
    rcases isToken with alphanumeric | isSign
    · change (48 ≤ char.toNat ∧ char.toNat ≤ 57) ∨ (97 ≤ char.toNat ∧ char.toNat ≤ 122) ∨
        (65 ≤ char.toNat ∧ char.toNat ≤ 90) at alphanumeric
      omega
    · exact signs char isSign
  have found := below char.toNat bounded
  rw [Char.ofNat_toNat] at found
  exact found isToken

theorem encode_of_visible
    {text : String}
    (visible : ∀ char ∈ text.toList, IsVisible char) :
    Text.Utf8.encode text = text.toList.map fun char => UInt8.ofNat char.toNat :=
  Text.Utf8.encode_of_ascii fun char present => (visible char present).ascii

/-- The octet of a visible character may stand in a text, and is its alone. -/
theorem isTextOctet_of_isVisible
    {char : Char}
    (visible : IsVisible char) :
    isTextOctet (UInt8.ofNat char.toNat) = true ∧
      Char.ofNat (UInt8.ofNat char.toNat).toNat = char := by
  have all :
      ∀ code < 127, code = 9 ∨ 32 ≤ code → isTextOctet (UInt8.ofNat code) = true := by
    decide
  have small : char.toNat < UInt8.size := Nat.lt_of_le_of_lt visible.ascii (by decide)
  refine ⟨?_, ?_⟩
  · rcases visible with tab | ⟨lower, upper⟩
    · exact all _ (by omega) (Or.inl tab)
    · exact all _ upper (Or.inr lower)
  · rw [UInt8.toNat_ofNat_of_lt' small, Char.ofNat_toNat]

/-- An octet that can stand in a text can stand in a field. -/
theorem isValueOctet_of_isTextOctet
    {octet : UInt8}
    (isText : isTextOctet octet = true) :
    isValueOctet octet = true := by
  simp only [isTextOctet, isValueOctet, Bool.or_eq_true, Bool.and_eq_true,
    decide_eq_true_eq, beq_iff_eq, bne_iff_ne] at isText ⊢
  rcases isText with ⟨lower, upper⟩ | tab
  · exact .inl ⟨lower, fun isLast => absurd (isLast ▸ upper) (by decide)⟩
  · exact .inr tab

/-- A text of visible characters can stand in a field. -/
theorem isText_of_visible
    {text : String}
    (visible : ∀ char ∈ text.toList, IsVisible char) :
    IsText text := by
  rw [isText_iff, encode_of_visible visible]
  intro octet present
  obtain ⟨char, isChar, rfl⟩ := List.mem_map.mp present
  exact isValueOctet_of_isTextOctet (isTextOctet_of_isVisible (visible char isChar)).1

/-- A text of visible characters is the text of its encoding. -/
theorem text?_encode
    {text : String}
    (visible : ∀ char ∈ text.toList, IsVisible char) :
    text? (Text.Utf8.encode text) = some text := by
  have allText :
      (text.toList.map fun char => UInt8.ofNat char.toNat).all isTextOctet = true := by
    rw [List.all_map]
    exact List.all_eq_true.mpr fun char present =>
      (isTextOctet_of_isVisible (visible char present)).1
  have readBack :
      (text.toList.map fun char => Char.ofNat (UInt8.ofNat char.toNat).toNat) =
      text.toList := by
    conv_rhs => rw [← List.map_id text.toList]
    exact List.map_congr_left fun char present =>
      (isTextOctet_of_isVisible (visible char present)).2
  unfold text?
  rw [encode_of_visible visible, if_pos allText, List.map_map]
  exact congrArg some (String.toList_inj.mp (String.toList_ofList.trans readBack))

/-- Octets are written in visible characters. -/
theorem visible_base64
    (scheme : Text.Base64.Scheme)
    (octets : Bytes) :
    ∀ char ∈ (Text.Base64.text scheme octets).toList, IsVisible char := by
  have alphabetVisible : ∀ value < 64, IsVisible (scheme.alphabet.character value) := by
    cases scheme.alphabet <;> decide
  intro char present
  unfold Text.Base64.text at present
  rw [String.toList_ofList] at present
  rcases Text.Base64.mem_encode present with rfl | ⟨value, bounded, rfl⟩
  · decide
  · exact alphabetVisible value bounded

/-- The text of a value consists of visible characters. -/
theorem visible_of_text?
    {value : Bytes}
    {text : String}
    (isText : text? value = some text) :
    ∀ char ∈ text.toList, IsVisible char := by
  unfold text? at isText
  split at isText
  · rename_i allText
    rw [← Option.some.inj isText, String.toList_ofList]
    intro char present
    obtain ⟨octet, isOctet, rfl⟩ := List.mem_map.mp present
    have valid := List.all_eq_true.mp allText octet isOctet
    have bounded := octet.toNat_lt
    unfold IsVisible
    rw [Text.toNat_ofNat_of_lt (by omega)]
    simp only [isTextOctet, Bool.or_eq_true, Bool.and_eq_true, decide_eq_true_eq,
      beq_iff_eq, UInt8.le_iff_toNat_le, UInt8.lt_iff_toNat_lt,
      ← UInt8.toNat_inj] at valid
    exact valid.symm
  · cases isText

theorem visible_of_firstText?
    {headers : Headers}
    {name text : String}
    (found : headers.firstText? name = some text) :
    ∀ char ∈ text.toList, IsVisible char := by
  obtain ⟨value, -, isText⟩ := Option.bind_eq_some_iff.mp found
  exact visible_of_text? isText

end Headers

namespace Date

open Headers

/-- The literal of a number can stand in a field. -/
theorem isText_integer (value : Int) : IsText (Text.Decimal.integer value) := by
  apply isText_of_visible
  intro char present
  rcases Text.Decimal.isNumeral_of_mem_integer present with isDigit | rfl | rfl
  · obtain ⟨lower, upper⟩ := (Text.isDigit_iff_toNat char).mp isDigit
    exact Or.inr ⟨by omega, by omega⟩
  · exact Or.inr (by decide)
  · exact Or.inr (by decide)

theorem isText_twoDigits (value : Nat) : IsText (twoDigits value) := by
  have plain : IsText (Text.Decimal.natural value) := isText_integer value
  unfold twoDigits
  split
  · exact (isText_append _ _).mpr ⟨by decide, plain⟩
  · exact plain

/-- An entry of a list of names, or none, fits a field if all do. -/
theorem isText_getD
    {names : List String}
    (allText : ∀ name ∈ names, IsText name)
    (index : Nat) :
    IsText (names.getD index "") := by
  rw [List.getD_eq_getElem?_getD]
  cases found : names[index]? with
  | none => decide
  | some name => exact allText name (List.mem_of_getElem? found)

/-- The form of a date can stand in a field. -/
theorem isText_text (date : Date) : IsText date.text := by
  have weekday : IsText (weekdayNames.getD date.weekday "") :=
    isText_getD (by decide) _
  have month : IsText (monthNames.getD (date.month - 1) "") :=
    isText_getD (by decide) _
  unfold text
  simp only [isText_append, weekday, month, isText_twoDigits, isText_integer, true_and,
    and_true]
  decide

end Date

namespace RequestTarget

open Headers

/-- A character that may stand in the name of a server is visible. -/
theorem isVisible_of_isAuthorityChar
    {char : Char}
    (isAuthorityChar : isAuthorityChar char = true) :
    IsVisible char := by
  have signsVisible : ∀ sign ∈ "!$&'()*+,-.:;=@[]_~".toList, IsVisible sign :=
    List.all_iff_forall_prop.mp (by decide)
  simp only [RequestTarget.isAuthorityChar, Bool.or_eq_true,
    List.contains_iff_mem] at isAuthorityChar
  rcases isAuthorityChar with (isLetter | isDigit) | isSign
  · simp only [Text.isLetter, Bool.or_eq_true, Bool.and_eq_true, decide_eq_true_eq,
      Char.le_def, UInt32.le_iff_toNat_le] at isLetter
    have codes : (97 ≤ char.toNat ∧ char.toNat ≤ 122) ∨
        (65 ≤ char.toNat ∧ char.toNat ≤ 90) := isLetter
    exact Or.inr (by omega)
  · obtain ⟨lower, upper⟩ := (Text.isDigit_iff_toNat char).mp isDigit
    exact Or.inr ⟨by omega, by omega⟩
  · exact signsVisible char isSign

/-- A character that is read in the name of a server is visible. -/
theorem isVisible_of_step?
    {before after : AuthorityScan}
    {char : Char}
    (step : before.step? char = some after) :
    IsVisible char := by
  unfold AuthorityScan.step? at step
  split at step
  · exact Or.inr (by decide)
  · exact Or.inr (by decide)
  · exact Or.inr (by decide)
  · exact Or.inr (by decide)
  · exact Or.inr (by decide)
  · split at step
    · rename_i isAuthorityChar
      exact isVisible_of_isAuthorityChar isAuthorityChar
    · cases step

/-- The name of a server consists of visible characters. -/
theorem visible_of_isAuthority
    {chars : List Char}
    (isAuthority : isAuthority chars = true) :
    ∀ char ∈ chars, IsVisible char := by
  have scanned : ∀ (rest : List Char) (before after : AuthorityScan),
      rest.foldlM AuthorityScan.step? before = some after →
      ∀ char ∈ rest, IsVisible char := by
    intro rest
    induction rest with
    | nil =>
        intro before after _ char present
        cases present
    | cons first others inductionHypothesis =>
        intro before after run char present
        rw [List.foldlM_cons] at run
        obtain ⟨between, step, others⟩ := Option.bind_eq_some_iff.mp run
        rcases List.mem_cons.mp present with rfl | inOthers
        · exact isVisible_of_step? step
        · exact inductionHypothesis between after others char inOthers
  unfold RequestTarget.isAuthority at isAuthority
  split at isAuthority
  · cases isAuthority
  · rename_i after run
    exact scanned chars _ after run

/-- The server of a target that has been read consists of visible characters. -/
theorem visible_of_authority
    {text authority : String}
    {target : RequestTarget}
    (read : ofText? text = some target)
    (named : target.authority = some authority) :
    ∀ char ∈ authority.toList, IsVisible char := by
  unfold ofText? at read
  simp only at read
  split at read
  · cases read
  split at read
  · cases read
  · cases read
    cases named
  · obtain ⟨written, -, rfl⟩ := Option.map_eq_some_iff.mp read
    cases named
  · unfold readAbsolute? at read
    split at read
    · cases read
    · split at read
      · rename_i isServer
        cases read
        cases named
        rw [String.toList_ofList]
        exact visible_of_isAuthority isServer
      · cases read
    · simp only at read
      split at read
      · cases read
      · rename_i isServer
        obtain ⟨written, -, rfl⟩ := Option.map_eq_some_iff.mp read
        cases named
        simp only [Bool.or_eq_true, not_or, Bool.not_eq_true,
          Bool.not_eq_false'] at isServer
        rw [String.toList_ofList]
        exact visible_of_isAuthority isServer.2

end RequestTarget
end Gatehouse
