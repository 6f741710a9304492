import Gatehouse.Text.Decimal
import Mathlib.Tactic.Common

/-!
# Laws of decimal literals

The digits of a number read back as the number, and so does the literal of a signed
number of 64 bits. A literal consists of digits and signs; the literals that are read
are exactly those that denote a number within the limits.
-/

namespace Gatehouse
namespace Text

theorem isDigit_eq_isDigit (char : Char) : isDigit char = char.isDigit := by
  simp only [isDigit, Char.isDigit, Char.le_def]

theorem isDigit_iff_toNat (char : Char) :
    isDigit char = true ↔ 48 ≤ char.toNat ∧ char.toNat ≤ 57 := by
  simp only [isDigit, Bool.and_eq_true, decide_eq_true_eq, Char.le_def,
    UInt32.le_iff_toNat_le]
  rfl

namespace Decimal

/-- A literal may consist of these characters. -/
def IsNumeral (char : Char) : Prop :=
  isDigit char = true ∨ char = '+' ∨ char = '-'

instance (char : Char) : Decidable (IsNumeral char) :=
  inferInstanceAs (Decidable (_ ∨ _ ∨ _))

/-- Literals are texts of ASCII. -/
theorem ascii_of_isNumeral
    {char : Char}
    (numeral : IsNumeral char) :
    char.toNat ≤ 0x7F := by
  rcases numeral with digit | rfl | rfl
  · have codes := (isDigit_iff_toNat char).mp digit
    omega
  · decide
  · decide

/-- Digits are read from the left, each of them ten times as heavy as the next. -/
theorem digitsFrom?_eq_some_iff
    {value number : Nat}
    {chars : List Char} :
    digitsFrom? value chars = some number ↔
      (∀ char ∈ chars, isDigit char = true) ∧
        Nat.ofDigitChars 10 chars value = number := by
  induction chars generalizing value with
  | nil => simp [digitsFrom?]
  | cons char rest inductionHypothesis =>
      have step : Nat.ofDigitChars 10 (char :: rest) value =
          Nat.ofDigitChars 10 rest (value * 10 + (char.toNat - '0'.toNat)) := by
        rw [Nat.ofDigitChars_cons, Nat.mul_comm]
      by_cases digit : isDigit char = true
      · simp [digitsFrom?, digit, inductionHypothesis, step]
      · simp [digitsFrom?, digit]

/-- A literal of digits has at least one digit and nothing else. -/
theorem digits?_eq_some_iff
    {number : Nat}
    {chars : List Char} :
    digits? chars = some number ↔
      chars ≠ [] ∧ (∀ char ∈ chars, isDigit char = true) ∧
        Nat.ofDigitChars 10 chars 0 = number := by
  cases chars with
  | nil => simp [digits?]
  | cons char rest => simp only [digits?, digitsFrom?_eq_some_iff, ne_eq, reduceCtorEq,
      not_false_eq_true, true_and]

theorem isDigit_of_mem_toDigits
    {char : Char}
    {value : Nat}
    (present : char ∈ Nat.toDigits 10 value) :
    isDigit char = true := by
  rw [isDigit_eq_isDigit]
  exact Nat.isDigit_of_mem_toDigits (by decide) (by decide) present

@[simp] theorem digits?_toDigits (value : Nat) :
    digits? (Nat.toDigits 10 value) = some value :=
  digits?_eq_some_iff.mpr
    ⟨Nat.toDigits_ne_nil, fun _ => isDigit_of_mem_toDigits, Nat.ofDigitChars_ten_toDigits⟩

theorem natural_inj {first second : Nat} :
    natural first = natural second ↔ first = second := by
  refine ⟨fun same => ?_, congrArg natural⟩
  have digits : Nat.toDigits 10 first = Nat.toDigits 10 second :=
    String.ofList_injective same
  have read := congrArg digits? digits
  rwa [digits?_toDigits, digits?_toDigits, Option.some.injEq] at read

theorem ne_sign_of_isDigit
    {char : Char}
    (digit : isDigit char = true) :
    char ≠ '+' ∧ char ≠ '-' := by
  constructor <;> rintro rfl <;> exact absurd digit (by decide)

/-- A list of digits is an unsigned literal without a sign. -/
theorem unsigned?_of_digits
    {limit number : Nat}
    {chars : List Char}
    (read : digits? chars = some number)
    (bounded : number ≤ limit) :
    unsigned? limit chars = some number := by
  obtain ⟨nonempty, digits, -⟩ := digits?_eq_some_iff.mp read
  cases chars with
  | nil => exact absurd rfl nonempty
  | cons first rest =>
      have unsigned := (ne_sign_of_isDigit (digits first (by simp))).1
      unfold unsigned?
      split
      · next equality => exact absurd (List.cons.inj equality).1 unsigned
      · simp [read, bounded]

/-- A list of digits is a signed literal. -/
theorem signed?_of_digits
    {limit number : Nat}
    {chars : List Char}
    (read : digits? chars = some number)
    (bounded : number ≤ limit) :
    signed? limit chars = some (number : Int) := by
  obtain ⟨nonempty, digits, -⟩ := digits?_eq_some_iff.mp read
  cases chars with
  | nil => exact absurd rfl nonempty
  | cons first rest =>
      have unsigned := (ne_sign_of_isDigit (digits first (by simp))).2
      unfold signed?
      split
      · next equality => exact absurd (List.cons.inj equality).1 unsigned
      · rw [unsigned?_of_digits read bounded]
        rfl

/-- A plus sign in front of digits changes nothing. -/
theorem signed?_plus
    {limit number : Nat}
    {chars : List Char}
    (read : digits? chars = some number)
    (bounded : number ≤ limit) :
    signed? limit ('+' :: chars) = some (number : Int) := by
  have plain : unsigned? limit ('+' :: chars) = some number := by
    simp [unsigned?, read, bounded]
  change (unsigned? limit ('+' :: chars)).map Int.ofNat = some (number : Int)
  rw [plain]
  rfl

theorem signed?_minus
    {limit number : Nat}
    {chars : List Char}
    (read : digits? chars = some number)
    (bounded : number ≤ limit + 1) :
    signed? limit ('-' :: chars) = some (-(number : Int)) := by
  simp only [signed?, read, Option.bind_eq_bind, Option.bind_some, if_pos bounded]

/-- A signed number of 64 bits reads back from its literal. -/
theorem signed64?_integer
    {value : Int}
    (lower : -(maxSigned64 : Int) - 1 ≤ value)
    (upper : value ≤ maxSigned64) :
    signed64? (integer value) = some value := by
  cases value with
  | ofNat magnitude =>
      have bounded : magnitude ≤ maxSigned64 := by
        simpa using upper
      simp [signed64?, integer, natural,
        signed?_of_digits (digits?_toDigits magnitude) bounded]
  | negSucc magnitude =>
      have bounded : magnitude + 1 ≤ maxSigned64 + 1 := by
        rw [Int.negSucc_eq] at lower
        omega
      rw [signed64?, integer, String.toList_ofList,
        signed?_minus (digits?_toDigits (magnitude + 1)) bounded, Int.negSucc_eq]
      rfl

/-- A digit denotes a number below ten. -/
theorem exists_digits?_singleton
    {digit : Char}
    (isDigit : isDigit digit = true) :
    ∃ number < 10, digits? [digit] = some number := by
  have codes := (isDigit_iff_toNat digit).mp isDigit
  refine ⟨digit.toNat - '0'.toNat, ?_,
    digits?_eq_some_iff.mpr ⟨by simp, by simpa using isDigit, ?_⟩⟩
  · change digit.toNat - 48 < 10
    omega
  · simp [Nat.ofDigitChars_cons]

/-- Two digits denote a number below one hundred. -/
theorem exists_digits?_pair
    {first second : Char}
    (firstDigit : isDigit first = true)
    (secondDigit : isDigit second = true) :
    ∃ number < 100, digits? [first, second] = some number := by
  have firstCodes := (isDigit_iff_toNat first).mp firstDigit
  have secondCodes := (isDigit_iff_toNat second).mp secondDigit
  refine ⟨10 * (first.toNat - '0'.toNat) + (second.toNat - '0'.toNat), ?_,
    digits?_eq_some_iff.mpr ⟨by simp, by simp [firstDigit, secondDigit], ?_⟩⟩
  · change 10 * (first.toNat - 48) + (second.toNat - 48) < 100
    omega
  · simp [Nat.ofDigitChars_cons]

theorem exists_signed64?_digit
    {digit : Char}
    (isDigit : isDigit digit = true) :
    ∃ value, signed64? (String.ofList [digit]) = some value := by
  obtain ⟨number, small, read⟩ := exists_digits?_singleton isDigit
  rw [signed64?, String.toList_ofList]
  exact ⟨number, signed?_of_digits read (by simp only [maxSigned64]; omega)⟩

/-- A digit behind a digit or a sign is a literal. -/
theorem exists_signed64?_pair
    {first digit : Char}
    (numeral : IsNumeral first)
    (isDigit : isDigit digit = true) :
    ∃ value, signed64? (String.ofList [first, digit]) = some value := by
  obtain ⟨number, small, read⟩ := exists_digits?_singleton isDigit
  have bounded : number ≤ maxSigned64 := by
    simp only [maxSigned64]
    omega
  rw [signed64?, String.toList_ofList]
  rcases numeral with firstDigit | rfl | rfl
  · obtain ⟨both, bothSmall, bothRead⟩ := exists_digits?_pair firstDigit isDigit
    exact ⟨both, signed?_of_digits bothRead (by simp only [maxSigned64]; omega)⟩
  · exact ⟨number, signed?_plus read bounded⟩
  · exact ⟨-number, signed?_minus read (Nat.le_succ_of_le bounded)⟩

/-- A signed literal is not empty and consists of digits and signs. -/
theorem isNumeral_of_signed?
    {limit : Nat}
    {chars : List Char}
    {value : Int}
    (read : signed? limit chars = some value) :
    chars ≠ [] ∧ ∀ char ∈ chars, IsNumeral char := by
  unfold signed? at read
  split at read
  · next rest =>
      simp only [Option.bind_eq_bind, Option.bind_eq_some_iff] at read
      obtain ⟨magnitude, digits, -⟩ := read
      have allDigits := (digits?_eq_some_iff.mp digits).2.1
      refine ⟨by simp, fun char present => ?_⟩
      rcases List.mem_cons.mp present with rfl | inRest
      · exact Or.inr (Or.inr rfl)
      · exact Or.inl (allDigits char inRest)
  · simp only [Option.map_eq_some_iff, unsigned?, Option.bind_eq_bind,
      Option.bind_eq_some_iff] at read
    obtain ⟨_, ⟨magnitude, digits, -⟩, -⟩ := read
    obtain ⟨nonempty, allDigits, -⟩ := digits?_eq_some_iff.mp digits
    split at allDigits
    · next rest =>
        refine ⟨by simp, fun char present => ?_⟩
        rcases List.mem_cons.mp present with rfl | inRest
        · exact Or.inr (Or.inl rfl)
        · exact Or.inl (allDigits char inRest)
    · next plain =>
        refine ⟨?_, fun char present => Or.inl (allDigits char present)⟩
        rintro rfl
        exact nonempty rfl

/-- The number that digits denote; there is at least one digit. -/
def IsNumber (digits : List Char) (number : Nat) : Prop :=
  digits ≠ [] ∧ (∀ char ∈ digits, isDigit char = true) ∧
    Nat.ofDigitChars 10 digits 0 = number

/-- The number of a literal: that of its digits, negated by a minus sign. -/
inductive Denotes : List Char → Int → Prop
  | plain {digits : List Char} {number : Nat} (isNumber : IsNumber digits number) :
      Denotes digits number
  | plus {digits : List Char} {number : Nat} (isNumber : IsNumber digits number) :
      Denotes ('+' :: digits) number
  | minus {digits : List Char} {number : Nat} (isNumber : IsNumber digits number) :
      Denotes ('-' :: digits) (-number)

/-- An unsigned literal that is read denotes its number, which is within the limit. -/
theorem denotes_of_unsigned?
    {limit number : Nat}
    {chars : List Char}
    (read : unsigned? limit chars = some number) :
    Denotes chars number ∧ number ≤ limit := by
  simp only [unsigned?, Option.bind_eq_bind, Option.bind_eq_some_iff,
    digits?_eq_some_iff] at read
  obtain ⟨value, isNumber, read⟩ := read
  split_ifs at read with bounded
  obtain rfl := Option.some.inj read
  refine ⟨?_, bounded⟩
  split at isNumber
  · exact .plus isNumber
  · exact .plain isNumber

/-- The signed literals that are read are those that denote a number within the limits. -/
theorem signed?_eq_some_iff
    {limit : Nat}
    {chars : List Char}
    {value : Int} :
    signed? limit chars = some value ↔
      Denotes chars value ∧ -(limit : Int) - 1 ≤ value ∧ value ≤ limit := by
  constructor
  · intro read
    unfold signed? at read
    split at read
    · simp only [Option.bind_eq_bind, Option.bind_eq_some_iff,
        digits?_eq_some_iff] at read
      obtain ⟨number, isNumber, read⟩ := read
      split_ifs at read with bounded
      obtain rfl := Option.some.inj read
      exact ⟨.minus isNumber, by omega, by omega⟩
    · obtain ⟨number, unsigned, rfl⟩ := Option.map_eq_some_iff.mp read
      obtain ⟨denotes, bounded⟩ := denotes_of_unsigned? unsigned
      exact ⟨denotes, by rw [Int.ofNat_eq_natCast]; omega,
        by rw [Int.ofNat_eq_natCast]; omega⟩
  · rintro ⟨denotes, lower, upper⟩
    cases denotes with
    | plain isNumber =>
        exact signed?_of_digits (digits?_eq_some_iff.mpr isNumber) (by omega)
    | plus isNumber => exact signed?_plus (digits?_eq_some_iff.mpr isNumber) (by omega)
    | minus isNumber => exact signed?_minus (digits?_eq_some_iff.mpr isNumber) (by omega)

/-- A text is read as a number of 64 bits if it is a literal of it. -/
theorem signed64?_eq_some_iff
    {text : String}
    {value : Int} :
    signed64? text = some value ↔
      Denotes text.toList value ∧ -0x8000000000000000 ≤ value ∧
      value ≤ 0x7FFFFFFFFFFFFFFF := by
  rw [signed64?, signed?_eq_some_iff, maxSigned64]
  refine and_congr_right fun _ => ?_
  omega

theorem toList_integer_ofNat (value : Nat) :
    (integer (value : Int)).toList = Nat.toDigits 10 value := by
  simp [integer, natural]

/-- The literal of a number consists of digits and signs. -/
theorem isNumeral_of_mem_integer
    {value : Int}
    {char : Char}
    (present : char ∈ (integer value).toList) :
    IsNumeral char := by
  cases value with
  | ofNat magnitude =>
      rw [Int.ofNat_eq_natCast, toList_integer_ofNat] at present
      exact Or.inl (isDigit_of_mem_toDigits present)
  | negSucc magnitude =>
      rw [integer, String.toList_ofList] at present
      rcases List.mem_cons.mp present with rfl | inDigits
      · exact Or.inr (Or.inr rfl)
      · exact Or.inl (isDigit_of_mem_toDigits inDigits)

end Decimal
end Text
end Gatehouse
