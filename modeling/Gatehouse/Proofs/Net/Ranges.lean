import Gatehouse.Net.AddressRange
import Gatehouse.Proofs.Net.Readers
import Gatehouse.Proofs.Text.Decimal

/-!
# What a range means

A range holds the addresses of its family that agree with it in its leading bits. It is
spelled as a single address, all of whose bits count, or as an address, a slash and a
length. A text with a slash is read as the two parts around it, since no reader of
addresses looks past a slash.
-/

namespace Gatehouse
namespace Address

/-- The number of bits of an address. -/
def width : Address → Nat
  | .v4 _ => 32
  | .v6 _ => 128

/-- The number of digits that the number of bits has. -/
def lengthDigits : Address → Nat
  | .v4 _ => 2
  | .v6 _ => 3

/-- A text spells an address in front of a length. -/
def IsSpelledBy (text : List Char) : Address → Prop
  | .v4 bits => readV4? lax text = some (bits, [])
  | .v6 bits => readV6? lax text = some (bits, [])

end Address

namespace AddressRange

open Address

/-- An address, a slash, and the number of leading bits without superfluous digits. -/
structure IsSlashed (chars base digits : List Char) (range : AddressRange) : Prop where
  parts : chars = base ++ '/' :: digits
  base : range.address.IsSpelledBy base
  length : Text.Decimal.IsNumber digits range.length
  short : digits.length ≤ range.address.lengthDigits
  within : range.length ≤ range.address.width

/-- What a configured text means: an address, or one with a length, between blanks. -/
inductive Spells (text : String) : AddressRange → Prop
  | alone {address : Address}
      (isAddress : Address.ofText? (Text.trim text) = some address) :
      Spells text ⟨address, address.width⟩
  | slashed {range : AddressRange} {base digits : List Char}
      (isSlashed : IsSlashed (Text.trim text).toList base digits range) :
      Spells text range

/-- An address lies in a range if both agree in the leading bits of a family. -/
def Covers : AddressRange → Address → Prop
  | ⟨.v4 first, length⟩, .v4 second =>
      ∀ index < length, first.getMsbD index = second.getMsbD index
  | ⟨.v6 first, length⟩, .v6 second =>
      ∀ index < length, first.getMsbD index = second.getMsbD index
  | _, _ => False

section Reading

/-- A number is read whole, in the lax way, if it is short and below the limit. -/
theorem readDecimal?_lax_eq_some_iff
    {maxDigits limit number : Nat}
    {digits : List Char} :
    readDecimal? lax maxDigits limit digits = some (number, []) ↔
      Text.Decimal.IsNumber digits number ∧ digits.length ≤ maxDigits ∧
      number < limit := by
  have taken : (∀ char ∈ digits, Text.isDigit char = true) ↔
      digits.takeWhile Text.isDigit = digits :=
    List.takeWhile_eq_self_iff.symm
  unfold readDecimal?
  constructor
  · intro reads
    simp only [lax, Bool.not_true, Bool.false_and, Bool.false_eq_true, if_false] at reads
    split_ifs at reads with outOfBounds
    split at reads
    · rename_i value isValue
      split_ifs at reads with small
      obtain ⟨rfl, noRest⟩ := Prod.mk.inj (Option.some.inj reads)
      have whole : digits.takeWhile Text.isDigit = digits :=
        (List.takeWhile_prefix _).eq_of_length_le (List.drop_eq_nil_iff.mp noRest)
      rw [whole] at isValue outOfBounds
      simp only [Bool.or_eq_true, decide_eq_true_eq, not_or, Nat.not_lt] at outOfBounds
      exact ⟨Text.Decimal.digits?_eq_some_iff.mp isValue, outOfBounds.2, small⟩
    · cases reads
  · rintro ⟨isNumber, short, small⟩
    have nonempty : digits.isEmpty = false := List.isEmpty_eq_false_iff.mpr isNumber.1
    simp only [taken.mp isNumber.2.1, Text.Decimal.digits?_eq_some_iff.mpr isNumber,
      nonempty, lax, Bool.false_or, decide_eq_true_eq, if_neg (Nat.not_lt.mpr short),
      Bool.not_true, Bool.false_and, Bool.false_eq_true, if_false, if_pos small,
      List.drop_length]

/-- A length is read exactly if it is a number of few digits below the limit. -/
theorem lengthOf?_eq_some_iff
    {maxDigits limit length : Nat}
    {chars : List Char} :
    lengthOf? maxDigits limit chars = some length ↔
      ∃ digits, chars = '/' :: digits ∧ Text.Decimal.IsNumber digits length ∧
        digits.length ≤ maxDigits ∧ length < limit := by
  simp only [← readDecimal?_lax_eq_some_iff]
  unfold lengthOf?
  constructor
  · intro isLength
    split at isLength
    · rename_i digits
      refine ⟨digits, rfl, ?_⟩
      split at isLength
      · rename_i reads
        rw [reads, Option.some.inj isLength]
      · cases isLength
    · cases isLength
  · rintro ⟨digits, rfl, reads⟩
    simp only [reads]

/-- An address with a length is read as the parts around the slash. -/
theorem bind_lengthOf?_eq_some_iff
    {α : Type}
    {read : List Char → Option (α × List Char)}
    (isLocal : IsLocal read)
    {make : α → Address}
    {maxDigits limit : Nat}
    {chars : List Char}
    {range : AddressRange} :
    ((read chars).bind fun parts =>
        (lengthOf? maxDigits limit parts.2).map fun length =>
          AddressRange.mk (make parts.1) length) =
          some range ↔
      ∃ value base digits length, chars = base ++ '/' :: digits ∧
        read base = some (value, []) ∧
        Text.Decimal.IsNumber digits length ∧ digits.length ≤ maxDigits ∧ length < limit ∧
          range = ⟨make value, length⟩ := by
  simp only [Option.bind_eq_some_iff, Option.map_eq_some_iff, lengthOf?_eq_some_iff]
  constructor
  · rintro ⟨⟨value, _⟩, reads, length, ⟨digits, rfl, isNumber, short, within⟩, rfl⟩
    obtain ⟨base, parts, readsBase⟩ := isLocal.eq_some_slash_iff.mp reads
    exact ⟨value, base, digits, length, parts, readsBase, isNumber, short, within, rfl⟩
  · rintro ⟨value, base, digits, length, parts, readsBase, isNumber, short, within, rfl⟩
    exact ⟨(value, '/' :: digits), isLocal.eq_some_slash_iff.mpr ⟨base, parts, readsBase⟩,
      length, ⟨digits, rfl, isNumber, short, within⟩, rfl⟩

/-- A text with a slash is read as the range that its parts spell. -/
theorem ofSlashed?_eq_some_iff
    {chars : List Char}
    {range : AddressRange} :
    ofSlashed? chars = some range ↔ ∃ base digits, IsSlashed chars base digits range := by
  have first (range : AddressRange) :=
    @bind_lengthOf?_eq_some_iff _ _ (isLocal_readV4? lax) Address.v4 2 33 chars range
  have second :=
    @bind_lengthOf?_eq_some_iff _ _ (isLocal_readV6? lax) Address.v6 3 129 chars range
  have shape : ofSlashed? chars =
      ((readV4? lax chars).bind fun parts =>
        (lengthOf? 2 33 parts.2).map fun length =>
          AddressRange.mk (.v4 parts.1) length).or
      ((readV6? lax chars).bind fun parts =>
        (lengthOf? 3 129 parts.2).map fun length =>
          AddressRange.mk (.v6 parts.1) length) := by
    unfold ofSlashed?
    simp only
    split
    · rename_i isFirst
      rw [isFirst]
      rfl
    · rename_i notFirst
      rw [notFirst]
      rfl
  rw [shape, Option.or_eq_some_iff, first, second]
  constructor
  · rintro (⟨bits, base, digits, length, parts, reads, isNumber, short, below, rfl⟩ |
      ⟨-, bits, base, digits, length, parts, reads, isNumber, short, below, rfl⟩)
    · exact ⟨base, digits, parts, reads, isNumber, short, Nat.le_of_lt_succ below⟩
    · exact ⟨base, digits, parts, reads, isNumber, short, Nat.le_of_lt_succ below⟩
  · rintro ⟨base, digits, parts, reads, isNumber, short, within⟩
    obtain ⟨address, length⟩ := range
    have below := Nat.lt_succ_of_le within
    cases address with
    | v4 bits =>
        exact .inl ⟨bits, base, digits, length, parts, reads, isNumber, short, below, rfl⟩
    | v6 bits =>
        refine .inr ⟨?_, bits, base, digits, length, parts, reads, isNumber,
          short, below, rfl⟩
        refine Option.eq_none_iff_forall_ne_some.mpr fun other isOther => ?_
        obtain ⟨_, otherBase, otherDigits, _, otherParts, readsFirst, -⟩ :=
          (first other).mp isOther
        have same := (Text.append_cons_inj ((isLocal_readV6? lax).slash_notMem reads)
          ((isLocal_readV4? lax).slash_notMem readsFirst)).mp
          (parts.symm.trans otherParts)
        rw [← same.1] at readsFirst
        rw [IsSpelledBy, readV6?_of_readV4? readsFirst] at reads
        cases reads

/-- A configured text is read as the range that it spells. -/
theorem ofText_eq_ok_iff
    {text : String}
    {range : AddressRange} :
    ofText text = .ok range ↔ Spells text range := by
  have full (address : Address) : ofAddress address = ⟨address, address.width⟩ := by
    cases address <;> rfl
  unfold ofText
  simp only
  cases slashed : ofSlashed? (Text.trim text).toList with
  | some found =>
      obtain ⟨base, digits, isSlashed⟩ := ofSlashed?_eq_some_iff.mp slashed
      constructor
      · rintro ⟨⟩
        exact .slashed isSlashed
      · intro spells
        cases spells with
        | alone isAddress =>
            exact absurd (isSlashed.parts ▸ by simp) (slash_notMem_of_ofText? isAddress)
        | slashed other =>
            have same := ofSlashed?_eq_some_iff.mpr ⟨_, _, other⟩
            rw [slashed] at same
            rw [Option.some.inj same]
  | none =>
      have alone : (∃ address, Address.ofText? (Text.trim text) = some address ∧
          ofAddress address = range) ↔ Spells text range := by
        constructor
        · rintro ⟨address, isAddress, rfl⟩
          exact full address ▸ .alone isAddress
        · intro spells
          cases spells with
          | alone isAddress => exact ⟨_, isAddress, full _⟩
          | slashed isSlashed =>
              have found := ofSlashed?_eq_some_iff.mpr ⟨_, _, isSlashed⟩
              rw [slashed] at found
              cases found
      rw [← alone]
      cases Address.ofText? (Text.trim text) with
      | none => simp
      | some address => simp

end Reading

section Covering

/-- Numbers agree without their last bits exactly if they agree in their leading bits. -/
theorem ushiftRight_eq_iff
    {width length : Nat}
    {first second : BitVec width} :
    first >>> (width - length) = second >>> (width - length) ↔
      ∀ index < length, first.getMsbD index = second.getMsbD index := by
  constructor
  · intro same index inside
    by_cases beyond : width ≤ index
    · rw [BitVec.getMsbD_of_ge _ _ beyond, BitVec.getMsbD_of_ge _ _ beyond]
    · have bit := congrArg (·.getMsbD (index + (width - length))) same
      have moved : index + (width - length) < width := by omega
      have stays : ¬ index + (width - length) < width - length := by omega
      simpa only [BitVec.getMsbD_ushiftRight, moved, stays, decide_true, decide_false,
        Bool.not_false, Bool.true_and, Nat.add_sub_cancel] using bit
  · intro agree
    apply BitVec.eq_of_getMsbD_eq
    intro index inside
    rw [BitVec.getMsbD_ushiftRight, BitVec.getMsbD_ushiftRight]
    by_cases moved : index < width - length
    · simp [moved]
    · rw [agree (index - (width - length)) (by omega)]

/-- An address is found in a range exactly if the range covers it. -/
theorem contains_iff
    {range : AddressRange}
    {address : Address} :
    range.contains address = true ↔ range.Covers address := by
  obtain ⟨base, length⟩ := range
  cases base with
  | v4 first =>
      cases address with
      | v4 second => exact beq_iff_eq.trans ushiftRight_eq_iff
      | v6 second => exact ⟨nofun, nofun⟩
  | v6 first =>
      cases address with
      | v4 second => exact ⟨nofun, nofun⟩
      | v6 second => exact beq_iff_eq.trans ushiftRight_eq_iff

end Covering

end AddressRange
end Gatehouse
