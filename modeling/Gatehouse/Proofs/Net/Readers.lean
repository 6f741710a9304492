import Gatehouse.Net.Address
import Gatehouse.Proofs.Text.Splitting
import Mathlib.Tactic.Common

/-!
# Readers of addresses

A reader takes an address, or a part of one, from the start of a text and leaves the
rest. No reader looks past a slash: what stands in front of the slash is read in the
same way without what stands behind it. So a text that is read whole has no slash, and
one in which a slash is left is read as the part in front of it.
-/

namespace Gatehouse
namespace Address

section Local

/-- A reader is local if it leaves an end and does not look past a slash. -/
structure IsLocal {α : Type} (read : List Char → Option (α × List Char)) : Prop where
  leavesEnd : ∀ {chars value rest}, read chars = some (value, rest) → rest <:+ chars
  stopsAtSlash : ∀ front behind, read (front ++ '/' :: behind) =
    (read front).map fun (value, rest) => (value, rest ++ '/' :: behind)

variable {α β : Type}
variable {read : List Char → Option (α × List Char)}

/-- A local reader that leaves a slash has read the part in front of it. -/
theorem IsLocal.eq_some_slash_iff
    (isLocal : IsLocal read)
    {chars behind : List Char}
    {value : α} :
    read chars = some (value, '/' :: behind) ↔
      ∃ front, chars = front ++ '/' :: behind ∧ read front = some (value, []) := by
  constructor
  · intro reads
    obtain ⟨front, rfl⟩ := isLocal.leavesEnd reads
    rw [isLocal.stopsAtSlash, Option.map_eq_some_iff] at reads
    obtain ⟨⟨found, rest⟩, readsFront, same⟩ := reads
    obtain ⟨rfl, noRest⟩ := Prod.mk.inj same
    obtain rfl := List.append_left_eq_self.mp noRest
    exact ⟨front, rfl, readsFront⟩
  · rintro ⟨front, rfl, reads⟩
    rw [isLocal.stopsAtSlash, reads]
    rfl

/-- A text that a local reader reads whole has no slash. -/
theorem IsLocal.slash_notMem
    (isLocal : IsLocal read)
    {chars : List Char}
    {value : α}
    (reads : read chars = some (value, [])) :
    '/' ∉ chars := by
  intro present
  obtain ⟨front, behind, rfl⟩ := List.append_of_mem present
  rw [isLocal.stopsAtSlash, Option.map_eq_some_iff] at reads
  obtain ⟨⟨found, rest⟩, -, same⟩ := reads
  exact List.append_ne_nil_of_right_ne_nil rest (List.cons_ne_nil _ _)
    (Prod.mk.inj same).2

theorem IsLocal.pure (value : α) : IsLocal fun chars => some (value, chars) where
  leavesEnd := by
    rintro chars _ _ ⟨⟩
    exact List.suffix_refl chars
  stopsAtSlash _ _ := rfl

/-- Local readers can follow one another. -/
theorem IsLocal.bind
    {next : α → List Char → Option (β × List Char)}
    (isLocal : IsLocal read)
    (nextIsLocal : ∀ value, IsLocal (next value)) :
    IsLocal fun chars => (read chars).bind fun (value, rest) => next value rest where
  leavesEnd := by
    intro chars value rest reads
    obtain ⟨⟨first, between⟩, readsFirst, readsNext⟩ := Option.bind_eq_some_iff.mp reads
    exact ((nextIsLocal first).leavesEnd readsNext).trans (isLocal.leavesEnd readsFirst)
  stopsAtSlash front behind := by
    simp only [isLocal.stopsAtSlash]
    cases read front with
    | none => rfl
    | some parts => exact (nextIsLocal parts.1).stopsAtSlash parts.2 behind

/-- What a local reader reads can be changed. -/
theorem IsLocal.map
    (isLocal : IsLocal read)
    (change : α → β) :
    IsLocal fun chars => (read chars).map fun (value, rest) => (change value, rest) where
  leavesEnd := by
    intro chars value rest reads
    obtain ⟨⟨found, between⟩, readsFirst, same⟩ := Option.map_eq_some_iff.mp reads
    obtain ⟨-, rfl⟩ := Prod.mk.inj same
    exact isLocal.leavesEnd readsFirst
  stopsAtSlash front behind := by
    simp only [isLocal.stopsAtSlash, Option.map_map]
    rfl

/-- A local reader can stand in for another one that fails. -/
theorem IsLocal.or
    {other : List Char → Option (α × List Char)}
    (isLocal : IsLocal read)
    (otherIsLocal : IsLocal other) :
    IsLocal fun chars => (read chars).or (other chars) where
  leavesEnd := by
    intro chars value rest reads
    rcases Option.or_eq_some_iff.mp reads with readsFirst | ⟨-, readsSecond⟩
    · exact isLocal.leavesEnd readsFirst
    · exact otherIsLocal.leavesEnd readsSecond
  stopsAtSlash front behind := by
    simp only [isLocal.stopsAtSlash, otherIsLocal.stopsAtSlash, Option.map_or]

/-- A reader that always fails is local. -/
theorem IsLocal.fail : IsLocal fun _ => (none : Option (α × List Char)) where
  leavesEnd := by
    rintro _ _ _ ⟨⟩
  stopsAtSlash _ _ := rfl

/-- What follows a mark at the start of a text. -/
def after? (mark : Char) : List Char → Option (List Char)
  | [] => none
  | first :: rest => if first = mark then some rest else none

/-- A mark other than a slash can stand in front of what a local reader reads. -/
theorem IsLocal.after
    (isLocal : IsLocal read)
    {mark : Char}
    (notSlash : '/' ≠ mark) :
    IsLocal fun chars => (after? mark chars).bind read where
  leavesEnd := by
    intro chars value rest reads
    obtain ⟨between, isMark, readsRest⟩ := Option.bind_eq_some_iff.mp reads
    cases chars with
    | nil => cases isMark
    | cons first more =>
        simp only [after?] at isMark
        split_ifs at isMark
        obtain rfl := Option.some.inj isMark
        exact (isLocal.leavesEnd readsRest).trans (List.suffix_cons _ _)
  stopsAtSlash front behind := by
    cases front with
    | nil => simp [after?, notSlash]
    | cons first more =>
        simp only [List.cons_append, after?]
        split_ifs
        · exact isLocal.stopsAtSlash more behind
        · rfl

/-- A point can stand in front of what a local reader reads. -/
theorem IsLocal.afterPoint
    (isLocal : IsLocal read) :
    IsLocal fun chars =>
      (match chars with | '.' :: after => some after | _ => none).bind read := by
  refine (funext fun chars => congrArg (Option.bind · read) ?_ : _ = _) ▸
    isLocal.after (by decide : '/' ≠ '.')
  cases chars with
  | nil => rfl
  | cons first rest =>
      by_cases isPoint : first = '.'
      · simp [after?, isPoint]
      · simp [after?, isPoint]

/-- A reader of digits is local. -/
theorem isLocal_digits
    {isDigit : Char → Bool}
    (notDigit : isDigit '/' = false)
    (value? : List Char → Option α) :
    IsLocal fun chars => (value? (chars.takeWhile isDigit)).map fun value =>
      (value, chars.drop (chars.takeWhile isDigit).length) where
  leavesEnd := by
    intro chars value rest reads
    obtain ⟨_, -, same⟩ := Option.map_eq_some_iff.mp reads
    obtain ⟨-, rfl⟩ := Prod.mk.inj same
    exact List.drop_suffix _ _
  stopsAtSlash front behind := by
    have digits :
        (front ++ '/' :: behind).takeWhile isDigit = front.takeWhile isDigit := by
      rw [List.takeWhile_append, List.takeWhile_cons_of_neg (by simp [notDigit]),
        List.append_nil]
      split_ifs with whole
      · exact ((List.takeWhile_prefix isDigit).eq_of_length whole).symm
      · rfl
    have within : (front.takeWhile isDigit).length ≤ front.length :=
      (List.takeWhile_prefix isDigit).length_le
    simp only [digits, List.drop_append_of_le_length within, Option.map_map]
    rfl

/-- The reader of decimal numbers is local. -/
theorem isLocal_readDecimal? (spelling : Spelling) (maxDigits limit : Nat) :
    IsLocal (readDecimal? spelling maxDigits limit) := by
  let value? (digits : List Char) : Option Nat :=
    if digits.isEmpty || maxDigits < digits.length then none
    else if !spelling.leadingZeros && 1 < digits.length && digits.head? == some '0' then
      none
    else (Text.Decimal.digits? digits).filter (· < limit)
  have isDigits := isLocal_digits (by decide : Text.isDigit '/' = false) value?
  refine (funext fun chars => ?_ : readDecimal? spelling maxDigits limit = _) ▸ isDigits
  unfold readDecimal?
  simp only [value?]
  split_ifs with outOfBounds padded
  · rfl
  · rfl
  · cases Text.Decimal.digits? (chars.takeWhile Text.isDigit) with
    | none => rfl
    | some value =>
        by_cases small : value < limit
        · simp [Option.filter, small]
        · simp [Option.filter, small]

/-- The reader of groups of digits is local. -/
theorem isLocal_readGroup? : IsLocal readGroup? := by
  let value? (digits : List Char) : Option Nat :=
    if digits.isEmpty || 4 < digits.length then none
    else
      some (digits.foldl (fun value char => value * 16 + (Text.Hex.value? char).getD 0) 0)
  have isDigits :=
    @isLocal_digits Nat (fun char => (Text.Hex.value? char).isSome) (by decide) value?
  refine (funext fun chars => ?_ : readGroup? = _) ▸ isDigits
  unfold readGroup?
  simp only [value?]
  split_ifs with outOfBounds
  · rfl
  · rfl

theorem isLocal_readV4? (spelling : Spelling) : IsLocal (readV4? spelling) := by
  have number := isLocal_readDecimal? spelling 3 256
  exact number.bind fun a => (number.bind fun b => (number.bind fun c =>
    (number.bind fun d => .pure (BitVec.ofNat 32
      (((a * 256 + b) * 256 + c) * 256 + d))).afterPoint).afterPoint).afterPoint

end Local

section Families

/-- The groups that have been read, and what is left. -/
def Groups.result (groups : Groups) : (List Nat × Bool) × List Char :=
  ((groups.values, groups.decimal), groups.rest)

/-- At the start of a text, two groups are read in decimal, or one and more. -/
def groupsAt? (spelling : Spelling) (remaining : Nat) (start : List Char) :
    Option ((List Nat × Bool) × List Char) :=
  ((if 1 ≤ remaining then readV4? spelling start else none).map fun (bits, rest) =>
      (([bits.toNat / 65536, bits.toNat % 65536], true), rest)).or
    ((readGroup? start).bind fun (value, rest) =>
      (some (readGroups spelling remaining false rest).result).map fun (more, rest) =>
        ((value :: more.1, more.2), rest))

/-- Groups are read where they may start: behind a colon, unless they come first. -/
theorem readGroups_succ
    (spelling : Spelling)
    (remaining : Nat)
    (isFirst : Bool)
    (chars : List Char) :
    some (readGroups spelling (remaining + 1) isFirst chars).result =
      ((if isFirst then some chars else after? ':' chars).bind
        (groupsAt? spelling remaining)).or (some (([], false), chars)) := by
  unfold readGroups
  cases isFirst with
  | true =>
      simp only [if_true, Option.bind_some, groupsAt?]
      cases (if 1 ≤ remaining then readV4? spelling chars else none) with
      | some parts => rfl
      | none =>
          cases readGroup? chars with
          | none => rfl
          | some parts => rfl
  | false =>
      cases chars with
      | nil => rfl
      | cons first start =>
          by_cases isColon : first = ':'
          · subst isColon
            simp only [Bool.false_eq_true, if_false, after?, if_true, Option.bind_some,
              groupsAt?]
            cases (if 1 ≤ remaining then readV4? spelling start else none) with
            | some parts => rfl
            | none =>
                cases readGroup? start with
                | none => rfl
                | some parts => rfl
          · simp [after?, isColon, Groups.result]

/-- The reader of groups is local. -/
theorem isLocal_readGroups (spelling : Spelling) (remaining : Nat) (isFirst : Bool) :
    IsLocal fun chars => some (readGroups spelling remaining isFirst chars).result := by
  induction remaining generalizing isFirst with
  | zero => exact .pure ([], false)
  | succ remaining inductionHypothesis =>
      have decimal :
          IsLocal fun start =>
            if 1 ≤ remaining then readV4? spelling start else none := by
        split_ifs
        · exact isLocal_readV4? spelling
        · exact .fail
      have plain := isLocal_readGroup?.bind fun value =>
        (inductionHypothesis false).map fun more => (value :: more.1, more.2)
      have isLocal : IsLocal (groupsAt? spelling remaining) :=
        (decimal.map fun bits => ([bits.toNat / 65536, bits.toNat % 65536], true)).or
          plain
      simp only [readGroups_succ]
      refine IsLocal.or ?_ (.pure ([], false))
      cases isFirst with
      | true => exact isLocal
      | false => exact isLocal.after (by decide)

/-- Behind a gap, the last groups of an address of the second family are read. -/
def gapAt? (spelling : Spelling) (head : List Nat) (start : List Char) :
    Option (BitVec 128 × List Char) :=
  let room := 8 - head.length
  (some (readGroups spelling
      (if spelling.emptyGap then room else room - 1) true start).result).map
    fun (tail, rest) =>
      (ofGroups (head ++ List.replicate (room - tail.1.length) 0 ++ tail.1), rest)

/-- Behind its first groups, an address of the second family ends or has a gap. -/
def headAt? (spelling : Spelling) (head : List Nat × Bool) (rest : List Char) :
    Option (BitVec 128 × List Char) :=
  if head.1.length = 8 then some (ofGroups head.1, rest)
  else if head.2 then none
  else (after? ':' rest).bind fun rest => (after? ':' rest).bind (gapAt? spelling head.1)

/-- An address of the second family is read from its first groups on. -/
theorem readV6?_eq (spelling : Spelling) (chars : List Char) :
    readV6? spelling chars =
      (some (readGroups spelling 8 true chars).result).bind fun (head, rest) =>
        headAt? spelling head rest := by
  unfold readV6?
  simp only [Groups.result, Option.bind_some, headAt?]
  generalize readGroups spelling 8 true chars = head
  by_cases whole : head.values.length = 8
  · simp only [whole, if_true]
  · by_cases decimal : head.decimal = true
    · simp only [whole, decimal, if_true, if_false]
    · simp only [whole, decimal, if_false]
      generalize head.rest = rest
      rcases rest with _ | ⟨first, _ | ⟨second, rest⟩⟩
      · rfl
      · by_cases isColon : first = ':'
        · simp [after?, isColon]
        · simp [after?, isColon]
      · by_cases isColon : first = ':'
        · by_cases areColons : second = ':'
          · subst isColon areColons
            rfl
          · simp [after?, isColon, areColons]
        · simp [after?, isColon]

/-- The reader of addresses of the second family is local. -/
theorem isLocal_readV6? (spelling : Spelling) : IsLocal (readV6? spelling) := by
  have notColon : '/' ≠ ':' := by decide
  have gap (head : List Nat) : IsLocal (gapAt? spelling head) :=
    (isLocal_readGroups spelling _ true).map fun tail =>
      ofGroups (head ++ List.replicate (8 - head.length - tail.1.length) 0 ++ tail.1)
  have behind (head : List Nat × Bool) : IsLocal (headAt? spelling head) := by
    unfold headAt?
    split_ifs
    · exact .pure _
    · exact .fail
    · exact ((gap head.1).after notColon).after notColon
  exact (funext (readV6?_eq spelling) : readV6? spelling = _) ▸
    (isLocal_readGroups spelling 8 true).bind behind

/-- No text begins both with an address of one family and with one of the other. -/
theorem readV6?_of_readV4?
    {spelling : Spelling}
    {chars rest : List Char}
    {bits : BitVec 32}
    (reads : readV4? spelling chars = some (bits, rest)) :
    readV6? spelling chars = none := by
  have groups : some (readGroups spelling 8 true chars).result =
      some (([bits.toNat / 65536, bits.toNat % 65536], true), rest) := by
    rw [readGroups_succ, if_pos rfl, Option.bind_some, groupsAt?, if_pos (by decide),
      reads]
    rfl
  rw [readV6?_eq, groups]
  rfl

/-- A single address is spelled without a slash. -/
theorem slash_notMem_of_ofText?
    {text : String}
    {address : Address}
    (isAddress : ofText? text = some address) :
    '/' ∉ text.toList := by
  unfold ofText? at isAddress
  simp only at isAddress
  split at isAddress
  · rename_i reads
    split_ifs at reads
    exact (isLocal_readV4? strict).slash_notMem reads
  · split at isAddress
    · rename_i reads
      exact (isLocal_readV6? strict).slash_notMem reads
    · cases isAddress

/-- No decimal number begins with anything but a digit. -/
theorem readDecimal?_of_stops
    {spelling : Spelling}
    {maxDigits limit : Nat}
    {chars : List Char}
    (stops : ∀ char, chars.head? = some char → Text.isDigit char = false) :
    readDecimal? spelling maxDigits limit chars = none := by
  have nothing : ([] ++ chars).takeWhile Text.isDigit = [] :=
    Text.takeWhile_append_of_stop nofun stops
  rw [List.nil_append] at nothing
  unfold readDecimal?
  rw [nothing]
  rfl

/-- No address of the first family begins with anything but a digit. -/
theorem readV4?_of_stops
    {spelling : Spelling}
    {chars : List Char}
    (stops : ∀ char, chars.head? = some char → Text.isDigit char = false) :
    readV4? spelling chars = none := by
  unfold readV4?
  rw [readDecimal?_of_stops stops]
  rfl

end Families

end Address
end Gatehouse
