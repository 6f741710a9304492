import Gatehouse.Proofs.Net.Spelling
import Gatehouse.Proofs.Url.DomainName
import Gatehouse.Proofs.Url.Server
import Mathlib.Data.Bool.AllAny
import Mathlib.Tactic.Common

/-!
# Reading a host again

A host is written in its usual form, and whichever way it was spelled before, that form is
read as the same host: a name as a name that does not end in a number, an address of the
first family as four decimal numbers, and one of the second family between square
brackets.
-/

namespace Gatehouse

open Text

namespace Url

/-- Characters without colons and brackets are all of the host. -/
theorem splitHost_of_plain
    {inside : Bool}
    {chars after : List Char}
    (plain : ∀ char ∈ chars, (char ≠ ':' ∨ inside = true) ∧ char ≠ '[' ∧ char ≠ ']') :
    splitHost inside (chars ++ after)
      = (chars ++ (splitHost inside after).1, (splitHost inside after).2) := by
  induction chars with
  | nil => rfl
  | cons char rest inductionHypothesis =>
      obtain ⟨⟨noColon, noOpening, noClosing⟩, others⟩ := List.forall_mem_cons.mp plain
      have goesOn : ¬ (char = ':' ∧ ¬ inside = true) := by
        rintro ⟨isColon, notInside⟩
        exact noColon.elim (absurd isColon) (absurd · notInside)
      rw [List.cons_append, splitHost, if_neg goesOn]
      simp only [if_neg noOpening, if_neg noClosing, inductionHypothesis others]
      rfl

/-- A port, or nothing, is not part of the host. -/
theorem splitHost_after
    {after : List Char}
    (isAfter : after = [] ∨ after.head? = some ':') :
    splitHost false after = ([], after) := by
  cases after with
  | nil => rfl
  | cons char rest =>
      have isColon : char = ':' := by simpa using isAfter
      rw [splitHost, if_pos ⟨isColon, Bool.false_ne_true⟩]

end Url

namespace Host

/-- A character that is not excluded from names may stand in a host without brackets. -/
theorem plain_of_allowed
    {char : Char}
    (allowed : DomainName.isForbidden char = false) :
    (Url.IsServerChar char ∧ char ≠ '@') ∧ char ≠ ':' ∧ char ≠ '[' ∧ char ≠ ']' ∧
    char ≠ '%' := by
  have visible : 0x20 < char.toNat := by
    unfold DomainName.isForbidden at allowed
    simp only [Bool.or_eq_false_iff, decide_eq_false_iff_not, Nat.not_le] at allowed
    exact allowed.1.1
  have notExcluded : ∀ {sign}, DomainName.isForbidden sign = true → char ≠ sign := by
    rintro sign excluded rfl
    rw [excluded] at allowed
    cases allowed
  refine ⟨?_, notExcluded (by decide), notExcluded (by decide), notExcluded (by decide),
    notExcluded (by decide)⟩
  exact @Url.isServerChar_of_kind (DomainName.isForbidden · = false) char allowed visible
    (List.all_iff_forall_prop.mp (by decide))

section Names

variable {labels : List (List Char)}

theorem plain_of_areForms
    (areForms : DomainName.AreForms labels)
    {char : Char}
    (present : char ∈ List.intercalate ['.'] labels) :
    (Url.IsServerChar char ∧ char ≠ '@') ∧ char ≠ ':' ∧ char ≠ '[' ∧
    char ≠ ']' ∧ char ≠ '%' :=
  plain_of_allowed (areForms.isUsual_and_allowed present).2

/-- Labels that are their own forms are looked up as they are. -/
theorem toAscii?_decode_name (areForms : DomainName.AreForms labels) :
    DomainName.toAscii?
      (Percent.decode (Utf8.encode (String.ofList (List.intercalate ['.'] labels))))
      = some (String.ofList (List.intercalate ['.'] labels)) := by
  have noPercent : '%' ∉ (String.ofList (List.intercalate ['.'] labels)).toList := by
    rw [String.toList_ofList]
    intro present
    exact (plain_of_areForms areForms present).2.2.2.2 rfl
  rw [Percent.decode_encode_of_notMem noPercent, areForms.toAscii?_name]

theorem head?_name_ne (areForms : DomainName.AreForms labels) :
    ¬ (List.intercalate ['.'] labels).head? = some '[' := by
  intro isBracket
  exact (plain_of_areForms areForms (List.mem_of_mem_head? isBracket)).2.2.1 rfl

/-- Labels that are their own forms are read as a name, unless the last is numeric. -/
theorem ofSpecial_domain
    (areForms : DomainName.AreForms labels)
    (nonempty : String.ofList (List.intercalate ['.'] labels) ≠ "")
    (notNumber : ¬ endsInNumber (List.intercalate ['.'] labels) = true) :
    ofSpecial (List.intercalate ['.'] labels) =
      .ok (.domain (String.ofList (List.intercalate ['.'] labels))) := by
  unfold ofSpecial
  rw [if_neg (head?_name_ne areForms), toAscii?_decode_name areForms]
  simp only [if_neg nonempty, String.toList_ofList, if_neg notNumber]

/-- Labels that are their own forms and numbers are read as an address. -/
theorem ofSpecial_numbers
    {bits : BitVec 32}
    (areForms : DomainName.AreForms labels)
    (nonempty : String.ofList (List.intercalate ['.'] labels) ≠ "")
    (isNumber : endsInNumber (List.intercalate ['.'] labels) = true)
    (numbers : ofNumbers? (List.intercalate ['.'] labels) = some bits) :
    ofSpecial (List.intercalate ['.'] labels) = .ok (.v4 bits) := by
  unfold ofSpecial
  rw [if_neg (head?_name_ne areForms), toAscii?_decode_name areForms]
  simp only [if_neg nonempty, String.toList_ofList, if_pos isNumber, numbers]

/-- A host that is read from such labels is read again from its text. -/
theorem rereads_of_areForms
    {host : Host}
    (areForms : DomainName.AreForms labels)
    (isText : host.text.toList = List.intercalate ['.'] labels)
    (nonempty : host.text.toList ≠ [])
    (reads : ofSpecial host.text.toList = .ok host) :
    host.Rereads where
  reads := reads
  nonempty := nonempty
  chars char present := (plain_of_areForms areForms (isText ▸ present)).1
  splits after isAfter := by
    have plain : ∀ char ∈ host.text.toList, (char ≠ ':' ∨ false = true) ∧ char ≠ '[' ∧
        char ≠ ']' := by
      intro char present
      obtain ⟨-, noColon, noOpening, noClosing, -⟩ :=
        plain_of_areForms areForms (isText ▸ present)
      exact ⟨.inl noColon, noOpening, noClosing⟩
    rw [Url.splitHost_of_plain plain, Url.splitHost_after isAfter, List.append_nil]

/-- A name that is found is read again. -/
theorem rereads_domain
    {octets : Bytes}
    {name : String}
    (found : DomainName.toAscii? octets = some name)
    (nonempty : name ≠ "")
    (notNumber : ¬ endsInNumber name.toList = true) :
    (Host.domain name).Rereads := by
  obtain ⟨labels, areForms, isName⟩ := DomainName.exists_areForms_of_toAscii? found
  have isText : name.toList = List.intercalate ['.'] labels := by
    rw [isName, String.toList_ofList]
  have nonemptyText : name.toList ≠ [] := by
    intro isEmpty
    exact nonempty (String.toList_inj.mp isEmpty)
  refine rereads_of_areForms areForms isText nonemptyText ?_
  have read := ofSpecial_domain areForms (isName ▸ nonempty) (isText ▸ notNumber)
  rw [← isText, String.ofList_toList] at read
  exact read

end Names

section Numbers

/-- The digits of the four numbers of an address. -/
def octets (bits : BitVec 32) : List Nat :=
  [bits.toNat / 16777216, bits.toNat / 65536 % 256, bits.toNat / 256 % 256,
   bits.toNat % 256]

/-- The labels of an address. -/
def octetLabels (bits : BitVec 32) : List (List Char) :=
  (octets bits).map (Nat.toDigits 10)

theorem toList_showV4_eq (bits : BitVec 32) :
    (Address.showV4 bits).toList = List.intercalate ['.'] (octetLabels bits) := by
  rw [Address.toList_showV4]
  unfold octetLabels octets
  simp only [List.map_cons, List.map_nil, List.intercalate_cons_cons,
    List.intercalate_singleton, List.append_assoc, List.cons_append, List.nil_append]

/-- Decimal digits are digits of labels. -/
theorem isLabelChar_of_mem_toDigits
    {number : Nat}
    {char : Char}
    (present : char ∈ Nat.toDigits 10 number) :
    char.toNat < 0x80 ∧ DomainName.IsLabelChar char := by
  have inRange := (isDigit_iff_toNat char).mp (Decimal.isDigit_of_mem_toDigits present)
  have isDigit : DomainName.IsDigit char := by
    refine ⟨char.toNat - 0x30 + 26, by omega, ?_⟩
    unfold DomainName.digit
    have isCode : 0x30 + (char.toNat - 0x30 + 26 - 26) = char.toNat := by omega
    rw [if_neg (by omega), isCode, Char.ofNat_toNat]
  exact DomainName.isLabelChar_of_isDigit isDigit

/-- Digits are a label that is its own form. -/
theorem labelToAscii?_toDigits (number : Nat) :
    DomainName.labelToAscii? (Nat.toDigits 10 number) =
      some (Nat.toDigits 10 number) := by
  have ascii :
      (Nat.toDigits 10 number).all (fun char => decide (char.toNat < 0x80)) = true := by
    rw [List.all_eq_true]
    intro char present
    exact decide_eq_true (isLabelChar_of_mem_toDigits present).1
  have unmarked : afterStart? DomainName.mark (Nat.toDigits 10 number) = none := by
    rw [Option.eq_none_iff_forall_ne_some]
    intro rest isMarked
    have present : 'x' ∈ Nat.toDigits 10 number := by
      rw [afterStart?_eq_some_iff.mp isMarked]
      exact List.mem_append_left rest (by decide)
    exact absurd (Decimal.isDigit_of_mem_toDigits present) (by decide)
  unfold DomainName.labelToAscii?
  rw [if_pos ascii, unmarked]

/-- The labels of an address are their own forms. -/
theorem areForms_octetLabels (bits : BitVec 32) :
    DomainName.AreForms (octetLabels bits) where
  nonempty := List.cons_ne_nil _ _
  forms label isLabel := by
    obtain ⟨number, -, rfl⟩ := List.mem_map.mp isLabel
    exact labelToAscii?_toDigits number
  labelChars label isLabel char present := by
    obtain ⟨number, -, rfl⟩ := List.mem_map.mp isLabel
    exact (isLabelChar_of_mem_toDigits present).2

/-- A number is read from its decimal digits, among which no zero leads. -/
theorem number?_toDigits (number : Nat) :
    number? (Nat.toDigits 10 number) = some number := by
  cases number with
  | zero => rfl
  | succ less =>
      have unpadded := Address.head?_toDigits_ne (Nat.succ_pos less)
      have allDigits : (Nat.toDigits 10 (less + 1)).all isDigit = true :=
        List.all_eq_true.mpr fun _ => Decimal.isDigit_of_mem_toDigits
      have value : digitsValue 10 (Nat.toDigits 10 (less + 1)) = less + 1 :=
        Hex.foldl_toDigits (by decide) (by decide) (less + 1)
      unfold number?
      split
      · rename_i isEmpty
        exact absurd isEmpty Nat.toDigits_ne_nil
      · rename_i isPadded
        rw [isPadded] at unpadded
        exact absurd rfl unpadded
      · rename_i isPadded
        rw [isPadded] at unpadded
        exact absurd rfl unpadded
      · rename_i isPadded
        rw [isPadded] at unpadded
        exact absurd rfl unpadded
      · rw [if_pos allDigits, value]

theorem getLast?_octetLabels (bits : BitVec 32) :
    (octetLabels bits).getLast? = some (Nat.toDigits 10 (bits.toNat % 256)) :=
  rfl

/-- The labels of an address are found again in its text. -/
theorem labels_showV4 (bits : BitVec 32) :
    labels (Address.showV4 bits).toList = octetLabels bits := by
  have notEmpty : (some (Nat.toDigits 10 (bits.toNat % 256)) == some []) = false := by
    rw [beq_eq_false_iff_ne]
    exact fun isEmpty => Nat.toDigits_ne_nil (Option.some.inj isEmpty)
  unfold labels
  simp only [toList_showV4_eq, (areForms_octetLabels bits).splitEvery_name,
    getLast?_octetLabels, notEmpty, Bool.and_false, Bool.false_eq_true, if_false]

theorem endsInNumber_showV4 (bits : BitVec 32) :
    endsInNumber (Address.showV4 bits).toList = true := by
  unfold endsInNumber
  simp only [labels_showV4, getLast?_octetLabels, number?_toDigits, Option.isSome_some,
    Bool.or_true]

/-- An address is read from the numbers of its text. -/
theorem ofNumbers?_showV4 (bits : BitVec 32) :
    ofNumbers? (Address.showV4 bits).toList = some bits := by
  have small := bits.isLt
  have numbers : (octetLabels bits).mapM number? = some (octets bits) := by
    unfold octetLabels octets
    simp only [List.map_cons, List.map_nil, List.mapM_cons, List.mapM_nil,
      number?_toDigits]
    rfl
  have inRange : (octets bits).dropLast.all (fun part => decide (part < 256)) = true := by
    unfold octets
    simp only [List.dropLast_cons_cons, List.dropLast_singleton, List.all_cons,
      List.all_nil, Bool.and_true, Bool.and_eq_true, decide_eq_true_eq]
    omega
  have lastInRange : bits.toNat % 256 < 1 <<< (8 * (4 - (octets bits).dropLast.length)) :=
    Nat.mod_lt _ (by decide)
  have whole : ((octets bits).dropLast.foldl (fun value part => value * 256 + part) 0)
        <<< (8 * (4 - (octets bits).dropLast.length)) + bits.toNat % 256 =
          bits.toNat := by
    change (((0 * 256 + bits.toNat / 16777216) * 256 + bits.toNat / 65536 % 256) * 256
      + bits.toNat / 256 % 256) <<< 8 + bits.toNat % 256 = bits.toNat
    rw [Nat.shiftLeft_eq]
    omega
  have isLast : (octets bits).getLast? = some (bits.toNat % 256) := rfl
  have four : ¬ 4 < (octetLabels bits).length := Nat.lt_irrefl 4
  unfold ofNumbers?
  simp only [labels_showV4, if_neg four, numbers, Option.bind_eq_bind, Option.bind_some,
    isLast, inRange, lastInRange, decide_true, Bool.and_true, if_true, whole,
    BitVec.ofNat_toNat, BitVec.setWidth_eq]

/-- An address of the first family is read again. -/
theorem rereads_v4 (bits : BitVec 32) : (Host.v4 bits).Rereads := by
  have areForms := areForms_octetLabels bits
  have nonempty : (Address.showV4 bits).toList ≠ [] := by
    rw [Address.toList_showV4]
    simp
  have nonemptyText : String.ofList (List.intercalate ['.'] (octetLabels bits)) ≠ "" := by
    rw [← String.toList_inj.ne, String.toList_ofList, ← toList_showV4_eq]
    exact nonempty
  refine rereads_of_areForms areForms (toList_showV4_eq bits) nonempty ?_
  have isNumber := endsInNumber_showV4 bits
  have numbers := ofNumbers?_showV4 bits
  rw [toList_showV4_eq] at isNumber numbers
  change ofSpecial (Address.showV4 bits).toList = _
  rw [toList_showV4_eq]
  exact ofSpecial_numbers areForms nonemptyText isNumber numbers

end Numbers

section Brackets

/-- Hexadecimal digits are visible. -/
theorem visible_of_isSome_value?
    {char : Char}
    (isDigit : (Hex.value? char).isSome = true) :
    0x20 < char.toNat := by
  unfold Hex.value? at isDigit
  split at isDigit
  · rename_i decimal
    exact Nat.lt_of_lt_of_le (by decide) (show 0x30 ≤ char.toNat from decimal.1)
  · split at isDigit
    · rename_i small
      exact Nat.lt_of_lt_of_le (by decide) (show 0x61 ≤ char.toNat from small.1)
    · split at isDigit
      · rename_i capital
        exact Nat.lt_of_lt_of_le (by decide) (show 0x41 ≤ char.toNat from capital.1)
      · cases isDigit

/-- Hexadecimal digits and colons may stand in front of a server, and are no brackets. -/
theorem plain_of_mem_showCompressed
    {bits : BitVec 128}
    {char : Char}
    (present : char ∈ (Address.showCompressed bits).toList) :
    (Url.IsServerChar char ∧ char ≠ '@') ∧ char ≠ '[' ∧ char ≠ ']' := by
  rcases Address.mem_showCompressed present with rfl | isDigit
  · decide
  · have notDigit : ∀ {sign}, (Hex.value? sign).isSome = false → char ≠ sign := by
      rintro sign noDigit rfl
      rw [noDigit] at isDigit
      cases isDigit
    refine ⟨?_, notDigit (by decide), notDigit (by decide)⟩
    exact @Url.isServerChar_of_kind (fun char => (Hex.value? char).isSome = true) char
      isDigit (visible_of_isSome_value? isDigit) (List.all_iff_forall_prop.mp (by decide))

theorem toList_text_v6 (bits : BitVec 128) :
    (Host.v6 bits).text.toList =
      '[' :: ((Address.showCompressed bits).toList ++ [']']) := by
  change ("[" ++ Address.showCompressed bits ++ "]").toList = _
  rw [String.toList_append, String.toList_append]
  rfl

/-- An address of the second family is read again. -/
theorem rereads_v6 (bits : BitVec 128) : (Host.v6 bits).Rereads where
  reads := by
    have ends : Address.Ends [] := ⟨List.not_mem_nil, nofun, nofun⟩
    have inside := Address.readV6?_showCompressed bits ends
    rw [List.append_nil] at inside
    rw [toList_text_v6]
    unfold ofSpecial
    rw [List.head?_cons, if_pos rfl]
    unfold ofBrackets
    rw [← List.cons_append, List.getLast?_concat]
    simp only [List.cons_append, List.drop_one, List.tail_cons, List.dropLast_concat,
      inside]
  nonempty := by
    rw [toList_text_v6]
    exact List.cons_ne_nil _ _
  chars char present := by
    rw [toList_text_v6, List.mem_cons, List.mem_append, List.mem_singleton] at present
    rcases present with rfl | inside | rfl
    · decide
    · exact (plain_of_mem_showCompressed inside).1
    · decide
  splits after isAfter := by
    have plain : ∀ char ∈ (Address.showCompressed bits).toList,
        (char ≠ ':' ∨ true = true) ∧ char ≠ '[' ∧ char ≠ ']' := by
      intro char present
      exact ⟨.inr rfl, (plain_of_mem_showCompressed present).2⟩
    have closing : Url.splitHost true (']' :: after) = ([']'], after) := by
      rw [Url.splitHost]
      simp [Url.splitHost_after isAfter]
    rw [toList_text_v6, List.cons_append, List.append_assoc, List.singleton_append,
      Url.splitHost]
    simp [Url.splitHost_of_plain plain, closing]

end Brackets

/-- Whichever way a host was spelled, it is read again from its usual form. -/
theorem rereads_of_ofSpecial
    {chars : List Char}
    {host : Host}
    (read : ofSpecial chars = .ok host) :
    host.Rereads := by
  unfold ofSpecial at read
  split at read
  · unfold ofBrackets at read
    split at read
    · split at read
      · cases read
        exact rereads_v6 _
      · cases read
    · cases read
  · split at read
    · cases read
    · rename_i name found
      split at read
      · cases read
      · rename_i nonempty
        split at read
        · split at read
          · cases read
            exact rereads_v4 _
          · cases read
        · rename_i notNumber
          cases read
          exact rereads_domain found nonempty notNumber

end Host
end Gatehouse
