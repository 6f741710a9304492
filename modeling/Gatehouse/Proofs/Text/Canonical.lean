import Gatehouse.Proofs.Text.Case
import Gatehouse.Proofs.Text.Octets

/-!
# Octets have one spelling

Reading Base64 accepts nothing but what writing produces, under every scheme, so that no
sequence of octets has a second spelling. Reading hexadecimal digits accepts the two
cases of each digit and nothing else: a text is read as some octets exactly if its
lower-case form is what is written for them.
-/

namespace Gatehouse
namespace Text

/-- Octets are read as a text exactly if they are its encoding. -/
theorem Utf8.decode?_eq_some_iff
    {octets : Bytes}
    {text : String} :
    decode? octets = some text ↔ octets = encode text := by
  constructor
  · exact eq_encode_of_decode?
  · rintro rfl
    exact decode?_encode text

theorem ofNat_add_sub
    {char : Char}
    {base : Nat}
    (above : base ≤ char.toNat) :
    Char.ofNat (base + (char.toNat - base)) = char := by
  rw [Nat.add_sub_cancel' above, Char.ofNat_toNat]

namespace Hex

/-- A digit of hexadecimal, in either case. -/
def IsDigit (char : Char) : Prop :=
  ('0' ≤ char ∧ char ≤ '9') ∨ ('a' ≤ char ∧ char ≤ 'f') ∨ ('A' ≤ char ∧ char ≤ 'F')

/-- The digits are the characters that have a value. -/
theorem isSome_value?_iff (char : Char) :
    (value? char).isSome = true ↔ IsDigit char := by
  unfold value? IsDigit
  split_ifs with isDecimal isSmall isCapital <;> simp [*]

/-- The value of a digit, by the number of its character. -/
theorem value?_eq (char : Char) :
    value? char =
      if 48 ≤ char.toNat ∧ char.toNat ≤ 57 then some (char.toNat - 48)
      else if 97 ≤ char.toNat ∧ char.toNat ≤ 102 then some (char.toNat - 87)
      else if 65 ≤ char.toNat ∧ char.toNat ≤ 70 then some (char.toNat - 55)
      else none := rfl

theorem value?_lowerAscii (char : Char) : value? (lowerAscii char) = value? char := by
  rw [value?_eq, value?_eq, toNat_lowerAscii_eq]
  grind

/-- A character has a value exactly if its lower-case form is the digit of this value. -/
theorem value?_eq_some_iff
    {char : Char}
    {value : Nat} :
    value? char = some value ↔ value < 16 ∧ lowerAscii char = digit value := by
  constructor
  · intro read
    rw [← value?_lowerAscii, value?_eq] at read
    have notCapital := toNat_lowerAscii_eq char
    unfold digit
    split_ifs at read with isDecimal isSmall isCapital
    · obtain rfl := Option.some.inj read
      refine ⟨by omega, ?_⟩
      rw [if_pos (by omega), ofNat_add_sub isDecimal.1]
    · obtain rfl := Option.some.inj read
      refine ⟨by omega, ?_⟩
      have base : 87 ≤ (lowerAscii char).toNat := by omega
      rw [if_neg (by omega), ofNat_add_sub base]
    · split_ifs at notCapital
      · omega
      · omega
  · rintro ⟨small, isDigit⟩
    rw [← value?_lowerAscii, isDigit, value?_digit value small]

theorem encode_cons (octet : UInt8) (rest : Bytes) :
    encode (octet :: rest) =
      digit (octet.toNat / 16) :: digit (octet.toNat % 16) :: encode rest := rfl

/-- Digits are read as octets exactly if in lower case they are written for them. -/
theorem decode?_eq_some_iff
    {chars : List Char}
    {octets : Bytes} :
    decode? chars = some octets ↔ chars.map lowerAscii = encode octets := by
  fun_induction decode? chars generalizing octets with
  | case1 =>
      cases octets with
      | nil => exact iff_of_true rfl rfl
      | cons octet others => simp [encode_cons]
  | case2 char =>
      cases octets with
      | nil => simp [encode]
      | cons octet others => simp [encode_cons]
  | case3 high low rest inductionHypothesis =>
      simp only [Option.bind_eq_bind, Option.bind_eq_some_iff, inductionHypothesis,
        value?_eq_some_iff, Option.some.injEq, List.map_cons]
      constructor
      · rintro ⟨highValue, ⟨highSmall, isHigh⟩, lowValue, ⟨lowSmall, isLow⟩,
          others, isRest, rfl⟩
        have whole : (UInt8.ofNat (highValue * 16 + lowValue)).toNat =
            highValue * 16 + lowValue := by
          rw [UInt8.toNat_ofNat']
          omega
        have front : (highValue * 16 + lowValue) / 16 = highValue := by omega
        have back : (highValue * 16 + lowValue) % 16 = lowValue := by omega
        rw [encode_cons, whole, front, back, isHigh, isLow, isRest]
      · intro same
        cases octets with
        | nil => cases same
        | cons octet others =>
            have bounded := octet.toNat_lt
            have whole :
                octet.toNat / 16 * 16 + octet.toNat % 16 = octet.toNat := by omega
            rw [encode_cons, List.cons.injEq, List.cons.injEq] at same
            refine ⟨octet.toNat / 16, ⟨by omega, same.1⟩, octet.toNat % 16,
              ⟨by omega, same.2.1⟩, others, same.2.2, ?_⟩
            rw [whole, UInt8.ofNat_toNat]

/-- A text is read as octets if it is an even number of digits. -/
theorem isSome_decode?_iff (chars : List Char) :
    (decode? chars).isSome = true ↔ chars.length % 2 = 0 ∧ ∀ char ∈ chars,
      IsDigit char := by
  fun_induction decode? chars with
  | case1 => simp
  | case2 char => simp
  | case3 high low rest inductionHypothesis =>
      have even : (high :: low :: rest).length % 2 = 0 ↔ rest.length % 2 = 0 := by
        rw [List.length_cons, List.length_cons]
        omega
      rw [List.forall_mem_cons, List.forall_mem_cons, ← isSome_value?_iff,
        ← isSome_value?_iff, even]
      cases value? high with
      | none => simp
      | some highValue =>
          cases value? low with
          | none => simp
          | some lowValue =>
              simp only [Option.bind_eq_bind, Option.bind_some, Option.isSome_some,
                true_and]
              rw [← inductionHypothesis]
              cases decode? rest <;> rfl

theorem length_encode (octets : Bytes) : (encode octets).length = 2 * octets.length := by
  simp [encode, List.length_flatMap, List.map_const', Nat.mul_comm]

theorem map_lowerAscii_encode (octets : Bytes) :
    (encode octets).map lowerAscii = encode octets :=
  decode?_eq_some_iff.mp (decode?_encode octets)

/-- Hexadecimal digits are characters of ASCII. -/
theorem ascii_of_isDigit
    {char : Char}
    (isDigit : IsDigit char) :
    char.toNat ≤ 0x7F := by
  rcases isDigit with isDecimal | isSmall | isCapital
  · exact Nat.le_trans (show char.toNat ≤ 0x39 from isDecimal.2) (by decide)
  · exact Nat.le_trans (show char.toNat ≤ 0x66 from isSmall.2) (by decide)
  · exact Nat.le_trans (show char.toNat ≤ 0x46 from isCapital.2) (by decide)

/-- A hexadecimal digit in lower case is a decimal digit, or has a capital letter. -/
theorem isDigit_or_exists_capital
    {octets : Bytes}
    {char : Char}
    (present : char ∈ encode octets) :
    isDigit char = true ∨ ∃ capital, IsCapitalOf capital char := by
  have decides : ∀ value < 16, isDigit (digit value) = true ∨
      (0x41 ≤ (upperDigit value).toNat ∧ (upperDigit value).toNat ≤ 0x5A ∧
        (digit value).toNat = (upperDigit value).toNat + 0x20) := by decide
  have ofValue {value : Nat} (small : value < 16) :
      isDigit (digit value) = true ∨ ∃ capital, IsCapitalOf capital (digit value) :=
    (decides value small).imp_right fun isCapital => ⟨_, isCapital⟩
  obtain ⟨octet, -, inPair⟩ := List.mem_flatMap.mp present
  have bounded := octet.toNat_lt
  simp only [List.mem_cons, List.not_mem_nil, or_false] at inPair
  rcases inPair with rfl | rfl
  · exact ofValue (by omega)
  · exact ofValue (by omega)

end Hex

namespace Base64

/-- A character has a value exactly if it is the character of this value. -/
theorem Alphabet.value?_eq_some_iff
    {alphabet : Alphabet}
    {char : Char}
    {value : Nat} :
    alphabet.value? char = some value ↔ value < 64 ∧ char = alphabet.character value := by
  constructor
  · intro read
    unfold value? at read
    split_ifs at read with isCapital isSmall isDecimal
    · have codes : 65 ≤ char.toNat ∧ char.toNat ≤ 90 := isCapital
      obtain rfl := Option.some.inj read
      refine ⟨by omega, ?_⟩
      unfold character
      rw [if_pos (by omega), ofNat_add_sub codes.1]
    · have codes : 97 ≤ char.toNat ∧ char.toNat ≤ 122 := isSmall
      obtain rfl := Option.some.inj read
      refine ⟨by omega, ?_⟩
      unfold character
      rw [if_neg (by omega), if_pos (by omega), Nat.add_sub_cancel,
        ofNat_add_sub codes.1]
    · have codes : 48 ≤ char.toNat ∧ char.toNat ≤ 57 := isDecimal
      obtain rfl := Option.some.inj read
      refine ⟨by omega, ?_⟩
      unfold character
      rw [if_neg (by omega), if_neg (by omega), if_pos (by omega), Nat.add_sub_cancel,
        ofNat_add_sub codes.1]
    · split at read
      · cases read
        exact ⟨by decide, rfl⟩
      · cases read
        exact ⟨by decide, rfl⟩
      · cases read
        exact ⟨by decide, rfl⟩
      · cases read
        exact ⟨by decide, rfl⟩
      · cases read
  · rintro ⟨bounded, rfl⟩
    exact alphabet.value?_character bounded

/-- A last group that is read as one octet is written for it. -/
theorem encode_of_lastOne?
    {scheme : Scheme}
    {first second : Char}
    {octets : Bytes}
    (read : lastOne? scheme.alphabet first second = some octets) :
    encode scheme octets = first :: second :: scheme.padding 2 := by
  simp only [lastOne?, Option.bind_eq_bind, Option.bind_eq_some_iff,
    Alphabet.value?_eq_some_iff] at read
  obtain ⟨high, ⟨highBounded, rfl⟩, low, ⟨lowBounded, rfl⟩, read⟩ := read
  split_ifs at read with ending
  obtain rfl := Option.some.inj read
  have whole : (UInt8.ofNat ((high * 64 + low) / 16)).toNat = (high * 64 + low) / 16 := by
    rw [UInt8.toNat_ofNat']
    omega
  have front : (high * 64 + low) / 16 * 16 / 64 = high := by omega
  have back : (high * 64 + low) / 16 * 16 % 64 = low := by omega
  simp only [encode, whole, front, back]

/-- A last group that is read as two octets is written for them. -/
theorem encode_of_lastTwo?
    {scheme : Scheme}
    {first second third : Char}
    {octets : Bytes}
    (read : lastTwo? scheme.alphabet first second third = some octets) :
    encode scheme octets = first :: second :: third :: scheme.padding 1 := by
  simp only [lastTwo?, Option.bind_eq_bind, Option.bind_eq_some_iff,
    Alphabet.value?_eq_some_iff] at read
  obtain ⟨high, ⟨highBounded, rfl⟩, middle, ⟨middleBounded, rfl⟩, low,
      ⟨lowBounded, rfl⟩, read⟩ := read
  split_ifs at read with ending
  obtain rfl := Option.some.inj read
  obtain ⟨bits, isBits⟩ : ∃ bits, bits = (high * 64 + middle) * 64 + low := ⟨_, rfl⟩
  rw [← isBits] at ending ⊢
  have firstOctet : (UInt8.ofNat (bits / 1024)).toNat = bits / 1024 := by
    rw [UInt8.toNat_ofNat']
    omega
  have secondOctet : (UInt8.ofNat (bits / 4 % 256)).toNat = bits / 4 % 256 := by
    rw [UInt8.toNat_ofNat']
    omega
  have whole : (bits / 1024 * 256 + bits / 4 % 256) * 4 = bits := by omega
  have isHigh : bits / 4096 = high := by omega
  have isMiddle : bits / 64 % 64 = middle := by omega
  have isLow : bits % 64 = low := by omega
  simp only [encode, firstOctet, secondOctet, whole, isHigh, isMiddle, isLow]

/-- A full group is written for the octets as which it is read. -/
theorem encode_of_three?
    {scheme : Scheme}
    {first second third fourth : Char}
    {octets : Bytes}
    (read : three? scheme.alphabet first second third fourth = some octets)
    (behind : Bytes) :
    encode scheme (octets ++ behind) =
      first :: second :: third :: fourth :: encode scheme behind := by
  simp only [three?, Option.bind_eq_bind, Option.bind_eq_some_iff,
    Alphabet.value?_eq_some_iff, Option.some.injEq] at read
  obtain ⟨v1, ⟨bounded1, rfl⟩, v2, ⟨bounded2, rfl⟩, v3, ⟨bounded3, rfl⟩, v4,
      ⟨bounded4, rfl⟩, rfl⟩ :=
    read
  obtain ⟨bits, isBits⟩ : ∃ bits, bits = ((v1 * 64 + v2) * 64 + v3) * 64 + v4 := ⟨_, rfl⟩
  rw [← isBits]
  have firstOctet : (UInt8.ofNat (bits / 65536)).toNat = bits / 65536 := by
    rw [UInt8.toNat_ofNat']
    omega
  have secondOctet : (UInt8.ofNat (bits / 256 % 256)).toNat = bits / 256 % 256 := by
    rw [UInt8.toNat_ofNat']
    omega
  have thirdOctet : (UInt8.ofNat (bits % 256)).toNat = bits % 256 := by
    rw [UInt8.toNat_ofNat']
    omega
  have whole :
      (bits / 65536 * 256 + bits / 256 % 256) * 256 + bits % 256 = bits := by omega
  have is1 : bits / 262144 = v1 := by omega
  have is2 : bits / 4096 % 64 = v2 := by omega
  have is3 : bits / 64 % 64 = v3 := by omega
  have is4 : bits % 64 = v4 := by omega
  simp only [List.cons_append, List.nil_append, encode, firstOctet, secondOctet,
    thirdOctet, whole, is1, is2, is3, is4]

/-- Characters are read as octets exactly if they are what is written for the octets. -/
theorem decode?_eq_some_iff
    {scheme : Scheme}
    {chars : List Char}
    {octets : Bytes} :
    decode? scheme chars = some octets ↔ chars = encode scheme octets := by
  constructor
  · intro read
    fun_induction decode? scheme chars generalizing octets with
    | case1 =>
        obtain rfl := Option.some.inj read
        rfl
    | case2 first => cases read
    | case3 first second padded => cases read
    | case4 first second unpadded =>
        rw [encode_of_lastOne? read, Scheme.padding, if_neg unpadded]
    | case5 first second third padded => cases read
    | case6 first second third unpadded =>
        rw [encode_of_lastTwo? read, Scheme.padding, if_neg unpadded]
    | case7 first second third fourth rest isLast isShort =>
        obtain ⟨⟨padded, ends⟩, isPadding⟩ := by simpa using isLast
        rw [encode_of_lastOne? read, Scheme.padding, if_pos padded, ends, isPadding,
          beq_iff_eq.mp isShort]
        rfl
    | case8 first second third fourth rest isLast isLong =>
        obtain ⟨⟨padded, ends⟩, isPadding⟩ := by simpa using isLast
        rw [encode_of_lastTwo? read, Scheme.padding, if_pos padded, ends, isPadding]
        rfl
    | case9 first second third fourth rest isInner inductionHypothesis =>
        simp only [Option.bind_eq_bind, Option.bind_eq_some_iff,
          Option.some.injEq] at read
        obtain ⟨group, isGroup, others, isRest, rfl⟩ := read
        rw [encode_of_three? isGroup, ← inductionHypothesis isRest]
  · rintro rfl
    exact decode?_encode scheme octets

/-- A text is read as octets exactly if it is what is written for the octets. -/
theorem ofText?_eq_some_iff
    {scheme : Scheme}
    {written : String}
    {octets : Bytes} :
    ofText? scheme written = some octets ↔ written = text scheme octets := by
  rw [ofText?, decode?_eq_some_iff, text, ← String.toList_inj, String.toList_ofList]

end Base64
end Text
end Gatehouse
