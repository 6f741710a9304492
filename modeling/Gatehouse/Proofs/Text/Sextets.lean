import Gatehouse.Proofs.Text.Altered
import Gatehouse.Proofs.Text.Splitting
import Mathlib.Data.Nat.Digits.Lemmas
import Mathlib.Tactic.Ring

/-!
# The bits behind Base64

What Base64 writes is told without writing it: the octets and the values of the
characters are the same number, in base 256 and in base 64, but for fewer than six bits
at the end, which are zero. Padding aside, octets have exactly one spelling of this kind
in each alphabet, and it is the one that is written and read. A text that is a spelling
in both alphabets spells the same octets in both.
-/

namespace Gatehouse
namespace Text
namespace Base64

/-- Values of six bits carry octets: as many as needed, with zeros left over. -/
structure Carries (sextets : List Nat) (octets : Bytes) : Prop where
  small : ∀ sextet ∈ sextets, sextet < 64
  enough : 8 * octets.length ≤ 6 * sextets.length
  short : 6 * sextets.length < 8 * octets.length + 6
  same : Nat.ofDigits 64 sextets.reverse =
    Nat.ofDigits 256 (octets.map UInt8.toNat).reverse *
      2 ^ (6 * sextets.length - 8 * octets.length)

/-- Characters spell octets in an alphabet if their values carry the octets. There is no
padding. -/
def Spells (alphabet : Alphabet) (chars : List Char) (octets : Bytes) : Prop :=
  ∃ sextets, Carries sextets octets ∧ chars = sextets.map alphabet.character

namespace Carries

theorem nil : Carries [] [] :=
  ⟨List.forall_mem_nil _, by simp, by simp, by simp⟩

/-- A last octet takes two values, the second of which has two of its bits. -/
theorem one (octet : UInt8) :
    Carries [octet.toNat * 16 / 64, octet.toNat * 16 % 64] [octet] := by
  have bounded := octet.toNat_lt
  refine ⟨?_, by simp, by simp, ?_⟩
  · rw [List.forall_mem_cons, List.forall_mem_singleton]
    exact ⟨by omega, by omega⟩
  · have inValues :
        Nat.ofDigits 64 [octet.toNat * 16 / 64, octet.toNat * 16 % 64].reverse =
        octet.toNat * 16 := by
      simp only [Nat.ofDigits_reverse_cons, List.reverse_nil, Nat.ofDigits_nil,
        List.length_cons, List.length_nil]
      omega
    have inOctets : Nat.ofDigits 256 ([octet].map UInt8.toNat).reverse = octet.toNat :=
      Nat.ofDigits_singleton
    rw [inValues, inOctets]
    rfl

/-- Two last octets take three values, the third of which has four of their bits. -/
theorem two (first second : UInt8) :
    let bits := (first.toNat * 256 + second.toNat) * 4
    Carries [bits / 4096, bits / 64 % 64, bits % 64] [first, second] := by
  intro bits
  have firstBounded := first.toNat_lt
  have secondBounded := second.toNat_lt
  refine ⟨?_, by simp, by simp, ?_⟩
  · rw [List.forall_mem_cons, List.forall_mem_cons, List.forall_mem_singleton]
    exact ⟨by omega, by omega, by omega⟩
  · have inValues :
        Nat.ofDigits 64 [bits / 4096, bits / 64 % 64, bits % 64].reverse = bits := by
      simp only [Nat.ofDigits_reverse_cons, List.reverse_nil, Nat.ofDigits_nil,
        List.length_cons, List.length_nil]
      omega
    have inOctets : Nat.ofDigits 256 ([first, second].map UInt8.toNat).reverse =
        first.toNat * 256 + second.toNat := by
      simp only [List.map_cons, List.map_nil, Nat.ofDigits_reverse_cons, List.reverse_nil,
        Nat.ofDigits_nil, List.length_cons, List.length_nil]
      omega
    rw [inValues, inOctets]
    rfl

variable {sextets others : List Nat}
variable {octets : Bytes}

/-- Three octets take four values in front of those behind them. -/
theorem three
    (behind : Carries sextets octets)
    (first second third : UInt8) :
    let bits := (first.toNat * 256 + second.toNat) * 256 + third.toNat
    Carries (bits / 262144 :: bits / 4096 % 64 :: bits / 64 % 64 :: bits % 64 :: sextets)
      (first :: second :: third :: octets) := by
  intro bits
  have firstBounded := first.toNat_lt
  have secondBounded := second.toNat_lt
  have thirdBounded := third.toNat_lt
  obtain ⟨small, enough, short, same⟩ := behind
  have split : bits =
      ((bits / 262144 * 64 + bits / 4096 % 64) * 64 + bits / 64 % 64) * 64 +
        bits % 64 := by omega
  have size : 6 * (sextets.length + 4) - 8 * (octets.length + 3) =
      6 * sextets.length - 8 * octets.length := by omega
  have weight : 64 ^ sextets.length =
      256 ^ octets.length * 2 ^ (6 * sextets.length - 8 * octets.length) := by
    have inBits : (64 : Nat) = 2 ^ 6 ∧ (256 : Nat) = 2 ^ 8 := by decide
    rw [inBits.1, inBits.2, ← pow_mul, ← pow_mul, ← pow_add, Nat.add_sub_cancel' enough]
  refine ⟨?_, ?_, ?_, ?_⟩
  · simp only [List.forall_mem_cons]
    exact ⟨by omega, by omega, by omega, by omega, small⟩
  · simp only [List.length_cons]
    omega
  · simp only [List.length_cons]
    omega
  · have inFront : Nat.ofDigits 64
        (bits / 262144 :: bits / 4096 % 64 :: bits / 64 % 64 :: bits % 64 ::
          sextets).reverse =
          Nat.ofDigits 64 sextets.reverse + 64 ^ sextets.length * bits := by
      conv_rhs => rw [split]
      simp only [Nat.ofDigits_reverse_cons, List.length_cons]
      ring
    have inOctets : Nat.ofDigits 256
        ((first :: second :: third :: octets).map UInt8.toNat).reverse =
          Nat.ofDigits 256 (octets.map UInt8.toNat).reverse +
            256 ^ octets.length * bits := by
      simp only [List.map_cons, Nat.ofDigits_reverse_cons, List.length_cons,
        List.length_map, bits]
      ring
    rw [inFront, inOctets, same, weight, List.length_cons, List.length_cons,
      List.length_cons, List.length_cons, List.length_cons, List.length_cons,
      List.length_cons, size]
    ring

/-- The octets determine the values that carry them. -/
theorem unique
    (carries : Carries sextets octets)
    (carriesToo : Carries others octets) :
    sextets = others := by
  have sizes : sextets.length = others.length := by
    have := carries.enough
    have := carries.short
    have := carriesToo.enough
    have := carriesToo.short
    omega
  apply List.reverse_injective
  apply Nat.ofDigits_inj_of_len_eq (b := 64) (by decide) (by simpa using sizes)
  · simpa using carries.small
  · simpa using carriesToo.small
  · rw [carries.same, carriesToo.same, sizes]

end Carries

/-- What is written without padding consists of characters whose values carry the
octets. -/
theorem exists_carries_encode
    (alphabet : Alphabet)
    (octets : Bytes) :
    ∃ sextets, Carries sextets octets ∧
      encode ⟨alphabet, false⟩ octets = sextets.map alphabet.character := by
  generalize unpadded : Scheme.mk alphabet false = scheme
  fun_induction encode scheme octets with
  | case1 => exact ⟨[], .nil, rfl⟩
  | case2 octet bits =>
      subst unpadded
      exact ⟨_, .one octet, rfl⟩
  | case3 first second bits =>
      subst unpadded
      exact ⟨_, .two first second, rfl⟩
  | case4 first second third rest bits inductionHypothesis =>
      subst unpadded
      obtain ⟨sextets, behind, written⟩ := inductionHypothesis
      exact ⟨_, behind.three first second third, by rw [written]; rfl⟩

variable {alphabet other : Alphabet}
variable {chars : List Char}
variable {octets others : Bytes}

/-- Octets have one spelling in each alphabet, which is what is written for them without
padding. -/
theorem spells_iff :
    Spells alphabet chars octets ↔ chars = encode ⟨alphabet, false⟩ octets := by
  obtain ⟨sextets, carries, written⟩ := exists_carries_encode alphabet octets
  constructor
  · rintro ⟨others, carriesToo, rfl⟩
    rw [written, carries.unique carriesToo]
  · rintro rfl
    exact ⟨sextets, carries, written⟩

/-- The value of a character in whichever of the two alphabets it is found. -/
def value? (char : Char) : Option Nat :=
  (Alphabet.urlSafe.value? char).or (Alphabet.standard.value? char)

/-- A character has the same value in either alphabet. -/
theorem value?_character
    (alphabet : Alphabet)
    {value : Nat}
    (bounded : value < 64) :
    value? (alphabet.character value) = some value := by
  have all : ∀ value < 64, value? (alphabet.character value) = some value := by
    cases alphabet <;> decide
  exact all value bounded

/-- The values that carry octets determine them. -/
theorem Carries.octets_unique
    {sextets : List Nat}
    (carries : Carries sextets octets)
    (carriesToo : Carries sextets others) :
    octets = others := by
  have first : sextets.map Alphabet.standard.character = encode standardUnpadded octets :=
    spells_iff.mp ⟨sextets, carries, rfl⟩
  have second :
      sextets.map Alphabet.standard.character = encode standardUnpadded others :=
    spells_iff.mp ⟨sextets, carriesToo, rfl⟩
  exact encode_inj.mp (first.symm.trans second)

/-- A text that spells octets in both alphabets spells the same ones in both. -/
theorem Spells.unique
    (spells : Spells alphabet chars octets)
    (spellsToo : Spells other chars others) :
    octets = others := by
  have values : ∀ {alphabet : Alphabet} {sextets : List Nat},
      (∀ sextet ∈ sextets, sextet < 64) →
      (sextets.map alphabet.character).map value? = sextets.map some := by
    intro alphabet sextets small
    rw [List.map_map]
    exact List.map_congr_left fun sextet present =>
      value?_character alphabet (small sextet present)
  obtain ⟨sextets, carries, written⟩ := spells
  obtain ⟨sextetsToo, carriesToo, writtenToo⟩ := spellsToo
  have same : sextets = sextetsToo := by
    apply List.map_injective_iff.mpr (Option.some_injective Nat)
    rw [← values carries.small, ← values carriesToo.small, ← written, ← writtenToo]
  subst same
  exact carries.octets_unique carriesToo

theorem Spells.padding_notMem
    (spells : Spells alphabet chars octets) :
    '=' ∉ chars := by
  obtain ⟨sextets, carries, rfl⟩ := spells
  intro present
  obtain ⟨sextet, isSextet, isPadding⟩ := List.mem_map.mp present
  exact alphabet.character_ne_padding (carries.small sextet isSextet) isPadding

/-- What a scheme writes is the spelling in its alphabet, with some padding. -/
theorem exists_encode_eq
    (scheme : Scheme)
    (octets : Bytes) :
    ∃ count, encode scheme octets =
      encode ⟨scheme.alphabet, false⟩ octets ++ List.replicate count '=' := by
  have padding (count : Nat) :
      ∃ shown, scheme.padding count = List.replicate shown '=' := by
    unfold Scheme.padding
    split_ifs
    · exact ⟨count, rfl⟩
    · exact ⟨0, rfl⟩
  fun_induction encode scheme octets with
  | case1 => exact ⟨0, rfl⟩
  | case2 octet bits =>
      obtain ⟨shown, isPadding⟩ := padding 2
      exact ⟨shown, by rw [isPadding]; rfl⟩
  | case3 first second bits =>
      obtain ⟨shown, isPadding⟩ := padding 1
      exact ⟨shown, by rw [isPadding]; rfl⟩
  | case4 first second third rest bits inductionHypothesis =>
      obtain ⟨count, written⟩ := inductionHypothesis
      exact ⟨count, by rw [written]; rfl⟩

/-- Of a spelling with padding behind it, trimming leaves the spelling. -/
theorem Spells.trimLast_append
    (spells : Spells alphabet chars octets)
    (count : Nat) :
    trimLast (· == '=') (chars ++ List.replicate count '=') = chars := by
  have padded : ∀ char ∈ (List.replicate count '=').reverse, (char == '=') = true := by
    intro char present
    rw [List.reverse_replicate] at present
    exact beq_iff_eq.mpr (List.eq_of_mem_replicate present)
  have kept : ∀ char ∈ chars.reverse, ¬ (char == '=') = true := by
    intro char present isPadding
    rw [beq_iff_eq.mp isPadding, List.mem_reverse] at present
    exact spells.padding_notMem present
  rw [trimLast, List.reverse_append, List.dropWhile_append_of_pos padded,
    dropWhile_of_kept kept, List.reverse_reverse]

/-- Every text is what trimming leaves of it, and padding. -/
theorem exists_eq_trimLast_append (chars : List Char) :
    ∃ count, chars = trimLast (· == '=') chars ++ List.replicate count '=' := by
  obtain ⟨count, isPadding⟩ :
      ∃ count, chars.rtakeWhile (· == '=') = List.replicate count '=' := by
    refine ⟨_, List.eq_replicate_of_mem fun char present => ?_⟩
    have isPadding : (char == '=') = true :=
      List.mem_rtakeWhile_imp (p := (· == '=')) present
    exact beq_iff_eq.mp isPadding
  refine ⟨count, ?_⟩
  rw [← isPadding]
  exact List.rdropWhile_append_rtakeWhile.symm

end Base64
end Text
end Gatehouse
