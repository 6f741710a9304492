import Gatehouse.Proofs.Text.Case
import Gatehouse.Proofs.Text.Octets

/-!
# Texts with one character altered

A character of Base64 carries six bits, which belong to one octet or to two neighbours.
If one character of a padded form is replaced so that the form stays readable, the
octets therefore change in one place, or in the lower half of one octet and the upper
half of the next, or one octet is added to them or removed at their end. In the other
direction, octets that differ in one bit of the upper half of one octet have forms that
differ in one character.
-/

namespace Gatehouse
namespace Text

/-- Two lists are equally long and differ in exactly one place. -/
inductive DiffersOnce {α : Type} : List α → List α → Prop
  | here {old new : α} {rest : List α} (differs : old ≠ new) :
      DiffersOnce (old :: rest) (new :: rest)
  | behind {item : α} {items others : List α} (once : DiffersOnce items others) :
      DiffersOnce (item :: items) (item :: others)

namespace DiffersOnce

variable {α β : Type}
variable {items others : List α}

/-- The first items differ and all else is the same, or the difference is behind them. -/
theorem cons_cons_iff {first second : α} :
    DiffersOnce (first :: items) (second :: others) ↔
      (first ≠ second ∧ items = others) ∨
      (first = second ∧ DiffersOnce items others) := by
  constructor
  · intro once
    cases once with
    | here differs => exact .inl ⟨differs, rfl⟩
    | behind once => exact .inr ⟨rfl, once⟩
  · rintro (⟨differs, rfl⟩ | ⟨rfl, once⟩)
    · exact .here differs
    · exact .behind once

@[simp] theorem not_nil_left : ¬ DiffersOnce [] others := nofun

@[simp] theorem not_nil_right : ¬ DiffersOnce items [] := nofun

theorem symm (once : DiffersOnce items others) : DiffersOnce others items := by
  induction once with
  | here differs => exact .here differs.symm
  | behind _ inductionHypothesis => exact .behind inductionHypothesis

theorem ne (once : DiffersOnce items others) : items ≠ others := by
  induction once with
  | here differs => exact fun same => differs (List.cons.inj same).1
  | behind _ inductionHypothesis =>
      exact fun same => inductionHypothesis (List.cons.inj same).2

/-- Lists differ in one place exactly if their images do under an injective function. -/
theorem map_iff
    {image : α → β}
    (injective : Function.Injective image) :
    DiffersOnce (items.map image) (others.map image) ↔ DiffersOnce items others := by
  induction items generalizing others with
  | nil => simp
  | cons first rest inductionHypothesis =>
      cases others with
      | nil => simp
      | cons second more =>
          simp only [List.map_cons, cons_cons_iff, ne_eq, injective.eq_iff,
            inductionHypothesis, List.map_inj_right injective]

end DiffersOnce

/-- Texts of ASCII differ in one octet exactly if they differ in one character. -/
theorem differsOnce_encode_iff
    {text other : String}
    (ascii : ∀ char ∈ text.toList, char.toNat ≤ 0x7F)
    (otherAscii : ∀ char ∈ other.toList, char.toNat ≤ 0x7F) :
    DiffersOnce (Utf8.encode text) (Utf8.encode other) ↔
      DiffersOnce text.toList other.toList := by
  rw [Utf8.toList_of_ascii ascii, Utf8.toList_of_ascii otherAscii,
    DiffersOnce.map_iff Utf8.ofNat_toNat_injective]

namespace Base64

/-- Different values have different characters. -/
theorem Alphabet.character_inj
    {alphabet : Alphabet}
    {first second : Nat}
    (firstBounded : first < 64)
    (secondBounded : second < 64) :
    alphabet.character first = alphabet.character second ↔ first = second := by
  refine ⟨fun same => ?_, congrArg _⟩
  have read := alphabet.value?_character firstBounded
  rw [same, alphabet.value?_character secondBounded] at read
  exact (Option.some.inj read).symm

/-- Different octets have different forms. -/
theorem encode_inj
    {scheme : Scheme}
    {octets others : Bytes} :
    encode scheme octets = encode scheme others ↔ octets = others := by
  refine ⟨fun same => ?_, congrArg _⟩
  have read := decode?_encode scheme octets
  rw [same, decode?_encode] at read
  exact (Option.some.inj read).symm

/-- No value has the padding for its character. -/
theorem Alphabet.padding_eq_character_iff
    {alphabet : Alphabet}
    {value : Nat}
    (bounded : value < 64) :
    '=' = alphabet.character value ↔ False :=
  iff_false_intro (alphabet.character_ne_padding bounded).symm

/-- The characters of a form are characters of ASCII. -/
theorem ascii_of_mem_encode
    {scheme : Scheme}
    {octets : Bytes}
    {char : Char}
    (present : char ∈ encode scheme octets) :
    char.toNat ≤ 0x7F := by
  rcases mem_encode present with rfl | ⟨value, bounded, rfl⟩
  · decide
  · have all : ∀ value < 64, (scheme.alphabet.character value).toNat ≤ 0x7F := by
      cases scheme.alphabet <;> decide
    exact all value bounded

/-- Forms differ, as texts, in one octet exactly if in one character. -/
theorem differsOnce_text_iff
    {scheme : Scheme}
    {octets others : Bytes} :
    DiffersOnce (Utf8.encode (text scheme octets)) (Utf8.encode (text scheme others)) ↔
      DiffersOnce (encode scheme octets) (encode scheme others) := by
  have ascii (octets : Bytes) :
      ∀ char ∈ (text scheme octets).toList, char.toNat ≤ 0x7F := by
    intro char present
    rw [text, String.toList_ofList] at present
    exact ascii_of_mem_encode present
  rw [differsOnce_encode_iff (ascii octets) (ascii others), text, text,
    String.toList_ofList, String.toList_ofList]

/-- Only the empty sequence of octets has the empty form. -/
theorem encode_eq_nil_iff
    {scheme : Scheme}
    {octets : Bytes} :
    encode scheme octets = [] ↔ octets = [] := by
  change encode scheme octets = encode scheme [] ↔ octets = []
  exact encode_inj

section Sextets

variable (alphabet : Alphabet)
variable (first second third : UInt8)

/-- Three octets in four characters: six bits each, from the upper ones to the lower
ones. -/
theorem encode_three (scheme : Scheme) (rest : Bytes) :
    encode scheme (first :: second :: third :: rest) =
      scheme.alphabet.character (first.toNat / 4) ::
        scheme.alphabet.character (first.toNat % 4 * 16 + second.toNat / 16) ::
        scheme.alphabet.character (second.toNat % 16 * 4 + third.toNat / 64) ::
        scheme.alphabet.character (third.toNat % 64) :: encode scheme rest := by
  have secondBounded := second.toNat_lt
  have thirdBounded := third.toNat_lt
  obtain ⟨bits, isBits⟩ :
      ∃ bits, bits = (first.toNat * 256 + second.toNat) * 256 + third.toNat := ⟨_, rfl⟩
  have in1 : bits / 262144 = first.toNat / 4 := by omega
  have in2 : bits / 4096 % 64 = first.toNat % 4 * 16 + second.toNat / 16 := by omega
  have in3 : bits / 64 % 64 = second.toNat % 16 * 4 + third.toNat / 64 := by omega
  have in4 : bits % 64 = third.toNat % 64 := by omega
  simp only [encode, ← isBits, in1, in2, in3, in4]

/-- Two last octets in three characters and the padding. -/
theorem encode_two :
    encode ⟨alphabet, true⟩ [first, second] =
      [alphabet.character (first.toNat / 4),
        alphabet.character (first.toNat % 4 * 16 + second.toNat / 16),
        alphabet.character (second.toNat % 16 * 4), '='] := by
  have secondBounded := second.toNat_lt
  have in1 : (first.toNat * 256 + second.toNat) * 4 / 4096 = first.toNat / 4 := by omega
  have in2 : (first.toNat * 256 + second.toNat) * 4 / 64 % 64 =
      first.toNat % 4 * 16 + second.toNat / 16 := by omega
  have in3 :
      (first.toNat * 256 + second.toNat) * 4 % 64 = second.toNat % 16 * 4 := by omega
  simp only [encode, in1, in2, in3]
  rfl

/-- One last octet in two characters and the padding. -/
theorem encode_one :
    encode ⟨alphabet, true⟩ [first] =
      [alphabet.character (first.toNat / 4), alphabet.character (first.toNat % 4 * 16),
       '=', '='] := by
  have in1 : first.toNat * 16 / 64 = first.toNat / 4 := by omega
  have in2 : first.toNat * 16 % 64 = first.toNat % 4 * 16 := by omega
  simp only [encode, in1, in2]
  rfl

end Sextets

/-- Octets whose forms may differ in one character: in an octet, in two halves, or at
the end. -/
inductive Neighbours : Bytes → Bytes → Prop
  | octet (old new : UInt8) (rest : Bytes) : Neighbours (old :: rest) (new :: rest)
  | halves {old new oldNext newNext : UInt8} (rest : Bytes)
      (upper : old.toNat / 16 = new.toNat / 16)
      (lower : oldNext.toNat % 16 = newNext.toNat % 16) :
      Neighbours (old :: oldNext :: rest) (new :: newNext :: rest)
  | longer (last : UInt8) : Neighbours [] [last]
  | shorter (last : UInt8) : Neighbours [last] []
  | behind (item : UInt8) {octets others : Bytes}
      (neighbours : Neighbours octets others) :
      Neighbours (item :: octets) (item :: others)

namespace Neighbours

variable {octets others : Bytes}

theorem symm (neighbours : Neighbours octets others) : Neighbours others octets := by
  induction neighbours with
  | octet old new rest => exact .octet new old rest
  | halves rest upper lower => exact .halves rest upper.symm lower.symm
  | longer last => exact .shorter last
  | shorter last => exact .longer last
  | behind item _ inductionHypothesis => exact .behind item inductionHypothesis

/-- Neighbours are equally long, or one of them is the other with one octet behind it. -/
theorem length_eq_or (neighbours : Neighbours octets others) :
    octets.length = others.length ∨ (∃ last, others = octets ++ [last]) ∨
      ∃ last, octets = others ++ [last] := by
  induction neighbours with
  | octet old new rest => exact .inl rfl
  | halves rest upper lower => exact .inl rfl
  | longer last => exact .inr (.inl ⟨last, rfl⟩)
  | shorter last => exact .inr (.inr ⟨last, rfl⟩)
  | behind item _ inductionHypothesis =>
      rcases inductionHypothesis with same | ⟨last, rfl⟩ | ⟨last, rfl⟩
      · exact .inl (congrArg Nat.succ same)
      · exact .inr (.inl ⟨last, rfl⟩)
      · exact .inr (.inr ⟨last, rfl⟩)

/-- What neighbours with first octets have in common behind these. -/
theorem of_cons_cons
    {first second : UInt8}
    (neighbours : Neighbours (first :: octets) (second :: others)) :
    octets = others ∨ (first = second ∧ Neighbours octets others) ∨
      ∃ next otherNext rest, octets = next :: rest ∧ others = otherNext :: rest ∧
        first.toNat / 16 = second.toNat / 16 ∧
        next.toNat % 16 = otherNext.toNat % 16 := by
  cases neighbours with
  | octet old new rest => exact .inl rfl
  | halves rest upper lower => exact .inr (.inr ⟨_, _, rest, rfl, rfl, upper, lower⟩)
  | behind item neighbours => exact .inr (.inl ⟨rfl, neighbours⟩)

/-- A common first octet can be left out. -/
theorem of_cons
    {first : UInt8}
    (neighbours : Neighbours (first :: octets) (first :: others)) :
    octets = others ∨ Neighbours octets others := by
  rcases neighbours.of_cons_cons with
    same | ⟨-, behind⟩ | ⟨next, otherNext, rest, rfl, rfl, -⟩
  · exact .inl same
  · exact .inr behind
  · exact .inr (.octet next otherNext rest)

/-- A common front can be left out. -/
theorem of_append
    {front : Bytes}
    (neighbours : Neighbours (front ++ octets) (front ++ others)) :
    octets = others ∨ Neighbours octets others := by
  induction front with
  | nil => exact .inr neighbours
  | cons first rest inductionHypothesis =>
      rw [List.cons_append, List.cons_append] at neighbours
      rcases neighbours.of_cons with same | behind
      · exact .inl (List.append_cancel_left same)
      · exact inductionHypothesis behind

section Separators

variable {separator : UInt8}
variable {behind otherBehind : Bytes}

/-- With one more octet at the end, the separator would stand where there is none. -/
theorem not_longer
    {last : UInt8}
    (nonempty : behind ≠ [])
    (sameLength : behind.length = otherBehind.length)
    (free : separator ∉ behind) :
    others ++ separator :: otherBehind ≠ (octets ++ separator :: behind) ++ [last] := by
  obtain ⟨first, rest, rfl⟩ := List.exists_cons_of_ne_nil nonempty
  intro longer
  have moved : others ++ separator :: otherBehind =
      (octets ++ [separator]) ++ first :: (rest ++ [last]) := by
    rw [longer]
    simp
  have isFirst := (List.append_inj' moved (by simpa using sameLength.symm)).2
  rw [(List.cons.inj isFirst).1] at free
  exact free List.mem_cons_self

/-- Neighbours with a separator at the same place differ on one side only. -/
theorem of_divided_at :
    ∀ {octets others : Bytes}, octets.length = others.length →
      Neighbours (octets ++ separator :: behind) (others ++ separator :: otherBehind) →
        (octets = others ∧ (behind = otherBehind ∨ Neighbours behind otherBehind)) ∨
          (behind = otherBehind ∧ Neighbours octets others)
  | [], [], _, neighbours => .inl ⟨rfl, neighbours.of_cons⟩
  | first :: octets, second :: others, sameLength, neighbours => by
      have sameRest : octets.length = others.length := Nat.succ.inj sameLength
      rw [List.cons_append, List.cons_append] at neighbours
      rcases neighbours.of_cons_cons with same | ⟨rfl, further⟩ |
        ⟨next, otherNext, rest, isNext, isOtherNext, upper, lower⟩
      · obtain ⟨rfl, sameBehind⟩ := List.append_inj same sameRest
        exact .inr ⟨(List.cons.inj sameBehind).2, .octet first second octets⟩
      · rcases of_divided_at sameRest further with ⟨rfl, differ⟩ | ⟨same, differ⟩
        · exact .inl ⟨rfl, differ⟩
        · exact .inr ⟨same, .behind first differ⟩
      · cases octets with
        | nil =>
            obtain rfl := List.length_eq_zero_iff.mp sameRest.symm
            obtain ⟨-, rfl⟩ := List.cons.inj isNext
            exact .inr ⟨(List.cons.inj isOtherNext).2.symm, .octet first second []⟩
        | cons item more =>
            obtain ⟨other, otherMore, rfl⟩ :=
              List.exists_cons_of_length_eq_add_one sameRest.symm
            obtain ⟨rfl, isRest⟩ := List.cons.inj isNext
            obtain ⟨rfl, isOtherRest⟩ := List.cons.inj isOtherNext
            obtain ⟨rfl, sameBehind⟩ :=
              List.append_inj (isRest.trans isOtherRest.symm) (Nat.succ.inj sameRest)
            exact .inr ⟨(List.cons.inj sameBehind).2, .halves more upper lower⟩

/-- Neighbours have a separator at the same place if as much stands behind it. -/
theorem of_divided
    (neighbours : Neighbours (octets ++ separator :: behind)
      (others ++ separator :: otherBehind))
    (nonempty : behind ≠ [])
    (sameLength : behind.length = otherBehind.length)
    (free : separator ∉ behind)
    (otherFree : separator ∉ otherBehind) :
    (octets = others ∧ (behind = otherBehind ∨ Neighbours behind otherBehind)) ∨
      (behind = otherBehind ∧ Neighbours octets others) := by
  rcases neighbours.length_eq_or with sameTotal | ⟨last, longer⟩ | ⟨last, longer⟩
  · refine of_divided_at ?_ neighbours
    rw [List.length_append, List.length_append, List.length_cons, List.length_cons,
      sameLength]
      at sameTotal
    exact Nat.add_right_cancel sameTotal
  · exact absurd longer (not_longer nonempty sameLength free)
  · refine absurd longer (not_longer ?_ sameLength.symm otherFree)
    rintro rfl
    exact nonempty (List.length_eq_zero_iff.mp sameLength)

/-- A separator does not move to the right between neighbours. -/
theorem not_moved
    {moved front rest : Bytes}
    (free : separator ∉ moved ++ rest)
    (neighbours : Neighbours (front ++ separator :: (moved ++ rest))
      (front ++ (moved ++ separator :: rest))) :
    moved = [] := by
  cases moved with
  | nil => rfl
  | cons first others =>
      exfalso
      have different : separator ≠ first := by
        rintro rfl
        exact free List.mem_cons_self
      have occurs : separator ∈ others ++ separator :: rest := by simp
      rw [List.cons_append, List.cons_append] at neighbours
      rcases neighbours.of_append with same | differ
      · exact different (List.cons.inj same).1
      · rcases differ.of_cons_cons with same | ⟨same, -⟩ |
          ⟨next, otherNext, back, isNext, isOtherNext, upper, lower⟩
        · rw [← same] at occurs
          exact free occurs
        · exact different same
        · obtain ⟨rfl, rfl⟩ := List.cons.inj isNext
          rw [isOtherNext] at occurs
          rcases List.mem_cons.mp occurs with rfl | inBack
          · exact different (UInt8.toNat_inj.mp (by omega))
          · exact free (List.mem_cons_of_mem _ inBack)

/-- Neighbours that agree without their last separator have it at the same place. -/
theorem eq_of_append_eq
    (neighbours : Neighbours (octets ++ separator :: behind)
      (others ++ separator :: otherBehind))
    (free : separator ∉ behind)
    (otherFree : separator ∉ otherBehind)
    (same : octets ++ behind = others ++ otherBehind) :
    octets = others ∧ behind = otherBehind := by
  rcases List.append_eq_append_iff.mp same with ⟨moved, rfl, rfl⟩ | ⟨moved, rfl, rfl⟩
  · rw [List.append_assoc] at neighbours
    obtain rfl := not_moved free neighbours
    exact ⟨(List.append_nil _).symm, rfl⟩
  · rw [List.append_assoc] at neighbours
    obtain rfl := not_moved otherFree neighbours.symm
    exact ⟨List.append_nil _, rfl⟩

end Separators

/-- Groups of three octets whose forms differ in one character. -/
theorem of_three
    {alphabet : Alphabet}
    {first second third otherFirst otherSecond otherThird : UInt8}
    {rest more : Bytes}
    (behind : DiffersOnce (encode ⟨alphabet, true⟩ rest) (encode ⟨alphabet, true⟩ more) →
      Neighbours rest more)
    (once : DiffersOnce (encode ⟨alphabet, true⟩ (first :: second :: third :: rest))
      (encode ⟨alphabet, true⟩ (otherFirst :: otherSecond :: otherThird :: more))) :
    Neighbours (first :: second :: third :: rest)
      (otherFirst :: otherSecond :: otherThird :: more) := by
  have bounded1 := first.toNat_lt
  have bounded2 := second.toNat_lt
  have bounded3 := third.toNat_lt
  have bounded4 := otherFirst.toNat_lt
  have bounded5 := otherSecond.toNat_lt
  have bounded6 := otherThird.toNat_lt
  rw [encode_three, encode_three] at once
  simp (disch := omega) only [DiffersOnce.cons_cons_iff, List.cons.injEq, ne_eq,
    Alphabet.character_inj, encode_inj] at once
  rcases once with
    ⟨-, in1, in2, in3, rfl⟩ | ⟨in0, ⟨-, in2, in3, rfl⟩ | ⟨in1, ⟨-, in3, rfl⟩ |
      ⟨in2, ⟨-, rfl⟩ | ⟨in3, onceBehind⟩⟩⟩⟩
  · obtain rfl : second = otherSecond := UInt8.toNat_inj.mp (by omega)
    obtain rfl : third = otherThird := UInt8.toNat_inj.mp (by omega)
    exact .octet first otherFirst _
  · obtain rfl : third = otherThird := UInt8.toNat_inj.mp (by omega)
    exact .halves _ (by omega) (by omega)
  · obtain rfl : first = otherFirst := UInt8.toNat_inj.mp (by omega)
    exact .behind first (.halves _ (by omega) (by omega))
  · obtain rfl : first = otherFirst := UInt8.toNat_inj.mp (by omega)
    obtain rfl : second = otherSecond := UInt8.toNat_inj.mp (by omega)
    exact .behind first (.behind second (.octet third otherThird _))
  · obtain rfl : first = otherFirst := UInt8.toNat_inj.mp (by omega)
    obtain rfl : second = otherSecond := UInt8.toNat_inj.mp (by omega)
    obtain rfl : third = otherThird := UInt8.toNat_inj.mp (by omega)
    exact .behind first (.behind second (.behind third (behind onceBehind)))

/-- A last group of two octets, and the octets of another form. -/
theorem of_two
    {alphabet : Alphabet}
    {first second otherFirst otherSecond : UInt8}
    {more : Bytes}
    (once : DiffersOnce (encode ⟨alphabet, true⟩ [first, second])
      (encode ⟨alphabet, true⟩ (otherFirst :: otherSecond :: more))) :
    Neighbours [first, second] (otherFirst :: otherSecond :: more) := by
  have bounded1 := first.toNat_lt
  have bounded2 := second.toNat_lt
  have bounded3 := otherFirst.toNat_lt
  have bounded4 := otherSecond.toNat_lt
  cases more with
  | nil =>
      rw [encode_two, encode_two] at once
      simp (disch := omega) only [DiffersOnce.cons_cons_iff, List.cons.injEq, ne_eq,
        Alphabet.character_inj, and_true] at once
      rcases once with ⟨-, in1, in2⟩ | ⟨in0, ⟨-, in2⟩ | ⟨in1, onceBehind⟩⟩
      · obtain rfl : second = otherSecond := UInt8.toNat_inj.mp (by omega)
        exact .octet first otherFirst _
      · exact .halves _ (by omega) (by omega)
      · obtain rfl : first = otherFirst := UInt8.toNat_inj.mp (by omega)
        exact .behind first (.octet second otherSecond [])
  | cons otherThird rest =>
      have bounded5 := otherThird.toNat_lt
      rw [encode_two, encode_three] at once
      simp (disch := omega) only [DiffersOnce.cons_cons_iff, List.cons.injEq, ne_eq,
        Alphabet.character_inj, Alphabet.padding_eq_character_iff, List.nil_eq,
        encode_eq_nil_iff, DiffersOnce.not_nil_left, false_and, and_false, false_or,
        or_false, not_false_eq_true, true_and] at once
      obtain ⟨in0, in1, in2, rfl⟩ := once
      obtain rfl : first = otherFirst := UInt8.toNat_inj.mp (by omega)
      obtain rfl : second = otherSecond := UInt8.toNat_inj.mp (by omega)
      exact .behind first (.behind second (.longer otherThird))

/-- A last group of one octet, and the octets of another form. -/
theorem of_one
    {alphabet : Alphabet}
    {first otherFirst : UInt8}
    {more : Bytes}
    (once : DiffersOnce (encode ⟨alphabet, true⟩ [first])
      (encode ⟨alphabet, true⟩ (otherFirst :: more))) :
    Neighbours [first] (otherFirst :: more) := by
  have bounded1 := first.toNat_lt
  have bounded2 := otherFirst.toNat_lt
  rcases more with _ | ⟨otherSecond, _ | ⟨otherThird, rest⟩⟩
  · exact .octet first otherFirst []
  · have bounded3 := otherSecond.toNat_lt
    rw [encode_one, encode_two] at once
    simp (disch := omega) only [DiffersOnce.cons_cons_iff, List.cons.injEq, ne_eq,
      Alphabet.character_inj, Alphabet.padding_eq_character_iff,
      DiffersOnce.not_nil_left, and_false, false_or, or_false, not_false_eq_true,
      and_true, not_true_eq_false] at once
    obtain rfl : first = otherFirst := UInt8.toNat_inj.mp (by omega)
    exact .behind first (.longer otherSecond)
  · have bounded3 := otherSecond.toNat_lt
    have bounded4 := otherThird.toNat_lt
    rw [encode_one, encode_three] at once
    simp (disch := omega) only [DiffersOnce.cons_cons_iff, List.cons.injEq, ne_eq,
      Alphabet.character_inj, Alphabet.padding_eq_character_iff,
      DiffersOnce.not_nil_left, false_and, and_false, or_false] at once

end Neighbours

/-- Octets whose padded forms differ in one character are neighbours. -/
theorem neighbours_of_differsOnce
    {alphabet : Alphabet} :
    ∀ {octets others : Bytes},
      DiffersOnce (encode ⟨alphabet, true⟩ octets) (encode ⟨alphabet, true⟩ others) →
        Neighbours octets others
  | [], _, once => absurd once DiffersOnce.not_nil_left
  | _ :: _, [], once => absurd once DiffersOnce.not_nil_right
  | [_], _ :: _, once => .of_one once
  | _ :: _ :: _, [_], once => (Neighbours.of_one once.symm).symm
  | [_, _], _ :: _ :: _, once => .of_two once
  | _ :: _ :: _ :: _, [_, _], once => (Neighbours.of_two once.symm).symm
  | _ :: _ :: _ :: _, _ :: _ :: _ :: _, once => .of_three neighbours_of_differsOnce once

/-- A change of the third and fourth bits of one octet changes one character of the
form. -/
theorem differsOnce_of_octet
    {alphabet : Alphabet}
    {old new : UInt8}
    (top : old.toNat / 64 = new.toNat / 64)
    (lower : old.toNat % 16 = new.toNat % 16)
    (differs : old.toNat / 16 ≠ new.toNat / 16)
    (front back : Bytes) :
    DiffersOnce (encode ⟨alphabet, true⟩ (front ++ old :: back))
      (encode ⟨alphabet, true⟩ (front ++ new :: back)) := by
  have oldBounded := old.toNat_lt
  have newBounded := new.toNat_lt
  have inFirst :
      alphabet.character (old.toNat / 4) ≠ alphabet.character (new.toNat / 4) := by
    rw [ne_eq, Alphabet.character_inj (by omega) (by omega)]
    omega
  have inSecond (first : UInt8) :
      alphabet.character (first.toNat % 4 * 16 + old.toNat / 16) ≠
      alphabet.character (first.toNat % 4 * 16 + new.toNat / 16) := by
    rw [ne_eq, Alphabet.character_inj (by omega) (by omega)]
    omega
  have inThird :
      alphabet.character (old.toNat % 64) ≠ alphabet.character (new.toNat % 64) := by
    rw [ne_eq, Alphabet.character_inj (by omega) (by omega)]
    omega
  have lowest : old.toNat % 4 = new.toNat % 4 := by omega
  match front with
  | [] =>
      match back with
      | [] =>
          rw [List.nil_append, List.nil_append, encode_one, encode_one, lowest]
          exact .here inFirst
      | [next] =>
          rw [List.nil_append, List.nil_append, encode_two, encode_two, lowest]
          exact .here inFirst
      | next :: third :: rest =>
          rw [List.nil_append, List.nil_append, encode_three, encode_three, lowest]
          exact .here inFirst
  | [first] =>
      match back with
      | [] =>
          rw [List.singleton_append, List.singleton_append, encode_two, encode_two, lower]
          exact .behind (.here (inSecond first))
      | next :: rest =>
          rw [List.singleton_append, List.singleton_append, encode_three, encode_three,
            lower]
          exact .behind (.here (inSecond first))
  | [first, second] =>
      change DiffersOnce (encode _ (first :: second :: old :: back))
        (encode _ (first :: second :: new :: back))
      rw [encode_three, encode_three, top]
      exact .behind (.behind (.behind (.here inThird)))
  | first :: second :: third :: others =>
      rw [List.cons_append, List.cons_append, List.cons_append, List.cons_append,
        List.cons_append, List.cons_append, encode_three, encode_three]
      exact .behind
        (.behind (.behind (.behind (differsOnce_of_octet top lower differs others back))))

end Base64

section Capitals

theorem eq_or_isCapitalOf_lowerAscii (char : Char) :
    lowerAscii char = char ∨ IsCapitalOf char (lowerAscii char) := by
  have number := toNat_lowerAscii_eq char
  split at number
  · next capital => exact .inr ⟨capital.1, capital.2, number⟩
  · exact .inl (Char.toNat_inj.mp number)

/-- A character with the same upper half as its lower-case form is its lower-case form. -/
theorem lowerAscii_eq_of_upper
    {char : Char}
    (upper : (UInt8.ofNat (lowerAscii char).toNat).toNat / 16 =
      (UInt8.ofNat char.toNat).toNat / 16) :
    lowerAscii char = char := by
  rcases eq_or_isCapitalOf_lowerAscii char with same | ⟨atLeast, atMost, number⟩
  · exact same
  · rw [UInt8.toNat_ofNat', UInt8.toNat_ofNat'] at upper
    omega

/-- ASCII characters that are neighbours of their lower-case forms have at most one
capital. -/
theorem capital_of_neighbours
    {chars : List Char}
    (ascii : ∀ char ∈ chars, char.toNat ≤ 0x7F)
    (neighbours : Base64.Neighbours
      ((chars.map lowerAscii).map fun char => UInt8.ofNat char.toNat)
      (chars.map fun char => UInt8.ofNat char.toNat)) :
    chars.map lowerAscii = chars ∨
      ∃ front small capital back, chars.map lowerAscii = front ++ small :: back ∧
        IsCapitalOf capital small ∧ chars = front ++ capital :: back := by
  induction chars with
  | nil => exact .inl rfl
  | cons char rest inductionHypothesis =>
      obtain ⟨-, restAscii⟩ := List.forall_mem_cons.mp ascii
      have behind
          (same : lowerAscii char = char)
          (further : Base64.Neighbours
            ((rest.map lowerAscii).map fun char => UInt8.ofNat char.toNat)
            (rest.map fun char => UInt8.ofNat char.toNat)) :
          (char :: rest).map lowerAscii = char :: rest ∨
            ∃ front small capital back, (char :: rest).map lowerAscii =
              front ++ small :: back ∧
              IsCapitalOf capital small ∧ char :: rest = front ++ capital :: back := by
        rw [List.map_cons, same]
        rcases inductionHypothesis restAscii further with
          sameRest | ⟨front, small, capital, back, isLower, isCapital, isRest⟩
        · exact .inl (congrArg _ sameRest)
        · exact .inr ⟨char :: front, small, capital, back, congrArg _ isLower, isCapital,
            congrArg _ isRest⟩
      rcases neighbours.of_cons_cons with sameOctets | ⟨same, further⟩ |
        ⟨next, otherNext, back, isNext, isOtherNext, upper, lower⟩
      · have lowerAsciiRest : ∀ char ∈ rest.map lowerAscii, char.toNat ≤ 0x7F := by
          intro small present
          obtain ⟨char, inRest, rfl⟩ := List.mem_map.mp present
          have bounded := restAscii char inRest
          have number := toNat_lowerAscii_eq char
          split at number <;> omega
        have sameRest :=
          congrArg (List.map fun octet : UInt8 => Char.ofNat octet.toNat) sameOctets
        rw [Utf8.map_ofNat_octets_of_ascii lowerAsciiRest,
          Utf8.map_ofNat_octets_of_ascii restAscii]
          at sameRest
        rw [List.map_cons, sameRest]
        rcases eq_or_isCapitalOf_lowerAscii char with same | isCapital
        · exact .inl (congrArg (· :: rest) same)
        · exact .inr ⟨[], lowerAscii char, char, rest, rfl, isCapital, rfl⟩
      · have upper := congrArg (fun octet : UInt8 => octet.toNat / 16) same
        exact behind (lowerAscii_eq_of_upper upper) further
      · refine behind (lowerAscii_eq_of_upper upper) ?_
        rw [isNext, isOtherNext]
        exact .octet next otherNext back

end Capitals
end Text
end Gatehouse
