import Gatehouse.Proofs.Text.Decimal
import Gatehouse.Proofs.Text.Octets
import Gatehouse.Proofs.Text.Splitting
import Gatehouse.Session.Token

/-!
# What the tag of a token binds

The tag covers the name of the cookie, the payload and the time with nothing between them,
while the token shows payload and time with a bar between them. A client that holds one
token may therefore move the border between the two: it gets exactly those tokens whose
payload and time, written one behind the other, are what was signed. The main statement
says which tokens are accepted under a tag, and that a tag binds its payload and its time
only if no other border leaves a literal behind it.
-/

namespace Gatehouse
namespace TokenSigner

open Text

/-- The octets under a tag. -/
def covered (name payload timestamp : String) : Bytes :=
  Utf8.encode name ++ Utf8.encode payload ++ Utf8.encode timestamp

/-- A token shows a payload, a time as it is written, and a tag. -/
def Shows (token payload timestamp : String) (tag : Bytes) : Prop :=
  ∃ text tagText,
    (Base64.ofText? Base64.urlSafe token).bind Utf8.decode? = some text ∧
      fields? text = some (payload, timestamp, tagText) ∧
      Hex.decode? tagText.toList = some tag

/-- Different octets under one name have the same tag. -/
def Collides
    (signer : TokenSigner)
    (name payload timestamp otherPayload otherTimestamp : String) : Prop :=
  covered name payload timestamp ≠ covered name otherPayload otherTimestamp ∧
    signer.tag name payload timestamp = signer.tag name otherPayload otherTimestamp

/-- A tag binds both: accepted tokens with it carry payload and time, unless messages
collide. -/
def Binds
    (signer : TokenSigner)
    (name payload : String)
    (issued : Time) : Prop :=
  ∀ token now timestamp verified,
    Shows token verified.payload timestamp
      (signer.tag name payload (Decimal.integer issued)) →
    signer.verify name token now = .ok verified →
    (verified.payload = payload ∧ verified.age = elapsed issued now) ∨
      signer.Collides name payload (Decimal.integer issued) verified.payload timestamp

/-- The octets under two tags agree exactly if payload and time agree as one text. -/
theorem covered_eq_covered_iff
    {name payload timestamp otherPayload otherTimestamp : String} :
    covered name payload timestamp = covered name otherPayload otherTimestamp ↔
      payload ++ timestamp = otherPayload ++ otherTimestamp := by
  rw [covered, covered, List.append_assoc, List.append_assoc, List.append_cancel_left_eq,
    ← Utf8.encode_append, ← Utf8.encode_append]
  exact ⟨Utf8.encode_injective, fun same => by rw [same]⟩

/-- A time contains no bar if it is the literal of a number. -/
theorem bar_notMem_of_signed64?
    {timestamp : String}
    {value : Int}
    (read : Decimal.signed64? timestamp = some value) :
    '|' ∉ timestamp.toList := by
  intro present
  have numeral := (Decimal.isNumeral_of_signed? read).2 '|' present
  exact absurd numeral (by decide)

/-- The text of a token is taken apart into what it was put together from. -/
theorem fields?_tokenText
    {payload timestamp tagText : String}
    (timeFree : '|' ∉ timestamp.toList)
    (tagFree : '|' ∉ tagText.toList) :
    fields? (tokenText payload timestamp tagText) =
      some (payload, timestamp, tagText) := by
  have shape : (tokenText payload timestamp tagText).toList =
      (payload.toList ++ '|' :: timestamp.toList) ++ '|' :: tagText.toList := by
    simp [tokenText, String.toList_append]
  unfold fields?
  rw [shape, splitLast?_append _ tagFree]
  simp [splitLast?_append _ timeFree]

/-- The token with a payload, a time and a tag. -/
def assemble (payload timestamp : String) (tag : Bytes) : String :=
  Base64.text Base64.urlSafe (Utf8.encode (tokenText payload timestamp (Hex.text tag)))

/-- An assembled token shows its parts. -/
theorem shows_assemble
    {payload timestamp : String}
    {tag : Bytes}
    (timeFree : '|' ∉ timestamp.toList) :
    Shows (assemble payload timestamp tag) payload timestamp tag := by
  refine ⟨tokenText payload timestamp (Hex.text tag), Hex.text tag, ?_, ?_, ?_⟩
  · simp [assemble, Utf8.decode?_encode]
  · exact fields?_tokenText timeFree (by simpa [Hex.text] using Hex.bar_notMem_encode tag)
  · simp [Hex.text]

/-- A signed token shows what was signed and its tag. -/
theorem shows_sign
    (signer : TokenSigner)
    (name payload : String)
    (issued : Time) :
    Shows (signer.sign name payload issued) payload (Decimal.integer issued)
      (signer.tag name payload (Decimal.integer issued)) :=
  shows_assemble fun present =>
    absurd (Decimal.isNumeral_of_mem_integer present) (by decide)

/-- What a token shows decides whether it is accepted. -/
theorem verify_of_shows
    {signer : TokenSigner}
    {name token payload timestamp : String}
    {tag : Bytes}
    {now : Time}
    {verified : Verified}
    (shown : Shows token payload timestamp tag) :
    signer.verify name token now = .ok verified ↔
      signer.tag name payload timestamp = tag ∧
        ∃ time, Decimal.signed64? timestamp = some time ∧
          verified = ⟨payload, elapsed time now⟩ := by
  obtain ⟨text, tagText, decoded, taken, claimed⟩ := shown
  unfold verify
  simp only [decoded, taken, claimed, beq_iff_eq]
  by_cases same : signer.tag name payload timestamp = tag
  · cases read : Decimal.signed64? timestamp with
    | none => simp [same]
    | some time => simp [same, eq_comm]
  · simp [same]

/-- A border that leaves a literal behind it gives a token under the same tag. -/
theorem exists_token_of_border
    (signer : TokenSigner)
    (name : String)
    {payload timestamp movedPayload movedTimestamp : String}
    {time : Int}
    (same : movedPayload ++ movedTimestamp = payload ++ timestamp)
    (read : Decimal.signed64? movedTimestamp = some time) :
    ∃ token, Shows token movedPayload movedTimestamp (signer.tag name payload timestamp) ∧
      ∀ now, signer.verify name token now = .ok ⟨movedPayload, elapsed time now⟩ := by
  have shown : Shows
      (assemble movedPayload movedTimestamp (signer.tag name payload timestamp))
      movedPayload movedTimestamp (signer.tag name payload timestamp) :=
    shows_assemble (bar_notMem_of_signed64? read)
  refine ⟨_, shown, fun now => (verify_of_shows shown).mpr ⟨?_, time, read, rfl⟩⟩
  have octets :
      covered name movedPayload movedTimestamp = covered name payload timestamp :=
    covered_eq_covered_iff.mpr same
  exact congrArg (signer.algorithm.mac signer.secret) octets

/-- A tag that binds its payload leaves no other border. -/
theorem Binds.eq_of_border
    {signer : TokenSigner}
    {name payload movedPayload movedTimestamp : String}
    {issued : Time}
    {time : Int}
    (binds : signer.Binds name payload issued)
    (same : movedPayload ++ movedTimestamp = payload ++ Decimal.integer issued)
    (read : Decimal.signed64? movedTimestamp = some time) :
    movedPayload = payload := by
  obtain ⟨token, shown, accepted⟩ := exists_token_of_border signer name same read
  rcases binds token 0 movedTimestamp ⟨movedPayload, _⟩ shown (accepted 0) with
    ⟨samePayload, -⟩ | ⟨different, -⟩
  · exact samePayload
  · exact absurd (covered_eq_covered_iff.mpr same.symm) different

/-- A literal with more than one character has a digit behind all the others. -/
theorem exists_border_of_integer
    {number : Int}
    (long : ¬ (0 ≤ number ∧ number ≤ 9)) :
    ∃ front digit, front ≠ [] ∧ isDigit digit = true ∧
      (Decimal.integer number).toList = front ++ [digit] := by
  cases number with
  | ofNat value =>
      have large : 10 ≤ value := by
        simp only [Int.ofNat_eq_natCast] at long
        omega
      have digits : (Decimal.integer (Int.ofNat value)).toList = Nat.toDigits 10 value :=
        Decimal.toList_integer_ofNat value
      rw [Nat.toDigits_of_base_le (by decide) large] at digits
      have lastDigit : Nat.digitChar (value % 10) ∈ Nat.toDigits 10 (value % 10) := by
        rw [Nat.toDigits_of_lt_base (Nat.mod_lt _ (by decide))]
        simp
      exact ⟨_, _, Nat.toDigits_ne_nil, Decimal.isDigit_of_mem_toDigits lastDigit, digits⟩
  | negSucc value =>
      have nonempty : Nat.toDigits 10 (value + 1) ≠ [] := Nat.toDigits_ne_nil
      refine ⟨'-' :: (Nat.toDigits 10 (value + 1)).dropLast,
        (Nat.toDigits 10 (value + 1)).getLast nonempty, by simp, ?_, ?_⟩
      · exact Decimal.isDigit_of_mem_toDigits (List.getLast_mem nonempty)
      · rw [Decimal.integer, String.toList_ofList, List.cons_append,
          List.dropLast_concat_getLast nonempty]

/-- A number of one digit is written as that digit. -/
theorem exists_digit_of_integer
    {number : Int}
    (lower : 0 ≤ number)
    (upper : number ≤ 9) :
    ∃ digit, isDigit digit = true ∧ (Decimal.integer number).toList = [digit] := by
  obtain ⟨value, rfl⟩ := Int.eq_ofNat_of_zero_le lower
  have small : value < 10 := by omega
  have digits := Decimal.toList_integer_ofNat value
  rw [Nat.toDigits_of_lt_base small] at digits
  have onlyDigit : Nat.digitChar value ∈ Nat.toDigits 10 value := by
    rw [Nat.toDigits_of_lt_base small]
    simp
  exact ⟨_, Decimal.isDigit_of_mem_toDigits onlyDigit, digits⟩

/-- A tag binds its payload only if the time is a single digit. -/
theorem Binds.single_digit
    {signer : TokenSigner}
    {name payload : String}
    {issued : Time}
    (binds : signer.Binds name payload issued) :
    0 ≤ issued ∧ issued ≤ 9 := by
  by_contra long
  obtain ⟨front, digit, nonempty, digitIsDigit, shape⟩ := exists_border_of_integer long
  obtain ⟨time, read⟩ := Decimal.exists_signed64?_digit digitIsDigit
  have same : (payload ++ String.ofList front) ++ String.ofList [digit] =
      payload ++ Decimal.integer issued := by
    apply String.toList_inj.mp
    simp [shape]
  have moved := binds.eq_of_border same read
  have lists := congrArg String.toList moved
  simp only [String.toList_append, String.toList_ofList,
    List.append_right_eq_self] at lists
  exact nonempty lists

/-- A tag binds its payload only if the payload does not end like a literal. -/
theorem Binds.getLast?_not_numeral
    {signer : TokenSigner}
    {name payload : String}
    {issued : Time}
    (binds : signer.Binds name payload issued)
    {last : Char}
    (ending : payload.toList.getLast? = some last) :
    ¬ Decimal.IsNumeral last := by
  intro numeral
  obtain ⟨lower, upper⟩ := binds.single_digit
  obtain ⟨digit, digitIsDigit, shape⟩ := exists_digit_of_integer lower upper
  obtain ⟨time, read⟩ := Decimal.exists_signed64?_pair numeral digitIsDigit
  obtain ⟨front, payloadShape⟩ := List.getLast?_eq_some_iff.mp ending
  have same : String.ofList front ++ String.ofList [last, digit] =
      payload ++ Decimal.integer issued := by
    apply String.toList_inj.mp
    simp [shape, payloadShape]
  have moved := binds.eq_of_border same read
  have lists := congrArg String.toList moved
  simp [payloadShape] at lists

/-- Behind a payload that does not end like a literal, one digit has one border. -/
theorem eq_of_border_of_single_digit
    {shown timestamp payload : List Char}
    {digit : Char}
    (same : shown ++ timestamp = payload ++ [digit])
    (nonempty : timestamp ≠ [])
    (numerals : ∀ char ∈ timestamp, Decimal.IsNumeral char)
    (ending : ∀ last, payload.getLast? = some last → ¬ Decimal.IsNumeral last) :
    shown = payload ∧ timestamp = [digit] := by
  rcases List.append_eq_append_iff.mp same with
    ⟨moved, payloadShape, timestampShape⟩ | ⟨moved, shownShape, digitShape⟩
  · cases last : moved.getLast? with
    | none =>
        have empty : moved = [] := List.getLast?_eq_none_iff.mp last
        subst empty
        exact ⟨by simpa using payloadShape.symm, by simpa using timestampShape⟩
    | some char =>
        have inTimestamp : char ∈ timestamp := by
          rw [timestampShape]
          exact List.mem_append_left _ (List.mem_of_getLast? last)
        have endsPayload : payload.getLast? = some char := by
          rw [payloadShape, List.getLast?_append, last]
          rfl
        exact absurd (numerals char inTimestamp) (ending char endsPayload)
  · cases moved with
    | nil => exact ⟨by simpa using shownShape, by simpa using digitShape.symm⟩
    | cons first rest =>
        simp only [List.cons_append, List.cons.injEq, List.nil_eq, List.append_eq_nil_iff]
          at digitShape
        exact absurd digitShape.2.2 nonempty

/-- A single digit behind a payload that does not end like a literal is bound. -/
theorem binds_of_single_digit
    (signer : TokenSigner)
    (name : String)
    {payload : String}
    {issued : Time}
    (lower : 0 ≤ issued)
    (upper : issued ≤ 9)
    (ending : ∀ last, payload.toList.getLast? = some last → ¬ Decimal.IsNumeral last) :
    signer.Binds name payload issued := by
  intro token now timestamp verified shown accepted
  obtain ⟨sameTag, time, read, parts⟩ := (verify_of_shows shown).mp accepted
  by_cases same :
      covered name payload (Decimal.integer issued) =
        covered name verified.payload timestamp
  · left
    obtain ⟨digit, -, shape⟩ := exists_digit_of_integer lower upper
    have lists := congrArg String.toList (covered_eq_covered_iff.mp same)
    simp only [String.toList_append, shape] at lists
    obtain ⟨nonempty, numerals⟩ := Decimal.isNumeral_of_signed? read
    obtain ⟨samePayload, sameTime⟩ :=
      eq_of_border_of_single_digit lists.symm nonempty numerals ending
    have timeEquality : timestamp = Decimal.integer issued := by
      rw [← String.toList_inj, sameTime, shape]
    have inRange : Decimal.signed64? (Decimal.integer issued) = some issued :=
      Decimal.signed64?_integer (Int.le_trans (by decide) lower)
        (Int.le_trans upper (by decide))
    rw [timeEquality, inRange, Option.some.injEq] at read
    refine ⟨String.toList_inj.mp samePayload, ?_⟩
    rw [parts, read]
  · exact Or.inr ⟨same, sameTag.symm⟩

/-- A signed token shows its payload, its time and their tag. Under this tag exactly
those tokens are accepted whose payload and time, one behind the other, are what was
signed, up to collisions. The tag binds payload and time exactly if the time is a single
digit and the payload ends neither in a digit nor in a sign. -/
theorem accepted_under_tag_and_binds_iff
    (signer : TokenSigner)
    (name payload : String)
    (issued : Time) :
    Shows (signer.sign name payload issued) payload (Decimal.integer issued)
        (signer.tag name payload (Decimal.integer issued)) ∧
      (∀ token now shown timestamp verified,
        Shows token shown timestamp (signer.tag name payload (Decimal.integer issued)) →
        ¬ signer.Collides name payload (Decimal.integer issued) shown timestamp →
        (signer.verify name token now = .ok verified ↔
          shown ++ timestamp = payload ++ Decimal.integer issued ∧
            ∃ time, Decimal.signed64? timestamp = some time ∧
              verified = ⟨shown, elapsed time now⟩)) ∧
      (signer.Binds name payload issued ↔
        (0 ≤ issued ∧ issued ≤ 9) ∧
          ∀ last, payload.toList.getLast? = some last → ¬ Decimal.IsNumeral last) := by
  refine ⟨shows_sign signer name payload issued, ?_, ?_⟩
  · intro token now shown timestamp verified shows apart
    rw [verify_of_shows shows]
    have sameTag_iff : signer.tag name shown timestamp =
        signer.tag name payload (Decimal.integer issued) ↔
          shown ++ timestamp = payload ++ Decimal.integer issued := by
      constructor
      · intro sameTag
        by_contra different
        exact apart ⟨fun same => different (covered_eq_covered_iff.mp same.symm),
          sameTag.symm⟩
      · intro same
        have octets : covered name shown timestamp =
            covered name payload (Decimal.integer issued) :=
          covered_eq_covered_iff.mpr same
        exact congrArg (signer.algorithm.mac signer.secret) octets
    rw [sameTag_iff]
  · constructor
    · intro binds
      exact ⟨binds.single_digit, fun last ending => binds.getLast?_not_numeral ending⟩
    · rintro ⟨⟨lower, upper⟩, ending⟩
      exact binds_of_single_digit signer name lower upper ending

/-- Whoever holds the token of `alice1` has one of `alice` that does not age. -/
theorem moved_border_is_accepted :
    let signer : TokenSigner := ⟨Utf8.encode "secret", .sha256⟩
    let payload := "email: user:alice1"
    (∃ token,
        Shows token "email: user:alice" "11700000000"
            (signer.tag "_lap" payload (Decimal.integer 1700000000)) ∧
          signer.verify "_lap" token 1700000000 = .ok ⟨"email: user:alice", 0⟩) ∧
      covered "_lap" payload (Decimal.integer 1700000000) =
        covered "_lap" "email: user:alice" "11700000000" ∧
      ¬ signer.Binds "_lap" payload 1700000000 := by
  intro signer payload
  have written : Decimal.integer 1700000000 = "1700000000" := by decide +kernel
  have read : Decimal.signed64? "11700000000" = some 11700000000 := by decide +kernel
  have same :
      "email: user:alice" ++ "11700000000" = payload ++ Decimal.integer 1700000000 := by
    rw [written]
    decide +kernel
  obtain ⟨token, shown, accepted⟩ := exists_token_of_border signer "_lap" same read
  refine ⟨⟨token, shown, accepted 1700000000⟩, (covered_eq_covered_iff.mpr same).symm, ?_⟩
  intro binds
  exact absurd binds.single_digit (by decide)

end TokenSigner
end Gatehouse
