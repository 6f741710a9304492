import Gatehouse.Proofs.Session.Sealing
import Gatehouse.Proofs.Text.Canonical

/-!
# The format of signed tokens

A token is the Base64 form of three fields with bars between them, of which only the
first may contain bars. The main statement says which tokens are accepted, with which
payload and age, and for each cause of a refusal which tokens are refused for it. The
causes exclude each other: each of them supposes that the earlier ones do not apply.
-/

namespace Gatehouse

/-- A number, stopped at the limits of signed numbers of 64 bits. -/
def saturated (number : Int) : Int :=
  max (-0x8000000000000000) (min number 0x7FFFFFFFFFFFFFFF)

/-- The age is the difference of the times, stopped at the limits, and never negative. -/
theorem elapsed_eq (issued now : Int) :
    (elapsed issued now : Int) = max 0 (saturated (now - issued)) := by
  unfold elapsed saturated Text.Decimal.maxSigned64
  omega

namespace TokenSigner

open Text

/-- A token spells a text: it is what is written for the text in Base64. -/
def Spells (token text : String) : Prop :=
  token = Base64.text Base64.urlSafe (Utf8.encode text)

/-- A token spells three fields between bars, the last two free of bars. -/
structure HasFields (token payload timestamp tagText : String) : Prop where
  spells : Spells token (payload ++ "|" ++ timestamp ++ "|" ++ tagText)
  timestampFree : '|' ∉ timestamp.toList
  tagFree : '|' ∉ tagText.toList

/-- Digits of either case show octets. -/
def ShowsOctets (digits : String) (octets : Bytes) : Prop :=
  lower digits = Hex.text octets

/-- A text consists of pairs of hexadecimal digits of either case. -/
def IsHex (digits : String) : Prop :=
  digits.toList.length % 2 = 0 ∧ ∀ char ∈ digits.toList, Hex.IsDigit char

/-- A text is the literal of a signed number of 64 bits. -/
def IsTimestamp (text : String) (time : Int) : Prop :=
  Decimal.Denotes text.toList time ∧ -0x8000000000000000 ≤ time ∧
    time ≤ 0x7FFFFFFFFFFFFFFF

/-- The tag under a name covers name, payload and time in a row. -/
theorem tag_eq_mac
    (signer : TokenSigner)
    (name payload timestamp : String) :
    signer.tag name payload timestamp =
      signer.algorithm.mac signer.secret
        (Utf8.encode (name ++ payload ++ timestamp)) := by
  rw [tag, Utf8.encode_append, Utf8.encode_append]

/-- The text that is read from a token is the one that it spells. -/
theorem decoded_eq_some_iff
    {token text : String} :
    (Base64.ofText? Base64.urlSafe token).bind Utf8.decode? = some text ↔
      Spells token text := by
  simp only [Option.bind_eq_some_iff, Base64.ofText?_eq_some_iff,
    Utf8.decode?_eq_some_iff]
  constructor
  · rintro ⟨octets, isText, rfl⟩
    exact isText
  · intro spells
    exact ⟨_, spells, rfl⟩

/-- A text is taken apart at its last two bars. -/
theorem fields?_eq_some_iff
    {text payload timestamp tagText : String} :
    fields? text = some (payload, timestamp, tagText) ↔
      text = payload ++ "|" ++ timestamp ++ "|" ++ tagText ∧
        '|' ∉ timestamp.toList ∧ '|' ∉ tagText.toList := by
  constructor
  · intro taken
    simp only [fields?, Option.bind_eq_bind, Option.bind_eq_some_iff, Option.some.injEq,
      Prod.mk.injEq, Prod.exists, splitLast?_eq_some_iff] at taken
    obtain ⟨front, tagChars, ⟨whole, tagFree⟩, payloadChars, timeChars,
      ⟨isFront, timeFree⟩, rfl, rfl, rfl⟩ := taken
    refine ⟨?_, by rwa [String.toList_ofList], by rwa [String.toList_ofList]⟩
    apply String.toList_inj.mp
    simp [whole, isFront]
  · rintro ⟨rfl, timeFree, tagFree⟩
    exact fields?_tokenText timeFree tagFree

/-- A text with fewer than two bars has fewer than three fields. -/
theorem fields?_eq_none_iff (text : String) :
    fields? text = none ↔ text.toList.count '|' < 2 := by
  unfold fields?
  cases behindLast : splitLast? '|' text.toList with
  | none =>
      have absent := splitLast?_eq_none_iff.mp behindLast
      simp [List.count_eq_zero_of_not_mem absent]
  | some parts =>
      obtain ⟨front, tagChars⟩ := parts
      obtain ⟨whole, tagFree⟩ := splitLast?_eq_some_iff.mp behindLast
      rw [whole, List.count_append, List.count_cons_self,
        List.count_eq_zero_of_not_mem tagFree]
      cases inFront : splitLast? '|' front with
      | none =>
          have absent := splitLast?_eq_none_iff.mp inFront
          simp [inFront, List.count_eq_zero_of_not_mem absent]
      | some parts =>
          obtain ⟨payloadChars, timeChars⟩ := parts
          obtain ⟨isFront, -⟩ := splitLast?_eq_some_iff.mp inFront
          have occurs : 0 < front.count '|' := List.count_pos_iff.mpr (by simp [isFront])
          simp only [inFront, Option.bind_eq_bind, Option.bind_some, reduceCtorEq,
            false_iff]
          omega

/-- A text is read as octets that it shows. -/
theorem decodedTag_eq_some_iff
    {digits : String}
    {octets : Bytes} :
    Hex.decode? digits.toList = some octets ↔ ShowsOctets digits octets := by
  rw [Hex.decode?_eq_some_iff, ShowsOctets, lower, Hex.text, String.ofList_inj]

/-- The texts that show octets are those that consist of pairs of digits. -/
theorem decodedTag_eq_none_iff
    {digits : String} :
    Hex.decode? digits.toList = none ↔ ¬ IsHex digits := by
  rw [IsHex, ← Hex.isSome_decode?_iff, Option.not_isSome_iff_eq_none]

section Uniqueness

variable {token payload timestamp tagText : String}

theorem Spells.unique
    {text other : String}
    (spells : Spells token text)
    (spellsOther : Spells token other) :
    text = other := by
  have decoded := decoded_eq_some_iff.mpr spells
  rwa [decoded_eq_some_iff.mpr spellsOther, Option.some.injEq, eq_comm] at decoded

/-- The fields of a token are determined by it. -/
theorem HasFields.unique
    {otherPayload otherTimestamp otherTagText : String}
    (fields : HasFields token payload timestamp tagText)
    (others : HasFields token otherPayload otherTimestamp otherTagText) :
    payload = otherPayload ∧ timestamp = otherTimestamp ∧ tagText = otherTagText := by
  have taken := fields?_eq_some_iff.mpr
    ⟨fields.spells.unique others.spells, others.timestampFree, others.tagFree⟩
  rw [fields?_eq_some_iff.mpr ⟨rfl, fields.timestampFree, fields.tagFree⟩] at taken
  simpa using taken

/-- A signed token has the payload, the time and the tag's digits for fields. -/
theorem hasFields_sign
    (signer : TokenSigner)
    (name payload : String)
    (issued : Time) :
    HasFields (signer.sign name payload issued) payload (Decimal.integer issued)
      (Hex.text (signer.tag name payload (Decimal.integer issued))) where
  spells := rfl
  timestampFree present := absurd (Decimal.isNumeral_of_mem_integer present) (by decide)
  tagFree present :=
    Hex.bar_notMem_encode _ (by rwa [Hex.text, String.toList_ofList] at present)

end Uniqueness

section Digits

variable {digits : String}
variable {octets : Bytes}

theorem ShowsOctets.isHex
    (shows : ShowsOctets digits octets) :
    IsHex digits :=
  (Hex.isSome_decode?_iff _).mp (by rw [decodedTag_eq_some_iff.mpr shows]; rfl)

theorem ShowsOctets.map_lowerAscii
    (shows : ShowsOctets digits octets) :
    digits.toList.map lowerAscii = Hex.encode octets := by
  rwa [ShowsOctets, lower, Hex.text, String.ofList_inj] at shows

theorem showsOctets_text (octets : Bytes) : ShowsOctets (Hex.text octets) octets := by
  rw [ShowsOctets, lower, Hex.text, String.toList_ofList, Hex.map_lowerAscii_encode]

theorem ShowsOctets.unique
    {others : Bytes}
    (shows : ShowsOctets digits octets)
    (showsOthers : ShowsOctets digits others) :
    octets = others := by
  have decoded := decodedTag_eq_some_iff.mpr shows
  rwa [decodedTag_eq_some_iff.mpr showsOthers, Option.some.injEq, eq_comm] at decoded

theorem IsHex.barFree
    (isHex : IsHex digits) :
    '|' ∉ digits.toList :=
  fun present =>
    absurd ((Hex.isSome_value?_iff '|').mpr (isHex.2 '|' present)) (by decide)

theorem IsHex.ascii
    (isHex : IsHex digits) :
    ∀ char ∈ digits.toList, char.toNat ≤ 0x7F :=
  fun char present => Hex.ascii_of_isDigit (isHex.2 char present)

end Digits

theorem isTimestamp_of_exists?
    {issued : Time}
    (dated : Date.exists? issued = true) :
    IsTimestamp (Decimal.integer issued) issued :=
  have bounded := Date.bounded_of_exists? dated
  Decimal.signed64?_eq_some_iff.mp (Decimal.signed64?_integer bounded.1 bounded.2)

/-- An accepted token: a payload, the literal of a time, and their tag. -/
def Carries
    (signer : TokenSigner)
    (name token payload : String)
    (issued : Time) : Prop :=
  ∃ timestamp tagText, HasFields token payload timestamp tagText ∧
    ShowsOctets tagText
      (signer.algorithm.mac signer.secret (Utf8.encode (name ++ payload ++ timestamp))) ∧
    IsTimestamp timestamp issued

/-- The tokens that a signer refuses, by the first cause that applies. -/
inductive Refuses (signer : TokenSigner) (name token : String) : TokenError → Prop
  | unspelled (spellsNothing : ∀ text, ¬ Spells token text) :
      Refuses signer name token .encoding
  | incomplete {text : String} (spells : Spells token text)
      (few : text.toList.count '|' < 2) :
      Refuses signer name token .format
  | unreadable {payload timestamp tagText : String}
      (fields : HasFields token payload timestamp tagText)
      (notHex : ¬ IsHex tagText) :
      Refuses signer name token .format
  | foreign {payload timestamp tagText : String} {octets : Bytes}
      (fields : HasFields token payload timestamp tagText)
      (shows : ShowsOctets tagText octets)
      (differs : octets ≠
        signer.algorithm.mac signer.secret (Utf8.encode (name ++ payload ++ timestamp))) :
      Refuses signer name token .signature
  | undated {payload timestamp tagText : String}
      (fields : HasFields token payload timestamp tagText)
      (shows : ShowsOctets tagText
        (signer.algorithm.mac signer.secret (Utf8.encode (name ++ payload ++ timestamp))))
      (notTime : ∀ time, ¬ IsTimestamp timestamp time) :
      Refuses signer name token .timestamp

section Verification

variable {signer : TokenSigner}
variable {name token payload timestamp tagText : String}
variable {now : Time}

/-- A token with three fields is checked by its last field first. -/
theorem verify_of_fields (fields : HasFields token payload timestamp tagText) :
    signer.verify name token now =
      (Hex.decode? tagText.toList).elim (.error .format) fun claimed =>
        if signer.tag name payload timestamp == claimed then
          (Decimal.signed64? timestamp).elim (.error .timestamp) fun issued =>
            .ok ⟨payload, elapsed issued now⟩
        else .error .signature := by
  have taken : fields? (payload ++ "|" ++ timestamp ++ "|" ++ tagText) =
      some (payload, timestamp, tagText) :=
    fields?_eq_some_iff.mpr ⟨rfl, fields.timestampFree, fields.tagFree⟩
  unfold verify
  simp only [decoded_eq_some_iff.mpr fields.spells, taken]
  cases Hex.decode? tagText.toList with
  | none => rfl
  | some claimed => cases Decimal.signed64? timestamp <;> rfl

/-- A token that carries a payload is accepted with this payload and its age. -/
theorem verify_of_carries
    {issued : Time}
    (carries : signer.Carries name token payload issued) :
    signer.verify name token now = .ok ⟨payload, elapsed issued now⟩ := by
  obtain ⟨timestamp, tagText, fields, shows, isTime⟩ := carries
  rw [← tag_eq_mac] at shows
  rw [verify_of_fields fields]
  simp only [decodedTag_eq_some_iff.mpr shows, Option.elim_some, beq_self_eq_true,
    if_true, Decimal.signed64?_eq_some_iff.mpr isTime]

/-- A token that is refused for a cause yields this cause. -/
theorem verify_of_refuses
    {cause : TokenError}
    (refuses : signer.Refuses name token cause) :
    signer.verify name token now = .error cause := by
  cases refuses with
  | unspelled spellsNothing =>
      have undecoded :
          (Base64.ofText? Base64.urlSafe token).bind Utf8.decode? = none := by
        apply Option.eq_none_iff_forall_not_mem.mpr
        intro text decoded
        exact spellsNothing text (decoded_eq_some_iff.mp decoded)
      unfold verify
      simp only [undecoded]
  | incomplete spells few =>
      unfold verify
      simp only [decoded_eq_some_iff.mpr spells, (fields?_eq_none_iff _).mpr few]
  | unreadable fields notHex =>
      rw [verify_of_fields fields]
      simp only [decodedTag_eq_none_iff.mpr notHex, Option.elim_none]
  | foreign fields shows differs =>
      rw [← tag_eq_mac] at differs
      rw [verify_of_fields fields]
      simp only [decodedTag_eq_some_iff.mpr shows, Option.elim_some,
        beq_false_of_ne (Ne.symm differs), Bool.false_eq_true, if_false]
  | undated fields shows notTime =>
      rw [← tag_eq_mac] at shows
      have unread := Option.eq_none_iff_forall_not_mem.mpr fun time read =>
        notTime time (Decimal.signed64?_eq_some_iff.mp read)
      rw [verify_of_fields fields]
      simp only [decodedTag_eq_some_iff.mpr shows, Option.elim_some, beq_self_eq_true,
        if_true, unread, Option.elim_none]

/-- Every token carries a payload, or is refused for some cause. -/
theorem carries_or_refuses (signer : TokenSigner) (name token : String) :
    (∃ payload issued, signer.Carries name token payload issued) ∨
      ∃ cause, signer.Refuses name token cause := by
  by_cases spelled : ∃ text, Spells token text
  · obtain ⟨text, spells⟩ := spelled
    cases taken : fields? text with
    | none => exact .inr ⟨_, .incomplete spells ((fields?_eq_none_iff text).mp taken)⟩
    | some parts =>
        obtain ⟨payload, timestamp, tagText⟩ := parts
        obtain ⟨rfl, timestampFree, tagFree⟩ := fields?_eq_some_iff.mp taken
        have fields : HasFields token payload timestamp tagText :=
          ⟨spells, timestampFree, tagFree⟩
        cases claimed : Hex.decode? tagText.toList with
        | none => exact .inr ⟨_, .unreadable fields (decodedTag_eq_none_iff.mp claimed)⟩
        | some octets =>
            have shows := decodedTag_eq_some_iff.mp claimed
            by_cases same :
                octets = signer.algorithm.mac signer.secret
                  (Utf8.encode (name ++ payload ++ timestamp))
            · subst same
              by_cases isTime : ∃ time, IsTimestamp timestamp time
              · obtain ⟨time, isTime⟩ := isTime
                exact .inl ⟨payload, time, timestamp, tagText, fields, shows, isTime⟩
              · exact .inr ⟨_, .undated fields shows (not_exists.mp isTime)⟩
            · exact .inr ⟨_, .foreign fields shows same⟩
  · exact .inr ⟨_, .unspelled (not_exists.mp spelled)⟩

/-- The tokens that are accepted are those that carry a payload. -/
theorem verify_eq_ok_iff {age : Nat} :
    signer.verify name token now = .ok ⟨payload, age⟩ ↔
      ∃ issued, signer.Carries name token payload issued ∧ age = elapsed issued now := by
  constructor
  · intro accepted
    rcases carries_or_refuses signer name token
      with ⟨shown, issued, carries⟩ | ⟨cause, refuses⟩
    · rw [verify_of_carries carries, Except.ok.injEq, Verified.mk.injEq] at accepted
      obtain ⟨rfl, rfl⟩ := accepted
      exact ⟨issued, carries, rfl⟩
    · rw [verify_of_refuses refuses] at accepted
      cases accepted
  · rintro ⟨issued, carries, rfl⟩
    exact verify_of_carries carries

/-- The tokens that are refused for a cause are those that this cause refuses. -/
theorem verify_eq_error_iff {cause : TokenError} :
    signer.verify name token now = .error cause ↔ signer.Refuses name token cause := by
  constructor
  · intro refused
    rcases carries_or_refuses signer name token
      with ⟨shown, issued, carries⟩ | ⟨other, refuses⟩
    · rw [verify_of_carries carries] at refused
      cases refused
    · rw [verify_of_refuses refuses, Except.error.injEq] at refused
      rwa [← refused]
  · exact verify_of_refuses

end Verification

/-- The format of tokens. A signed payload is verified with the time that has passed
since. A token is accepted exactly if it is the Base64 form of a payload, a literal of
64 bits and the tag of both in hexadecimal digits of either case, with bars between
them; the payload and the saturated age are the result. Every other token is refused for
the first cause that applies to it. -/
theorem format_decides_verification
    (signer : TokenSigner)
    (name : String) :
    (∀ (payload : String) (issued now : Time),
        Date.exists? issued = true → Date.exists? now = true →
          signer.verify name (signer.sign name payload issued) now =
            .ok ⟨payload, (now - issued).toNat⟩) ∧
      ∀ (token : String) (now : Time),
        (∀ payload age,
          signer.verify name token now = .ok ⟨payload, age⟩ ↔
            ∃ timestamp tagText issued,
              token = Base64.text Base64.urlSafe
                  (Utf8.encode (payload ++ "|" ++ timestamp ++ "|" ++ tagText)) ∧
                '|' ∉ timestamp.toList ∧ '|' ∉ tagText.toList ∧
                lower tagText = Hex.text
                  (signer.algorithm.mac signer.secret
                    (Utf8.encode (name ++ payload ++ timestamp))) ∧
                IsTimestamp timestamp issued ∧
                (age : Int) = max 0 (saturated (now - issued))) ∧
          ∀ cause, signer.verify name token now = .error cause ↔
            signer.Refuses name token cause := by
  refine ⟨?_, fun token now => ⟨fun payload age => ?_, fun cause => verify_eq_error_iff⟩⟩
  · intro payload issued now issuedDated nowDated
    rw [signer.verify_sign name payload issuedDated,
      elapsed_of_exists? issuedDated nowDated]
  · rw [verify_eq_ok_iff]
    constructor
    · rintro ⟨issued, ⟨timestamp, tagText, fields, shows, isTime⟩, rfl⟩
      exact ⟨timestamp, tagText, issued, fields.spells, fields.timestampFree,
        fields.tagFree, shows, isTime, elapsed_eq issued now⟩
    · rintro ⟨timestamp, tagText, issued, spells, timestampFree, tagFree, shows,
        isTime, isAge⟩
      rw [← elapsed_eq, Int.natCast_inj] at isAge
      exact ⟨issued, ⟨timestamp, tagText, ⟨spells, timestampFree, tagFree⟩, shows,
        isTime⟩, isAge⟩

/-- Bars in a payload are kept, and the empty token lacks fields. -/
theorem bars_are_kept :
    let signer : TokenSigner := ⟨Utf8.encode "secret", .sha256⟩
    signer.verify "_lap" (signer.sign "_lap" "a|b|c" 1700000000) 1700000090 =
      .ok ⟨"a|b|c", 90⟩ ∧
      signer.verify "_lap" "" 1700000000 = .error .format := by
  intro signer
  obtain ⟨roundTrip, decides⟩ := format_decides_verification signer "_lap"
  refine ⟨roundTrip "a|b|c" 1700000000 1700000090 (by decide) (by decide), ?_⟩
  have spells : Spells "" "" := by
    unfold Spells
    decide +kernel
  exact ((decides "" 1700000000).2 .format).mpr (.incomplete spells (by decide))

end TokenSigner
end Gatehouse
