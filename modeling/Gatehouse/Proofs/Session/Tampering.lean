import Gatehouse.Proofs.Session.TokenFormat
import Gatehouse.Proofs.Text.Altered

/-!
# Tokens with one octet replaced

Whoever replaces one octet of a signed token, and still has a token that can be read,
has changed its text on one side of the last bar only. If that is the side of the tag,
the text shows the same payload and the same time, and the tag is accepted only if it is
spelled with a capital letter. If it is the other side, the tag covers other octets,
because a bar cannot change its place. So a token with one octet replaced is refused, up
to different octets with the same tag and up to the capital letters. A tag has other
spellings with capital letters unless all of its digits are decimal.
-/

namespace Gatehouse

namespace Crypto
namespace HashAlgorithm

/-- The size of a digest in octets. -/
def digestSize : HashAlgorithm → Nat
  | .sha1 => 20
  | .sha256 => 32
  | .sha512 => 64

/-- A digest has the size of its algorithm. -/
theorem length_digest
    (algorithm : HashAlgorithm)
    (message : Bytes) :
    (algorithm.digest message).length = algorithm.digestSize := by
  cases algorithm with
  | sha1 => simp [digest, Sha1.digest, digestSize, length_toBigEndian]
  | sha256 =>
      simp [digest, Sha256.digest, Sha2.digestWith, Sha256.parameters, digestSize,
        length_toBigEndian]
  | sha512 =>
      simp [digest, Sha512.digest, Sha2.digestWith, Sha512.parameters, digestSize,
        length_toBigEndian]

theorem length_mac
    (algorithm : HashAlgorithm)
    (key message : Bytes) :
    (algorithm.mac key message).length = algorithm.digestSize :=
  algorithm.length_digest _

theorem digestSize_pos (algorithm : HashAlgorithm) : 0 < algorithm.digestSize := by
  cases algorithm <;> decide

end HashAlgorithm
end Crypto

namespace TokenSigner

open Text

/-- The octet of the bar. -/
def bar : UInt8 := 0x7C

/-- One octet of a token has been replaced by a different one. -/
def IsAltered (token altered : String) : Prop :=
  DiffersOnce (Utf8.encode token) (Utf8.encode altered)

/-- A token spells a signed payload and its time, and their tag with one letter
capitalised. -/
def CapitalizesTag
    (signer : TokenSigner)
    (name payload : String)
    (issued : Time)
    (altered : String) : Prop :=
  ∃ front small capital back,
    Hex.encode (signer.tag name payload (Decimal.integer issued)) =
      front ++ small :: back ∧
      IsCapitalOf capital small ∧
      Spells altered (payload ++ "|" ++ Decimal.integer issued ++ "|" ++
        String.ofList (front ++ capital :: back))

/-- Every token with one octet replaced is refused at every time, unless octets
collide. -/
def RefusesAlterations
    (signer : TokenSigner)
    (name payload : String)
    (issued : Time) : Prop :=
  ∀ altered now, IsAltered (signer.sign name payload issued) altered →
    (∃ cause, signer.verify name altered now = .error cause) ∨
      ∃ shown timestamp tagText, HasFields altered shown timestamp tagText ∧
        signer.Collides name payload (Decimal.integer issued) shown timestamp

section Fields

variable {token payload timestamp tagText : String}

theorem encode_fields (payload timestamp tagText : String) :
    Utf8.encode (payload ++ "|" ++ timestamp ++ "|" ++ tagText) =
      (Utf8.encode payload ++ bar :: Utf8.encode timestamp) ++
        bar :: Utf8.encode tagText := by
  have isBar : Utf8.encode "|" = [bar] := by decide
  simp only [Utf8.encode_append, isBar, List.append_assoc, List.cons_append,
    List.nil_append]

/-- Tokens differ in one octet exactly if the Base64 forms of their texts do. -/
theorem isAltered_iff
    {altered text other : String}
    (spells : Spells token text)
    (spellsOther : Spells altered other) :
    IsAltered token altered ↔
      DiffersOnce (Base64.encode Base64.urlSafe (Utf8.encode text))
        (Base64.encode Base64.urlSafe (Utf8.encode other)) := by
  rw [IsAltered, spells, spellsOther, Base64.differsOnce_text_iff]

/-- A token with one octet replaced spells another text. -/
theorem IsAltered.text_ne
    {altered text other : String}
    (isAltered : IsAltered token altered)
    (spells : Spells token text)
    (spellsOther : Spells altered other) :
    text ≠ other := by
  rintro rfl
  exact isAltered.ne (congrArg Utf8.encode (spells.trans spellsOther.symm))

/-- The digits that show tags under one algorithm are equally many. -/
theorem length_encode_of_shows_tag
    {signer : TokenSigner}
    {name digits : String}
    (shows : ShowsOctets digits (signer.tag name payload timestamp)) :
    (Utf8.encode digits).length = 2 * signer.algorithm.digestSize := by
  rw [Utf8.encode_of_ascii shows.isHex.ascii, List.length_map,
    ← List.length_map lowerAscii, shows.map_lowerAscii, Hex.length_encode, tag,
    Crypto.HashAlgorithm.length_mac]

theorem bar_notMem_encode
    {text : String}
    (ascii : ∀ char ∈ text.toList, char.toNat ≤ 0x7F)
    (free : '|' ∉ text.toList) :
    bar ∉ Utf8.encode text :=
  fun present => free (Utf8.mem_of_octet_mem_encode ascii (by decide) present)

/-- A literal is encoded without bars. -/
theorem IsTimestamp.bar_notMem_encode
    {time : Int}
    (isTime : IsTimestamp timestamp time) :
    bar ∉ Utf8.encode timestamp := by
  have read := Decimal.signed64?_eq_some_iff.mpr isTime
  exact TokenSigner.bar_notMem_encode
    (fun char present => Decimal.ascii_of_isNumeral
      ((Decimal.isNumeral_of_signed? read).2 char present))
    (bar_notMem_of_signed64? read)

end Fields

section Alterations

variable {signer : TokenSigner}
variable {name payload altered : String}
variable {issued : Time}

/-- A token with a capital in its tag shows what was signed. -/
theorem CapitalizesTag.exists_hasFields
    (capitalizes : signer.CapitalizesTag name payload issued altered) :
    ∃ tagText, HasFields altered payload (Decimal.integer issued) tagText ∧
      ShowsOctets tagText (signer.tag name payload (Decimal.integer issued)) := by
  obtain ⟨front, small, capital, back, isTag, isCapital, spells⟩ := capitalizes
  have signed := signer.hasFields_sign name payload issued
  have sameLetter : lowerAscii capital = lowerAscii small :=
    lowerAscii_eq_iff.mpr (.inr (.inl isCapital))
  have sameForm : (front ++ capital :: back).map lowerAscii =
      (front ++ small :: back).map lowerAscii := by
    simp only [List.map_append, List.map_cons, sameLetter]
  have shows : ShowsOctets (String.ofList (front ++ capital :: back))
      (signer.tag name payload (Decimal.integer issued)) := by
    rw [ShowsOctets, lower, String.toList_ofList, sameForm, ← isTag,
      Hex.map_lowerAscii_encode, Hex.text]
  exact ⟨_, ⟨spells, signed.timestampFree, shows.isHex.barFree⟩, shows⟩

/-- A token with a capital letter in its tag is accepted. -/
theorem CapitalizesTag.verify
    (capitalizes : signer.CapitalizesTag name payload issued altered)
    (dated : Date.exists? issued = true)
    (now : Time) :
    signer.verify name altered now = .ok ⟨payload, elapsed issued now⟩ := by
  obtain ⟨tagText, fields, shows⟩ := capitalizes.exists_hasFields
  rw [tag_eq_mac] at shows
  exact verify_of_carries ⟨_, tagText, fields, shows, isTimestamp_of_exists? dated⟩

/-- A capital letter in the tag is one octet of the token. -/
theorem CapitalizesTag.isAltered
    (capitalizes : signer.CapitalizesTag name payload issued altered) :
    IsAltered (signer.sign name payload issued) altered := by
  obtain ⟨front, small, capital, back, isTag, ⟨atLeast, atMost, number⟩, spells⟩ :=
    capitalizes
  have signed := signer.hasFields_sign name payload issued
  have shape {char : Char} (ascii : char.toNat ≤ 0x7F) :
      Utf8.encode (payload ++ "|" ++ Decimal.integer issued ++ "|" ++
        String.ofList (front ++ char :: back)) =
        (Utf8.encode (payload ++ "|" ++ Decimal.integer issued ++ "|") ++
            front.flatMap String.utf8EncodeChar) ++
          UInt8.ofNat char.toNat :: back.flatMap String.utf8EncodeChar := by
    rw [Utf8.encode_append, Utf8.encode_eq_flatMap (String.ofList _),
      String.toList_ofList, List.flatMap_append, List.flatMap_cons,
      Utf8.utf8EncodeChar_of_ascii ascii, List.append_assoc]
    rfl
  have smallAscii : small.toNat ≤ 0x7F := by omega
  have capitalAscii : capital.toNat ≤ 0x7F := by omega
  rw [isAltered_iff signed.spells spells, Hex.text, isTag, shape smallAscii,
    shape capitalAscii]
  apply Base64.differsOnce_of_octet <;> rw [Utf8.toNat_octet_of_ascii smallAscii,
    Utf8.toNat_octet_of_ascii capitalAscii] <;> omega

/-- A token of what was signed, with one octet replaced, has a capital in its tag. -/
theorem capitalizesTag_of_neighbours
    {tagText : String}
    (isAltered : IsAltered (signer.sign name payload issued) altered)
    (fields : HasFields altered payload (Decimal.integer issued) tagText)
    (shows : ShowsOctets tagText (signer.tag name payload (Decimal.integer issued)))
    (neighbours : Base64.Neighbours
      (Utf8.encode (Hex.text (signer.tag name payload (Decimal.integer issued))))
      (Utf8.encode tagText)) :
    signer.CapitalizesTag name payload issued altered := by
  have differs :=
    isAltered.text_ne (signer.hasFields_sign name payload issued).spells fields.spells
  rw [Utf8.encode_of_ascii (showsOctets_text _).isHex.ascii,
    Utf8.encode_of_ascii shows.isHex.ascii, Hex.text, String.toList_ofList,
    ← shows.map_lowerAscii] at neighbours
  rcases capital_of_neighbours shows.isHex.ascii neighbours with
    same | ⟨front, small, capital, back, isLower, isCapital, isTagText⟩
  · rw [shows.map_lowerAscii] at same
    rw [Hex.text, same, String.ofList_toList] at differs
    exact absurd rfl differs
  · rw [shows.map_lowerAscii] at isLower
    refine ⟨front, small, capital, back, isLower, isCapital, ?_⟩
    rw [← isTagText, String.ofList_toList]
    exact fields.spells

/-- A changed token shows the tag of its own text only by a capital or a collision. -/
theorem capitalizesTag_or_collides
    {shown timestamp tagText : String}
    {time : Int}
    (dated : Date.exists? issued = true)
    (isAltered : IsAltered (signer.sign name payload issued) altered)
    (fields : HasFields altered shown timestamp tagText)
    (shows : ShowsOctets tagText (signer.tag name shown timestamp))
    (isTime : IsTimestamp timestamp time) :
    (shown = payload ∧ timestamp = Decimal.integer issued ∧
        signer.CapitalizesTag name payload issued altered) ∨
      signer.Collides name payload (Decimal.integer issued) shown timestamp := by
  have signed := signer.hasFields_sign name payload issued
  have signedShows := showsOctets_text (signer.tag name payload (Decimal.integer issued))
  have signedTimeFree := (isTimestamp_of_exists? dated).bar_notMem_encode
  have timeFree := isTime.bar_notMem_encode
  have differs := isAltered.text_ne signed.spells fields.spells
  have neighbours :=
    Base64.neighbours_of_differsOnce
      ((isAltered_iff signed.spells fields.spells).mp isAltered)
  rw [encode_fields, encode_fields] at neighbours
  have size := length_encode_of_shows_tag signedShows
  have digits := signer.algorithm.digestSize_pos
  have nonempty :
      Utf8.encode (Hex.text (signer.tag name payload (Decimal.integer issued))) ≠ [] :=
    List.ne_nil_of_length_pos (by omega)
  rcases neighbours.of_divided nonempty
    (size.trans (length_encode_of_shows_tag shows).symm)
    (bar_notMem_encode signedShows.isHex.ascii signed.tagFree)
    (bar_notMem_encode shows.isHex.ascii fields.tagFree)
      with ⟨sameFront, differ⟩ | ⟨sameTag, differ⟩
  · have parts := splitLast?_append (Utf8.encode payload) signedTimeFree
    rw [sameFront, splitLast?_append _ timeFree, Option.some.injEq,
      Prod.mk.injEq] at parts
    obtain rfl := Utf8.encode_injective parts.1
    obtain rfl := Utf8.encode_injective parts.2
    rcases differ with sameDigits | differ
    · rw [Utf8.encode_injective sameDigits] at differs
      exact absurd rfl differs
    · exact .inl ⟨rfl, rfl, capitalizesTag_of_neighbours isAltered fields shows differ⟩
  · obtain rfl := Utf8.encode_injective sameTag
    refine .inr ⟨fun same => ?_, signedShows.unique shows⟩
    have appended := congrArg Utf8.encode (covered_eq_covered_iff.mp same)
    rw [Utf8.encode_append, Utf8.encode_append] at appended
    obtain ⟨samePayload, sameTime⟩ :=
      differ.eq_of_append_eq signedTimeFree timeFree appended
    rw [Utf8.encode_injective samePayload, Utf8.encode_injective sameTime] at differs
    exact differs rfl

/-- An accepted token with one octet replaced has a capital in its tag, or octets
collide. -/
theorem capitalizesTag_or_collides_of_verify
    {now : Time}
    {verified : Verified}
    (dated : Date.exists? issued = true)
    (isAltered : IsAltered (signer.sign name payload issued) altered)
    (accepted : signer.verify name altered now = .ok verified) :
    (signer.CapitalizesTag name payload issued altered ∧
      verified = ⟨payload, elapsed issued now⟩) ∨
      ∃ timestamp tagText, HasFields altered verified.payload timestamp tagText ∧
        signer.Collides name payload (Decimal.integer issued) verified.payload
          timestamp := by
  obtain ⟨shown, age⟩ := verified
  obtain ⟨time, ⟨timestamp, tagText, fields, shows, isTime⟩, rfl⟩ :=
    verify_eq_ok_iff.mp accepted
  rw [← tag_eq_mac] at shows
  rcases capitalizesTag_or_collides dated isAltered fields shows isTime with
    ⟨rfl, rfl, capitalizes⟩ | collides
  · have read := capitalizes.verify dated now
    rw [accepted, Except.ok.injEq] at read
    exact .inl ⟨capitalizes, read⟩
  · exact .inr ⟨timestamp, tagText, fields, collides⟩

/-- A letter of the tag can be capitalised. -/
theorem exists_capitalizesTag
    {small : Char}
    (present : small ∈ Hex.encode (signer.tag name payload (Decimal.integer issued)))
    (letter : ¬ isDigit small = true) :
    ∃ altered, signer.CapitalizesTag name payload issued altered := by
  obtain ⟨capital, isCapital⟩ :=
    (Hex.isDigit_or_exists_capital present).resolve_left letter
  obtain ⟨front, back, isTag⟩ := List.append_of_mem present
  exact ⟨_, front, small, capital, back, isTag, isCapital, rfl⟩

/-- A tag that can be spelled with a capital has a digit that is a letter. -/
theorem CapitalizesTag.exists_letter
    (capitalizes : signer.CapitalizesTag name payload issued altered) :
    ∃ small ∈ Hex.encode (signer.tag name payload (Decimal.integer issued)),
      ¬ isDigit small = true := by
  obtain ⟨front, small, capital, back, isTag, ⟨atLeast, -, number⟩, -⟩ := capitalizes
  refine ⟨small, by simp [isTag], fun digit => ?_⟩
  have codes := (isDigit_iff_toNat small).mp digit
  omega

/-- If a token with a capital letter in its tag exists, not all alterations are
refused. -/
theorem CapitalizesTag.not_refusesAlterations
    (capitalizes : signer.CapitalizesTag name payload issued altered)
    (dated : Date.exists? issued = true) :
    ¬ signer.RefusesAlterations name payload issued := by
  intro refuses
  rcases refuses altered issued capitalizes.isAltered with ⟨cause, refused⟩ |
    ⟨shown, timestamp, tagText, fields, different, -⟩
  · rw [capitalizes.verify dated] at refused
    cases refused
  · obtain ⟨ownTagText, ownFields, -⟩ := capitalizes.exists_hasFields
    obtain ⟨rfl, rfl, -⟩ := ownFields.unique fields
    exact different rfl

/-- Alterations are refused if no token has a capital letter in its tag. -/
theorem refusesAlterations_of_forall_not
    (dated : Date.exists? issued = true)
    (none : ∀ altered, ¬ signer.CapitalizesTag name payload issued altered) :
    signer.RefusesAlterations name payload issued := by
  intro altered now isAltered
  cases result : signer.verify name altered now with
  | error cause => exact .inl ⟨cause, rfl⟩
  | ok verified =>
      rcases capitalizesTag_or_collides_of_verify dated isAltered result with
        ⟨capitalizes, -⟩ |
        ⟨timestamp, tagText, fields, collides⟩
      · exact absurd capitalizes (none altered)
      · exact .inr ⟨verified.payload, timestamp, tagText, fields, collides⟩

end Alterations

/-- What becomes of a signed token with one octet replaced. It is accepted only if it
carries what was signed and has a capital letter in its tag, or octets collide. All
tokens of this kind exist and are accepted. So every replaced octet leads to a refusal,
up to collisions, exactly if all digits of the tag are decimal. -/
theorem alterations_are_refused_iff
    (signer : TokenSigner)
    (name payload : String)
    {issued : Time}
    (dated : Date.exists? issued = true) :
    (∀ altered now verified, IsAltered (signer.sign name payload issued) altered →
        signer.verify name altered now = .ok verified →
          (signer.CapitalizesTag name payload issued altered ∧
              verified = ⟨payload, elapsed issued now⟩) ∨
            ∃ timestamp tagText, HasFields altered verified.payload timestamp tagText ∧
              signer.Collides name payload (Decimal.integer issued)
                verified.payload timestamp) ∧
      (∀ altered, signer.CapitalizesTag name payload issued altered →
        IsAltered (signer.sign name payload issued) altered ∧
          ∀ now, signer.verify name altered now = .ok ⟨payload, elapsed issued now⟩) ∧
      (signer.RefusesAlterations name payload issued ↔
        ∀ char ∈ Hex.encode (signer.tag name payload (Decimal.integer issued)),
          isDigit char = true) := by
  refine ⟨fun altered now verified isAltered accepted =>
      capitalizesTag_or_collides_of_verify dated isAltered accepted,
    fun altered capitalizes => ⟨capitalizes.isAltered, capitalizes.verify dated⟩, ?_⟩
  constructor
  · intro refuses char present
    by_contra letter
    obtain ⟨altered, capitalizes⟩ := exists_capitalizesTag present letter
    exact capitalizes.not_refusesAlterations dated refuses
  · intro decimal
    refine refusesAlterations_of_forall_not dated fun altered capitalizes => ?_
    obtain ⟨char, present, letter⟩ := capitalizes.exists_letter
    exact letter (decimal char present)

/-- A tag of decimal digits has no other spelling. -/
theorem decimal_tag_refuses_alterations :
    let signer : TokenSigner := ⟨Utf8.encode "secret", .sha1⟩
    Date.exists? 1636334580 = true ∧
      signer.RefusesAlterations "_lap" "email: user:alice" 1636334580 := by
  intro signer
  have dated : Date.exists? 1636334580 = true := by decide
  refine ⟨dated,
    (alterations_are_refused_iff signer "_lap" "email: user:alice" dated).2.2.mpr ?_⟩
  have tagged :
      Hex.encode (signer.tag "_lap" "email: user:alice" (Decimal.integer 1636334580)) =
      "7679212480451584938536680425068459969861".toList := by decide +kernel
  rw [tagged]
  exact List.all_eq_true.mp (by decide +kernel)

/-- The tag's second digit is a letter, whose case depends on the 41st character. -/
theorem capital_letter_is_accepted :
    let signer : TokenSigner := ⟨Utf8.encode "secret", .sha256⟩
    let token :=
      "ZW1haWw6IHVzZXI6YWxpY2V8MTcwMDAwMDAwMHw1Y2YwZDQ1ZWMwMTUwYWQ2Y2RjZDRmZGE5N2E1NGQ1N2UyZWIxMGU2YjRlZWQ4OGQ0YWYzMGI3YWMwNWM0NjJm"
    let altered :=
      "ZW1haWw6IHVzZXI6YWxpY2V8MTcwMDAwMDAwMHw1Q2YwZDQ1ZWMwMTUwYWQ2Y2RjZDRmZGE5N2E1NGQ1N2UyZWIxMGU2YjRlZWQ4OGQ0YWYzMGI3YWMwNWM0NjJm"
    signer.sign "_lap" "email: user:alice" 1700000000 = token ∧
      IsAltered token altered ∧
      signer.verify "_lap" altered 1700000000 = .ok ⟨"email: user:alice", 0⟩ ∧
      ¬ signer.RefusesAlterations "_lap" "email: user:alice" 1700000000 := by
  intro signer token altered
  have dated : Date.exists? 1700000000 = true := by decide
  have tagged :
      Hex.encode (signer.tag "_lap" "email: user:alice" (Decimal.integer 1700000000)) =
      ['5'] ++ 'c' ::
        "f0d45ec0150ad6cdcd4fda97a54d57e2eb10e6b4eed88d4af30b7ac05c462f".toList := by
    decide +kernel
  have signed : signer.sign "_lap" "email: user:alice" 1700000000 = token := by
    rw [(signer.hasFields_sign "_lap" "email: user:alice" 1700000000).spells, Hex.text,
      tagged]
    decide +kernel
  have capitalizes :
      signer.CapitalizesTag "_lap" "email: user:alice" 1700000000 altered := by
    refine ⟨_, 'c', 'C', _, tagged, ⟨by decide, by decide, by decide⟩, ?_⟩
    unfold Spells
    decide +kernel
  refine ⟨signed, ?_, capitalizes.verify dated 1700000000,
    capitalizes.not_refusesAlterations dated⟩
  rw [← signed]
  exact capitalizes.isAltered

end TokenSigner
end Gatehouse
