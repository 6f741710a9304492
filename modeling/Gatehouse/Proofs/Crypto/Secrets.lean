import Gatehouse.Crypto.Cipher
import Gatehouse.Proofs.Text.Canonical
import Gatehouse.Proofs.Text.Sextets

/-!
# The keys that secrets stand for

A secret that spells a key of a legal length in Base64 stands for this key, in whichever
alphabet and with however much padding it does so. Any other secret stands for its own
octets. What it is to spell a key is said by bits, without reading or writing Base64.
-/

namespace Gatehouse
namespace Crypto
namespace Cipher

open Text

/-- A secret spells a key in one of the alphabets, with any padding behind it. -/
structure SpellsKey (secret : String) (key : Bytes) : Prop where
  legal : isKeyLength key.length = true
  spelled : ∃ alphabet chars count, Base64.Spells alphabet chars key ∧
    secret.toList = chars ++ List.replicate count '='

variable {secret : String}
variable {key : Bytes}

theorem spellsKey_text
    (legal : isKeyLength key.length = true)
    (scheme : Base64.Scheme) :
    SpellsKey (Base64.text scheme key) key := by
  obtain ⟨count, written⟩ := Base64.exists_encode_eq scheme key
  refine ⟨legal, scheme.alphabet, _, count, Base64.spells_iff.mpr rfl, ?_⟩
  rw [Base64.text, String.toList_ofList, written]

/-- A secret without the padding at its end. -/
def unpadded (secret : String) : List Char :=
  trimLast (· == '=') secret.toList

/-- The octets that a secret is in Base64, in whichever alphabet it can be read. -/
def read? (secret : String) : Option Bytes :=
  (Base64.decode? Base64.urlSafeUnpadded (unpadded secret)).or
    (Base64.decode? Base64.standardUnpadded (unpadded secret))

/-- A secret stands for the key that it is read as, or else for its own octets. -/
theorem secretBytes_eq (secret : String) :
    secretBytes secret = (read? secret).elim (Utf8.encode secret) fun octets =>
      if isKeyLength octets.length then octets else Utf8.encode secret := by
  unfold secretBytes read? unpadded
  dsimp only
  cases Base64.decode? Base64.urlSafeUnpadded (trimLast (· == '=') secret.toList) with
  | none =>
      cases Base64.decode? Base64.standardUnpadded
        (trimLast (· == '=') secret.toList) with
      | none => rfl
      | some octets => rfl
  | some octets => rfl

/-- Octets are read in an alphabet exactly if the secret without padding spells them. -/
theorem decode?_unpadded_iff
    {alphabet : Base64.Alphabet} :
    Base64.decode? ⟨alphabet, false⟩ (unpadded secret) = some key ↔
      Base64.Spells alphabet (unpadded secret) key := by
  rw [Base64.decode?_eq_some_iff, Base64.spells_iff]

/-- Octets are read exactly if the secret without its padding spells them in some
alphabet. -/
theorem read?_eq_some_iff :
    read? secret = some key ↔ ∃ alphabet,
      Base64.Spells alphabet (unpadded secret) key := by
  unfold read?
  rw [Option.or_eq_some_iff]
  constructor
  · rintro (read | ⟨-, read⟩)
    · exact ⟨_, decode?_unpadded_iff.mp read⟩
    · exact ⟨_, decode?_unpadded_iff.mp read⟩
  · rintro ⟨alphabet, isSpelling⟩
    cases readUrlSafe : Base64.decode? Base64.urlSafeUnpadded (unpadded secret) with
    | some octets =>
        exact .inl
          (congrArg some (Base64.Spells.unique
            (decode?_unpadded_iff.mp readUrlSafe) isSpelling))
    | none =>
        have read := decode?_unpadded_iff.mpr isSpelling
        cases alphabet with
        | standard => exact .inr ⟨rfl, read⟩
        | urlSafe => exact .inl (readUrlSafe.symm.trans read)

/-- A secret spells a key exactly if it is read as one of a legal length. -/
theorem spellsKey_iff :
    SpellsKey secret key ↔ isKeyLength key.length = true ∧ read? secret = some key := by
  rw [read?_eq_some_iff]
  constructor
  · rintro ⟨legal, alphabet, chars, count, isSpelling, whole⟩
    refine ⟨legal, alphabet, ?_⟩
    rw [unpadded, whole, isSpelling.trimLast_append]
    exact isSpelling
  · rintro ⟨legal, alphabet, isSpelling⟩
    obtain ⟨count, whole⟩ := Base64.exists_eq_trimLast_append secret.toList
    exact ⟨legal, alphabet, _, count, isSpelling, whole⟩

theorem SpellsKey.secretBytes_eq
    (spells : SpellsKey secret key) :
    secretBytes secret = key := by
  obtain ⟨legal, read⟩ := spellsKey_iff.mp spells
  rw [Cipher.secretBytes_eq, read]
  exact if_pos legal

/-- A secret that spells no key stands for its own octets. -/
theorem secretBytes_of_no_spelling
    (spellsNone : ∀ key, ¬ SpellsKey secret key) :
    secretBytes secret = Utf8.encode secret := by
  rw [secretBytes_eq]
  cases read : read? secret with
  | none => rfl
  | some octets =>
      exact if_neg fun legal => spellsNone octets (spellsKey_iff.mpr ⟨legal, read⟩)

/-- A key of 16, 24 or 32 octets is found again in each of its four Base64 forms, and in
every other text that spells it. A secret that spells no key stands for its own octets,
padding included. So a cipher is made of a secret exactly if it spells a key, or is one
itself; a refused secret is reported with its own size. -/
theorem keys_are_resolved :
    (∀ key, isKeyLength key.length = true →
      ∀ scheme, secretBytes (Base64.text scheme key) = key) ∧
    (∀ secret key, SpellsKey secret key → secretBytes secret = key) ∧
    (∀ secret,
      (∀ key, ¬ SpellsKey secret key) → secretBytes secret = Utf8.encode secret) ∧
    ∀ secret,
      ((∃ cipher, ofSecret secret = .ok cipher) ↔
        (∃ key, SpellsKey secret key) ∨ isKeyLength (Utf8.encode secret).length = true) ∧
      (∀ cipher, ofSecret secret = .ok cipher →
        SpellsKey secret cipher.key ∨
          (∀ key, ¬ SpellsKey secret key) ∧ cipher.key = Utf8.encode secret) ∧
      ∀ cause, ofSecret secret = .error cause →
        cause = .keyLength (Utf8.encode secret).length := by
  refine ⟨fun key legal scheme => (spellsKey_text legal scheme).secretBytes_eq,
    fun secret key spells => spells.secretBytes_eq, fun secret =>
      secretBytes_of_no_spelling, ?_⟩
  intro secret
  by_cases spelled : ∃ key, SpellsKey secret key
  · obtain ⟨key, spells⟩ := spelled
    have made : ofSecret secret = .ok ⟨key, spells.legal⟩ := by
      rw [ofSecret, spells.secretBytes_eq]
      exact dif_pos spells.legal
    rw [made]
    refine ⟨iff_of_true ⟨_, rfl⟩ (.inl ⟨key, spells⟩), ?_, nofun⟩
    rintro cipher ⟨⟩
    exact .inl spells
  · have spellsNone := not_exists.mp spelled
    rw [ofSecret, secretBytes_of_no_spelling spellsNone, ofKey]
    split_ifs with legal
    · refine ⟨iff_of_true ⟨_, rfl⟩ (.inr legal), ?_, nofun⟩
      rintro cipher ⟨⟩
      exact .inr ⟨spellsNone, rfl⟩
    · refine ⟨iff_of_false nofun (not_or.mpr ⟨spelled, legal⟩), nofun, ?_⟩
      rintro cause ⟨⟩
      rfl

/-- Without its padding this secret spells nine octets, which make no key. -/
theorem plainSecret_spells_no_key (key : Bytes) : ¬ SpellsKey "plain-secret=" key := by
  intro spells
  obtain ⟨legal, read⟩ := spellsKey_iff.mp spells
  have tooShort : ((read? "plain-secret=").elim false fun octets =>
      isKeyLength octets.length) = false := by
    decide
  rw [read, Option.elim_some, legal] at tooShort
  cases tooShort

/-- A secret keeps its key in another alphabet or without padding; one without a key
keeps its end. -/
theorem respelled_secret_keeps_key :
    isKeyLength (List.replicate 16 (0xFB : UInt8)).length = true ∧
      (secretBytes "+/v7+/v7+/v7+/v7+/v7+w==" = List.replicate 16 0xFB ∧
        secretBytes "-_v7-_v7-_v7-_v7-_v7-w==" = List.replicate 16 0xFB ∧
        secretBytes "+/v7+/v7+/v7+/v7+/v7+w" = List.replicate 16 0xFB ∧
        secretBytes "-_v7-_v7-_v7-_v7-_v7-w" = List.replicate 16 0xFB) ∧
      (∀ key, ¬ SpellsKey "plain-secret=" key) ∧
      secretBytes "plain-secret=" = Utf8.encode "plain-secret=" := by
  have legal : isKeyLength (List.replicate 16 (0xFB : UInt8)).length = true := by decide
  have resolved := keys_are_resolved.1 _ legal
  exact ⟨legal, ⟨resolved Base64.standard, resolved Base64.urlSafe,
    resolved Base64.standardUnpadded,
    resolved Base64.urlSafeUnpadded⟩, plainSecret_spells_no_key,
    keys_are_resolved.2.2.1 _ plainSecret_spells_no_key⟩

end Cipher
end Crypto
end Gatehouse
