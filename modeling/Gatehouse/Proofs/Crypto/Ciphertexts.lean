import Gatehouse.Proofs.Crypto.Sealing
import Gatehouse.Proofs.Text.Canonical

/-!
# The texts that a cipher decrypts

Opening in Galois counter mode succeeds exactly on what sealing yields, because the tag
is computed from the hidden message alone and the key stream is found again from its
size. With the strict reading of Base64 this carries over to texts: a cipher decrypts
exactly the texts that it may have encrypted. The main statement also says for which
cause it refuses each of the others.
-/

namespace Gatehouse
namespace Crypto

open Text

namespace Gcm

/-- What is opened is a hidden message with its own tag behind it. -/
theorem exists_of_decrypt?
    {key sealedText plain : Bytes}
    {nonce : Nonce}
    (opened : decrypt? key nonce sealedText = some plain) :
    ∃ hidden, sealedText = hidden ++ tag (Aes.expandKey key) nonce hidden ∧
      plain = xorBytes hidden (keystream (Aes.expandKey key) nonce hidden.length) := by
  refine ⟨sealedText.take (sealedText.length - tagSize), ?_⟩
  unfold decrypt? at opened
  split at opened
  · cases opened
  · dsimp only at opened
    split at opened
    · next authentic =>
        rw [authentic, List.take_append_drop]
        exact ⟨rfl, (Option.some.inj opened).symm⟩
    · cases opened

/-- Opening accepts exactly what sealing yields under the same key and nonce. -/
theorem decrypt?_eq_some_iff
    {key sealedText plain : Bytes}
    {nonce : Nonce} :
    decrypt? key nonce sealedText = some plain ↔
      sealedText = encrypt key nonce plain := by
  constructor
  · intro opened
    obtain ⟨hidden, rfl, rfl⟩ := exists_of_decrypt? opened
    have covered :
        hidden.length ≤ (keystream (Aes.expandKey key) nonce hidden.length).length :=
      Nat.le_of_eq (length_keystream _ _ _).symm
    unfold encrypt
    simp only [length_xorBytes covered, xorBytes_xorBytes covered]
  · rintro rfl
    exact decrypt?_encrypt nonce key plain

theorem length_encrypt (key : Bytes) (nonce : Nonce) (plain : Bytes) :
    (encrypt key nonce plain).length = plain.length + tagSize := by
  unfold encrypt
  rw [List.length_append, length_tag,
    length_xorBytes (Nat.le_of_eq (length_keystream _ _ _).symm)]

end Gcm

namespace Cipher

/-- The octets of an encrypted text: the nonce, and the sealed text behind it. -/
def ciphertext (key : Bytes) (nonce : Gcm.Nonce) (plain : String) : Bytes :=
  nonce.toList ++ Gcm.encrypt key nonce (Utf8.encode plain)

/-- The nonce with which octets begin. -/
def leadingNonce (octets : Bytes) : Gcm.Nonce :=
  Vector.ofFn fun (index : Fin 12) => octets.getD index 0

/-- The text that is sealed in octets, if there is one. -/
def message? (cipher : Cipher) (octets : Bytes) : Option String :=
  if octets.length ≤ nonceSize then none
  else
    (Gcm.decrypt? cipher.key (leadingNonce octets) (octets.drop nonceSize)).bind
      Utf8.decode?

/-- Octets are the nonce with which they begin, and the rest behind it. -/
theorem leadingNonce_append_drop
    {octets : Bytes}
    (long : nonceSize ≤ octets.length) :
    (leadingNonce octets).toList ++ octets.drop nonceSize = octets := by
  have front : (leadingNonce octets).toList = octets.take nonceSize := by
    apply List.ext_getElem
    · rw [Vector.length_toList, List.length_take, Nat.min_eq_left long]
      rfl
    · intro index inNonce inTaken
      have inside : index < octets.length := by
        rw [List.length_take] at inTaken
        omega
      simp only [leadingNonce, Vector.getElem_toList, Vector.getElem_ofFn,
        List.getElem_take, List.getD_eq_getElem?_getD, List.getElem?_eq_getElem inside,
        Option.getD_some]
  rw [front, List.take_append_drop]

theorem length_ciphertext (key : Bytes) (nonce : Gcm.Nonce) (plain : String) :
    (ciphertext key nonce plain).length = (Utf8.encode plain).length + 28 := by
  rw [ciphertext, List.length_append, Vector.length_toList, Gcm.length_encrypt,
    Gcm.tagSize]
  omega

variable {cipher : Cipher}
variable {encoded plain : String}

/-- Decryption reads octets, and then the text that is sealed in them. -/
theorem decrypt_eq :
    cipher.decrypt encoded =
      (Base64.ofText? Base64.urlSafe encoded).elim (.error .encoding) fun octets =>
        (cipher.message? octets).elim (.error .decrypt) .ok := by
  unfold decrypt message?
  cases Base64.ofText? Base64.urlSafe encoded with
  | none => rfl
  | some octets =>
      simp only [Option.elim_some]
      split
      · rfl
      · rw [← leadingNonce]
        cases Gcm.decrypt? cipher.key (leadingNonce octets) (octets.drop nonceSize) with
        | none => rfl
        | some message => cases read : Utf8.decode? message <;> simp [read]

/-- A text is sealed in octets exactly if they encrypt it under some nonce. -/
theorem message?_eq_some_iff {octets : Bytes} :
    cipher.message? octets = some plain ↔ ∃ nonce,
      octets = ciphertext cipher.key nonce plain := by
  unfold message?
  constructor
  · intro opens
    split at opens
    · cases opens
    · next long =>
        obtain ⟨message, opened, isText⟩ := Option.bind_eq_some_iff.mp opens
        refine ⟨leadingNonce octets, ?_⟩
        rw [ciphertext, ← Utf8.eq_encode_of_decode? isText,
          ← Gcm.decrypt?_eq_some_iff.mp opened,
          leadingNonce_append_drop (Nat.le_of_lt (Nat.not_le.mp long))]
  · rintro ⟨nonce, rfl⟩
    have long : ¬ (ciphertext cipher.key nonce plain).length ≤ nonceSize := by
      rw [length_ciphertext, nonceSize]
      omega
    have rest : (ciphertext cipher.key nonce plain).drop nonceSize =
        Gcm.encrypt cipher.key nonce (Utf8.encode plain) :=
      List.drop_left' Vector.length_toList
    rw [if_neg long, rest, leadingNonce, ciphertext, ofFn_getD_append,
      Gcm.decrypt?_encrypt, Option.bind_some, Utf8.decode?_encode]

/-- A text is decrypted exactly if it is the padded Base64 form of the encrypted
result. -/
theorem decrypt_eq_ok_iff :
    cipher.decrypt encoded = .ok plain ↔
      ∃ nonce, encoded = Base64.text Base64.urlSafe
        (ciphertext cipher.key nonce plain) := by
  rw [decrypt_eq]
  cases read : Base64.ofText? Base64.urlSafe encoded with
  | none =>
      refine iff_of_false (by simp) ?_
      rintro ⟨nonce, rfl⟩
      rw [Base64.ofText?_text] at read
      cases read
  | some octets =>
      obtain rfl := Base64.ofText?_eq_some_iff.mp read
      have same (nonce : Gcm.Nonce) : Base64.text Base64.urlSafe octets =
          Base64.text Base64.urlSafe (ciphertext cipher.key nonce plain) ↔
            octets = ciphertext cipher.key nonce plain := by
        rw [← Base64.ofText?_eq_some_iff, Base64.ofText?_text, Option.some.injEq]
      simp only [Option.elim_some, same, ← message?_eq_some_iff]
      cases cipher.message? octets <;> simp

/-- The encoding is the cause exactly if a text is no padded Base64 form of octets. -/
theorem decrypt_eq_encoding_iff :
    cipher.decrypt encoded = .error .encoding ↔
      ∀ octets, encoded ≠ Base64.text Base64.urlSafe octets := by
  rw [decrypt_eq]
  cases read : Base64.ofText? Base64.urlSafe encoded with
  | none =>
      refine iff_of_true rfl ?_
      rintro octets rfl
      rw [Base64.ofText?_text] at read
      cases read
  | some octets =>
      refine iff_of_false ?_ fun unwritten =>
        unwritten octets (Base64.ofText?_eq_some_iff.mp read)
      rw [Option.elim_some]
      cases cipher.message? octets <;> simp

/-- Decryption is the cause exactly for padded Base64 of octets in which nothing is
sealed. -/
theorem decrypt_eq_decrypt_iff :
    cipher.decrypt encoded = .error .decrypt ↔
      ∃ octets, encoded = Base64.text Base64.urlSafe octets ∧
        ∀ nonce plain, octets ≠ ciphertext cipher.key nonce plain := by
  have unsealed_iff (octets : Bytes) : cipher.message? octets = none ↔
      ∀ nonce plain, octets ≠ ciphertext cipher.key nonce plain := by
    rw [Option.eq_none_iff_forall_ne_some]
    simp only [ne_eq, message?_eq_some_iff, not_exists]
    exact forall_comm
  simp only [← unsealed_iff, ← Base64.ofText?_eq_some_iff, decrypt_eq]
  cases Base64.ofText? Base64.urlSafe encoded with
  | none => simp
  | some octets => cases unsealed : cipher.message? octets <;> simp [unsealed]

/-- The texts that a cipher decrypts. A key of 16, 24 or 32 octets makes a cipher, which
decrypts exactly the padded Base64 forms of a nonce and a text sealed under it, each
octet sequence in one form only. All other texts are refused: for their encoding if they
are no Base64 form, and else because nothing is sealed in them, as in fewer than 28
octets. -/
theorem decrypts_exactly_ciphertexts
    {key : Bytes}
    (legal : key.length = 16 ∨ key.length = 24 ∨ key.length = 32) :
    ∃ cipher, Cipher.ofKey key = .ok cipher ∧
      (∀ encoded plain, cipher.decrypt encoded = .ok plain ↔
        ∃ nonce : Gcm.Nonce, encoded = Base64.text Base64.urlSafe
          (nonce.toList ++ Gcm.encrypt key nonce (Utf8.encode plain))) ∧
      (∀ nonce plain, cipher.decrypt (cipher.encrypt nonce plain) = .ok plain) ∧
      (∀ encoded other plain, cipher.decrypt encoded = .ok plain →
        Base64.ofText? Base64.urlSafe other = Base64.ofText? Base64.urlSafe encoded →
          other = encoded) ∧
      (∀ encoded, cipher.decrypt encoded = .error .encoding ↔
        ∀ octets, encoded ≠ Base64.text Base64.urlSafe octets) ∧
      (∀ encoded, cipher.decrypt encoded = .error .decrypt ↔
        ∃ octets, encoded = Base64.text Base64.urlSafe octets ∧
          ∀ (nonce : Gcm.Nonce) plain,
            octets ≠ nonce.toList ++ Gcm.encrypt key nonce (Utf8.encode plain)) ∧
      ∀ octets, octets.length < 28 →
        cipher.decrypt (Base64.text Base64.urlSafe octets) = .error .decrypt := by
  have isLegal : isKeyLength key.length = true := by
    rcases legal with length | length | length <;> rw [length] <;> rfl
  refine ⟨⟨key, isLegal⟩, dif_pos isLegal, fun encoded plain => decrypt_eq_ok_iff,
    decrypt_encrypt _, ?_,
    fun encoded => decrypt_eq_encoding_iff, fun encoded => decrypt_eq_decrypt_iff, ?_⟩
  · intro encoded other plain decrypted same
    obtain ⟨nonce, rfl⟩ := decrypt_eq_ok_iff.mp decrypted
    rw [Base64.ofText?_text] at same
    exact Base64.ofText?_eq_some_iff.mp same
  · intro octets short
    refine decrypt_eq_decrypt_iff.mpr ⟨octets, rfl, ?_⟩
    rintro nonce plain rfl
    rw [length_ciphertext] at short
    omega

/-- A key of 24 octets: what is encrypted is decrypted, and 27 octets are refused. -/
theorem ciphertext_of_alice_is_decrypted :
    ∃ cipher, Cipher.ofKey (List.replicate 24 7) = .ok cipher ∧
      cipher.decrypt (cipher.encrypt (Vector.replicate 12 1) "email: user:alice") =
        .ok "email: user:alice" ∧
      cipher.decrypt (Base64.text Base64.urlSafe (List.replicate 27 0)) =
        .error .decrypt := by
  have legal : (List.replicate 24 (7 : UInt8)).length = 24 := rfl
  obtain ⟨cipher, isCipher, -, inverts, -, -, -, refusesShort⟩ :=
    decrypts_exactly_ciphertexts (.inr (.inl legal))
  exact ⟨cipher, isCipher, inverts _ _, refusesShort _ (by decide)⟩

end Cipher
end Crypto
end Gatehouse
