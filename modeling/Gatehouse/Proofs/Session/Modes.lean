import Gatehouse.Proofs.Crypto.Ciphertexts
import Gatehouse.Proofs.Session.Sealing

/-!
# Sealers with and without a cipher

The signature of a token does not say whether its payload is encrypted. A sealer without
a cipher and one with a cipher that share a name and a signer therefore verify each
other's tokens, and only the payloads keep them apart: the labels of a session have
colons, and Base64 has none. The main statement says with which error each of the two
refuses every token of the other.
-/

namespace Gatehouse

open Text

/-- No colon is written for octets. -/
theorem Text.Base64.colon_notMem_text (octets : Bytes) :
    ':' ∉ (text urlSafe octets).toList := by
  have free : ∀ value < 64, urlSafe.alphabet.character value ≠ ':' := by decide
  intro present
  rw [text, String.toList_ofList] at present
  rcases mem_encode present with isPadding | ⟨value, bounded, isCharacter⟩
  · exact absurd isPadding (by decide)
  · exact free value bounded isCharacter.symm

namespace Session

theorem colon_mem_payload (session : Session) : ':' ∈ session.payload.toList := by
  unfold payload
  simp [String.toList_append]

/-- No Base64 form is the payload of a session. -/
theorem payload_ne_base64 (session : Session) (octets : Bytes) :
    session.payload ≠ Base64.text Base64.urlSafe octets := by
  intro same
  have present := session.colon_mem_payload
  rw [same] at present
  exact Base64.colon_notMem_text octets present

theorem ofPayload?_base64 (octets : Bytes) :
    ofPayload? (Base64.text Base64.urlSafe octets) = none := by
  rw [Option.eq_none_iff_forall_ne_some]
  intro session read
  exact session.payload_ne_base64 octets (payload_of_ofPayload? read)

end Session

namespace Sealer

/-- Modes are not confused. Sealers with and without a cipher verify each other's
tokens, but the payload of the one is no session, and that of the other is not
encrypted. Neither is ever opened as a session. -/
theorem modes_are_kept_apart
    (name : String)
    (signer : TokenSigner)
    (cipher : Crypto.Cipher)
    (nonce : Crypto.Gcm.Nonce)
    (session : Session)
    {issued : Time}
    (dated : Date.exists? issued = true)
    (now : Time) :
    let encrypting : Sealer := ⟨name, signer, some cipher⟩
    let plain : Sealer := ⟨name, signer, none⟩
    (signer.verify name (encrypting.issue nonce session issued) now =
          .ok ⟨cipher.encrypt nonce session.payload, elapsed issued now⟩ ∧
        plain.load (encrypting.issue nonce session issued) now = .error .payload) ∧
      signer.verify name (plain.issue nonce session issued) now =
          .ok ⟨session.payload, elapsed issued now⟩ ∧
        encrypting.load (plain.issue nonce session issued) now =
          .error (.cipher .encoding) := by
  intro encrypting plain
  have verifiedEncrypted :
      signer.verify name (encrypting.issue nonce session issued) now =
      .ok ⟨cipher.encrypt nonce session.payload, elapsed issued now⟩ :=
    signer.verify_sign name _ dated now
  have verifiedPlain : signer.verify name (plain.issue nonce session issued) now =
      .ok ⟨session.payload, elapsed issued now⟩ :=
    signer.verify_sign name _ dated now
  refine ⟨⟨verifiedEncrypted, ?_⟩, verifiedPlain, ?_⟩
  · have unread : Session.ofPayload? (cipher.encrypt nonce session.payload) = none :=
      Session.ofPayload?_base64 _
    simp only [load, plain, verifiedEncrypted, plainPayload, unread]
  · have undecrypted : cipher.decrypt session.payload = .error .encoding :=
      Crypto.Cipher.decrypt_eq_encoding_iff.mpr session.payload_ne_base64
    simp only [load, encrypting, verifiedPlain, plainPayload, undecrypted]

/-- A session of Alice is opened only in the mode in which it was issued. -/
theorem alice_is_kept_apart :
    let signer : TokenSigner := ⟨Utf8.encode "key", .sha256⟩
    let cipher : Crypto.Cipher := ⟨List.replicate 16 7, by decide⟩
    let encrypting : Sealer := ⟨"_lap", signer, some cipher⟩
    let plain : Sealer := ⟨"_lap", signer, none⟩
    let nonce : Crypto.Gcm.Nonce := Vector.replicate 12 5
    let alice : Session := ⟨"alice", none⟩
    encrypting.load (encrypting.issue nonce alice 1700000000) 1700000060 =
      .ok ⟨alice, 60⟩ ∧
      plain.load (encrypting.issue nonce alice 1700000000) 1700000060 = .error .payload ∧
      plain.load (plain.issue nonce alice 1700000000) 1700000060 = .ok ⟨alice, 60⟩ ∧
      encrypting.load (plain.issue nonce alice 1700000000) 1700000060 =
        .error (.cipher .encoding) := by
  intro signer cipher encrypting plain nonce alice
  have dated : Date.exists? 1700000000 = true := by decide
  have shows : Session.ofPayload? alice.payload = some alice := by decide
  obtain ⟨⟨-, unread⟩, -, undecrypted⟩ :=
    modes_are_kept_apart "_lap" signer cipher nonce alice dated 1700000060
  exact ⟨encrypting.load_issue nonce dated shows _, unread,
    plain.load_issue nonce dated shows _, undecrypted⟩

end Sealer
end Gatehouse
