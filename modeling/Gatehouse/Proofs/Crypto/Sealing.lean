import Gatehouse.Crypto.Cipher
import Gatehouse.Proofs.Text.Octets
import Mathlib.Tactic.Common

/-!
# Decryption undoes encryption

A message is combined with a key stream as long as itself, and combined with the same
stream again it is the message. The stream depends on the key, the nonce and the size of
the message alone, so decryption finds it once the nonce has been read back, and the tag
that it computes is the one that was written. Nothing here depends on how a block is
encrypted: the laws hold for every key.
-/

namespace Gatehouse
namespace Crypto

theorem length_xorBytes
    {octets mask : Bytes}
    (covered : octets.length ≤ mask.length) :
    (xorBytes octets mask).length = octets.length := by
  unfold xorBytes
  rw [List.length_zipWith, Nat.min_eq_left covered]

/-- Combining twice with the same text changes nothing. -/
theorem xorBytes_xorBytes
    {octets mask : Bytes}
    (covered : octets.length ≤ mask.length) :
    xorBytes (xorBytes octets mask) mask = octets := by
  induction octets generalizing mask with
  | nil => rfl
  | cons octet rest inductionHypothesis =>
      cases mask with
      | nil => simp at covered
      | cons first others =>
          have coveredBehind : rest.length ≤ others.length := by simpa using covered
          change (octet ^^^ first ^^^ first) :: xorBytes (xorBytes rest others) others =
            octet :: rest
          rw [inductionHypothesis coveredBehind, UInt8.xor_assoc, UInt8.xor_self,
            UInt8.xor_zero]

theorem length_toBigEndian (count value : Nat) :
    (toBigEndian count value).length = count := by
  simp [toBigEndian]

namespace Gcm

variable (roundKeys : List Aes.Block)
variable (nonce : Nonce)

/-- The key stream is as long as it has to be. -/
theorem length_keystream (size : Nat) :
    (keystream roundKeys nonce size).length = size := by
  have blocks : ((List.range ((size + 15) / 16)).flatMap fun index =>
      (Aes.encryptBlock roundKeys (counterBlock nonce (index + 2))).toList).length =
        (size + 15) / 16 * 16 := by
    simp [List.length_flatMap, List.map_const']
  unfold keystream
  rw [List.length_take, blocks]
  omega

theorem length_tag (sealedText : Bytes) :
    (tag roundKeys nonce sealedText).length = tagSize := by
  unfold tag
  rw [length_xorBytes]
  · exact length_toBigEndian _ _
  · rw [length_toBigEndian, Vector.length_toList]
    exact Nat.le_refl _

/-- Decryption gives back what has been encrypted under the same key and nonce. -/
theorem decrypt?_encrypt (key plain : Bytes) :
    decrypt? key nonce (encrypt key nonce plain) = some plain := by
  have covered :
      plain.length ≤ (keystream (Aes.expandKey key) nonce plain.length).length :=
    Nat.le_of_eq (length_keystream _ _ _).symm
  let hidden := xorBytes plain (keystream (Aes.expandKey key) nonce plain.length)
  have sameLength : hidden.length = plain.length := length_xorBytes covered
  have size : (encrypt key nonce plain).length = hidden.length + tagSize := by
    change (hidden ++ tag (Aes.expandKey key) nonce hidden).length = _
    rw [List.length_append, length_tag]
  have front : (encrypt key nonce plain).length - tagSize = hidden.length := by omega
  unfold decrypt?
  rw [if_neg (by omega)]
  simp only [front]
  have taken : (encrypt key nonce plain).take hidden.length = hidden := List.take_left
  have dropped : (encrypt key nonce plain).drop hidden.length =
      tag (Aes.expandKey key) nonce hidden := List.drop_left
  rw [taken, dropped, if_pos rfl, sameLength]
  exact congrArg some (xorBytes_xorBytes covered)

end Gcm

namespace Cipher

/-- A nonce is read back from the octets that begin with it. -/
theorem ofFn_getD_append (nonce : Gcm.Nonce) (behind : Bytes) :
    (Vector.ofFn fun (index : Fin 12) => (nonce.toList ++ behind).getD index 0) =
      nonce := by
  apply Vector.ext
  intro index inside
  have inFront : index < nonce.toList.length := by simpa using inside
  rw [Vector.getElem_ofFn, List.getD_eq_getElem?_getD, List.getElem?_append_left inFront,
    List.getElem?_eq_getElem inFront, Option.getD_some, Vector.getElem_toList]

/-- A cipher decrypts every text that it has encrypted, whatever the nonce. -/
theorem decrypt_encrypt (cipher : Cipher) (nonce : Gcm.Nonce) (plain : String) :
    cipher.decrypt (cipher.encrypt nonce plain) = .ok plain := by
  have front : nonce.toList.length = nonceSize := Vector.length_toList
  have behind : 0 < (Gcm.encrypt cipher.key nonce (Text.Utf8.encode plain)).length := by
    unfold Gcm.encrypt
    rw [List.length_append, Gcm.length_tag]
    exact Nat.lt_of_lt_of_le (by decide) (Nat.le_add_left _ _)
  have rest :
      (nonce.toList ++ Gcm.encrypt cipher.key nonce (Text.Utf8.encode plain)).drop
        nonceSize = Gcm.encrypt cipher.key nonce (Text.Utf8.encode plain) := by
    rw [← front]
    exact List.drop_left
  unfold decrypt encrypt
  rw [Text.Base64.ofText?_text]
  simp only
  rw [if_neg (by rw [List.length_append, front]; omega), ofFn_getD_append, rest,
    Gcm.decrypt?_encrypt]
  simp only [Text.Utf8.decode?_encode]

end Cipher
end Crypto
end Gatehouse
