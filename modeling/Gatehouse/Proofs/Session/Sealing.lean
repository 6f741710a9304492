import Gatehouse.Proofs.Crypto.Sealing
import Gatehouse.Proofs.Session.Binding
import Gatehouse.Proofs.Session.Payload
import Gatehouse.Session.Sealer
import Gatehouse.Time.Date

/-!
# Sealed sessions are opened again

What is signed under a name is verified under that name with the time that has passed, and
what is encrypted is decrypted. A sealed session is therefore opened as what its payload
shows, whatever the secret, the cipher, the nonce and the two times are.
-/

namespace Gatehouse

/-- The times that have a date. -/
theorem Date.exists?_iff {time : Int} :
    Date.exists? time = true ↔ -377705116800 ≤ time ∧ time ≤ 253402300799 := by
  unfold exists?
  rw [Bool.and_eq_true, decide_eq_true_iff, decide_eq_true_iff]
  rfl

theorem Date.bounded_of_exists?
    {time : Int}
    (dated : Date.exists? time = true) :
    -(Text.Decimal.maxSigned64 : Int) - 1 ≤ time ∧ time ≤ Text.Decimal.maxSigned64 := by
  rw [exists?_iff] at dated
  unfold Text.Decimal.maxSigned64
  omega

/-- Between times with dates, the age is the difference, or zero in the wrong order. -/
theorem elapsed_of_exists?
    {issued now : Int}
    (issuedDated : Date.exists? issued = true)
    (nowDated : Date.exists? now = true) :
    elapsed issued now = (now - issued).toNat := by
  rw [Date.exists?_iff] at issuedDated nowDated
  unfold elapsed Text.Decimal.maxSigned64
  omega

theorem elapsed_self (now : Time) : elapsed now now = 0 := by
  unfold elapsed
  rw [Int.sub_self]
  rfl

/-- A signed payload is verified, with the time that has passed since. -/
theorem TokenSigner.verify_sign
    (signer : TokenSigner)
    (name payload : String)
    {issued : Time}
    (dated : Date.exists? issued = true)
    (now : Time) :
    signer.verify name (signer.sign name payload issued) now =
      .ok ⟨payload, elapsed issued now⟩ := by
  obtain ⟨lower, upper⟩ := Date.bounded_of_exists? dated
  refine (verify_of_shows (shows_sign signer name payload issued)).mpr
    ⟨rfl, issued, ?_, rfl⟩
  exact Text.Decimal.signed64?_integer lower upper

namespace Sealer

variable (sealer : Sealer)
variable (nonce : Crypto.Gcm.Nonce)
variable {session : Session}
variable {issued : Time}

/-- A sealed session opens as its payload shows it, with the time since passed. -/
theorem load_issue
    {opened : Session}
    (dated : Date.exists? issued = true)
    (shows : Session.ofPayload? session.payload = some opened)
    (now : Time) :
    sealer.load (sealer.issue nonce session issued) now =
      .ok ⟨opened, elapsed issued now⟩ := by
  unfold load issue
  simp only [sealer.signer.verify_sign _ _ dated]
  unfold plainPayload
  cases sealer.cipher with
  | none => simp only [shows]
  | some cipher => simp only [cipher.decrypt_encrypt, shows]

/-- The empty text is no cookie value. -/
theorem load_empty (now : Time) : sealer.load "" now = .error (.token .format) := by
  have unsealed :
      (Text.Base64.ofText? Text.Base64.urlSafe "").bind Text.Utf8.decode? = some "" := by
    decide
  have shapeless : TokenSigner.fields? "" = none := by decide
  unfold load TokenSigner.verify
  simp only [unsealed, shapeless]

/-- What opens is not empty. -/
theorem ne_empty_of_load
    {value : String}
    {now : Time}
    {loaded : LoadedSession}
    (opens : sealer.load value now = .ok loaded) :
    value ≠ "" := by
  rintro rfl
  rw [load_empty] at opens
  cases opens

/-- The session of a cookie that has been opened can be sealed again without a loss. -/
theorem ofPayload?_payload_of_load
    {value : String}
    {now : Time}
    {loaded : LoadedSession}
    (opens : sealer.load value now = .ok loaded) :
    Session.ofPayload? loaded.session.payload = some loaded.session := by
  unfold load at opens
  split at opens
  · cases opens
  · split at opens
    · cases opens
    · split at opens
      · cases opens
      · next read =>
          cases opens
          exact Session.ofPayload?_payload_of_ofPayload? read

end Sealer
end Gatehouse
