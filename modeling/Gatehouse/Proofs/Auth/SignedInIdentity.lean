import Gatehouse.Auth.SignIn
import Gatehouse.Proofs.Session.Sealing

/-!
# Who a client is after signing in

An attempt to sign in establishes the user who was named, and an address if a directory
knows one. The cookie that is issued then is opened as this user and this address exactly
if the label of the user does not occur in the address. Directories choose addresses
freely. With the label in it, an address ends at the label, and the client goes on under
another name, which begins with what the directory has written behind the label.
-/

namespace Gatehouse

open Session

theorem Session.ofIdentity_spec (identity : Identity) :
    (ofIdentity identity).user = identity.user ∧ (ofIdentity identity).email ≠ some "" ∧
      (identity.email = none → (ofIdentity identity).email = none) := by
  unfold ofIdentity
  cases identity.email with
  | none => exact ⟨rfl, nofun, fun _ => rfl⟩
  | some address => exact ⟨rfl, email_withEmail_ne _ address, nofun⟩

/-- A password file establishes the user who was named, without an address. -/
theorem Htpasswd.eq_ofUser_of_identify?
    {file : Htpasswd}
    {user password : String}
    {identity : Identity}
    (identified : file.identify? user password = some identity) :
    identity = Identity.ofUser user := by
  unfold identify? at identified
  split at identified
  · exact (Option.some.inj identified).symm
  · cases identified

/-- Whatever comes of consulting a directory, it establishes nobody but the user it was
asked about. -/
theorem Consultation.user_of_identity?
    {consultation : Consultation}
    {user : String}
    {identity : Identity}
    (identified : consultation.identity? user = some identity) :
    identity.user = user := by
  cases consultation with
  | found entry groups => exact congrArg Identity.user (Option.some.inj identified).symm
  | unreachable cause => cases identified
  | failed cause => cases identified
  | refused => cases identified

/-- A directory establishes the user who was named. -/
theorem Directory.user_of_identify
    {directory : Directory}
    {user password : String}
    {identity : Identity}
    (identified : (directory.identify user password).identity = some identity) :
    identity.user = user := by
  unfold identify at identified
  split at identified
  · cases identified
  · exact Consultation.user_of_identity? identified

namespace SignInService

variable (service : SignInService)
variable {user password : String}
variable {session : Session}

/-- Whoever is authenticated is the user who was named, with an address only from a
directory. -/
theorem session_of_attempt
    (authenticated : (service.attempt user password).outcome = .authenticated session) :
    session.user = user ∧ session.email ≠ some "" ∧
      ((service.attempt user password).provider = .htpasswd → session.email = none) := by
  unfold attempt at authenticated ⊢
  cases local? : service.htpasswd.bind (·.identify? user password) with
  | some identity =>
      simp only [local?, SignInOutcome.authenticated.injEq] at authenticated ⊢
      obtain ⟨file, -, identified⟩ := Option.bind_eq_some_iff.mp local?
      obtain ⟨sameUser, proper, without⟩ := ofIdentity_spec identity
      rw [Htpasswd.eq_ofUser_of_identify? identified]
        at sameUser proper without authenticated
      subst authenticated
      exact ⟨sameUser, proper, fun _ => without rfl⟩
  | none =>
      simp only [local?] at authenticated ⊢
      split at authenticated
      · cases authenticated
      · next directory _ =>
          split at authenticated
          · cases authenticated
          · next identity identified =>
              obtain ⟨sameUser, proper, -⟩ := ofIdentity_spec identity
              rw [Directory.user_of_identify identified] at sameUser
              split at authenticated
              · next permitted =>
                  cases authenticated
                  simp only [permitted, if_true]
                  exact ⟨sameUser, proper, nofun⟩
              · cases authenticated

/-- Whoever is authenticated is the user who was named, with an address only from a
directory. The cookie that is sealed opens as exactly this session, with the time that
has passed, if and only if the label of the user does not occur in the address.
Otherwise the address ends at its first label, and another user begins behind it. -/
theorem identity_survives_iff
    (service : SignInService)
    {user password : String}
    {session : Session}
    (sealer : Sealer)
    (nonce : Crypto.Gcm.Nonce)
    {issued now : Time}
    (named : user ≠ "")
    (authenticated : (service.attempt user password).outcome = .authenticated session)
    (issuedDated : Date.exists? issued = true)
    (nowDated : Date.exists? now = true) :
    let opened := sealer.load (sealer.issue nonce session issued) now
    let age := (now - issued).toNat
    session.user = user ∧
      ((service.attempt user password).provider = .htpasswd → session.email = none) ∧
      (opened = .ok ⟨session, age⟩ ↔
        ∀ address, session.email = some address → ¬ IsLabelled address) ∧
      ∀ address, session.email = some address → IsLabelled address →
        ∃ before after, address = before ++ userLabel ++ after ∧ ¬ IsLabelled before ∧
          opened = .ok ⟨shown before (after ++ userLabel ++ user), age⟩ ∧
          after ++ userLabel ++ user ≠ user := by
  intro opened age
  obtain ⟨sameUser, proper, without⟩ := service.session_of_attempt authenticated
  have isAge : elapsed issued now = age := elapsed_of_exists? issuedDated nowDated
  have misread : ∀ address, session.email = some address → IsLabelled address →
      ∃ before after, address = before ++ userLabel ++ after ∧ ¬ IsLabelled before ∧
        opened = .ok ⟨shown before (after ++ userLabel ++ user), age⟩ ∧
        after ++ userLabel ++ user ≠ user := by
    intro address isAddress labelled
    obtain ⟨before, after, shape, free⟩ := exists_split_of_isLabelled labelled
    refine ⟨before, after, shape, free, ?_, ?_⟩
    · rw [shape] at isAddress
      have read := ofPayload?_payload_of_isLabelled isAddress free
      rw [sameUser] at read
      rw [← isAge]
      exact sealer.load_issue nonce issuedDated read now
    · intro same
      have lengths := congrArg (fun text => text.toList.length) same
      simp [userLabel] at lengths
      omega
  refine ⟨sameUser, without, ⟨?_, ?_⟩, misread⟩
  · intro survives address isAddress labelled
    obtain ⟨before, after, -, -, other, different⟩ := misread address isAddress labelled
    rw [survives] at other
    have users := congrArg Session.user (LoadedSession.mk.inj (Except.ok.inj other)).1
    exact different (users.symm.trans sameUser)
  · intro free
    have unlabelled : ¬ IsLabelled (session.email.getD "") := by
      cases isAddress : session.email with
      | none => decide
      | some address => exact free address isAddress
    have read := ofPayload?_payload_iff.mpr ⟨by rwa [sameUser], proper, unlabelled⟩
    rw [← isAge]
    exact sealer.load_issue nonce issuedDated read now

/-- A service with a directory that knows Carol under the given address. -/
def withCarol (address : String) : SignInService :=
  { htpasswd := none
    directory := some fun user password =>
      if user = "carol" ∧ password = "secret" then
        .found ⟨"uid=carol", [("mail", [address])]⟩ (.ok [])
      else .refused
    groups := ⟨[]⟩ }

/-- A sealer that encrypts. -/
def encryptingSealer : Sealer :=
  ⟨"_lap", ⟨Text.Utf8.encode "key", .sha256⟩, some ⟨List.replicate 16 7, by decide⟩⟩

/-- A minute later, Carol is still Carol at her address. -/
theorem identity_survives_for_carol :
    let session : Session := ⟨"carol", some "carol@example.com"⟩
    ((withCarol "carol@example.com").attempt "carol" "secret").outcome =
      .authenticated session ∧
      encryptingSealer.load
          (encryptingSealer.issue (Vector.replicate 12 5) session 1700000000) 1700000060 =
        .ok ⟨session, 60⟩ := by
  intro session
  have authenticated :
      ((withCarol "carol@example.com").attempt "carol" "secret").outcome =
        .authenticated session := by
    decide +kernel
  have issuedDated : Date.exists? 1700000000 = true := by decide
  have nowDated : Date.exists? 1700000060 = true := by decide
  obtain ⟨-, -, survives, -⟩ :=
    identity_survives_iff (withCarol "carol@example.com") encryptingSealer
      (Vector.replicate 12 5) (by decide) authenticated issuedDated nowDated
  refine ⟨authenticated, survives.mpr ?_⟩
  intro address isAddress
  rw [← Option.some.inj isAddress]
  decide +kernel

/-- With the label of the user in her address, Carol goes on as somebody else. -/
theorem labelled_address_changes_user :
    let session : Session := ⟨"carol", some "carol@example.com user:root"⟩
    ((withCarol "carol@example.com user:root").attempt "carol" "secret").outcome =
        .authenticated session ∧
      encryptingSealer.load
          (encryptingSealer.issue (Vector.replicate 12 5) session 1700000000) 1700000000 =
        .ok ⟨⟨"root user:carol", some "carol@example.com"⟩, 0⟩ := by
  intro session
  have read : ofPayload? session.payload =
      some ⟨"root user:carol", some "carol@example.com"⟩ := by
    decide +kernel
  have dated : Date.exists? 1700000000 = true := by decide
  refine ⟨by decide +kernel, ?_⟩
  have opened := encryptingSealer.load_issue (Vector.replicate 12 5) dated read 1700000000
  rwa [elapsed_self] at opened

end SignInService
end Gatehouse
