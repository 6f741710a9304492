import Gatehouse.Proofs.Auth.Decision
import Gatehouse.Proofs.Credentials.PasswordFile
import Gatehouse.Proofs.Crypto.Sealing

/-!
# Who is accepted without a name

The session of a cookie has a user, because a payload without one is not read, and it
keeps one if the refresher leaves it one. A user who is accepted by basic credentials
has the name that stands in the password file, and that may be the empty one. Basic
credentials of nobody are therefore the only way in without a name, and it is open
exactly if the last line of the password file without a user has a hash that some
password has.
-/

namespace Gatehouse
namespace Engine

variable (engine : Engine)

/-- The refresher leaves no session without a user that has had one. -/
def KeepsNames : Prop :=
  ∀ session refreshed, engine.refresher session = some refreshed →
    session.user ≠ "" → refreshed.session.user ≠ ""

/-- No session that is loaded survives as anything. -/
def KeepsNoSession (evidence : Evidence) (now : Time) : Prop :=
  ∀ loaded refreshed,
    engine.Opens evidence.cookie now loaded → ¬ engine.Survives loaded refreshed

section Names

variable {engine}
variable {nonce : Crypto.Gcm.Nonce}
variable {evidence : Evidence}
variable {now : Time}
variable {session : Session}

theorem user_ne_empty_of_opens
    {loaded : LoadedSession}
    (opens : engine.Opens evidence.cookie now loaded) :
    loaded.session.user ≠ "" := by
  obtain ⟨value, -, -, opened⟩ := opens
  exact (Session.ofPayload?_payload_iff.mp
    (engine.sealer.ofPayload?_payload_of_load opened)).1

/-- Accepted is a surviving session, or the user of basic credentials if there is none. -/
theorem accepted_cases
    (accepted : (engine.authenticate nonce evidence now).decision = .accept session) :
    (∃ loaded refreshed, engine.Opens evidence.cookie now loaded ∧
        engine.Survives loaded refreshed ∧ session = refreshed.session) ∨
      engine.KeepsNoSession evidence now ∧
        ∃ user, engine.AcceptsBasic evidence.authorization user ∧
          session = Session.ofUser user := by
  have prescribed :
      engine.Prescribes nonce evidence now (engine.authenticate nonce evidence now) :=
    engine.prescribes_authenticate
  by_cases lost : engine.KeepsNoSession evidence now
  · exact .inr ⟨lost, (prescribed.fallback lost session).mp accepted⟩
  · unfold KeepsNoSession at lost
    push Not at lost
    obtain ⟨loaded, refreshed, opens, survives⟩ := lost
    rw [prescribed.accepted loaded refreshed opens survives] at accepted
    exact .inl ⟨loaded, refreshed, opens, survives, (Decision.accept.inj accepted).symm⟩

/-- An accepted name is empty exactly if no session survives and the credentials name
nobody. -/
theorem user_eq_empty_iff
    (keepsNames : engine.KeepsNames)
    (accepted : (engine.authenticate nonce evidence now).decision = .accept session) :
    session.user = "" ↔
      engine.KeepsNoSession evidence now ∧
      engine.AcceptsBasic evidence.authorization "" := by
  rcases accepted_cases accepted with
    ⟨loaded, refreshed, opens, survives, rfl⟩ | ⟨lost, user, accepts, rfl⟩
  · have named : refreshed.session.user ≠ "" :=
      keepsNames _ _ survives.refreshes (user_ne_empty_of_opens opens)
    refine iff_of_false named ?_
    rintro ⟨lost, -⟩
    exact lost loaded refreshed opens survives
  · constructor
    · rintro rfl
      exact ⟨lost, accepts⟩
    · rintro ⟨-, acceptsNobody⟩
      have sameSession :=
        (engine.decisionWithout_eq_accept_iff.mpr ⟨user, accepts, rfl⟩).symm.trans
          (engine.decisionWithout_eq_accept_iff.mpr ⟨"", acceptsNobody, rfl⟩)
      exact congrArg Session.user (Decision.accept.inj sameSession)

/-- The evidence of a request without a cookie and with basic credentials. -/
def bareEvidence (credentials : BasicCredentials) : Evidence :=
  ⟨none, some credentials.header⟩

/-- A password of the empty name is accepted from a request without a cookie. -/
theorem accepts_nobody
    {file : Htpasswd}
    {password : String}
    (provided : engine.basic = some file)
    (known : file.accepts "" password = true)
    (nonce : Crypto.Gcm.Nonce)
    (now : Time) :
    (engine.authenticate nonce (bareEvidence ⟨"", password⟩) now).decision =
      .accept (Session.ofUser "") := by
  have closed :
      ∀ loaded, ¬ engine.Opens (bareEvidence ⟨"", password⟩).cookie now loaded :=
    engine.not_opens_iff.mpr (.inl rfl)
  rw [engine.authenticate_of_not_opens closed]
  refine engine.decisionWithout_eq_accept_iff.mpr
    ⟨"", ⟨file, _, password, provided, rfl, ?_, ?_, known⟩, rfl⟩
  · intro empty
    have lists := congrArg String.toList empty
    simp [BasicCredentials.header] at lists
  · exact BasicCredentials.ofHeader_header_iff.mpr List.not_mem_nil

end Names

/-- Who is accepted has a name, unless no session survives and the basic credentials are
those of the empty name. Everybody who is ever accepted has a name exactly if no
password has the hash of the last line without a user, if the password file has such a
line. -/
theorem accepted_users_are_named_iff
    (content : Option String)
    (provided : engine.basic = content.map Htpasswd.ofText)
    (keepsNames : engine.KeepsNames) :
    (∀ nonce evidence now session,
        (engine.authenticate nonce evidence now).decision = .accept session →
          (session.user = "" ↔
            engine.KeepsNoSession evidence now ∧
            engine.AcceptsBasic evidence.authorization "")) ∧
      ((∀ nonce evidence now session,
          (engine.authenticate nonce evidence now).decision = .accept session →
            session.user ≠ "") ↔
        ∀ text hash, content = some text → Htpasswd.EndsNameless text hash →
          ∀ password, hash.accepts password = false) := by
  refine ⟨fun nonce evidence now session => user_eq_empty_iff keepsNames, ?_, ?_⟩
  · intro named text hash isContent nameless password
    rw [Bool.eq_false_iff]
    intro has
    have isFile : engine.basic = some (Htpasswd.ofText text) := by
      rw [provided, isContent]
      rfl
    have known : (Htpasswd.ofText text).accepts "" password = true :=
      (Htpasswd.accepts_iff _).mpr
        ⟨hash, Htpasswd.find?_ofText_nameless_iff.mpr nameless, has⟩
    exact named (Vector.replicate 12 0) _ 0 _ (accepts_nobody isFile known _ _) rfl
  · intro closed nonce evidence now session accepted nameless
    obtain ⟨-, file, header, password, isFile, -, -, -, known⟩ :=
      (user_eq_empty_iff keepsNames accepted).mp nameless
    rw [provided] at isFile
    obtain ⟨text, isContent, rfl⟩ := Option.map_eq_some_iff.mp isFile
    obtain ⟨hash, listed, has⟩ := (Htpasswd.accepts_iff _).mp known
    have ends := Htpasswd.find?_ofText_nameless_iff.mp listed
    exact absurd has (Bool.eq_false_iff.mp (closed text hash isContent ends password))

/-- An engine with a password file. -/
def checking (content : String) : Engine :=
  { sealer := ⟨"_lap", ⟨Text.Utf8.encode "key", .sha256⟩, none⟩
    lifetime := ⟨604800, 0⟩
    refresher := neverRefresh
    validator := alwaysValid
    admits := fun _ => true
    basic := some (Htpasswd.ofText content) }

/-- The refresher of this engine leaves every session its user. -/
theorem keepsNames_checking (content : String) : (checking content).KeepsNames := by
  rintro session _ ⟨⟩ named
  exact named

/-- A line without a user whose digest is too short for any password lets nobody in. -/
theorem short_digest_lets_nobody_in :
    Htpasswd.EndsNameless "alice:\x7bSHA\x7dAAAA\n :\x7bSHA\x7dAAAA\n:plain"
      (.digest [0, 0, 0]) ∧
      ∀ nonce evidence now session,
        ((checking "alice:\x7bSHA\x7dAAAA\n :\x7bSHA\x7dAAAA\n:plain").authenticate
            nonce evidence now).decision = .accept session →
          session.user ≠ "" := by
  have ends : Htpasswd.EndsNameless "alice:\x7bSHA\x7dAAAA\n :\x7bSHA\x7dAAAA\n:plain"
      (.digest [0, 0, 0]) :=
    Htpasswd.find?_ofText_nameless_iff.mp (by decide +kernel)
  refine ⟨ends, (accepted_users_are_named_iff (checking _) (some _) rfl
    (keepsNames_checking _)).2.mpr ?_⟩
  rintro text hash isContent endsToo password
  obtain rfl := Option.some.inj isContent
  have sameHash := (Htpasswd.find?_ofText_nameless_iff.mpr endsToo).symm.trans
    (Htpasswd.find?_ofText_nameless_iff.mpr ends)
  obtain rfl := Option.some.inj sameHash
  have tooShort : Crypto.Sha1.digest (Text.Utf8.encode password) ≠ [0, 0, 0] := by
    intro same
    have lengths := congrArg List.length same
    simp [Crypto.Sha1.digest, Crypto.length_toBigEndian] at lengths
  exact beq_eq_false_iff_ne.mpr tooShort

/-- A line without a user makes its password acceptable without a name. -/
theorem nobody_is_accepted :
    let content := ":\x7bSHA\x7dMXmmXv8lI7veU8mbKZtxnBCjUjU="
    (checking content).basic = some (Htpasswd.ofText content) ∧
      (checking content).KeepsNames ∧
      ((checking content).authenticate (Vector.replicate 12 0)
          ⟨none, some "Basic OmNvcnJlY3Q="⟩ 1700000000).decision = .accept ⟨"", none⟩ :=
  ⟨rfl, keepsNames_checking _, by decide +kernel⟩

end Engine
end Gatehouse
