import Gatehouse.Proofs.Auth.Decision
import Gatehouse.Proofs.Gateway.CookieDates
import Gatehouse.Proofs.Time.Calendar

/-!
# Session cookies end when their sessions do

A browser keeps a session cookie until the date that stands in it, and the engine
accepts the session in the cookie until it is older than sessions get. The two ends are
computed in different places, the one from the time of the answer and the other from the
time that is signed inside the cookie. They are the same for every cookie that the proxy
sets, be it for a session that begins or for one that is sealed anew.
-/

namespace Gatehouse

/-- Something is no older than a lifetime exactly until this has passed, where all dates
exist. -/
theorem elapsed_le_iff
    {issued now : Int}
    {lifetime : Nat}
    (issuedDated : Date.exists? issued = true)
    (endDated : Date.exists? (issued + (lifetime : Int)) = true) :
    elapsed issued now ≤ lifetime ↔ now ≤ issued + lifetime := by
  rw [Date.exists?_iff] at issuedDated endDated
  unfold elapsed Text.Decimal.maxSigned64
  omega

theorem SetCookie.read?_date
    {cookie : SetCookie}
    (dated : Date.exists? cookie.expires = true) :
    ∃ attributes date, cookie.text = attributes ++ "; Expires=" ++ date ∧
      (0 ≤ cookie.expires → Date.read? date = some cookie.expires) := by
  have isLast : cookie.expires ≤ Date.last := (Date.exists?_iff.mp dated).2
  exact ⟨_, _, rfl, fun sinceEpoch => Date.read?_text sinceEpoch isLast⟩

/-- A session cookie that can be dated has the given value, and its end. -/
theorem CookieSettings.sessionCookie?_of_datable
    {settings : CookieSettings}
    {now : Time}
    {value : String}
    (datable : settings.Datable now (.set value))
    (host : Option String) :
    ∃ cookie, settings.sessionCookie? value host now = some cookie ∧
      cookie.value = value ∧
      cookie.expires = now + settings.lifetime :=
  ⟨_, if_pos (Bool.and_eq_true_iff.mpr datable), rfl, rfl⟩

namespace Engine

variable {engine : Engine}

/-- Without hooks and credentials, the session of a cookie is accepted until its
lifetime has passed. -/
theorem IsUnhooked.decision_issue
    (unhooked : engine.IsUnhooked)
    {session : Session}
    (shows : Session.ofPayload? session.payload = some session)
    (admitted : ∀ address, session.email = some address →
      address = "" ∨ engine.admits address = true)
    {issued : Int}
    (issuedDated : Date.exists? issued = true)
    (endDated : Date.exists? (issued + (engine.lifetime.expire : Int)) = true)
    (sealing nonce : Crypto.Gcm.Nonce)
    (now : Int) :
    (engine.authenticate nonce ⟨some (engine.sealer.issue sealing session issued), none⟩
      now).decision =
      if now ≤ issued + engine.lifetime.expire then .accept session else .reject := by
  have opened := engine.sealer.load_issue sealing issuedDated shows now
  have opens : engine.Opens (some (engine.sealer.issue sealing session issued)) now
      ⟨session, elapsed issued now⟩ :=
    ⟨_, rfl, engine.sealer.ne_empty_of_load opened, opened⟩
  split
  · next inTime =>
      have survives : engine.Survives ⟨session, elapsed issued now⟩ ⟨false, session⟩ :=
        (unhooked.survives_iff admitted).mpr
          ⟨rfl, (elapsed_le_iff issuedDated endDated).mpr inTime⟩
      rw [engine.authenticate_of_survives opens survives]
  · next tooLate =>
      have lost :
          ∀ refreshed, ¬ engine.Survives ⟨session, elapsed issued now⟩ refreshed := by
        intro refreshed survives
        have young := ((unhooked.survives_iff admitted).mp survives).2
        exact tooLate ((elapsed_le_iff issuedDated endDated).mp young)
      rw [engine.authenticate_of_not_survives opens lost]
      apply engine.decisionWithout_eq_reject
      rintro user ⟨file, header, password, -, sent, -⟩
      cases sent

end Engine

namespace Gateway

variable (gateway : Gateway)
variable (around : Surroundings)
variable (request : Request)

/-- The answer to a request has a cookie for a session, for one of two reasons. -/
inductive Seals : Session → Prop
  /-- The request signs in. -/
  | begun (session : Session)
      (isSignIn : gateway.kindOf request = .signIn)
      (signedIn : gateway.signedIn? request = some session) : Seals session
  /-- The session in the cookie of the request is accepted, and it has come of age. -/
  | anew (loaded : LoadedSession)
      (isDecided : gateway.kindOf request = .auth ∨ gateway.kindOf request = .proxy)
      (opens : gateway.engine.Opens (gateway.cookies.read request.headers)
        around.now loaded)
      (survives : gateway.engine.Survives loaded ⟨false, loaded.session⟩)
      (aged : gateway.engine.IsAged loaded) : Seals loaded.session

/-- Without hooks, a cookie is set exactly for an accepted session that has come of
age. -/
theorem set_mem_effects_iff_of_unhooked
    (unhooked : gateway.engine.IsUnhooked)
    {value : String} :
    .set value ∈ (gateway.authenticate around request).effects ↔
      ∃ loaded, gateway.engine.Opens (gateway.cookies.read request.headers)
        around.now loaded ∧
        gateway.engine.Survives loaded ⟨false, loaded.session⟩ ∧
        gateway.engine.IsAged loaded ∧
        value = gateway.engine.sealer.issue around.nonce loaded.session around.now := by
  unfold authenticate
  rw [Engine.set_mem_effects_iff]
  constructor
  · rintro ⟨loaded, refreshed, opens, survives, due, isValue⟩
    obtain rfl : refreshed = ⟨false, loaded.session⟩ := by
      have refreshes := survives.refreshes
      rw [unhooked.refresher_eq] at refreshes
      exact (Option.some.inj refreshes).symm
    exact ⟨loaded, opens, survives, due.resolve_left nofun, isValue⟩
  · rintro ⟨loaded, opens, survives, aged, isValue⟩
    exact ⟨loaded, _, opens, survives, .inr aged, isValue⟩

/-- Without hooks, cookies are set for sessions that begin or are sealed anew. -/
theorem set_mem_cookieEffects_iff
    (unhooked : gateway.engine.IsUnhooked)
    (value : String) :
    .set value ∈ gateway.cookieEffects around request
      (gateway.authenticate around request) ↔
      ∃ session, gateway.Seals around request session ∧
        value = gateway.engine.sealer.issue around.nonce session around.now := by
  have anew : .set value ∈ (gateway.authenticate around request).effects ↔ _ :=
    gateway.set_mem_effects_iff_of_unhooked around request unhooked
  constructor
  · intro isSet
    unfold cookieEffects at isSet
    have sealedAnew
        (isDecided : gateway.kindOf request = .auth ∨ gateway.kindOf request = .proxy)
        (isEffect : .set value ∈ (gateway.authenticate around request).effects) :
        ∃ session, gateway.Seals around request session ∧
          value = gateway.engine.sealer.issue around.nonce session around.now := by
      obtain ⟨loaded, opens, survives, aged, isValue⟩ := anew.mp isEffect
      exact ⟨loaded.session, .anew loaded isDecided opens survives aged, isValue⟩
    split at isSet
    · next isSignIn =>
        split at isSet
        · next session signedIn =>
            have isValue := CookieEffect.set.inj (List.mem_singleton.mp isSet)
            exact ⟨session, .begun session isSignIn signedIn, isValue⟩
        · cases List.mem_singleton.mp isSet
    · cases List.mem_singleton.mp isSet
    · next isAuth => exact sealedAnew (.inl isAuth) isSet
    · next isProxy =>
        split at isSet
        · exact sealedAnew (.inr isProxy) isSet
        · cases List.mem_singleton.mp isSet
        · cases isSet
    · cases isSet
  · rintro ⟨session, seals, rfl⟩
    unfold cookieEffects
    cases seals with
    | begun _ isSignIn signedIn =>
        rw [isSignIn, signedIn]
        exact List.mem_singleton_self _
    | anew loaded isDecided opens survives aged =>
        have accepted :
            (gateway.authenticate around request).decision = .accept loaded.session := by
          unfold authenticate
          rw [Engine.authenticate_of_survives _ opens survives]
        have isEffect := anew.mpr ⟨loaded, opens, survives, aged, rfl⟩
        rcases isDecided with isAuth | isProxy
        · rw [isAuth]
          exact isEffect
        · rw [isProxy, accepted]
          exact isEffect

end Gateway

namespace Startup

variable {supplies : Supplies}
variable {config : Config}
variable {gateway : Gateway}

theorem isUnhooked_of_build
    (built : build supplies config = .ok gateway)
    (refreshes : supplies.refresher = neverRefresh)
    (validates : supplies.validator = alwaysValid) :
    gateway.engine.IsUnhooked := by
  obtain ⟨-, -, -, -, -, refresher, validator, -⟩ := settings_of_build built
  exact ⟨refresher.trans refreshes, validator.trans validates⟩

/-- Session cookies end when their sessions do, if no hooks are supplied. Times are
whole seconds. The cookies of an answer are those of the mount and of the proxy, and a
session cookie is set exactly for a session that begins or is sealed anew. It carries
the sealed value and a date, which is the end of the lifetime. The engine accepts a
session that its payload shows, and whose address is admitted, by this value exactly
until the end of that second. -/
theorem session_cookies_end_with_sessions
    (supplies : Supplies)
    (config : Config)
    (gateway : Gateway)
    (built : build supplies config = .ok gateway)
    (refreshes : supplies.refresher = neverRefresh)
    (validates : supplies.validator = alwaysValid)
    (around : Surroundings)
    (request : Request)
    (answer : Answer)
    (answered : gateway.answer? around request = some answer) :
    let effects :=
      gateway.cookieEffects around request (gateway.authenticate around request)
    let valueOf (session : Session) :=
      gateway.engine.sealer.issue around.nonce session around.now
    let ending : Time := around.now + config.cookie.expire
    answer.response.headers.getAll "set-cookie" =
        relayedCookies answer.delivery ++
          effects.filterMap (gateway.cookies.field? request.host? around.now) ∧
      (∀ value, .set value ∈ effects ↔
        ∃ session, gateway.Seals around request session ∧ value = valueOf session) ∧
      ∀ session, gateway.Seals around request session →
        ∃ cookie, gateway.cookies.sessionCookie? (valueOf session)
            request.host? around.now =
            some cookie ∧
          cookie.value = valueOf session ∧
          cookie.expires = ending ∧
          (∃ attributes date, cookie.text = attributes ++ "; Expires=" ++ date ∧
            (0 ≤ ending → Date.read? date = some ending)) ∧
          (Session.ofPayload? session.payload = some session →
            (∀ address, session.email = some address → address = "" ∨
              (EmailAllowList.ofEntries config.validator.emailDomains
                config.validator.authenticatedEmails).allows address = true) →
            ∀ nonce now,
              (gateway.engine.authenticate nonce ⟨some cookie.value, none⟩ now).decision =
                if now ≤ cookie.expires then .accept session else .reject) := by
  intro effects valueOf ending
  have unhooked := isUnhooked_of_build built refreshes validates
  obtain ⟨-, cookies, -, -, lifetime, -, -, admits⟩ := settings_of_build built
  have cookieLifetime : gateway.cookies.lifetime = config.cookie.expire := by
    rw [cookies]
    rfl
  have settles :=
    (gateway.observe_eq around request (gateway.authenticate around request)).2
  rw [gateway.observe_authenticate, answered] at settles
  have issued := gateway.set_mem_cookieEffects_iff around request unhooked
  refine ⟨?_, issued, fun session seals => ?_⟩
  · rw [settles.delivers answer rfl]
    exact settles.cookies answer rfl
  · have datable := settles.answers.mp rfl _ ((issued _).mpr ⟨session, seals, rfl⟩)
    obtain ⟨cookie, isCookie, hasValue, ends⟩ :=
      CookieSettings.sessionCookie?_of_datable datable request.host?
    rw [cookieLifetime] at ends
    have endDated : Date.exists? cookie.expires = true := by
      rw [ends, ← cookieLifetime]
      exact datable.2
    have date := SetCookie.read?_date endDated
    rw [ends] at date
    refine ⟨cookie, isCookie, hasValue, ends, date, fun shows admitted nonce now => ?_⟩
    rw [← admits] at admitted
    rw [ends] at endDated
    rw [hasValue, ends,
      unhooked.decision_issue shows admitted datable.1 (by rwa [lifetime]), lifetime]

/-- Alice is let in in the last second of her week, and not in the next. -/
theorem cookie_of_alice_ends_after_week :
    let user : Session := ⟨"alice", none⟩
    ∃ gateway cookie, build alice (keptFor 604800) = .ok gateway ∧
      gateway.cookies.sessionCookie?
        (gateway.engine.sealer.issue Gateway.nowhere.nonce user Gateway.nowhere.now)
        entrance.host? Gateway.nowhere.now = some cookie ∧
      cookie.expires = Gateway.nowhere.now + 604800 ∧
      ∀ nonce,
        (gateway.engine.authenticate nonce ⟨some cookie.value, none⟩
          cookie.expires).decision =
            .accept user ∧
          (gateway.engine.authenticate nonce ⟨some cookie.value, none⟩
            (cookie.expires + 1)).decision =
            .reject := by
  intro user
  have valid : (keptFor 604800).isValid = true := by decide +kernel
  have readable : Readable alice (keptFor 604800) := fun _ _ => rfl
  obtain ⟨gateway, built⟩ := (exists_build_iff valid readable).mpr (by decide +kernel)
  have signsIn : (build alice (keptFor 604800)).toOption.map (fun gateway =>
      (gateway.kindOf entrance, gateway.signedIn? entrance)) =
        some (.signIn, some user) := by
    decide +kernel
  rw [built] at signsIn
  obtain ⟨isSignIn, signedIn⟩ := Prod.mk.inj (Option.some.inj signsIn)
  have short : Date.endOf3000 + gateway.cookies.lifetime ≤ Date.last := by
    rw [cookies_of_build built]
    decide
  obtain ⟨answer, answered⟩ := Option.ne_none_iff_exists'.mp
    (gateway.answer?_ne_none_of_short Gateway.nowhere entrance (by decide)
      (by decide) short)
  obtain ⟨-, -, ends⟩ := session_cookies_end_with_sessions alice (keptFor 604800)
    gateway built rfl rfl Gateway.nowhere entrance answer answered
  obtain ⟨cookie, isCookie, -, expires, -, accepts⟩ :=
    ends user (.begun user isSignIn signedIn)
  have decides := accepts (by decide +kernel) nofun
  refine ⟨gateway, cookie, built, isCookie, expires, fun nonce => ⟨?_, ?_⟩⟩
  · rw [decides, if_pos (Int.le_refl _)]
  · rw [decides, if_neg (Int.not_le.mpr (Int.lt_succ _))]

end Startup
end Gatehouse
