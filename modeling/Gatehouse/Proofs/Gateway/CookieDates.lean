import Gatehouse.Config.Validation
import Gatehouse.Proofs.Config.Construction
import Gatehouse.Proofs.Gateway.Mediation
import Gatehouse.Proofs.Session.Sealing
import Gatehouse.Startup

/-!
# The dates of session cookies

Session cookies end when the session does, and cleared ones have ended an hour ago.
Until the year 3000 there is a date for every cleared cookie, and for a session cookie
as long as the lifetime of sessions does not reach beyond the calendar. The check of a
configuration lets every lifetime pass, however long it is, and a request that would be
given a cookie without a date gets no answer.
-/

namespace Gatehouse

/-- The last second of the year 3000. -/
def Date.endOf3000 : Time := 32535215999

example : (Date.ofTime Date.endOf3000).text = "Wed, 31 Dec 3000 23:59:59 GMT" := by
  decide +kernel

namespace CookieSettings

variable (settings : CookieSettings)
variable {now : Int}

/-- From 1970 to 3000, a cleared cookie has a date. -/
theorem datable_clear
    (sinceEpoch : 0 ≤ now)
    (until3000 : now ≤ Date.endOf3000) :
    settings.Datable now .clear := by
  change now ≤ (32535215999 : Int) at until3000
  change Date.exists? now = true ∧ Date.exists? (now - 3600) = true
  rw [Date.exists?_iff, Date.exists?_iff]
  omega

/-- From 1970 to 3000, a session cookie has a date if it ends within the calendar. -/
theorem datable_set_iff
    (sinceEpoch : 0 ≤ now)
    (until3000 : now ≤ Date.endOf3000)
    (value : String) :
    settings.Datable now (.set value) ↔ now + settings.lifetime ≤ Date.last := by
  change now ≤ (32535215999 : Int) at until3000
  change Date.exists? now = true ∧ Date.exists? (now + (settings.lifetime : Int)) = true ↔
    now + (settings.lifetime : Int) ≤ (253402300799 : Int)
  rw [Date.exists?_iff, Date.exists?_iff]
  omega

end CookieSettings
namespace Gateway

variable (gateway : Gateway)
variable (around : Surroundings)
variable (request : Request)

/-- The answer carries a session cookie: of a sign-in, or of an accepted or asked
decision. -/
def Issues : Prop :=
  gateway.kindOf request = .signIn ∧ (gateway.signedIn? request).isSome = true ∨
    (gateway.kindOf request = .auth ∨
        gateway.kindOf request = .proxy ∧
        (gateway.authenticate around request).isAccepted = true) ∧
      ∃ value, CookieEffect.set value ∈ (gateway.authenticate around request).effects

/-- The requests whose answers carry a session cookie are those with an effect that sets
one. -/
theorem issues_iff :
    gateway.Issues around request ↔
      ∃ value, CookieEffect.set value ∈
        gateway.cookieEffects around request (gateway.authenticate around request) := by
  unfold Issues cookieEffects Outcome.isAccepted
  cases kind : gateway.kindOf request with
  | signIn => cases gateway.signedIn? request <;> simp
  | proxy => cases (gateway.authenticate around request).decision <;> simp
  | _ => simp

/-- A request gets no answer exactly if one of its cookies has no date. -/
theorem answer?_eq_none_iff :
    gateway.answer? around request = none ↔
      ∃ effect ∈ gateway.cookieEffects around request
        (gateway.authenticate around request),
        ¬gateway.cookies.Datable around.now effect := by
  have answers :=
    (gateway.observe_eq around request (gateway.authenticate around request)).2.answers
  rw [observe_authenticate] at answers
  rw [← Option.not_isSome_iff_eq_none, answers]
  push Not
  rfl

/-- From 1970 to 3000, an answer is missing exactly if its session cookie ends beyond
the calendar. -/
theorem unanswered_iff
    (sinceEpoch : 0 ≤ around.now)
    (until3000 : around.now ≤ Date.endOf3000) :
    gateway.answer? around request = none ↔
      gateway.Issues around request ∧
      Date.last < around.now + gateway.cookies.lifetime := by
  rw [answer?_eq_none_iff, issues_iff]
  constructor
  · rintro ⟨effect, present, undated⟩
    cases effect with
    | set value =>
        rw [gateway.cookies.datable_set_iff sinceEpoch until3000, Int.not_le] at undated
        exact ⟨⟨value, present⟩, undated⟩
    | clear => exact absurd (gateway.cookies.datable_clear sinceEpoch until3000) undated
  · rintro ⟨⟨value, present⟩, tooLate⟩
    refine ⟨.set value, present, ?_⟩
    rw [gateway.cookies.datable_set_iff sinceEpoch until3000, Int.not_le]
    exact tooLate

/-- A lifetime within the calendar up to the year 3000 leaves an answer until then. -/
theorem answer?_ne_none_of_short
    (sinceEpoch : 0 ≤ around.now)
    (until3000 : around.now ≤ Date.endOf3000)
    (short : Date.endOf3000 + gateway.cookies.lifetime ≤ Date.last) :
    gateway.answer? around request ≠ none := by
  intro unanswered
  have tooLate :=
    ((gateway.unanswered_iff around request sinceEpoch until3000).mp unanswered).2
  have inTime : around.now + gateway.cookies.lifetime ≤ Date.last :=
    Int.le_trans (Int.add_le_add_right until3000 _) short
  exact Int.not_le.mpr tooLate inTime

end Gateway

namespace Config

/-- A lifetime that the check has nothing against may be made longer. -/
theorem Cookie.problems_of_longer
    {cookie : Cookie}
    (unobjectionable : cookie.problems = [])
    {longer : Nat}
    (isLonger : cookie.expire ≤ longer) :
    { cookie with expire := longer }.problems = [] := by
  unfold problems at unobjectionable ⊢
  simp only [List.append_eq_nil_iff, problemIf_eq_nil_iff] at unobjectionable ⊢
  obtain ⟨⟨⟨⟨⟨named, secret⟩, hash⟩, notZero⟩, beforeEnd⟩, keyLength⟩ := unobjectionable
  refine ⟨⟨⟨⟨⟨named, secret⟩, hash⟩, ?_⟩, ?_⟩, keyLength⟩
  · rw [beq_eq_false_iff_ne] at notZero ⊢
    omega
  · rw [Bool.and_eq_false_imp, decide_eq_false_iff_not] at beforeEnd ⊢
    intro refreshed
    have := beforeEnd refreshed
    omega

/-- The check sets the lifetime of sessions no limit. -/
theorem isValid_of_longer
    {config : Config}
    (valid : config.isValid = true)
    {longer : Nat}
    (isLonger : config.cookie.expire ≤ longer) :
    { config with cookie := { config.cookie with expire := longer } }.isValid = true := by
  unfold isValid Config.problems at valid ⊢
  simp only [List.isEmpty_iff, List.append_eq_nil_iff] at valid ⊢
  obtain ⟨⟨⟨⟨⟨⟨listener, cookie⟩, proxy⟩, skipAuth⟩, ldap⟩, timeouts⟩, metrics⟩ := valid
  have longerCookie := Cookie.problems_of_longer cookie isLonger
  exact ⟨⟨⟨⟨⟨⟨listener, longerCookie⟩, proxy⟩, skipAuth⟩, ldap⟩, timeouts⟩, metrics⟩

end Config

namespace Startup

variable {supplies : Supplies}
variable {config : Config}
variable {gateway : Gateway}

theorem cookies_of_build
    (built : build supplies config = .ok gateway) :
    gateway.cookies = cookies config.cookie :=
  (settings_of_build built).2.1

/-- What is built of a checked configuration answers all requests between 1970 and 3000,
except those whose answer would carry a session cookie that ends beyond the calendar.
The check does not rule such a lifetime out. -/
theorem unanswered_iff_beyond_calendar
    (supplies : Supplies)
    (config : Config)
    (gateway : Gateway)
    (valid : config.isValid = true)
    (built : build supplies config = .ok gateway)
    (around : Surroundings)
    (sinceEpoch : 0 ≤ around.now)
    (until3000 : around.now ≤ Date.endOf3000) :
    (∀ value host, (gateway.cookies.sessionCookie? value host around.now).isSome = true ↔
        around.now + config.cookie.expire ≤ Date.last) ∧
      (∀ host, (gateway.cookies.clearedCookie? host around.now).isSome = true) ∧
      (∀ request, gateway.answer? around request = none ↔
        gateway.Issues around request ∧ Date.last < around.now + config.cookie.expire) ∧
      ∀ longer, config.cookie.expire ≤ longer →
        { config with cookie := { config.cookie with expire := longer } }.isValid =
          true := by
  have lifetime : gateway.cookies.lifetime = config.cookie.expire := by
    rw [cookies_of_build built]
    rfl
  rw [← lifetime]
  refine ⟨?_, ?_, ?_,
    fun _ isLonger => Config.isValid_of_longer valid (lifetime ▸ isLonger)⟩
  · intro value host
    rw [← gateway.cookies.datable_set_iff sinceEpoch until3000 value]
    exact gateway.cookies.isSome_cookieOf?_iff host around.now (.set value)
  · intro host
    exact (gateway.cookies.isSome_cookieOf?_iff host around.now .clear).mpr
      (gateway.cookies.datable_clear sinceEpoch until3000)
  · intro request
    exact gateway.unanswered_iff around request sinceEpoch until3000

/-- A configuration with a backend, a password file and a lifetime of sessions. -/
def keptFor (lifetime : Nat) : Config where
  cookie := { secret := "0123456789abcdef", expire := lifetime }
  proxy := { addresses := ["http://app.internal/"] }
  htpasswd := { path := some "users" }

/-- The password file of one user. -/
def alice : Supplies :=
  withUser "alice:{SHA}MXmmXv8lI7veU8mbKZtxnBCjUjU="

/-- The request in which this user signs in. -/
def entrance : Request :=
  ⟨"POST", ⟨none, none, "/ldap_proxy/sign_in"⟩,
    ⟨[("content-type", Text.Utf8.encode "application/x-www-form-urlencoded")]⟩,
    Text.Utf8.encode "username=alice&password=correct", none⟩

/-- Where sessions last a week, signing in is answered. -/
theorem weekly_session_is_begun :
    ∃ gateway, build alice (keptFor 604800) = .ok gateway ∧
      gateway.answer? Gateway.nowhere entrance ≠ none := by
  have valid : (keptFor 604800).isValid = true := by decide +kernel
  have readable : Readable alice (keptFor 604800) := fun _ _ => rfl
  obtain ⟨gateway, built⟩ := (exists_build_iff valid readable).mpr (by decide +kernel)
  refine ⟨gateway, built, fun unanswered => ?_⟩
  obtain ⟨-, -, unansweredIff, -⟩ :=
    unanswered_iff_beyond_calendar alice (keptFor 604800) gateway valid built
      Gateway.nowhere (by decide) (by decide)
  exact absurd ((unansweredIff entrance).mp unanswered).2 (by decide)

/-- Where sessions last nine thousand years, which the check lets pass, signing in is
not answered. -/
theorem lasting_session_is_not_begun :
    (keptFor 300000000000).isValid = true ∧
      (build alice (keptFor 300000000000)).toOption.map
        (·.answer? Gateway.nowhere entrance) =
        some none ∧
      ((build alice (keptFor 604800)).toOption.bind
        (·.answer? Gateway.nowhere entrance)).map (·.response.status) = some 302 := by
  decide +kernel

end Startup
end Gatehouse
