import Gatehouse.Auth.Engine
import Gatehouse.Proofs.Credentials.BasicHeader
import Gatehouse.Proofs.Session.Sealing

/-!
# What the engine decides

The engine goes through a session step by step and may drop it at each of them. The
outcome has a description without steps: which questions are asked, under which
conditions a session survives them, and what then becomes of the request and of its
cookie. The main statement says that the description fits the outcome of the engine and
no other one.
-/

namespace Gatehouse
namespace Engine

variable (engine : Engine)

/-! ## The description -/

/-- The cookie of a request opens as a session. -/
def Opens (cookie : Option String) (now : Time) (loaded : LoadedSession) : Prop :=
  ∃ value, cookie = some value ∧ value ≠ "" ∧ engine.sealer.load value now = .ok loaded

/-- A session is so old that it is to be sealed anew. -/
def IsAged (loaded : LoadedSession) : Prop :=
  0 < engine.lifetime.refresh ∧ engine.lifetime.refresh < loaded.age

/-- The session is to be sealed anew, and the refresher has not renewed it. -/
def IsChecked (loaded : LoadedSession) (refreshed : Refreshed) : Prop :=
  refreshed.renewed = false ∧ engine.IsAged loaded

instance (loaded : LoadedSession) : Decidable (engine.IsAged loaded) :=
  inferInstanceAs (Decidable (_ ∧ _))

instance (loaded : LoadedSession) (refreshed : Refreshed) :
    Decidable (engine.IsChecked loaded refreshed) :=
  inferInstanceAs (Decidable (_ ∧ _))

/-- A loaded session survives as what the refresher has made of it. -/
structure Survives (loaded : LoadedSession) (refreshed : Refreshed) : Prop where
  refreshes : engine.refresher loaded.session = some refreshed
  validates : engine.IsChecked loaded refreshed →
    engine.validator refreshed.session = true
  unexpired : loaded.age ≤ engine.lifetime.expire
  admitted : ∀ address, refreshed.session.email = some address →
    address = "" ∨ engine.admits address = true

/-- The basic credentials of a request are those of a user of the password file. -/
def AcceptsBasic (authorization : Option String) (user : String) : Prop :=
  ∃ file header password, engine.basic = some file ∧
    authorization = some header ∧ header ≠ "" ∧
    BasicCredentials.ofHeader header = .ok ⟨user, password⟩ ∧
    file.accepts user password = true

/-- The outcome that a request ought to have. -/
structure Prescribes
    (nonce : Crypto.Gcm.Nonce)
    (evidence : Evidence)
    (now : Time)
    (outcome : Outcome) : Prop where
  /-- Without a session nothing is asked, and no cookie is touched. -/
  untouched : (∀ loaded, ¬ engine.Opens evidence.cookie now loaded) →
    outcome.hooks = [] ∧ outcome.effects = []
  /-- The refresher is asked once, and behind it the validator, if it is to be asked. -/
  checked : ∀ loaded refreshed, engine.Opens evidence.cookie now loaded →
    engine.refresher loaded.session = some refreshed → engine.IsChecked loaded refreshed →
    outcome.hooks = [.refresh loaded.session, .validate refreshed.session]
  /-- Otherwise the refresher alone is asked once. -/
  unchecked : ∀ loaded, engine.Opens evidence.cookie now loaded →
    (∀ refreshed, engine.refresher loaded.session = some refreshed →
      ¬ engine.IsChecked loaded refreshed) →
    outcome.hooks = [.refresh loaded.session]
  /-- A session that survives is accepted. -/
  accepted : ∀ loaded refreshed, engine.Opens evidence.cookie now loaded →
    engine.Survives loaded refreshed → outcome.decision = .accept refreshed.session
  /-- It is sealed anew if it has been renewed or has come of age. -/
  reissued : ∀ loaded refreshed, engine.Opens evidence.cookie now loaded →
    engine.Survives loaded refreshed → refreshed.renewed = true ∨ engine.IsAged loaded →
    outcome.effects = [.set (engine.sealer.issue nonce refreshed.session now)]
  /-- Otherwise its cookie stays. -/
  kept : ∀ loaded refreshed, engine.Opens evidence.cookie now loaded →
    engine.Survives loaded refreshed →
    ¬ (refreshed.renewed = true ∨ engine.IsAged loaded) →
    outcome.effects = []
  /-- The cookie of a session that does not survive is cleared. -/
  cleared : ∀ loaded, engine.Opens evidence.cookie now loaded →
    (∀ refreshed, ¬ engine.Survives loaded refreshed) → outcome.effects = [.clear]
  /-- Without a session that survives, a user is accepted exactly by basic credentials. -/
  fallback : (∀ loaded refreshed, engine.Opens evidence.cookie now loaded →
      ¬ engine.Survives loaded refreshed) →
    ∀ session, outcome.decision = .accept session ↔
      ∃ user, engine.AcceptsBasic evidence.authorization user ∧
        session = Session.ofUser user
  /-- Without them either, the request is refused. -/
  refused : (∀ loaded refreshed, engine.Opens evidence.cookie now loaded →
      ¬ engine.Survives loaded refreshed) →
    (∀ user, ¬ engine.AcceptsBasic evidence.authorization user) →
      outcome.decision = .reject

/-! ## Loading -/

/-- A session is loaded exactly from a cookie that opens. -/
theorem load_eq_some_iff
    {cookie : Option String}
    {now : Time}
    {loaded : LoadedSession} :
    engine.load cookie now = some loaded ↔ engine.Opens cookie now loaded := by
  unfold load Opens
  cases cookie with
  | none => simp
  | some value =>
      by_cases empty : value = ""
      · simp [empty]
      · cases opened : engine.sealer.load value now <;> simp [empty, opened]

/-- No session is loaded exactly if the cookie is missing, empty, or does not open. -/
theorem not_opens_iff {cookie : Option String} {now : Time} :
    (∀ loaded, ¬ engine.Opens cookie now loaded) ↔
      cookie = none ∨ cookie = some "" ∨
        ∃ value cause, cookie = some value ∧
          engine.sealer.load value now = .error cause := by
  unfold Opens
  cases cookie with
  | none => simp
  | some value =>
      by_cases empty : value = ""
      · simp [empty]
      · cases opened : engine.sealer.load value now <;> simp [empty, opened]

/-- A session that has been loaded is opened again, without age, when it is sealed
anew. -/
theorem load_issue_of_opens
    {cookie : Option String}
    {now : Time}
    {loaded : LoadedSession}
    (opens : engine.Opens cookie now loaded)
    (dated : Date.exists? now = true)
    (nonce : Crypto.Gcm.Nonce) :
    engine.sealer.load (engine.sealer.issue nonce loaded.session now) now =
      .ok ⟨loaded.session, 0⟩ := by
  obtain ⟨value, -, -, opened⟩ := opens
  have shows := engine.sealer.ofPayload?_payload_of_load opened
  rw [engine.sealer.load_issue nonce dated shows now, elapsed_self]

/-! ## Basic credentials -/

/-- A header identifies exactly the user whose password it carries. -/
theorem identifyHeader_eq_ok_iff
    {file : Htpasswd}
    {header : String}
    {identity : Identity} :
    file.identifyHeader header = .ok identity ↔
      ∃ user password, BasicCredentials.ofHeader header = .ok ⟨user, password⟩ ∧
        file.accepts user password = true ∧ identity = Identity.ofUser user := by
  rw [Htpasswd.identifyHeader_eq_ok_iff]
  simp only [BasicCredentials.ofHeader_eq_ok_iff, and_assoc]

/-- The session of basic credentials is that of the user who is accepted by them. -/
theorem basicSession_eq_some_iff {authorization : Option String} {session : Session} :
    engine.basicSession authorization = some session ↔
      ∃ user, engine.AcceptsBasic authorization user ∧ session = Session.ofUser user := by
  constructor
  · intro found
    unfold basicSession at found
    obtain ⟨file, provided, found⟩ := Option.bind_eq_some_iff.mp found
    obtain ⟨header, sent, found⟩ := Option.bind_eq_some_iff.mp found
    split at found
    · cases found
    · next filled =>
        split at found
        · next identity identified =>
            obtain ⟨user, password, read, known, rfl⟩ :=
              identifyHeader_eq_ok_iff.mp identified
            cases found
            exact ⟨user, ⟨file, header, password, provided, sent, filled,
              read, known⟩, rfl⟩
        · cases found
  · rintro ⟨user, ⟨file, header, password, provided, sent, filled, read, known⟩, rfl⟩
    have identified := identifyHeader_eq_ok_iff.mpr ⟨user, password, read, known, rfl⟩
    simp [basicSession, provided, sent, filled, identified, Identity.ofUser]

/-! ## The review -/

/-- The owner of a session is admitted unless its address is neither empty nor
admitted. -/
theorem admitsSession_iff {session : Session} :
    engine.admitsSession session = true ↔
      ∀ address,
        session.email = some address → address = "" ∨ engine.admits address = true := by
  unfold admitsSession
  cases session.email with
  | none => simp
  | some address => simp

section Review

variable {loaded : LoadedSession}
variable {refreshed : Refreshed}

/-- The questions that are asked about a session which the refresher does not give up. -/
def questions
    (engine : Engine)
    (loaded : LoadedSession)
    (refreshed : Refreshed) : List HookCall :=
  if engine.IsChecked loaded refreshed then
    [.refresh loaded.session, .validate refreshed.session]
  else [.refresh loaded.session]

/-- The refresher alone is asked about a session that it gives up. -/
theorem review_of_given_up (givenUp : engine.refresher loaded.session = none) :
    engine.review loaded = ⟨none, false, [.refresh loaded.session]⟩ := by
  unfold review
  simp only [givenUp]

/-- The review of a session that the refresher keeps, by properties of the session. -/
theorem review_of_refreshed
    (refreshes : engine.refresher loaded.session = some refreshed) :
    engine.review loaded =
      if (engine.IsChecked loaded refreshed → engine.validator refreshed.session = true) ∧
          loaded.age ≤ engine.lifetime.expire ∧
          engine.admitsSession refreshed.session = true then
        ⟨some refreshed.session, decide (refreshed.renewed = true ∨ engine.IsAged loaded),
          engine.questions loaded refreshed⟩
      else ⟨none, false, engine.questions loaded refreshed⟩ := by
  have aged :
      (engine.lifetime.refresh != 0 && decide (engine.lifetime.refresh < loaded.age)) =
      decide (engine.IsAged loaded) := by
    rw [Bool.eq_iff_iff]
    simp [IsAged, Nat.pos_iff_ne_zero]
  have checks : (decide (engine.IsAged loaded) && !refreshed.renewed) =
      decide (engine.IsChecked loaded refreshed) := by
    cases renewed : refreshed.renewed <;> simp [IsChecked, renewed]
  unfold review questions
  simp only [refreshes, aged, checks, List.singleton_append]
  by_cases checked : engine.IsChecked loaded refreshed
  · cases valid : engine.validator refreshed.session with
    | false => simp [checked]
    | true =>
       by_cases expired : engine.lifetime.expire < loaded.age
       · simp [checked, expired, Nat.not_le.mpr expired]
       · simp [checked, expired, Nat.not_lt.mp expired, Bool.or_comm]
  · by_cases expired : engine.lifetime.expire < loaded.age
    · simp [checked, expired, Nat.not_le.mpr expired]
    · simp [checked, expired, Nat.not_lt.mp expired, Bool.or_comm]

theorem hooks_review (refreshes : engine.refresher loaded.session = some refreshed) :
    (engine.review loaded).hooks = engine.questions loaded refreshed := by
  rw [engine.review_of_refreshed refreshes]
  split <;> rfl

theorem review_of_survives (survives : engine.Survives loaded refreshed) :
    engine.review loaded =
      ⟨some refreshed.session, decide (refreshed.renewed = true ∨ engine.IsAged loaded),
        engine.questions loaded refreshed⟩ := by
  rw [engine.review_of_refreshed survives.refreshes, if_pos]
  exact ⟨survives.validates, survives.unexpired,
    engine.admitsSession_iff.mpr survives.admitted⟩

theorem review_of_not_survives
    (refreshes : engine.refresher loaded.session = some refreshed)
    (lost : ¬ engine.Survives loaded refreshed) :
    engine.review loaded = ⟨none, false, engine.questions loaded refreshed⟩ := by
  rw [engine.review_of_refreshed refreshes, if_neg]
  rintro ⟨validates, unexpired, admitted⟩
  exact lost ⟨refreshes, validates, unexpired, engine.admitsSession_iff.mp admitted⟩

end Review

/-! ## The outcome -/

section Outcome

variable {nonce : Crypto.Gcm.Nonce}
variable {evidence : Evidence}
variable {now : Time}
variable {loaded : LoadedSession}
variable {refreshed : Refreshed}

/-- The decision about a request without a session. -/
def decisionWithout (engine : Engine) (authorization : Option String) : Decision :=
  match engine.basicSession authorization with
  | some session => .accept session
  | none => .reject

/-- The outcome of a request, from what is loaded and what the review leaves of it. -/
theorem authenticate_eq :
    engine.authenticate nonce evidence now =
      match engine.load evidence.cookie now with
      | none => ⟨engine.decisionWithout evidence.authorization, [], []⟩
      | some loaded =>
          match (engine.review loaded).session with
          | none => ⟨engine.decisionWithout evidence.authorization, [.clear],
              (engine.review loaded).hooks⟩
          | some session => ⟨.accept session,
              if (engine.review loaded).reissue then
                [.set (engine.sealer.issue nonce session now)]
              else [],
              (engine.review loaded).hooks⟩ :=
  rfl

/-- Without a session, a user is accepted exactly by basic credentials. -/
theorem decisionWithout_eq_accept_iff
    {authorization : Option String}
    {session : Session} :
    engine.decisionWithout authorization = .accept session ↔
      ∃ user, engine.AcceptsBasic authorization user ∧ session = Session.ofUser user := by
  rw [← basicSession_eq_some_iff]
  unfold decisionWithout
  cases engine.basicSession authorization <;> simp

/-- Without a session and without basic credentials, a request is refused. -/
theorem decisionWithout_eq_reject
    {authorization : Option String}
    (unknown : ∀ user, ¬ engine.AcceptsBasic authorization user) :
    engine.decisionWithout authorization = .reject := by
  unfold decisionWithout
  split
  · next session found =>
      obtain ⟨user, accepts, -⟩ := engine.basicSession_eq_some_iff.mp found
      exact absurd accepts (unknown user)
  · rfl

/-- Without a session only the basic credentials are looked at. -/
theorem authenticate_of_not_opens
    (closed : ∀ loaded, ¬ engine.Opens evidence.cookie now loaded) :
    engine.authenticate nonce evidence now =
      ⟨engine.decisionWithout evidence.authorization, [], []⟩ := by
  have absent : engine.load evidence.cookie now = none := by
    apply Option.eq_none_iff_forall_not_mem.mpr
    intro loaded found
    exact closed loaded (engine.load_eq_some_iff.mp found)
  simp only [authenticate_eq, absent]

/-- A session that survives decides, and it is sealed anew when that is due. -/
theorem authenticate_of_survives
    (opens : engine.Opens evidence.cookie now loaded)
    (survives : engine.Survives loaded refreshed) :
    engine.authenticate nonce evidence now =
      ⟨.accept refreshed.session,
        if refreshed.renewed = true ∨ engine.IsAged loaded then
          [.set (engine.sealer.issue nonce refreshed.session now)]
        else [],
        engine.questions loaded refreshed⟩ := by
  simp only [authenticate_eq, engine.load_eq_some_iff.mpr opens,
    engine.review_of_survives survives, decide_eq_true_iff]

/-- A session that does not survive is cleared, and the basic credentials decide. -/
theorem authenticate_of_not_survives
    (opens : engine.Opens evidence.cookie now loaded)
    (lost : ∀ refreshed, ¬ engine.Survives loaded refreshed) :
    engine.authenticate nonce evidence now =
      ⟨engine.decisionWithout evidence.authorization, [.clear],
        (engine.review loaded).hooks⟩ := by
  have nothing : (engine.review loaded).session = none := by
    cases refreshes : engine.refresher loaded.session with
    | none => rw [engine.review_of_given_up refreshes]
    | some refreshed => rw [engine.review_of_not_survives refreshes (lost refreshed)]
  simp only [authenticate_eq, engine.load_eq_some_iff.mpr opens, nothing]

theorem hooks_authenticate (opens : engine.Opens evidence.cookie now loaded) :
    (engine.authenticate nonce evidence now).hooks = (engine.review loaded).hooks := by
  simp only [authenticate_eq, engine.load_eq_some_iff.mpr opens]
  split <;> rfl

/-- Without a session that survives the basic credentials decide. -/
theorem decision_authenticate
    (lost : ∀ loaded refreshed, engine.Opens evidence.cookie now loaded →
      ¬ engine.Survives loaded refreshed) :
    (engine.authenticate nonce evidence now).decision =
      engine.decisionWithout evidence.authorization := by
  by_cases opened : ∃ loaded, engine.Opens evidence.cookie now loaded
  · obtain ⟨loaded, opens⟩ := opened
    rw [engine.authenticate_of_not_survives opens fun refreshed =>
      lost loaded refreshed opens]
  · rw [engine.authenticate_of_not_opens (not_exists.mp opened)]

/-- The outcome of the engine is as it ought to be. -/
theorem prescribes_authenticate :
    engine.Prescribes nonce evidence now (engine.authenticate nonce evidence now) where
  untouched := by
    intro closed
    rw [engine.authenticate_of_not_opens closed]
    exact ⟨rfl, rfl⟩
  checked := by
    intro loaded refreshed opens refreshes checked
    rw [engine.hooks_authenticate opens, engine.hooks_review refreshes, questions,
      if_pos checked]
  unchecked := by
    intro loaded opens unchecked
    rw [engine.hooks_authenticate opens]
    cases refreshes : engine.refresher loaded.session with
    | none => rw [engine.review_of_given_up refreshes]
    | some refreshed =>
        rw [engine.hooks_review refreshes, questions,
          if_neg (unchecked refreshed refreshes)]
  accepted := by
    intro loaded refreshed opens survives
    rw [engine.authenticate_of_survives opens survives]
  reissued := by
    intro loaded refreshed opens survives due
    rw [engine.authenticate_of_survives opens survives]
    exact if_pos due
  kept := by
    intro loaded refreshed opens survives early
    rw [engine.authenticate_of_survives opens survives]
    exact if_neg early
  cleared := by
    intro loaded opens lost
    rw [engine.authenticate_of_not_survives opens lost]
  fallback := by
    intro lost session
    rw [engine.decision_authenticate lost]
    exact engine.decisionWithout_eq_accept_iff
  refused := by
    intro lost unknown
    rw [engine.decision_authenticate lost]
    exact engine.decisionWithout_eq_reject unknown

/-- Prescribed outcomes decide alike. -/
theorem Prescribes.decision_unique
    {outcome other : Outcome}
    (prescribes : engine.Prescribes nonce evidence now outcome)
    (prescribesOther : engine.Prescribes nonce evidence now other) :
    outcome.decision = other.decision := by
  by_cases lost : ∀ loaded refreshed, engine.Opens evidence.cookie now loaded →
      ¬ engine.Survives loaded refreshed
  · by_cases unknown : ∀ user, ¬ engine.AcceptsBasic evidence.authorization user
    · rw [prescribes.refused lost unknown, prescribesOther.refused lost unknown]
    · obtain ⟨user, accepts⟩ := not_forall_not.mp unknown
      have accepted : ∃ known, engine.AcceptsBasic evidence.authorization known ∧
          Session.ofUser user = Session.ofUser known := ⟨user, accepts, rfl⟩
      rw [(prescribes.fallback lost _).mpr accepted,
        (prescribesOther.fallback lost _).mpr accepted]
  · push Not at lost
    obtain ⟨loaded, refreshed, opens, survives⟩ := lost
    rw [prescribes.accepted loaded refreshed opens survives,
      prescribesOther.accepted loaded refreshed opens survives]

/-- Prescribed outcomes have the same effects. -/
theorem Prescribes.effects_unique
    {outcome other : Outcome}
    (prescribes : engine.Prescribes nonce evidence now outcome)
    (prescribesOther : engine.Prescribes nonce evidence now other) :
    outcome.effects = other.effects := by
  by_cases opened : ∃ loaded, engine.Opens evidence.cookie now loaded
  · obtain ⟨loaded, opens⟩ := opened
    by_cases survived : ∃ refreshed, engine.Survives loaded refreshed
    · obtain ⟨refreshed, survives⟩ := survived
      by_cases due : refreshed.renewed = true ∨ engine.IsAged loaded
      · rw [prescribes.reissued loaded refreshed opens survives due,
          prescribesOther.reissued loaded refreshed opens survives due]
      · rw [prescribes.kept loaded refreshed opens survives due,
          prescribesOther.kept loaded refreshed opens survives due]
    · have lost := not_exists.mp survived
      rw [prescribes.cleared loaded opens lost, prescribesOther.cleared loaded opens lost]
  · have closed := not_exists.mp opened
    rw [(prescribes.untouched closed).2, (prescribesOther.untouched closed).2]

/-- Prescribed outcomes ask the same questions. -/
theorem Prescribes.hooks_unique
    {outcome other : Outcome}
    (prescribes : engine.Prescribes nonce evidence now outcome)
    (prescribesOther : engine.Prescribes nonce evidence now other) :
    outcome.hooks = other.hooks := by
  by_cases opened : ∃ loaded, engine.Opens evidence.cookie now loaded
  · obtain ⟨loaded, opens⟩ := opened
    by_cases unchecked : ∀ refreshed, engine.refresher loaded.session = some refreshed →
        ¬ engine.IsChecked loaded refreshed
    · rw [prescribes.unchecked loaded opens unchecked,
        prescribesOther.unchecked loaded opens unchecked]
    · push Not at unchecked
      obtain ⟨refreshed, refreshes, checked⟩ := unchecked
      rw [prescribes.checked loaded refreshed opens refreshes checked,
        prescribesOther.checked loaded refreshed opens refreshes checked]
  · have closed := not_exists.mp opened
    rw [(prescribes.untouched closed).1, (prescribesOther.untouched closed).1]

/-- The description fits one outcome, that of the engine. -/
theorem prescribes_iff {outcome : Outcome} :
    engine.Prescribes nonce evidence now outcome ↔
      outcome = engine.authenticate nonce evidence now := by
  have prescribed :
      engine.Prescribes nonce evidence now (engine.authenticate nonce evidence now) :=
    engine.prescribes_authenticate
  constructor
  · intro prescribes
    have decisions := prescribes.decision_unique engine prescribed
    have effects := prescribes.effects_unique engine prescribed
    have hooks := prescribes.hooks_unique engine prescribed
    obtain ⟨decision, effects, hooks⟩ := outcome
    cases decisions
    cases effects
    cases hooks
    rfl
  · rintro rfl
    exact prescribed

/-- The refresher is asked about every session that is loaded. -/
theorem refresh_mem_hooks_review :
    .refresh loaded.session ∈ (engine.review loaded).hooks := by
  cases refreshes : engine.refresher loaded.session with
  | none => simp [engine.review_of_given_up refreshes]
  | some refreshed =>
      rw [engine.hooks_review refreshes, questions]
      split <;> simp

/-- At most one session is loaded from a cookie. -/
theorem Opens.unique
    {cookie : Option String}
    {other : LoadedSession}
    (opens : engine.Opens cookie now loaded)
    (opensOther : engine.Opens cookie now other) :
    other = loaded :=
  Option.some.inj
    ((engine.load_eq_some_iff.mpr opensOther).symm.trans
      (engine.load_eq_some_iff.mpr opens))

/-- A cookie is set exactly for a surviving session that is renewed or has come of age. -/
theorem set_mem_effects_iff {value : String} :
    .set value ∈ (engine.authenticate nonce evidence now).effects ↔
      ∃ loaded refreshed, engine.Opens evidence.cookie now loaded ∧
        engine.Survives loaded refreshed ∧
        (refreshed.renewed = true ∨ engine.IsAged loaded) ∧
        value = engine.sealer.issue nonce refreshed.session now := by
  constructor
  · intro isSet
    by_cases opened : ∃ loaded, engine.Opens evidence.cookie now loaded
    · obtain ⟨loaded, opens⟩ := opened
      by_cases survived : ∃ refreshed, engine.Survives loaded refreshed
      · obtain ⟨refreshed, survives⟩ := survived
        rw [engine.authenticate_of_survives opens survives,
          List.mem_ite_nil_right] at isSet
        obtain ⟨due, isSet⟩ := isSet
        have isValue := CookieEffect.set.inj (List.mem_singleton.mp isSet)
        exact ⟨loaded, refreshed, opens, survives, due, isValue⟩
      · rw [engine.authenticate_of_not_survives opens (not_exists.mp survived)] at isSet
        cases List.mem_singleton.mp isSet
    · rw [engine.authenticate_of_not_opens (not_exists.mp opened)] at isSet
      cases isSet
  · rintro ⟨loaded, refreshed, opens, survives, due, rfl⟩
    rw [engine.authenticate_of_survives opens survives, if_pos due]
    exact List.mem_singleton_self _

/-- A cookie that is set carries what the refresher has made of the session. -/
theorem eq_issue_of_set_mem_effects
    {value : String}
    (opens : engine.Opens evidence.cookie now loaded)
    (refreshes : engine.refresher loaded.session = some refreshed)
    (isSet : .set value ∈ (engine.authenticate nonce evidence now).effects) :
    value = engine.sealer.issue nonce refreshed.session now := by
  obtain ⟨other, otherRefreshed, opensOther, survives, -, rfl⟩ :=
    engine.set_mem_effects_iff.mp isSet
  obtain rfl := Opens.unique engine opens opensOther
  rw [Option.some.inj (refreshes.symm.trans survives.refreshes)]

end Outcome

/-- The hooks leave every session alone and find it good. -/
structure IsUnhooked : Prop where
  refresher_eq : engine.refresher = neverRefresh
  validator_eq : engine.validator = alwaysValid

/-- Without hooks, a session whose owner is admitted survives exactly if it has not
expired. -/
theorem IsUnhooked.survives_iff
    {engine : Engine}
    (unhooked : engine.IsUnhooked)
    {session : Session}
    (admitted : ∀ address, session.email = some address →
      address = "" ∨ engine.admits address = true)
    {age : Nat}
    {refreshed : Refreshed} :
    engine.Survives ⟨session, age⟩ refreshed ↔
      refreshed = ⟨false, session⟩ ∧ age ≤ engine.lifetime.expire := by
  constructor
  · rintro ⟨refreshes, -, unexpired, -⟩
    rw [unhooked.refresher_eq] at refreshes
    exact ⟨(Option.some.inj refreshes).symm, unexpired⟩
  · rintro ⟨rfl, unexpired⟩
    refine ⟨by rw [unhooked.refresher_eq]; rfl,
      fun _ => by rw [unhooked.validator_eq]; rfl, unexpired, admitted⟩

section Hooks

variable (refresher : Session → Option Refreshed)
variable (validator : Session → Bool)

/-- The engine with other hooks. -/
def withHooks : Engine :=
  { engine with refresher := refresher, validator := validator }

/-- A review knows of the hooks only what it has asked them. -/
theorem review_withHooks
    {loaded : LoadedSession}
    (sameRefresh : ∀ session, .refresh session ∈ (engine.review loaded).hooks →
      refresher session = engine.refresher session)
    (sameValidity : ∀ session, .validate session ∈ (engine.review loaded).hooks →
      validator session = engine.validator session) :
    (engine.withHooks refresher validator).review loaded = engine.review loaded := by
  have sameRefreshed : (engine.withHooks refresher validator).refresher loaded.session =
      engine.refresher loaded.session :=
    sameRefresh loaded.session engine.refresh_mem_hooks_review
  cases refreshes : engine.refresher loaded.session with
  | none =>
      rw [review_of_given_up _ (sameRefreshed.trans refreshes),
        review_of_given_up _ refreshes]
  | some refreshed =>
      rw [review_of_refreshed _ (sameRefreshed.trans refreshes),
        review_of_refreshed _ refreshes]
      have sameCheck :
          (engine.IsChecked loaded refreshed → validator refreshed.session = true) ↔
            (engine.IsChecked loaded refreshed →
              engine.validator refreshed.session = true) := by
        apply imp_congr_right
        intro checked
        rw [sameValidity]
        rw [engine.hooks_review refreshes, questions, if_pos checked]
        exact List.mem_cons_of_mem _ (List.mem_singleton_self _)
      exact if_congr (and_congr_left' sameCheck) rfl rfl

/-- An outcome depends on the hooks only where it has asked them. -/
theorem authenticate_withHooks
    {nonce : Crypto.Gcm.Nonce}
    {evidence : Evidence}
    {now : Time}
    (sameRefresh : ∀ session,
      .refresh session ∈ (engine.authenticate nonce evidence now).hooks →
      refresher session = engine.refresher session)
    (sameValidity : ∀ session,
      .validate session ∈ (engine.authenticate nonce evidence now).hooks →
      validator session = engine.validator session) :
    (engine.withHooks refresher validator).authenticate nonce evidence now =
      engine.authenticate nonce evidence now := by
  by_cases opened : ∃ loaded, engine.Opens evidence.cookie now loaded
  · obtain ⟨loaded, opens⟩ := opened
    rw [engine.hooks_authenticate opens] at sameRefresh sameValidity
    have sameReview :=
      engine.review_withHooks refresher validator sameRefresh sameValidity
    have found := engine.load_eq_some_iff.mpr opens
    have foundToo :
        (engine.withHooks refresher validator).load evidence.cookie now = some loaded :=
      found
    simp only [authenticate_eq, found, foundToo, sameReview]
    rfl
  · have closed := not_exists.mp opened
    rw [engine.authenticate_of_not_opens closed]
    exact (engine.withHooks refresher validator).authenticate_of_not_opens closed

end Hooks

/-- The outcome of a request is the only one that the description prescribes. A cookie
opens unless it is missing, empty or refused by the sealer. One that is set for a
session which the refresher has left alone opens as this session, without age. Questions
that were not asked have no influence. -/
theorem authenticate_refines_description
    (engine : Engine)
    (nonce : Crypto.Gcm.Nonce)
    (evidence : Evidence)
    (now : Time) :
    (∀ outcome, engine.Prescribes nonce evidence now outcome ↔
      outcome = engine.authenticate nonce evidence now) ∧
    ((∀ loaded, ¬ engine.Opens evidence.cookie now loaded) ↔
      evidence.cookie = none ∨ evidence.cookie = some "" ∨
        ∃ value cause, evidence.cookie = some value ∧
          engine.sealer.load value now = .error cause) ∧
    (∀ loaded refreshed value, engine.Opens evidence.cookie now loaded →
      engine.refresher loaded.session = some refreshed →
      refreshed.session = loaded.session →
      .set value ∈ (engine.authenticate nonce evidence now).effects →
      Date.exists? now = true →
      engine.sealer.load value now = .ok ⟨refreshed.session, 0⟩) ∧
    ∀ refresher validator,
      (∀ session, .refresh session ∈ (engine.authenticate nonce evidence now).hooks →
        refresher session = engine.refresher session) →
      (∀ session, .validate session ∈ (engine.authenticate nonce evidence now).hooks →
        validator session = engine.validator session) →
      (engine.withHooks refresher validator).authenticate nonce evidence now =
        engine.authenticate nonce evidence now := by
  refine ⟨fun outcome => engine.prescribes_iff, engine.not_opens_iff, ?_, ?_⟩
  · intro loaded refreshed value opens refreshes same isSet dated
    rw [engine.eq_issue_of_set_mem_effects opens refreshes isSet, same]
    exact engine.load_issue_of_opens opens dated nonce
  · intro refresher validator sameRefresh sameValidity
    exact engine.authenticate_withHooks refresher validator sameRefresh sameValidity

/-- An engine whose sessions come of age after ten seconds and end after a hundred. -/
def brisk : Engine :=
  { sealer := ⟨"_lap", ⟨Text.Utf8.encode "key", .sha256⟩, none⟩
    lifetime := ⟨100, 10⟩
    refresher := neverRefresh
    validator := fun session => session.user = "alice"
    admits := fun _ => true
    basic := none }

/-- Alice's session of fifty seconds is validated, accepted, and sealed anew without
age. -/
theorem brisk_reissues_session :
    let alice : Session := ⟨"alice", none⟩
    let nonce : Crypto.Gcm.Nonce := Vector.replicate 12 5
    let evidence : Evidence := ⟨some (brisk.sealer.issue nonce alice 1000), none⟩
    let outcome := brisk.authenticate nonce evidence 1050
    outcome.decision = .accept alice ∧ outcome.hooks = [.refresh alice, .validate alice] ∧
      ∃ value, outcome.effects = [.set value] ∧
        brisk.sealer.load value 1050 = .ok ⟨alice, 0⟩ := by
  intro alice nonce evidence outcome
  have opened :
      brisk.sealer.load (brisk.sealer.issue nonce alice 1000) 1050 = .ok ⟨alice, 50⟩ :=
    brisk.sealer.load_issue nonce (by decide) (by decide +kernel) 1050
  have opens : brisk.Opens evidence.cookie 1050 ⟨alice, 50⟩ :=
    ⟨_, rfl, brisk.sealer.ne_empty_of_load opened, opened⟩
  have refreshes : brisk.refresher alice = some ⟨false, alice⟩ := rfl
  have checked : brisk.IsChecked ⟨alice, 50⟩ ⟨false, alice⟩ := by decide
  have survives : brisk.Survives ⟨alice, 50⟩ ⟨false, alice⟩ :=
    ⟨refreshes, fun _ => by decide, by decide, nofun⟩
  obtain ⟨fits, -, renewed, -⟩ :=
    authenticate_refines_description brisk nonce evidence 1050
  have prescribes := (fits outcome).mpr rfl
  have reissued := prescribes.reissued _ _ opens survives (Or.inr checked.2)
  refine ⟨prescribes.accepted _ _ opens survives, ?_, _, reissued, ?_⟩
  · exact prescribes.checked _ _ opens refreshes checked
  · refine renewed _ _ _ opens refreshes rfl ?_ (by decide)
    exact reissued ▸ List.mem_singleton_self _

end Engine
end Gatehouse
