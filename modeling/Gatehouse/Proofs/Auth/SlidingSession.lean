import Gatehouse.Auth.EmailAllowList
import Gatehouse.Proofs.Auth.Decision
import Mathlib.Data.List.Chain

/-!
# Sessions that are kept alive by requests

A client signs in and then sends requests, each with the cookie that was set last. As
long as the requests come soon enough one after another, the session lives on, since its
cookie is sealed anew from time to time. A pause beyond the time after which sessions
expire ends it. All of this follows from what one request does with the cookie, by
induction on the requests that came before.
-/

namespace Gatehouse

/-! ## Clients -/

/-- A request of a client: its time, its credentials, and the nonce for a new cookie. -/
structure Visit where
  time : Int
  authorization : Option String
  nonce : Crypto.Gcm.Nonce

/-- A client: the cookie that it holds, and when it was last let in. -/
structure Client where
  cookie : Option String
  accepted : Int

/-- What a client holds after an effect on its cookie, whatever it has held before. -/
def CookieEffect.apply : Option String → CookieEffect → Option String
  | _, .set value => some value
  | _, .clear => none

/-- A client after a request with the given outcome. -/
def Client.next (client : Client) (visit : Visit) (outcome : Outcome) : Client where
  cookie := outcome.effects.foldl CookieEffect.apply client.cookie
  accepted := if outcome.isAccepted then visit.time else client.accepted

namespace Engine

/-- The engine that asks no hooks, admits every address and knows no password file. -/
def standard (sealer : Sealer) (lifetime : Lifetime) : Engine where
  sealer := sealer
  lifetime := lifetime
  refresher := neverRefresh
  validator := alwaysValid
  admits := EmailAllowList.any.allows
  basic := none

/-- A client that has just signed in. -/
def signedIn
    (engine : Engine)
    (nonce : Crypto.Gcm.Nonce)
    (session : Session)
    (time : Int) : Client where
  cookie := some (engine.sealer.issue nonce session time)
  accepted := time

/-- The outcome of a request of a client. -/
def answer (engine : Engine) (client : Client) (visit : Visit) : Outcome :=
  engine.authenticate visit.nonce ⟨client.cookie, visit.authorization⟩ visit.time

/-- A client after some requests. -/
def after (engine : Engine) (client : Client) (visits : List Visit) : Client :=
  visits.foldl (fun client visit => client.next visit (engine.answer client visit)) client

/-- The outcome of a request of a client that comes after others. -/
def respond
    (engine : Engine)
    (client : Client)
    (earlier : List Visit)
    (visit : Visit) : Outcome :=
  engine.answer (engine.after client earlier) visit

theorem after_append (engine : Engine) (client : Client) (earlier later : List Visit) :
    engine.after client (earlier ++ later) =
      engine.after (engine.after client earlier) later :=
  List.foldl_append

/-- A client after one more request. -/
theorem after_concat
    (engine : Engine)
    (client : Client)
    (visits : List Visit)
    (visit : Visit) :
    engine.after client (visits ++ [visit]) =
      (engine.after client visits).next visit
        (engine.answer (engine.after client visits) visit) :=
  engine.after_append client visits [visit]

end Engine

/-! ## Times of requests -/

/-- The time of the last of some requests, or of signing in without any. -/
def previous (signIn : Int) (visits : List Visit) : Int :=
  (visits.map Visit.time).getLastD signIn

theorem previous_concat (signIn : Int) (visits : List Visit) (visit : Visit) :
    previous signIn (visits ++ [visit]) = visit.time := by
  unfold previous
  rw [List.map_append]
  exact List.getLastD_concat

/-- From signing in on, the time of each request is related to the next one. -/
def Follow (relation : Int → Int → Prop) (signIn : Int) (visits : List Visit) : Prop :=
  (signIn :: visits.map Visit.time).IsChain relation

instance (relation : Int → Int → Prop) [DecidableRel relation] (signIn : Int)
    (visits : List Visit) : Decidable (Follow relation signIn visits) :=
  inferInstanceAs (Decidable (List.IsChain _ _))

/-- One more request has to be related to the previous one. -/
theorem follow_concat
    {relation : Int → Int → Prop}
    {signIn : Int}
    {visits : List Visit}
    {visit : Visit} :
    Follow relation signIn (visits ++ [visit]) ↔
      Follow relation signIn visits ∧ relation (previous signIn visits) visit.time := by
  unfold Follow previous
  rw [List.map_append, ← List.cons_append, List.isChain_append]
  simp [List.getLast?_cons]

/-- What holds of some requests holds of the first of them. -/
theorem Follow.of_append
    {relation : Int → Int → Prop}
    {signIn : Int}
    {earlier later : List Visit}
    (follow : Follow relation signIn (earlier ++ later)) :
    Follow relation signIn earlier := by
  unfold Follow at follow
  rw [List.map_append, ← List.cons_append] at follow
  exact follow.left_of_append

/-- The requests come in the order of their times, and all times have dates. -/
structure Timeline (signIn : Int) (visits : List Visit) : Prop where
  ordered : Follow (· ≤ ·) signIn visits
  signInDated : Date.exists? signIn = true
  dated : ∀ visit ∈ visits, Date.exists? visit.time = true

instance (signIn : Int) (visits : List Visit) : Decidable (Timeline signIn visits) :=
  decidable_of_iff
    (Follow (· ≤ ·) signIn visits ∧ Date.exists? signIn = true ∧
      ∀ visit ∈ visits, Date.exists? visit.time = true)
    ⟨fun ⟨ordered, signInDated, dated⟩ => ⟨ordered, signInDated, dated⟩,
      fun ⟨ordered, signInDated, dated⟩ => ⟨ordered, signInDated, dated⟩⟩

/-- One more request comes after the previous one, at a time that has a date. -/
theorem timeline_concat {signIn : Int} {visits : List Visit} {visit : Visit} :
    Timeline signIn (visits ++ [visit]) ↔
      Timeline signIn visits ∧ previous signIn visits ≤ visit.time ∧
        Date.exists? visit.time = true := by
  constructor
  · rintro ⟨ordered, signInDated, dated⟩
    obtain ⟨earlier, next⟩ := follow_concat.mp ordered
    rw [List.forall_mem_append, List.forall_mem_singleton] at dated
    exact ⟨⟨earlier, signInDated, dated.1⟩, next, dated.2⟩
  · rintro ⟨⟨earlier, signInDated, dated⟩, next, last⟩
    refine ⟨follow_concat.mpr ⟨earlier, next⟩, signInDated, ?_⟩
    rw [List.forall_mem_append, List.forall_mem_singleton]
    exact ⟨dated, last⟩

/-- The first requests of a timeline form one. -/
theorem Timeline.of_append
    {signIn : Int}
    {earlier later : List Visit}
    (timeline : Timeline signIn (earlier ++ later)) :
    Timeline signIn earlier where
  ordered := timeline.ordered.of_append
  signInDated := timeline.signInDated
  dated := fun visit isEarlier => timeline.dated visit (List.mem_append_left _ isEarlier)

/-! ## One request -/

/-- The list that admits every domain refuses only blank addresses. -/
theorem EmailAllowList.allows_any {address : String} (proper : Text.trim address ≠ "") :
    EmailAllowList.any.allows address = true := by
  have nonempty : normalize address ≠ "" := by
    intro blank
    have lists := congrArg String.toList blank
    unfold normalize Text.lower at lists
    rw [String.toList_ofList, String.toList_empty, List.map_eq_nil_iff] at lists
    exact proper (String.toList_inj.mp (lists.trans String.toList_empty.symm))
  have every : EmailAllowList.any.anyDomain = true := by decide +kernel
  unfold allows
  simp [nonempty, every]

/-- A session that is read from its own payload, without a blank address. -/
structure Session.IsLasting (session : Session) : Prop where
  shows : ofPayload? session.payload = some session
  proper : ∀ address, session.email = some address → Text.trim address ≠ ""

/-- Whether a session of some age is to be sealed anew. -/
def Lifetime.IsDue (lifetime : Lifetime) (age : Int) : Prop :=
  0 < lifetime.refresh ∧ lifetime.refresh < age

instance (lifetime : Lifetime) (age : Int) : Decidable (lifetime.IsDue age) :=
  inferInstanceAs (Decidable (_ ∧ _))

/-- A client holds a cookie that was sealed for a session at some time. -/
def Client.Holds
    (client : Client)
    (sealer : Sealer)
    (session : Session)
    (issued : Int) : Prop :=
  ∃ nonce, client.cookie = some (sealer.issue nonce session issued)

namespace Engine

section Step

variable (sealer : Sealer)
variable (lifetime : Lifetime)
variable {session : Session}
variable {client : Client}
variable {visit : Visit}
variable {issued : Int}

/-- A client without a cookie is refused, and nothing is done about cookies. -/
theorem answer_of_no_cookie (without : client.cookie = none) :
    (standard sealer lifetime).answer client visit = ⟨.reject, [], []⟩ := by
  unfold answer
  rw [authenticate_of_not_opens]
  · rfl
  · rintro loaded ⟨value, held, -⟩
    rw [without] at held
    cases held

theorem admits_standard :
    (standard sealer lifetime).admits = EmailAllowList.any.allows := by
  have field :
      ∀ admits, (Engine.mk sealer lifetime neverRefresh alwaysValid admits none).admits =
      admits := fun _ => rfl
  exact field EmailAllowList.any.allows

/-- A lasting session survives exactly if it has not expired. -/
theorem survives_standard_iff
    (lasting : session.IsLasting)
    {age : Nat}
    {refreshed : Refreshed} :
    (standard sealer lifetime).Survives ⟨session, age⟩ refreshed ↔
      refreshed = ⟨false, session⟩ ∧ age ≤ lifetime.expire := by
  have unhooked : (standard sealer lifetime).IsUnhooked := ⟨rfl, rfl⟩
  refine unhooked.survives_iff fun address isAddress => ?_
  rw [admits_standard]
  exact Or.inr (EmailAllowList.allows_any (lasting.proper address isAddress))

/-- The cookie of a client opens as the session sealed for it, with its age. -/
theorem opens_of_holds
    (lasting : session.IsLasting)
    (holds : client.Holds sealer session issued)
    (issuedDated : Date.exists? issued = true)
    (nowDated : Date.exists? visit.time = true) :
    (standard sealer lifetime).Opens client.cookie visit.time
      ⟨session, (visit.time - issued).toNat⟩ := by
  obtain ⟨nonce, held⟩ := holds
  have opened := sealer.load_issue nonce issuedDated lasting.shows visit.time
  rw [elapsed_of_exists? issuedDated nowDated] at opened
  exact ⟨_, held, sealer.ne_empty_of_load opened, opened⟩

/-- Until its session has expired, a client is let in, with a new cookie when due. -/
theorem answer_of_unexpired
    (lasting : session.IsLasting)
    (holds : client.Holds sealer session issued)
    (issuedDated : Date.exists? issued = true)
    (nowDated : Date.exists? visit.time = true)
    (unexpired : visit.time - issued ≤ lifetime.expire) :
    ((standard sealer lifetime).answer client visit).decision = .accept session ∧
      ((standard sealer lifetime).answer client visit).effects =
        if lifetime.IsDue (visit.time - issued) then
          [.set (sealer.issue visit.nonce session visit.time)]
        else [] := by
  have opens := opens_of_holds sealer lifetime lasting holds issuedDated nowDated
  have survives := (survives_standard_iff sealer lifetime lasting).mpr
    ⟨rfl, Int.toNat_le.mpr unexpired⟩
  have due : ((false = true) ∨
      (standard sealer lifetime).IsAged ⟨session, (visit.time - issued).toNat⟩) ↔
        lifetime.IsDue (visit.time - issued) := by
    unfold IsAged Lifetime.IsDue standard
    simp
  unfold answer
  rw [authenticate_of_survives _ opens survives]
  exact ⟨rfl, if_congr due rfl rfl⟩

/-- When its session has expired, a client is refused, and its cookie is cleared. -/
theorem answer_of_expired
    (lasting : session.IsLasting)
    (holds : client.Holds sealer session issued)
    (issuedDated : Date.exists? issued = true)
    (nowDated : Date.exists? visit.time = true)
    (expired : lifetime.expire < visit.time - issued) :
    ((standard sealer lifetime).answer client visit).decision = .reject ∧
      ((standard sealer lifetime).answer client visit).effects = [.clear] := by
  have opens := opens_of_holds sealer lifetime lasting holds issuedDated nowDated
  have lost : ∀ refreshed, ¬ (standard sealer lifetime).Survives
      ⟨session, (visit.time - issued).toNat⟩ refreshed := by
    intro refreshed survives
    have unexpired := ((survives_standard_iff sealer lifetime lasting).mp survives).2
    omega
  unfold answer
  rw [authenticate_of_not_survives _ opens lost]
  exact ⟨rfl, rfl⟩

/-- A client that is let in remembers the time, and the cookie that it is given. -/
theorem next_of_unexpired
    (lasting : session.IsLasting)
    (holds : client.Holds sealer session issued)
    (issuedDated : Date.exists? issued = true)
    (nowDated : Date.exists? visit.time = true)
    (unexpired : visit.time - issued ≤ lifetime.expire) :
    client.next visit ((standard sealer lifetime).answer client visit) =
      ⟨if lifetime.IsDue (visit.time - issued) then
          some (sealer.issue visit.nonce session visit.time)
        else client.cookie, visit.time⟩ := by
  obtain ⟨decision, effects⟩ :=
    answer_of_unexpired sealer lifetime lasting holds issuedDated nowDated unexpired
  unfold Client.next Outcome.isAccepted
  rw [decision, effects]
  split <;> rfl

/-- A client whose session has expired loses its cookie. -/
theorem next_of_expired
    (lasting : session.IsLasting)
    (holds : client.Holds sealer session issued)
    (issuedDated : Date.exists? issued = true)
    (nowDated : Date.exists? visit.time = true)
    (expired : lifetime.expire < visit.time - issued) :
    client.next visit ((standard sealer lifetime).answer client visit) =
      ⟨none, client.accepted⟩ := by
  obtain ⟨decision, effects⟩ :=
    answer_of_expired sealer lifetime lasting holds issuedDated nowDated expired
  unfold Client.next Outcome.isAccepted
  rw [decision, effects]
  rfl

theorem next_of_no_cookie (without : client.cookie = none) :
    client.next visit ((standard sealer lifetime).answer client visit) = client := by
  rw [answer_of_no_cookie sealer lifetime without]
  rfl

end Step

/-! ## All requests -/

section Run

variable {sealer : Sealer}
variable {lifetime : Lifetime}
variable {session : Session}
variable {signIn : Int}

/-- A cookie that was sealed not long before its client was last let in. -/
structure Carries
    (sealer : Sealer)
    (lifetime : Lifetime)
    (session : Session)
    (signIn : Int)
    (client : Client)
    (issued : Int) : Prop where
  holds : client.Holds sealer session issued
  dated : Date.exists? issued = true
  past : issued ≤ client.accepted
  recent : 0 < lifetime.refresh → client.accepted - issued ≤ lifetime.refresh
  original : lifetime.refresh = 0 → issued = signIn

/-- What is true of a client at any time after it has signed in. -/
structure Tracks
    (sealer : Sealer)
    (lifetime : Lifetime)
    (session : Session)
    (signIn : Int)
    (client : Client)
    (now : Int) : Prop where
  past : client.accepted ≤ now
  cookie :
    client.cookie = none ∨ ∃ issued, Carries sealer lifetime session signIn client issued
  lost : client.cookie = none → lifetime.refresh = 0 → lifetime.expire < now - signIn

theorem Tracks.exists_carries
    {client : Client}
    {now : Int}
    (tracks : Tracks sealer lifetime session signIn client now)
    (keeps : client.cookie ≠ none) :
    ∃ issued, Carries sealer lifetime session signIn client issued :=
  tracks.cookie.resolve_left keeps

/-- What is tracked is true of a client that has just signed in. -/
theorem tracks_signedIn
    (nonce : Crypto.Gcm.Nonce)
    (signInDated : Date.exists? signIn = true) :
    Tracks sealer lifetime session signIn
      ((standard sealer lifetime).signedIn nonce session signIn) signIn where
  past := Int.le_refl signIn
  cookie := by
    refine Or.inr ⟨signIn, ⟨nonce, rfl⟩, signInDated, Int.le_refl signIn,
      ?_, fun _ => rfl⟩
    intro _
    show signIn - signIn ≤ _
    omega
  lost := nofun

/-- Every request keeps it true. -/
theorem Tracks.next
    (lasting : session.IsLasting)
    {client : Client}
    {visit : Visit}
    {before : Int}
    (tracks : Tracks sealer lifetime session signIn client before)
    (ordered : before ≤ visit.time)
    (nowDated : Date.exists? visit.time = true) :
    Tracks sealer lifetime session signIn
      (client.next visit ((standard sealer lifetime).answer client visit))
      visit.time := by
  obtain ⟨past, without | ⟨issued, carries⟩, lost⟩ := tracks
  · rw [next_of_no_cookie sealer lifetime without]
    refine ⟨Int.le_trans past ordered, Or.inl without, ?_⟩
    intro _ never
    have expired := lost without never
    omega
  · obtain ⟨holds, dated, notAfter, recent, original⟩ := carries
    by_cases unexpired : visit.time - issued ≤ lifetime.expire
    · rw [next_of_unexpired sealer lifetime lasting holds dated nowDated unexpired]
      by_cases due : lifetime.IsDue (visit.time - issued)
      · rw [if_pos due]
        refine ⟨Int.le_refl _,
          Or.inr ⟨visit.time, ⟨visit.nonce, rfl⟩, nowDated, Int.le_refl _, ?_, ?_⟩, nofun⟩
        · intro _
          show visit.time - visit.time ≤ _
          omega
        · intro never
          have refreshes := due.1
          omega
      · rw [if_neg due]
        refine ⟨Int.le_refl _, Or.inr ⟨issued, holds, dated, ?_, ?_, original⟩, ?_⟩
        · exact Int.le_trans notAfter (Int.le_trans past ordered)
        · intro refreshes
          exact Int.not_lt.mp fun old => due ⟨refreshes, old⟩
        · intro without
          obtain ⟨nonce, held⟩ := holds
          cases held.symm.trans without
    · rw [next_of_expired sealer lifetime lasting holds dated nowDated
        (Int.not_le.mp unexpired)]
      refine ⟨Int.le_trans past ordered, Or.inl rfl, ?_⟩
      intro _ never
      rw [← original never]
      exact Int.not_le.mp unexpired

/-- A request is refused exactly if the client is without a cookie afterwards. -/
theorem Tracks.rejects_iff
    (lasting : session.IsLasting)
    {client : Client}
    {visit : Visit}
    {before : Int}
    (tracks : Tracks sealer lifetime session signIn client before)
    (nowDated : Date.exists? visit.time = true) :
    ((standard sealer lifetime).answer client visit).decision = .reject ↔
      (client.next visit ((standard sealer lifetime).answer client visit)).cookie =
        none := by
  by_cases keeps : client.cookie = none
  · rw [next_of_no_cookie sealer lifetime keeps,
      answer_of_no_cookie sealer lifetime keeps]
    exact iff_of_true rfl keeps
  · obtain ⟨issued, carries⟩ := tracks.exists_carries keeps
    by_cases unexpired : visit.time - issued ≤ lifetime.expire
    · have letIn :=
        answer_of_unexpired sealer lifetime lasting carries.holds carries.dated
          nowDated unexpired
      rw [next_of_unexpired sealer lifetime lasting carries.holds carries.dated
        nowDated unexpired,
        letIn.1]
      refine iff_of_false nofun ?_
      split
      · exact Option.some_ne_none _
      · exact keeps
    · have expired := Int.not_le.mp unexpired
      have refused :=
        answer_of_expired sealer lifetime lasting carries.holds carries.dated
          nowDated expired
      rw [next_of_expired sealer lifetime lasting carries.holds carries.dated
        nowDated expired]
      exact iff_of_true refused.1 rfl

variable (sealer) (lifetime) in
/-- A client that has signed in is tracked through all of its requests. -/
theorem tracks_after
    (lasting : session.IsLasting)
    (nonce : Crypto.Gcm.Nonce)
    {visits : List Visit}
    (timeline : Timeline signIn visits) :
    let engine := standard sealer lifetime
    Tracks sealer lifetime session signIn
      (engine.after (engine.signedIn nonce session signIn) visits)
      (previous signIn visits) := by
  intro engine
  induction visits using List.reverseRecOn with
  | nil => exact tracks_signedIn nonce timeline.signInDated
  | append_singleton visits visit hypothesis =>
      obtain ⟨earlier, ordered, dated⟩ := timeline_concat.mp timeline
      rw [after_concat, previous_concat]
      exact (hypothesis earlier).next lasting ordered dated

/-- A client without a cookie stays as it is, whatever it requests. -/
theorem after_of_no_cookie
    {client : Client}
    (without : client.cookie = none)
    (visits : List Visit) :
    (standard sealer lifetime).after client visits = client := by
  induction visits using List.reverseRecOn with
  | nil => rfl
  | append_singleton visits visit hypothesis =>
      rw [after_concat, hypothesis, next_of_no_cookie sealer lifetime without]

section History

variable (lasting : session.IsLasting)
variable (nonce : Crypto.Gcm.Nonce)
variable {earlier : List Visit}
variable {visit : Visit}

/-- A request soon enough after the last accepted one finds the session unexpired. -/
theorem Carries.unexpired
    {client : Client}
    {issued : Int}
    (carries : Carries sealer lifetime session signIn client issued)
    (refreshes : 0 < lifetime.refresh)
    (soon : visit.time - client.accepted ≤ (lifetime.expire : Int) - lifetime.refresh) :
    visit.time - issued ≤ lifetime.expire := by
  have recent := carries.recent refreshes
  omega

include lasting

/-- When each request follows the one before soon enough, every one is accepted. -/
theorem accepted_after
    (timeline : Timeline signIn earlier)
    (refreshes : 0 < lifetime.refresh)
    (soon : Follow
      (fun before time => time - before ≤ (lifetime.expire : Int) - lifetime.refresh)
      signIn earlier) :
    let engine := standard sealer lifetime
    let client := engine.after (engine.signedIn nonce session signIn) earlier
    client.cookie ≠ none ∧ client.accepted = previous signIn earlier := by
  intro engine client
  induction earlier using List.reverseRecOn with
  | nil => exact ⟨nofun, rfl⟩
  | append_singleton earlier visit hypothesis =>
      obtain ⟨before, -, dated⟩ := timeline_concat.mp timeline
      obtain ⟨soonBefore, soonNow⟩ := follow_concat.mp soon
      obtain ⟨keeps, letIn⟩ := hypothesis before soonBefore
      rw [← letIn] at soonNow
      have tracks := tracks_after sealer lifetime lasting nonce before
      obtain ⟨issued, carries⟩ := tracks.exists_carries keeps
      have unexpired := carries.unexpired refreshes soonNow
      have next :=
        next_of_unexpired sealer lifetime lasting carries.holds carries.dated
          dated unexpired
      unfold client
      rw [after_concat, next, previous_concat]
      refine ⟨?_, rfl⟩
      split
      · exact Option.some_ne_none _
      · exact keeps

/-- A client has lost its cookie exactly if an earlier request was refused. -/
theorem cookie_after_eq_none_iff (timeline : Timeline signIn earlier) :
    let engine := standard sealer lifetime
    let start := engine.signedIn nonce session signIn
    (engine.after start earlier).cookie = none ↔
      ∃ before refused between, earlier = before ++ refused :: between ∧
        (engine.answer (engine.after start before) refused).decision = .reject := by
  intro engine start
  constructor
  · intro without
    induction earlier using List.reverseRecOn with
    | nil => cases without
    | append_singleton earlier visit _ =>
        obtain ⟨before, -, dated⟩ := timeline_concat.mp timeline
        rw [after_concat] at without
        have tracks := tracks_after sealer lifetime lasting nonce before
        exact ⟨earlier, visit, [], rfl, (tracks.rejects_iff lasting dated).mpr without⟩
  · rintro ⟨before, refused, between, rfl, rejected⟩
    rw [List.append_cons] at timeline ⊢
    obtain ⟨timelineBefore, -, dated⟩ := timeline_concat.mp timeline.of_append
    have tracks := tracks_after sealer lifetime lasting nonce timelineBefore
    have without := (tracks.rejects_iff lasting dated).mp rejected
    rw [← after_concat] at without
    rw [after_append, after_of_no_cookie without]
    exact without

/-- A pause longer than sessions live ends the session, and the client has no cookie
afterwards. -/
theorem refused_after_pause
    (timeline : Timeline signIn (earlier ++ [visit]))
    (pause : lifetime.expire < visit.time - previous signIn earlier) :
    let engine := standard sealer lifetime
    let start := engine.signedIn nonce session signIn
    let client := engine.after start earlier
    (engine.answer client visit).decision = .reject ∧
      (engine.answer client visit).effects =
        (if client.cookie = none then [] else [.clear]) ∧
      (engine.after start (earlier ++ [visit])).cookie = none := by
  intro engine start client
  obtain ⟨before, -, dated⟩ := timeline_concat.mp timeline
  have tracks := tracks_after sealer lifetime lasting nonce before
  rw [after_concat]
  by_cases without : client.cookie = none
  · rw [if_pos without, next_of_no_cookie sealer lifetime without,
      answer_of_no_cookie sealer lifetime without]
    exact ⟨rfl, rfl, without⟩
  · obtain ⟨issued, carries⟩ := tracks.exists_carries without
    have expired : lifetime.expire < visit.time - issued := by
      have letInBefore := tracks.past
      have issuedBefore := carries.past
      omega
    obtain ⟨rejected, cleared⟩ :=
      answer_of_expired sealer lifetime lasting carries.holds carries.dated dated expired
    rw [if_neg without,
      next_of_expired sealer lifetime lasting carries.holds carries.dated dated expired]
    exact ⟨rejected, cleared, rfl⟩

/-- If cookies are never sealed anew, a request is accepted exactly until the session
has expired. -/
theorem answer_without_refresh
    (timeline : Timeline signIn (earlier ++ [visit]))
    (never : lifetime.refresh = 0) :
    let engine := standard sealer lifetime
    let client := engine.after (engine.signedIn nonce session signIn) earlier
    (∀ value, .set value ∉ (engine.answer client visit).effects) ∧
      (engine.answer client visit).decision =
        if visit.time - signIn ≤ lifetime.expire then .accept session else .reject := by
  intro engine client
  obtain ⟨before, ordered, dated⟩ := timeline_concat.mp timeline
  have tracks := tracks_after sealer lifetime lasting nonce before
  by_cases without : client.cookie = none
  · have expired := tracks.lost without never
    rw [answer_of_no_cookie sealer lifetime without, if_neg (by omega)]
    exact ⟨fun _ => List.not_mem_nil, rfl⟩
  · obtain ⟨issued, carries⟩ := tracks.exists_carries without
    rw [← carries.original never]
    by_cases unexpired : visit.time - issued ≤ lifetime.expire
    · obtain ⟨accepted, effects⟩ :=
        answer_of_unexpired sealer lifetime lasting carries.holds carries.dated
          dated unexpired
      have early : ¬ lifetime.IsDue (visit.time - issued) := fun due => due.1.ne' never
      rw [accepted, effects, if_pos unexpired, if_neg early]
      exact ⟨fun _ => List.not_mem_nil, rfl⟩
    · obtain ⟨rejected, effects⟩ := answer_of_expired sealer lifetime
        lasting carries.holds carries.dated dated (Int.not_le.mp unexpired)
      rw [rejected, effects, if_neg unexpired]
      exact ⟨fun _ => by simp, rfl⟩

/-- The cookie of a client was sealed not long before it was last let in. -/
theorem issued_of_cookie_after
    (timeline : Timeline signIn earlier)
    (refreshes : 0 < lifetime.refresh)
    {value : String} :
    let engine := standard sealer lifetime
    let client := engine.after (engine.signedIn nonce session signIn) earlier
    client.cookie = some value → ∃ nonce issued,
      value = sealer.issue nonce session issued ∧
      issued ≤ client.accepted ∧ client.accepted - issued ≤ lifetime.refresh := by
  intro engine client held
  have tracks := tracks_after sealer lifetime lasting nonce timeline
  have keeps : client.cookie ≠ none := by
    rw [held]
    exact Option.some_ne_none value
  obtain ⟨issued, ⟨used, isCookie⟩, -, past, recent, -⟩ := tracks.exists_carries keeps
  exact ⟨used, issued, Option.some.inj (held.symm.trans isCookie), past, recent refreshes⟩

end History

end Run

/-- A client signs in and then sends requests, at times in whole seconds. If cookies are
sealed anew, requests that come soon enough one after the other are all accepted, and a
pause longer than sessions live ends the session for good; the cookie is cleared unless
the client has lost it already. Otherwise a session lives until it expires, counted from
signing in. A cookie in the hands of the client was sealed not long before the client
was last let in. -/
theorem sliding_session
    (sealer : Sealer)
    (lifetime : Lifetime)
    {session : Session}
    (lasting : session.IsLasting)
    (nonce : Crypto.Gcm.Nonce)
    {signIn : Int}
    {visits : List Visit}
    (timeline : Timeline signIn visits) :
    let engine := standard sealer lifetime
    let start := engine.signedIn nonce session signIn
    (0 < lifetime.refresh → lifetime.refresh < lifetime.expire →
      Follow
        (fun before time => time - before ≤ (lifetime.expire : Int) - lifetime.refresh)
        signIn visits →
      ∀ earlier visit later, visits = earlier ++ visit :: later →
        (engine.respond start earlier visit).decision = .accept session) ∧
    (∀ earlier visit later, visits = earlier ++ visit :: later →
      lifetime.expire < visit.time - previous signIn earlier →
      (engine.respond start earlier visit).decision = .reject ∧
      (engine.respond start earlier visit).effects =
        (if (engine.after start earlier).cookie = none then [] else [.clear]) ∧
      ((engine.after start earlier).cookie = none ↔
        ∃ before refused between, earlier = before ++ refused :: between ∧
          (engine.respond start before refused).decision = .reject) ∧
      ∀ before next behind, later = before ++ next :: behind →
        engine.respond start (earlier ++ visit :: before) next = ⟨.reject, [], []⟩) ∧
    (lifetime.refresh = 0 → ∀ earlier visit later, visits = earlier ++ visit :: later →
      (∀ value, .set value ∉ (engine.respond start earlier visit).effects) ∧
      (engine.respond start earlier visit).decision =
        if visit.time - signIn ≤ lifetime.expire then .accept session else .reject) ∧
    (0 < lifetime.refresh → ∀ earlier later, visits = earlier ++ later →
      ∀ value, (engine.after start earlier).cookie = some value →
        ∃ nonce issued, value = sealer.issue nonce session issued ∧
          issued ≤ (engine.after start earlier).accepted ∧
          (engine.after start earlier).accepted - issued ≤ lifetime.refresh) := by
  intro engine start
  refine ⟨?_, ?_, ?_, ?_⟩
  · rintro refreshes - soon earlier visit later rfl
    rw [List.append_cons] at timeline soon
    obtain ⟨before, -, dated⟩ := timeline_concat.mp timeline.of_append
    obtain ⟨soonBefore, soonNow⟩ := follow_concat.mp soon.of_append
    obtain ⟨keeps, letIn⟩ := accepted_after lasting nonce before refreshes soonBefore
    rw [← letIn] at soonNow
    have tracks := tracks_after sealer lifetime lasting nonce before
    obtain ⟨issued, carries⟩ := tracks.exists_carries keeps
    exact (answer_of_unexpired sealer lifetime lasting carries.holds carries.dated dated
      (carries.unexpired refreshes soonNow)).1
  · rintro earlier visit later rfl pause
    rw [List.append_cons] at timeline
    have earlierTimeline := timeline.of_append
    obtain ⟨rejected, effects, without⟩ :=
      refused_after_pause lasting nonce earlierTimeline pause
    refine ⟨rejected, effects,
      cookie_after_eq_none_iff lasting nonce earlierTimeline.of_append, ?_⟩
    rintro before next behind rfl
    unfold respond
    rw [List.append_cons, after_append, after_of_no_cookie without]
    exact answer_of_no_cookie sealer lifetime without
  · rintro never earlier visit later rfl
    rw [List.append_cons] at timeline
    exact answer_without_refresh lasting nonce timeline.of_append never
  · rintro refreshes earlier later rfl value held
    exact issued_of_cookie_after lasting nonce timeline.of_append refreshes held

/-- A request of a client that sends no basic credentials. -/
def visitAt (time : Int) : Visit :=
  ⟨time, none, Vector.replicate 12 5⟩

/-- A sealer that does not encrypt. -/
def plainSealer : Sealer :=
  ⟨"_lap", ⟨Text.Utf8.encode "key", .sha256⟩, none⟩

/-- Sessions that live for ten seconds and are sealed anew after five. -/
def fleeting : Lifetime := ⟨10, 5⟩

/-- The session of Alice lasts. -/
theorem isLasting_alice : (Session.ofUser "alice").IsLasting :=
  ⟨by decide +kernel, nofun⟩

/-- Alice is let in every four or five seconds, and refused after a pause of eleven. -/
theorem fleeting_session_slides :
    ((standard plainSealer fleeting).respond
        ((standard plainSealer fleeting).signedIn (Vector.replicate 12 5)
          (Session.ofUser "alice") 1000)
        [visitAt 1004, visitAt 1009] (visitAt 1014)).decision =
          .accept (Session.ofUser "alice") ∧
      ((standard plainSealer fleeting).respond
        ((standard plainSealer fleeting).signedIn (Vector.replicate 12 5)
          (Session.ofUser "alice") 1000)
        [visitAt 1004] (visitAt 1015)).decision = .reject := by
  constructor
  · have timeline : Timeline 1000 [visitAt 1004, visitAt 1009, visitAt 1014] := by decide
    obtain ⟨accepts, -⟩ :=
      sliding_session plainSealer fleeting isLasting_alice
        (Vector.replicate 12 5) timeline
    exact accepts (by decide) (by decide) (by decide) _ _ [] rfl
  · have timeline : Timeline 1000 [visitAt 1004, visitAt 1015] := by decide
    obtain ⟨-, refuses, -⟩ :=
      sliding_session plainSealer fleeting isLasting_alice
        (Vector.replicate 12 5) timeline
    exact (refuses _ _ [] rfl (by decide)).1

/-- A long pause clears no cookie that is lost already. -/
theorem pause_without_cookie_clears_nothing :
    let engine := standard plainSealer fleeting
    let start := engine.signedIn (Vector.replicate 12 5) (Session.ofUser "alice") 1000
    let earlier := [visitAt 1005, visitAt 1012]
    Timeline 1000 (earlier ++ [visitAt 1030]) ∧
      fleeting.expire < (visitAt 1030).time - previous 1000 earlier ∧
      (engine.respond start earlier (visitAt 1030)).effects ≠ [.clear] := by
  intro engine start earlier
  refine ⟨by decide, by decide, ?_⟩
  have signInDated : Date.exists? 1000 = true := by decide
  have kept : start.next (visitAt 1005) (engine.answer start (visitAt 1005)) =
      ⟨start.cookie, 1005⟩ := by
    rw [next_of_unexpired plainSealer fleeting isLasting_alice ⟨_, rfl⟩ signInDated
      (by decide) (by decide), if_neg (by decide)]
    rfl
  have cleared : Client.next ⟨start.cookie, 1005⟩ (visitAt 1012)
      (engine.answer ⟨start.cookie, 1005⟩ (visitAt 1012)) = ⟨none, 1005⟩ :=
    next_of_expired plainSealer fleeting isLasting_alice ⟨_, rfl⟩ signInDated (by decide)
      (by decide)
  have lost : engine.after start earlier = ⟨none, 1005⟩ := by
    unfold earlier after
    rw [List.foldl_cons, kept, List.foldl_cons, cleared, List.foldl_nil]
  unfold respond
  rw [lost, answer_of_no_cookie plainSealer fleeting rfl]
  exact (List.cons_ne_nil _ _).symm

end Engine
end Gatehouse
