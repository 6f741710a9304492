import Gatehouse.Proofs.Directory.Stages

/-!
# The course of an attempt

An attempt to identify somebody by a server has a fixed course: the service account
binds, the user is searched for, the entry that was found binds with the password, the
service account binds again, and the groups of the entry are searched for. What is sent
is a beginning of it, up to the first stage that fails, and one request to unbind. A
stage fails as well if there is no reply to its request. Somebody is identified exactly
if all stages before the search for groups succeed; without that search the groups are
unknown and nothing else changes. The password is in one request only, and nothing else
depends on it.
-/

namespace Gatehouse
namespace Ldap

/-! ## The course -/

namespace Settings

variable (settings : Settings)

/-- The service account binds, if there is one. -/
def serviceStages : List Stage :=
  if settings.bindDn = "" then []
  else [⟨.bind settings.bindDn settings.bindPassword, Answer.isSuccess⟩]

/-- The user is searched for, and exactly one entry has to be found. -/
def userStage (user : String) : Stage :=
  ⟨.search settings.baseDn (Filter.render settings.userFilter user) settings.attributes,
    fun answer => answer.isSuccess && answer.entries.length == 1⟩

/-- The groups of an entry are searched for. -/
def groupStage (name : String) : Stage :=
  ⟨.search settings.baseDn (Filter.render settings.groupFilter name) ["cn"],
    Answer.isSuccess⟩

end Settings

/-- An entry binds with a password. -/
def passwordStage (name password : String) : Stage :=
  ⟨.bind name password, Answer.isSuccess⟩

namespace Settings

variable (settings : Settings)

/-- The stages that identify a user whose entry has a name. -/
def identifying (user password name : String) : List Stage :=
  settings.serviceStages ++
    ([settings.userStage user] ++
      ([passwordStage name password] ++ settings.serviceStages))

/-- All stages of an attempt. -/
def course (user password name : String) : List Stage :=
  settings.identifying user password name ++ [settings.groupStage name]

/-- The entry that is found if the search for the user yields a single one. -/
def found? (script : Script) : Option RawEntry :=
  match (script.behind settings.serviceStages.length).next.entries with
  | [raw] => some raw
  | _ => none

/-- The name of the found entry; without one, no stage that needs it is reached. -/
def foundName (script : Script) : String :=
  ((settings.found? script).map (·.name)).getD ""

/-- The answer to the search for the groups, the last stage of the course. -/
def groupAnswer (user password name : String) (script : Script) : Answer :=
  (script.behind (settings.identifying user password name).length).next

end Settings

/-- The names of the groups in an answer. -/
def groupNames (answer : Answer) : List String :=
  answer.entries.filterMap fun raw => raw.entry.first? "cn"

variable {settings : Settings}
variable {script : Script}
variable {user password name : String}

theorem foundName_eq {raw : RawEntry} (found : settings.found? script = some raw) :
    settings.foundName script = raw.name := by
  unfold Settings.foundName
  rw [found]
  rfl

/-! ## Each step goes through its stages -/

/-- What is required of an answer is a reply that reports success. -/
theorem Answer.require_cases
    (answer : Answer)
    (refuse : String → DirectoryError) :
    (answer.isSuccess = true ∧
      ∃ reply, answer = .received reply ∧ answer.require refuse = .ok reply) ∨
      answer.isSuccess = false ∧ ∃ cause, answer.require refuse = .error cause := by
  cases answer with
  | failed cause => exact .inr ⟨rfl, _, rfl⟩
  | received reply =>
      by_cases success : reply.result.code = 0
      · exact .inl ⟨beq_iff_eq.mpr success, reply, rfl, if_pos success⟩
      · exact .inr ⟨beq_eq_false_iff_ne.mpr success, _, if_neg success⟩

/-- A request that has to succeed goes through its stage and yields the reply. -/
theorem goes_succeed
    {request : Request}
    {refuse : String → DirectoryError}
    (sendable : request.isSendable = true) :
    Goes (succeed request refuse).run [⟨request, Answer.isSuccess⟩] script
      (Yields fun reply => reply.entries = script.next.entries) Fails := by
  rcases script.next.require_cases refuse with
    ⟨success, reply, isReply, required⟩ | ⟨failure, cause, refused⟩
  · refine goes_exchange sendable (by rw [required]; rfl) ?_ ?_
    · exact fun _ => ⟨reply, rfl, by rw [isReply]; rfl⟩
    · exact fun failure => absurd success (Bool.eq_false_iff.mp failure)
  · refine goes_exchange sendable (by rw [refused]; rfl) ?_ fun _ => fails_error _
    exact fun success => absurd success (Bool.eq_false_iff.mp failure)

theorem goes_bindAs :
    Goes (bindAs name password).run [passwordStage name password] script
      (Yields fun _ => True) Fails :=
  (goes_succeed rfl).finish (fun _ _ => ⟨_, rfl, (), rfl, trivial⟩) fails_error

theorem goes_bindService :
    Goes (bindService settings).run settings.serviceStages script
      (Yields fun _ => True) Fails := by
  unfold bindService Settings.serviceStages
  split
  · exact goes_pure ⟨(), rfl, trivial⟩
  · exact goes_bindAs

/-- A search goes through its stage and yields the entries of the answer. -/
theorem goes_search
    {filter : String}
    {attributes : List String} :
    Goes (search settings filter attributes).run
      [⟨.search settings.baseDn filter attributes, Answer.isSuccess⟩] script
      (Yields fun entries => entries = script.next.entries) Fails := by
  unfold search
  by_cases unreadable : (Filter.ofText? filter).isNone = true
  · rw [if_pos unreadable]
    exact goes_throw (by simpa [Request.isSendable] using unreadable) nofun
  · rw [if_neg unreadable]
    have sendable :
        (Request.search settings.baseDn filter attributes).isSendable = true := by
      simpa [Request.isSendable, Option.isSome_iff_ne_none] using unreadable
    refine (goes_succeed sendable).finish ?_ fails_error
    exact fun reply same => ⟨_, rfl, _, rfl, same⟩

/-- Finding the entry of a user goes through the search, and yields the only one. -/
theorem goes_findEntry :
    Goes (findEntry settings user).run [settings.userStage user] script
      (Yields fun raw => script.next.entries = [raw]) Fails := by
  have searched : Goes (findEntry settings user).run
      [⟨(settings.userStage user).request, Answer.isSuccess⟩] script
      (fun outcome => (∃ raw, script.next.entries = [raw] ∧ outcome = .ok raw) ∨
        script.next.entries.length ≠ 1 ∧ Fails outcome) Fails := by
    refine goes_search.finish ?_ fails_error
    rintro entries rfl
    match script.next.entries with
    | [] => exact ⟨_, rfl, .inr ⟨by decide, fails_error _⟩⟩
    | [raw] => exact ⟨_, rfl, .inl ⟨raw, rfl, rfl⟩⟩
    | _ :: _ :: _ => exact ⟨_, rfl, .inr ⟨by simp, fails_error _⟩⟩
  refine searched.restrict ?_ ?_ ?_ (fun _ => id)
  · exact fun strict => (Bool.and_eq_true_iff.mp strict).1
  · rintro strict outcome (⟨raw, only, rfl⟩ | ⟨several, -⟩)
    · exact ⟨raw, rfl, only⟩
    · exact absurd (beq_iff_eq.mp (Bool.and_eq_true_iff.mp strict).2) several
  · rintro success loose outcome (⟨raw, only, rfl⟩ | ⟨-, fails⟩)
    · simp [success, only] at loose
    · exact fails

/-- Checking a password goes through binding with it. -/
theorem goes_checkPassword :
    Goes (checkPassword name password).run [passwordStage name password] script
      (Yields (· = true)) (YieldsAtMost (· = false)) := by
  cases answered : script.next with
  | failed cause =>
      refine goes_exchange rfl (by rw [answered]; rfl) ?_ ?_
      · intro success
        rw [answered] at success
        cases success
      · exact fun _ => nofun
  | received reply =>
      have succeeds : script.next.isSuccess = (reply.result.code == 0) := by
        rw [answered]
        rfl
      by_cases wrong : reply.result.code = invalidCredentials
      · refine goes_exchange rfl (by simp only [answered, if_pos wrong]; rfl) ?_ ?_
        · intro success
          rw [succeeds, wrong] at success
          cases success
        · exact fun _ _ isValue => (Except.ok.inj isValue).symm
      · by_cases success : reply.result.code = 0
        · refine goes_exchange rfl ?_ (fun _ => ⟨true, rfl, rfl⟩) ?_
          · simp only [answered, if_neg wrong, if_pos success]
            rfl
          · intro failure
            rw [succeeds, success] at failure
            cases failure
        · refine goes_exchange rfl
            (by simp only [answered, if_neg wrong, if_neg success]; rfl) ?_ ?_
          · exact fun isSuccess =>
              absurd (beq_iff_eq.mp (succeeds.symm.trans isSuccess)) success
          · exact fun _ => nofun

theorem goes_groupsOf :
    Goes (groupsOf settings name).run [settings.groupStage name] script
      (Yields (· = groupNames script.next)) Fails := by
  refine goes_search.finish ?_ fails_error
  rintro entries rfl
  exact ⟨_, rfl, _, rfl, rfl⟩

/-! ## The whole attempt -/

/-- The check of a user goes through the identifying stages, and yields the found
entry. -/
theorem goes_authenticate :
    Goes (authenticate settings user password).run
      (settings.identifying user password (settings.foundName script)) script
      (Yields fun entry => ∃ raw, settings.found? script = some raw ∧
        entry = some raw.entry)
      (YieldsAtMost (· = none)) := by
  refine goes_bindService.bind (fun _ _ => ?_) nofun nofun
  refine goes_findEntry.bind (fun raw only => ?_) nofun nofun
  have found : settings.found? script = some raw := by
    unfold Settings.found?
    rw [only]
  rw [foundName_eq found]
  refine goes_checkPassword.bind ?_ ?_ nofun
  · rintro right rfl
    exact goes_bindService.finish (fun _ _ => ⟨_, rfl, _, rfl, raw, found, rfl⟩) nofun
  · rintro right rfl
    exact ⟨none, rfl, fun _ isValue => (Except.ok.inj isValue).symm⟩

/-- Whom the found entry identifies, with the groups of a successful search. -/
def Settings.identityOf (settings : Settings) (script : Script) (user password : String)
    (raw : RawEntry) : Identity :=
  let answer := settings.groupAnswer user password raw.name script
  ⟨user, raw.entry.first? "mail",
    if (settings.groupStage raw.name).succeeds answer then some (groupNames answer)
    else none⟩

/-- Whom an attempt identifies: nobody, unless the identifying stages succeed. -/
def Settings.identity? (settings : Settings) (script : Script) (user password : String) :
    Option Identity :=
  if Through (settings.identifying user password (settings.foundName script)) script then
    (settings.found? script).map (settings.identityOf script user password)
  else none

/-- A consultation goes through the course, whether it identifies somebody or not. -/
theorem goes_consultStep
    (settings : Settings)
    (script : Script)
    (user password : String) :
    Goes (consultStep settings user password)
      (settings.course user password (settings.foundName script)) script
      (·.identity? user = settings.identity? script user password)
      (·.identity? user = settings.identity? script user password) := by
  refine goes_authenticate.andThen ?_ ?_
  · rintro through outcome ⟨entry, rfl, raw, found, rfl⟩
    simp only [Settings.identity?, if_pos through, found, Option.map_some]
    rw [foundName_eq found]
    rw [← List.append_nil [settings.groupStage raw.name]]
    refine goes_groupsOf.andThen ?_ ?_
    · rintro through outcome ⟨names, rfl, rfl⟩
      have succeeds : (settings.groupStage raw.name).succeeds
          (settings.groupAnswer user password raw.name script) = true := through.1
      refine goes_pure ?_
      simp only [Settings.identityOf, succeeds, if_true]
      rfl
    · intro failing outcome fails
      have unsuccessful : (settings.groupStage raw.name).succeeds
          (settings.groupAnswer user password raw.name script) = false :=
        Bool.eq_false_iff.mpr fun succeeds => failing ⟨succeeds, trivial⟩
      refine ⟨_, rfl, ?_⟩
      simp only [Settings.identityOf, unsuccessful]
      cases outcome with
      | error cause => rfl
      | ok names => exact (fails names rfl).elim
  · intro failing outcome atMost
    simp only [Settings.identity?, if_neg failing]
    cases outcome with
    | error cause => exact ⟨_, rfl, rfl⟩
    | ok entry =>
        rw [atMost entry rfl]
        exact ⟨_, rfl, rfl⟩

/-- What is sent of the course is requested of a consulted server, and then to unbind. -/
theorem requests_consult
    (settings : Settings)
    (script : Script)
    (user password : String) :
    (consult settings script user password).2 =
      sent (settings.course user password (settings.foundName script)) script ++
        [.unbind] := by
  have goes := goes_consultStep settings script user password
  change ((consultStep settings user password).run ⟨script, []⟩).2.requests.reverse ++
    _ = _
  rw [goes.requests, List.append_nil, List.reverse_reverse]

/-- A server that is consulted identifies whom its answers identify. -/
theorem identity?_consult
    (settings : Settings)
    (script : Script)
    (user password : String) :
    (consult settings script user password).1.identity? user =
      settings.identity? script user password := by
  change ((consultStep settings user password).run ⟨script, []⟩).1.identity? user = _
  by_cases through : Through (settings.course user password (settings.foundName script))
    script
  · exact ((goes_consultStep settings script user password).arriving through []).2
  · exact (goes_consultStep settings script user password).stopping through []

/-- A server that is consulted has been reached. -/
theorem consult_ne_unreachable
    (settings : Settings)
    (script : Script)
    (user password : String)
    (cause : DirectoryError) :
    (consult settings script user password).1 ≠ .unreachable cause := by
  change ((consultStep settings user password).run ⟨script, []⟩).1 ≠ _
  unfold consultStep
  rw [StateT.run_bind]
  rcases (authenticate settings user password).run.run ⟨script, []⟩ with ⟨outcome, left⟩
  cases outcome with
  | error failure => exact nofun
  | ok entry =>
      cases entry with
      | none => exact nofun
      | some found => exact nofun

/-- If all stages up to the search for the user succeed, an entry is found. -/
theorem exists_found?
    (through : Through (settings.serviceStages ++ [settings.userStage user]) script) :
    ∃ raw, settings.found? script = some raw := by
  obtain ⟨-, succeeds, -⟩ := through_append.mp through
  obtain ⟨-, suits⟩ := Bool.and_eq_true_iff.mp succeeds
  obtain ⟨raw, only⟩ := List.length_eq_one_iff.mp
    (beq_iff_eq.mp (Bool.and_eq_true_iff.mp suits).2)
  refine ⟨raw, ?_⟩
  unfold Settings.found?
  rw [only]

/-! ## Main statement -/

/-- What an attempt comes to over an open connection. -/
structure FollowsProtocol
    (settings : Settings)
    (script : Script)
    (user password : String)
    (attempt : Attempt) : Prop where
  /-- A connection is opened first and closed last, once each. -/
  connection : ∃ between, attempt.calls = .connect :: between ++ [.close] ∧
    .connect ∉ between ∧ .close ∉ between
  /-- The course is followed up to its first failure, and then comes the only request to
  unbind. -/
  requests : ∃ made, attempt.requests = made ++ [.unbind] ∧ .unbind ∉ made ∧
    let course := settings.course user password (settings.foundName script)
    made <+: course.map (·.request) ∧
      ∀ position stage, course[position]? = some stage →
        (position < made.length ↔
          Through (course.take position) script ∧ stage.request.isSendable = true)
  /-- Somebody is identified exactly if all stages before the search for groups
  succeed. -/
  identifies : attempt.identity.isSome = true ↔
    Through (settings.identifying user password (settings.foundName script)) script
  /-- The identity is the user's, with the entry's address; a failed search leaves
  groups unknown. -/
  identity : ∀ identity, attempt.identity = some identity →
    ∃ raw, settings.found? script = some raw ∧
      identity = settings.identityOf script user password raw

/-- Two lists of requests agree but for the password with which the found entry binds. -/
def AgreeButForPassword
    (raw? : Option RawEntry)
    (firstPassword secondPassword : String)
    (first second : List Request) : Prop :=
  first = second ∨ ∃ raw before after, raw? = some raw ∧
    first = before ++ .bind raw.name firstPassword :: after ∧
    second = before ++ .bind raw.name secondPassword :: after

theorem unbind_notMem_course :
    Request.unbind ∉ (settings.course user password name).map (·.request) := by
  simp only [Settings.course, Settings.identifying, Settings.serviceStages]
  split <;> simp [Settings.userStage, Settings.groupStage, passwordStage]

/-- The password is in one request only. -/
theorem agreeButForPassword_sent (settings : Settings) (script : Script)
    (user first second : String) :
    AgreeButForPassword (settings.found? script) first second
      (sent (settings.course user first (settings.foundName script)) script)
      (sent (settings.course user second (settings.foundName script)) script) := by
  have shape : ∀ password, settings.course user password (settings.foundName script) =
      (settings.serviceStages ++ [settings.userStage user]) ++
        (passwordStage (settings.foundName script) password :: (settings.serviceStages ++
          [settings.groupStage (settings.foundName script)])) := by
    intro password
    simp [Settings.course, Settings.identifying]
  rw [shape, shape]
  by_cases through : Through (settings.serviceStages ++ [settings.userStage user]) script
  · obtain ⟨raw, found⟩ := exists_found? through
    rw [sent_append_of_through through, sent_append_of_through through,
      foundName_eq found]
    exact .inr ⟨raw, _, _, found, rfl, rfl⟩
  · rw [sent_append_of_not_through through, sent_append_of_not_through through]
    exact .inl rfl

/-- Requests that agree but for the password agree so with the same requests behind
them. -/
theorem AgreeButForPassword.append
    {raw? : Option RawEntry}
    {firstPassword secondPassword : String}
    {first second : List Request}
    (agree : AgreeButForPassword raw? firstPassword secondPassword first second)
    (behind : List Request) :
    AgreeButForPassword raw? firstPassword secondPassword (first ++ behind)
      (second ++ behind) := by
  rcases agree with same | ⟨raw, before, after, found, rfl, rfl⟩
  · exact .inl (congrArg (· ++ behind) same)
  · exact .inr ⟨raw, before, after ++ behind, found, by simp, by simp⟩

/-- An attempt over an open connection. -/
theorem attempt_ok (named : user ≠ "") (given : password ≠ "") :
    attempt settings (.ok script) user password =
      ⟨⟨settings.identity? script user password,
        (consult settings script user password).1.calls user password⟩,
        sent (settings.course user password (settings.foundName script)) script ++
          [.unbind]⟩ := by
  have connects : ∀ outcome : Consultation, .connect ∈ outcome.calls user password := by
    intro outcome
    cases outcome <;> exact List.mem_cons_self
  unfold attempt Directory.identify
  rw [if_neg (by simp [named, given])]
  simp only [directory, identity?_consult, requests_consult, connects, if_true]

/-- Calls of a directory that has been reached. -/
theorem calls_of_ne_unreachable
    {outcome : Consultation}
    (reached : ∀ cause, outcome ≠ .unreachable cause) :
    ∃ between, outcome.calls user password = .connect :: between ++ [.close] ∧
      .connect ∉ between ∧ .close ∉ between := by
  cases outcome with
  | unreachable cause => exact absurd rfl (reached cause)
  | failed cause => exact ⟨[.authenticate user password], rfl, by simp, by simp⟩
  | refused => exact ⟨[.authenticate user password], rfl, by simp, by simp⟩
  | found entry groups =>
      exact ⟨[.authenticate user password, .groups entry.name], rfl, by simp, by simp⟩

/-- An attempt over an open connection follows the protocol. -/
theorem followsProtocol_attempt (named : user ≠ "") (given : password ≠ "") :
    FollowsProtocol settings script user password
      (attempt settings (.ok script) user password) := by
  rw [attempt_ok named given]
  have beginning :=
    sent_isPrefix (settings.course user password (settings.foundName script)) script
  refine ⟨calls_of_ne_unreachable (consult_ne_unreachable _ _ _ _), ?_, ?_, ?_⟩
  · exact ⟨_, rfl, fun inside => unbind_notMem_course (beginning.subset inside),
      beginning, fun position stage isStage => lt_length_sent_iff isStage⟩
  · simp only [Settings.identity?]
    constructor
    · intro identified
      by_contra failing
      rw [if_neg failing] at identified
      cases identified
    · intro through
      have upToUser :
          Through (settings.serviceStages ++ [settings.userStage user]) script := by
        have split := through
        unfold Settings.identifying at split
        rw [← List.append_assoc] at split
        exact (through_append.mp split).1
      obtain ⟨raw, found⟩ := exists_found? upToUser
      rw [if_pos through, found]
      rfl
  · intro identity identified
    simp only [Settings.identity?] at identified
    split at identified
    · obtain ⟨raw, found, rfl⟩ := Option.map_eq_some_iff.mp identified
      exact ⟨raw, found, rfl⟩
    · cases identified

/-- Without a user or a password no connection is opened, and nothing is sent to a
server that cannot be reached. Over an open connection an attempt follows the protocol,
whatever comes of its requests, and two attempts for a user agree in them but for the
password with which the found entry binds. -/
theorem attempt_follows_protocol
    (settings : Settings)
    (server : Server)
    (user password : String) :
    (user = "" ∨ password = "" → attempt settings server user password =
      ⟨⟨none, []⟩, []⟩) ∧
      (user ≠ "" → password ≠ "" →
        (∀ cause, server = .error cause →
          attempt settings server user password = ⟨⟨none, [.connect]⟩, []⟩) ∧
        ∀ script, server = .ok script →
          FollowsProtocol settings script user password
              (attempt settings server user password) ∧
            ∀ other, other ≠ "" →
              AgreeButForPassword (settings.found? script) password other
                (attempt settings server user password).requests
                (attempt settings server user other).requests) := by
  refine ⟨fun missing => ?_, fun named given => ⟨?_, ?_⟩⟩
  · unfold attempt Directory.identify
    rw [if_pos missing]
    cases server <;> rfl
  · rintro cause rfl
    unfold attempt Directory.identify
    rw [if_neg (by simp [named, given])]
    rfl
  · rintro script rfl
    refine ⟨followsProtocol_attempt named given, fun other otherGiven => ?_⟩
    rw [attempt_ok named given, attempt_ok named otherGiven]
    exact (agreeButForPassword_sent settings script user password other).append [.unbind]

/-- A server that is asked by a service account. -/
def guardedSettings : Settings where
  host := "localhost"
  port := 389
  useTls := false
  insecureSkipVerify := false
  baseDn := "dc=example"
  bindDn := "cn=service"
  bindPassword := "hidden"
  userFilter := "(uid=%s)"
  groupFilter := "(member=%s)"
  attributes := ["mail"]
  connectTimeout := 5

/-- A reply that reports success and nothing else. -/
def Reply.empty : Reply :=
  ⟨⟨0, "", ""⟩, []⟩

/-- What finds Carol and accepts her password. Then the connection is lost. -/
def scriptForCarol : Script where
  answers :=
    let carol : RawEntry :=
      ⟨"uid=carol", [("mail", [Text.Utf8.encode "carol@example.com"])]⟩
    [.received Reply.empty, .received ⟨⟨0, "", ""⟩, [carol]⟩, .received Reply.empty,
      .received Reply.empty]
  afterwards := .failed "connection lost"

/-- Carol is identified when the connection is lost late, but not early, and not without
a password. -/
theorem carol_is_identified_without_groups :
    attempt guardedSettings (.ok scriptForCarol) "carol" "" = ⟨⟨none, []⟩, []⟩ ∧
      attempt guardedSettings (.error "refused") "carol" "secret" =
        ⟨⟨none, [.connect]⟩, []⟩ ∧
      FollowsProtocol guardedSettings scriptForCarol "carol" "secret"
        (attempt guardedSettings (.ok scriptForCarol) "carol" "secret") ∧
      AgreeButForPassword (guardedSettings.found? scriptForCarol) "secret" "guess"
        (attempt guardedSettings (.ok scriptForCarol) "carol" "secret").requests
        (attempt guardedSettings (.ok scriptForCarol) "carol" "guess").requests ∧
      (attempt guardedSettings (.ok scriptForCarol) "carol" "secret").identity =
        some ⟨"carol", some "carol@example.com", none⟩ ∧
      (attempt guardedSettings (.ok scriptForCarol) "carol" "secret").requests =
        [.bind "cn=service" "hidden", .search "dc=example" "(uid=carol)" ["mail"],
          .bind "uid=carol" "secret", .bind "cn=service" "hidden",
          .search "dc=example" "(member=uid=carol)" ["cn"], .unbind] ∧
      (attempt guardedSettings
          (.ok { scriptForCarol with answers := scriptForCarol.answers.take 2 })
          "carol" "secret").identity = none := by
  obtain ⟨unasked, -⟩ :=
    attempt_follows_protocol guardedSettings (.ok scriptForCarol) "carol" ""
  obtain ⟨-, unreached⟩ :=
    attempt_follows_protocol guardedSettings (.error "refused") "carol" "secret"
  obtain ⟨-, asked⟩ :=
    attempt_follows_protocol guardedSettings (.ok scriptForCarol) "carol" "secret"
  obtain ⟨follows, agree⟩ := (asked (by decide) (by decide)).2 scriptForCarol rfl
  refine ⟨unasked (.inr rfl), (unreached (by decide) (by decide)).1 "refused" rfl,
    follows, agree "guess" (by decide), ?_, ?_, ?_⟩
  · decide +kernel
  · decide +kernel
  · decide +kernel

end Ldap
end Gatehouse
