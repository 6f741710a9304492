import Gatehouse.Gateway.Dispatch
import Gatehouse.Proofs.Text.Case

/-!
# Who decides an attempt to sign in

The password file decides first: whoever it accepts is authenticated, whatever the
groups are, and the directory is not asked. Otherwise the directory decides, if there is
one. It authenticates whom it finds and whose groups are admitted, and denies whom it
finds without such a group; an unknown group is none. Each attempt is counted once,
under who decided it and with the result of its outcome.
-/

namespace Gatehouse

/-! ## The policy -/

/-- Groups satisfy a policy that names none, or one of them, up to ASCII case. -/
def GroupPolicy.Admits
    (policy : GroupPolicy)
    (groups : Except DirectoryError (List String)) : Prop :=
  policy.allowed = [] ∨ ∃ known group allowed, groups = .ok known ∧ group ∈ known ∧
    allowed ∈ policy.allowed ∧ List.Forall₂ Text.SameLetter group.toList allowed.toList

/-- The groups that a search has found are permitted exactly if they satisfy the
policy. -/
theorem GroupPolicy.permits_toOption_iff
    {policy : GroupPolicy}
    {groups : Except DirectoryError (List String)} :
    policy.permits groups.toOption = true ↔ policy.Admits groups := by
  unfold permits Admits
  by_cases unrestricted : policy.allowed = []
  · simp [unrestricted]
  · cases groups with
    | error cause => simp [unrestricted, Except.toOption]
    | ok known =>
        simp only [unrestricted, Except.toOption, List.isEmpty_iff, if_false,
          List.any_eq_true, Text.sameIgnoringCase_iff, false_or, Except.ok.injEq]
        constructor
        · rintro ⟨allowed, isAllowed, group, isKnown, same⟩
          exact ⟨known, group, allowed, rfl, isKnown, isAllowed, same⟩
        · rintro ⟨_, group, allowed, rfl, isKnown, isAllowed, same⟩
          exact ⟨allowed, isAllowed, group, isKnown, same⟩

/-! ## The counters -/

/-- Whether something is a count of an attempt to sign in. -/
def Metric.isSignIn : Metric → Bool
  | .signIn _ _ => true
  | _ => false

theorem Metric.key_signIn (provider : SignInProvider) (result : SignInResult) :
    (Metric.signIn provider result).key =
      "lap_sign_in_total\x7bprovider=" ++ provider.name ++ ",result=" ++
        result.name ++ "\x7d" := by
  cases provider <;> cases result <;> decide +kernel

/-- The attempts counted for an answer are the samples of the attempt behind it. -/
theorem Answer.filter_isSignIn_metrics (answer : Answer) (kind : RequestKind) :
    (answer.metrics kind).filter Metric.isSignIn =
      ((answer.attempt.map (·.samples)).getD []).map fun sample =>
        Metric.signIn sample.provider sample.result := by
  unfold metrics
  rw [List.filter_append, List.filter_append, List.filter_append, List.filter_map]
  have kept :
      ∀ samples : List SignInSample, samples.filter (Metric.isSignIn ∘ fun sample =>
      Metric.signIn sample.provider sample.result) = samples := fun samples =>
    List.filter_true samples
  have noDecision :
      (answer.decision.map Metric.decision).toList.filter Metric.isSignIn = [] := by
    cases answer.decision <;> rfl
  have noTime : ((answer.delivery.bind (·.timed)).map Metric.answerTime).toList.filter
      Metric.isSignIn = [] := by
    cases answer.delivery.bind (·.timed) <;> rfl
  rw [kept, noDecision, noTime, List.append_nil, List.append_nil]
  exact List.append_nil _

namespace SignInService

variable (service : SignInService)
variable {user password : String}

/-! ## The two providers -/

/-- The password file accepts a user with a password. -/
def AcceptsLocally (user password : String) : Prop :=
  ∃ file, service.htpasswd = some file ∧ file.accepts user password = true

/-- The directory identifies a user by an entry, and the search for groups ends well. -/
def Finds
    (user password : String)
    (entry : DirectoryEntry)
    (groups : Except DirectoryError (List String)) : Prop :=
  ∃ directory, service.directory = some directory ∧ user ≠ "" ∧ password ≠ "" ∧
    directory user password = .found entry groups

/-- The session of a user with an entry: its first address, unless that is empty. -/
def sessionOf (user : String) (entry : DirectoryEntry) : Session :=
  ⟨user, (entry.first? "mail").filter (· ≠ "")⟩

/-- The password file identifies exactly whom it accepts, without an address. -/
theorem bind_identify?_eq_some_iff {identity : Identity} :
    service.htpasswd.bind (·.identify? user password) = some identity ↔
      service.AcceptsLocally user password ∧ identity = Identity.ofUser user := by
  unfold AcceptsLocally Htpasswd.identify?
  cases service.htpasswd with
  | none => simp
  | some file =>
      by_cases accepts : file.accepts user password = true
      · simp [accepts, eq_comm (a := Identity.ofUser user)]
      · simp [accepts]

/-- The session of an identity that an entry establishes. -/
theorem ofIdentity_eq_sessionOf
    (user : String)
    (entry : DirectoryEntry)
    (groups : Option (List String)) :
    Session.ofIdentity ⟨user, entry.first? "mail", groups⟩ = sessionOf user entry := by
  unfold Session.ofIdentity sessionOf
  cases entry.first? "mail" with
  | none => rfl
  | some address =>
      by_cases empty : address = "" <;>
        simp [Session.ofUser, Session.withEmail, Option.filter, empty]

/-- A directory identifies somebody exactly by an entry that it finds. -/
theorem identity_identify_eq_some_iff
    {directory : Directory}
    {identity : Identity} :
    (directory.identify user password).identity = some identity ↔
      user ≠ "" ∧ password ≠ "" ∧ ∃ entry groups,
        directory user password = .found entry groups ∧
        identity = ⟨user, entry.first? "mail", groups.toOption⟩ := by
  unfold Directory.identify
  split
  · next missing => simpa using fun named given => (missing.elim named given).elim
  · next complete =>
      obtain ⟨named, given⟩ := not_or.mp complete
      cases directory user password with
      | found entry groups =>
          simp only [Consultation.identity?, Option.some.injEq, Consultation.found.injEq]
          constructor
          · rintro rfl
            exact ⟨named, given, entry, groups, ⟨rfl, rfl⟩, rfl⟩
          · rintro ⟨-, -, _, _, ⟨rfl, rfl⟩, rfl⟩
            rfl
      | unreachable cause => simp [Consultation.identity?]
      | failed cause => simp [Consultation.identity?]
      | refused => simp [Consultation.identity?]

/-! ## Main statement -/

/-- What an attempt has to be. -/
structure Decides (user password : String) (attempt : SignInAttempt) : Prop where
  /-- Whoever the password file accepts is authenticated without an address, and without
  asking the directory. -/
  local? : service.AcceptsLocally user password →
    attempt.outcome = .authenticated ⟨user, none⟩ ∧ attempt.provider = .htpasswd ∧
      attempt.calls = []
  /-- Otherwise exactly those are authenticated whom the directory finds with admitted
  groups. -/
  authenticated : ¬ service.AcceptsLocally user password → ∀ session,
    attempt.outcome = .authenticated session ↔
      ∃ entry groups, service.Finds user password entry groups ∧
        service.groups.Admits groups ∧
        session = sessionOf user entry
  /-- Exactly those are denied whom the directory finds without admitted groups. -/
  denied : ¬ service.AcceptsLocally user password →
    (attempt.outcome = .denied ↔
      ∃ entry groups, service.Finds user password entry groups ∧
        ¬ service.groups.Admits groups)
  /-- The attempt fails exactly if the directory does not find the user. -/
  failed : ¬ service.AcceptsLocally user password →
    (attempt.outcome = .failed ↔ ∀ entry groups,
      ¬ service.Finds user password entry groups)
  /-- The directory decides what the password file does not, if there is one. -/
  provider : ¬ service.AcceptsLocally user password →
    attempt.provider = if service.directory.isSome then .directory else .nobody
  /-- The attempt is counted once, under who decided it and with the result of its
  outcome. -/
  counted : attempt.samples = [⟨attempt.provider, attempt.outcome.result⟩]

/-- A directory identifies whom it finds. -/
theorem identity_of_finds
    {directory : Directory}
    {entry : DirectoryEntry}
    {groups : Except DirectoryError (List String)}
    (provided : service.directory = some directory)
    (finds : service.Finds user password entry groups) :
    (directory.identify user password).identity =
      some ⟨user, entry.first? "mail", groups.toOption⟩ := by
  obtain ⟨_, isDirectory, named, given, found⟩ := finds
  cases provided.symm.trans isDirectory
  exact identity_identify_eq_some_iff.mpr ⟨named, given, entry, groups, found, rfl⟩

/-- At most one entry is found, and the search for its groups has one result. -/
theorem finds_unique
    {entry other : DirectoryEntry}
    {groups otherGroups : Except DirectoryError (List String)}
    (finds : service.Finds user password entry groups)
    (findsOther : service.Finds user password other otherGroups) :
    other = entry ∧ otherGroups = groups := by
  obtain ⟨directory, provided, -, -, found⟩ := finds
  obtain ⟨_, isDirectory, -, -, foundOther⟩ := findsOther
  cases provided.symm.trans isDirectory
  cases found.symm.trans foundOther
  exact ⟨rfl, rfl⟩

/-- An attempt that fails because nobody is found decides as it has to. -/
theorem decides_of_unfound
    {attempt : SignInAttempt}
    (refuses : ¬ service.AcceptsLocally user password)
    (unfound : ∀ entry groups, ¬ service.Finds user password entry groups)
    (outcome : attempt.outcome = .failed)
    (provider : attempt.provider =
      if service.directory.isSome then .directory else .nobody)
    (counted : attempt.samples = [⟨attempt.provider, .failure⟩]) :
    service.Decides user password attempt where
  local? := fun accepts => absurd accepts refuses
  authenticated := fun _ session => by
    rw [outcome]
    exact ⟨nofun, fun ⟨entry, groups, finds, _⟩ => absurd finds (unfound entry groups)⟩
  denied := fun _ => by
    rw [outcome]
    exact ⟨nofun, fun ⟨entry, groups, finds, _⟩ => absurd finds (unfound entry groups)⟩
  failed := fun _ => iff_of_true outcome unfound
  provider := fun _ => provider
  counted := by
    rw [outcome]
    exact counted

/-- An attempt of somebody who is found decides as it must if it follows the policy. -/
theorem decides_of_finds
    {attempt : SignInAttempt}
    {entry : DirectoryEntry}
    {groups : Except DirectoryError (List String)}
    (refuses : ¬ service.AcceptsLocally user password)
    (finds : service.Finds user password entry groups)
    (outcome : attempt.outcome = if service.groups.permits groups.toOption then
      .authenticated (sessionOf user entry) else .denied)
    (provider : attempt.provider =
      if service.directory.isSome then .directory else .nobody)
    (counted : attempt.samples = [⟨attempt.provider, attempt.outcome.result⟩]) :
    service.Decides user password attempt := by
  have found : ∃ entry groups, service.Finds user password entry groups :=
    ⟨entry, groups, finds⟩
  by_cases admits : service.groups.Admits groups
  · rw [if_pos (GroupPolicy.permits_toOption_iff.mpr admits)] at outcome
    refine ⟨fun accepts => absurd accepts refuses, fun _ session => ?_,
      fun _ => ?_, fun _ => ?_, fun _ => provider, counted⟩
    · rw [outcome, SignInOutcome.authenticated.injEq]
      constructor
      · rintro rfl
        exact ⟨entry, groups, finds, admits, rfl⟩
      · rintro ⟨other, otherGroups, findsOther, -, rfl⟩
        rw [(service.finds_unique finds findsOther).1]
    · rw [outcome]
      refine ⟨nofun, fun ⟨other, otherGroups, findsOther, excluded⟩ => ?_⟩
      rw [(service.finds_unique finds findsOther).2] at excluded
      exact absurd admits excluded
    · rw [outcome]
      exact ⟨nofun, fun unfound => absurd finds (unfound entry groups)⟩
  · rw [if_neg (mt GroupPolicy.permits_toOption_iff.mp admits)] at outcome
    refine ⟨fun accepts => absurd accepts refuses, fun _ session => ?_,
      fun _ => ?_, fun _ => ?_, fun _ => provider, counted⟩
    · rw [outcome]
      refine ⟨nofun, fun ⟨other, otherGroups, findsOther, admitted, _⟩ => ?_⟩
      rw [(service.finds_unique finds findsOther).2] at admitted
      exact absurd admitted admits
    · exact iff_of_true outcome ⟨entry, groups, finds, admits⟩
    · rw [outcome]
      exact ⟨nofun, fun unfound => absurd finds (unfound entry groups)⟩

/-- An attempt decides as it has to. -/
theorem decides_attempt (user password : String) :
    service.Decides user password (service.attempt user password) := by
  unfold attempt
  cases local? : service.htpasswd.bind (·.identify? user password) with
  | some identity =>
      obtain ⟨accepts, rfl⟩ := service.bind_identify?_eq_some_iff.mp local?
      exact ⟨fun _ => ⟨rfl, rfl, rfl⟩, absurd accepts, absurd accepts, absurd accepts,
        absurd accepts, rfl⟩
  | none =>
      have refuses : ¬ service.AcceptsLocally user password := fun accepts => by
        rw [service.bind_identify?_eq_some_iff.mpr ⟨accepts, rfl⟩] at local?
        cases local?
      cases provided : service.directory with
      | none =>
          refine service.decides_of_unfound refuses ?_ rfl (by rw [provided]; rfl) rfl
          rintro entry groups ⟨directory, isDirectory, -⟩
          cases provided.symm.trans isDirectory
      | some directory =>
          have decider : SignInProvider.directory =
              if service.directory.isSome then .directory else .nobody := by
            rw [provided]
            rfl
          cases identified : (directory.identify user password).identity with
          | none =>
              simp only [identified]
              refine service.decides_of_unfound refuses ?_ rfl decider rfl
              intro entry groups finds
              cases identified.symm.trans (service.identity_of_finds provided finds)
          | some identity =>
              obtain ⟨named, given, entry, groups, found, rfl⟩ :=
                identity_identify_eq_some_iff.mp identified
              have finds : service.Finds user password entry groups :=
                ⟨directory, provided, named, given, found⟩
              simp only [identified, ofIdentity_eq_sessionOf]
              by_cases permits : service.groups.permits groups.toOption = true
              · rw [if_pos permits]
                exact service.decides_of_finds refuses finds
                  (if_pos permits).symm decider rfl
              · rw [if_neg permits]
                exact service.decides_of_finds refuses finds
                  (if_neg permits).symm decider rfl

/-- The password file, the directory and the policy decide an attempt, and it is counted
once, under who decided it and with the result. -/
theorem attempt_decides_and_is_counted
    (service : SignInService)
    (user password : String) :
    let attempt := service.attempt user password
    service.Decides user password attempt ∧
      ∀ answer : Answer, answer.attempt = some attempt → ∀ kind,
        ((answer.metrics kind).filter Metric.isSignIn).map Metric.key =
          ["lap_sign_in_total\x7bprovider=" ++ attempt.provider.name ++ ",result=" ++
            attempt.outcome.result.name ++ "\x7d"] := by
  intro attempt
  have decides := service.decides_attempt user password
  refine ⟨decides, fun answer attempted kind => ?_⟩
  rw [Answer.filter_isSignIn_metrics, attempted]
  simp only [Option.map_some, Option.getD_some, attempt, decides.counted, List.map_cons,
    List.map_nil]
  rw [Metric.key_signIn]

/-- A service with Alice in its file, and with Carol and Dave in its directory. -/
def engineers : SignInService where
  htpasswd :=
    some ⟨[("alice", .digest (Crypto.Sha1.digest (Text.Utf8.encode "correct")))]⟩
  directory := some fun user password =>
    if password = "secret" then
      .found ⟨"uid=" ++ user, [("mail", [user ++ "@example.com"])]⟩
        (if user = "carol" then .ok ["staff", "ENG"] else .error (.search "busy"))
    else .refused
  groups := ⟨["eng"]⟩

/-- Alice is let in by the file, Carol as an engineer; Dave is denied; each counts
once. -/
theorem engineers_sign_in :
    let answer : SignInAttempt → Answer := fun attempt =>
      ⟨Response.ofStatus 302, none, some attempt, none⟩
    let counted : SignInAttempt → List String := fun attempt =>
      (((answer attempt).metrics .signIn).filter Metric.isSignIn).map Metric.key
    let alice := engineers.attempt "alice" "correct"
    let carol := engineers.attempt "carol" "secret"
    let dave := engineers.attempt "dave" "secret"
    (alice.outcome = .authenticated ⟨"alice", none⟩ ∧ alice.calls = [] ∧
        counted alice = ["lap_sign_in_total\x7bprovider=htpasswd,result=success\x7d"]) ∧
      (carol.outcome = .authenticated ⟨"carol", some "carol@example.com"⟩ ∧
        counted carol = ["lap_sign_in_total\x7bprovider=ldap,result=success\x7d"]) ∧
      dave.outcome = .denied ∧
        counted dave = ["lap_sign_in_total\x7bprovider=ldap,result=denied\x7d"] := by
  intro answer counted alice carol dave
  obtain ⟨aliceDecides, aliceCounted⟩ :=
    attempt_decides_and_is_counted engineers "alice" "correct"
  obtain ⟨carolDecides, carolCounted⟩ :=
    attempt_decides_and_is_counted engineers "carol" "secret"
  obtain ⟨daveDecides, daveCounted⟩ :=
    attempt_decides_and_is_counted engineers "dave" "secret"
  have accepts : engineers.AcceptsLocally "alice" "correct" :=
    ⟨_, rfl, beq_self_eq_true _⟩
  obtain ⟨authenticated, byFile, unasked⟩ := aliceDecides.local? accepts
  have carolOutcome :
      carol.outcome = .authenticated ⟨"carol", some "carol@example.com"⟩ := by
    decide +kernel
  have daveOutcome : dave.outcome = .denied := by decide +kernel
  refine ⟨⟨authenticated, unasked, ?_⟩, ⟨carolOutcome, ?_⟩, daveOutcome, ?_⟩
  · refine (aliceCounted _ rfl .signIn).trans ?_
    rw [authenticated, byFile]
    decide +kernel
  · exact (carolCounted _ rfl .signIn).trans (by decide +kernel)
  · exact (daveCounted _ rfl .signIn).trans (by decide +kernel)

end SignInService
end Gatehouse
