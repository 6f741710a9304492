import Gatehouse.Gateway.Server
import Gatehouse.Proofs.Auth.SignInDecision
import Gatehouse.Proofs.Gateway.Mediation
import Gatehouse.Proofs.Text.Decimal

/-!
# What the counters show

The counters are kept over a run: every request that is answered adds what is counted for
its answer. One request adds one count of a request, one of a decision exactly if it is
decided about, and one of an attempt to sign in exactly if it posts the name of a user.
From this step follows what the counters show after a run, whatever the requests were and
whatever the answers of those that the proxy asks: requests, decisions and attempts are
neither lost nor counted twice, and the counted status agrees with the decision.
-/

namespace Gatehouse

/-! ## Counters -/

/-- One of the series of a counter: its name, and labels with values. -/
structure Series where
  name : String
  labels : List (String × String)
  deriving DecidableEq, Repr

/-- The series in which something is counted. -/
def Metric.series : Metric → Series
  | .request kind status =>
      ⟨"lap_requests_total",
        [("kind", kind.name), ("status", Text.Decimal.natural status)]⟩
  | .decision taken => ⟨"lap_auth_decisions_total", [("decision", taken.name)]⟩
  | .signIn provider result =>
      ⟨"lap_sign_in_total", [("provider", provider.name), ("result", result.name)]⟩
  | .answerTime mount => ⟨"lap_upstream_duration_seconds", [("route", mount)]⟩

/-- Whether a series counts requests that parts of the proxy answer. -/
def Series.isRequestOf (kinds : List RequestKind) (series : Series) : Bool :=
  series.name == "lap_requests_total" &&
    kinds.any fun kind => series.labels.lookup "kind" == some kind.name

theorem RequestKind.name_inj {first second : RequestKind} :
    first.name = second.name ↔ first = second := by
  cases first <;> cases second <;> decide

/-- A request is counted among those of the parts that answer it. -/
theorem Series.isRequestOf_request
    (kinds : List RequestKind)
    (kind : RequestKind)
    (status : Nat) :
    (Metric.request kind status).series.isRequestOf kinds = decide (kind ∈ kinds) := by
  unfold isRequestOf Metric.series
  rw [Bool.eq_iff_iff, decide_eq_true_iff]
  simp only [beq_self_eq_true, Bool.true_and, List.any_eq_true, List.lookup_cons_self,
    beq_iff_eq, Option.some.injEq, RequestKind.name_inj, exists_eq_right']

/-- The counters of the proxy: each series with its count. -/
abbrev Counters := List (Series × Nat)

namespace Counters

/-- Add one to the count of a series. -/
def increment (series : Series) : Counters → Counters
  | [] => [(series, 1)]
  | (other, count) :: rest =>
      if other = series then (other, count + 1) :: rest
      else (other, count) :: increment series rest

/-- Count things, one after the other. -/
def record (counters : Counters) (metrics : List Metric) : Counters :=
  metrics.foldl (fun counters metric => counters.increment metric.series) counters

/-- The sum of the counts of the selected series. -/
def sum (selects : Series → Bool) (counters : Counters) : Nat :=
  counters.foldr (fun (series, count) rest =>
    (if selects series then count else 0) + rest) 0

/-- The sum of a counter over all labels. -/
def total (name : String) (counters : Counters) : Nat :=
  counters.sum fun series => series.name == name

variable (selects : Series → Bool)

theorem sum_cons (series : Series) (count : Nat) (counters : Counters) :
    sum selects ((series, count) :: counters) =
      (if selects series then count else 0) + counters.sum selects :=
  List.foldr_cons

/-- An increment adds one to the sum if its series is selected. -/
theorem sum_increment (series : Series) (counters : Counters) :
    (counters.increment series).sum selects =
      counters.sum selects + if selects series then 1 else 0 := by
  induction counters with
  | nil =>
      unfold increment
      rw [sum_cons, Nat.add_comm]
  | cons entry rest inductionHypothesis =>
      obtain ⟨other, count⟩ := entry
      unfold increment
      split
      · next same =>
          rw [sum_cons, sum_cons, same]
          split <;> omega
      · rw [sum_cons, sum_cons, inductionHypothesis]
        omega

/-- What is counted adds the number of its selected series to the sum. -/
theorem sum_record (counters : Counters) (metrics : List Metric) :
    (counters.record metrics).sum selects =
      counters.sum selects + metrics.countP fun metric => selects metric.series := by
  unfold record
  induction metrics generalizing counters with
  | nil => rfl
  | cons metric rest inductionHypothesis =>
      rw [List.foldl_cons, inductionHypothesis, sum_increment, List.countP_cons,
        Nat.add_assoc, Nat.add_comm (rest.countP _)]

end Counters

/-! ## One answer -/

namespace Answer

/-- What is counted for an answer: the attempt, the decision, the time and the request. -/
theorem countP_metrics
    (answer : Answer)
    (kind : RequestKind)
    (selects : Series → Bool) :
    ((answer.metrics kind).countP fun metric => selects metric.series) =
      (((answer.attempt.map (·.samples)).getD []).countP fun sample =>
          selects (Metric.signIn sample.provider sample.result).series) +
        ((answer.decision.toList).countP fun decision =>
          selects (Metric.decision decision).series) +
        ((answer.delivery.bind (·.timed)).toList.countP fun mount =>
          selects (Metric.answerTime mount).series) +
        if selects (Metric.request kind answer.response.status).series then 1 else 0 := by
  unfold metrics
  rw [List.countP_append, List.countP_append, List.countP_append, List.countP_singleton,
    List.countP_map, Option.toList_map, List.countP_map, Option.toList_map,
    List.countP_map]
  rfl

end Answer

namespace Gateway

variable {gateway : Gateway}
variable {around : Surroundings}
variable {request : Request}
variable {answer : Answer}

/-- Whether a request posts the name of a user to the sign-in part. -/
def triesToSignIn (gateway : Gateway) (request : Request) : Bool :=
  gateway.kindOf request == .signIn && request.method == "POST" &&
    (SignInForm.ofRequest request).user != ""

/-- The parts of the proxy that decide about a request. -/
def decidingKinds : List RequestKind := [.auth, .proxy]

/-- An answer tells of the decision and of the attempt, if there are any. -/
theorem traces_of_answer (answered : gateway.answer? around request = some answer) :
    answer.decision =
        (if gateway.kindOf request ∈ decidingKinds then
          some (gateway.authenticate around request).decision else none) ∧
      answer.attempt =
        (if gateway.triesToSignIn request then
          some (gateway.signIn.attempt (SignInForm.ofRequest request).user
            (SignInForm.ofRequest request).password) else none) := by
  unfold triesToSignIn
  unfold answer? answerBy at answered
  cases kind : gateway.kindOf request with
  | robots =>
      rw [kind] at answered
      cases answered
      exact ⟨rfl, rfl⟩
  | ping =>
      rw [kind] at answered
      cases answered
      exact ⟨rfl, rfl⟩
  | bypass =>
      rw [kind] at answered
      cases answered
      exact ⟨rfl, rfl⟩
  | signIn =>
      rw [kind] at answered
      obtain ⟨plain, isPlain, rfl⟩ := Option.map_eq_some_iff.mp answered
      unfold signInAnswer? at isPlain
      simp only at isPlain
      split at isPlain
      · next shown =>
          obtain ⟨page, -, rfl⟩ := Option.map_eq_some_iff.mp isPlain
          refine ⟨rfl, (if_neg ?_).symm⟩
          simp only [Bool.or_eq_true, bne_iff_ne, beq_iff_eq] at shown
          simpa only [beq_self_eq_true, Bool.true_and, Bool.and_eq_true, beq_iff_eq,
            bne_iff_ne, not_and_or, not_not] using shown
      · next tried =>
          obtain ⟨response, -, rfl⟩ := Option.map_eq_some_iff.mp isPlain
          refine ⟨rfl, (if_pos ?_).symm⟩
          simp only [Bool.or_eq_true, bne_iff_ne, beq_iff_eq, not_or, not_not] at tried
          simpa only [beq_self_eq_true, Bool.true_and, Bool.and_eq_true, beq_iff_eq,
            bne_iff_ne] using tried
  | signOut =>
      rw [kind] at answered
      obtain ⟨plain, isPlain, rfl⟩ := Option.map_eq_some_iff.mp answered
      obtain ⟨cookie, -, isAnswer⟩ := Option.bind_eq_some_iff.mp isPlain
      cases isAnswer
      exact ⟨rfl, rfl⟩
  | auth =>
      rw [kind] at answered
      obtain ⟨plain, isPlain, rfl⟩ := Option.map_eq_some_iff.mp answered
      obtain ⟨final, -, isAnswer⟩ := Option.bind_eq_some_iff.mp isPlain
      cases isAnswer
      exact ⟨rfl, rfl⟩
  | proxy =>
      rw [kind] at answered
      unfold proxyAnswerBy at answered
      cases decided : (gateway.authenticate around request).decision with
      | internalError =>
          rw [decided] at answered
          cases answered
          exact ⟨rfl, rfl⟩
      | reject =>
          rw [decided] at answered
          obtain ⟨page, -, rfl⟩ := Option.map_eq_some_iff.mp answered
          exact ⟨rfl, rfl⟩
      | accept session =>
          rw [decided] at answered
          obtain ⟨response, -, isAnswer⟩ := Option.bind_eq_some_iff.mp answered
          cases isAnswer
          exact ⟨congrArg some decided, rfl⟩

/-- A bare decision is answered with the status 202 exactly if it accepts. -/
theorem status_of_auth
    (isAuth : gateway.kindOf request = .auth)
    (answered : gateway.answer? around request = some answer) :
    answer.response.status = 202 ↔
      ∃ session, (gateway.authenticate around request).decision = .accept session := by
  unfold answer? answerBy at answered
  rw [isAuth] at answered
  obtain ⟨plain, isPlain, rfl⟩ := Option.map_eq_some_iff.mp answered
  obtain ⟨final, isFinal, isAnswer⟩ := Option.bind_eq_some_iff.mp isPlain
  cases isAnswer
  obtain ⟨headers, -, rfl⟩ := Option.map_eq_some_iff.mp isFinal
  have refused : ¬ (401 = 202) := by decide
  cases decided : (gateway.authenticate around request).decision with
  | accept session => exact iff_of_true rfl ⟨session, rfl⟩
  | reject => exact iff_of_false refused nofun
  | internalError => exact iff_of_false refused nofun

/-- A request that is rejected before a mount has the status 403. -/
theorem status_of_rejected
    (proxied : gateway.kindOf request = .proxy)
    (rejected : (gateway.authenticate around request).decision = .reject)
    (answered : gateway.answer? around request = some answer) :
    answer.response.status = 403 := by
  obtain ⟨refused, -⟩ := gateway.observe_of_rejected around request _ proxied rejected
  rw [observe_authenticate, answered] at refused
  exact gateway.status_of_refusal? around request refused.symm

/-- A request whose decision has failed is answered with the status 500. -/
theorem status_of_failed
    (proxied : gateway.kindOf request = .proxy)
    (failed : (gateway.authenticate around request).decision = .internalError)
    (answered : gateway.answer? around request = some answer) :
    answer.response.status = 500 := by
  have isAnswer := gateway.observe_of_failed around request _ proxied failed
  rw [observe_authenticate, answered] at isAnswer
  rw [Option.some.inj isAnswer]
  rfl

/-- What is done to a response before it is sent leaves its status alone. -/
theorem status_finish_echoId (request identified : Request) (response : Response) :
    (finish request (echoId identified response)).status = response.status := by
  have echoed : (echoId identified response).status = response.status := by
    unfold echoId
    split
    · split <;> rfl
    · rfl
  have sized : ∀ response : Response, (withLength response).status = response.status := by
    intro response
    unfold withLength
    split <;> rfl
  rw [← echoed]
  unfold finish
  simp only
  split
  · rfl
  · split <;> exact sized _

end Gateway

/-! ## One request -/

/-- A request that arrives at the proxy, with all that the proxy asks then. -/
structure Arrival where
  gateway : Gateway
  around : Surroundings
  /-- The identifier for a request that has brought none. -/
  fresh : Bytes
  request : Request

namespace Arrival

variable (arrival : Arrival)

/-- The request with its identifier. -/
def identified : Request :=
  Gateway.withId arrival.fresh arrival.request

/-- The part of the proxy that answers the request. -/
def kind : RequestKind :=
  arrival.gateway.kindOf arrival.identified

/-- What the engine makes of the request. -/
def outcome : Outcome :=
  arrival.gateway.authenticate arrival.around arrival.identified

/-- The decision about the request. -/
def decision : Decision :=
  arrival.outcome.decision

/-- Whether the request posts the name of a user to the sign-in part. -/
def triesToSignIn : Bool :=
  arrival.gateway.triesToSignIn arrival.identified

/-- What comes of trying to sign in with the form of the request. -/
def attempt : SignInAttempt :=
  arrival.gateway.signIn.attempt (SignInForm.ofRequest arrival.identified).user
    (SignInForm.ofRequest arrival.identified).password

/-- Serve the request. -/
def serve? : Option (Answer × List Metric) :=
  arrival.gateway.serve? arrival.around arrival.fresh arrival.request

/-- The status with which the request is answered. -/
def status? : Option Nat :=
  arrival.serve?.map fun served => served.1.response.status

/-- The status with which the request is answered if an outcome is made of it. -/
def statusFor? (outcome : Outcome) : Option Nat :=
  (arrival.gateway.observe arrival.around arrival.identified outcome).1.map
    fun answer => answer.response.status

/-- What a served request adds to the selected series: counts of the attempt, the
decision and the request, and the times of the mounts. -/
def share (selects : Series → Bool) (status : Nat) (mounts : List String) : Nat :=
  (if arrival.triesToSignIn && selects
      (Metric.signIn arrival.attempt.provider arrival.attempt.outcome.result).series
    then 1 else 0) +
    (if decide (arrival.kind ∈ Gateway.decidingKinds) &&
        selects (Metric.decision arrival.decision).series then 1 else 0) +
    (mounts.countP fun mount => selects (Metric.answerTime mount).series) +
    if selects (Metric.request arrival.kind status).series then 1 else 0

variable {arrival}
variable {served : Answer × List Metric}

/-- A served request counts as its answer does, whose status is sent. -/
theorem exists_answer_of_serve? (isServed : arrival.serve? = some served) :
    ∃ answer, arrival.gateway.answer? arrival.around arrival.identified = some answer ∧
      served.2 = answer.metrics arrival.kind ∧
      arrival.status? = some answer.response.status := by
  obtain ⟨answer, answered, isAnswer⟩ := Option.bind_eq_some_iff.mp isServed
  have kept : served.1.response.status = answer.response.status := by
    cases isAnswer
    exact Gateway.status_finish_echoId _ _ _
  refine ⟨answer, answered, ?_, ?_⟩
  · cases isAnswer
    rfl
  · unfold status?
    rw [isServed, Option.map_some, kept]

/-- A request that is served adds its share to the selected series, whichever these
are. -/
theorem exists_share_of_serve? (isServed : arrival.serve? = some served) :
    ∃ status mounts, arrival.status? = some status ∧ ∀ selects : Series → Bool,
      (served.2.countP fun metric => selects metric.series) =
        arrival.share selects status mounts := by
  obtain ⟨answer, answered, counted, isStatus⟩ := exists_answer_of_serve? isServed
  have decision : answer.decision =
      if arrival.kind ∈ Gateway.decidingKinds then some arrival.decision else none :=
    (Gateway.traces_of_answer answered).1
  have attempt :
      answer.attempt = if arrival.triesToSignIn then some arrival.attempt else none :=
    (Gateway.traces_of_answer answered).2
  have sampled : arrival.attempt.samples =
      [⟨arrival.attempt.provider, arrival.attempt.outcome.result⟩] :=
    (arrival.gateway.signIn.decides_attempt _ _).counted
  refine ⟨answer.response.status, (answer.delivery.bind (·.timed)).toList, isStatus,
    fun selects => ?_⟩
  rw [counted, answer.countP_metrics arrival.kind selects, decision, attempt, share]
  congr 3
  · cases arrival.triesToSignIn with
    | false => rfl
    | true =>
        rw [if_pos rfl, Option.map_some, Option.getD_some, sampled, List.countP_singleton,
          Bool.true_and]
  · by_cases decided : arrival.kind ∈ Gateway.decidingKinds
    · rw [if_pos decided, Option.toList_some, List.countP_singleton,
        decide_eq_true decided, Bool.true_and]
    · rw [if_neg decided, decide_eq_false decided]
      rfl

end Arrival

/-! ## A run -/

namespace Counters

/-- Serve a request and count what is counted for its answer. -/
def handle? (counters : Counters) (arrival : Arrival) : Option Counters :=
  arrival.serve?.map fun served => counters.record served.2

/-- Serve requests, one after the other. -/
def handleAll? (counters : Counters) (arrivals : List Arrival) : Option Counters :=
  arrivals.foldlM handle? counters

/-- If exactly a sort of requests has a share of one, a run adds their number. -/
theorem sum_of_handleAll?
    (selects : Series → Bool)
    (counts : Arrival → Bool)
    (shares : ∀ arrival status mounts, arrival.status? = some status →
      arrival.share selects status mounts = if counts arrival then 1 else 0)
    {arrivals : List Arrival}
    {start counters : Counters}
    (handled : start.handleAll? arrivals = some counters) :
    counters.sum selects = start.sum selects + arrivals.countP counts := by
  unfold handleAll? at handled
  induction arrivals generalizing start with
  | nil =>
      cases handled
      rfl
  | cons arrival rest inductionHypothesis =>
      rw [List.foldlM_cons] at handled
      obtain ⟨next, isNext, handledRest⟩ := Option.bind_eq_some_iff.mp handled
      obtain ⟨served, isServed, rfl⟩ := Option.map_eq_some_iff.mp isNext
      obtain ⟨status, mounts, isStatus, counted⟩ :=
        Arrival.exists_share_of_serve? isServed
      rw [inductionHypothesis handledRest, sum_record, counted, shares _ _ _ isStatus,
        List.countP_cons, Nat.add_assoc, Nat.add_comm (rest.countP _)]

/-- What the counters show after a run over some requests. -/
structure Conserves (arrivals : List Arrival) (counters : Counters) : Prop where
  /-- Every request is counted once. -/
  requests : counters.total "lap_requests_total" = arrivals.length
  /-- There are as many decisions as requests for which there has to be one. -/
  decisions : counters.total "lap_auth_decisions_total" =
    counters.sum (Series.isRequestOf [.auth, .proxy])
  /-- There are as many attempts as requests that post the name of a user. -/
  signIns : counters.total "lap_sign_in_total" = arrivals.countP Arrival.triesToSignIn
  /-- The requests of a part are those that it has answered. -/
  parts : ∀ kinds, counters.sum (Series.isRequestOf kinds) =
    arrivals.countP fun arrival => decide (arrival.kind ∈ kinds)
  /-- A request is counted under its part and its status. -/
  statuses : ∀ kind status, counters.sum (· == (Metric.request kind status).series) =
    arrivals.countP fun arrival => arrival.kind == kind && arrival.status? == some status
  /-- A decision is counted under its name. -/
  taken : ∀ decision : Decision, counters.sum (· == (Metric.decision decision).series) =
    arrivals.countP fun arrival =>
      decide (arrival.kind ∈ Gateway.decidingKinds) &&
        arrival.decision.name == decision.name
  /-- A request that is rejected on its way to a mount has the status 403. -/
  rejected : ∀ arrival ∈ arrivals, arrival.kind = .proxy → arrival.decision = .reject →
    arrival.status? = some 403
  /-- A request whose decision fails on its way to a mount has the status 500. -/
  failed : ∀ arrival ∈ arrivals,
    arrival.kind = .proxy → arrival.decision = .internalError →
    arrival.status? = some 500
  /-- So it has under an engine of any other making, whatever makes the decision fail. -/
  failing : ∀ arrival ∈ arrivals, arrival.status? = arrival.statusFor? arrival.outcome ∧
    ∀ outcome, arrival.kind = .proxy → outcome.decision = .internalError →
      arrival.statusFor? outcome = some 500
  /-- A request for the bare decision has the status 202 exactly if it is accepted. -/
  accepted : ∀ arrival ∈ arrivals, arrival.kind = .auth →
    (arrival.status? = some 202 ↔ ∃ session, arrival.decision = .accept session)

/-- A run over served requests: each of them was served. -/
theorem exists_serve?_of_mem
    {arrivals : List Arrival}
    {arrival : Arrival}
    {start counters : Counters}
    (handled : start.handleAll? arrivals = some counters)
    (present : arrival ∈ arrivals) :
    ∃ served, arrival.serve? = some served := by
  unfold handleAll? at handled
  induction arrivals generalizing start with
  | nil => cases present
  | cons first rest inductionHypothesis =>
      rw [List.foldlM_cons] at handled
      obtain ⟨next, isNext, handledRest⟩ := Option.bind_eq_some_iff.mp handled
      rcases List.mem_cons.mp present with rfl | inRest
      · obtain ⟨served, isServed, -⟩ := Option.map_eq_some_iff.mp isNext
        exact ⟨served, isServed⟩
      · exact inductionHypothesis handledRest inRest

/-- Metric conservation. The counters of any run show each request, decision and attempt
once, under what it was. -/
theorem counters_are_conserved
    {arrivals : List Arrival}
    {counters : Counters}
    (handled : handleAll? [] arrivals = some counters) :
    Conserves arrivals counters := by
  have requests :
      counters.total "lap_requests_total" = 0 + arrivals.countP fun _ => true := by
    refine sum_of_handleAll? _ _ (fun arrival status mounts _ => ?_) handled
    simp [Arrival.share, Metric.series]
  have parts : ∀ kinds, counters.sum (Series.isRequestOf kinds) =
      0 + arrivals.countP fun arrival => decide (arrival.kind ∈ kinds) := by
    intro kinds
    refine sum_of_handleAll? _ _ (fun arrival status mounts _ => ?_) handled
    rw [Arrival.share, Series.isRequestOf_request]
    simp [Metric.series, Series.isRequestOf]
  have decisions : counters.total "lap_auth_decisions_total" =
      0 + arrivals.countP fun arrival =>
        decide (arrival.kind ∈ Gateway.decidingKinds) := by
    refine sum_of_handleAll? _ _ (fun arrival status mounts _ => ?_) handled
    simp [Arrival.share, Metric.series]
  have signIns : counters.total "lap_sign_in_total" =
      0 + arrivals.countP Arrival.triesToSignIn := by
    refine sum_of_handleAll? _ _ (fun arrival status mounts _ => ?_) handled
    simp [Arrival.share, Metric.series]
  have statuses : ∀ kind status, counters.sum (· == (Metric.request kind status).series) =
      0 + arrivals.countP fun arrival =>
        arrival.kind == kind && arrival.status? == some status := by
    intro kind status
    refine sum_of_handleAll? _ _ (fun arrival own mounts isStatus => ?_) handled
    rw [isStatus]
    simp [Arrival.share, Metric.series, RequestKind.name_inj, Text.Decimal.natural_inj]
  have taken :
      ∀ decision : Decision, counters.sum (· == (Metric.decision decision).series) =
      0 + arrivals.countP fun arrival =>
        decide (arrival.kind ∈ Gateway.decidingKinds) &&
          arrival.decision.name == decision.name := by
    intro decision
    refine sum_of_handleAll? _ _ (fun arrival status mounts _ => ?_) handled
    simp [Arrival.share, Metric.series]
  have answers : ∀ arrival ∈ arrivals, ∃ answer,
      arrival.gateway.answer? arrival.around arrival.identified = some answer ∧
        arrival.status? = some answer.response.status := by
    intro arrival present
    obtain ⟨served, isServed⟩ := exists_serve?_of_mem handled present
    obtain ⟨answer, answered, -, isStatus⟩ := Arrival.exists_answer_of_serve? isServed
    exact ⟨answer, answered, isStatus⟩
  simp only [Nat.zero_add] at requests parts decisions signIns statuses taken
  refine ⟨by simpa using requests, decisions.trans (parts _).symm, signIns, parts,
    statuses, taken, ?_, ?_, ?_, ?_⟩
  · intro arrival present proxied rejected
    obtain ⟨answer, answered, isStatus⟩ := answers arrival present
    rw [isStatus, Gateway.status_of_rejected proxied rejected answered]
  · intro arrival present proxied failed
    obtain ⟨answer, answered, isStatus⟩ := answers arrival present
    rw [isStatus, Gateway.status_of_failed proxied failed answered]
  · intro arrival present
    obtain ⟨answer, answered, isStatus⟩ := answers arrival present
    refine ⟨?_, fun outcome proxied failed => ?_⟩
    · rw [isStatus, Arrival.statusFor?, Arrival.outcome, Gateway.observe_authenticate,
        answered]
      rfl
    · rw [Arrival.statusFor?, Gateway.observe_of_failed _ _ _ outcome proxied failed]
      rfl
  · intro arrival present isAuth
    obtain ⟨answer, answered, isStatus⟩ := answers arrival present
    rw [isStatus, Option.some.injEq]
    exact Gateway.status_of_auth isAuth answered

/-- A request that arrives at `solitary`. -/
def atSolitary (request : Request) : Arrival :=
  ⟨Gateway.solitary, Gateway.nowhere, [], request⟩

/-- A user asks for a page and a decision without credentials, and then signs in. -/
def visit : List Arrival :=
  [atSolitary (Gateway.mailRequest []),
    atSolitary ⟨"GET", ⟨none, none, "/oauth2/auth"⟩, Headers.empty, [], none⟩,
    atSolitary Gateway.signInRequest]

/-- After the visit the counters show three requests, two decisions and one attempt to
sign in. -/
theorem visit_is_counted :
    ∃ counters, handleAll? [] visit = some counters ∧ Conserves visit counters ∧
      counters.total "lap_requests_total" = 3 ∧
      counters.total "lap_auth_decisions_total" = 2 ∧
      counters.total "lap_sign_in_total" = 1 := by
  have completed : (handleAll? [] visit).isSome = true := by decide +kernel
  obtain ⟨counters, handled⟩ := Option.isSome_iff_exists.mp completed
  have conserved := counters_are_conserved handled
  refine ⟨counters, handled, conserved, conserved.requests, ?_, ?_⟩
  · rw [conserved.decisions, conserved.parts]
    decide
  · rw [conserved.signIns]
    decide +kernel

end Counters
end Gatehouse
