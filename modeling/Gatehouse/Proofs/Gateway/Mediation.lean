import Gatehouse.Gateway.Dispatch
import Gatehouse.Proofs.Http.Cookies
import Mathlib.Tactic.Common

/-!
# Who reaches a mount

The router is entered for a request at most once: if the request passes without a
decision, or if no part of the proxy itself answers it and the decision about it is to
accept. Whatever the other requests are, no backend has an influence on their answers,
nobody may keep these, and the session cookies they carry are those of a sign-in and of
the decision. All of this holds for every outcome of the decision, so that it does not
depend on how decisions are made.

There is one way for a request to get no answer: a cookie of the answer would end, or
begin, outside the calendar.
-/

namespace Gatehouse

open Headers

/-- Whether a response forbids keeping it. -/
def Response.IsUncached (response : Response) : Prop :=
  response.headers.getAll "expires" = [Text.Utf8.encode "Thu, 01 Jan 1970 00:00:00 UTC"] ∧
    response.headers.getAll "cache-control" =
      [Text.Utf8.encode "no-cache, no-store, must-revalidate, max-age=0"] ∧
    response.headers.getAll "x-accel-expires" = [Text.Utf8.encode "0"]

namespace Response

theorem isUncached_uncached (response : Response) : response.uncached.IsUncached := by
  unfold IsUncached uncached withoutCaching
  refine ⟨?_, ?_, ?_⟩
  · rw [getAll_insertText_other _ _ (by decide), getAll_insertText_other _ _ (by decide),
      getAll_insertText_self]
  · rw [getAll_insertText_other _ _ (by decide), getAll_insertText_self]
  · rw [getAll_insertText_self]

theorem cookies_uncached (response : Response) :
    response.uncached.headers.getAll "set-cookie" =
      response.headers.getAll "set-cookie" := by
  unfold uncached withoutCaching
  rw [getAll_insertText_other _ _ (by decide), getAll_insertText_other _ _ (by decide),
    getAll_insertText_other _ _ (by decide)]

theorem cookies_ofText (status : Nat) (text : String) :
    (ofText status text).headers.getAll "set-cookie" = [] := by
  unfold ofText
  rw [getAll_insertText_other _ _ (by decide), getAll_empty]

theorem cookies_ofPage (status : Nat) (page : String) :
    (ofPage status page).headers.getAll "set-cookie" = [] := by
  unfold ofPage insertText
  rw [getAll_insertText_other _ _ (by decide), cookies_ofText]

theorem cookies_redirect (status : Nat) (location : String) :
    (redirect status location).headers.getAll "set-cookie" = [] := by
  unfold redirect
  rw [getAll_insert_other _ _ (by decide), getAll_empty]

end Response

/-- The cookies that a mount has set. -/
def relayedCookies (delivery : Option Delivery) : List Bytes :=
  (delivery.map fun delivered => delivered.response.headers.getAll "set-cookie").getD []

namespace Gateway

variable (gateway : Gateway)
variable (around : Surroundings)
variable (request : Request)
variable (outcome : Outcome)

/-- A response with the cookies of effects. -/
def withCookies? (effects : List CookieEffect) (response : Response) : Option Response :=
  (gateway.cookies.applyAll? effects request.host? around.now response.headers).map
    fun headers => { response with headers }

/-- What holds of an answer that follows a delivery, or none, with the cookies of
effects. -/
structure Settles
    (effects : List CookieEffect)
    (delivery : Option Delivery)
    (answer? : Option Answer) : Prop where
  /-- There is an answer exactly if all cookies can be dated. -/
  answers :
    answer?.isSome = true ↔ ∀ effect ∈ effects, gateway.cookies.Datable around.now effect
  /-- The answer tells of the delivery. -/
  delivers : ∀ answer, answer? = some answer → answer.delivery = delivery
  /-- The cookies of the answer are those of the mount and those of the effects. -/
  cookies : ∀ answer, answer? = some answer →
    answer.response.headers.getAll "set-cookie" =
      relayedCookies delivery ++
        effects.filterMap (gateway.cookies.field? request.host? around.now)
  /-- Nobody may keep an answer that does not come from a mount. -/
  uncached : delivery = none → ∀ answer,
    answer? = some answer → answer.response.IsUncached

/-- What is made from a response with cookies is an answer with these cookies. -/
theorem settles_withCookies?
    {effects : List CookieEffect}
    {delivery : Option Delivery}
    {base : Response}
    {finish : Response → Answer}
    (earlier : base.headers.getAll "set-cookie" = relayedCookies delivery)
    (delivers : ∀ response, (finish response).delivery = delivery)
    (cookies : ∀ response,
      (finish response).response.headers.getAll "set-cookie" =
        response.headers.getAll "set-cookie")
    (uncached : delivery = none → ∀ response, (finish response).response.IsUncached) :
    gateway.Settles around request effects delivery
      ((gateway.withCookies? around request effects base).map finish) where
  answers := by
    unfold withCookies?
    rw [Option.isSome_map, Option.isSome_map]
    exact gateway.cookies.isSome_applyAll?_iff _ _ _ _
  delivers := by
    intro answer isAnswer
    obtain ⟨response, -, rfl⟩ := Option.map_eq_some_iff.mp isAnswer
    exact delivers response
  cookies := by
    intro answer isAnswer
    obtain ⟨response, isResponse, rfl⟩ := Option.map_eq_some_iff.mp isAnswer
    obtain ⟨headers, applied, rfl⟩ := Option.map_eq_some_iff.mp isResponse
    rw [cookies, ← earlier]
    exact (gateway.cookies.getAll_applyAll? _ _ applied).1
  uncached := by
    intro undelivered answer isAnswer
    obtain ⟨response, -, rfl⟩ := Option.map_eq_some_iff.mp isAnswer
    exact uncached undelivered response

/-- A response without cookies of its own, which nobody may keep. -/
theorem settles_uncached
    {effects : List CookieEffect}
    {base : Response}
    {finish : Response → Answer}
    (plain : base.headers.getAll "set-cookie" = [])
    (delivers : ∀ response, (finish response).delivery = none)
    (uncached : ∀ response, (finish response).response = response.uncached) :
    gateway.Settles around request effects none
      ((gateway.withCookies? around request effects base).map finish) := by
  apply gateway.settles_withCookies? around request plain delivers
  · intro response
    rw [uncached, Response.cookies_uncached]
  · intro _ response
    rw [uncached]
    exact response.isUncached_uncached

theorem signInPage?_eq (status : Nat) (destination : String) (failed : Bool) :
    gateway.signInPage? around request status destination failed =
      gateway.withCookies? around request [.clear]
        (Response.ofPage status (gateway.pages.signIn destination failed)) := by
  unfold signInPage? withCookies? CookieSettings.applyAll? CookieSettings.cookieOf?
  simp only [List.foldlM_cons, List.foldlM_nil]
  cases gateway.cookies.clearedCookie? request.host? around.now <;> rfl

/-- The response that begins a session is a redirection with the session cookie. -/
theorem welcome?_eq (session : Session) (destination : String) :
    gateway.welcome? around request session destination =
      gateway.withCookies? around request
        [.set (gateway.engine.sealer.issue around.nonce session around.now)]
        (Response.redirect 302 destination) := by
  unfold welcome? withCookies? CookieSettings.applyAll? CookieSettings.cookieOf?
  simp only [List.foldlM_cons, List.foldlM_nil]
  cases gateway.cookies.sessionCookie?
    (gateway.engine.sealer.issue around.nonce session around.now) request.host?
      around.now <;> rfl

/-- The session that a request begins: it posts a user and a password that are right. -/
def signedIn? : Option Session :=
  let form := SignInForm.ofRequest request
  if request.method = "POST" ∧ form.user ≠ "" then
    match (gateway.signIn.attempt form.user form.password).outcome with
    | .authenticated session => some session
    | _ => none
  else none

/-- The cookies that the proxy sets itself, in order. -/
def cookieEffects : List CookieEffect :=
  match gateway.kindOf request with
  | .signIn =>
      match gateway.signedIn? request with
      | some session =>
          [.set (gateway.engine.sealer.issue around.nonce session around.now)]
      | none => [.clear]
  | .signOut => [.clear]
  | .auth => outcome.effects
  | .proxy =>
      match outcome.decision with
      | .accept _ => outcome.effects
      | .reject => [.clear]
      | .internalError => []
  | _ => []

/-- The request with which the router is entered, if it is. -/
def handed? : Option Request :=
  match gateway.kindOf request with
  | .bypass => some { request with headers := IdentityHeaders.strip request.headers }
  | .proxy =>
      match outcome.decision with
      | .accept session => some (gateway.identified session request)
      | _ => none
  | _ => none

/-- Whether a request may reach a mount: it is for no fixed text, and passes, or is
accepted and not the proxy's own. -/
def Passes : Prop :=
  request.path ≠ robotsPath ∧ request.path ≠ pingPath ∧
    (gateway.whitelist.bypasses request.method request.path request.headers
        request.peer = true ∨
      (request.path ≠ gateway.paths.signIn ∧ request.path ≠ gateway.paths.signOut ∧
        request.path ≠ gateway.paths.auth ∧ outcome.isAccepted = true))

/-- The sign-in part answers with the page, or begins a session. -/
theorem settles_signInAnswer? (isSignIn : gateway.kindOf request = .signIn) :
    gateway.Settles around request (gateway.cookieEffects around request outcome) none
      ((gateway.signInAnswer? around request).map .uncached) := by
  unfold cookieEffects signedIn? signInAnswer?
  rw [isSignIn]
  simp only
  by_cases posted : request.method = "POST" ∧ (SignInForm.ofRequest request).user ≠ ""
  · rw [if_pos posted, if_neg (by simpa using posted)]
    cases attempted : (gateway.signIn.attempt (SignInForm.ofRequest request).user
        (SignInForm.ofRequest request).password).outcome with
    | authenticated session =>
        simp only [welcome?_eq, Option.map_map]
        exact gateway.settles_uncached around request (Response.cookies_redirect _ _)
          (fun _ => rfl) (fun _ => rfl)
    | failed =>
        simp only [signInPage?_eq, Option.map_map]
        exact gateway.settles_uncached around request (Response.cookies_ofPage _ _)
          (fun _ => rfl) (fun _ => rfl)
    | denied =>
        simp only [signInPage?_eq, Option.map_map]
        exact gateway.settles_uncached around request (Response.cookies_ofPage _ _)
          (fun _ => rfl) (fun _ => rfl)
  · have shown :
        (request.method != "POST" || (SignInForm.ofRequest request).user == "") =
          true := by
      by_contra unshown
      exact posted (by simpa using unshown)
    rw [if_neg posted, if_pos shown]
    simp only [signInPage?_eq, Option.map_map]
    exact gateway.settles_uncached around request (Response.cookies_ofPage _ _)
      (fun _ => rfl) (fun _ => rfl)

/-- The sign-out part answers with a redirection that clears the session. -/
theorem settles_signOutAnswer? :
    gateway.Settles around request [.clear] none
      ((gateway.signOutAnswer? around request).map .uncached) := by
  have shape : gateway.signOutAnswer? around request =
      (gateway.withCookies? around request [.clear] (Response.redirect 307 "/")).map
        .ofResponse := by
    unfold signOutAnswer? withCookies? CookieSettings.applyAll? CookieSettings.cookieOf?
    simp only [List.foldlM_cons, List.foldlM_nil]
    cases gateway.cookies.clearedCookie? request.host? around.now <;> rfl
  rw [shape, Option.map_map]
  exact gateway.settles_uncached around request (Response.cookies_redirect _ _)
    (fun _ => rfl) (fun _ => rfl)

/-- The fields that tell the client who it is set no cookie. -/
theorem cookies_intoResponse (session : Session) (options : IdentityHeaders.Options)
    (response : Headers) :
    (IdentityHeaders.intoResponse session options response).getAll "set-cookie" =
      response.getAll "set-cookie" := by
  unfold IdentityHeaders.intoResponse
  simp only
  rw [getAll_setOrRemove_other _ _ (by decide)]
  split
  · rw [getAll_setOrRemove_other _ _ (by decide),
      getAll_setOrRemove_other _ _ (by decide)]
  · rfl

theorem cookies_withIdentity (session : Session) (response : Response) :
    (gateway.withIdentity session response).headers.getAll "set-cookie" =
      response.headers.getAll "set-cookie" := by
  have foreign : ∀ field ∈ (IdentityHeaders.intoResponse session gateway.identity
      Headers.empty).fields, "set-cookie" ≠ field.1 :=
    ne_of_getAll_eq_nil (cookies_intoResponse session gateway.identity Headers.empty)
  exact getAll_foldl_insert_other _ foreign _

/-- The bare decision is answered with the cookies of the outcome. -/
theorem settles_authAnswer? :
    gateway.Settles around request outcome.effects none
      ((gateway.authAnswer? around request outcome).map .uncached) := by
  have answered : ∀ base : Response,
      ((gateway.withEffects? around request outcome base).bind fun final =>
          some (⟨final, some outcome.decision, none, none⟩ : Answer)).map
            Answer.uncached =
        (gateway.withCookies? around request outcome.effects base).map fun final =>
          (⟨final.uncached, some outcome.decision, none, none⟩ : Answer) := by
    intro base
    unfold withEffects? withCookies?
    cases gateway.cookies.applyAll? outcome.effects request.host? around.now
      base.headers <;> rfl
  have refused :
      (Response.ofText 401 "unauthorized request").headers.getAll "set-cookie" = [] :=
    Response.cookies_ofText _ _
  unfold authAnswer?
  simp only [Option.bind_eq_bind, answered]
  refine gateway.settles_uncached around request ?_ (fun _ => rfl) (fun _ => rfl)
  cases outcome.decision with
  | accept session => exact cookies_intoResponse session gateway.identity Headers.empty
  | reject => exact refused
  | internalError => exact refused

theorem settles_refusal? (decision : Decision) :
    gateway.Settles around request [.clear] none
      (gateway.refusal? around request decision) := by
  unfold refusal?
  rw [signInPage?_eq]
  exact gateway.settles_uncached around request (Response.cookies_ofPage _ _)
    (fun _ => rfl) (fun _ => rfl)

/-- An accepted request is answered with the cookies of the mount and those of the
outcome. -/
theorem settles_acceptance? (session : Session) (delivery : Delivery) :
    gateway.Settles around request outcome.effects (some delivery)
      (gateway.acceptance? around request outcome session delivery) := by
  have shape : gateway.acceptance? around request outcome session delivery =
      (gateway.withCookies? around request outcome.effects
        (gateway.withIdentity session delivery.response)).map fun response =>
          ⟨response, some outcome.decision, none, some delivery⟩ := by
    unfold acceptance? withEffects? withCookies?
    cases gateway.cookies.applyAll? outcome.effects request.host? around.now
      (gateway.withIdentity session delivery.response).headers <;> rfl
  rw [shape]
  refine gateway.settles_withCookies? around request ?_ (fun _ => rfl) (fun _ => rfl) ?_
  · exact gateway.cookies_withIdentity session delivery.response
  · intro undelivered
    cases undelivered

/-- An answer that is there without further ado sets no cookie of its own. -/
theorem settles_some
    (answer : Answer)
    (cookies : answer.response.headers.getAll "set-cookie" =
      relayedCookies answer.delivery)
    (uncached : answer.delivery = none → answer.response.IsUncached) :
    gateway.Settles around request [] answer.delivery (some answer) where
  answers := by simp
  delivers := by
    rintro _ ⟨⟩
    rfl
  cookies := by
    rintro _ ⟨⟩
    simpa using cookies
  uncached := by
    rintro undelivered _ ⟨⟩
    exact uncached undelivered

/-- A response that nobody may keep and that sets no cookie. -/
theorem settles_some_uncached
    {response : Response}
    (plain : response.headers.getAll "set-cookie" = [])
    (decision : Option Decision) :
    gateway.Settles around request [] none
      (some ⟨response.uncached, decision, none, none⟩) := by
  refine gateway.settles_some around request ⟨response.uncached, decision, none, none⟩ ?_
    fun _ => response.isUncached_uncached
  change response.uncached.headers.getAll "set-cookie" = []
  rw [Response.cookies_uncached, plain]

/-- Enter the router for a request, and write the request down. -/
def enterRecorded (delivered : Request) : StateM (List Request) Delivery := do
  modify (· ++ [delivered])
  return gateway.deliver around delivered

/-- The answer for an outcome, and the requests for which the router is entered. -/
def observe : Option Answer × List Request :=
  Id.run ((answerBy (gateway.enterRecorded around) gateway around request outcome).run [])

/-- The router is entered once for the handed request, if any. -/
theorem observe_eq :
    (gateway.observe around request outcome).2 =
      (gateway.handed? request outcome).toList ∧
      gateway.Settles around request (gateway.cookieEffects around request outcome)
        ((gateway.handed? request outcome).map (gateway.deliver around))
        (gateway.observe around request outcome).1 := by
  unfold observe handed? answerBy
  cases kind : gateway.kindOf request with
  | robots =>
      refine ⟨rfl, ?_⟩
      unfold cookieEffects
      rw [kind]
      exact gateway.settles_some_uncached around request
        (Response.cookies_ofText _ _) none
  | ping =>
      refine ⟨rfl, ?_⟩
      unfold cookieEffects
      rw [kind]
      exact gateway.settles_some_uncached around request
        (Response.cookies_ofText _ _) none
  | bypass =>
      refine ⟨rfl, ?_⟩
      unfold cookieEffects
      rw [kind]
      exact gateway.settles_some around request (Answer.ofDelivery _) rfl nofun
  | signIn => exact ⟨rfl, gateway.settles_signInAnswer? around request outcome kind⟩
  | signOut =>
      refine ⟨rfl, ?_⟩
      unfold cookieEffects
      rw [kind]
      exact gateway.settles_signOutAnswer? around request
  | auth =>
      refine ⟨rfl, ?_⟩
      unfold cookieEffects
      rw [kind]
      exact gateway.settles_authAnswer? around request outcome
  | proxy =>
      unfold cookieEffects proxyAnswerBy
      rw [kind]
      cases decided : outcome.decision with
      | accept session =>
          exact ⟨rfl, gateway.settles_acceptance? around request outcome session _⟩
      | reject => exact ⟨rfl, gateway.settles_refusal? around request _⟩
      | internalError =>
          exact ⟨rfl, gateway.settles_some_uncached around request
            (Response.cookies_ofPage _ _) _⟩

/-- The requests that pass without a decision. -/
theorem kindOf_eq_bypass_iff :
    gateway.kindOf request = .bypass ↔
      request.path ≠ robotsPath ∧ request.path ≠ pingPath ∧
        gateway.whitelist.bypasses request.method request.path request.headers
          request.peer = true := by
  unfold kindOf
  simp only
  split_ifs <;> simp only [true_iff, false_iff] <;> tauto

/-- The requests that are delivered if they are accepted. -/
theorem kindOf_eq_proxy_iff :
    gateway.kindOf request = .proxy ↔
      request.path ≠ robotsPath ∧ request.path ≠ pingPath ∧
        gateway.whitelist.bypasses request.method request.path request.headers
          request.peer ≠ true ∧
        request.path ≠ gateway.paths.signIn ∧ request.path ≠ gateway.paths.signOut ∧
          request.path ≠ gateway.paths.auth := by
  unfold kindOf
  simp only
  split_ifs <;> simp only [true_iff, false_iff] <;> tauto

/-- A request is handed on exactly if it passes without a decision, or is accepted. -/
theorem isSome_handed?_iff_kindOf :
    (gateway.handed? request outcome).isSome = true ↔
      gateway.kindOf request = .bypass ∨
        (gateway.kindOf request = .proxy ∧ outcome.isAccepted = true) := by
  unfold handed? Outcome.isAccepted
  cases gateway.kindOf request with
  | proxy => cases outcome.decision <;> simp
  | _ => simp

/-- The request that is handed to the router is one that may reach a mount. -/
theorem isSome_handed?_iff :
    (gateway.handed? request outcome).isSome = true ↔ gateway.Passes request outcome := by
  rw [isSome_handed?_iff_kindOf, kindOf_eq_bypass_iff, kindOf_eq_proxy_iff]
  unfold Passes
  tauto

/-- What is observed is the answer for the outcome of the engine's decision. -/
theorem observe_authenticate :
    (gateway.observe around request (gateway.authenticate around request)).1 =
      gateway.answer? around request := by
  unfold observe answer? answerBy
  cases gateway.kindOf request with
  | proxy =>
      unfold proxyAnswerBy
      cases (gateway.authenticate around request).decision <;> rfl
  | _ => rfl

/-- A backend that is not asked has no influence on a delivery. -/
theorem deliver_congr
    {backends : Backends}
    (agree : ∀ outbound, (gateway.deliver around request).sent = some outbound →
      backends outbound = around.backends outbound) :
    gateway.deliver { around with backends } request =
      gateway.deliver around request := by
  unfold deliver Router.deliver at *
  cases routed : gateway.router.route? request.path with
  | none => rfl
  | some route =>
      rw [routed] at agree
      simp only at agree ⊢
      cases mounted : route.target with
      | files server => rfl
      | proxy proxy =>
          rw [mounted] at agree
          simp only at agree ⊢
          unfold ReverseProxy.forward at agree ⊢
          cases sent : proxy.outbound? gateway.router.options (peerAddress request)
            request with
          | none => rfl
          | some outbound =>
              rw [sent] at agree
              simp only at agree ⊢
              rw [agree outbound rfl]

/-- Backends influence what is observed only by their answers to what is sent to them. -/
theorem observe_congr
    {backends : Backends}
    (agree : ∀ delivered, gateway.handed? request outcome = some delivered →
      ∀ outbound, (gateway.deliver around delivered).sent = some outbound →
        backends outbound = around.backends outbound) :
    gateway.observe { around with backends } request outcome =
      gateway.observe around request outcome := by
  unfold handed? at agree
  unfold observe answerBy
  cases kind : gateway.kindOf request with
  | bypass =>
      rw [kind] at agree
      change (some (Answer.ofDelivery _), [_]) = (some (Answer.ofDelivery _), [_])
      rw [gateway.deliver_congr around _ (agree _ rfl)]
  | proxy =>
      rw [kind] at agree
      unfold proxyAnswerBy
      cases decided : outcome.decision with
      | accept session =>
          rw [decided] at agree
          change (gateway.acceptance? around request outcome session _, [_]) =
            (gateway.acceptance? around request outcome session _, [_])
          rw [gateway.deliver_congr around _ (agree _ rfl)]
      | reject => rfl
      | internalError => rfl
  | _ => rfl

/-- A cookie that is not empty begins a session, or is one of the outcome. -/
theorem cookieEffects_nonempty
    {effect : CookieEffect}
    (present : effect ∈ gateway.cookieEffects around request outcome)
    (nonempty : effect.value ≠ "") :
    (gateway.kindOf request = .signIn ∧ request.method = "POST" ∧
        ∃ session, gateway.signedIn? request = some session ∧
          effect = .set (gateway.engine.sealer.issue around.nonce session around.now)) ∨
      effect ∈ outcome.effects := by
  have notCleared : effect ∉ [CookieEffect.clear] := by
    rintro isClear
    rw [List.mem_singleton.mp isClear] at nonempty
    exact nonempty rfl
  unfold cookieEffects at present
  split at present
  · rename_i isSignIn
    split at present
    · rename_i session begun
      have posted : request.method = "POST" := by
        unfold signedIn? at begun
        simp only at begun
        split at begun
        · rename_i posted
          exact posted.1
        · cases begun
      exact Or.inl ⟨isSignIn, posted, session, begun, List.mem_singleton.mp present⟩
    · exact absurd present notCleared
  · exact absurd present notCleared
  · exact Or.inr present
  · split at present
    · exact Or.inr present
    · exact absurd present notCleared
    · cases present
  · cases present

/-- The sign-in page has the status that it is asked for. -/
theorem status_of_refusal?
    {decision : Decision}
    {answer : Answer}
    (refused : gateway.refusal? around request decision = some answer) :
    answer.response.status = 403 := by
  obtain ⟨response, isPage, rfl⟩ := Option.map_eq_some_iff.mp refused
  rw [signInPage?_eq] at isPage
  obtain ⟨headers, -, rfl⟩ := Option.map_eq_some_iff.mp isPage
  rfl

/-- A request that is rejected before a mount is answered with the sign-in page. -/
theorem observe_of_rejected
    (proxied : gateway.kindOf request = .proxy)
    (rejected : outcome.decision = .reject) :
    (gateway.observe around request outcome).1 =
        gateway.refusal? around request outcome.decision ∧
      gateway.handed? request outcome = none ∧
      gateway.cookieEffects around request outcome = [.clear] := by
  unfold observe answerBy handed? cookieEffects
  rw [proxied]
  unfold proxyAnswerBy
  rw [rejected]
  exact ⟨rfl, rfl, rfl⟩

/-- A request whose decision has failed is answered with an error. -/
theorem observe_of_failed
    (proxied : gateway.kindOf request = .proxy)
    (failed : outcome.decision = .internalError) :
    (gateway.observe around request outcome).1 =
      some (gateway.internalErrorAnswer outcome.decision) := by
  unfold observe answerBy
  rw [proxied]
  unfold proxyAnswerBy
  rw [failed]
  rfl

/-- Complete mediation, for every outcome of the decision. The router is entered at most
once, and exactly if the request passes; backends have an influence only by their
answers. There is an answer exactly if its cookies can be dated. Answers that do not
come from a mount may not be kept, and every session cookie is one of a sign-in or of
the outcome. A rejected request is answered with the status 403 and a cleared session,
and one whose decision has failed with the status 500. -/
theorem completely_mediated
    {text : String}
    (nameIsText : IsText gateway.cookies.name)
    (domainIsText : ∀ domain, gateway.cookies.domain = some domain → IsText domain)
    (read : RequestTarget.ofText? text = some request.target) :
    let observed := gateway.observe around request outcome
    (outcome = gateway.engine.authenticate around.nonce
          ⟨gateway.cookies.read request.headers,
            request.headers.nonEmptyText? "authorization"⟩
          around.now →
        observed.1 = gateway.answer? around request) ∧
      observed.2.length ≤ 1 ∧
      (observed.2 ≠ [] ↔ gateway.Passes request outcome) ∧
      (∀ backends : Backends,
        (∀ delivered ∈ observed.2, ∀ outbound,
          (gateway.deliver around delivered).sent = some outbound →
            backends outbound = around.backends outbound) →
        gateway.observe { around with backends } request outcome = observed) ∧
      (observed.1.isSome = true ↔
        ∀ effect ∈ gateway.cookieEffects around request outcome,
          gateway.cookies.Datable around.now effect) ∧
      (∀ effect ∈ gateway.cookieEffects around request outcome, effect.value ≠ "" →
        (gateway.kindOf request = .signIn ∧ request.method = "POST" ∧
            ∃ session, gateway.signedIn? request = some session ∧
              effect = .set
                (gateway.engine.sealer.issue around.nonce session around.now)) ∨
          effect ∈ outcome.effects) ∧
      ∀ answer, observed.1 = some answer →
        answer.delivery = observed.2.head?.map (gateway.deliver around) ∧
        (¬ gateway.Passes request outcome → answer.response.IsUncached) ∧
        answer.response.headers.getAll "set-cookie" =
          relayedCookies answer.delivery ++
            (gateway.cookieEffects around request outcome).filterMap
              (gateway.cookies.field? request.host? around.now) ∧
        (gateway.kindOf request = .proxy → outcome.decision = .reject →
          answer.response.status = 403 ∧
            ∃ cookie, gateway.cookies.clearedCookie? request.host? around.now =
              some cookie ∧
              cookie.name = gateway.cookies.name ∧ cookie.value = "" ∧
              cookie.expires = around.now - 3600 ∧
              answer.response.headers.getAll "set-cookie" =
                [Text.Utf8.encode cookie.text]) ∧
        (gateway.kindOf request = .proxy → outcome.decision = .internalError →
          answer.response.status = 500 ∧
          answer.response.headers.getAll "set-cookie" = []) := by
  intro observed
  obtain ⟨entered, settles⟩ := gateway.observe_eq around request outcome
  have passes_iff := gateway.isSome_handed?_iff request outcome
  refine ⟨?_, ?_, ?_, ?_, settles.answers, ?_, ?_⟩
  · rintro rfl
    exact gateway.observe_authenticate around request
  · rw [show observed.2 = _ from entered]
    cases gateway.handed? request outcome <;> simp
  · rw [← passes_iff, show observed.2 = _ from entered]
    cases gateway.handed? request outcome <;> simp
  · intro backends agree
    refine gateway.observe_congr around request outcome fun delivered handed =>
      agree delivered ?_
    rw [show observed.2 = _ from entered, handed]
    exact List.mem_singleton_self _
  · intro effect present nonempty
    exact gateway.cookieEffects_nonempty around request outcome present nonempty
  · intro answer answered
    have delivery := settles.delivers answer answered
    have cookies := settles.cookies answer answered
    rw [← delivery] at cookies
    refine ⟨?_, ?_, cookies, ?_, ?_⟩
    · rw [delivery, show observed.2 = _ from entered]
      cases gateway.handed? request outcome <;> rfl
    · intro refused
      refine settles.uncached ?_ answer answered
      rw [← passes_iff, Option.not_isSome_iff_eq_none] at refused
      rw [refused, Option.map_none]
    · intro proxied rejected
      obtain ⟨refused, unhanded, effects⟩ :=
        gateway.observe_of_rejected around request outcome proxied rejected
      have datable : gateway.cookies.Datable around.now .clear := by
        have answers := settles.answers.mp (Option.isSome_of_eq_some answered)
        rw [effects] at answers
        exact answers _ (List.mem_singleton_self _)
      obtain ⟨cookie, isCookie, isName, isEmpty, isEnd, isField⟩ :=
        gateway.cookies.clearedCookie?_of_datable request.host? around.now
          nameIsText domainIsText
          (fun host isHost => Request.visible_of_host? read isHost) datable
      refine ⟨gateway.status_of_refusal? around request (refused.symm.trans answered),
        cookie, isCookie, isName, isEmpty, isEnd, ?_⟩
      rw [cookies, delivery, unhanded, effects, List.filterMap_cons, isField]
      rfl
    · intro proxied failed
      have isAnswer :=
        (gateway.observe_of_failed around request outcome proxied failed).symm.trans
          answered
      rw [← Option.some.inj isAnswer]
      refine ⟨rfl, ?_⟩
      exact (Response.cookies_uncached _).trans (Response.cookies_ofPage _ _)

/-- A proxy with one backend, and one user with a password and no address. -/
def solitary : Gateway where
  paths := SystemPaths.under "/oauth2"
  engine :=
    { sealer := ⟨"_lap", ⟨Text.Utf8.encode "key", .sha256⟩, none⟩
      lifetime := ⟨604800, 0⟩
      refresher := neverRefresh
      validator := alwaysValid
      admits := fun _ => true
      basic :=
        some ⟨[("alice", .digest (Crypto.Sha1.digest (Text.Utf8.encode "secret")))]⟩ }
  signIn :=
    ⟨some ⟨[("alice", .digest (Crypto.Sha1.digest (Text.Utf8.encode "secret")))]⟩,
      none, ⟨[]⟩⟩
  whitelist := ⟨[], [], false, ⟨none, none⟩⟩
  router :=
    ⟨[⟨.subtree "/", .proxy ⟨"http://backend", "backend", true⟩⟩], ⟨none, 1024⟩⟩
  cookies := ⟨"_lap", none, true, true, 604800⟩
  identity := ⟨false, "", true, false⟩
  pages := ⟨"/oauth2", "", ""⟩

/-- A place without a network and without files, in the year 2023. -/
def nowhere : Surroundings :=
  ⟨1700000000, Vector.replicate 12 0, Backends.unreachable, fun _ => none⟩

/-- A request for a page of the backend of `solitary`. -/
def mailRequest (fields : List (String × Bytes)) : Request :=
  ⟨"GET", ⟨none, none, "/mail"⟩, ⟨fields⟩, [], none⟩

/-- The request in which the user of `solitary` signs in. -/
def signInRequest : Request :=
  ⟨"POST", ⟨none, none, "/oauth2/sign_in"⟩,
    ⟨[("content-type", Text.Utf8.encode "application/x-www-form-urlencoded")]⟩,
    Text.Utf8.encode "username=alice&password=secret", none⟩

/-- Without credentials, the backend of `solitary` is not reached. -/
theorem solitary_mediates :
    let request := mailRequest []
    let observed :=
      solitary.observe nowhere request (solitary.authenticate nowhere request)
    observed.2 = [] ∧
      ∃ answer, observed.1 = some answer ∧ answer.response.status = 403 ∧
        answer.response.IsUncached := by
  intro request observed
  have proxied : solitary.kindOf request = .proxy := by decide +kernel
  have rejected : (solitary.authenticate nowhere request).decision = .reject := by
    decide +kernel
  have datable : ∀ effect ∈ solitary.cookieEffects nowhere request
      (solitary.authenticate nowhere request),
      solitary.cookies.Datable nowhere.now effect := by
    rw [(solitary.observe_of_rejected nowhere request _ proxied rejected).2.2]
    intro effect present
    rw [List.mem_singleton.mp present]
    exact ⟨by decide, by decide⟩
  have refused : ¬ solitary.Passes request (solitary.authenticate nowhere request) := by
    rintro ⟨-, -, bypassed | ⟨-, -, -, accepted⟩⟩
    · exact absurd bypassed (by decide +kernel)
    · exact absurd accepted (by decide +kernel)
  obtain ⟨-, -, entered, -, answers, -, answered⟩ :=
    completely_mediated solitary nowhere request (solitary.authenticate nowhere request)
      (show IsText solitary.cookies.name by decide +kernel) nofun
      (show RequestTarget.ofText? "/mail" = some request.target by decide +kernel)
  have untouched : observed.2 = [] := by
    by_contra touched
    exact refused (entered.mp touched)
  obtain ⟨answer, isAnswer⟩ := Option.isSome_iff_exists.mp (answers.mpr datable)
  obtain ⟨-, uncached, -, refusal, -⟩ := answered answer isAnswer
  exact ⟨untouched, answer, isAnswer, (refusal proxied rejected).1, uncached refused⟩

/-- With a lifetime beyond the calendar, a successful sign-in gets no answer. -/
theorem endless_session_is_not_begun :
    let endless :=
      { solitary with cookies := { solitary.cookies with lifetime := 300000000000 } }
    endless.kindOf signInRequest = .signIn ∧
      endless.signedIn? signInRequest = some (Session.ofUser "alice") ∧
      endless.answer? nowhere signInRequest = none ∧
      (solitary.answer? nowhere signInRequest).map (·.response.status) = some 302 := by
  decide +kernel

end Gateway
end Gatehouse
