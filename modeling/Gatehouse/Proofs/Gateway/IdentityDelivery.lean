import Gatehouse.Proofs.Gateway.Mediation
import Gatehouse.Proofs.Routing.Forwarding
import Mathlib.Tactic.Common

/-!
# What a backend learns about the user

The fields that tell a backend who has signed in are written before a request is
forwarded, and forwarding removes the fields that the request declares to be for one
connection. The declaration comes from the client. A backend therefore receives the
identity of an accepted request exactly if the client has not listed the fields that carry
it; otherwise the request arrives, accepted and without them.
-/

namespace Gatehouse

namespace IdentityHeaders

variable (session : Session)
variable (options : Options)
variable (request : Headers)

/-- The names of the fields that are written into a request. -/
def requestNames : List String :=
  ["authorization", forwardedUser, forwardedEmail, trust]

theorem value?_eq_encode
    {text : String}
    (present : text ≠ "")
    (isText : (Headers.value? text).isSome = true) :
    value? text = some (Text.Utf8.encode text) := by
  unfold value?
  rw [if_neg present, Headers.value?_eq_encode isText]

theorem getAll_intoRequest_trust :
    (intoRequest session options request).getAll trust =
      (value? session.principal).toList := by
  unfold intoRequest
  exact Headers.getAll_setOrRemove_self _ _ _

/-- The user that is written is the only one. -/
theorem getAll_intoRequest_forwardedUser
    (passed : (options.passUserHeaders || options.passBasicAuth) = true) :
    (intoRequest session options request).getAll forwardedUser =
      (value? session.user).toList := by
  unfold intoRequest
  rw [Bool.or_comm] at passed
  rw [Headers.getAll_setOrRemove_other _ _ (by decide), if_pos passed,
    Headers.getAll_setOrRemove_other _ _ (by decide)]
  exact Headers.getAll_setOrRemove_self _ _ _

/-- Writing the credentials of a user leaves the other fields alone. -/
theorem getAll_withBasic
    {name : String}
    (different : name ≠ "authorization") :
    (if options.passBasicAuth then
      match value?
          (BasicCredentials.header ⟨session.user, options.basicAuthPassword⟩) with
      | some value => request.insert "authorization" value
      | none => request
    else request).getAll name = request.getAll name := by
  split
  · split
    · exact Headers.getAll_insert_other _ _ different
    · rfl
  · rfl

/-- Fields of other names are left alone. -/
theorem getAll_intoRequest_other
    {name : String}
    (unwritten : name ∉ requestNames) :
    (intoRequest session options request).getAll name = request.getAll name := by
  simp only [requestNames, List.mem_cons, List.not_mem_nil, or_false, not_or] at unwritten
  obtain ⟨notAuthorization, notUser, notEmail, notTrust⟩ := unwritten
  unfold intoRequest
  simp only
  rw [Headers.getAll_setOrRemove_other _ _ notTrust]
  split
  · rw [Headers.getAll_setOrRemove_other _ _ notEmail,
      Headers.getAll_setOrRemove_other _ _ notUser]
    exact getAll_withBasic session options request notAuthorization
  · exact getAll_withBasic session options request notAuthorization

theorem getAll_strip_other
    {name : String}
    (different : name ≠ trust) :
    (strip request).getAll name = request.getAll name :=
  Headers.getAll_remove_other _ different

end IdentityHeaders

namespace Gateway

variable (gateway : Gateway)
variable (around : Surroundings)
variable (request : Request)
variable (session : Session)

theorem connectionNames_identified :
    (gateway.identified session request).headers.connectionNames =
      request.headers.connectionNames := by
  apply Headers.connectionNames_congr
  unfold identified
  rw [IdentityHeaders.getAll_intoRequest_other _ _ _ (by decide),
    IdentityHeaders.getAll_strip_other _ (by decide)]

/-- An accepted request has the delivery of its identity in the answer. -/
theorem delivery_of_accepted
    {answer : Answer}
    (proxied : gateway.kindOf request = .proxy)
    (accepted : (gateway.authenticate around request).decision = .accept session)
    (answered : gateway.answer? around request = some answer) :
    answer.delivery = some (gateway.deliver around
      (gateway.identified session request)) := by
  simp only [answer?, answerBy, proxied, proxyAnswerBy, accepted] at answered
  obtain ⟨response, -, isAnswer⟩ := Option.bind_eq_some_iff.mp answered
  cases isAnswer
  rfl

/-- A field that may have been removed keeps its value exactly if it has not. -/
theorem kept_iff {value : Bytes} {listed : Prop} [Decidable listed] :
    (if listed then [] else [value]) = [value] ↔ ¬ listed := by
  by_cases isListed : listed
  · simp [isListed]
  · simp [isListed]

/-- An accepted request that is routed to a backend is sent to it. It carries the
principal, once and alone, exactly if the client has not listed that field for its
connection. The user is carried, if it is to be passed on, exactly if the client has not
listed its field and it is not empty. -/
theorem identity_is_delivered_iff
    {route : Route}
    {proxy : ReverseProxy}
    (proxied : gateway.kindOf request = .proxy)
    (accepted : (gateway.authenticate around request).decision = .accept session)
    (routed : gateway.router.route? request.path = some route)
    (toBackend : route.target = .proxy proxy)
    (withinLimit : request.body.length ≤ gateway.router.options.maxBodySize)
    (named : session.principal ≠ "")
    (principalIsText : (Headers.value? session.principal).isSome = true) :
    ∃ outbound,
      (gateway.deliver around (gateway.identified session request)).sent = some outbound ∧
      (∀ answer, gateway.answer? around request = some answer →
        answer.delivery.bind (·.sent) = some outbound) ∧
      (outbound.headers.getAll IdentityHeaders.trust =
        [Text.Utf8.encode session.principal] ↔
        IdentityHeaders.trust ∉ request.headers.connectionNames) ∧
      (IdentityHeaders.trust ∈ request.headers.connectionNames →
        outbound.headers.getAll IdentityHeaders.trust = []) ∧
      ((gateway.identity.passUserHeaders || gateway.identity.passBasicAuth) = true →
        (Headers.value? session.user).isSome = true →
        (outbound.headers.getAll IdentityHeaders.forwardedUser =
          [Text.Utf8.encode session.user] ↔
          session.user ≠ "" ∧
          IdentityHeaders.forwardedUser ∉ request.headers.connectionNames)) := by
  have sent : (gateway.deliver around (gateway.identified session request)).sent =
      proxy.outbound? gateway.router.options
        (peerAddress (gateway.identified session request))
        (gateway.identified session request) := by
    have routedIdentified :
        gateway.router.route? (gateway.identified session request).path =
          some route := routed
    exact Router.sent_deliver routedIdentified toBackend around.backends around.store _
  have identifiedWithinLimit :
      (gateway.identified session request).body.length ≤
        gateway.router.options.maxBodySize :=
    withinLimit
  rw [proxy.outbound?_of_within _ _ _ identifiedWithinLimit] at sent
  have trustSent := proxy.getAll_outboundHeaders gateway.router.options
    (peerAddress (gateway.identified session request))
    (gateway.identified session request)
    (show IdentityHeaders.trust ∉ ReverseProxy.ownNames by decide)
  have userSent := proxy.getAll_outboundHeaders gateway.router.options
    (peerAddress (gateway.identified session request))
    (gateway.identified session request)
    (show IdentityHeaders.forwardedUser ∉ ReverseProxy.ownNames by decide)
  rw [gateway.connectionNames_identified] at trustSent userSent
  have trustWritten :
      (gateway.identified session request).headers.getAll IdentityHeaders.trust =
        [Text.Utf8.encode session.principal] := by
    unfold identified
    rw [IdentityHeaders.getAll_intoRequest_trust,
      IdentityHeaders.value?_eq_encode named principalIsText, Option.toList_some]
  rw [trustWritten] at trustSent
  refine ⟨_, sent, ?_, ?_, ?_, ?_⟩
  · intro answer answered
    rw [gateway.delivery_of_accepted around request session proxied accepted answered,
      Option.bind_some, sent]
  · rw [trustSent]
    exact kept_iff
  · intro listed
    rw [trustSent, if_pos listed]
  · intro passed userIsText
    have userWritten :
        (gateway.identified session request).headers.getAll
          IdentityHeaders.forwardedUser =
          (IdentityHeaders.value? session.user).toList := by
      unfold identified
      exact IdentityHeaders.getAll_intoRequest_forwardedUser _ _ _ passed
    rw [userSent, userWritten]
    by_cases nobody : session.user = ""
    · have unwritten : IdentityHeaders.value? session.user = none := if_pos nobody
      rw [unwritten]
      simp [nobody]
    · rw [IdentityHeaders.value?_eq_encode nobody userIsText, Option.toList_some,
        kept_iff]
      exact (and_iff_right nobody).symm

/-- Fields that the request does not list arrive, whatever else it lists. -/
theorem identity_is_delivered_by_solitary :
    let request := mailRequest
      [("authorization", Text.Utf8.encode "Basic YWxpY2U6c2VjcmV0"),
        ("connection", Text.Utf8.encode "close, x-mine")]
    (solitary.authenticate nowhere request).decision = .accept (Session.ofUser "alice") ∧
      ∃ outbound,
        (solitary.deliver nowhere
          (solitary.identified (Session.ofUser "alice") request)).sent =
            some outbound ∧
          outbound.headers.getAll IdentityHeaders.trust = [Text.Utf8.encode "alice"] ∧
          outbound.headers.getAll IdentityHeaders.forwardedUser =
            [Text.Utf8.encode "alice"] := by
  intro request
  have accepted : (solitary.authenticate nowhere request).decision =
      .accept (Session.ofUser "alice") := by
    decide +kernel
  refine ⟨accepted, ?_⟩
  obtain ⟨outbound, sent, -, trusted, -, named⟩ :=
    identity_is_delivered_iff solitary nowhere request (Session.ofUser "alice")
      (show solitary.kindOf request = .proxy by decide +kernel) accepted
      (show solitary.router.route? request.path =
        some ⟨.subtree "/", .proxy ⟨"http://backend", "backend", true⟩⟩ by decide +kernel)
      rfl (by decide +kernel) (by decide) (by decide +kernel)
  refine ⟨outbound, sent, trusted.mpr (by decide +kernel), ?_⟩
  exact (named rfl (by decide +kernel)).mpr ⟨by decide, by decide +kernel⟩

/-- A request that lists the fields of the identity is accepted and sent without them. -/
theorem listed_identity_is_withheld :
    let request := mailRequest
      [("authorization", Text.Utf8.encode "Basic YWxpY2U6c2VjcmV0"),
        ("connection", Text.Utf8.encode "lap-auth, X-Forwarded-User")]
    solitary.kindOf request = .proxy ∧
      (solitary.authenticate nowhere request).decision =
        .accept (Session.ofUser "alice") ∧
      (solitary.deliver nowhere
        (solitary.identified (Session.ofUser "alice") request)).sent.map
          (fun outbound =>
            (outbound.address, outbound.headers.getAll IdentityHeaders.trust,
              outbound.headers.getAll IdentityHeaders.forwardedUser)) =
        some ("http://backend/mail", [], []) := by
  decide +kernel

end Gateway
end Gatehouse
