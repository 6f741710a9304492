import Gatehouse.Gateway.Server
import Gatehouse.Proofs.Gateway.ClaimedIdentity

/-!
# What a client is shown of its identity

The answer to an accepted request tells the client who it is, in the same fields in
which a backend may have told it something else. What the session has is written over
what the backend has replied. What the session does not have, such as the address of a
user who has none, is removed only from the fields that are to be written, where it
never was. It is not removed from the reply, so that a backend decides what the client
is shown in these fields, unless it has listed them as ones for its connection.
-/

namespace Gatehouse

namespace Headers

variable {name : String}

/-- Fields that replace those of a header leave the last of their values to each name. -/
theorem getAll_foldl_insert
    (fields : List (String × Bytes))
    (headers : Headers) :
    (fields.foldl (fun changed field => changed.insert field.1 field.2) headers).getAll
      name =
      match (getAll ⟨fields⟩ name).getLast? with
      | some value => [value]
      | none => headers.getAll name := by
  induction fields generalizing headers with
  | nil => rfl
  | cons field others inductionHypothesis =>
      rw [List.foldl_cons, inductionHypothesis]
      by_cases isName : field.1 = name
      · have values :
            getAll ⟨field :: others⟩ name = field.2 :: getAll ⟨others⟩ name := by
          simp [getAll, isName]
        rw [values, ← isName, getAll_insert_self, List.getLast?_cons]
        cases (getAll ⟨others⟩ field.1).getLast? <;> rfl
      · have values : getAll ⟨field :: others⟩ name = getAll ⟨others⟩ name := by
          simp [getAll, isName]
        rw [values, getAll_insert_other _ _ (Ne.symm isName)]

end Headers

namespace IdentityHeaders

/-- The names of the fields in which a client is told who it is. -/
def shownNames : List String :=
  [trust, responseUser, responseEmail]

/-- What there is to be shown of a session in a field. -/
def shown? (session : Session) (name : String) : Option Bytes :=
  if name = trust then value? session.principal
  else if name = responseUser then value? session.user
  else session.email.bind value?

/-- What a client receives as its identity: what the session shows, or else the
backend's unlisted reply. -/
def received (session : Session) (reply : Response) (name : String) : List Bytes :=
  match shown? session name with
  | some value => [value]
  | none => if name ∈ reply.headers.connectionNames then [] else reply.headers.getAll name

variable {session : Session}
variable {options : Options}
variable {name : String}

/-- A response is told what there is to be shown of a session, and nothing else. -/
theorem getAll_intoResponse_shown
    (shows : options.setXAuthRequest = true)
    (isShown : name ∈ shownNames)
    (response : Headers) :
    (intoResponse session options response).getAll name =
      (shown? session name).toList := by
  unfold intoResponse shown?
  simp only [shows, if_true]
  by_cases isTrust : name = trust
  · rw [if_pos isTrust, isTrust, Headers.getAll_setOrRemove_self]
  · rw [if_neg isTrust, Headers.getAll_setOrRemove_other _ _ isTrust]
    by_cases isUser : name = responseUser
    · rw [if_pos isUser, isUser, Headers.getAll_setOrRemove_other _ _ (by decide),
        Headers.getAll_setOrRemove_self]
    · have isEmail : name = responseEmail := by
        simpa [shownNames, isTrust, isUser] using isShown
      rw [if_neg isUser, isEmail, Headers.getAll_setOrRemove_self]

end IdentityHeaders

namespace ReverseProxy

/-- A reply is relayed without the fields for its connection, and names its backend. -/
theorem getAll_relay
    (host : String)
    (reply : Response)
    {name : String}
    (different : name ≠ backendHeader)
    (ordinary : name ∉ Headers.hopByHopNames) :
    ((relay (some reply)).insertIfValue backendHeader host).headers.getAll name =
      if name ∈ reply.headers.connectionNames then [] else reply.headers.getAll name := by
  rw [← Headers.getAll_stripHopByHop _ ordinary]
  unfold Response.insertIfValue
  split
  · exact Headers.getAll_insert_other _ _ different
  · rfl

end ReverseProxy

/-- Two replies that are equal but for what they tell a client about its identity. -/
structure Response.DiffersInIdentity (first second : Response) : Prop where
  status : first.status = second.status
  body : first.body = second.body
  streamed : first.streamed = second.streamed
  fields : ∀ name, name ∉ IdentityHeaders.shownNames →
    first.headers.getAll name = second.headers.getAll name

/-- A reply in which a backend tells something more about the identity of the client. -/
def Response.telling (reply : Response) (fields : List (String × Bytes)) : Response :=
  { reply with headers := ⟨fields ++ reply.headers.fields⟩ }

/-- What is told about the identity makes no other difference. -/
theorem Response.differsInIdentity_telling
    (reply : Response)
    {fields : List (String × Bytes)}
    (onlyIdentity : ∀ field ∈ fields, field.1 ∈ IdentityHeaders.shownNames) :
    (reply.telling fields).DiffersInIdentity reply where
  status := rfl
  body := rfl
  streamed := rfl
  fields := by
    intro name unshown
    have absent : fields.filter (fun field => field.1 == name) = [] := by
      apply List.filter_eq_nil_iff.mpr
      intro field present isName
      exact unshown (eq_of_beq isName ▸ onlyIdentity field present)
    unfold telling Headers.getAll
    rw [List.filter_append, absent, List.nil_append]

namespace Gateway

variable (gateway : Gateway)
variable (around : Surroundings)
variable {request handed : Request}
variable {session : Session}
variable {outbound : OutboundRequest}
variable {name : String}

/-- What is sent does not depend on backends; the response relays the reply with a
name. -/
theorem exists_host_of_sent
    (sent : (gateway.deliver around handed).sent = some outbound) :
    ∃ host, ∀ backends : Backends,
      (gateway.deliver { around with backends } handed).response =
        (ReverseProxy.relay (backends outbound)).insertIfValue backendHeader host := by
  obtain ⟨route, proxy, routed, toBackend, isOutbound⟩ := Router.exists_proxy_of_sent sent
  refine ⟨proxy.host, fun backends => ?_⟩
  unfold deliver Router.deliver
  simp only [routed, toBackend, ReverseProxy.forward, isOutbound]

/-- The fields of the identity are what there is to show, or else as before. -/
theorem getAll_withIdentity
    (shows : gateway.identity.setXAuthRequest = true)
    (isShown : name ∈ IdentityHeaders.shownNames)
    (response : Response) :
    (gateway.withIdentity session response).headers.getAll name =
      match IdentityHeaders.shown? session name with
      | some value => [value]
      | none => response.headers.getAll name := by
  unfold withIdentity
  simp only
  rw [Headers.getAll_foldl_insert,
    IdentityHeaders.getAll_intoResponse_shown shows isShown]
  cases IdentityHeaders.shown? session name <;> rfl

/-- An accepted request is answered by its mount, with the identity and dated cookies. -/
theorem exists_answer_of_accepted
    (proxied : gateway.kindOf request = .proxy)
    (accepted : (gateway.authenticate around request).decision = .accept session)
    (datable : ∀ effect ∈ (gateway.authenticate around request).effects,
      gateway.cookies.Datable around.now effect) :
    ∃ answer, gateway.answer? around request = some answer ∧
      ∀ name, name ≠ "set-cookie" →
        answer.response.headers.getAll name =
          (gateway.withIdentity session
            (gateway.deliver around
              (gateway.identified session request)).response).headers.getAll name := by
  obtain ⟨final, applied⟩ := Option.isSome_iff_exists.mp
    ((gateway.cookies.isSome_applyAll?_iff request.host? around.now _
      (gateway.withIdentity session
        (gateway.deliver around
          (gateway.identified session request)).response).headers).mpr datable)
  have others := (gateway.cookies.getAll_applyAll? request.host? around.now applied).2
  let delivery := gateway.deliver around (gateway.identified session request)
  refine ⟨⟨{ gateway.withIdentity session delivery.response with headers := final },
    some (.accept session), none, some delivery⟩, ?_, others⟩
  simp only [answer?, answerBy, proxied, proxyAnswerBy, accepted]
  unfold acceptance? withEffects?
  simp only [bind, Id.run, pure, applied, accepted, Option.map_some, Option.bind_some,
    delivery]

/-- Finishing a response changes no fields but the identifier of the request and the
length. -/
theorem getAll_finish_echoId
    (request identified : Request)
    (response : Response)
    (notId : name ≠ Request.idHeader)
    (notLength : name ≠ "content-length") :
    (finish request (echoId identified response)).headers.getAll name =
      response.headers.getAll name := by
  have echoed :
      (echoId identified response).headers.getAll name =
        response.headers.getAll name := by
    unfold echoId
    split
    · split
      · rfl
      · exact Headers.getAll_insert_other _ _ notId
    · rfl
  have sized : (withLength (echoId identified response)).headers.getAll name =
      (echoId identified response).headers.getAll name := by
    unfold withLength
    split
    · rfl
    · exact Headers.getAll_insertText_other _ _ notLength
  rw [← echoed, ← sized]
  unfold finish
  simp only
  split
  · exact sized.symm
  · split <;> rfl

/-- An accepted request shows in each field what the session or else the backend tells. -/
theorem exists_served_of_reply
    {fresh : Bytes}
    {backends : Backends}
    {reply : Response}
    (proxied : gateway.kindOf (withId fresh request) = .proxy)
    (accepted : (gateway.authenticate around (withId fresh request)).decision =
      .accept session)
    (shows : gateway.identity.setXAuthRequest = true)
    (datable : ∀ effect ∈ (gateway.authenticate around (withId fresh request)).effects,
      gateway.cookies.Datable around.now effect)
    (sends : gateway.forwarded? around (withId fresh request) = some outbound)
    (replies : backends outbound = some reply) :
    ∃ served, gateway.serve? { around with backends } fresh request = some served ∧
      ∀ name ∈ IdentityHeaders.shownNames,
        served.1.response.headers.getAll name =
          IdentityHeaders.received session reply name := by
  have sent :
      (gateway.deliver around (gateway.identified session (withId fresh request))).sent =
      some outbound := by
    unfold forwarded? handed? at sends
    simpa only [proxied, accepted, Option.bind_some] using sends
  obtain ⟨host, relays⟩ := gateway.exists_host_of_sent around sent
  obtain ⟨answer, isAnswer, fields⟩ :=
    gateway.exists_answer_of_accepted { around with backends } proxied accepted datable
  refine ⟨_, by rw [serve?, isAnswer]; rfl, ?_⟩
  intro name isShown
  have foreign : ∀ name ∈ IdentityHeaders.shownNames, name ≠ Request.idHeader ∧
      name ≠ "content-length" ∧ name ≠ "set-cookie" ∧ name ≠ backendHeader ∧
      name ∉ Headers.hopByHopNames := by
    decide
  obtain ⟨notId, notLength, notCookie, notBackend, ordinary⟩ := foreign name isShown
  simp only
  rw [getAll_finish_echoId _ _ _ notId notLength, fields name notCookie,
    gateway.getAll_withIdentity shows isShown, relays, replies,
    ReverseProxy.getAll_relay host reply notBackend ordinary]
  rfl

/-- If the identity is to be shown, two replies that differ only in what they tell the
client about itself are both passed on. The client receives the same in a field exactly
if the session has something to show in it, the backend lists the field for its
connection, or both replies tell the same. -/
theorem shown_identity_agrees_iff
    {fresh : Bytes}
    {first second : Backends}
    {firstReply secondReply : Response}
    (proxied : gateway.kindOf (withId fresh request) = .proxy)
    (accepted : (gateway.authenticate around (withId fresh request)).decision =
      .accept session)
    (shows : gateway.identity.setXAuthRequest = true)
    (datable : ∀ effect ∈ (gateway.authenticate around (withId fresh request)).effects,
      gateway.cookies.Datable around.now effect)
    (sends : gateway.forwarded? around (withId fresh request) = some outbound)
    (firstReplies : first outbound = some firstReply)
    (secondReplies : second outbound = some secondReply)
    (alike : firstReply.DiffersInIdentity secondReply) :
    ∃ firstServed secondServed,
      gateway.serve? { around with backends := first } fresh request = some firstServed ∧
      gateway.serve? { around with backends := second } fresh request =
        some secondServed ∧
      ∀ name ∈ IdentityHeaders.shownNames,
        firstServed.1.response.headers.getAll name =
            IdentityHeaders.received session firstReply name ∧
          (firstServed.1.response.headers.getAll name =
            secondServed.1.response.headers.getAll name ↔
            (IdentityHeaders.shown? session name).isSome = true ∨
              name ∈ firstReply.headers.connectionNames ∨
              firstReply.headers.getAll name = secondReply.headers.getAll name) := by
  obtain ⟨firstServed, isFirst, firstReceived⟩ :=
    gateway.exists_served_of_reply around proxied accepted shows datable
      sends firstReplies
  obtain ⟨secondServed, isSecond, secondReceived⟩ :=
    gateway.exists_served_of_reply around proxied accepted shows datable
      sends secondReplies
  have sameListed :
      secondReply.headers.connectionNames = firstReply.headers.connectionNames :=
    Headers.connectionNames_congr (alike.fields "connection" (by decide)).symm
  refine ⟨firstServed, secondServed, isFirst, isSecond, ?_⟩
  intro name isShown
  refine ⟨firstReceived name isShown, ?_⟩
  rw [firstReceived name isShown, secondReceived name isShown]
  unfold IdentityHeaders.received
  rw [sameListed]
  cases IdentityHeaders.shown? session name with
  | some value => simp
  | none =>
      by_cases listed : name ∈ firstReply.headers.connectionNames
      · simp [listed]
      · simp [listed]

/-- The proxy `solitary`, set up to tell clients who they are. -/
def candid : Gateway :=
  { solitary with identity := ⟨false, "", false, true⟩ }

/-- What a backend replies that tells nothing about the client. -/
def plainReply : Response :=
  Response.ofText 200 "mail"

/-- A backend that replies to everything with the same response. -/
def replying (reply : Response) : Backends :=
  fun _ => some reply

/-- What a backend replies that takes the client for the user root. -/
def rootReply : Response :=
  plainReply.telling [(IdentityHeaders.trust, Text.Utf8.encode "root"),
    (IdentityHeaders.responseUser, Text.Utf8.encode "root")]

/-- A backend does not change the fields that the session of Alice fills. -/
theorem backend_does_not_rename_alice :
    ∃ firstServed secondServed,
      candid.serve? { nowhere with backends := replying rootReply } [49] aliceRequest =
          some firstServed ∧
        candid.serve? { nowhere with backends := replying plainReply } [49] aliceRequest =
          some secondServed ∧
        ∀ name ∈ [IdentityHeaders.trust, IdentityHeaders.responseUser],
          firstServed.1.response.headers.getAll name = [Text.Utf8.encode "alice"] ∧
            secondServed.1.response.headers.getAll name = [Text.Utf8.encode "alice"] := by
  have accepted : (candid.authenticate nowhere (withId [49] aliceRequest)).decision =
      .accept (Session.ofUser "alice") := by
    decide +kernel
  have noEffects :
      (candid.authenticate nowhere (withId [49] aliceRequest)).effects = [] := by
    decide +kernel
  have datable :
      ∀ effect ∈ (candid.authenticate nowhere (withId [49] aliceRequest)).effects,
      candid.cookies.Datable nowhere.now effect := by
    rw [noEffects]
    exact nofun
  obtain ⟨outbound, sends⟩ := Option.isSome_iff_exists.mp
    (show (candid.forwarded? nowhere (withId [49] aliceRequest)).isSome = true by
      decide +kernel)
  obtain ⟨firstServed, secondServed, isFirst, isSecond, agree⟩ :=
    shown_identity_agrees_iff candid nowhere (by decide +kernel) accepted
      rfl datable sends (show replying rootReply outbound = some rootReply from rfl)
      (show replying plainReply outbound = some plainReply from rfl)
      (plainReply.differsInIdentity_telling (by decide))
  refine ⟨firstServed, secondServed, isFirst, isSecond, ?_⟩
  intro name isName
  have isShown : name ∈ IdentityHeaders.shownNames := by
    have within : ∀ name ∈ [IdentityHeaders.trust, IdentityHeaders.responseUser],
        name ∈ IdentityHeaders.shownNames := by decide
    exact within name isName
  have named : ∀ name ∈ [IdentityHeaders.trust, IdentityHeaders.responseUser],
      IdentityHeaders.shown? (Session.ofUser "alice") name =
        some (Text.Utf8.encode "alice") := by
    decide +kernel
  obtain ⟨isReceived, same⟩ := agree name isShown
  have first :
      firstServed.1.response.headers.getAll name = [Text.Utf8.encode "alice"] := by
    rw [isReceived, IdentityHeaders.received, named name isName]
  refine ⟨first, ?_⟩
  rw [← same.mpr (Or.inl (by rw [named name isName]; rfl)), first]

/-- Alice has no address, and is shown the one that the backend has replied. -/
theorem backend_gives_alice_an_address :
    let told :=
      plainReply.telling [(IdentityHeaders.responseEmail, Text.Utf8.encode "root@x.io")]
    let emailFrom := fun reply : Response =>
      (candid.serve? { nowhere with backends := replying reply } [49] aliceRequest).map
        fun served => served.1.response.headers.getAll IdentityHeaders.responseEmail
    told.DiffersInIdentity plainReply ∧
      (candid.authenticate nowhere aliceRequest).decision =
        .accept (Session.ofUser "alice") ∧
      emailFrom told = some [Text.Utf8.encode "root@x.io"] ∧
      emailFrom plainReply = some [] := by
  refine ⟨plainReply.differsInIdentity_telling (by decide), ?_⟩
  decide +kernel

end Gateway
end Gatehouse
