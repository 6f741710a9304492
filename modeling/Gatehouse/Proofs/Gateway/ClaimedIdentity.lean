import Gatehouse.Proofs.Gateway.IdentityDelivery

/-!
# What a client can claim to be

Clients may write the fields of the identity into their requests. Two requests that
differ only in these claims are decided alike, and the field of the principal reaches a
backend without a trace of them. The fields of the user and of the address do so only if
they are overwritten, that is, for an accepted request and if the user is to be passed
on. Requests that pass without a decision, and accepted ones whose user is not passed
on, carry the claims of the client to the backend, unless the client itself lists the
fields as ones for its connection.
-/

namespace Gatehouse

namespace IdentityHeaders

/-- The names of the fields in which a backend reads the identity of a user. -/
def claimNames : List String :=
  [trust, forwardedUser, forwardedEmail]

/-- Whether the fields of the user and of the address are overwritten for a session. -/
def Options.overwrite (options : Options) : Bool :=
  options.passBasicAuth || options.passUserHeaders

/-- The values of a field of the identity in a request accepted for a session. -/
def told
    (session : Session)
    (options : Options)
    (request : Headers)
    (name : String) : List Bytes :=
  if name = trust then (value? session.principal).toList
  else if options.overwrite then
    if name = forwardedUser then (value? session.user).toList
    else (session.email.bind value?).toList
  else request.getAll name

section Told

variable (session : Session)
variable (options : Options)
variable (request : Headers)

/-- An accepted request has in the fields of the identity what backends are told. -/
theorem getAll_intoRequest_claim
    {name : String}
    (claim : name ∈ claimNames) :
    (intoRequest session options request).getAll name =
      told session options request name := by
  unfold told
  by_cases isTrust : name = trust
  · rw [if_pos isTrust, isTrust, getAll_intoRequest_trust]
  · rw [if_neg isTrust]
    unfold intoRequest
    simp only
    rw [Headers.getAll_setOrRemove_other _ _ isTrust]
    by_cases overwritten : options.overwrite = true
    · have passed :
          (options.passBasicAuth || options.passUserHeaders) = true := overwritten
      rw [if_pos overwritten, if_pos passed]
      by_cases isUser : name = forwardedUser
      · rw [if_pos isUser, isUser, Headers.getAll_setOrRemove_other _ _ (by decide)]
        exact Headers.getAll_setOrRemove_self _ _ _
      · have isEmail : name = forwardedEmail := by
          simpa [claimNames, isTrust, isUser] using claim
        rw [if_neg isUser, isEmail]
        exact Headers.getAll_setOrRemove_self _ _ _
    · have unpassed :
          ¬ (options.passBasicAuth || options.passUserHeaders) = true := overwritten
      have different : name ≠ "authorization" := by
        rintro rfl
        exact absurd claim (by decide)
      rw [if_neg overwritten, if_neg unpassed]
      exact getAll_withBasic session options request different

/-- What backends are told does not depend on a principal that the client claims. -/
theorem told_strip (name : String) :
    told session options (strip request) name = told session options request name := by
  unfold told
  by_cases isTrust : name = trust
  · rw [if_pos isTrust, if_pos isTrust]
  · rw [if_neg isTrust, if_neg isTrust, getAll_strip_other _ isTrust]

end Told

end IdentityHeaders

/-! ## Requests with different claims -/

/-- Two requests that are equal but for what they claim about the identity of the user. -/
structure Request.DiffersInClaims (first second : Request) : Prop where
  method : first.method = second.method
  target : first.target = second.target
  body : first.body = second.body
  peer : first.peer = second.peer
  fields : ∀ name, name ∉ IdentityHeaders.claimNames →
    first.headers.getAll name = second.headers.getAll name

/-- A request in which the client claims something more. -/
def Request.claiming (request : Request) (claims : List (String × Bytes)) : Request :=
  { request with headers := ⟨claims ++ request.headers.fields⟩ }

/-- What is claimed in the fields of the identity makes no other difference. -/
theorem Request.differsInClaims_claiming
    (request : Request)
    {claims : List (String × Bytes)}
    (onlyClaims : ∀ field ∈ claims, field.1 ∈ IdentityHeaders.claimNames) :
    (request.claiming claims).DiffersInClaims request where
  method := rfl
  target := rfl
  body := rfl
  peer := rfl
  fields := by
    intro name unclaimed
    have absent : claims.filter (fun field => field.1 == name) = [] := by
      apply List.filter_eq_nil_iff.mpr
      intro field present isName
      exact unclaimed (eq_of_beq isName ▸ onlyClaims field present)
    unfold claiming Headers.getAll
    rw [List.filter_append, absent, List.nil_append]

namespace Headers

variable {first second : Headers}
variable {name : String}

theorem texts_congr (same : first.getAll name = second.getAll name) :
    first.texts name = second.texts name := by
  unfold texts
  rw [same]

theorem nonEmptyText?_congr (same : first.getAll name = second.getAll name) :
    first.nonEmptyText? name = second.nonEmptyText? name := by
  unfold nonEmptyText? firstText? get?
  rw [same]

end Headers

theorem CookieSettings.read_congr
    (settings : CookieSettings)
    {first second : Headers}
    (same : first.getAll "cookie" = second.getAll "cookie") :
    settings.read first = settings.read second := by
  unfold read Cookies.find? Cookies.ofHeaders
  rw [Headers.texts_congr same]

namespace ClientAddress

/-- The address of a client is not looked for in the fields of the identity. -/
def IgnoresClaims (source : ClientAddress) : Prop :=
  ∀ name ∈ IdentityHeaders.claimNames,
    source.realHeader ≠ some name ∧ source.proxyHeader ≠ some name

instance (source : ClientAddress) : Decidable source.IgnoresClaims :=
  inferInstanceAs (Decidable (∀ name ∈ IdentityHeaders.claimNames, _ ∧ _))

variable (source : ClientAddress)
variable {first second : Headers}

/-- The address in one of its fields depends only on the values of this field. -/
theorem resolve?_congr
    (same : ∀ name, source.realHeader = some name ∨ source.proxyHeader = some name →
      first.getAll name = second.getAll name)
    (peer : Option Endpoint) :
    source.resolve? first peer = source.resolve? second peer := by
  have real : source.fromReal? first = source.fromReal? second := by
    unfold fromReal?
    cases isReal : source.realHeader with
    | none => rfl
    | some name =>
        simp only [Option.bind_eq_bind, Option.bind_some]
        rw [Headers.nonEmptyText?_congr (same name (Or.inl isReal))]
  have proxied : source.fromProxy? first = source.fromProxy? second := by
    unfold fromProxy?
    cases isProxy : source.proxyHeader with
    | none => rfl
    | some name =>
        simp only [Option.bind_eq_bind, Option.bind_some]
        rw [Headers.nonEmptyText?_congr (same name (Or.inr isProxy))]
  unfold resolve?
  rw [real, proxied]

end ClientAddress

namespace Gateway

variable (gateway : Gateway)
variable (around : Surroundings)
variable {first second : Request}

section Deciding

/-- Claims have no influence on the decision. -/
theorem authenticate_eq_of_differsInClaims (alike : first.DiffersInClaims second) :
    gateway.authenticate around first = gateway.authenticate around second := by
  unfold authenticate
  rw [gateway.cookies.read_congr (alike.fields "cookie" (by decide)),
    Headers.nonEmptyText?_congr (alike.fields "authorization" (by decide))]

/-- Claims have no influence on who answers, unless they may name the client's address. -/
theorem kindOf_eq_of_differsInClaims
    (alike : first.DiffersInClaims second)
    (ignores : gateway.whitelist.client.IgnoresClaims) :
    gateway.kindOf first = gateway.kindOf second := by
  have resolved : gateway.whitelist.client.resolve? first.headers first.peer =
      gateway.whitelist.client.resolve? second.headers second.peer := by
    rw [← alike.peer]
    apply gateway.whitelist.client.resolve?_congr
    intro name isRead
    apply alike.fields
    intro claim
    obtain ⟨notReal, notProxy⟩ := ignores name claim
    exact isRead.elim notReal notProxy
  unfold kindOf Request.path Whitelist.bypasses
  rw [alike.method, alike.target, resolved]

end Deciding

section Sending

/-- The request that is sent to a backend for a request, if one is. -/
def forwarded? (request : Request) : Option OutboundRequest :=
  (gateway.handed? request (gateway.authenticate around request)).bind fun handed =>
    (gateway.deliver around handed).sent

/-- The fields of the user and of the address are overwritten before a request is
forwarded. -/
def Overwrites (request : Request) : Prop :=
  gateway.kindOf request = .proxy ∧ gateway.identity.overwrite = true

/-- The values of a field of the identity when a request is handed to the router. -/
def told (request : Request) (name : String) : List Bytes :=
  match gateway.kindOf request with
  | .bypass => if name = IdentityHeaders.trust then [] else request.headers.getAll name
  | _ =>
      match (gateway.authenticate around request).decision with
      | .accept session =>
          IdentityHeaders.told session gateway.identity request.headers name
      | _ => []

variable {request : Request}
variable {handed : Request}
variable {outbound : OutboundRequest}
variable {name : String}

/-- What an answer tells about its delivery is what is forwarded. -/
theorem sent_of_answer
    {answer : Answer}
    (answered : gateway.answer? around request = some answer) :
    answer.delivery.bind (·.sent) = gateway.forwarded? around request := by
  rw [← observe_authenticate] at answered
  have settles :=
    (gateway.observe_eq around request (gateway.authenticate around request)).2
  rw [settles.delivers answer answered]
  unfold forwarded?
  cases gateway.handed? request (gateway.authenticate around request) <;> rfl

/-- What is sent has the fields of the request, except those for its connection. -/
theorem getAll_sent
    (sent : (gateway.deliver around handed).sent = some outbound)
    (foreign : name ∉ ReverseProxy.ownNames) :
    outbound.headers.getAll name =
      if name ∈ handed.headers.connectionNames then []
      else handed.headers.getAll name := by
  obtain ⟨route, proxy, -, -, isOutbound⟩ := Router.exists_proxy_of_sent sent
  rw [(proxy.of_outbound?_eq_some _ _ _ isOutbound).2]
  exact proxy.getAll_outboundHeaders _ _ handed foreign

/-- A request that is handed to the router lists the same fields for its connection. -/
theorem connectionNames_handed
    (isHanded : gateway.handed? request (gateway.authenticate around request) =
      some handed) :
    handed.headers.connectionNames = request.headers.connectionNames := by
  unfold handed? at isHanded
  split at isHanded
  · cases isHanded
    apply Headers.connectionNames_congr
    exact IdentityHeaders.getAll_strip_other _ (by decide)
  · split at isHanded
    · next session _ =>
        cases isHanded
        exact gateway.connectionNames_identified request session
    · cases isHanded
  · cases isHanded

/-- The fields of the identity of a request that is handed to the router. -/
theorem getAll_handed
    (isHanded : gateway.handed? request (gateway.authenticate around request) =
      some handed)
    (claim : name ∈ IdentityHeaders.claimNames) :
    handed.headers.getAll name = gateway.told around request name := by
  unfold handed? at isHanded
  split at isHanded
  · next bypassed =>
      cases isHanded
      unfold told
      simp only [bypassed]
      by_cases isTrust : name = IdentityHeaders.trust
      · rw [if_pos isTrust, isTrust]
        exact Headers.getAll_remove_self _ _
      · rw [if_neg isTrust]
        exact IdentityHeaders.getAll_strip_other _ isTrust
  · next proxied =>
      split at isHanded
      · next session accepted =>
          cases isHanded
          unfold told
          simp only [proxied, accepted]
          exact (IdentityHeaders.getAll_intoRequest_claim _ _ _ claim).trans
            (IdentityHeaders.told_strip session gateway.identity request.headers name)
      · cases isHanded
  · cases isHanded

/-- The fields of the identity in what is sent to a backend. -/
theorem getAll_forwarded
    (sends : gateway.forwarded? around request = some outbound)
    (claim : name ∈ IdentityHeaders.claimNames) :
    outbound.headers.getAll name =
      if name ∈ request.headers.connectionNames then []
      else gateway.told around request name := by
  have foreign :
      ∀ name ∈ IdentityHeaders.claimNames, name ∉ ReverseProxy.ownNames := by decide
  obtain ⟨handed, isHanded, sent⟩ := Option.bind_eq_some_iff.mp sends
  rw [gateway.getAll_sent around sent (foreign name claim),
    gateway.connectionNames_handed around isHanded,
    gateway.getAll_handed around isHanded claim]

/-- A request that is sent on passes without a decision, or is accepted. -/
theorem kindOf_of_forwarded
    (sends : gateway.forwarded? around request = some outbound) :
    gateway.kindOf request = .bypass ∨
      (gateway.kindOf request = .proxy ∧
        ∃ session, (gateway.authenticate around request).decision = .accept session) := by
  obtain ⟨handed, isHanded, -⟩ := Option.bind_eq_some_iff.mp sends
  unfold handed? at isHanded
  split at isHanded
  · next bypassed => exact Or.inl bypassed
  · next proxied =>
      split at isHanded
      · next session accepted => exact Or.inr ⟨proxied, session, accepted⟩
      · cases isHanded
  · cases isHanded

end Sending

section Comparing

variable {outbound : OutboundRequest}

/-- Requests that differ in claims tell the same principal, if the same part answers. -/
theorem told_trust_eq
    (alike : first.DiffersInClaims second)
    (sameKind : gateway.kindOf first = gateway.kindOf second) :
    gateway.told around first IdentityHeaders.trust =
      gateway.told around second IdentityHeaders.trust := by
  unfold told
  rw [← sameKind, ← gateway.authenticate_eq_of_differsInClaims around alike]
  split
  · rfl
  · split <;> rfl

/-- Such requests tell the same value exactly if the field is overwritten or claimed
alike. -/
theorem told_eq_iff
    (alike : first.DiffersInClaims second)
    (sameKind : gateway.kindOf first = gateway.kindOf second)
    (sends : gateway.forwarded? around first = some outbound)
    {name : String}
    (different : name ≠ IdentityHeaders.trust) :
    gateway.told around first name = gateway.told around second name ↔
      gateway.Overwrites first ∨ first.headers.getAll name =
        second.headers.getAll name := by
  unfold told Overwrites
  rw [← sameKind, ← gateway.authenticate_eq_of_differsInClaims around alike]
  rcases gateway.kindOf_of_forwarded around sends
    with bypassed | ⟨proxied, session, accepted⟩
  · simp [bypassed, different]
  · simp only [proxied, accepted, IdentityHeaders.told, if_neg different, true_and]
    cases overwritten : gateway.identity.overwrite with
    | false => simp
    | true => simp

end Comparing

/-- Two requests that differ only in claims are decided alike, and answered by the same
part of the proxy unless the address of the client is looked for in the claims. Then
backends receive the same principal, and the same user or address exactly if the field
is listed for the connection, overwritten for an accepted request, or claimed alike. -/
theorem forwarded_claims_agree_iff
    (gateway : Gateway)
    (around : Surroundings)
    {first second : Request}
    (alike : first.DiffersInClaims second)
    {firstSent secondSent : OutboundRequest}
    (sendsFirst : gateway.forwarded? around first = some firstSent)
    (sendsSecond : gateway.forwarded? around second = some secondSent) :
    let Agree :=
      fun name => firstSent.headers.getAll name = secondSent.headers.getAll name
    (∀ answer, gateway.answer? around first = some answer →
      answer.delivery.bind (·.sent) = some firstSent) ∧
    gateway.authenticate around first = gateway.authenticate around second ∧
    (gateway.whitelist.client.IgnoresClaims →
      gateway.kindOf first = gateway.kindOf second) ∧
    (gateway.kindOf first = gateway.kindOf second →
      Agree IdentityHeaders.trust ∧
      ∀ name ∈ [IdentityHeaders.forwardedUser, IdentityHeaders.forwardedEmail],
        (Agree name ↔ name ∈ first.headers.connectionNames ∨ gateway.Overwrites first ∨
          first.headers.getAll name = second.headers.getAll name)) ∧
    ∀ name ∈ IdentityHeaders.claimNames,
      (Agree name ↔ name ∈ first.headers.connectionNames ∨
        gateway.told around first name = gateway.told around second name) := by
  intro Agree
  have sameListed : second.headers.connectionNames = first.headers.connectionNames :=
    Headers.connectionNames_congr (alike.fields "connection" (by decide)).symm
  have agree_iff : ∀ name ∈ IdentityHeaders.claimNames,
      (Agree name ↔ name ∈ first.headers.connectionNames ∨
        gateway.told around first name = gateway.told around second name) := by
    intro name claim
    unfold Agree
    rw [gateway.getAll_forwarded around sendsFirst claim,
      gateway.getAll_forwarded around sendsSecond claim, sameListed]
    by_cases listed : name ∈ first.headers.connectionNames
    · simp [listed]
    · simp [listed]
  refine ⟨?_, gateway.authenticate_eq_of_differsInClaims around alike,
    gateway.kindOf_eq_of_differsInClaims alike, ?_, agree_iff⟩
  · intro answer answered
    rw [gateway.sent_of_answer around answered, sendsFirst]
  · intro sameKind
    constructor
    · rw [agree_iff _ (by decide)]
      exact Or.inr (gateway.told_trust_eq around alike sameKind)
    · intro name isOther
      have claim : name ∈ IdentityHeaders.claimNames := List.mem_cons_of_mem _ isOther
      have different : name ≠ IdentityHeaders.trust := by
        rintro rfl
        exact absurd isOther (by decide)
      rw [agree_iff name claim,
        gateway.told_eq_iff around alike sameKind sendsFirst different]

/-- A request for a page of the backend of `solitary`, with the credentials of its
user. -/
def aliceRequest : Request :=
  mailRequest [("authorization", Text.Utf8.encode "Basic YWxpY2U6c2VjcmV0")]

/-- A request that asks what the backend of `solitary` permits. -/
def preflightRequest : Request :=
  { mailRequest [] with method := "OPTIONS" }

/-- Behind `solitary`, which passes its user on, the claims of Alice make no
difference. -/
theorem claims_are_overwritten_by_solitary :
    let claims := [(IdentityHeaders.forwardedUser, Text.Utf8.encode "admin"),
      (IdentityHeaders.trust, Text.Utf8.encode "admin")]
    ∃ claiming plain,
      solitary.forwarded? nowhere (aliceRequest.claiming claims) = some claiming ∧
      solitary.forwarded? nowhere aliceRequest = some plain ∧
      ∀ name ∈ IdentityHeaders.claimNames,
        claiming.headers.getAll name = plain.headers.getAll name := by
  intro claims
  have alike : (aliceRequest.claiming claims).DiffersInClaims aliceRequest :=
    aliceRequest.differsInClaims_claiming (by decide)
  have sendsFirst :
      (solitary.forwarded? nowhere (aliceRequest.claiming claims)).isSome = true := by
    decide +kernel
  have sendsSecond : (solitary.forwarded? nowhere aliceRequest).isSome = true := by
    decide +kernel
  obtain ⟨claiming, isClaiming⟩ := Option.isSome_iff_exists.mp sendsFirst
  obtain ⟨plain, isPlain⟩ := Option.isSome_iff_exists.mp sendsSecond
  obtain ⟨-, -, kinds, agree, -⟩ :=
    forwarded_claims_agree_iff solitary nowhere alike isClaiming isPlain
  have sameKind := kinds (by decide)
  have overwrites : solitary.Overwrites (aliceRequest.claiming claims) :=
    ⟨by decide +kernel, by decide⟩
  obtain ⟨trusted, others⟩ := agree sameKind
  refine ⟨claiming, plain, isClaiming, isPlain, ?_⟩
  intro name claim
  rcases List.mem_cons.mp claim with rfl | isOther
  · exact trusted
  · exact (others name isOther).mpr (Or.inr (Or.inl overwrites))

/-- A claimed user reaches the backend if nothing decides, or if users are not passed
on. -/
theorem claimed_user_reaches_backend :
    let claims := [(IdentityHeaders.forwardedUser, Text.Utf8.encode "admin")]
    let lenient := { solitary with whitelist := ⟨[], [], true, ⟨none, none⟩⟩ }
    let silent := { solitary with identity := ⟨false, "", false, false⟩ }
    let userOf := fun sent : Option OutboundRequest =>
      sent.map fun outbound => outbound.headers.getAll IdentityHeaders.forwardedUser
    (preflightRequest.claiming claims).DiffersInClaims preflightRequest ∧
      (aliceRequest.claiming claims).DiffersInClaims aliceRequest ∧
      userOf (lenient.forwarded? nowhere (preflightRequest.claiming claims)) =
        some [Text.Utf8.encode "admin"] ∧
      userOf (lenient.forwarded? nowhere preflightRequest) = some [] ∧
      userOf (silent.forwarded? nowhere (aliceRequest.claiming claims)) =
        some [Text.Utf8.encode "admin"] ∧
      userOf (silent.forwarded? nowhere aliceRequest) = some [] := by
  refine ⟨preflightRequest.differsInClaims_claiming (by decide),
    aliceRequest.differsInClaims_claiming (by decide), ?_⟩
  decide +kernel

end Gateway
end Gatehouse
