import Gatehouse.Proofs.Routing.Mounts
import Mathlib.Tactic.Common

/-!
# Where requests are delivered

Every route of a router has been made of one of the addresses in the configuration, and
the route that a path is given is one of them. What is sent to the backend of the route
does not depend on what the backend answers.
-/

namespace Gatehouse

/-- A route to a backend is made of an address of the web. -/
theorem Route.exists_url_of_ofText
    {passHostHeader : Bool}
    {given : String}
    {route : Route}
    {proxy : ReverseProxy}
    (made : Route.ofText passHostHeader given = .ok route)
    (toBackend : route.target = .proxy proxy) :
    ∃ url, Url.ofText given = .ok url ∧ (url.scheme = "http" ∨ url.scheme = "https") ∧
      proxy = ReverseProxy.ofUrl url passHostHeader := by
  unfold Route.ofText at made
  split at made
  · cases made
  rename_i url read
  split at made
  · rename_i web
    cases made
    cases toBackend
    exact ⟨url, read, web, rfl⟩
  · split at made
    · cases made
      cases toBackend
    · cases made

namespace ReverseProxy

variable (proxy : ReverseProxy)
variable (options : ForwardOptions)
variable (client : Option Address)
variable (request : Request)

theorem outbound?_of_within
    (withinLimit : request.body.length ≤ options.maxBodySize) :
    proxy.outbound? options client request =
      some ⟨request.method, proxy.origin ++ request.target.pathAndQuery,
        proxy.outboundHeaders options client request, request.body⟩ := by
  unfold outbound?
  rw [if_neg (by omega)]

/-- What is sent has the path and query behind the backend's origin, and its own
header. -/
theorem of_outbound?_eq_some
    {outbound : OutboundRequest}
    (isOutbound : proxy.outbound? options client request = some outbound) :
    outbound.address = proxy.origin ++ request.target.pathAndQuery ∧
      outbound.headers = proxy.outboundHeaders options client request := by
  unfold outbound? at isOutbound
  split at isOutbound
  · cases isOutbound
  · cases isOutbound
    exact ⟨rfl, rfl⟩

/-- What forwarding sends is the request that it makes, whatever the backend answers. -/
theorem sent_forward (backends : Backends) (mount : String) :
    (proxy.forward options backends mount client request).sent =
      proxy.outbound? options client request := by
  unfold forward
  split
  · rename_i tooLarge
    rw [tooLarge]
  · rename_i outbound isOutbound
    rw [isOutbound]

end ReverseProxy

namespace Router

/-- Every route of a router has been made of one of its addresses. -/
theorem exists_given_of_ofAddresses
    {passHostHeader : Bool}
    {options : ForwardOptions}
    {addresses : List String}
    {router : Router}
    (mounted : ofAddresses passHostHeader options addresses = .ok router)
    {route : Route}
    (present : route ∈ router.routes) :
    ∃ given ∈ addresses, Route.ofText passHostHeader given = .ok route := by
  unfold ofAddresses at mounted
  cases found : routesOf passHostHeader addresses with
  | error cause =>
      rw [found] at mounted
      cases mounted
  | ok routes =>
      rw [found] at mounted
      cases mounted
      exact exists_given_of_made (routesOf_eq_ok_iff.mp found).1 present

/-- The best of routes is one of them, or the best so far. -/
theorem mem_of_foldl_moreSpecific
    {routes : List Route}
    {best : Option Route}
    {route : Route}
    (found : routes.foldl moreSpecific best = some route) :
    best = some route ∨ route ∈ routes := by
  induction routes generalizing best with
  | nil => exact .inl found
  | cons first others inductionHypothesis =>
      rcases inductionHypothesis found with isBest | isOther
      · unfold moreSpecific at isBest
        split at isBest
        · exact .inr (Option.some.inj isBest ▸ List.mem_cons_self)
        · split at isBest
          · exact .inr (Option.some.inj isBest ▸ List.mem_cons_self)
          · exact .inl isBest
      · exact .inr (List.mem_cons_of_mem first isOther)

/-- The route of a path is a route of the router that covers the path. -/
theorem mem_of_route?
    {router : Router}
    {path : String}
    {route : Route}
    (routed : router.route? path = some route) :
    route ∈ router.routes ∧ route.pattern.covers path = true := by
  rcases mem_of_foldl_moreSpecific routed with isBest | present
  · cases isBest
  · exact List.mem_filter.mp present

/-- A request that a backend is mounted for is sent to that backend. -/
theorem sent_deliver
    {router : Router}
    {request : Request}
    {route : Route}
    {proxy : ReverseProxy}
    (routed : router.route? request.path = some route)
    (toBackend : route.target = .proxy proxy)
    (backends : Backends)
    (store : FileStore)
    (client : Option Address) :
    (router.deliver backends store client request).sent =
      proxy.outbound? router.options client request := by
  unfold deliver
  rw [routed]
  simp only
  rw [toBackend]
  exact proxy.sent_forward _ _ _ _ _

/-- What is sent is made by the backend of the path; directories send nothing. -/
theorem exists_proxy_of_sent
    {router : Router}
    {request : Request}
    {backends : Backends}
    {store : FileStore}
    {client : Option Address}
    {outbound : OutboundRequest}
    (sent : (router.deliver backends store client request).sent = some outbound) :
    ∃ route proxy, router.route? request.path = some route ∧ route.target = .proxy proxy ∧
      proxy.outbound? router.options client request = some outbound := by
  cases routed : router.route? request.path with
  | none =>
      unfold deliver at sent
      rw [routed] at sent
      cases sent
  | some route =>
      cases mounted : route.target with
      | proxy proxy =>
          rw [sent_deliver routed mounted] at sent
          exact ⟨route, proxy, rfl, mounted, sent⟩
      | files server =>
          unfold deliver at sent
          rw [routed] at sent
          simp only [mounted] at sent
          unfold FileServer.serve at sent
          split at sent <;> cases sent

end Router
end Gatehouse
