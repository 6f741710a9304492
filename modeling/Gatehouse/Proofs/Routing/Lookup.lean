import Gatehouse.Proofs.Routing.Delivery
import Gatehouse.Proofs.Text.Splitting
import Mathlib.Data.List.Perm.Basic
import Mathlib.Tactic.Common

/-!
# The route of a path

A path that several mounts cover is given to the one with the longest text. Two mounts
that cover the same path with texts of the same length are the same mount, because the
text tells a single path from a subtree. Since all the mounts of a router differ, the
route of a path depends neither on the order of the routes nor on that of the addresses
of which they have been made. A list of addresses is refused because of the first one
that is at fault.
-/

namespace Gatehouse

namespace PathPattern

variable {first second pattern : PathPattern}
variable {text path : String}

/-- Whether a text can be a mount: subtrees end in a slash, and single paths do not. -/
def IsProper : PathPattern → Prop
  | .exact path => path.toList.getLast? ≠ some '/'
  | .subtree start => start.toList.getLast? = some '/'

theorem isProper_ofText (text : String) : (ofText text).IsProper := by
  unfold ofText
  split
  · exact (by decide : "/".toList.getLast? = some '/')
  · split
    · assumption
    · assumption

/-- A proper mount is known by its text. -/
theorem eq_of_text_eq
    (firstProper : first.IsProper)
    (secondProper : second.IsProper)
    (sameText : first.text = second.text) :
    first = second := by
  cases first with
  | exact path =>
      cases second with
      | exact other => exact congrArg exact sameText
      | subtree start =>
          have same : path = start := sameText
          exact absurd (same ▸ secondProper) firstProper
  | subtree start =>
      cases second with
      | exact path =>
          have same : start = path := sameText
          exact absurd (same ▸ firstProper) secondProper
      | subtree other => exact congrArg subtree sameText

theorem isPrefix_of_covers (covered : pattern.covers path = true) :
    pattern.text.toList <+: path.toList := by
  cases pattern with
  | exact only =>
      rw [eq_of_beq covered]
      exact List.prefix_refl _
  | subtree start => exact Text.startsWith_iff.mp covered

/-- Proper mounts that cover the same path and are equally specific are the same. -/
theorem eq_of_specificity_eq
    (firstProper : first.IsProper)
    (secondProper : second.IsProper)
    (firstCovers : first.covers path = true)
    (secondCovers : second.covers path = true)
    (sameSize : first.specificity = second.specificity) :
    first = second := by
  apply eq_of_text_eq firstProper secondProper
  rcases List.prefix_or_prefix_of_prefix (isPrefix_of_covers firstCovers)
      (isPrefix_of_covers secondCovers) with begins | begins
  · by_contra different
    have shorter := (Text.size_lt_iff_of_isPrefix begins).mpr (Ne.symm different)
    exact Nat.ne_of_lt shorter sameSize
  · by_contra different
    have shorter := (Text.size_lt_iff_of_isPrefix begins).mpr different
    exact Nat.ne_of_lt shorter sameSize.symm

end PathPattern

/-! ## Looking a route up -/

namespace Router

variable {routes others : List Route}
variable {router other : Router}
variable {best : Option Route}
variable {path : String}
variable {route : Route}

/-- The route for a path: its mount covers the path, and is the longest that does. -/
structure IsMeant (routes : List Route) (path : String) (route : Route) : Prop where
  present : route ∈ routes
  covers : route.pattern.covers path = true
  longest : ∀ other ∈ routes, other ≠ route → other.pattern.covers path = true →
    other.pattern.text.utf8ByteSize < route.pattern.text.utf8ByteSize

/-- There is at most one route that is meant for a path. -/
theorem IsMeant.unique
    {second : Route}
    (meant : IsMeant routes path route)
    (secondMeant : IsMeant routes path second) :
    route = second := by
  by_contra different
  have shorter := secondMeant.longest route meant.present different meant.covers
  have longer :=
    meant.longest second secondMeant.present (Ne.symm different) secondMeant.covers
  omega

theorem IsMeant.of_perm
    (reordered : routes.Perm others)
    (meant : IsMeant routes path route) :
    IsMeant others path route where
  present := reordered.mem_iff.mp meant.present
  covers := meant.covers
  longest other present := meant.longest other (reordered.mem_iff.mpr present)

/-- The more specific of two routes is at least as specific as both. -/
theorem exists_moreSpecific (best : Option Route) (route : Route) :
    ∃ winner, moreSpecific best route = some winner ∧
      route.pattern.specificity ≤ winner.pattern.specificity ∧
      ∀ earlier, best = some earlier →
        earlier.pattern.specificity ≤ winner.pattern.specificity := by
  unfold moreSpecific
  cases best with
  | none => exact ⟨route, rfl, Nat.le_refl _, nofun⟩
  | some other =>
      by_cases asSpecific : other.pattern.specificity ≤ route.pattern.specificity
      · refine ⟨route, if_pos asSpecific, Nat.le_refl _, ?_⟩
        rintro earlier ⟨⟩
        exact asSpecific
      · refine ⟨other, if_neg asSpecific, by omega, ?_⟩
        rintro earlier ⟨⟩
        exact Nat.le_refl _

/-- The best route is at least as specific as all of them and the former best. -/
theorem specificity_le_of_foldl
    (found : routes.foldl moreSpecific best = some route)
    {other : Route}
    (candidate : best = some other ∨ other ∈ routes) :
    other.pattern.specificity ≤ route.pattern.specificity := by
  induction routes generalizing best other with
  | nil =>
      rcases candidate with isBest | present
      · rw [List.foldl_nil, isBest] at found
        cases found
        exact Nat.le_refl _
      · cases present
  | cons first rest inductionHypothesis =>
      obtain ⟨winner, isWinner, aboveFirst, aboveBest⟩ := exists_moreSpecific best first
      have aboveWinner := inductionHypothesis found (Or.inl isWinner)
      rcases candidate with isBest | present
      · exact (aboveBest other isBest).trans aboveWinner
      · rcases List.mem_cons.mp present with rfl | behind
        · exact aboveFirst.trans aboveWinner
        · exact inductionHypothesis found (Or.inr behind)

/-- There is a best of routes unless there are none. -/
theorem foldl_moreSpecific_eq_none_iff :
    routes.foldl moreSpecific best = none ↔ best = none ∧ routes = [] := by
  induction routes generalizing best with
  | nil => simp
  | cons first rest inductionHypothesis =>
      obtain ⟨winner, isWinner, -⟩ := exists_moreSpecific best first
      rw [List.foldl_cons, inductionHypothesis, isWinner]
      simp

/-- A path has no route exactly if no mount covers it. -/
theorem route?_eq_none_iff :
    router.route? path = none ↔ ∀ route ∈ router.routes,
      route.pattern.covers path = false := by
  unfold route?
  rw [foldl_moreSpecific_eq_none_iff, List.filter_eq_nil_iff]
  simp

/-- What holds of the routes of a router: all mounts are proper, and they differ. -/
structure WellMounted (routes : List Route) : Prop where
  proper : ∀ route ∈ routes, route.pattern.IsProper
  distinct : (routes.map (·.pattern)).Nodup

theorem WellMounted.of_perm
    (reordered : routes.Perm others)
    (wellMounted : WellMounted routes) :
    WellMounted others where
  proper route present := wellMounted.proper route (reordered.mem_iff.mpr present)
  distinct := (reordered.map (·.pattern)).nodup_iff.mp wellMounted.distinct

/-- The route of a path is the one that is meant for it. -/
theorem isMeant_of_route?
    (wellMounted : WellMounted router.routes)
    (found : router.route? path = some route) :
    IsMeant router.routes path route := by
  obtain ⟨present, covers⟩ := mem_of_route? found
  refine ⟨present, covers, ?_⟩
  intro other otherPresent different otherCovers
  have candidate : other ∈ router.routes.filter fun route => route.pattern.covers path :=
    List.mem_filter.mpr ⟨otherPresent, otherCovers⟩
  have atMost : other.pattern.specificity ≤ route.pattern.specificity :=
    specificity_le_of_foldl found (Or.inr candidate)
  refine Nat.lt_of_le_of_ne atMost ?_
  intro sameSize
  have sameMount := PathPattern.eq_of_specificity_eq
    (wellMounted.proper other otherPresent)
    (wellMounted.proper route present) otherCovers covers sameSize
  exact different
    (List.inj_on_of_nodup_map wellMounted.distinct otherPresent present sameMount)

/-- A route is the route of a path exactly if it is meant for the path. -/
theorem route?_eq_some_iff (wellMounted : WellMounted router.routes) :
    router.route? path = some route ↔ IsMeant router.routes path route := by
  constructor
  · exact isMeant_of_route? wellMounted
  · intro meant
    cases found : router.route? path with
    | none =>
        have uncovered := route?_eq_none_iff.mp found route meant.present
        rw [meant.covers] at uncovered
        cases uncovered
    | some second =>
        exact congrArg some ((isMeant_of_route? wellMounted found).unique meant)

/-- Routers with the same routes in different orders route alike. -/
theorem route?_eq_of_perm
    (reordered : router.routes.Perm other.routes)
    (wellMounted : WellMounted router.routes)
    (path : String) :
    other.route? path = router.route? path := by
  apply Option.ext
  intro route
  rw [route?_eq_some_iff (wellMounted.of_perm reordered), route?_eq_some_iff wellMounted]
  exact ⟨IsMeant.of_perm reordered.symm, IsMeant.of_perm reordered⟩

end Router

/-! ## Making the routes -/

/-- What answers at the mount of an address that has been read. -/
def Url.routeTarget (passHostHeader : Bool) (url : Url) : RouteTarget :=
  if url.scheme = "file" then .files ⟨url.mount.text, url.path⟩
  else .proxy (ReverseProxy.ofUrl url passHostHeader)

namespace Route

variable {passHostHeader : Bool}
variable {given : String}
variable {route : Route}
variable {cause : RouterError}

/-- A route has the mount of its address, which is of the web or of files. -/
theorem ofText_of_read
    {url : Url}
    (read : Url.ofText given = .ok url) :
    (url.IsMountable → ofText passHostHeader given =
        .ok ⟨url.mount, url.routeTarget passHostHeader⟩) ∧
      (¬ url.IsMountable → ofText passHostHeader given =
        .error (.unknownScheme url.scheme given)) := by
  unfold ofText Url.IsMountable Url.routeTarget Url.mount
  rw [read]
  simp only
  by_cases isFile : url.scheme = "file"
  · simp [isFile]
  · by_cases web : url.scheme = "http" ∨ url.scheme = "https"
    · simp [web, isFile]
    · simp [web, isFile]

/-- The routes of addresses, as they are made of what has been read. -/
theorem ofText_eq_ok_iff :
    ofText passHostHeader given = .ok route ↔
      ∃ url, Url.ofText given = .ok url ∧ url.IsMountable ∧
        route = ⟨url.mount, url.routeTarget passHostHeader⟩ := by
  cases read : Url.ofText given with
  | error cause => simp [ofText, read]
  | ok url =>
      obtain ⟨isRoute, isError⟩ := @ofText_of_read passHostHeader given url read
      by_cases mountable : url.IsMountable
      · simp [isRoute mountable, mountable, eq_comm]
      · simp [isError mountable, mountable]

/-- The addresses without a route, and why they have none. -/
theorem ofText_eq_error_iff :
    ofText passHostHeader given = .error cause ↔
      (∃ reason, Url.ofText given = .error reason ∧ cause = .invalidUrl given reason) ∨
        ∃ url, Url.ofText given = .ok url ∧ ¬ url.IsMountable ∧
          cause = .unknownScheme url.scheme given := by
  cases read : Url.ofText given with
  | error reason => simp [ofText, read, eq_comm]
  | ok url =>
      obtain ⟨isRoute, isError⟩ := @ofText_of_read passHostHeader given url read
      by_cases mountable : url.IsMountable
      · simp [isRoute mountable, mountable]
      · simp [isError mountable, mountable, eq_comm]

end Route

namespace Router

variable {passHostHeader : Bool}
variable {options : ForwardOptions}
variable {addresses before permuted : List String}
variable {given : String}
variable {routes : List Route}
variable {router : Router}
variable {cause : RouterError}

/-- What is wrong with an address: unreadable, of another scheme, or with a taken
mount. -/
inductive Fault (earlier : List String) (given : String) : RouterError → Prop
  | unreadable
      {reason : UrlError}
      (unread : Url.ofText given = .error reason) :
      Fault earlier given (.invalidUrl given reason)
  | unknownScheme
      {url : Url}
      (read : Url.ofText given = .ok url)
      (unmountable : ¬ url.IsMountable) :
      Fault earlier given (.unknownScheme url.scheme given)
  | repeated
      {url : Url}
      (read : Url.ofText given = .ok url)
      (mountable : url.IsMountable)
      (taken : some url.mount ∈ earlier.map mountOf?) :
      Fault earlier given (.duplicateMount url.mount.text)

/-- No address of a list is at fault behind those before it. -/
def Faultless (addresses : List String) : Prop :=
  ∀ before given after cause,
    addresses = before ++ given :: after → ¬ Fault before given cause

/-- The mounts of routes are those of their addresses. -/
theorem mem_map_pattern_iff
    (made : routesOf passHostHeader addresses = .ok routes)
    {mount : PathPattern} :
    mount ∈ routes.map (·.pattern) ↔ some mount ∈ addresses.map mountOf? := by
  rw [map_mountOf?_of_made (routesOf_eq_ok_iff.mp made).1, List.mem_map]
  simp

/-- The step of a router fails exactly if the address is at fault behind earlier ones. -/
theorem mountNext_eq_error_iff_fault
    (made : routesOf passHostHeader before = .ok routes) :
    mountNext passHostHeader routes given = .error cause ↔ Fault before given cause := by
  rw [mountNext_eq_error_iff, Route.ofText_eq_error_iff]
  simp only [mem_map_pattern_iff made]
  constructor
  · rintro ((⟨reason, unread, rfl⟩ | ⟨url, read, unmountable, rfl⟩)
      | ⟨route, isRoute, taken, rfl⟩)
    · exact .unreadable unread
    · exact .unknownScheme read unmountable
    · obtain ⟨url, read, mountable, rfl⟩ := Route.ofText_eq_ok_iff.mp isRoute
      exact .repeated read mountable taken
  · intro fault
    cases fault with
    | unreadable unread => exact .inl (.inl ⟨_, unread, rfl⟩)
    | unknownScheme read unmountable => exact .inl (.inr ⟨_, read, unmountable, rfl⟩)
    | repeated read mountable taken =>
        exact .inr ⟨_, Route.ofText_eq_ok_iff.mpr ⟨_, read, mountable, rfl⟩, taken, rfl⟩

/-- Addresses cannot be mounted because of one that is at fault behind others that can. -/
theorem routesOf_eq_error_iff_fault :
    routesOf passHostHeader addresses = .error cause ↔
      ∃ before given after, addresses = before ++ given :: after ∧
        (∃ routes, routesOf passHostHeader before = .ok routes) ∧
          Fault before given cause := by
  rw [routesOf_eq_foldlM, Outcome.foldlM_eq_error_iff]
  constructor
  · rintro ⟨before, given, after, routes, isSplit, made, fails⟩
    exact ⟨before, given, after, isSplit, ⟨routes, made⟩,
      (mountNext_eq_error_iff_fault made).mp fails⟩
  · rintro ⟨before, given, after, isSplit, ⟨routes, made⟩, fault⟩
    exact ⟨before, given, after, routes, isSplit, made,
      (mountNext_eq_error_iff_fault made).mpr fault⟩

/-- Addresses can be mounted exactly if none of them is at fault. -/
theorem exists_routesOf_iff_faultless :
    (∃ routes, routesOf passHostHeader addresses = .ok routes) ↔ Faultless addresses := by
  constructor
  · rintro ⟨routes, made⟩ before given after cause rfl fault
    rw [routesOf_eq_foldlM, List.foldlM_append] at made
    obtain ⟨earlier, madeBefore, goesOn⟩ := Outcome.bind_eq_ok_iff.mp made
    rw [List.foldlM_cons] at goesOn
    obtain ⟨more, steps, -⟩ := Outcome.bind_eq_ok_iff.mp goesOn
    rw [(mountNext_eq_error_iff_fault madeBefore).mpr fault] at steps
    cases steps
  · intro faultless
    cases made : routesOf passHostHeader addresses with
    | ok routes => exact ⟨routes, rfl⟩
    | error cause =>
        obtain ⟨before, given, after, isSplit, -, fault⟩ :=
          routesOf_eq_error_iff_fault.mp made
        exact absurd fault (faultless before given after cause isSplit)

/-- A router of addresses has their routes. -/
theorem ofAddresses_eq_ok_iff :
    ofAddresses passHostHeader options addresses = .ok router ↔
      routesOf passHostHeader addresses = .ok router.routes ∧
      router.options = options := by
  unfold ofAddresses
  cases routesOf passHostHeader addresses with
  | error cause => simp [Except.map]
  | ok routes =>
      simp only [Except.map, Except.ok.injEq]
      constructor
      · rintro rfl
        exact ⟨rfl, rfl⟩
      · rintro ⟨rfl, rfl⟩
        rfl

/-- A router fails to be made exactly if its routes do. -/
theorem ofAddresses_eq_error_iff :
    ofAddresses passHostHeader options addresses = .error cause ↔
      routesOf passHostHeader addresses = .error cause := by
  unfold ofAddresses
  cases routesOf passHostHeader addresses <;> simp [Except.map]

/-- The routes of addresses are mounted at proper mounts, which differ. -/
theorem wellMounted_of_routesOf
    (made : routesOf passHostHeader addresses = .ok routes) :
    WellMounted routes := by
  obtain ⟨allMade, distinct⟩ := routesOf_eq_ok_iff.mp made
  refine ⟨?_, distinct⟩
  intro route present
  obtain ⟨given, -, isRoute⟩ := exists_given_of_made allMade present
  obtain ⟨url, -, -, rfl⟩ := Route.ofText_eq_ok_iff.mp isRoute
  change url.mount.IsProper
  unfold Url.mount
  split <;> exact PathPattern.isProper_ofText _

/-- Addresses in another order have the same routes in another order. -/
theorem exists_routesOf_of_perm
    (reordered : permuted.Perm addresses)
    (made : routesOf passHostHeader addresses = .ok routes) :
    ∃ others, routesOf passHostHeader permuted = .ok others ∧ others.Perm routes := by
  obtain ⟨allMade, distinct⟩ := routesOf_eq_ok_iff.mp made
  obtain ⟨others, othersMade, sameRoutes⟩ := List.perm_comp_forall₂ reordered allMade
  refine ⟨others, routesOf_eq_ok_iff.mpr ⟨othersMade, ?_⟩, sameRoutes⟩
  exact (sameRoutes.map (·.pattern)).nodup_iff.mpr distinct

/-- A router has one route for each of its addresses, in order, with mounts that all
differ. The route of a path is the only one whose mount covers it and is longer than
every other that does; without such a mount there is none. The order of addresses makes
no difference to routes. Addresses make no router exactly if one of them is at fault
behind those before it, and the error tells the first fault. -/
theorem lookup_is_determined
    (passHostHeader : Bool)
    (options : ForwardOptions)
    (addresses : List String) :
    (∀ router, ofAddresses passHostHeader options addresses = .ok router →
      List.Forall₂
          (fun given route => ∃ url, Url.ofText given = .ok url ∧ url.IsMountable ∧
          route = ⟨url.mount, url.routeTarget passHostHeader⟩) addresses router.routes ∧
        (router.routes.map (·.pattern)).Nodup ∧
        (∀ path,
          (router.route? path = none ↔ ∀ route ∈ router.routes,
            route.pattern.covers path = false) ∧
          ∀ route, router.route? path = some route ↔ IsMeant router.routes path route) ∧
        ∀ permuted, permuted.Perm addresses →
          ∃ other, ofAddresses passHostHeader options permuted = .ok other ∧
            ∀ path, other.route? path = router.route? path) ∧
      ((∃ router, ofAddresses passHostHeader options addresses = .ok router) ↔
        Faultless addresses) ∧
      ∀ cause, ofAddresses passHostHeader options addresses = .error cause ↔
        ∃ before given after, addresses = before ++ given :: after ∧ Faultless before ∧
          Fault before given cause := by
  refine ⟨?_, ?_, ?_⟩
  · intro router mounted
    obtain ⟨made, isOptions⟩ := ofAddresses_eq_ok_iff.mp mounted
    have wellMounted := wellMounted_of_routesOf made
    refine ⟨?_, wellMounted.distinct, ?_, ?_⟩
    · exact (routesOf_eq_ok_iff.mp made).1.imp fun _ _ isRoute =>
        Route.ofText_eq_ok_iff.mp isRoute
    · exact fun path => ⟨route?_eq_none_iff, fun route => route?_eq_some_iff wellMounted⟩
    · intro permuted reordered
      obtain ⟨others, othersMade, sameRoutes⟩ := exists_routesOf_of_perm reordered made
      refine ⟨⟨others, options⟩, ofAddresses_eq_ok_iff.mpr ⟨othersMade, rfl⟩, ?_⟩
      exact route?_eq_of_perm sameRoutes.symm wellMounted
  · rw [← exists_routesOf_iff_faultless]
    constructor
    · rintro ⟨router, mounted⟩
      exact ⟨router.routes, (ofAddresses_eq_ok_iff.mp mounted).1⟩
    · rintro ⟨routes, made⟩
      exact ⟨⟨routes, options⟩, ofAddresses_eq_ok_iff.mpr ⟨made, rfl⟩⟩
  · intro cause
    rw [ofAddresses_eq_error_iff, routesOf_eq_error_iff_fault]
    simp only [exists_routesOf_iff_faultless]

/-- Addresses of three backends, each of which is mounted below the one before. -/
def nestedAddresses : List String :=
  ["http://127.0.0.1:8001/", "http://127.0.0.1:8002/api/",
   "http://127.0.0.1:8003/api/v2/"]

/-- In whatever order the three backends are configured, the innermost one answers the
paths below it. -/
theorem innermost_backend_answers :
    ∀ permuted, permuted.Perm nestedAddresses →
      ∃ router, ofAddresses true ⟨none, 1024⟩ permuted = .ok router ∧
        router.route? "/api/v2/users" =
          some ⟨.subtree "/api/v2/",
            .proxy ⟨"http://127.0.0.1:8003", "127.0.0.1:8003", true⟩⟩ := by
  intro permuted reordered
  obtain ⟨mounts, -, -⟩ := lookup_is_determined true ⟨none, 1024⟩ nestedAddresses
  have mounted : ∃ router, ofAddresses true ⟨none, 1024⟩ nestedAddresses = .ok router ∧
      router.route? "/api/v2/users" =
        some ⟨.subtree "/api/v2/",
          .proxy ⟨"http://127.0.0.1:8003", "127.0.0.1:8003", true⟩⟩ := by
    refine ⟨⟨[⟨.subtree "/", .proxy ⟨"http://127.0.0.1:8001", "127.0.0.1:8001", true⟩⟩,
      ⟨.subtree "/api/", .proxy ⟨"http://127.0.0.1:8002", "127.0.0.1:8002", true⟩⟩,
      ⟨.subtree "/api/v2/", .proxy ⟨"http://127.0.0.1:8003", "127.0.0.1:8003", true⟩⟩],
      ⟨none, 1024⟩⟩, ?_⟩
    decide +kernel
  obtain ⟨router, isRouter, isRoute⟩ := mounted
  obtain ⟨-, -, -, anyOrder⟩ := mounts router isRouter
  obtain ⟨other, isOther, same⟩ := anyOrder permuted reordered
  exact ⟨other, isOther, (same _).trans isRoute⟩

end Router
end Gatehouse
