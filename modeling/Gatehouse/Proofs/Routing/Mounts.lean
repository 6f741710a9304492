import Gatehouse.Proofs.Outcome
import Gatehouse.Routing.Router
import Mathlib.Data.List.Forall2
import Mathlib.Data.List.Nodup
import Mathlib.Data.Option.Basic

/-!
# Where addresses are mounted

A router mounts its addresses one after another. It stops at the first one that cannot
be read, has a scheme that nothing answers, or takes the mount of an earlier one. If
there is none, every address has a route, in order, and all the mounts differ.
-/

namespace Gatehouse

/-- An address can be mounted if it is one of the web or of a file. -/
def Url.IsMountable (url : Url) : Prop :=
  url.scheme = "http" ∨ url.scheme = "https" ∨ url.scheme = "file"

/-- The mount of an address: its path or, for a file with a fragment, the fragment. -/
def Url.mount (url : Url) : PathPattern :=
  if url.scheme = "file" then
    PathPattern.ofText ((url.fragment.filter (· != "")).getD url.path)
  else PathPattern.ofText url.path

/-- The mount of an address, if it can be read. -/
def mountOf? (given : String) : Option PathPattern :=
  (Url.ofText given).toOption.map Url.mount

namespace Route

variable {passHostHeader : Bool}
variable {given : String}
variable {route : Route}

/-- The addresses that have a route are those that can be read and mounted. -/
theorem exists_ofText_iff :
    (∃ route, ofText passHostHeader given = .ok route) ↔
      ∃ url, Url.ofText given = .ok url ∧ url.IsMountable := by
  unfold ofText Url.IsMountable
  cases read : Url.ofText given with
  | error cause => simp
  | ok url =>
      by_cases web : url.scheme = "http" ∨ url.scheme = "https"
      · simp [web, ← or_assoc]
      · by_cases file : url.scheme = "file"
        · simp [file]
        · simp [web, file, ← or_assoc]

/-- The route of an address has its mount. -/
theorem mountOf?_of_ofText
    (made : ofText passHostHeader given = .ok route) :
    mountOf? given = some route.pattern := by
  unfold ofText at made
  split at made
  · cases made
  rename_i url read
  have mounted : mountOf? given = some url.mount := by
    rw [mountOf?, read]
    rfl
  rw [mounted, Url.mount]
  split at made
  · rename_i web
    have notFile : url.scheme ≠ "file" := by
      rcases web with isHttp | isHttps
      · rw [isHttp]
        decide
      · rw [isHttps]
        decide
    cases made
    rw [if_neg notFile]
  · split at made
    · rename_i isFile
      cases made
      rw [if_pos isFile]
    · cases made

end Route

namespace Router

variable {passHostHeader : Bool}
variable {addresses : List String}
variable {earlier routes : List Route}
variable {cause : RouterError}

/-- A route is added behind the others if they leave its mount free. -/
theorem addRoute_of_free
    {route : Route}
    (free : route.pattern ∉ earlier.map (·.pattern)) :
    addRoute earlier route = .ok (earlier ++ [route]) := by
  have absent : earlier.any (fun other => other.pattern == route.pattern) = false := by
    rw [List.any_eq_false]
    intro other present sameMount
    exact free (List.mem_map.mpr ⟨other, present, beq_iff_eq.mp sameMount⟩)
  unfold addRoute
  rw [absent]
  rfl

/-- A route whose mount is taken is refused, and the mount is named. -/
theorem addRoute_of_taken
    {route : Route}
    (taken : route.pattern ∈ earlier.map (·.pattern)) :
    addRoute earlier route = .error (.duplicateMount route.pattern.text) := by
  obtain ⟨other, present, sameMount⟩ := List.mem_map.mp taken
  have found : earlier.any (fun other => other.pattern == route.pattern) = true :=
    List.any_eq_true.mpr ⟨other, present, beq_iff_eq.mpr sameMount⟩
  unfold addRoute
  rw [found]
  rfl

/-- One step of a router: read an address and mount it behind the others. -/
def mountNext (passHostHeader : Bool) (routes : List Route) (given : String) :
    Except RouterError (List Route) :=
  (Route.ofText passHostHeader given).bind (addRoute routes)

/-- A step succeeds if the address has a route and its mount is free. -/
theorem mountNext_eq_ok_iff
    {given : String} :
    mountNext passHostHeader earlier given = .ok routes ↔
      ∃ route, Route.ofText passHostHeader given = .ok route ∧
        route.pattern ∉ earlier.map (·.pattern) ∧ routes = earlier ++ [route] := by
  unfold mountNext
  cases made : Route.ofText passHostHeader given with
  | error cause => simp [Except.bind]
  | ok route =>
      by_cases taken : route.pattern ∈ earlier.map (·.pattern)
      · simp [-List.mem_map, Except.bind, addRoute_of_taken taken, taken]
      · simp [-List.mem_map, Except.bind, addRoute_of_free taken, taken, eq_comm]

/-- A step fails if the address has no route, or if its mount is taken. -/
theorem mountNext_eq_error_iff
    {given : String} :
    mountNext passHostHeader earlier given = .error cause ↔
      Route.ofText passHostHeader given = .error cause ∨
        ∃ route, Route.ofText passHostHeader given = .ok route ∧
          route.pattern ∈ earlier.map (·.pattern) ∧
          cause = .duplicateMount route.pattern.text := by
  unfold mountNext
  cases made : Route.ofText passHostHeader given with
  | error cause => simp [Except.bind]
  | ok route =>
      by_cases taken : route.pattern ∈ earlier.map (·.pattern)
      · simp [-List.mem_map, Except.bind, addRoute_of_taken taken, taken, eq_comm]
      · simp [-List.mem_map, Except.bind, addRoute_of_free taken, taken]

theorem routesOf_eq_foldlM :
    routesOf passHostHeader addresses = addresses.foldlM (mountNext passHostHeader) [] :=
  rfl

/-- Mounts with one more all differ if they did and the new one is free. -/
theorem nodup_concat_iff
    {route : Route} :
    ((earlier ++ [route]).map (·.pattern)).Nodup ↔
      (earlier.map (·.pattern)).Nodup ∧ route.pattern ∉ earlier.map (·.pattern) := by
  rw [List.map_append, List.map_singleton, ← List.concat_eq_append, List.nodup_concat]
  exact And.comm

/-- Mounting succeeds exactly if each address has a route and no mount is taken twice. -/
theorem foldlM_mountNext_eq_ok_iff
    (distinct : (earlier.map (·.pattern)).Nodup) :
    addresses.foldlM (mountNext passHostHeader) earlier = .ok routes ↔
      ∃ added, List.Forall₂
          (fun given route => Route.ofText passHostHeader given = .ok route)
          addresses added ∧
        ((earlier ++ added).map (·.pattern)).Nodup ∧ routes = earlier ++ added := by
  induction addresses generalizing earlier with
  | nil =>
      constructor
      · intro mounted
        cases mounted
        exact ⟨[], .nil, by rwa [List.append_nil], (List.append_nil _).symm⟩
      · rintro ⟨added, made, -, rfl⟩
        cases made
        rw [List.append_nil]
        rfl
  | cons given others inductionHypothesis =>
      rw [List.foldlM_cons]
      constructor
      · intro mounted
        obtain ⟨more, isNext, rest⟩ := Outcome.bind_eq_ok_iff.mp mounted
        obtain ⟨route, made, free, rfl⟩ := mountNext_eq_ok_iff.mp isNext
        have stillDistinct := nodup_concat_iff.mpr ⟨distinct, free⟩
        obtain ⟨added, allMade, allDistinct, isResult⟩ :=
          (inductionHypothesis stillDistinct).mp rest
        rw [← List.append_cons] at allDistinct isResult
        exact ⟨route :: added, .cons made allMade, allDistinct, isResult⟩
      · rintro ⟨all, allMade, allDistinct, rfl⟩
        cases allMade with
        | @cons _ route _ added made othersMade =>
          rw [List.append_cons] at allDistinct
          have firstDistinct : ((earlier ++ [route]).map (·.pattern)).Nodup := by
            rw [List.map_append] at allDistinct
            exact (List.nodup_append.mp allDistinct).1
          have free := (nodup_concat_iff.mp firstDistinct).2
          rw [mountNext_eq_ok_iff.mpr ⟨route, made, free, rfl⟩]
          exact (inductionHypothesis firstDistinct).mpr
            ⟨added, othersMade, allDistinct, List.append_cons ..⟩

/-- The routes of addresses are one route for each address, in order, and their mounts
differ. -/
theorem routesOf_eq_ok_iff :
    routesOf passHostHeader addresses = .ok routes ↔
      List.Forall₂ (fun given route => Route.ofText passHostHeader given = .ok route)
          addresses routes ∧
        (routes.map (·.pattern)).Nodup := by
  have noneDistinct : (([] : List Route).map (·.pattern)).Nodup := List.nodup_nil
  rw [routesOf_eq_foldlM, foldlM_mountNext_eq_ok_iff noneDistinct]
  constructor
  · rintro ⟨added, made, distinct, rfl⟩
    exact ⟨made, distinct⟩
  · rintro ⟨made, distinct⟩
    exact ⟨routes, made, distinct, rfl⟩

/-- Mounting fails at the first address that has no route or a taken mount. -/
theorem routesOf_eq_error_iff :
    routesOf passHostHeader addresses = .error cause ↔
      ∃ before given after routes, addresses = before ++ given :: after ∧
        routesOf passHostHeader before = .ok routes ∧
        (Route.ofText passHostHeader given = .error cause ∨
          ∃ route, Route.ofText passHostHeader given = .ok route ∧
            route.pattern ∈ routes.map (·.pattern) ∧
            cause = .duplicateMount route.pattern.text) := by
  simp only [routesOf_eq_foldlM, Outcome.foldlM_eq_error_iff, mountNext_eq_error_iff]

/-- Routes that have been made of addresses have each been made of one of them. -/
theorem exists_given_of_made
    (made : List.Forall₂
      (fun given route => Route.ofText passHostHeader given = .ok route)
      addresses routes)
    {route : Route}
    (present : route ∈ routes) :
    ∃ given ∈ addresses, Route.ofText passHostHeader given = .ok route := by
  induction made with
  | nil => cases present
  | cons first _ inductionHypothesis =>
      rcases List.mem_cons.mp present with rfl | isOther
      · exact ⟨_, List.mem_cons_self, first⟩
      · obtain ⟨given, isGiven, isMade⟩ := inductionHypothesis isOther
        exact ⟨given, List.mem_cons_of_mem _ isGiven, isMade⟩

/-- The mounts of addresses that have routes are those of the routes. -/
theorem map_mountOf?_of_made
    (made : List.Forall₂
      (fun given route => Route.ofText passHostHeader given = .ok route)
      addresses routes) :
    addresses.map mountOf? = (routes.map (·.pattern)).map some := by
  induction made with
  | nil => rfl
  | cons first _ inductionHypothesis =>
      rw [List.map_cons, Route.mountOf?_of_ofText first, inductionHypothesis]
      rfl

/-- The first address that has the mount of an earlier one has this mount. -/
def FirstRepeated (addresses : List String) (mount : PathPattern) : Prop :=
  ∃ before given after, addresses = before ++ given :: after ∧
    (before.map mountOf?).Nodup ∧
    mountOf? given = some mount ∧ some mount ∈ before.map mountOf?

/-- Where a mount is repeated, not all mounts differ. -/
theorem not_nodup_of_firstRepeated
    {mount : PathPattern}
    (repeated : FirstRepeated addresses mount) :
    ¬(addresses.map mountOf?).Nodup := by
  obtain ⟨before, given, after, rfl, -, isMount, taken⟩ := repeated
  intro distinct
  rw [List.map_append, List.map_cons, isMount] at distinct
  exact (List.nodup_append.mp distinct).2.2 _ taken _ List.mem_cons_self rfl

/-- If every address has a route, only a repeated mount keeps them from being mounted
together. -/
theorem firstRepeated_of_error
    (readable : ∀ given ∈ addresses, ∃ route,
      Route.ofText passHostHeader given = .ok route)
    (fails : routesOf passHostHeader addresses = .error cause) :
    ∃ mount, FirstRepeated addresses mount ∧ cause = .duplicateMount mount.text := by
  obtain ⟨before, given, after, routes, rfl, mounted, stops⟩ :=
    routesOf_eq_error_iff.mp fails
  obtain ⟨made, distinct⟩ := routesOf_eq_ok_iff.mp mounted
  have sameMounts := map_mountOf?_of_made made
  rcases stops with unreadable | ⟨route, isRoute, taken, rfl⟩
  · obtain ⟨route, isRoute⟩ := readable given (List.mem_append_right _ List.mem_cons_self)
    rw [isRoute] at unreadable
    cases unreadable
  · refine ⟨route.pattern,
      ⟨before, given, after, rfl, ?_, Route.mountOf?_of_ofText isRoute, ?_⟩, rfl⟩
    · rw [sameMounts]
      exact distinct.map (Option.some_injective _)
    · rw [sameMounts]
      exact List.mem_map_of_mem taken

/-- Addresses that have routes can be mounted together if all their mounts differ. -/
theorem exists_routesOf_iff
    (readable : ∀ given ∈ addresses, ∃ route,
      Route.ofText passHostHeader given = .ok route) :
    (∃ routes, routesOf passHostHeader addresses = .ok routes) ↔
      (addresses.map mountOf?).Nodup := by
  constructor
  · rintro ⟨routes, mounted⟩
    obtain ⟨made, distinct⟩ := routesOf_eq_ok_iff.mp mounted
    rw [map_mountOf?_of_made made]
    exact distinct.map (Option.some_injective _)
  · intro distinct
    cases mounted : routesOf passHostHeader addresses with
    | ok routes => exact ⟨routes, rfl⟩
    | error cause =>
        obtain ⟨mount, repeated, -⟩ := firstRepeated_of_error readable mounted
        exact absurd distinct (not_nodup_of_firstRepeated repeated)

end Router
end Gatehouse
