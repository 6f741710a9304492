import Gatehouse.Routing.FileServer
import Gatehouse.Routing.Pattern
import Gatehouse.Routing.ReverseProxy

/-!
# Routes

Each address in the configuration mounts a backend or a directory. A request is
delivered to the most specific mount of its path.
-/

namespace Gatehouse

/-- What answers the requests of a mount. -/
inductive RouteTarget
  | proxy (proxy : ReverseProxy)
  | files (server : FileServer)
  deriving DecidableEq, Repr

/-- A mount and what answers its requests. -/
structure Route where
  pattern : PathPattern
  target : RouteTarget
  deriving DecidableEq, Repr

/-- Why addresses make no router. -/
inductive RouterError
  | invalidUrl (given : String) (cause : UrlError)
  | unknownScheme (scheme given : String)
  | duplicateMount (mount : String)
  deriving DecidableEq, Repr

/-- The text that reports the error. -/
def RouterError.message : RouterError → String
  | .invalidUrl given cause =>
      "error parsing upstream " ++ Text.Quoted.text given ++ ": " ++ cause.message
  | .unknownScheme scheme given =>
      "unknown upstream protocol " ++ Text.Quoted.text scheme ++ " in " ++ given
  | .duplicateMount mount =>
      "upstream path " ++ Text.Quoted.text mount ++ " is registered twice"

/-- The route of an address. Backends are mounted at the path of their address.
Directories are mounted at the fragment, or else at their own path. -/
def Route.ofText (passHostHeader : Bool) (given : String) : Except RouterError Route :=
  match Url.ofText given with
  | .error cause => .error (.invalidUrl given cause)
  | .ok url =>
      if url.scheme = "http" ∨ url.scheme = "https" then
        .ok ⟨PathPattern.ofText url.path, .proxy (ReverseProxy.ofUrl url passHostHeader)⟩
      else if url.scheme = "file" then
        let pattern := PathPattern.ofText ((url.fragment.filter (· != "")).getD url.path)
        .ok ⟨pattern, .files ⟨pattern.text, url.path⟩⟩
      else .error (.unknownScheme url.scheme given)

/-- The routes of a server, in the order in which they are configured. -/
structure Router where
  routes : List Route
  options : ForwardOptions
  deriving DecidableEq, Repr

namespace Router

/-- The routes with one more; a mount must not be taken twice. -/
def addRoute (routes : List Route) (route : Route) : Except RouterError (List Route) :=
  if routes.any fun earlier => earlier.pattern == route.pattern then
    .error (.duplicateMount route.pattern.text)
  else .ok (routes ++ [route])

/-- The routes of addresses. The first address that cannot be mounted makes all of them
fail. -/
def routesOf
    (passHostHeader : Bool)
    (addresses : List String) : Except RouterError (List Route) :=
  addresses.foldlM (fun routes given => do
    let route ← Route.ofText passHostHeader given
    addRoute routes route) []

/-- The router of addresses. -/
def ofAddresses
    (passHostHeader : Bool)
    (options : ForwardOptions)
    (addresses : List String) : Except RouterError Router :=
  (routesOf passHostHeader addresses).map fun routes => ⟨routes, options⟩

/-- The more specific of two routes. -/
def moreSpecific (best : Option Route) (route : Route) : Option Route :=
  match best with
  | none => some route
  | some other =>
      if other.pattern.specificity ≤ route.pattern.specificity then some route
      else some other

/-- The most specific route of a path. -/
def route? (router : Router) (path : String) : Option Route :=
  (router.routes.filter fun route => route.pattern.covers path).foldl moreSpecific none

/-- Deliver a request to its mount. -/
def deliver
    (router : Router)
    (backends : Backends)
    (store : FileStore)
    (client : Option Address)
    (request : Request) : Delivery :=
  match router.route? request.path with
  | none => ⟨Response.ofText 404 "404 page not found", none, none⟩
  | some route =>
      match route.target with
      | .proxy proxy =>
          proxy.forward router.options backends route.pattern.text client request
      | .files server => server.serve store request

end Router
end Gatehouse
