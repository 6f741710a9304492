import Gatehouse.Text.Blank

/-!
# Paths of the proxy

The paths that the proxy answers itself, and the destinations to which it sends a client
after signing in.
-/

namespace Gatehouse

/-- The path of the file for crawlers. -/
def robotsPath : String := "/robots.txt"

/-- The path that tells whether the proxy runs. -/
def pingPath : String := "/ping"

/-- The paths under the configured start. -/
structure SystemPaths where
  start : String
  signIn : String
  signOut : String
  auth : String
  deriving DecidableEq, Repr

/-- The paths under a start; slashes at its end do not matter. -/
def SystemPaths.under (start : String) : SystemPaths :=
  let bare := String.ofList (Text.trimLast (· == '/') start.toList)
  ⟨bare, bare ++ "/sign_in", bare ++ "/sign_out", bare ++ "/auth"⟩

/-- A destination on this server. Anything that does not begin with exactly one slash is
replaced by the root. -/
def localDestination (target : String) : String :=
  match target.toList with
  | '/' :: '/' :: _ => "/"
  | '/' :: _ => target
  | _ => "/"

end Gatehouse
