import Gatehouse.Auth.Engine
import Gatehouse.Auth.SignIn
import Gatehouse.Text.Decimal

/-!
# Counters

What the proxy counts, and the keys of its counters.
-/

namespace Gatehouse

/-- Which part of the proxy answers a request. -/
inductive RequestKind
  | robots
  | ping
  | bypass
  | signIn
  | signOut
  | auth
  | proxy
  deriving DecidableEq, Repr

/-- The name of a part in the counters. -/
def RequestKind.name : RequestKind → String
  | .robots => "robots"
  | .ping => "ping"
  | .bypass => "bypass"
  | .signIn => "sign_in"
  | .signOut => "sign_out"
  | .auth => "auth"
  | .proxy => "proxy"

/-- The name of a decision in the counters. -/
def Decision.name : Decision → String
  | .accept _ => "accept"
  | .reject => "reject"
  | .internalError => "internal_error"

/-- Something that is counted. -/
inductive Metric
  | request (kind : RequestKind) (status : Nat)
  | decision (decision : Decision)
  | signIn (provider : SignInProvider) (result : SignInResult)
  /-- The time that a mount took to answer. -/
  | answerTime (mount : String)
  deriving DecidableEq, Repr

/-- The name of a counter with its labels. -/
def Metric.labelled (name : String) (labels : List (String × String)) : String :=
  name ++ "\x7b" ++ String.intercalate ","
    (labels.map fun (label, value) => label ++ "=" ++ value) ++ "\x7d"

/-- The key of the counter of something. -/
def Metric.key : Metric → String
  | .request kind status =>
      labelled "lap_requests_total"
        [("kind", kind.name), ("status", Text.Decimal.natural status)]
  | .decision taken => labelled "lap_auth_decisions_total" [("decision", taken.name)]
  | .signIn provider result =>
      labelled "lap_sign_in_total" [("provider", provider.name), ("result", result.name)]
  | .answerTime mount => labelled "lap_upstream_duration_seconds" [("route", mount)]

end Gatehouse
