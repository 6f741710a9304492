import Gatehouse.Credentials.Htpasswd
import Gatehouse.Directory.Basic
import Gatehouse.Session.Basic

/-!
# Signing in

A user name and a password are tried on the password file first and on the directory
next. Users of the directory have to be in an allowed group. Each attempt is counted
under who decided it and with which result.
-/

namespace Gatehouse

/-- What checks user names and passwords. -/
structure SignInService where
  htpasswd : Option Htpasswd
  directory : Option Directory
  groups : GroupPolicy

/-- The result of an attempt to sign in. -/
inductive SignInOutcome
  | authenticated (session : Session)
  | failed
  | denied
  deriving DecidableEq, Repr

/-- Who decides an attempt. -/
inductive SignInProvider
  | htpasswd
  | directory
  | nobody
  deriving DecidableEq, Repr

/-- The name of a provider in the counters. -/
def SignInProvider.name : SignInProvider → String
  | .htpasswd => "htpasswd"
  | .directory => "ldap"
  | .nobody => "none"

/-- The results that are counted. -/
inductive SignInResult
  | success
  | failure
  | denied
  deriving DecidableEq, Repr

/-- The name of a result in the counters. -/
def SignInResult.name : SignInResult → String
  | .success => "success"
  | .failure => "failure"
  | .denied => "denied"

/-- The result to which an outcome belongs. -/
def SignInOutcome.result : SignInOutcome → SignInResult
  | .authenticated _ => .success
  | .failed => .failure
  | .denied => .denied

instance : Coe SignInOutcome SignInResult := ⟨SignInOutcome.result⟩

/-- One count of an attempt. -/
structure SignInSample where
  provider : SignInProvider
  result : SignInResult
  deriving DecidableEq, Repr

/-- An attempt to sign in: its outcome, who decided it, what was asked of the directory,
and what was counted. -/
structure SignInAttempt where
  outcome : SignInOutcome
  provider : SignInProvider
  calls : List DirectoryCall
  samples : List SignInSample
  deriving DecidableEq, Repr

/-- The session of an identity. -/
def Session.ofIdentity (identity : Identity) : Session :=
  match identity.email with
  | some email => (Session.ofUser identity.user).withEmail email
  | none => Session.ofUser identity.user

/-- Try to sign in. -/
def SignInService.attempt
    (service : SignInService)
    (user password : String) : SignInAttempt :=
  match service.htpasswd.bind (·.identify? user password) with
  | some identity =>
      { outcome := .authenticated (Session.ofIdentity identity), provider := .htpasswd
        calls := [], samples := [⟨.htpasswd, .success⟩] }
  | none =>
      match service.directory with
      | none =>
          { outcome := .failed, provider := .nobody, calls := [],
            samples := [⟨.nobody, .failure⟩] }
      | some directory =>
          let asked := directory.identify user password
          match asked.identity with
          | none =>
              { outcome := .failed, provider := .directory
                calls := asked.calls, samples := [⟨.directory, .failure⟩] }
          | some identity =>
              if service.groups.permits identity.groups then
                { outcome := .authenticated (Session.ofIdentity identity),
                  provider := .directory
                  calls := asked.calls, samples := [⟨.directory, .success⟩] }
              else
                { outcome := .denied, provider := .directory
                  calls := asked.calls, samples := [⟨.directory, .denied⟩] }

end Gatehouse
