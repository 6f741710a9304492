import Gatehouse.Directory.Basic
import Gatehouse.Directory.Filter
import Gatehouse.Text.Decimal
import Gatehouse.Text.Utf8

/-!
# The directory protocol

One attempt to identify a user by a directory server: the service account binds, the
user's entry is searched for, the entry binds with the user's password, the service
account binds again, and the groups of the entry are searched for. Each request is
answered by a reply of the server, or by nothing because the connection fails; the
connection is always unbound at the end. A server, with its settings, is a directory.
-/

namespace Gatehouse
namespace Ldap

/-- How a directory server is reached and asked. -/
structure Settings where
  host : String
  port : Nat
  useTls : Bool
  insecureSkipVerify : Bool
  baseDn : String
  bindDn : String
  bindPassword : String
  userFilter : String
  groupFilter : String
  attributes : List String
  connectTimeout : Nat
  deriving DecidableEq, Repr

/-- The address of the server. -/
def Settings.url (settings : Settings) : String :=
  (if settings.useTls then "ldaps" else "ldap") ++ "://" ++ settings.host ++ ":"
    ++ Text.Decimal.natural settings.port

/-- A request to the server. Searches cover the whole subtree of their base. -/
inductive Request
  | bind (name password : String)
  | search (base filter : String) (attributes : List String)
  | unbind
  deriving DecidableEq, Repr

/-- The result that ends the reply to a request. -/
structure Result where
  code : Nat
  matched : String
  text : String
  deriving DecidableEq, Repr

/-- The standard names of result codes. -/
def resultName : Nat → String
  | 0 => "success"
  | 1 => "operationsError"
  | 2 => "protocolError"
  | 3 => "timeLimitExceeded"
  | 4 => "sizeLimitExceeded"
  | 5 => "compareFalse"
  | 6 => "compareTrue"
  | 7 => "authMethodNotSupported"
  | 8 => "strongerAuthRequired"
  | 10 => "referral"
  | 11 => "adminLimitExceeded"
  | 12 => "unavailableCriticalExtension"
  | 13 => "confidentialityRequired"
  | 14 => "saslBindInProgress"
  | 16 => "noSuchAttribute"
  | 17 => "undefinedAttributeType"
  | 18 => "inappropriateMatching"
  | 19 => "constraintViolation"
  | 20 => "attributeOrValueExists"
  | 21 => "invalidAttributeSyntax"
  | 32 => "noSuchObject"
  | 33 => "aliasProblem"
  | 34 => "invalidDNSyntax"
  | 36 => "aliasDereferencingProblem"
  | 48 => "inappropriateAuthentication"
  | 49 => "invalidCredentials"
  | 50 => "insufficientAccessRights"
  | 51 => "busy"
  | 52 => "unavailable"
  | 53 => "unwillingToPerform"
  | 54 => "loopDetect"
  | 64 => "namingViolation"
  | 65 => "objectClassViolation"
  | 66 => "notAllowedOnNonLeaf"
  | 67 => "notAllowedOnRDN"
  | 68 => "entryAlreadyExists"
  | 69 => "objectClassModsProhibited"
  | 71 => "affectsMultipleDSAs"
  | 80 => "other"
  | 88 => "abandoned"
  | 122 => "assertionFailed"
  | _ => "unknown"

/-- The text that reports a result other than success. -/
def Result.message (result : Result) : String :=
  "LDAP operation result: rc=" ++ Text.Decimal.natural result.code ++ " ("
    ++ resultName result.code ++ "), dn: \"" ++ result.matched ++ "\", text: \""
    ++ result.text ++ "\""

/-- An entry as the server sends it: attributes with octets as values. -/
structure RawEntry where
  name : String
  attributes : List (String × List Bytes)
  deriving DecidableEq, Repr

/-- The entry with the attributes whose values are all texts. Of several attributes of
one name the last one counts. -/
def RawEntry.entry (raw : RawEntry) : DirectoryEntry :=
  ⟨raw.name, raw.attributes.reverse.filterMap fun (name, values) =>
    (values.mapM Text.Utf8.decode?).map fun texts => (name, texts)⟩

/-- A reply of the server. -/
structure Reply where
  result : Result
  entries : List RawEntry
  deriving DecidableEq, Repr

/-- What comes of a request. -/
inductive Answer
  | received (reply : Reply)
  /-- There is no reply: the connection is gone, or what came cannot be read. -/
  | failed (cause : String)
  deriving DecidableEq, Repr

/-- The reply, if there is one and it reports success. -/
def Answer.require (refuse : String → DirectoryError) :
    Answer → Except DirectoryError Reply
  | .received reply =>
      if reply.result.code = 0 then .ok reply else .error (refuse reply.result.message)
  | .failed cause => .error (refuse cause)

/-- What comes of the requests that are still going to be made. -/
structure Script where
  /-- The answers to the next requests. -/
  answers : List Answer
  /-- The answer to every request behind those. -/
  afterwards : Answer
  deriving DecidableEq, Repr

namespace Script

/-- The answer to the next request. -/
def next (script : Script) : Answer :=
  script.answers.headD script.afterwards

/-- What is left behind some requests. -/
def behind (script : Script) (count : Nat) : Script :=
  { script with answers := script.answers.drop count }

theorem behind_zero (script : Script) : script.behind 0 = script := rfl

theorem behind_succ
    (script : Script)
    (count : Nat) :
    script.behind (count + 1) = (script.behind 1).behind count := by
  simp only [behind, List.drop_drop, Nat.add_comm]

theorem behind_add
    (script : Script)
    (first second : Nat) :
    script.behind (first + second) = (script.behind first).behind second := by
  simp only [behind, List.drop_drop]

end Script

/-- A conversation with the server. -/
structure Conversation where
  /-- What is still going to come of requests. -/
  script : Script
  /-- The requests that have been made, the latest one in front. -/
  requests : List Request

/-- A step of a conversation, which may fail. -/
abbrev Step (α : Type) := ExceptT DirectoryError (StateM Conversation) α

/-- Make a request and take the answer. -/
def exchange (request : Request) : Step Answer := do
  let conversation ← get
  set (Conversation.mk (conversation.script.behind 1) (request :: conversation.requests))
  return conversation.script.next

/-- Make a request and require success. -/
def succeed (request : Request) (refuse : String → DirectoryError) : Step Reply := do
  match (← exchange request).require refuse with
  | .ok reply => return reply
  | .error cause => throw cause

/-- Bind and require success. -/
def bindAs (name password : String) : Step Unit := do
  let _ ← succeed (.bind name password) .bind

/-- Bind as the service account, if there is one. -/
def bindService (settings : Settings) : Step Unit :=
  if settings.bindDn = "" then return () else bindAs settings.bindDn settings.bindPassword

/-- Search and require success. A filter that is not well formed is not sent. -/
def search (settings : Settings) (filter : String) (attributes : List String) :
    Step (List RawEntry) := do
  if (Filter.ofText? filter).isNone then throw (.search "filter parse error")
  let reply ← succeed (.search settings.baseDn filter attributes) .search
  return reply.entries

/-- The code of a bind that is refused because of the password. -/
def invalidCredentials : Nat := 49

/-- The entry of a user: the only one that the search for the user finds. -/
def findEntry (settings : Settings) (user : String) : Step RawEntry := do
  let entries ←
    search settings (Filter.render settings.userFilter user) settings.attributes
  match entries with
  | [] => throw (.unknownUser user)
  | [raw] => return raw
  | _ => throw (.ambiguousUser user)

/-- Bind as an entry to see whether the password is right. -/
def checkPassword (name password : String) : Step Bool := do
  match ← exchange (.bind name password) with
  | .failed cause => throw (.bind cause)
  | .received reply =>
      if reply.result.code = invalidCredentials then return false
      else if reply.result.code = 0 then return true
      else throw (.bind reply.result.message)

/-- Find the entry of a user and check the password. A wrong password yields no entry. -/
def authenticate
    (settings : Settings)
    (user password : String) : Step (Option DirectoryEntry) := do
  bindService settings
  let raw ← findEntry settings user
  if ← checkPassword raw.name password then
    bindService settings
    return some raw.entry
  else return none

/-- The names of the groups of an entry: the first common name of each group that has
one. -/
def groupsOf (settings : Settings) (name : String) : Step (List String) := do
  let entries ← search settings (Filter.render settings.groupFilter name) ["cn"]
  return entries.filterMap fun raw => raw.entry.first? "cn"

/-- The whole attempt over an open connection, without the unbinding. -/
def consultStep
    (settings : Settings)
    (user password : String) : StateM Conversation Consultation := do
  match ← (authenticate settings user password).run with
  | .error cause => return .failed cause
  | .ok none => return .refused
  | .ok (some entry) =>
      let groups ← (groupsOf settings entry.name).run
      return .found entry groups

/-- Consult a server over an open connection. The second component lists the requests
that are made, in order. -/
def consult (settings : Settings) (script : Script) (user password : String) :
    Consultation × List Request :=
  let (outcome, conversation) := (consultStep settings user password).run ⟨script, []⟩
  (outcome, conversation.requests.reverse ++ [.unbind])

/-- A server: what is going to come of requests, or why no connection can be opened. -/
abbrev Server := Except String Script

/-- The directory that a server provides. -/
def directory (settings : Settings) (server : Server) : Directory := fun user password =>
  match server with
  | .error cause => .unreachable (.connect cause)
  | .ok script => (consult settings script user password).1

/-- An attempt to identify somebody by a server, with the requests that are made. -/
structure Attempt extends DirectoryAttempt where
  requests : List Request
  deriving DecidableEq, Repr

/-- Try to identify somebody by a server. Requests are made only if the server is asked
at all and lets a connection be opened. -/
def attempt (settings : Settings) (server : Server) (user password : String) : Attempt :=
  let asked := (directory settings server).identify user password
  let requests := match server with
    | .error _ => []
    | .ok script =>
        if .connect ∈ asked.calls then (consult settings script user password).2 else []
  { asked with requests }

end Ldap
end Gatehouse
