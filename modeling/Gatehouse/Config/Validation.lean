import Gatehouse.Config.Schema
import Gatehouse.Crypto.Cipher
import Gatehouse.Crypto.Mac
import Gatehouse.Net.AddressRange
import Gatehouse.Regex.Pattern
import Gatehouse.Url.Basic

/-!
# Checking a configuration

What is wrong with a configuration, setting by setting. All problems are reported, in
the order of the settings.
-/

namespace Gatehouse
namespace Config

/-- Something that is wrong with a setting. -/
inductive Problem
  | endpoint (field given : String)
  | missing (field : String)
  | zero (field : String)
  | cookieHash (unknown : Crypto.HashAlgorithm.Unknown)
  | refreshTooLate (refresh expire : Nat)
  | keyLength (length : Nat)
  | proxyStart
  | unknownScheme (scheme given : String)
  | url (given : String) (cause : UrlError)
  | signatureForm
  | signatureHash (unknown : Crypto.HashAlgorithm.Unknown)
  | pattern (given : String)
  | range (invalid : AddressRange.Invalid)
  | placeholder
  deriving DecidableEq, Repr

namespace Problem

/-- The setting that is wrong. -/
def field : Problem → String
  | .endpoint field _ => field
  | .missing field => field
  | .zero field => field
  | .cookieHash _ => "cookie.hash"
  | .refreshTooLate _ _ => "cookie.refresh_secs"
  | .keyLength _ => "cookie.secret"
  | .proxyStart => "proxy.prefix"
  | .unknownScheme _ _ => "proxy.upstreams"
  | .url _ _ => "proxy.upstreams"
  | .signatureForm => "proxy.signature_key"
  | .signatureHash _ => "proxy.signature_key"
  | .pattern _ => "skip_auth.regex"
  | .range _ => "skip_auth.ips"
  | .placeholder => "ldap.user_filter"

/-- What is wrong with it. The mistake inside a pattern is not described. -/
def message : Problem → String
  | .endpoint _ given => "invalid socket address " ++ Text.Quoted.text given
  | .missing _ => "missing setting"
  | .zero _ => "must be greater than 0"
  | .cookieHash unknown => unknown.message
  | .refreshTooLate refresh expire =>
      "must be less than cookie.expire_secs (" ++ Text.Decimal.natural refresh ++ " >= "
        ++ Text.Decimal.natural expire ++ ")"
  | .keyLength length =>
      "must be 16, 24 or 32 bytes to encrypt cookies, but is "
        ++ Text.Decimal.natural length ++ " bytes"
  | .proxyStart => "must start with '/' and must not end with '/'"
  | .unknownScheme scheme given =>
      "unknown upstream protocol " ++ Text.Quoted.text scheme ++ " in " ++ given
  | .url given cause =>
      "error parsing " ++ Text.Quoted.text given ++ ": " ++ cause.message
  | .signatureForm => "must be of the form algorithm:secret"
  | .signatureHash unknown => unknown.message
  | .pattern given => "error compiling " ++ Text.Quoted.text given ++ ": "
  | .range invalid => invalid.message
  | .placeholder => "must contain %s"

/-- The setting and what is wrong with it. -/
def text (problem : Problem) : String :=
  problem.field ++ ": " ++ problem.message

end Problem

/-- A problem, if there is one. -/
def problemIf (wrong : Bool) (problem : Problem) : List Problem :=
  if wrong then [problem] else []

/-- Whether a text is the address of a socket. -/
def isEndpoint (text : String) : Bool :=
  (Endpoint.ofText? text).isSome

/-- The problems of the cookie. -/
def Cookie.problems (cookie : Cookie) : List Problem :=
  let key := Crypto.Cipher.secretBytes cookie.secret
  problemIf (cookie.name == "") (.missing "cookie.name")
    ++ problemIf (cookie.secret == "") (.missing "cookie.secret")
    ++ (match Crypto.HashAlgorithm.ofName cookie.hash with
        | .error unknown => [.cookieHash unknown]
        | .ok _ => [])
    ++ problemIf (cookie.expire == 0) (.zero "cookie.expire_secs")
    ++ problemIf (cookie.refresh != 0 && cookie.expire ≤ cookie.refresh)
        (.refreshTooLate cookie.refresh cookie.expire)
    ++ problemIf (cookie.refresh != 0 && !Crypto.isKeyLength key.length &&
      cookie.secret != "")
        (.keyLength key.length)

/-- The problem of the address of a backend or a directory, if it has one. -/
def addressProblems (given : String) : List Problem :=
  match Url.ofText given with
  | .ok url =>
      problemIf (!(["http", "https", "file"].contains url.scheme))
        (.unknownScheme url.scheme given)
  | .error cause => [.url given cause]

/-- The problem of the key for signatures, if it has one. -/
def signatureProblems (key : String) : List Problem :=
  match Text.splitOnce? ":" key with
  | none => [.signatureForm]
  | some (name, secret) =>
      if secret = "" then [.signatureForm]
      else
        match Crypto.HashAlgorithm.ofName name with
        | .error unknown => [.signatureHash unknown]
        | .ok _ => []

/-- Whether a start of paths begins with a slash and, unless it is nothing else, does
not end with one. -/
def isProxyStart (start : String) : Bool :=
  Text.startsWith "/" start && !(1 < start.utf8ByteSize && Text.endsWith "/" start)

/-- The problems of the backends. -/
def Proxy.problems (proxy : Proxy) : List Problem :=
  problemIf (!isProxyStart proxy.start) .proxyStart
    ++ problemIf proxy.addresses.isEmpty (.missing "proxy.upstreams")
    ++ proxy.addresses.flatMap addressProblems
    ++ (proxy.signatureKey.map signatureProblems).getD []
    ++ problemIf (proxy.maxBodySize == 0) (.zero "proxy.max_body_bytes")

/-- The problems of the requests that pass. -/
def SkipAuth.problems (skipAuth : SkipAuth) : List Problem :=
  (skipAuth.patterns.filter fun given => (Regex.ofText? given).isNone).map .pattern
    ++ skipAuth.ranges.flatMap fun given =>
        match AddressRange.ofText given with
        | .ok _ => []
        | .error invalid => [.range invalid]

/-- The problems of the directory, if it is used. -/
def DirectoryServer.problems (server : DirectoryServer) : List Problem :=
  if server.enabled then
    problemIf (server.host == "") (.missing "ldap.host")
      ++ problemIf (server.baseDn == "") (.missing "ldap.base_dn")
      ++ problemIf (Text.splitOnce? "%s" server.userFilter).isNone .placeholder
  else []

/-- The problems of the times. -/
def Timeouts.problems (timeouts : Timeouts) : List Problem :=
  problemIf (timeouts.request == 0) (.zero "timeouts.request_secs")
    ++ problemIf (timeouts.connect == 0) (.zero "timeouts.upstream_connect_secs")

end Config

/-- Everything that is wrong with a configuration. -/
def Config.problems (config : Config) : List Config.Problem :=
  Config.problemIf (!Config.isEndpoint config.listener.bindAddress)
      (.endpoint "listener.bind_address" config.listener.bindAddress)
    ++ config.cookie.problems
    ++ config.proxy.problems
    ++ config.skipAuth.problems
    ++ config.ldap.problems
    ++ config.timeouts.problems
    ++ Config.problemIf
        (config.observability.metricsEnabled
          && !Config.isEndpoint config.observability.metricsAddress)
        (.endpoint "observability.metrics_address" config.observability.metricsAddress)

/-- Whether nothing is wrong with a configuration. -/
def Config.isValid (config : Config) : Bool :=
  config.problems.isEmpty

end Gatehouse
