import Gatehouse.Auth.EmailAllowList
import Gatehouse.Config.Schema
import Gatehouse.Gateway.Dispatch

/-!
# Starting up

A proxy is built from its configuration and from what the configuration only names: the
password file, the directory server, and the checks of sessions that an embedding
program may supply.
-/

namespace Gatehouse

/-- What a configuration only names. -/
structure Supplies where
  /-- The content of a file, if it can be read as text. -/
  file : String → Option String
  /-- The directory server with some settings. -/
  server : Ldap.Settings → Directory
  /-- A directory to be used in place of a server. -/
  directory : Option Directory
  refresher : Session → Option Refreshed
  validator : Session → Bool

/-- Why a proxy cannot be built. The causes are looked for in this order. -/
inductive StartupError
  | hash (unknown : Crypto.HashAlgorithm.Unknown)
  | cipher (cause : Crypto.CipherError)
  | htpasswd (path : String)
  | whitelist (cause : WhitelistError)
  | signer (cause : SignerError)
  | router (cause : RouterError)
  deriving DecidableEq, Repr

/-- The text that reports the error. -/
def StartupError.message : StartupError → String
  | .hash unknown => "cookie hash: " ++ unknown.message
  | .cipher cause => "cookie secret cannot be used for encryption: " ++ cause.message
  | .htpasswd path => "htpasswd file: cannot read " ++ path
  | .whitelist cause => cause.message
  | .signer cause => "signature key: " ++ cause.message
  | .router cause => cause.message

/-- A text unless it is empty. -/
def nonEmpty (text : Option String) : Option String :=
  text.filter (· != "")

namespace Startup

/-- What seals sessions. They are encrypted if they are refreshed. -/
def sealer (cookie : Config.Cookie) : Except StartupError Sealer := do
  let algorithm ← (Crypto.HashAlgorithm.ofName cookie.hash).mapError .hash
  let signer : TokenSigner := ⟨Text.Utf8.encode cookie.secret, algorithm⟩
  if cookie.refresh = 0 then return ⟨cookie.name, signer, none⟩
  else
    let cipher ← (Crypto.Cipher.ofSecret cookie.secret).mapError .cipher
    return ⟨cookie.name, signer, some cipher⟩

/-- The password file, if one is named. -/
def htpasswd (supplies : Supplies) (file : Config.PasswordFile) :
    Except StartupError (Option Htpasswd) :=
  match nonEmpty file.path with
  | none => .ok none
  | some path =>
      match supplies.file path with
      | some content => .ok (some (Htpasswd.ofText content))
      | none => .error (.htpasswd path)

/-- The directory, if there is one. -/
def directory
    (supplies : Supplies)
    (server : Config.DirectoryServer) : Option Directory :=
  match supplies.directory with
  | some directory => some directory
  | none => if server.enabled then some (supplies.server server.settings) else none

/-- What signs requests, if there is a key. -/
def signer (proxy : Config.Proxy) : Except StartupError (Option RequestSigner) :=
  match nonEmpty proxy.signatureKey with
  | none => .ok none
  | some key => ((RequestSigner.ofText key).mapError .signer).map some

/-- How session cookies are written. -/
def cookies (cookie : Config.Cookie) : CookieSettings where
  name := cookie.name
  domain := nonEmpty cookie.domain
  secure := cookie.secure
  httpOnly := cookie.httpOnly
  lifetime := cookie.expire

/-- What backends are told about users. -/
def identity (proxy : Config.Proxy) : IdentityHeaders.Options where
  passBasicAuth := proxy.passBasicAuth
  basicAuthPassword := proxy.basicAuthPassword
  passUserHeaders := proxy.passUserHeaders
  setXAuthRequest := proxy.setXAuthRequest

/-- Build a proxy. -/
def build (supplies : Supplies) (config : Config) : Except StartupError Gateway := do
  let sealer ← sealer config.cookie
  let htpasswd ← htpasswd supplies config.htpasswd
  let admitted :=
    EmailAllowList.ofEntries config.validator.emailDomains
      config.validator.authenticatedEmails
  let engine : Engine :=
    { sealer
      lifetime := ⟨config.cookie.expire, config.cookie.refresh⟩
      refresher := supplies.refresher
      validator := supplies.validator
      admits := admitted.allows
      basic := htpasswd }
  let whitelist ← (Whitelist.ofConfig config.skipAuth).mapError .whitelist
  let signer ← signer config.proxy
  let router ← (Router.ofAddresses config.proxy.passHostHeader
    ⟨signer, config.proxy.maxBodySize⟩ config.proxy.addresses).mapError .router
  return {
    paths := SystemPaths.under config.proxy.start
    engine
    signIn := ⟨htpasswd, directory supplies config.ldap, ⟨config.ldap.groups⟩⟩
    whitelist
    router
    cookies := cookies config.cookie
    identity := identity config.proxy
    pages := ⟨config.proxy.start, config.proxy.signInMessage, config.proxy.footer⟩ }

end Startup
end Gatehouse
