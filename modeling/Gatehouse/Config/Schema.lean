import Gatehouse.Config.Value
import Gatehouse.Directory.Ldap

/-!
# The configuration

The sections of the configuration with their settings, and the values that settings have
unless they are given.
-/

namespace Gatehouse
namespace Config

/-- Where the proxy listens. -/
structure Listener where
  bindAddress : String := "127.0.0.1:4180"
  deriving DecidableEq, Repr

/-- The session cookie. -/
structure Cookie where
  name : String := "_ldap_proxy"
  /-- The secret that signs sessions and, if they are refreshed, encrypts them. -/
  secret : String := ""
  domain : Option String := none
  secure : Bool := true
  httpOnly : Bool := true
  expire : Nat := 168 * 3600
  /-- The age from which sessions are sealed anew; zero turns this and the encryption
  off. -/
  refresh : Nat := 0
  hash : String := "sha256"
  deriving DecidableEq, Repr

/-- The backends and what they are told. -/
structure Proxy where
  /-- What the paths begin with that the proxy answers itself. -/
  start : String := "/ldap_proxy"
  addresses : List String := []
  passHostHeader : Bool := true
  passBasicAuth : Bool := true
  basicAuthPassword : String := ""
  passUserHeaders : Bool := true
  setXAuthRequest : Bool := false
  signatureKey : Option String := none
  maxBodySize : Nat := 10 * 1024 * 1024
  signInMessage : String := ""
  footer : String := ""
  deriving DecidableEq, Repr

/-- The requests that pass without authentication. -/
structure SkipAuth where
  patterns : List String := []
  ranges : List String := []
  preflight : Bool := false
  realHeader : Option String := none
  proxyHeader : Option String := none
  deriving DecidableEq, Repr

/-- The password file. -/
structure PasswordFile where
  path : Option String := none
  deriving DecidableEq, Repr

/-- The directory. -/
structure DirectoryServer where
  enabled : Bool := false
  host : String := ""
  port : Nat := 389
  useTls : Bool := false
  insecureSkipVerify : Bool := false
  baseDn : String := ""
  bindDn : String := ""
  bindPassword : String := ""
  userFilter : String := "(&(objectClass=User)(uid=%s))"
  groupFilter : String := "(&(objectClass=group)(member:1.2.840.113556.1.4.1941:=%s))"
  attributes : List String := ["mail", "cn"]
  /-- The groups that may sign in; without any everybody may. -/
  groups : List String := []
  connectTimeout : Nat := 5
  deriving DecidableEq, Repr

/-- The addresses whose owners stay signed in. -/
structure Validator where
  emailDomains : List String := ["*"]
  authenticatedEmails : List String := []
  deriving DecidableEq, Repr

/-- How long things may take, in seconds. -/
structure Timeouts where
  request : Nat := 30
  connect : Nat := 5
  deriving DecidableEq, Repr

/-- What the operator gets to see. -/
structure Observability where
  logLevel : String := "info"
  metricsEnabled : Bool := false
  metricsAddress : String := "0.0.0.0:9090"
  deriving DecidableEq, Repr

/-- The settings of the listener. -/
def Listener.kind : ValueKind Listener := .ofSettings
  [.of "bind_address" .text (·.bindAddress) fun v s => { s with bindAddress := v }] {}

/-- The settings of the cookie. -/
def Cookie.kind : ValueKind Cookie := .ofSettings
  [.of "name" .text (·.name) fun v s => { s with name := v },
    .of "secret" .text (·.secret) fun v s => { s with secret := v },
    .of "domain" .optionalText (·.domain) fun v s => { s with domain := v },
    .of "secure" .boolean (·.secure) fun v s => { s with secure := v },
    .of "http_only" .boolean (·.httpOnly) fun v s => { s with httpOnly := v },
    .of "expire_secs" .natural (·.expire) fun v s => { s with expire := v },
    .of "refresh_secs" .natural (·.refresh) fun v s => { s with refresh := v },
    .of "hash" .text (·.hash) fun v s => { s with hash := v }] {}

/-- The settings of the backends. -/
def Proxy.kind : ValueKind Proxy := .ofSettings
  [.of "prefix" .text (·.start) fun v s => { s with start := v },
    .of "upstreams" .texts (·.addresses) fun v s => { s with addresses := v },
    .of "pass_host_header" .boolean (·.passHostHeader) fun v s =>
      { s with passHostHeader := v },
    .of "pass_basic_auth" .boolean (·.passBasicAuth) fun v s =>
      { s with passBasicAuth := v },
    .of "basic_auth_password" .text (·.basicAuthPassword) fun v s =>
      { s with basicAuthPassword := v },
    .of "pass_user_headers" .boolean (·.passUserHeaders) fun v s =>
      { s with passUserHeaders := v },
    .of "set_xauthrequest" .boolean (·.setXAuthRequest) fun v s =>
      { s with setXAuthRequest := v },
    .of "signature_key" .optionalText (·.signatureKey) fun v s =>
      { s with signatureKey := v },
    .of "max_body_bytes" .natural (·.maxBodySize) fun v s => { s with maxBodySize := v },
    .of "sign_in_message" .text (·.signInMessage) fun v s =>
      { s with signInMessage := v },
    .of "footer" .text (·.footer) fun v s => { s with footer := v }] {}

/-- The settings of the requests that pass. -/
def SkipAuth.kind : ValueKind SkipAuth := .ofSettings
  [.of "regex" .texts (·.patterns) fun v s => { s with patterns := v },
    .of "ips" .texts (·.ranges) fun v s => { s with ranges := v },
    .of "preflight" .boolean (·.preflight) fun v s => { s with preflight := v },
    .of "real_ip_header" .optionalText (·.realHeader) fun v s =>
      { s with realHeader := v },
    .of "proxy_ip_header" .optionalText (·.proxyHeader) fun v s =>
      { s with proxyHeader := v }] {}

/-- The settings of the password file. -/
def PasswordFile.kind : ValueKind PasswordFile := .ofSettings
  [.of "file" .optionalText (·.path) fun v s => { s with path := v }] {}

/-- The settings of the directory. -/
def DirectoryServer.kind : ValueKind DirectoryServer := .ofSettings
  [.of "enabled" .boolean (·.enabled) fun v s => { s with enabled := v },
    .of "host" .text (·.host) fun v s => { s with host := v },
    .of "port" .port (·.port) fun v s => { s with port := v },
    .of "use_tls" .boolean (·.useTls) fun v s => { s with useTls := v },
    .of "insecure_skip_verify" .boolean (·.insecureSkipVerify) fun v s =>
      { s with insecureSkipVerify := v },
    .of "base_dn" .text (·.baseDn) fun v s => { s with baseDn := v },
    .of "bind_dn" .text (·.bindDn) fun v s => { s with bindDn := v },
    .of "bind_password" .text (·.bindPassword) fun v s => { s with bindPassword := v },
    .of "user_filter" .text (·.userFilter) fun v s => { s with userFilter := v },
    .of "group_filter" .text (·.groupFilter) fun v s => { s with groupFilter := v },
    .of "attributes" .texts (·.attributes) fun v s => { s with attributes := v },
    .of "groups" .texts (·.groups) fun v s => { s with groups := v },
    .of "connect_timeout_secs" .natural (·.connectTimeout) fun v s =>
      { s with connectTimeout := v }] {}

/-- The settings of the addresses. -/
def Validator.kind : ValueKind Validator := .ofSettings
  [.of "email_domains" .texts (·.emailDomains) fun v s => { s with emailDomains := v },
    .of "authenticated_emails" .texts (·.authenticatedEmails) fun v s =>
      { s with authenticatedEmails := v }] {}

/-- The settings of the times. -/
def Timeouts.kind : ValueKind Timeouts := .ofSettings
  [.of "request_secs" .natural (·.request) fun v s => { s with request := v },
    .of "upstream_connect_secs" .natural (·.connect) fun v s =>
      { s with connect := v }] {}

/-- The settings for the operator. -/
def Observability.kind : ValueKind Observability := .ofSettings
  [.of "log_level" .text (·.logLevel) fun v s => { s with logLevel := v },
    .of "metrics_enabled" .boolean (·.metricsEnabled) fun v s =>
      { s with metricsEnabled := v },
    .of "metrics_address" .text (·.metricsAddress) fun v s =>
      { s with metricsAddress := v }] {}

/-- How a directory server is asked under these settings. -/
def DirectoryServer.settings (server : DirectoryServer) : Ldap.Settings where
  host := server.host
  port := server.port
  useTls := server.useTls
  insecureSkipVerify := server.insecureSkipVerify
  baseDn := server.baseDn
  bindDn := server.bindDn
  bindPassword := server.bindPassword
  userFilter := server.userFilter
  groupFilter := server.groupFilter
  attributes := server.attributes
  connectTimeout := server.connectTimeout

end Config

/-- The whole configuration. -/
structure Config where
  listener : Config.Listener := {}
  cookie : Config.Cookie := {}
  proxy : Config.Proxy := {}
  skipAuth : Config.SkipAuth := {}
  htpasswd : Config.PasswordFile := {}
  ldap : Config.DirectoryServer := {}
  validator : Config.Validator := {}
  timeouts : Config.Timeouts := {}
  observability : Config.Observability := {}
  deriving DecidableEq, Repr

/-- The sections of the configuration. -/
def Config.kind : ValueKind Config := .ofSettings
  [.of "listener" Listener.kind (·.listener) fun v s => { s with listener := v },
    .of "cookie" Cookie.kind (·.cookie) fun v s => { s with cookie := v },
    .of "proxy" Proxy.kind (·.proxy) fun v s => { s with proxy := v },
    .of "skip_auth" SkipAuth.kind (·.skipAuth) fun v s => { s with skipAuth := v },
    .of "htpasswd" PasswordFile.kind (·.htpasswd) fun v s => { s with htpasswd := v },
    .of "ldap" DirectoryServer.kind (·.ldap) fun v s => { s with ldap := v },
    .of "validator" Validator.kind (·.validator) fun v s => { s with validator := v },
    .of "timeouts" Timeouts.kind (·.timeouts) fun v s => { s with timeouts := v },
    .of "observability" Observability.kind (·.observability) fun v s =>
      { s with observability := v }] {}

/-- The level of the proxy's own messages, and that of the server beneath it. -/
def Config.logFilter (level : String) : String :=
  "ldap_auth_proxy=" ++ level ++ ",tower_http=info"

end Gatehouse
