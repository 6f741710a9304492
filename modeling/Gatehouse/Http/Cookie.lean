import Gatehouse.Auth.Engine
import Gatehouse.Http.Headers
import Gatehouse.Time.Date
import Gatehouse.Url.Percent

/-!
# Session cookies

The cookies of a request, and the session cookie that responses set or clear. A cookie
is bound to the configured domain, or else to the host that the client has addressed.
-/

namespace Gatehouse

namespace Cookies

/-- The name and the value of a cookie in a request, both with their percent escapes
resolved. -/
def pair? (text : String) : Option (String × String) := do
  let (name, value) ← Text.splitOnce? "=" text
  let name := Text.trim name
  if name = "" then none
  else
    let decoded ← Text.Utf8.decode? (Percent.decode (Text.Utf8.encode name))
    let content ← Text.Utf8.decode? (Percent.decode (Text.Utf8.encode (Text.trim value)))
    some (decoded, content)

/-- The cookies of a request, in order. -/
def ofHeaders (headers : Headers) : List (String × String) :=
  (headers.texts "cookie").flatMap fun text => (Text.pieces ';' text).filterMap pair?

/-- The value of a cookie; of several cookies with one name the last one counts. -/
def find? (headers : Headers) (name : String) : Option String :=
  (ofHeaders headers).reverse.lookup name

end Cookies

/-- A cookie of a response. -/
structure SetCookie where
  name : String
  value : String
  httpOnly : Bool
  secure : Bool
  domain : Option String
  expires : Time
  deriving DecidableEq, Repr

/-- A domain without a dot in front. -/
def SetCookie.bareDomain (domain : String) : String :=
  (Text.stripStart? "." domain).getD domain

/-- The text of a cookie. -/
def SetCookie.text (cookie : SetCookie) : String :=
  cookie.name ++ "=" ++ cookie.value
    ++ (if cookie.httpOnly then "; HttpOnly" else "")
    ++ (if cookie.secure then "; Secure" else "")
    ++ "; Path=/"
    ++ (match cookie.domain with
        | some domain => "; Domain=" ++ SetCookie.bareDomain domain
        | none => "")
    ++ "; Expires=" ++ (Date.ofTime cookie.expires).text

/-- The header with a cookie added. A cookie that cannot stand in a header field is left
out. -/
def Headers.addCookie (headers : Headers) (cookie : SetCookie) : Headers :=
  match Headers.value? cookie.text with
  | some value => headers.append "set-cookie" value
  | none => headers

/-- How session cookies are written. -/
structure CookieSettings where
  name : String
  domain : Option String
  secure : Bool
  httpOnly : Bool
  /-- The number of seconds for which a cookie is kept. -/
  lifetime : Nat
  deriving DecidableEq, Repr

namespace CookieSettings

/-- The value of the session cookie of a request; an empty value counts as none. -/
def read (settings : CookieSettings) (headers : Headers) : Option String :=
  (Cookies.find? headers settings.name).filter (· != "")

/-- A host without its port. The brackets around an address are dropped with the port. -/
def withoutPort (host : String) : String :=
  match host.toList with
  | '[' :: rest => String.ofList (rest.takeWhile (· != ']'))
  | chars =>
      match Text.splitLast? ':' chars with
      | some (name, port) =>
          if !name.contains ':' && port.all Text.isDigit then String.ofList name else host
      | none => host

/-- The domain of a cookie for a host. -/
def domainFor (settings : CookieSettings) (host : Option String) : Option String :=
  match settings.domain with
  | some domain => some domain
  | none => (host.map withoutPort).filter (· != "")

/-- A cookie that ends at a point of time. There is none if that time or the present has
no date. -/
def cookie?
    (settings : CookieSettings)
    (value : String)
    (host : Option String)
    (now expires : Time) : Option SetCookie :=
  if Date.exists? now && Date.exists? expires then
    some { name := settings.name, value
           httpOnly := settings.httpOnly, secure := settings.secure
           domain := settings.domainFor host, expires }
  else none

/-- The session cookie with a value. -/
def sessionCookie?
    (settings : CookieSettings)
    (value : String)
    (host : Option String)
    (now : Time) : Option SetCookie :=
  settings.cookie? value host now (now + settings.lifetime)

/-- The cookie that clears the session cookie: it is empty and ended an hour ago. -/
def clearedCookie? (settings : CookieSettings) (host : Option String) (now : Time) :
    Option SetCookie :=
  settings.cookie? "" host now (now - 3600)

/-- The cookie that an effect asks for. -/
def cookieOf? (settings : CookieSettings) (host : Option String) (now : Time) :
    CookieEffect → Option SetCookie
  | .set value => settings.sessionCookie? value host now
  | .clear => settings.clearedCookie? host now

/-- The header with the cookies of effects added in order. -/
def applyAll?
    (settings : CookieSettings)
    (effects : List CookieEffect)
    (host : Option String)
    (now : Time)
    (headers : Headers) : Option Headers :=
  effects.foldlM (fun headers effect =>
    (settings.cookieOf? host now effect).map headers.addCookie) headers

end CookieSettings
end Gatehouse
