import Gatehouse.Access.ClientAddress
import Gatehouse.Access.Whitelist
import Gatehouse.Auth.EmailAllowList
import Gatehouse.Auth.Engine
import Gatehouse.Auth.IdentityHeaders
import Gatehouse.Auth.SignIn
import Gatehouse.CommandLine
import Gatehouse.Config.Load
import Gatehouse.Config.Schema
import Gatehouse.Config.Toml.Document
import Gatehouse.Config.Toml.Scalar
import Gatehouse.Config.Toml.Table
import Gatehouse.Config.Toml.Text
import Gatehouse.Config.Validation
import Gatehouse.Config.Value
import Gatehouse.Credentials.Basic
import Gatehouse.Credentials.Htpasswd
import Gatehouse.Credentials.Identity
import Gatehouse.Crypto.Aes
import Gatehouse.Crypto.Bcrypt
import Gatehouse.Crypto.Cipher
import Gatehouse.Crypto.Constants
import Gatehouse.Crypto.Gcm
import Gatehouse.Crypto.Mac
import Gatehouse.Crypto.Sha1
import Gatehouse.Crypto.Sha2
import Gatehouse.Crypto.Words
import Gatehouse.Directory.Basic
import Gatehouse.Directory.Filter
import Gatehouse.Directory.Ldap
import Gatehouse.Gateway.Dispatch
import Gatehouse.Gateway.Metrics
import Gatehouse.Gateway.Pages
import Gatehouse.Gateway.Paths
import Gatehouse.Gateway.Server
import Gatehouse.Gateway.SignInForm
import Gatehouse.Http.Cookie
import Gatehouse.Http.Form
import Gatehouse.Http.Headers
import Gatehouse.Http.HopByHop
import Gatehouse.Http.Request
import Gatehouse.Http.RequestTarget
import Gatehouse.Http.Response
import Gatehouse.Main
import Gatehouse.Net.Address
import Gatehouse.Net.AddressRange
import Gatehouse.Proofs.Access.ClientAddress
import Gatehouse.Proofs.Access.ForwardedChain
import Gatehouse.Proofs.Access.PassedRequests
import Gatehouse.Proofs.Auth.AllowedAddresses
import Gatehouse.Proofs.Auth.Decision
import Gatehouse.Proofs.Auth.NamedUsers
import Gatehouse.Proofs.Auth.SignInDecision
import Gatehouse.Proofs.Auth.SignedInIdentity
import Gatehouse.Proofs.Auth.SlidingSession
import Gatehouse.Proofs.Config.Construction
import Gatehouse.Proofs.Credentials.BasicHeader
import Gatehouse.Proofs.Credentials.FileComposition
import Gatehouse.Proofs.Credentials.PasswordFile
import Gatehouse.Proofs.Crypto.Ciphertexts
import Gatehouse.Proofs.Crypto.Sealing
import Gatehouse.Proofs.Directory.Injection
import Gatehouse.Proofs.Directory.Protocol
import Gatehouse.Proofs.Gateway.ClaimedIdentity
import Gatehouse.Proofs.Gateway.Controls
import Gatehouse.Proofs.Gateway.CookieDates
import Gatehouse.Proofs.Gateway.CookieLifetime
import Gatehouse.Proofs.Gateway.Counters
import Gatehouse.Proofs.Gateway.IdentityDelivery
import Gatehouse.Proofs.Gateway.Markup
import Gatehouse.Proofs.Gateway.Mediation
import Gatehouse.Proofs.Gateway.Redirection
import Gatehouse.Proofs.Gateway.ReturnPath
import Gatehouse.Proofs.Gateway.ShownIdentity
import Gatehouse.Proofs.Gateway.SignInPath
import Gatehouse.Proofs.Http.ConnectionFields
import Gatehouse.Proofs.Http.CookieReading
import Gatehouse.Proofs.Http.Cookies
import Gatehouse.Proofs.Http.FieldText
import Gatehouse.Proofs.Http.Form
import Gatehouse.Proofs.Net.Ranges
import Gatehouse.Proofs.Net.Readers
import Gatehouse.Proofs.Net.Spelling
import Gatehouse.Proofs.Outcome
import Gatehouse.Proofs.Routing.Delivery
import Gatehouse.Proofs.Routing.Destination
import Gatehouse.Proofs.Routing.Forwarding
import Gatehouse.Proofs.Routing.Lookup
import Gatehouse.Proofs.Routing.Mounts
import Gatehouse.Proofs.Routing.RequestUri
import Gatehouse.Proofs.Routing.Signature
import Gatehouse.Proofs.Session.Binding
import Gatehouse.Proofs.Session.Modes
import Gatehouse.Proofs.Session.Payload
import Gatehouse.Proofs.Session.Sealing
import Gatehouse.Proofs.Session.Tampering
import Gatehouse.Proofs.Session.TokenFormat
import Gatehouse.Proofs.Text.Canonical
import Gatehouse.Proofs.Text.Trimming
import Gatehouse.Proofs.Url.DomainName
import Gatehouse.Proofs.Url.Host
import Gatehouse.Proofs.Url.Origin
import Gatehouse.Proofs.Url.Path
import Gatehouse.Proofs.Url.Percent
import Gatehouse.Proofs.Url.Punycode
import Gatehouse.Proofs.Url.Server
import Gatehouse.Regex.Basic
import Gatehouse.Regex.Category
import Gatehouse.Regex.Folding
import Gatehouse.Regex.Matching
import Gatehouse.Regex.Pattern
import Gatehouse.Regex.Property
import Gatehouse.Regex.Reader
import Gatehouse.Regex.Script
import Gatehouse.Routing.FileRange
import Gatehouse.Routing.FileServer
import Gatehouse.Routing.Pattern
import Gatehouse.Routing.ReverseProxy
import Gatehouse.Routing.Router
import Gatehouse.Routing.Signer
import Gatehouse.Session.Basic
import Gatehouse.Session.Sealer
import Gatehouse.Session.Token
import Gatehouse.Shutdown
import Gatehouse.Startup
import Gatehouse.Text.Ascii
import Gatehouse.Text.Base64
import Gatehouse.Text.Blank
import Gatehouse.Text.Decimal
import Gatehouse.Text.Hex
import Gatehouse.Text.Printable
import Gatehouse.Text.Quoted
import Gatehouse.Text.Split
import Gatehouse.Text.Utf8
import Gatehouse.Time.Basic
import Gatehouse.Time.Date
import Gatehouse.Time.Reading
import Gatehouse.Url.Basic
import Gatehouse.Url.DomainName
import Gatehouse.Url.Host
import Gatehouse.Url.Percent
import Gatehouse.Proofs.Crypto.Secrets
import Gatehouse.Proofs.Gateway.Templates
import Gatehouse.Proofs.Notices
