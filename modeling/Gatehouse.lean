import Gatehouse.App.Failure
import Gatehouse.App.Handling
import Gatehouse.App.Login
import Gatehouse.App.Mount
import Gatehouse.App.Profile
import Gatehouse.App.Route
import Gatehouse.App.Router
import Gatehouse.App.Run
import Gatehouse.App.State
import Gatehouse.App.Traffic
import Gatehouse.Authz.Client
import Gatehouse.Authz.Error
import Gatehouse.Authz.Models
import Gatehouse.Cookie.Browser
import Gatehouse.Cookie.Pair
import Gatehouse.Cookie.SetCookie
import Gatehouse.Cookie.Signed
import Gatehouse.Database.Address
import Gatehouse.Database.Error
import Gatehouse.Database.Probe
import Gatehouse.Decimal.Binary64
import Gatehouse.Decimal.Shortest
import Gatehouse.Hash.Hmac
import Gatehouse.Hash.Sha256
import Gatehouse.Hash.Sha512
import Gatehouse.Http.Exchange
import Gatehouse.Http.Pattern
import Gatehouse.Http.Request
import Gatehouse.Http.Response
import Gatehouse.Http.Router
import Gatehouse.Http.Status
import Gatehouse.Http.Target
import Gatehouse.Http.Wire
import Gatehouse.Json.Fault
import Gatehouse.Json.Reader
import Gatehouse.Json.Record
import Gatehouse.Json.Skip
import Gatehouse.Json.Token
import Gatehouse.Json.Value
import Gatehouse.Json.Writer
import Gatehouse.Mail.Dialogue
import Gatehouse.Mail.Error
import Gatehouse.Mail.Message
import Gatehouse.Mail.Relay
import Gatehouse.Mail.Reply
import Gatehouse.Mail.Security
import Gatehouse.Main
import Gatehouse.Metrics.Counter
import Gatehouse.Metrics.Registry
import Gatehouse.Oidc.Endpoints
import Gatehouse.Oidc.Error
import Gatehouse.Oidc.Exchange
import Gatehouse.Oidc.Provider
import Gatehouse.Oidc.ProviderJson
import Gatehouse.Oidc.Readers
import Gatehouse.Proofs.App.Attributes
import Gatehouse.Proofs.App.Callback
import Gatehouse.Proofs.App.Carried
import Gatehouse.Proofs.App.Counted
import Gatehouse.Proofs.App.Credentials
import Gatehouse.Proofs.App.Effects
import Gatehouse.Proofs.App.Emptiness
import Gatehouse.Proofs.App.Lifecycle
import Gatehouse.Proofs.App.Handling
import Gatehouse.Proofs.App.Links
import Gatehouse.Proofs.App.Login
import Gatehouse.Proofs.App.Logout
import Gatehouse.Proofs.App.Models
import Gatehouse.Proofs.App.Mount
import Gatehouse.Proofs.App.Profile
import Gatehouse.Proofs.App.Router
import Gatehouse.Proofs.App.Scrape
import Gatehouse.Proofs.App.State
import Gatehouse.Proofs.App.Traffic
import Gatehouse.Proofs.Authz.Binding
import Gatehouse.Proofs.Authz.Client
import Gatehouse.Proofs.Authz.Models
import Gatehouse.Proofs.Cookie.Browser
import Gatehouse.Proofs.Cookie.Pairs
import Gatehouse.Proofs.Cookie.SetCookie
import Gatehouse.Proofs.Cookie.Signature
import Gatehouse.Proofs.Http.Response
import Gatehouse.Proofs.Http.Router
import Gatehouse.Proofs.Json.Objects
import Gatehouse.Proofs.Json.Strings
import Gatehouse.Proofs.Mail.Delivery
import Gatehouse.Proofs.Mail.Secrecy
import Gatehouse.Proofs.Metrics.Exposition
import Gatehouse.Proofs.Metrics.Registry
import Gatehouse.Proofs.Oidc.Exchange
import Gatehouse.Proofs.Oidc.ProviderJson
import Gatehouse.Proofs.Oidc.Scopes
import Gatehouse.Proofs.Service.Process
import Gatehouse.Proofs.Service.Shutdown
import Gatehouse.Proofs.Session.Cells
import Gatehouse.Proofs.Session.Codec
import Gatehouse.Proofs.Session.Integrity
import Gatehouse.Proofs.Session.Load
import Gatehouse.Proofs.Session.Store
import Gatehouse.Proofs.Session.Unrelated
import Gatehouse.Proofs.Session.Visit
import Gatehouse.Proofs.Settings.MetricsPath
import Gatehouse.Proofs.Settings.Ports
import Gatehouse.Proofs.Text.Ascii
import Gatehouse.Proofs.Text.Base64
import Gatehouse.Proofs.Text.Cutting
import Gatehouse.Proofs.Text.Percent
import Gatehouse.Proofs.Text.Utf8
import Gatehouse.Proofs.Url.Domain
import Gatehouse.Proofs.Url.Form
import Gatehouse.Proofs.Url.Printable
import Gatehouse.Service.Error
import Gatehouse.Service.Launch
import Gatehouse.Service.Listener
import Gatehouse.Service.Log
import Gatehouse.Service.Shutdown
import Gatehouse.Session.Flow
import Gatehouse.Session.Store
import Gatehouse.Session.User
import Gatehouse.Session.Visit
import Gatehouse.Settings.Config
import Gatehouse.Settings.Error
import Gatehouse.Settings.MetricsPath
import Gatehouse.Settings.Raw
import Gatehouse.Settings.Variables
import Gatehouse.Telemetry.Export
import Gatehouse.Text.Ascii
import Gatehouse.Text.Base64
import Gatehouse.Text.Blank
import Gatehouse.Text.Case
import Gatehouse.Text.Html
import Gatehouse.Text.Normal
import Gatehouse.Text.Percent
import Gatehouse.Text.Property.Casing
import Gatehouse.Text.Property.Composition
import Gatehouse.Text.Property.Printing
import Gatehouse.Text.Quoted
import Gatehouse.Text.Utf8
import Gatehouse.Url.Address
import Gatehouse.Url.Basic
import Gatehouse.Url.Domain
import Gatehouse.Url.Domain.Folding
import Gatehouse.Url.Parser
import Gatehouse.Url.Punycode
import Gatehouse.Url.Query
