import Gatehouse.Mail.Security
import Gatehouse.Oidc.Provider
import Gatehouse.Session.Store
import Gatehouse.Settings.MetricsPath
import Gatehouse.Settings.Raw
import Gatehouse.Url.Parser

/-!
# Configuration

The configuration that the variables make.  Three of them are required; an empty text
variable counts as an absent one wherever the two could differ in effect.
-/

namespace Gatehouse.Settings

/-- Where the metrics are served. -/
structure MetricsConfig where
  port : Nat
  path : String
deriving DecidableEq, Repr

/-- The secret of the session cookies and their attributes. -/
structure SessionConfig where
  secretKey : String
  options : Session.Options
deriving DecidableEq, Repr

/-- How mail is relayed. -/
structure MailConfig where
  host : Option String
  port : Option Nat
  user : Option String
  domain : Option String
  password : Option String
  security : Mail.Security
deriving DecidableEq, Repr

/-- Where the authorization service is. -/
structure AuthzConfig where
  apiUrl : Option String
  storeId : Option String
  token : Option String
deriving DecidableEq, Repr

/-- Where traces go. -/
structure TelemetryConfig where
  /-- The address of the collector; nothing is exported without it. -/
  endpoint : Option String
  serviceName : String
deriving DecidableEq, Repr

/-- The name under which traces are sent unless another one is set. -/
def defaultServiceName : String := "sample-app"

/-- The telemetry settings of a process without a configuration. -/
def TelemetryConfig.default : TelemetryConfig :=
  ⟨none, defaultServiceName⟩

/-- The configuration of the process. -/
structure Config where
  /-- The base URL without slashes at its end. -/
  baseUrl : String
  /-- The path of the base URL. -/
  basePath : String
  loginUrl : String
  port : Nat
  metrics : MetricsConfig
  session : SessionConfig
  provider : Oidc.Provider
  /-- A text that is only handed out again. -/
  userDefined : Option String
  mail : MailConfig
  connectString : Option String
  authz : AuthzConfig
  telemetry : TelemetryConfig
  /-- Whether certificates of other services are not verified. -/
  skipVerify : Bool
deriving DecidableEq, Repr

/-- The settings of the mail relay. -/
def MailConfig.relay (mail : MailConfig) (acceptInvalidCertificates : Bool) : Mail.Settings where
  host := mail.host
  port := mail.port
  user := mail.user
  domain := mail.domain
  password := mail.password
  security := mail.security
  acceptInvalidCertificates := acceptInvalidCertificates

/-- The words of a switch. -/
def switchText (b : Bool) : String :=
  if b then "true" else "false"

/-- The session settings for a log, without the secret. -/
def SessionConfig.summary (session : SessionConfig) : String :=
  "SessionConfig \x7b secret_key: \"<redacted>\", options: SessionOptions \x7b path: " ++
    Text.quote session.options.path ++ ", max_age_seconds: " ++
    toString session.options.maxAgeSeconds ++ ", http_only: " ++
    switchText session.options.httpOnly ++ ", secure: " ++ switchText session.options.secure ++
    " \x7d \x7d"

/-- A text unless it is empty. -/
def nonEmpty? (value : Option String) : Option String :=
  value.filter (!·.isEmpty)

/-- A text that has to be there. -/
def required (name : String) (value : Option String) : Except ConfigError String :=
  match nonEmpty? value with
  | some s => .ok s
  | none => .error (.missing name)

/-- The port of the application unless another one is set. -/
def defaultPort : Nat := 8080

/-- The port of the metrics unless another one is set. -/
def defaultMetricsPort : Nat := 8081

/-- The path of the metrics unless another one is set. -/
def defaultMetricsPath : String := "/metrics"

/-- The settings of the identity provider, whose callback is under the base URL. -/
def Raw.provider (raw : Raw) (redirectUrl : String) : Oidc.Provider :=
  let start := Oidc.Builder.start (raw.clientId.getD "") (raw.clientSecret.getD "") redirectUrl
  (([.name Oidc.defaultProviderName, .authorizeUrl (raw.authorizeUrl.getD ""),
      .tokenUrl (raw.tokenUrl.getD ""), .apiBaseUrl (raw.apiBaseUrl.getD ""),
      .userInfoUrl (raw.userUrl.getD ""), .scopes (raw.scopes.getD "")] :
    List Oidc.BuildStep).foldl Oidc.Builder.apply start).build

/-- The path of a URL, which is a slash when it is empty. -/
def basePathOf (url : Url) : String :=
  let path := url.path.text
  if path.isEmpty then "/" else path

/-- The configuration of known variables. -/
def Config.ofRaw (raw : Raw) : Except ConfigError Config := do
  let given ← required "APP_BASE_URL" raw.baseUrl
  let secretKey ← required "APP_SECRET_KEY" raw.secretKey
  let redirectPath ← required "APP_OIDC_REDIRECT_PATH" raw.redirectPath
  let url ←
    match Url.parse given with
    | .ok url => .ok url
    | .error fault => .error (.invalid "APP_BASE_URL" fault.message)
  let baseUrl := Text.trimSlashes given
  let port := raw.port.getD defaultPort
  let metricsPort := raw.metricsPort.getD defaultMetricsPort
  let metricsPath := (nonEmpty? raw.metricsPath).getD defaultMetricsPath
  match metricsPathFault? metricsPath (metricsPort == port) with
  | some reason => .error (.invalid "APP_METRICS_PATH" reason)
  | none =>
    .ok
      { baseUrl := baseUrl
        basePath := basePathOf url
        loginUrl := baseUrl ++ "/login/" ++ Oidc.defaultProviderName
        port := port
        metrics := ⟨metricsPort, metricsPath⟩
        session := ⟨secretKey, .ofPath (basePathOf url)⟩
        provider := raw.provider (baseUrl ++ redirectPath)
        userDefined := raw.userDefined
        mail :=
          { host := nonEmpty? raw.smtpHost
            port := raw.smtpPort
            user := raw.smtpUser
            domain := raw.smtpDomain
            password := raw.smtpPassword
            security := (raw.smtpSecurity.map Mail.Security.ofText).getD .none }
        connectString := nonEmpty? raw.connectString
        authz := ⟨nonEmpty? raw.authzUrl, nonEmpty? raw.authzStore, nonEmpty? raw.authzToken⟩
        telemetry := ⟨nonEmpty? raw.collector, (nonEmpty? raw.serviceName).getD defaultServiceName⟩
        skipVerify := raw.skipVerify.getD false }

/-- The configuration of the variables. -/
def Config.ofVariables (env : Variables) : Except ConfigError Config := do
  Config.ofRaw (← Raw.ofVariables env)

end Gatehouse.Settings
