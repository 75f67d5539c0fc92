import Gatehouse.Proofs.Result
import Gatehouse.Settings.Config

/-!
# From variables to a configuration

An accepted configuration by what it is made of: every known variable was read by itself, and
what the configuration takes over from them.
-/

namespace Gatehouse.Settings

/-- Every known variable is what is read under its name. -/
structure Raw.IsReadFrom (raw : Raw) (env : Variables) : Prop where
  baseUrl : text? env "app_base_url" = .ok raw.baseUrl
  secretKey : text? env "app_secret_key" = .ok raw.secretKey
  redirectPath : text? env "app_oidc_redirect_path" = .ok raw.redirectPath
  port : port? env "app_port" = .ok raw.port
  metricsPort : port? env "app_metrics_port" = .ok raw.metricsPort
  metricsPath : text? env "app_metrics_path" = .ok raw.metricsPath
  clientId : text? env "app_oidc_client_id" = .ok raw.clientId
  clientSecret : text? env "app_oidc_client_secret" = .ok raw.clientSecret
  authorizeUrl : text? env "app_oidc_authorize_url" = .ok raw.authorizeUrl
  tokenUrl : text? env "app_oidc_access_token_url" = .ok raw.tokenUrl
  apiBaseUrl : text? env "app_oidc_api_base_url" = .ok raw.apiBaseUrl
  userUrl : text? env "app_oidc_user_url" = .ok raw.userUrl
  scopes : text? env "app_oidc_scopes" = .ok raw.scopes
  userDefined : text? env "app_user_defined_config" = .ok raw.userDefined
  skipVerify : switch? env "app_tls_insecure_skip_verify" = .ok raw.skipVerify
  smtpHost : text? env "smtp_host" = .ok raw.smtpHost
  smtpPort : port? env "smtp_port" = .ok raw.smtpPort
  smtpUser : text? env "smtp_user" = .ok raw.smtpUser
  smtpDomain : text? env "smtp_domain" = .ok raw.smtpDomain
  smtpPassword : text? env "smtp_password" = .ok raw.smtpPassword
  smtpSecurity : text? env "smtp_transport_security" = .ok raw.smtpSecurity
  connectString : text? env "postgresql_db_connect_string" = .ok raw.connectString
  authzUrl : text? env "fga_http_api_url" = .ok raw.authzUrl
  authzStore : text? env "fga_store_id" = .ok raw.authzStore
  authzToken : text? env "fga_token" = .ok raw.authzToken
  collector : text? env "otel_exporter_otlp_endpoint" = .ok raw.collector
  serviceName : text? env "otel_service_name" = .ok raw.serviceName

theorem Raw.isReadFrom_of_ofVariables {env : Variables} {raw : Raw}
    (read : ofVariables env = .ok raw) : raw.IsReadFrom env := by
  unfold ofVariables at read
  iterate 27 obtain ⟨_, _, read⟩ := exists_of_bind_eq_ok read
  cases read
  constructor <;> assumption

/-- The address of the callback: its path behind the base URL. -/
def Raw.redirectUrl (raw : Raw) : String :=
  Text.trimSlashes (raw.baseUrl.getD "") ++ raw.redirectPath.getD ""

theorem eq_of_required {name : String} {value : Option String} {s : String}
    (there : required name value = .ok s) : value = some s := by
  unfold required nonEmpty? at there
  split at there
  · rename_i filled
    cases there
    exact (Option.filter_eq_some_iff.mp filled).1
  · cases there

/-- How a configuration is made of known variables, among them a base URL, its text as a URL and the
    path of the callback. -/
structure Config.IsMadeOf (config : Config) (raw : Raw) (given redirectPath : String)
    (url : Url) : Prop where
  base : raw.baseUrl = some given
  redirect : raw.redirectPath = some redirectPath
  parsed : Url.parse given = .ok url
  baseUrl : config.baseUrl = Text.trimSlashes given
  basePath : config.basePath = basePathOf url
  loginUrl : config.loginUrl = config.baseUrl ++ "/login/openid-connect"
  port : config.port = raw.port.getD defaultPort
  metricsPort : config.metrics.port = raw.metricsPort.getD defaultMetricsPort
  metricsPath : metricsPathFault? config.metrics.path (config.metrics.port == config.port) = none
  options : config.session.options = .ofPath config.basePath
  provider : config.provider = raw.provider raw.redirectUrl
  mailPort : config.mail.port = raw.smtpPort

theorem Config.exists_isMadeOf_of_ofRaw {raw : Raw} {config : Config}
    (accepted : ofRaw raw = .ok config) :
    ∃ given redirectPath url, config.IsMadeOf raw given redirectPath url := by
  unfold ofRaw at accepted
  obtain ⟨given, base, accepted⟩ := exists_of_bind_eq_ok accepted
  obtain ⟨secretKey, -, accepted⟩ := exists_of_bind_eq_ok accepted
  obtain ⟨redirectPath, redirect, accepted⟩ := exists_of_bind_eq_ok accepted
  have base := eq_of_required base
  have redirect := eq_of_required redirect
  dsimp only at accepted
  split at accepted
  · rename_i url parsed
    split at accepted
    · cases accepted
    · rename_i free
      cases accepted
      have login : "/login/" ++ Oidc.defaultProviderName = "/login/openid-connect" := by decide
      refine ⟨given, redirectPath, url, base, redirect, parsed, rfl, rfl, ?_, rfl, rfl, free, rfl,
        ?_, rfl⟩
      · rw [← login, ← String.append_assoc]
      · rw [Raw.redirectUrl, base, redirect]
        rfl
  · cases accepted

/-- An accepted configuration comes from known variables that were all read. -/
theorem Config.exists_isMadeOf {env : Variables} {config : Config}
    (accepted : ofVariables env = .ok config) :
    ∃ raw given redirectPath url,
      Raw.IsReadFrom raw env ∧ config.IsMadeOf raw given redirectPath url := by
  obtain ⟨raw, read, accepted⟩ := exists_of_bind_eq_ok accepted
  obtain ⟨given, redirectPath, url, made⟩ := exists_isMadeOf_of_ofRaw accepted
  exact ⟨raw, given, redirectPath, url, Raw.isReadFrom_of_ofVariables read, made⟩

end Gatehouse.Settings
