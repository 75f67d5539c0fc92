import Gatehouse.Settings.Variables

/-!
# The known variables

The variables that make a configuration, by their types and before their values are
looked at.
-/

namespace Gatehouse.Settings

/-- The known variables. -/
structure Raw where
  baseUrl : Option String
  secretKey : Option String
  redirectPath : Option String
  port : Option Nat
  metricsPort : Option Nat
  metricsPath : Option String
  clientId : Option String
  clientSecret : Option String
  authorizeUrl : Option String
  tokenUrl : Option String
  apiBaseUrl : Option String
  userUrl : Option String
  scopes : Option String
  userDefined : Option String
  skipVerify : Option Bool
  smtpHost : Option String
  smtpPort : Option Nat
  smtpUser : Option String
  smtpDomain : Option String
  smtpPassword : Option String
  smtpSecurity : Option String
  connectString : Option String
  authzUrl : Option String
  authzStore : Option String
  authzToken : Option String
  collector : Option String
  serviceName : Option String
deriving DecidableEq, Repr

/-- The known variables among all.  Of several that are not of their types the first one in this order
    is reported; a reader that walks them in an order of its own may report another one of them. -/
def Raw.ofVariables (env : Variables) : Except ConfigError Raw := do
  let baseUrl ← text? env "app_base_url"
  let secretKey ← text? env "app_secret_key"
  let redirectPath ← text? env "app_oidc_redirect_path"
  let port ← port? env "app_port"
  let metricsPort ← port? env "app_metrics_port"
  let metricsPath ← text? env "app_metrics_path"
  let clientId ← text? env "app_oidc_client_id"
  let clientSecret ← text? env "app_oidc_client_secret"
  let authorizeUrl ← text? env "app_oidc_authorize_url"
  let tokenUrl ← text? env "app_oidc_access_token_url"
  let apiBaseUrl ← text? env "app_oidc_api_base_url"
  let userUrl ← text? env "app_oidc_user_url"
  let scopes ← text? env "app_oidc_scopes"
  let userDefined ← text? env "app_user_defined_config"
  let skipVerify ← switch? env "app_tls_insecure_skip_verify"
  let smtpHost ← text? env "smtp_host"
  let smtpPort ← port? env "smtp_port"
  let smtpUser ← text? env "smtp_user"
  let smtpDomain ← text? env "smtp_domain"
  let smtpPassword ← text? env "smtp_password"
  let smtpSecurity ← text? env "smtp_transport_security"
  let connectString ← text? env "postgresql_db_connect_string"
  let authzUrl ← text? env "fga_http_api_url"
  let authzStore ← text? env "fga_store_id"
  let authzToken ← text? env "fga_token"
  let collector ← text? env "otel_exporter_otlp_endpoint"
  let serviceName ← text? env "otel_service_name"
  .ok
    { baseUrl, secretKey, redirectPath, port, metricsPort, metricsPath, clientId, clientSecret
      authorizeUrl, tokenUrl, apiBaseUrl, userUrl, scopes, userDefined, skipVerify, smtpHost
      smtpPort, smtpUser, smtpDomain, smtpPassword, smtpSecurity, connectString, authzUrl
      authzStore, authzToken, collector, serviceName }

/-- The names of the known variables as they are usually written. -/
def variableNames : List String :=
  ["APP_BASE_URL", "APP_SECRET_KEY", "APP_OIDC_REDIRECT_PATH", "APP_PORT", "APP_METRICS_PORT",
    "APP_METRICS_PATH", "APP_OIDC_CLIENT_ID", "APP_OIDC_CLIENT_SECRET", "APP_OIDC_AUTHORIZE_URL",
    "APP_OIDC_ACCESS_TOKEN_URL", "APP_OIDC_API_BASE_URL", "APP_OIDC_USER_URL", "APP_OIDC_SCOPES",
    "APP_USER_DEFINED_CONFIG", "APP_TLS_INSECURE_SKIP_VERIFY", "SMTP_HOST", "SMTP_PORT",
    "SMTP_USER", "SMTP_DOMAIN", "SMTP_PASSWORD", "SMTP_TRANSPORT_SECURITY",
    "POSTGRESQL_DB_CONNECT_STRING", "FGA_HTTP_API_URL", "FGA_STORE_ID", "FGA_TOKEN",
    "OTEL_EXPORTER_OTLP_ENDPOINT", "OTEL_SERVICE_NAME"]

end Gatehouse.Settings
