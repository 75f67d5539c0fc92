import Gatehouse.Mail.Relay
import Gatehouse.Proofs.Result
import Gatehouse.Proofs.Settings.Variables

/-!
# Empty variables

A text variable that is empty is as good as one that is not there.  What is made of the variables
does not change when the empty ones are left out first, but for three settings of the relay, which
tell an empty text from none; the relay itself makes the same of both.
-/

namespace Gatehouse.Settings

open Text (lowercase)

/-- The names of the variables that may be left out when they are empty: all that hold texts but
    the one whose text is handed out again. -/
def textNames : List String :=
  ["app_base_url", "app_secret_key", "app_oidc_redirect_path", "app_metrics_path",
    "app_oidc_client_id", "app_oidc_client_secret", "app_oidc_authorize_url",
    "app_oidc_access_token_url", "app_oidc_api_base_url", "app_oidc_user_url", "app_oidc_scopes",
    "smtp_host", "smtp_user", "smtp_domain", "smtp_password", "smtp_transport_security",
    "postgresql_db_connect_string", "fga_http_api_url", "fga_store_id", "fga_token",
    "otel_exporter_otlp_endpoint", "otel_service_name"]

theorem mem_knownNames_of_mem_textNames {name : String} (text : name ∈ textNames) :
    name ∈ knownNames := by
  rw [knownNames_eq]
  revert text
  revert name
  decide +kernel

theorem nonEmpty?_nonEmpty? (value : Option String) :
    nonEmpty? (nonEmpty? value) = nonEmpty? value := by
  simp [nonEmpty?, Option.filter_filter]

theorem getD_nonEmpty? (value : Option String) : (nonEmpty? value).getD "" = value.getD "" := by
  cases value with
  | none => rfl
  | some s =>
    rw [nonEmpty?, Option.filter_some]
    cases empty : s.isEmpty with
    | true => simpa using (String.isEmpty_iff.mp empty).symm
    | false => rfl

theorem required_nonEmpty? (name : String) (value : Option String) :
    required name (nonEmpty? value) = required name value := by
  rw [required, nonEmpty?_nonEmpty?, required]

/-- The empty text names the mode that there is without a text. -/
theorem getD_map_ofText_nonEmpty? (value : Option String) :
    ((nonEmpty? value).map Mail.Security.ofText).getD .none =
      (value.map Mail.Security.ofText).getD .none := by
  have empty : Mail.Security.ofText "" = .none := by decide
  have whole (value : Option String) : (value.map Mail.Security.ofText).getD .none =
      Mail.Security.ofText (value.getD "") := by
    cases value with
    | none => rw [Option.map_none, Option.getD_none, Option.getD_none, empty]
    | some s => rw [Option.map_some, Option.getD_some, Option.getD_some]
  rw [whole, whole, getD_nonEmpty?]

/-- The known variables without the texts that are empty. -/
def Raw.withoutEmpty (raw : Raw) : Raw :=
  { raw with
    baseUrl := nonEmpty? raw.baseUrl
    secretKey := nonEmpty? raw.secretKey
    redirectPath := nonEmpty? raw.redirectPath
    metricsPath := nonEmpty? raw.metricsPath
    clientId := nonEmpty? raw.clientId
    clientSecret := nonEmpty? raw.clientSecret
    authorizeUrl := nonEmpty? raw.authorizeUrl
    tokenUrl := nonEmpty? raw.tokenUrl
    apiBaseUrl := nonEmpty? raw.apiBaseUrl
    userUrl := nonEmpty? raw.userUrl
    scopes := nonEmpty? raw.scopes
    smtpHost := nonEmpty? raw.smtpHost
    smtpUser := nonEmpty? raw.smtpUser
    smtpDomain := nonEmpty? raw.smtpDomain
    smtpPassword := nonEmpty? raw.smtpPassword
    smtpSecurity := nonEmpty? raw.smtpSecurity
    connectString := nonEmpty? raw.connectString
    authzUrl := nonEmpty? raw.authzUrl
    authzStore := nonEmpty? raw.authzStore
    authzToken := nonEmpty? raw.authzToken
    collector := nonEmpty? raw.collector
    serviceName := nonEmpty? raw.serviceName }

/-- The settings of the relay without the texts that are empty. -/
def MailConfig.withoutEmpty (mail : MailConfig) : MailConfig :=
  { mail with
    user := nonEmpty? mail.user
    domain := nonEmpty? mail.domain
    password := nonEmpty? mail.password }

/-- The configuration in which no empty text is told from none. -/
def Config.withoutEmpty (config : Config) : Config :=
  { config with mail := config.mail.withoutEmpty }

theorem Raw.provider_withoutEmpty (raw : Raw) (redirectUrl : String) :
    raw.withoutEmpty.provider redirectUrl = raw.provider redirectUrl := by
  simp only [provider, withoutEmpty, getD_nonEmpty?]

/-- Without the empty variables the same configurations are accepted, and the same is wrong with the
    others. -/
theorem Config.ofRaw_withoutEmpty (raw : Raw) :
    ofRaw raw.withoutEmpty = (ofRaw raw).map withoutEmpty := by
  simp only [ofRaw, Raw.provider_withoutEmpty, bind, Except.bind]
  simp only [Raw.withoutEmpty, required_nonEmpty?, nonEmpty?_nonEmpty?, getD_map_ofText_nonEmpty?]
  cases required "APP_BASE_URL" raw.baseUrl with
  | error error => rfl
  | ok given =>
    cases required "APP_SECRET_KEY" raw.secretKey with
    | error error => rfl
    | ok secretKey =>
      cases required "APP_OIDC_REDIRECT_PATH" raw.redirectPath with
      | error error => rfl
      | ok redirectPath =>
        dsimp only
        cases Url.parse given with
        | error fault => rfl
        | ok url =>
          dsimp only
          split
          · rfl
          · rfl

section Relay

variable (mail : MailConfig) (accept : Bool)

theorem MailConfig.username_withoutEmpty :
    (mail.withoutEmpty.relay accept).username = (mail.relay accept).username := by
  simp only [Mail.Settings.username, relay, withoutEmpty, getD_nonEmpty?]

theorem MailConfig.password_withoutEmpty :
    (mail.withoutEmpty.relay accept).password.getD "" = (mail.relay accept).password.getD "" :=
  getD_nonEmpty? mail.password

/-- The relay logs in with the same name and password, and says the same altogether. -/
theorem MailConfig.send_withoutEmpty (server : Mail.Server) (message : Mail.Message) :
    Mail.send (mail.withoutEmpty.relay accept) server message =
      Mail.send (mail.relay accept) server message := by
  have same : (mail.withoutEmpty.relay accept).transport server.prepare =
      (mail.relay accept).transport server.prepare := by
    simp only [Mail.Settings.transport, username_withoutEmpty, password_withoutEmpty]
    rfl
  rw [Mail.send, same]
  rfl

end Relay

section Variables

variable {env other : Variables}

/-- Variables that agree but for empty texts make the same of all known variables, but for empty
    texts. -/
theorem Raw.ofVariables_withoutEmpty
    (texts : ∀ name ∈ textNames, (text? env name).map nonEmpty? = (text? other name).map nonEmpty?)
    (rest : ∀ name ∈ knownNames, name ∉ textNames → held? env name = held? other name) :
    (ofVariables env).map withoutEmpty = (ofVariables other).map withoutEmpty := by
  rw [knownNames_eq] at rest
  have port (name : String) (held : held? env name = held? other name) :
      (port? env name).map id = (port? other name).map id := by rw [port?, port?, held]
  have userDefined : (text? env "app_user_defined_config").map id =
      (text? other "app_user_defined_config").map id := by
    rw [text?, text?, rest _ (by decide) (by decide)]
  have skipVerify : (switch? env "app_tls_insecure_skip_verify").map id =
      (switch? other "app_tls_insecure_skip_verify").map id := by
    rw [switch?, switch?, rest _ (by decide) (by decide)]
  unfold ofVariables
  iterate 3 refine map_bind_congr (texts _ (by decide)) fun _ _ _ => ?_
  iterate 2 refine map_bind_congr (port _ (rest _ (by decide) (by decide))) fun _ _ _ => ?_
  iterate 8 refine map_bind_congr (texts _ (by decide)) fun _ _ _ => ?_
  refine map_bind_congr userDefined fun _ _ _ => ?_
  refine map_bind_congr skipVerify fun _ _ _ => ?_
  refine map_bind_congr (texts _ (by decide)) fun _ _ _ => ?_
  refine map_bind_congr (port _ (rest _ (by decide) (by decide))) fun _ _ _ => ?_
  iterate 10 refine map_bind_congr (texts _ (by decide)) fun _ _ _ => ?_
  simp_all only [Except.map, withoutEmpty, id_eq]

theorem Config.ofVariables_withoutEmpty
    (texts : ∀ name ∈ textNames, (text? env name).map nonEmpty? = (text? other name).map nonEmpty?)
    (rest : ∀ name ∈ knownNames, name ∉ textNames → held? env name = held? other name) :
    (ofVariables env).map withoutEmpty = (ofVariables other).map withoutEmpty :=
  map_bind_congr (Raw.ofVariables_withoutEmpty texts rest) fun raw raw' same => by
    rw [← ofRaw_withoutEmpty, same, ofRaw_withoutEmpty]

end Variables

/-- Variables without steps into their values are clear if their names differ in lower case. -/
theorem isClear_of_plain {env : Variables} (distinct : (env.map (lowercase ·.1)).Nodup)
    (plain : ∀ entry ∈ env, isPlainName entry.1 = true) : IsClear env where
  distinct := distinct.sublist (List.filter_sublist.map _)
  apart entry member stepped := by
    rw [plain entry member] at stepped
    cases stepped

section Emptied

variable {front back : Variables} {given : String}
  (distinct : ((front ++ (given, "") :: back).map (lowercase ·.1)).Nodup)
  (plain : ∀ entry ∈ front ++ (given, "") :: back, isPlainName entry.1 = true)

include distinct plain

theorem isClear_without : IsClear (front ++ back) := by
  have fewer : (front ++ back).Sublist (front ++ (given, "") :: back) :=
    (List.sublist_cons_self _ back).append_left front
  exact isClear_of_plain (distinct.sublist (fewer.map _))
    fun entry member => plain entry (fewer.subset member)

/-- The other known names hold the same with and without the empty variable. -/
theorem held?_without {name : String} (known : name ∈ knownNames)
    (other : name ≠ lowercase given) :
    held? (front ++ (given, "") :: back) name = held? (front ++ back) name := by
  refine held?_congr (isClear_of_plain distinct plain) (isClear_without distinct plain) known ?_
  simp [valuesOf, other.symm]

/-- The name of the empty variable holds an empty text, and nothing without it. -/
theorem held?_of_empty (known : lowercase given ∈ knownNames) :
    held? (front ++ (given, "") :: back) (lowercase given) = some (.text "") ∧
      held? (front ++ back) (lowercase given) = none := by
  constructor
  · rw [held?_eq_some_iff (isClear_of_plain distinct plain) known]
    exact ⟨"", mem_valuesOf.mpr ⟨given, by simp, rfl⟩, rfl⟩
  · rw [Option.eq_none_iff_forall_ne_some]
    intro held found
    obtain ⟨value, member, -⟩ :=
      (held?_eq_some_iff (isClear_without distinct plain) known held).mp found
    obtain ⟨again, member, same⟩ := mem_valuesOf.mp member
    rw [List.map_append, List.map_cons, List.nodup_middle, List.nodup_cons] at distinct
    refine distinct.1 ?_
    rw [← List.map_append, List.mem_map]
    exact ⟨_, member, same⟩

/-- An empty variable that holds a text makes the same as none. -/
theorem Config.ofVariables_without (text : lowercase given ∈ textNames) :
    (ofVariables (front ++ (given, "") :: back)).map withoutEmpty =
      (ofVariables (front ++ back)).map withoutEmpty := by
  refine ofVariables_withoutEmpty (fun name member => ?_) fun name known other => ?_
  · by_cases same : name = lowercase given
    · obtain ⟨empty, none⟩ := held?_of_empty distinct plain (mem_knownNames_of_mem_textNames text)
      rw [same, text?, empty, text?, none]
      rfl
    · have held := held?_without distinct plain (mem_knownNames_of_mem_textNames member) same
      rw [text?, held, text?]
  · refine held?_without distinct plain known ?_
    rintro rfl
    exact other text

end Emptied

end Gatehouse.Settings
