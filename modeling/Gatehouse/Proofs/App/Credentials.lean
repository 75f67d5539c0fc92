import Gatehouse.App.Run
import Gatehouse.Proofs.App.Router
import Gatehouse.Proofs.App.State
import Gatehouse.Proofs.Http.Anonymous
import Gatehouse.Proofs.Settings.Variables

/-!
# Credentials do not show

The secret for the identity provider and the token for the authorization service appear in
the authorization of requests to these services and nowhere else.  Two applications that
differ in them alone give the same answers, as long as the services do not look at them.
-/

namespace Gatehouse

open Http (Alike Services)

/-- What is asked of the authorization service does not depend on the token. -/
theorem Authz.Client.listModels_alike {services : Services} (blind : services.IsBlind)
    (client : Client) (token : Option String)
    (field : ∀ s ∈ client.token, Http.isFieldValue s = true)
    (field' : ∀ s ∈ token, Http.isFieldValue s = true) :
    Alike ({ client with token := token }.listModels services) (client.listModels services) := by
  unfold listModels
  have same : modelsUrl { client with token := token } = client.modelsUrl := rfl
  rw [same]
  dsimp only
  rcases Http.getCall_alike client.modelsUrl field' field with
    ⟨fault, other, one⟩ | ⟨url, call', call, other, one, calls⟩
  · rw [one, other]
    exact .refl _
  · rw [one, other]
    exact (Alike.ofReply blind (by rfl) calls).map (readReply url)

namespace Oidc

variable (readers : Readers) {services : Services} {earlier earlier' : List Http.Call}

theorem send_alike (blind : services.IsBlind)
    (heard : earlier.map Http.Call.anonymous = earlier'.map Http.Call.anonymous) (url : Url)
    {call call' : Http.Call} (same : call.anonymous = call'.anonymous) :
    Alike (send services earlier url call) (send services earlier' url call') := by
  unfold send
  split
  · exact .refl _
  · split
    · exact (Alike.ofReply blind heard same).map Except.ok
    · exact .refl _

theorem exchangeCode_alike (blind : services.IsBlind) (provider : Provider) (secret : String)
    (endpoints : Endpoints) (code verifier : String) :
    Alike
      (exchangeCode readers services { provider with clientSecret := secret } endpoints code
        verifier)
      (exchangeCode readers services provider endpoints code verifier) := by
  have same : (tokenCall { provider with clientSecret := secret } endpoints.token code
      verifier).anonymous = (tokenCall provider endpoints.token code verifier).anonymous := by
    simp only [Http.Call.anonymous, tokenCall]
  unfold exchangeCode
  exact (send_alike blind rfl endpoints.token same).map (·.bind readers.token)

theorem askUser_alike (blind : services.IsBlind)
    (heard : earlier.map Http.Call.anonymous = earlier'.map Http.Call.anonymous)
    (endpoints : Endpoints) (token : String) :
    Alike (askUser readers services earlier endpoints token)
      (askUser readers services earlier' endpoints token) := by
  unfold askUser
  split
  · exact (send_alike blind heard endpoints.userInfo rfl).map (·.bind readers.claims)
  · exact .refl _

/-- A login is completed in the same way whatever the secret is. -/
theorem complete_alike (blind : services.IsBlind) (provider : Provider)
    (secret code verifier : String) :
    Alike (complete readers services { provider with clientSecret := secret } code verifier)
      (complete readers services provider code verifier) := by
  have addresses : Endpoints.ofProvider { provider with clientSecret := secret } =
      Endpoints.ofProvider provider := rfl
  unfold complete
  rw [addresses]
  cases Endpoints.ofProvider provider with
  | error error => exact .refl _
  | ok endpoints =>
    have exchanged := exchangeCode_alike readers blind provider secret endpoints code verifier
    dsimp only
    generalize exchangeCode readers services { provider with clientSecret := secret } endpoints
      code verifier = other at exchanged ⊢
    generalize exchangeCode readers services provider endpoints code verifier = one at exchanged ⊢
    obtain ⟨result', exchanges'⟩ := other
    obtain ⟨result, exchanges⟩ := one
    obtain rfl : result' = result := exchanged.result
    cases result' with
    | error fault => exact ⟨rfl, exchanged.exchanges⟩
    | ok token =>
      have asked := askUser_alike readers blind exchanged.calls endpoints token
      have whole := exchanged.append asked
      dsimp only at asked whole ⊢
      generalize askUser readers services (exchanges'.map (·.call)) endpoints token = other
        at asked whole ⊢
      generalize askUser readers services (exchanges.map (·.call)) endpoints token = one
        at asked whole ⊢
      obtain ⟨result', more'⟩ := other
      obtain ⟨result, more⟩ := one
      obtain rfl : result' = result := asked.result
      cases result' with
      | error fault => exact ⟨rfl, whole.exchanges⟩
      | ok claims => exact ⟨rfl, whole.exchanges⟩

end Oidc

namespace Settings

/-- The names of the variables that hold credentials for other services. -/
def credentialNames : List String := ["app_oidc_client_secret", "fga_token"]

/-- The configuration with other credentials. -/
def Config.withCredentials (config : Config) (secret : String) (token : Option String) : Config :=
  { config with
    provider := { config.provider with clientSecret := secret }
    authz := { config.authz with token := token } }

/-- Variables that agree but for the credentials make the same of all other known variables. -/
theorem Raw.eq_of_ofVariables {env env' : Variables} {raw raw' : Raw}
    (same : ∀ name ∈ knownNames, name ∉ credentialNames → held? env' name = held? env name)
    (read : ofVariables env = .ok raw) (read' : ofVariables env' = .ok raw') :
    raw' = { raw with clientSecret := raw'.clientSecret, authzToken := raw'.authzToken } := by
  rw [knownNames_eq] at same
  simp (disch := decide) only [ofVariables, text?, port?, switch?, same] at read read'
  iterate 7
    obtain ⟨_, one, read⟩ := exists_of_bind_eq_ok read
    obtain ⟨_, other, read'⟩ := exists_of_bind_eq_ok read'
    cases one.symm.trans other
  obtain ⟨_, -, read⟩ := exists_of_bind_eq_ok read
  obtain ⟨_, -, read'⟩ := exists_of_bind_eq_ok read'
  iterate 16
    obtain ⟨_, one, read⟩ := exists_of_bind_eq_ok read
    obtain ⟨_, other, read'⟩ := exists_of_bind_eq_ok read'
    cases one.symm.trans other
  obtain ⟨_, -, read⟩ := exists_of_bind_eq_ok read
  obtain ⟨_, -, read'⟩ := exists_of_bind_eq_ok read'
  iterate 2
    obtain ⟨_, one, read⟩ := exists_of_bind_eq_ok read
    obtain ⟨_, other, read'⟩ := exists_of_bind_eq_ok read'
    cases one.symm.trans other
  cases read
  cases read'
  rfl

theorem Config.ofRaw_withCredentials (raw : Raw) (secret token : Option String) :
    ofRaw { raw with clientSecret := secret, authzToken := token } =
      (ofRaw raw).map (·.withCredentials (secret.getD "") (nonEmpty? token)) := by
  simp only [ofRaw, bind, Except.bind]
  cases required "APP_BASE_URL" raw.baseUrl with
  | error error => rfl
  | ok given =>
    cases required "APP_SECRET_KEY" raw.secretKey with
    | error error => rfl
    | ok secretKey =>
      cases required "APP_OIDC_REDIRECT_PATH" raw.redirectPath with
      | error error => rfl
      | ok redirectPath =>
        dsimp only
        cases Url.parse given with
        | error fault => rfl
        | ok url =>
          dsimp only
          split
          · rfl
          · rfl

end Settings

namespace App

open Settings (Config)

/-- An outcome that does not show who asked the other services. -/
def Outcome.anonymous (outcome : Outcome) : Outcome :=
  { outcome with exchanges := outcome.exchanges.map Http.Exchange.anonymous }

/-- The application with other credentials. -/
def State.withCredentials (state : State) (secret : String) (token : Option String) : State where
  config := state.config.withCredentials secret token
  sessions := state.sessions
  provider := { state.provider with clientSecret := secret }
  authz := state.authz.map fun client => { client with token := token.filter (!·.isEmpty) }

/-- With other credentials the same applications are put together. -/
theorem State.ofConfig_withCredentials (config : Config) (secret : String)
    (token : Option String) :
    State.ofConfig (config.withCredentials secret token) =
      (State.ofConfig config).map (·.withCredentials secret token) := by
  have registered : Oidc.register (config.withCredentials secret token).provider =
      (Oidc.register config.provider).map ({ · with clientSecret := secret }) := by
    simp only [Oidc.register, bind, Except.bind]
    cases redirect : Oidc.settingUrl "redirect URL" config.provider.redirectUrl with
    | error error => simp [Config.withCredentials, redirect, Except.map]
    | ok url => simp [Config.withCredentials, redirect, Except.map]
  have client : (authzClient? (config.withCredentials secret token).authz).bind (·.toOption) =
      ((authzClient? config.authz).bind (·.toOption)).map
        ({ · with token := token.filter (!·.isEmpty) }) := by
    dsimp only [Config.withCredentials, authzClient?]
    cases config.authz.apiUrl with
    | none => rfl
    | some apiUrl =>
      dsimp only [Option.map_some, Option.bind_some, Authz.Client.ofSettings]
      split
      · rfl
      · split <;> rfl
  rw [State.ofConfig, State.ofConfig, registered, client]
  cases Oidc.register config.provider with
  | error error => rfl
  | ok provider => rfl

/-- The client of the authorization service shows the token of the configuration. -/
theorem State.token_of_ofConfig {config : Config} {state : State}
    (built : State.ofConfig config = .ok state) :
    ∀ client ∈ state.authz, client.token = state.config.authz.token.filter (!·.isEmpty) := by
  intro client found
  unfold State.ofConfig at built
  split at built
  · cases built
  · cases built
    obtain ⟨made, tried, good⟩ := Option.bind_eq_some_iff.mp found
    obtain ⟨apiUrl, -, rfl⟩ := Option.map_eq_some_iff.mp tried
    have made := eq_ok_of_toOption good
    unfold Authz.Client.ofSettings at made
    split at made
    · cases made
    · split at made
      · cases made
      · cases made
        rfl

/-- Two applications whose variables agree but for the credentials differ in these alone. -/
theorem State.IsMadeBy.eq_withCredentials {env env' : Settings.Variables} {state other : State}
    (made : state.IsMadeBy env) (made' : other.IsMadeBy env')
    (same : ∀ name ∈ Settings.knownNames, name ∉ Settings.credentialNames →
      Settings.held? env' name = Settings.held? env name) :
    other = state.withCredentials other.provider.clientSecret other.config.authz.token := by
  obtain ⟨config, accepted, built⟩ := made
  obtain ⟨config', accepted', built'⟩ := made'
  obtain ⟨raw, read, accepted⟩ := exists_of_bind_eq_ok accepted
  obtain ⟨raw', read', accepted'⟩ := exists_of_bind_eq_ok accepted'
  rw [Settings.Raw.eq_of_ofVariables same read read', Config.ofRaw_withCredentials, accepted]
    at accepted'
  cases accepted'
  rw [State.ofConfig_withCredentials, built] at built'
  cases built'
  rfl

section Requests

variable {state : State} {secret : String} {token : Option String} {around : Surroundings}
  (blind : around.services.IsBlind)

include blind

theorem callback_alike (provider : String) (query : CallbackQuery) (cookies : List String) :
    Alike
      (callback (state.withCredentials secret token) around.readers around.services provider query
        cookies)
      (callback state around.readers around.services provider query cookies) := by
  have checked : checkCallback (state.withCredentials secret token) provider query cookies =
      checkCallback state provider query cookies := rfl
  unfold callback
  rw [checked]
  cases checkCallback state provider query cookies with
  | error error => exact .refl _
  | ok grant =>
    have completed := Oidc.complete_alike around.readers blind state.provider secret
      grant.code grant.verifier
    dsimp only [State.withCredentials]
    generalize Oidc.complete around.readers around.services
      { state.provider with clientSecret := secret } grant.code grant.verifier = other
      at completed ⊢
    generalize Oidc.complete around.readers around.services state.provider grant.code
      grant.verifier = one at completed ⊢
    obtain ⟨result', exchanges'⟩ := other
    obtain ⟨result, exchanges⟩ := one
    obtain rfl : result' = result := completed.result
    cases result' with
    | error error => exact ⟨rfl, completed.exchanges⟩
    | ok user => exact ⟨rfl, completed.exchanges⟩

variable (field : ∀ client ∈ state.authz, ∀ s ∈ client.token, Http.isFieldValue s = true)
  (field' : ∀ s ∈ token, Http.isFieldValue s = true)

include field field'

theorem anonymous_listModels :
    (listModels (state.withCredentials secret token) around).map Outcome.anonymous =
      (listModels state around).map Outcome.anonymous := by
  unfold listModels
  dsimp only [State.withCredentials]
  cases found : state.authz with
  | none => rfl
  | some client =>
    have filtered : ∀ s ∈ token.filter (!·.isEmpty), Http.isFieldValue s = true := by
      intro s member
      exact field' s (Option.filter_eq_some_iff.mp member).1
    have asked := client.listModels_alike blind (token.filter (!·.isEmpty)) (field client found)
      filtered
    dsimp only [Option.map_some]
    generalize Authz.Client.listModels { client with token := token.filter (!·.isEmpty) }
      around.services = other at asked ⊢
    generalize client.listModels around.services = one at asked ⊢
    obtain ⟨result', exchanges'⟩ := other
    obtain ⟨result, exchanges⟩ := one
    obtain rfl : result' = result := asked.result
    cases result' with
    | error error =>
      exact congrArg (fun sent => (Handling.done (Outcome.mk _ sent _)).count) asked.exchanges
    | ok page =>
      exact congrArg (fun sent => (Handling.done (Outcome.mk _ sent _)).count) asked.exchanges

/-- Only two routes show credentials, and no answer depends on them. -/
theorem anonymous_handle (request : Http.Request) (capture : String) (route : Route) :
    (handle (state.withCredentials secret token) around request capture route).map
        Outcome.anonymous =
      (handle state around request capture route).map Outcome.anonymous := by
  cases route with
  | hello | sendMail | userDefinedConfig | migrateStatus | logout | login | profile => rfl
  | listModels => exact anonymous_listModels blind field field'
  | callback =>
    refine congrArg Handling.done ?_
    dsimp only [withProvider]
    cases captureText? capture with
    | none => rfl
    | some provider =>
      dsimp only [respondToCallback]
      cases CallbackQuery.ofPairs (Url.formPairs (request.target.query.getD "")) with
      | error name => rfl
      | ok query =>
        have answered : Alike
            (callback (state.withCredentials secret token) _ _ provider query request.cookies) _ :=
          callback_alike blind provider query request.cookies
        dsimp only [Outcome.anonymous]
        rw [answered.result, answered.exchanges]

theorem anonymous_dispatch (request : Http.Request) :
    (dispatch (state.withCredentials secret token) around request).map Outcome.anonymous =
      (dispatch state around request).map Outcome.anonymous := by
  unfold dispatch
  cases Route.ofPath? request.path with
  | none => rfl
  | some found =>
    dsimp only
    unfold handleOn
    split
    · exact anonymous_handle blind field field' request _ found.1
    · rfl

/-- A request is answered and counted in the same way whatever the credentials are. -/
theorem anonymous_serve (entry : Entry) (tally : Tally) (request : Http.Request) :
    (serve (state.withCredentials secret token) entry tally around request).1.anonymous =
        (serve state entry tally around request).1.anonymous ∧
      (serve (state.withCredentials secret token) entry tally around request).2 =
        (serve state entry tally around request).2 := by
  have reaching : entry.reachesApplication (state.withCredentials secret token) request =
      entry.reachesApplication state request := by
    cases entry <;> rfl
  have dispatched : (dispatch (state.withCredentials secret token) around request).map _ = _ :=
    anonymous_dispatch blind field field' request
  by_cases reaches : entry.reachesApplication state request = true
  · have result := congrArg Handling.result dispatched
    have exports := congrArg Handling.exports dispatched
    have totals := congrArg Handling.totals dispatched
    simp only [Handling.result_map] at result
    simp only [Handling.exports_map] at exports
    simp only [Handling.totals_map] at totals
    rw [serve_of_reaches tally around (reaching.trans reaches),
      serve_of_reaches tally around reaches]
    dsimp only
    rw [exports, totals]
    generalize (dispatch (state.withCredentials secret token) around request).result = other
      at result ⊢
    generalize (dispatch state around request).result = one at result ⊢
    obtain ⟨response, exchanges, delivered⟩ := one
    obtain ⟨response', exchanges', delivered'⟩ := other
    obtain ⟨rfl, exchanged, rfl⟩ := Outcome.mk.inj result
    exact ⟨congrArg (Outcome.mk _ · _) exchanged, rfl⟩
  · rw [serve_of_not_reaches tally around (mt reaching.symm.trans reaches),
      serve_of_not_reaches tally around reaches]
    exact ⟨rfl, rfl⟩

end Requests

/-- A run of requests is answered and counted in the same way whatever the credentials are. -/
theorem anonymous_run {state : State} {secret : String} {token : Option String}
    (field : ∀ client ∈ state.authz, ∀ s ∈ client.token, Http.isFieldValue s = true)
    (field' : ∀ s ∈ token, Http.isFieldValue s = true) (entry : Entry) (tally : Tally)
    {visits : List Visit} (blind : ∀ visit ∈ visits, visit.around.services.IsBlind) :
    (run (state.withCredentials secret token) entry tally visits).1.map Outcome.anonymous =
        (run state entry tally visits).1.map Outcome.anonymous ∧
      (run (state.withCredentials secret token) entry tally visits).2 =
        (run state entry tally visits).2 := by
  induction visits generalizing tally with
  | nil => exact ⟨rfl, rfl⟩
  | cons visit rest ih =>
    obtain ⟨first, rest⟩ := List.forall_mem_cons.mp blind
    obtain ⟨answered, counted⟩ : (serve (state.withCredentials secret token) entry tally _
        visit.request).1.anonymous = _ ∧ _ :=
      anonymous_serve first field field' entry tally visit.request
    obtain ⟨outcomes, last⟩ :=
      ih (serve state entry tally visit.around visit.request).2 rest
    dsimp only [run]
    rw [counted]
    exact ⟨congrArg₂ List.cons answered outcomes, last⟩

/-- Credentials do not show.  Applications whose variables agree but for the client secret and the
    token of the authorization service give the same answers to the same requests, one by one, and
    count and deliver the same, as long as the tokens can stand in a field and the services do not
    look at who asks; and what they ask the services is the same but for the authorization. -/
theorem anonymous_run_eq {env env' : Settings.Variables} {state other : State}
    (made : state.IsMadeBy env) (made' : other.IsMadeBy env')
    (same : ∀ name ∈ Settings.knownNames, name ∉ Settings.credentialNames →
      Settings.held? env' name = Settings.held? env name)
    (field : ∀ token ∈ state.config.authz.token, Http.isFieldValue token = true)
    (field' : ∀ token ∈ other.config.authz.token, Http.isFieldValue token = true)
    (entry : Entry) (tally : Tally) {visits : List Visit}
    (blind : ∀ visit ∈ visits, visit.around.services.IsBlind) :
    (run other entry tally visits).1.map Outcome.anonymous =
        (run state entry tally visits).1.map Outcome.anonymous ∧
      (run other entry tally visits).2 = (run state entry tally visits).2 := by
  have shown : ∀ client ∈ state.authz, ∀ s ∈ client.token, Http.isFieldValue s = true := by
    obtain ⟨config, -, built⟩ := made
    intro client found s member
    rw [State.token_of_ofConfig built client found] at member
    exact field s (Option.filter_eq_some_iff.mp member).1
  rw [made.eq_withCredentials made' same]
  exact anonymous_run shown field' entry tally blind

/-- The variables of an application with an authorization service, and with credentials. -/
def credentialVariables (secret token : String) : Settings.Variables :=
  localVariables ++ [("APP_OIDC_CLIENT_SECRET", secret), ("FGA_HTTP_API_URL", "http://fga"),
    ("FGA_STORE_ID", "store"), ("FGA_TOKEN", token)]

/-- A request for the models of a service that answers everything with an empty page. -/
def modelsVisit : Visit where
  around := { Surroundings.silent with
    services := fun _ call =>
      if call.method = "GET" then .answered 200 none [0x7B, 0x7D] else .dropped }
  request := ⟨"GET", ⟨none, none, "/openfga/list-authorization-models", none⟩, []⟩

/-- Two applications show two tokens, and give one answer. -/
theorem anonymous_run_eq_two_tokens :
    ∃ state other : State, state.IsMadeBy (credentialVariables "one" "first") ∧
      other.IsMadeBy (credentialVariables "two" "second") ∧
      (run state .main .zero [modelsVisit]).1.map
        (fun outcome => outcome.exchanges.map (·.call.authorization)) = [[["Bearer first"]]] ∧
      (run other .main .zero [modelsVisit]).1.map Outcome.anonymous =
        (run state .main .zero [modelsVisit]).1.map Outcome.anonymous := by
  obtain ⟨state, made, shown⟩ := exists_isMadeBy_of_shown (credentialVariables "one" "first")
    (fun state => (state.config.authz.token, (run state .main .zero [modelsVisit]).1.map
        (fun outcome => outcome.exchanges.map (·.call.authorization))))
    (some "first", [[["Bearer first"]]]) (by decide +kernel)
  obtain ⟨other, made', token'⟩ := exists_isMadeBy_of_shown (credentialVariables "two" "second")
    (·.config.authz.token) (some "second") (by decide +kernel)
  obtain ⟨token, asked⟩ := Prod.mk.inj shown
  refine ⟨state, other, made, made', asked, ?_⟩
  refine (anonymous_run_eq made made' (by decide +kernel) ?_ ?_ .main .zero ?_).1
  · rw [token]; decide
  · rw [token']; decide
  · intro visit member
    rw [List.mem_singleton.mp member]
    exact Services.isBlind_ofRules fun method _ =>
      if method = "GET" then .answered 200 none [0x7B, 0x7D] else .dropped

end App

end Gatehouse
