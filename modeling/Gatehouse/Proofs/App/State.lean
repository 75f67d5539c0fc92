import Gatehouse.App.Router
import Gatehouse.Proofs.Session.Cells
import Gatehouse.Proofs.Settings.MetricsPath
import Gatehouse.Proofs.Settings.Raw
import Gatehouse.Proofs.Url.Printable
import Gatehouse.Proofs.Url.Segments
import Mathlib.Data.List.TakeWhile

/-!
# The state that variables make

What the parts of the application are once variables have been accepted.
-/

namespace Gatehouse

namespace Settings

/-- A text of slashes alone is no URL. -/
theorem trimSlashes_ne_empty {given : String} {url : Url} (parsed : Url.parse given = .ok url) :
    Text.trimSlashes given ≠ "" := by
  intro empty
  have slashes : ∀ c ∈ given.toList, c = '/' := by
    have gone := congrArg String.toList empty
    rw [Text.trimSlashes, String.toList_ofList] at gone
    simpa [Text.dropWhileEnd, List.dropWhile_eq_nil_iff] using gone
  have whole : Url.cleaned given = given.toList := by
    have kept : Text.trimBy (fun c => c.toNat ≤ 0x20) given.toList = given.toList := by
      apply Text.trimBy_of_all
      intro c member
      rw [slashes c member]
      rfl
    rw [Url.cleaned, kept, List.filter_eq_self]
    intro c member
    rw [slashes c member]
    rfl
  have noScheme : Url.scheme? given.toList = none := by
    cases letters : given.toList with
    | nil => rfl
    | cons c cs =>
      rw [slashes c (letters ▸ List.mem_cons_self)]
      rfl
  rw [Url.parse, whole, noScheme] at parsed
  cases parsed

/-- What the parts of an accepted configuration have to do with each other: there is a base URL,
    the base path is that of a URL, the cookies are for this path, and the metrics are out of the
    way. -/
structure Config.IsCoherent (config : Config) : Prop where
  baseUrl : config.baseUrl ≠ ""
  basePath : ∃ given url, Url.parse given = .ok url ∧ config.basePath = basePathOf url
  options : config.session.options = .ofPath config.basePath
  metrics : metricsPathFault? config.metrics.path (config.metrics.port == config.port) = none

theorem Config.isCoherent_ofVariables {env : Variables} {config : Config}
    (accepted : ofVariables env = .ok config) : config.IsCoherent := by
  obtain ⟨raw, given, redirectPath, url, -, made⟩ := exists_isMadeOf accepted
  refine ⟨?_, ⟨given, url, made.parsed, made.basePath⟩, made.options, made.metricsPath⟩
  rw [made.baseUrl]
  exact trimSlashes_ne_empty made.parsed

theorem isFieldValue_basePathOf {url : Url} (printable : url.IsPrintable) :
    Http.isFieldValue (basePathOf url) = true := by
  unfold basePathOf
  dsimp only
  split
  · rfl
  · exact Url.isFieldValue_of_isFront printable.path

theorem Config.IsCoherent.isFieldValue_basePath {config : Config} (coherent : config.IsCoherent) :
    Http.isFieldValue config.basePath = true := by
  obtain ⟨given, url, parsed, same⟩ := coherent.basePath
  rw [same]
  exact isFieldValue_basePathOf (Url.isPrintable_parse parsed)

end Settings

namespace App

open Settings (Config Variables)

/-- Variables are accepted, and the application is put together from them. -/
def State.IsMadeBy (state : State) (env : Variables) : Prop :=
  ∃ config, Config.ofVariables env = .ok config ∧ State.ofConfig config = .ok state

theorem State.parts_of_ofConfig {config : Config} {state : State}
    (built : State.ofConfig config = .ok state) :
    state.config = config ∧
      state.sessions = .ofSecret config.session.secretKey config.session.options ∧
      state.provider = config.provider := by
  unfold State.ofConfig at built
  split at built
  · cases built
  · rename_i provider registered
    cases built
    refine ⟨rfl, rfl, ?_⟩
    simp only [Oidc.register, bind, Except.bind] at registered
    split at registered
    · cases registered
    · cases registered
      rfl

namespace State.IsMadeBy

variable {state : State} {env : Variables}

theorem coherent (made : state.IsMadeBy env) : state.config.IsCoherent := by
  obtain ⟨config, accepted, built⟩ := made
  rw [(parts_of_ofConfig built).1]
  exact Config.isCoherent_ofVariables accepted

/-- The cookies are sent for the base path, and are taken in as they are meant if no semicolon
    ends it early. -/
theorem areSendable (made : state.IsMadeBy env)
    (whole : ∀ c ∈ state.config.basePath.toList, c ≠ ';') :
    state.sessions.options.AreSendable := by
  have coherent := made.coherent
  obtain ⟨config, -, built⟩ := made
  obtain ⟨same, sessions, -⟩ := parts_of_ofConfig built
  have options : state.sessions.options = .ofPath state.config.basePath := by
    rw [← coherent.options, sessions, same]
    rfl
  rw [options]
  exact Session.Options.areSendable_ofPath whole coherent.isFieldValue_basePath

end State.IsMadeBy

/-- The metrics are never at a path that a route of the application fits. -/
theorem reachesApplication_of_fits {state : State} (coherent : state.config.IsCoherent)
    {entry : Entry} (served : entry ≠ .metrics) {request : Http.Request} (route : Route)
    (fits : Http.Fits route.pattern (Http.pathSegments request.path)) :
    entry.reachesApplication state request = true := by
  cases entry with
  | metrics => exact absurd rfl served
  | application => rfl
  | main =>
    obtain ⟨-, apart⟩ := Settings.metricsPathFault?_eq_none_iff.mp coherent.metrics
    rw [Entry.reachesApplication, Bool.not_eq_true', Bool.and_eq_false_imp]
    intro shares
    rw [State.isScrape, beq_eq_false_iff_ne]
    intro same
    -- On one port the metrics were only accepted at a path that no route fits.
    exact apart shares route (same ▸ fits)

/-- Nothing reachable around the application. -/
def Surroundings.silent : Surroundings where
  services := .unreachable
  deliver _ _ := .error (.notConfigured "SMTP_HOST")
  probe _ := .error .notConfigured
  draws := ⟨.replicate 16 0, .replicate 16 0, .replicate 32 0⟩

/-- A provider that grants a token and then tells an address. -/
def answeringServices : Http.Services := fun earlier _ =>
  .answered 200 (some "application/json")
    (Utf8.octets
      (if earlier.isEmpty then
        "\x7b\"access_token\":\"t\",\"token_type\":\"Bearer\",\"expires_in\":3600\x7d"
      else "\x7b\"sub\":\"1\",\"email\":\"alice@example.com\",\"email_verified\":true\x7d"))

/-- Such a provider and nothing else. -/
def Surroundings.answering : Surroundings :=
  { silent with services := answeringServices }

/-- The variables of an application under a path, with one identity provider. -/
def localVariables : Variables :=
  [("APP_BASE_URL", "http://localhost:8080/app"), ("APP_SECRET_KEY", "secret"),
    ("APP_OIDC_REDIRECT_PATH", "/auth/openid-connect/callback"),
    ("APP_OIDC_AUTHORIZE_URL", "https://login.example.org/authorize"),
    ("APP_OIDC_ACCESS_TOKEN_URL", "https://login.example.org/token"),
    ("APP_OIDC_USER_URL", "https://login.example.org/user")]

/-- An application that is put together by evaluation, with what evaluation shows of it. -/
theorem exists_isMadeBy_of_shown {α : Type} (env : Variables) (view : State → α) (shown : α)
    (made : (((Config.ofVariables env).toOption.bind fun config =>
      (State.ofConfig config).toOption).map view) = some shown) :
    ∃ state : State, state.IsMadeBy env ∧ view state = shown := by
  obtain ⟨state, built, shown⟩ := Option.map_eq_some_iff.mp made
  obtain ⟨config, accepted, built⟩ := Option.bind_eq_some_iff.mp built
  exact ⟨state, ⟨config, eq_ok_of_toOption accepted, eq_ok_of_toOption built⟩, shown⟩

theorem exists_isMadeBy (env : Variables) (baseUrl basePath : String)
    (made : (((Config.ofVariables env).toOption.bind fun config =>
      (State.ofConfig config).toOption).map fun state =>
        (state.config.baseUrl, state.config.basePath)) = some (baseUrl, basePath)) :
    ∃ state : State, state.IsMadeBy env ∧ state.config.baseUrl = baseUrl ∧
      state.config.basePath = basePath := by
  obtain ⟨state, made, bases⟩ := exists_isMadeBy_of_shown env _ _ made
  rw [Prod.mk.injEq] at bases
  exact ⟨state, made, bases⟩

theorem exists_isMadeBy_localVariables :
    ∃ state : State, state.IsMadeBy localVariables ∧
      state.config.baseUrl = "http://localhost:8080/app" ∧ state.config.basePath = "/app" :=
  exists_isMadeBy _ _ _ (by decide +kernel)

/-- Their base URL can stand in a header, and their base path in a cookie. -/
theorem exists_sendable_localVariables :
    ∃ state : State, state.IsMadeBy localVariables ∧
      Http.isFieldValue state.config.baseUrl = true ∧
      ∀ c ∈ state.config.basePath.toList, c ≠ ';' := by
  obtain ⟨state, made, baseUrl, basePath⟩ := exists_isMadeBy_localVariables
  refine ⟨state, made, ?_, ?_⟩
  · rw [baseUrl]
    decide
  · rw [basePath]
    exact List.all_iff_forall_prop.mp (by decide)

end App

end Gatehouse
