import Gatehouse.Proofs.App.Router
import Gatehouse.Proofs.App.State
import Gatehouse.Proofs.Authz.Client

/-!
# Listing the authorization models

The application asks the authorization service at most once, and what it answers is decided
by what came back: success is told of a page of models alone, and every failure is told in
the words of its own kind, in an object that a JSON reader takes apart again.
-/

namespace Gatehouse

/-- A failure that is told in JSON: an object of which the message is the only member. -/
structure Http.Response.Reports (response : Response) (message : String) : Prop where
  status : response.status = 500
  contentType : response.contentType = some "application/json"
  body : Json.read (Json.readValue Json.maxDepth) (Utf8.octets response.body) =
    .ok (.object [("message", .text message)])

/-- A message is told whatever its characters are. -/
theorem App.reports_serviceFailure (message : String) :
    (serviceFailure message).Reports message where
  status := rfl
  contentType := rfl
  body := Json.read_readValue_writeObject 126 [("message", message)]

/-- Whether a client can be made: an address and a store are set, and neither is blank. -/
def Settings.AuthzConfig.IsUsable (settings : AuthzConfig) : Prop :=
  ∃ apiUrl ∈ settings.apiUrl, ∃ storeId ∈ settings.storeId,
    (∃ c ∈ apiUrl.toList, Text.isBlank c = false) ∧
      ∃ c ∈ storeId.toList, Text.isBlank c = false

namespace App

open Authz (AuthzError Client ModelsPage)
open Settings (AuthzConfig Config)

/-- What a request for the models comes to, by the settings of the client and by what comes back
    from the services. -/
structure Outcome.TellsOfModels (outcome : Outcome) (settings : AuthzConfig)
    (services : Http.Services) : Prop where
  /-- Nothing is asked a second time. -/
  once : outcome.exchanges = [] ∨ ∃ call, outcome.exchanges = [⟨call, services [] call⟩]
  undelivered : outcome.delivered = false
  status_eq_iff : outcome.response.status = 200 ↔
    settings.IsUsable ∧ ∃ exchange ∈ outcome.exchanges, ∃ status contentType body page,
      exchange.reply = .answered status contentType body ∧ Http.isSuccess status = true ∧
        ModelsPage.IsReadFrom page body
  listed : outcome.response.status = 200 →
    outcome.response = .text 200 "Listed authorization models"
  unusable : ¬ settings.IsUsable →
    outcome.exchanges = [] ∧ outcome.response.Reports "OpenFGA client is not configured"
  unanswered : settings.IsUsable →
    (∀ exchange ∈ outcome.exchanges, ∀ status contentType body,
      exchange.reply ≠ .answered status contentType body) →
    ∃ fault : Http.CallFault,
      outcome.response.Reports (AuthzError.connectionFailed fault.message).message
  refused : ∀ exchange ∈ outcome.exchanges, ∀ status contentType body,
    exchange.reply = .answered status contentType body → Http.isSuccess status = false →
    outcome.response.Reports
      (AuthzError.requestFailed status (.ofList (Utf8.decodeLossy body))).message
  unreadable : ∀ exchange ∈ outcome.exchanges, ∀ status contentType body,
    exchange.reply = .answered status contentType body → Http.isSuccess status = true →
    (∀ page, ¬ ModelsPage.IsReadFrom page body) →
    outcome.response.Reports
      (AuthzError.invalidResponse "error decoding response body").message

variable {state : State} {settings : AuthzConfig} (around : Surroundings)

/-- A client is made just when the settings allow for one. -/
theorem exists_client_iff :
    (∃ client, (authzClient? settings).bind (·.toOption) = some client) ↔
      settings.IsUsable := by
  constructor
  · rintro ⟨client, made⟩
    obtain ⟨tried, found, good⟩ := Option.bind_eq_some_iff.mp made
    obtain ⟨apiUrl, set, rfl⟩ := Option.map_eq_some_iff.mp found
    obtain ⟨address, store, -⟩ := Client.ofSettings_eq_ok_iff.mp (eq_ok_of_toOption good)
    cases held : settings.storeId with
    | none => simp [held] at store
    | some storeId => exact ⟨apiUrl, set, storeId, held, address, by simpa [held] using store⟩
  · rintro ⟨apiUrl, set, storeId, held, address, store⟩
    have made : Client.ofSettings apiUrl storeId settings.token = .ok _ :=
      Client.ofSettings_eq_ok_iff.mpr ⟨address, store, rfl⟩
    exact ⟨_, by
      rw [authzClient?, Option.mem_def.mp set, Option.mem_def.mp held, Option.map_some,
        Option.getD_some, made]
      rfl⟩

theorem State.authz_of_ofConfig {config : Config}
    (built : State.ofConfig config = .ok state) :
    state.authz = (authzClient? config.authz).bind (·.toOption) := by
  unfold State.ofConfig at built
  split at built
  · cases built
  · cases built
    rfl

theorem tellsOfModels_of_none (absent : state.authz = none) (unusable : ¬ settings.IsUsable) :
    (listModels state around).result.TellsOfModels settings around.services := by
  have outcome : (listModels state around).result =
      .ofResponse (serviceFailure "OpenFGA client is not configured") := by
    rw [listModels, absent]
    rfl
  rw [outcome]
  exact {
    once := .inl rfl
    undelivered := rfl
    status_eq_iff := ⟨nofun, fun ⟨usable, _⟩ => absurd usable unusable⟩
    listed := nofun
    unusable := fun _ => ⟨rfl, reports_serviceFailure _⟩
    unanswered := fun usable => absurd usable unusable
    refused := nofun
    unreadable := nofun }

theorem tellsOfModels_of_some {client : Client} (made : state.authz = some client)
    (usable : settings.IsUsable) :
    (listModels state around).result.TellsOfModels settings around.services := by
  have ends := client.ends_listModels around.services
  unfold listModels
  rw [made, Handling.result_count]
  dsimp only
  generalize client.listModels around.services = asked at ends
  obtain ⟨result, exchanges⟩ := asked
  dsimp only at ends ⊢
  cases ends with
  | unsent fault =>
    exact {
      once := .inl rfl
      undelivered := rfl
      status_eq_iff := ⟨nofun, nofun⟩
      listed := nofun
      unusable := fun not => absurd usable not
      unanswered := fun _ _ => ⟨fault, reports_serviceFailure _⟩
      refused := nofun
      unreadable := nofun }
  | unanswered call fault silent =>
    exact {
      once := .inr ⟨call, rfl⟩
      undelivered := rfl
      status_eq_iff := iff_of_false nofun (by simp [silent])
      listed := nofun
      unusable := fun not => absurd usable not
      unanswered := fun _ _ => ⟨fault, reports_serviceFailure _⟩
      refused := by simp [silent]
      unreadable := by simp [silent] }
  | refused call answered bad =>
    exact {
      once := .inr ⟨call, rfl⟩
      undelivered := rfl
      status_eq_iff := iff_of_false nofun (by simp [answered, bad])
      listed := nofun
      unusable := fun not => absurd usable not
      unanswered := by simp [answered]
      refused := by simp [answered, reports_serviceFailure]
      unreadable := by simp [answered, bad] }
  | unreadable call answered good other =>
    exact {
      once := .inr ⟨call, rfl⟩
      undelivered := rfl
      status_eq_iff := iff_of_false nofun (by simp [answered, other])
      listed := nofun
      unusable := fun not => absurd usable not
      unanswered := by simp [answered]
      refused := by simp [answered, good]
      unreadable := by simp [answered, reports_serviceFailure] }
  | listed call answered good read =>
    exact {
      once := .inr ⟨call, rfl⟩
      undelivered := rfl
      status_eq_iff := iff_of_true rfl
        ⟨usable, _, List.mem_singleton_self _, _, _, _, _, answered, good, read⟩
      listed := fun _ => rfl
      unusable := fun not => absurd usable not
      unanswered := by simp [answered]
      refused := by simp [answered, good]
      unreadable := by
        intro exchange member _ _ _ same _ none
        obtain rfl := List.mem_singleton.mp member
        cases answered.symm.trans same
        exact absurd read (none _) }

variable (state) in
/-- Listing the models answers once and truthfully, whatever the settings are and whatever comes
    back, and on the route for it every method is answered so. -/
theorem tellsOfModels_listModels {config : Config} (built : State.ofConfig config = .ok state) :
    (listModels state around).result.TellsOfModels config.authz around.services ∧
      ∀ (entry : Entry) (tally : Tally) (request : Http.Request),
        request.path = "/openfga/list-authorization-models" →
        entry.reachesApplication state request = true →
        (serve state entry tally around request).1 =
          (listModels state around).result.forMethod request.method := by
  constructor
  · have authz := State.authz_of_ofConfig built
    cases made : state.authz with
    | none =>
      refine tellsOfModels_of_none around made fun usable => ?_
      obtain ⟨client, other⟩ := exists_client_iff.mpr usable
      cases (other.symm.trans authz.symm).trans made
    | some client =>
      exact tellsOfModels_of_some around made (exists_client_iff.mp ⟨client, authz ▸ made⟩)
  · intro entry tally request path reaches
    have routed : Route.ofPath? request.path = some (.listModels, []) := by
      rw [path]
      decide +kernel
    have dispatched : dispatch state around request = listModels state around := by
      simp only [dispatch, routed]
      rfl
    rw [outcome_serve_of_reaches tally around reaches, dispatched]

/-- The variables of an application with an authorization service. -/
def modelsVariables : Settings.Variables :=
  localVariables ++ [("FGA_HTTP_API_URL", "http://fga/"), ("FGA_STORE_ID", "store")]

/-- An authorization service that sends everybody elsewhere, with a body that is not UTF-8. -/
def Surroundings.moved : Surroundings :=
  { silent with services := fun _ _ => .answered 302 none [0x67, 0x6F, 0xFF] }

/-- A request for the models, by a method that no page uses. -/
def modelsRequest : Http.Request :=
  ⟨"POST", ⟨none, none, "/openfga/list-authorization-models", none⟩, []⟩

/-- A redirection is not followed but told of, with what can be read of its body. -/
theorem tellsOfModels_moved :
    ∃ state : State, state.IsMadeBy modelsVariables ∧
      (listModels state .moved).result.exchanges.map (·.call.url) =
        ["http://fga/stores/store/authorization-models"] ∧
      (serve state .main .zero .moved modelsRequest).1.response.Reports
        "authorization request failed with status 302: go\uFFFD" := by
  obtain ⟨state, made, shown⟩ := exists_isMadeBy_of_shown modelsVariables
    (fun state => ((listModels state .moved).result.exchanges.map (·.call.url),
      Entry.main.reachesApplication state modelsRequest))
    (["http://fga/stores/store/authorization-models"], true) (by decide +kernel)
  obtain ⟨urls, reaches⟩ := Prod.mk.inj shown
  refine ⟨state, made, urls, ?_⟩
  obtain ⟨config, -, built⟩ := made
  obtain ⟨told, served⟩ := tellsOfModels_listModels state .moved built
  have message : (AuthzError.requestFailed 302
      (.ofList (Utf8.decodeLossy [0x67, 0x6F, 0xFF]))).message =
        "authorization request failed with status 302: go\uFFFD" := by decide +kernel
  rw [served .main .zero _ rfl reaches, ← message]
  dsimp only [Outcome.forMethod]
  rw [Http.Response.forMethod, if_neg (by simp [modelsRequest])]
  rcases told.once with none | ⟨call, asked⟩
  · simp [none] at urls
  · exact told.refused _ (asked ▸ List.mem_singleton_self _) 302 none _ rfl rfl

end App

end Gatehouse
