import Gatehouse.Proofs.App.Effects
import Gatehouse.Proofs.Session.Unrelated
import Gatehouse.Proofs.Settings.Raw
import Gatehouse.Proofs.Text.Words
import Gatehouse.Proofs.Url.Query

/-!
# What a login asks for

A login sends the browser to the provider with a query of its own, and sets a cookie that
remembers the login in progress.  Both are about the same login, and the callback that ends
it sends the verifier whose hash the query shows.
-/

namespace Gatehouse

namespace Oidc

/-- The address of a login has the pairs of the login behind those of the provider's address. -/
theorem formPairs_loginUrl {provider : Provider} {endpoints : Endpoints}
    (usable : Endpoints.ofProvider provider = .ok endpoints) (draws : Draws) :
    ∃ query, Url.queryOf? (loginUrl provider endpoints draws) = some query ∧
      Url.formPairs query =
        Url.formPairs (endpoints.authorize.query.getD "") ++ loginPairs provider draws := by
  obtain ⟨query, added, pairs⟩ :=
    Url.formPairs_addPairs endpoints.authorize (loginPairs provider draws)
  refine ⟨query, ?_, pairs⟩
  have printable := Url.isPrintable_parse (parse_authorize_of_ofProvider usable)
  rw [loginUrl, Url.queryOf?_text (printable.addPairs _), added]

/-- The scopes of a login are one text with single spaces, in which each is found again. -/
theorem splitBy_scopes {provider : Provider} {scopes : String}
    (joined : provider.scopesText = Text.joinWith " " (Text.words scopes)) :
    (Text.splitBy (· == ' ')
        (Text.joinWith " " (loginScope :: provider.scopes)).toList).map .ofList =
      "openid" :: (Text.words scopes).filter (· != "openid") := by
  have same : provider.scopes = (Text.words scopes).filter (· != "openid") := by
    rw [Provider.scopes, joined, Text.words_joinWith_words, loginScope]
  have closed : ∀ w ∈ loginScope :: provider.scopes, ∀ c ∈ w.toList, (c == ' ') = false := by
    intro w member c inside
    have blank : Text.isBlank c = false := by
      have plain : ∀ d ∈ loginScope.toList, Text.isBlank d = false :=
        List.all_iff_forall_prop.mp (by decide)
      rcases List.mem_cons.mp member with rfl | member
      · exact plain c inside
      · exact (Text.isWord_of_mem_words (List.mem_filter.mp member).1).closed c inside
    rw [beq_eq_false_iff_ne]
    rintro rfl
    cases blank
  rw [Text.splitBy_joinWith_space (by decide) (List.cons_ne_nil _ _) closed, List.map_map]
  simp [Function.comp_def, String.ofList_toList, same, loginScope]

end Oidc

namespace App

open Settings (Raw Variables)

/-- An address asks the provider of known variables for a login, with the token and the challenge
    of the login: the pairs of its query are those of the provider's own address, unchanged, and
    then those of the login. -/
def AsksFor (raw : Raw) (token challenge location : String) : Prop :=
  ∃ authorize query scope scopes nonce,
    Url.parse (raw.authorizeUrl.getD "") = .ok authorize ∧
    Url.queryOf? location = some query ∧
    Url.formPairs query = Url.formPairs (authorize.query.getD "") ++
      [("response_type", "code"), ("client_id", raw.clientId.getD ""), ("state", token),
        ("code_challenge", challenge), ("code_challenge_method", "S256"),
        ("redirect_uri", raw.redirectUrl), ("scope", scope), ("nonce", nonce)] ∧
    (Text.splitBy (· == ' ') scope.toList).map .ofList = scopes ∧
    scopes = "openid" :: (Text.words (raw.scopes.getD "")).filter (· != "openid") ∧
    scopes.count "openid" = 1

/-- A cookie of a response holds a login in progress: sent back as it is, it is read as this. -/
def HoldsFlow (sessions : Session.Store) (header : String) (flow : Session.Flow) : Prop :=
  ∃ reading, Cookie.Reading.ofHeader? header = some reading ∧
    sessions.loadFlow? [reading.name ++ "=" ++ reading.value] = some flow

/-- What a callback sends first, if it sends anything, has one verifier, which is this one. -/
def SendsVerifier (verifier : String) (exchanges : List Http.Exchange) : Prop :=
  ∀ first ∈ exchanges.head?,
    (Url.formPairs first.call.body).filter (·.1 == "code_verifier") =
      [("code_verifier", verifier)]

theorem State.IsMadeBy.exists_raw {state : State} {env : Variables} (made : state.IsMadeBy env) :
    ∃ raw : Raw, raw.IsReadFrom env ∧ state.provider = raw.provider raw.redirectUrl := by
  obtain ⟨config, accepted, built⟩ := made
  obtain ⟨raw, _, _, _, read, taken⟩ := Settings.Config.exists_isMadeOf accepted
  exact ⟨raw, read, (State.parts_of_ofConfig built).2.2.trans taken.provider⟩

/-- The address of a login asks for it. -/
theorem asksFor_loginUrl {raw : Raw} {provider : Oidc.Provider} {endpoints : Oidc.Endpoints}
    (same : provider = raw.provider raw.redirectUrl)
    (usable : Oidc.Endpoints.ofProvider provider = .ok endpoints) (draws : Oidc.Draws) :
    let flow := draws.flow provider.name
    AsksFor raw flow.csrfToken (Oidc.challenge flow.pkceVerifier)
      (Oidc.loginUrl provider endpoints draws) := by
  obtain ⟨query, found, pairs⟩ := Oidc.formPairs_loginUrl usable draws
  have parsed := Oidc.parse_authorize_of_ofProvider usable
  subst same
  have once : ("openid" ::
      (Text.words (raw.scopes.getD "")).filter (· != "openid")).count "openid" = 1 := by
    rw [List.count_cons_self, List.count_eq_zero_of_not_mem (by simp)]
  exact ⟨endpoints.authorize, query, _, _, _, parsed, found, pairs, Oidc.splitBy_scopes rfl, rfl,
    once⟩

theorem holdsFlow_saveFlow (sessions : Session.Store) (flow : Session.Flow) :
    HoldsFlow sessions (sessions.saveFlow flow).header flow := by
  have named : Cookie.encodePart Session.flowName = Session.flowName := by decide +kernel
  obtain ⟨attributes, read⟩ := Cookie.Reading.exists_ofHeader?_header (sessions.saveFlow flow)
  rw [Session.Store.saveFlow, Session.Store.cookie] at read ⊢
  rw [named] at read
  exact ⟨_, read, sessions.loadFlow?_flowHeader flow⟩

/-- A callback with a login in progress sends the verifier of this login, and it does not go well
    without asking. -/
theorem sendsVerifier_serve (state : State) (entry : Entry) (tally : Tally)
    (around : Surroundings) {request : Http.Request} {capture : String} {flow : Session.Flow}
    (target : Http.pathSegments request.path = ["", "auth", capture, "callback"])
    (inProgress : state.sessions.loadFlow? request.cookies = some flow) :
    let outcome := (serve state entry tally around request).1
    (outcome.response.status = 307 → outcome.exchanges ≠ []) ∧
      SendsVerifier flow.pkceVerifier outcome.exchanges := by
  obtain ⟨outcome, effect, exchanged, -, status⟩ :=
    callbackEffect_serve state entry tally around (Route.ofPath?_callback target)
  dsimp only
  rw [exchanged, status]
  have sends {code : String} {begun : Session.Flow} {result : Except Oidc.LoginError Session.User}
      {exchanges : List Http.Exchange} (brings : BringsBack state request capture code begun)
      (completion : Oidc.Completion around.readers around.services state.provider code
        begun.pkceVerifier result exchanges) :
      SendsVerifier flow.pkceVerifier exchanges := by
    obtain ⟨value, signed, decoded⟩ := brings.lastFlow
    rw [Session.Store.loadFlow?_of_lastSigned signed, decoded, Option.some_inj] at inProgress
    subst inProgress
    intro first member
    obtain ⟨endpoints, rfl⟩ := head_of_completion completion first member
    rw [Oidc.tokenExchange, Oidc.formPairs_tokenCall]
    rfl
  cases effect with
  | refused response quiet =>
    exact ⟨fun done => absurd done quiet.status, fun first member => nomatch member⟩
  | failed brings completion =>
    exact ⟨fun done => absurd done (LoginFailure.isQuiet_response _).status,
      sends brings completion⟩
  | completed brings completion =>
    obtain ⟨first, second, token, claims, whole, -⟩ := exchanges_of_completion_ok completion
    refine ⟨fun _ => ?_, sends brings completion⟩
    rw [whole]
    exact List.cons_ne_nil _ _

/-- A login leads to the provider with a query that belongs to the cookie that it sets.  The query
    has the pairs of the provider's address and those of the login, the cookie holds the login in
    progress with its token and the verifier whose hash is its challenge, and a callback that later
    ends this login sends this verifier and does not go well without sending it. -/
theorem serve_login_belongs {state : State} {env : Variables} (made : state.IsMadeBy env)
    {endpoints : Oidc.Endpoints} (usable : Oidc.Endpoints.ofProvider state.provider = .ok endpoints)
    {entry : Entry} (served : entry ≠ .metrics) (tally : Tally) (around : Surroundings)
    {request : Http.Request} (get : request.method = "GET")
    (path : request.path = "/login/openid-connect") :
    let response := (serve state entry tally around request).1.response
    response.status = 307 ∧
    ∃ raw location header flow challenge,
      Raw.IsReadFrom raw env ∧ response.location = some location ∧
      response.setCookie = [header] ∧ HoldsFlow state.sessions header flow ∧
      challenge = .ofList
        (Base64.encode Base64.urlSafe (Sha256.digest (Utf8.octets flow.pkceVerifier)).octets) ∧
      AsksFor raw flow.csrfToken challenge location ∧
      ∀ (later : Entry) (counted : Tally) (outside : Surroundings) (callback : Http.Request)
        (capture : String),
        Http.pathSegments callback.path = ["", "auth", capture, "callback"] →
        state.sessions.loadFlow? callback.cookies = some flow →
        let outcome := (serve state later counted outside callback).1
        (outcome.response.status = 307 → outcome.exchanges ≠ []) ∧
          SendsVerifier flow.pkceVerifier outcome.exchanges := by
  obtain ⟨raw, read, same⟩ := made.exists_raw
  have known : state.knows "openid-connect" = true := by
    rw [State.knows, same]
    rfl
  have field := isFieldValue_loginUrl usable around.draws
  dsimp only
  rw [response_serve_login made.coherent served tally around get path, login_of_knows known usable,
    Http.Response.status_setting, Http.Response.location_setting,
    Http.Response.setCookie_setting, Http.Response.status_redirect field,
    Http.Response.location_redirect field,
    headers_of_paths made.isFieldValue_path (paths_begin state _)]
  refine ⟨rfl, raw, _, _, _, _, read, rfl, rfl, holdsFlow_saveFlow state.sessions _, rfl,
    asksFor_loginUrl same usable around.draws, ?_⟩
  intro later counted outside callback capture target inProgress
  exact sendsVerifier_serve state later counted outside target inProgress

/-- Variables with scopes, and with an address of the provider that has a query and a fragment. -/
def scopedVariables : Variables :=
  [("APP_BASE_URL", "http://localhost:8080/app/"), ("APP_SECRET_KEY", "secret"),
    ("APP_OIDC_REDIRECT_PATH", "/auth/openid-connect/callback"),
    ("APP_OIDC_AUTHORIZE_URL", "https://login.example.org/authorize?tenant=a+b#top"),
    ("APP_OIDC_ACCESS_TOKEN_URL", "https://login.example.org/token"),
    ("APP_OIDC_USER_URL", "https://login.example.org/user"),
    ("APP_OIDC_SCOPES", "email openid\tprofile openid")]

/-- A request that begins a login. -/
def loginRequest : Http.Request :=
  ⟨"GET", ⟨none, none, "/login/openid-connect", none⟩, []⟩

/-- Their scopes are asked for once each. -/
theorem serve_login_belongs_scoped :
    ∃ state : State, state.IsMadeBy scopedVariables ∧
      let response := (serve state .main .zero .silent loginRequest).1.response
      response.status = 307 ∧
      ∃ location query scope, response.location = some location ∧
        Url.queryOf? location = some query ∧ ("scope", scope) ∈ Url.formPairs query ∧
        (Text.splitBy (· == ' ') scope.toList).map .ofList = ["openid", "email", "profile"] := by
  obtain ⟨state, made, shown⟩ := exists_isMadeBy_of_shown scopedVariables
    (fun state => (Oidc.Endpoints.ofProvider state.provider).toOption.isSome) true
    (by decide +kernel)
  obtain ⟨endpoints, usable⟩ := Option.isSome_iff_exists.mp shown
  obtain ⟨status, raw, location, header, flow, challenge, read, found, -, -, -, asks, -⟩ :=
    serve_login_belongs made (eq_ok_of_toOption usable) (by decide : Entry.main ≠ .metrics) .zero
      .silent (rfl : loginRequest.method = "GET") rfl
  obtain ⟨authorize, query, scope, scopes, nonce, -, cut, pairs, words, same, -⟩ := asks
  have given : raw.scopes = some "email openid\tprofile openid" := by
    have text : Settings.text? scopedVariables "app_oidc_scopes" =
        .ok (some "email openid\tprofile openid") := by decide +kernel
    rw [read.scopes] at text
    exact Except.ok.inj text
  refine ⟨state, made, status, location, query, scope, found, cut, ?_, ?_⟩
  · rw [pairs]
    simp
  · rw [words, same, given]
    decide +kernel

end App

end Gatehouse
