import Gatehouse.Proofs.App.Lifecycle

/-!
# Cookies are set all or none

What an answer does to the cookies of a browser, in four cases: nothing, or what one of
the three redirects of a login does.  A redirect takes its cookies along even if it turns
into a failure, so that nothing is the effect of every failure exactly when the base URL
can stand in a header.
-/

namespace Gatehouse.App

/-- What a request does to the cookies of a browser.  Beyond a quiet answer there are a login that
    begins, a callback whose user the provider tells, and a logout; the last two lead back under
    the base URL and have the status `back`. -/
inductive CookieEffect (state : State) (around : Surroundings) (request : Http.Request)
    (back : Nat) (outcome : Outcome) : Prop where
  | none (quiet : outcome.response.IsQuiet)
  | begun {captures : List String}
      (routed : Route.ofPath? request.path = some (.login, captures))
      (reads : request.reads = true) (status : outcome.response.status = 307)
      (cookies : outcome.response.setCookie =
        [(state.sessions.saveFlow (around.draws.flow state.provider.name)).header])
  | completed {captures : List String} {first second : Http.Exchange} {token : String}
      {claims : Oidc.UserClaims}
      (routed : Route.ofPath? request.path = some (.callback, captures))
      (reads : request.reads = true) (exchanged : outcome.exchanges = [first, second])
      (granted : around.readers.token first.reply = .ok token)
      (told : around.readers.claims second.reply = .ok claims)
      (status : outcome.response.status = back)
      (cookies : outcome.response.setCookie =
        [state.sessions.clearFlow.header,
          (state.sessions.save ⟨claims.email.getD "", state.provider.name⟩).header])
  | ended {captures : List String}
      (routed : Route.ofPath? request.path = some (.logout, captures))
      (reads : request.reads = true) (status : outcome.response.status = back)
      (cookies : outcome.response.setCookie =
        [state.sessions.clearFlow.header, state.sessions.invalidate.header])

section sendable

variable {state : State} (field : Http.isFieldValue state.sessions.options.path = true)
include field

/-- Cookies for the path of the store are all sent. -/
theorem headers_of_paths {cookies : List Cookie.SetCookie}
    (paths : ∀ cookie ∈ cookies, cookie.path = state.sessions.options.path) :
    Cookie.headers cookies = cookies.map (·.header) := by
  apply Cookie.headers_eq_map
  intro cookie member
  rw [paths cookie member]
  exact field

theorem setCookie_welcome (user : Session.User) :
    (welcome state user).setCookie =
      [state.sessions.clearFlow.header, (state.sessions.save user).header] := by
  rw [welcome, Http.Response.setCookie_setting, headers_of_paths field (paths_welcome state user)]
  rfl

theorem setCookie_logout :
    (logout state).setCookie =
      [state.sessions.clearFlow.header, state.sessions.invalidate.header] := by
  rw [logout, Http.Response.setCookie_setting, headers_of_paths field (paths_logout state)]
  rfl

/-- Every answer of the application has one of the four effects. -/
theorem cookieEffect_respond (around : Surroundings) {request : Http.Request} {route : Route}
    {captures : List String} (routed : Route.ofPath? request.path = some (route, captures))
    (allowed : (route.anyMethod || request.reads) = true) :
    CookieEffect state around request state.returnStatus
      (respond state around request (captures.head?.getD "") route) := by
  by_cases other : route ∉ [.login, .callback, .logout]
  · exact .none (isQuiet_respond_other state around request _ other)
  · rw [not_not] at other
    simp only [List.mem_cons, List.not_mem_nil, or_false] at other
    rcases other with rfl | rfl | rfl
    · have reads : request.reads = true := allowed
      rcases respond_login_cases state around request (captures.head?.getD "") with
        quiet | ⟨status, cookies⟩
      · exact .none quiet
      · rw [headers_of_paths field (paths_begin state _)] at cookies
        exact .begun routed reads status cookies
    · have reads : request.reads = true := allowed
      have effect := callbackEffect_respond state around request (captures.head?.getD "")
      generalize respond state around request (captures.head?.getD "") .callback = outcome
        at effect ⊢
      cases effect with
      | refused response quiet => exact .none quiet
      | @failed _ _ error _ brings completion =>
        exact .none (LoginFailure.login error).isQuiet_response
      | completed brings completion =>
        obtain ⟨first, second, token, claims, exchanged, granted, told, rfl⟩ :=
          exchanges_of_completion_ok completion
        exact .completed routed reads exchanged granted told (status_welcome_eq state _)
          (setCookie_welcome field _)
    · have reads : request.reads = true := allowed
      rcases respond_logout_cases state around request (captures.head?.getD "") with
        quiet | left
      · exact .none quiet
      · refine .ended routed reads ?_ ?_
        · rw [left, status_logout_eq]
        · rw [left, setCookie_logout field]

end sendable

/-- An effect depends on status, cookies and exchanges alone. -/
theorem CookieEffect.forMethod {state : State} {around : Surroundings} {request : Http.Request}
    {back : Nat} {outcome : Outcome} (effect : CookieEffect state around request back outcome)
    (method : String) :
    CookieEffect state around request back
      { outcome with response := outcome.response.forMethod method } := by
  cases effect with
  | none quiet => exact .none (quiet.forMethod method)
  | begun routed reads status cookies =>
    exact .begun routed reads (by simpa using status) (by simpa using cookies)
  | completed routed reads exchanged granted told status cookies =>
    exact .completed routed reads exchanged granted told (by simpa using status)
      (by simpa using cookies)
  | ended routed reads status cookies =>
    exact .ended routed reads (by simpa using status) (by simpa using cookies)

/-- Every request has one of the four effects, wherever it arrives. -/
theorem cookieEffect_serve {state : State}
    (field : Http.isFieldValue state.sessions.options.path = true) (entry : Entry) (tally : Tally)
    (around : Surroundings) (request : Http.Request) :
    CookieEffect state around request state.returnStatus
      (serve state entry tally around request).1 := by
  rcases serve_cases state entry tally around request with
    ⟨response, quiet, served⟩ | ⟨route, captures, routed, allowed, served⟩
  · rw [served]
    exact .none quiet
  · rw [served]
    exact (cookieEffect_respond field around routed allowed).forMethod request.method

/-- An answer other than a redirect sets no cookie. -/
theorem CookieEffect.setCookie_eq_nil {state : State} {around : Surroundings}
    {request : Http.Request} {outcome : Outcome}
    (effect : CookieEffect state around request 307 outcome)
    (stays : outcome.response.status ≠ 307) : outcome.response.setCookie = [] := by
  cases effect with
  | none quiet => exact quiet.setCookie
  | begun routed reads status cookies => exact absurd status stays
  | completed routed reads exchanged granted told status cookies => exact absurd status stays
  | ended routed reads status cookies => exact absurd status stays

theorem CookieEffect.takenIn_eq_self {state : State} {around : Surroundings}
    {request : Http.Request} {outcome : Outcome}
    (effect : CookieEffect state around request 307 outcome)
    (stays : outcome.response.status ≠ 307) (browser : Cookie.Browser) :
    outcome.takenIn browser = browser := by
  rw [Outcome.takenIn, effect.setCookie_eq_nil stays]
  rfl

/-- A request for a logout. -/
def logoutRequest : Http.Request :=
  ⟨"GET", ⟨none, none, "/logout/openid-connect", none⟩, []⟩

theorem response_logoutRequest {state : State} (coherent : state.config.IsCoherent)
    {entry : Entry} (served : entry ≠ .metrics) (tally : Tally) (around : Surroundings) :
    (serve state entry tally around logoutRequest).1.response = logout state := by
  have segments : Http.pathSegments logoutRequest.path = ["", "logout", "openid-connect"] := by
    decide
  have read : captureText? "openid-connect" = some "openid-connect" := by decide +kernel
  rw [response_serve_logout coherent served tally around _ segments (by decide) read rfl]
  exact Http.Response.forMethod_get _

theorem State.IsMadeBy.isFieldValue_path {state : State} {env : Settings.Variables}
    (made : state.IsMadeBy env) : Http.isFieldValue state.sessions.options.path = true := by
  have coherent := made.coherent
  obtain ⟨config, -, built⟩ := made
  obtain ⟨same, sessions, -⟩ := parts_of_ofConfig built
  rw [sessions, Session.Store.ofSecret, ← same, coherent.options]
  exact coherent.isFieldValue_basePath

/-- Cookies are set all or none.  Every request has one of the four effects, and in an application
    whose base URL can stand in a header, and only in such a one, all redirects have the status of
    a redirect, so that every other answer leaves the browser's cookies as they were. -/
theorem allOrNone_iff {state : State} {env : Settings.Variables} (made : state.IsMadeBy env)
    {entry : Entry} (served : entry ≠ .metrics) :
    (∀ tally around request, CookieEffect state around request state.returnStatus
      (serve state entry tally around request).1) ∧
    ((∀ tally around request,
        let outcome := (serve state entry tally around request).1
        CookieEffect state around request 307 outcome ∧
          (outcome.response.status ≠ 307 → outcome.response.setCookie = [] ∧
            ∀ browser, outcome.takenIn browser = browser)) ↔
      Http.isFieldValue state.config.baseUrl = true) := by
  have effects (tally : Tally) (around : Surroundings) (request : Http.Request) :=
    cookieEffect_serve made.isFieldValue_path entry tally around request
  refine ⟨effects, ?_, ?_⟩
  · -- A logout shows whether the base URL can stand in a header.
    intro all
    by_contra broken
    have stays : (logout state).status ≠ 307 := by
      rw [status_logout_eq, State.returnStatus, if_neg broken]
      decide
    have quiet := ((all .zero .silent logoutRequest).2 (by
      rw [response_logoutRequest made.coherent served]
      exact stays)).1
    rw [response_logoutRequest made.coherent served, setCookie_logout made.isFieldValue_path]
      at quiet
    cases quiet
  · intro field tally around request
    have effect := effects tally around request
    rw [State.returnStatus, if_pos field] at effect
    refine ⟨effect, ?_⟩
    intro stays
    exact ⟨effect.setCookie_eq_nil stays, effect.takenIn_eq_self stays⟩

/-- A logout with a method that does not only read leaves the cookies alone. -/
theorem allOrNone_iff_post :
    ∃ state : State, state.IsMadeBy localVariables ∧
      (serve state .main .zero .silent
        ⟨"POST", ⟨none, none, "/logout/openid-connect", none⟩,
          ["_user_session=forged"]⟩).1.response.setCookie = [] := by
  obtain ⟨state, made, field, -⟩ := exists_sendable_localVariables
  refine ⟨state, made, ?_⟩
  have effect := ((allOrNone_iff made (by decide : Entry.main ≠ .metrics)).2.mpr field .zero
    .silent ⟨"POST", ⟨none, none, "/logout/openid-connect", none⟩, ["_user_session=forged"]⟩).1
  have routed : Route.ofPath? "/logout/openid-connect" = some (.logout, ["openid-connect"]) :=
    Route.ofPath?_logout (by decide) (by decide)
  cases effect with
  | none quiet => exact quiet.setCookie
  | begun elsewhere => cases routed.symm.trans elsewhere
  | completed elsewhere => cases routed.symm.trans elsewhere
  | ended _ reads => exact absurd reads (by decide)

/-- Variables of an application whose base URL has a line break at its end. -/
def brokenVariables : Settings.Variables :=
  [("APP_BASE_URL", "http://localhost:8080/app\n"), ("APP_SECRET_KEY", "secret"),
    ("APP_OIDC_REDIRECT_PATH", "/auth/openid-connect/callback")]

/-- A logout under a base URL that ends in a line break fails, and sets two cookies. -/
theorem setCookie_logout_broken :
    ∃ state : State, state.IsMadeBy brokenVariables ∧
      let response := (serve state .main .zero .silent logoutRequest).1.response
      response.status = 500 ∧
        response.setCookie =
          [state.sessions.clearFlow.header, state.sessions.invalidate.header] := by
  obtain ⟨state, made, baseUrl, -⟩ := exists_isMadeBy brokenVariables
    "http://localhost:8080/app\n" "/app" (by decide +kernel)
  refine ⟨state, made, ?_⟩
  rw [response_logoutRequest made.coherent (by decide)]
  refine ⟨?_, setCookie_logout made.isFieldValue_path⟩
  rw [status_logout_eq, State.returnStatus, baseUrl]
  decide

end Gatehouse.App
