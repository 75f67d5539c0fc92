import Gatehouse.App.Run
import Gatehouse.Proofs.App.Callback
import Gatehouse.Proofs.Session.Visit

/-!
# The life of a login

Browsers send requests with the cookies that they hold.  What these mean to the application
is a pair, who is logged in and which login is in progress, and over any interleaving of
requests each pair changes as the answers say and in no other way.
-/

namespace Gatehouse.App

open Session (Cells Keeps)

/-- A browser that sends a request, and what surrounds the application meanwhile. -/
structure Click where
  browser : Nat
  around : Surroundings
  method : String
  target : Http.Target

/-- Browsers by number, and what the application has counted. -/
structure World where
  tally : Tally
  browsers : Nat → Cookie.Browser

/-- The pair that the cookies of a browser represent to the application. -/
def State.cellsOf (state : State) (browser : Cookie.Browser) : Cells :=
  ⟨(state.sessions.load browser.cookieHeaders).toOption.join,
    state.sessions.loadFlow? browser.cookieHeaders⟩

namespace World

/-- No browser holds a cookie. -/
def start : World := ⟨.zero, fun _ => .empty⟩

/-- The request of a click, with all cookies of the browser. -/
def request (world : World) (click : Click) : Http.Request :=
  ⟨click.method, click.target, (world.browsers click.browser).cookieHeaders⟩

/-- The outcome of a click. -/
def outcome (world : World) (state : State) (entry : Entry) (click : Click) : Outcome :=
  (browse state entry click.around click.method click.target world.tally
    (world.browsers click.browser)).1

/-- The world after a click: the browser has taken in the response. -/
def next (world : World) (state : State) (entry : Entry) (click : Click) : World :=
  let (_, tally, browser) := browse state entry click.around click.method click.target world.tally
    (world.browsers click.browser)
  ⟨tally, fun other => if other = click.browser then browser else world.browsers other⟩

/-- The world after clicks. -/
def run (world : World) (state : State) (entry : Entry) (clicks : List Click) : World :=
  clicks.foldl (fun world click => world.next state entry click) world

/-- The pairs of all browsers. -/
def cells (world : World) (state : State) (browser : Nat) : Cells :=
  state.cellsOf (world.browsers browser)

end World

/-- The profile shows who is logged in. -/
def ShowsUser (state : State) (method : String) (response : Http.Response) :
    Option Session.User → Prop
  | some user =>
    response.status = 200 ∧
      (method = "GET" → response.body = renderProfile state.config.baseUrl user)
  | none => response.status = 403

/-- A user for whom the provider vouches in a callback: the request brings back what belongs to the
    login in progress, the provider is asked for a token with the code and then for the user of this
    token, and what it tells then is the address of the user. -/
def IsVouchedFor (state : State) (around : Surroundings) (request : Http.Request)
    (captures : List String) (flow : Session.Flow) (exchanges : List Http.Exchange)
    (user : Session.User) : Prop :=
  ∃ code first second token email, BringsBack state request (captures.head?.getD "") code flow ∧
    AsksInOrder around.readers around.services state.provider code flow.pkceVerifier exchanges ∧
    exchanges = [first, second] ∧ Oidc.Grants first.reply token ∧
    Oidc.Tells second.reply email ∧ user = ⟨email.getD "", state.provider.name⟩

/-- How a pair goes over into another one when a request is answered. -/
def Follows (state : State) (around : Surroundings) (request : Http.Request) (before : Cells)
    (outcome : Outcome) (after : Cells) : Prop :=
  match Route.ofPath? request.path with
  | some (.login, _) =>
    if outcome.response.status = 307 then
      after = { before with flow := some (around.draws.flow state.provider.name) }
    else after = before
  | some (.callback, captures) =>
    if outcome.response.status = 307 then
      ∃ flow user, before.flow = some flow ∧
        IsVouchedFor state around request captures flow outcome.exchanges user ∧
        after = ⟨some user, none⟩
    else after = before
  | some (.logout, _) => if outcome.response.status = 307 then after = .empty else after = before
  | some (.profile, _) =>
    after = before ∧
      (request.reads = true → ShowsUser state request.method outcome.response before.user)
  | _ => after = before

section Follows

variable {state : State} {around : Surroundings} {request : Http.Request} {before after : Cells}
  {outcome : Outcome} {captures : List String}
  (follows : Follows state around request before outcome after)
include follows

theorem Follows.login (routed : Route.ofPath? request.path = some (.login, captures))
    (gone : outcome.response.status = 307) :
    after = { before with flow := some (around.draws.flow state.provider.name) } := by
  rw [Follows, routed] at follows
  dsimp only at follows
  rwa [if_pos gone] at follows

theorem Follows.callback (routed : Route.ofPath? request.path = some (.callback, captures))
    (gone : outcome.response.status = 307) :
    ∃ flow user, before.flow = some flow ∧
      IsVouchedFor state around request captures flow outcome.exchanges user ∧
      after = ⟨some user, none⟩ := by
  rw [Follows, routed] at follows
  dsimp only at follows
  rwa [if_pos gone] at follows

theorem Follows.profile (routed : Route.ofPath? request.path = some (.profile, captures))
    (reads : request.reads = true) :
    ShowsUser state request.method outcome.response before.user := by
  rw [Follows, routed] at follows
  exact follows.2 reads

end Follows

/-- The routes of a login. -/
def loginRoutes : List Route := [.login, .callback, .logout, .profile]

/-- A browser that keeps a pair takes in an outcome, and keeps one that follows. -/
def KeepsOn (state : State) (around : Surroundings) (request : Http.Request)
    (browser : Cookie.Browser) (before : Cells) (outcome : Outcome) : Prop :=
  ∃ after, Keeps state.sessions.key (outcome.takenIn browser) after ∧
    Follows state around request before outcome after

/-- How the pairs of all browsers change with a click: that of its browser as the answer says, and
    the others not at all. -/
structure Steps (state : State) (click : Click) (request : Http.Request) (outcome : Outcome)
    (before after : Nat → Cells) : Prop where
  own : Follows state click.around request (before click.browser) outcome (after click.browser)
  others : ∀ other, other ≠ click.browser → after other = before other

theorem cellsOf_of_keeps {state : State} {browser : Cookie.Browser} {cells : Cells}
    (keeps : Keeps state.sessions.key browser cells) : state.cellsOf browser = cells := by
  rw [State.cellsOf, keeps.load, keeps.loadFlow?]
  rfl

/-- The metrics are never at the path of the profile. -/
theorem reachesApplication_profile {state : State} (coherent : state.config.IsCoherent)
    {entry : Entry} (served : entry ≠ .metrics) {request : Http.Request} {captures : List String}
    (routed : Route.ofPath? request.path = some (.profile, captures)) :
    entry.reachesApplication state request = true := by
  apply reachesApplication_of_fits coherent served .profile
  rw [Route.segments_of_ofPath?_profile routed]
  exact Http.coversSegments_iff.mp (by decide)

section cookies

variable {state : State} {browser : Cookie.Browser} {cells : Cells}

/-- The cookie of a login that begins is for the path of the store. -/
theorem paths_begin (state : State) (flow : Session.Flow) :
    ∀ cookie ∈ [state.sessions.saveFlow flow], cookie.path = state.sessions.options.path := by
  simp [Session.Store.saveFlow, Session.Store.cookie]

theorem paths_welcome (state : State) (user : Session.User) :
    ∀ cookie ∈ [state.sessions.clearFlow, state.sessions.save user],
      cookie.path = state.sessions.options.path := by
  simp [Session.Store.clearFlow, Session.Store.save, Session.Store.cookie]

theorem paths_logout (state : State) :
    ∀ cookie ∈ [state.sessions.clearFlow, state.sessions.invalidate],
      cookie.path = state.sessions.options.path := by
  simp [Session.Store.clearFlow, Session.Store.invalidate, Session.Store.cookie]

/-- A browser takes in the cookies of the application one by one. -/
theorem absorbAll_sessions (sendable : state.sessions.options.AreSendable)
    (browser : Cookie.Browser) {cookies : List Cookie.SetCookie}
    (paths : ∀ cookie ∈ cookies, cookie.path = state.sessions.options.path) :
    browser.absorbAll (Cookie.headers cookies) =
      cookies.foldl (fun held cookie => held.absorb cookie.header) browser :=
  Cookie.Browser.absorbAll_headers browser cookies fun cookie member => by
    rw [paths cookie member]
    exact sendable.field

theorem keeps_begin (sendable : state.sessions.options.AreSendable)
    (keeps : Keeps state.sessions.key browser cells) (flow : Session.Flow) :
    Keeps state.sessions.key
      (browser.absorbAll (Cookie.headers [state.sessions.saveFlow flow]))
      { cells with flow := some flow } := by
  rw [absorbAll_sessions sendable browser (paths_begin state flow), List.foldl_cons, List.foldl_nil,
    Session.Store.absorb_saveFlow sendable]
  exact keeps.setFlow flow

theorem keeps_welcome (sendable : state.sessions.options.AreSendable)
    (keeps : Keeps state.sessions.key browser cells) (user : Session.User) :
    Keeps state.sessions.key (browser.absorbAll (welcome state user).setCookie)
      ⟨some user, none⟩ := by
  rw [welcome, Http.Response.setCookie_setting,
    absorbAll_sessions sendable browser (paths_welcome state user), List.foldl_cons,
    List.foldl_cons, List.foldl_nil, Session.Store.absorb_clearFlow sendable,
    Session.Store.absorb_save sendable]
  exact keeps.dropFlow.setUser user

/-- A browser that takes in a logout lets go of both cookies, whatever they hold. -/
theorem absorbAll_logout (sendable : state.sessions.options.AreSendable)
    (browser : Cookie.Browser) :
    browser.absorbAll (logout state).setCookie =
      (browser.drop Session.flowName).drop Session.sessionName := by
  rw [logout, Http.Response.setCookie_setting,
    absorbAll_sessions sendable browser (paths_logout state), List.foldl_cons,
    List.foldl_cons, List.foldl_nil, Session.Store.absorb_clearFlow sendable,
    Session.Store.absorb_invalidate sendable]

theorem keeps_logout (sendable : state.sessions.options.AreSendable)
    (keeps : Keeps state.sessions.key browser cells) :
    Keeps state.sessions.key (browser.absorbAll (logout state).setCookie) .empty := by
  rw [absorbAll_logout sendable]
  exact keeps.dropFlow.dropUser

theorem keeps_of_noCookie {response : Http.Response} (noCookie : response.setCookie = [])
    (keeps : Keeps state.sessions.key browser cells) :
    Keeps state.sessions.key (browser.absorbAll response.setCookie) cells := by
  rw [noCookie]
  exact keeps

end cookies

/-- The address of a login can stand in a header, whatever is drawn. -/
theorem isFieldValue_loginUrl {provider : Oidc.Provider} {endpoints : Oidc.Endpoints}
    (usable : Oidc.Endpoints.ofProvider provider = .ok endpoints) (draws : Oidc.Draws) :
    Http.isFieldValue (Oidc.loginUrl provider endpoints draws) = true :=
  (Url.isPrintable_parse (Oidc.parse_authorize_of_ofProvider usable)).addPairs _ |>.text

section login

variable {state : State} {provider : String} (known : state.knows provider = true)
  {endpoints : Oidc.Endpoints} (usable : Oidc.Endpoints.ofProvider state.provider = .ok endpoints)
  (draws : Oidc.Draws)
include known usable

/-- A login at a usable provider that is known sends the browser there and begins. -/
theorem login_of_knows :
    login state draws provider =
      (Http.Response.redirect (Oidc.loginUrl state.provider endpoints draws)).setting
        (Cookie.headers [state.sessions.saveFlow (draws.flow state.provider.name)]) := by
  rw [login, if_pos known, usable]

theorem status_login : (login state draws provider).status = 307 := by
  rw [login_of_knows known usable, Http.Response.status_setting,
    Http.Response.status_redirect (isFieldValue_loginUrl usable draws)]

end login

/-- A login sends the browser to the provider and begins, or it is quiet. -/
theorem login_cases (state : State) (draws : Oidc.Draws) (provider : String) :
    (login state draws provider).IsQuiet ∨
      (login state draws provider).status = 307 ∧
        (login state draws provider).setCookie =
          Cookie.headers [state.sessions.saveFlow (draws.flow state.provider.name)] := by
  cases known : state.knows provider with
  | false =>
    rw [login, if_neg (by rw [known]; exact Bool.false_ne_true)]
    exact .inl (LoginFailure.isQuiet_response _)
  | true =>
    cases usable : Oidc.Endpoints.ofProvider state.provider with
    | error error =>
      rw [login, if_pos known, usable]
      exact .inl (LoginFailure.isQuiet_response _)
    | ok endpoints =>
      refine .inr ⟨status_login known usable draws, ?_⟩
      rw [login_of_knows known usable, Http.Response.setCookie_setting]

theorem respond_login_cases (state : State) (around : Surroundings) (request : Http.Request)
    (capture : String) :
    (respond state around request capture .login).response.IsQuiet ∨
      (respond state around request capture .login).response.status = 307 ∧
        (respond state around request capture .login).response.setCookie =
          Cookie.headers
            [state.sessions.saveFlow (around.draws.flow state.provider.name)] := by
  rw [respond_login, withProvider]
  split
  · dsimp only [Outcome.ofResponse]
    exact login_cases state around.draws _
  · exact .inl (Http.Response.isQuiet_text (by decide) _)

theorem respond_logout_cases (state : State) (around : Surroundings) (request : Http.Request)
    (capture : String) :
    (respond state around request capture .logout).response.IsQuiet ∨
      (respond state around request capture .logout).response = logout state := by
  rw [respond_logout, withProvider]
  split
  · exact .inr rfl
  · exact .inl (Http.Response.isQuiet_text (by decide) _)

/-- A request for a login is answered by the login on every port where it is served. -/
theorem response_serve_login {state : State} (coherent : state.config.IsCoherent) {entry : Entry}
    (served : entry ≠ .metrics) (tally : Tally) (around : Surroundings) {request : Http.Request}
    (get : request.method = "GET") (path : request.path = "/login/openid-connect") :
    (serve state entry tally around request).1.response =
      login state around.draws "openid-connect" := by
  have routed : Route.ofPath? request.path = some (.login, ["openid-connect"]) := by
    rw [path]
    decide
  have reaches : entry.reachesApplication state request = true := by
    apply reachesApplication_of_fits coherent served .login
    rw [path, ← Http.coversSegments_iff]
    decide
  have reads : request.reads = true := by
    rw [Http.Request.reads, get]
    rfl
  have named : captureText? "openid-connect" = some "openid-connect" := by decide +kernel
  rw [response_serve_of_reads tally around reaches routed reads, get, Http.Response.forMethod_get,
    respond_login, withProvider]
  simp only [List.head?_cons, Option.getD_some, named]
  rfl

/-- A logout is answered whatever provider the path names, on every port where it is served. -/
theorem response_serve_logout {state : State} (coherent : state.config.IsCoherent) {entry : Entry}
    (served : entry ≠ .metrics) (tally : Tally) (around : Surroundings) (request : Http.Request)
    {capture provider : String}
    (segments : Http.pathSegments request.path = ["", "logout", capture]) (named : capture ≠ "")
    (read : captureText? capture = some provider)
    (reads : request.reads = true) :
    (serve state entry tally around request).1.response =
      (logout state).forMethod request.method := by
  have reaches : entry.reachesApplication state request = true := by
    apply reachesApplication_of_fits coherent served .logout
    rw [segments, ← Http.coversSegments_iff]
    simpa [Route.pattern, Http.coversSegments] using named
  rw [response_serve_of_reads tally around reaches (Route.ofPath?_logout segments named) reads,
    respond_logout, withProvider]
  simp only [List.head?_cons, Option.getD_some, read]
  rfl

/-- The status of an answer that leads back under the base URL.  A base URL that cannot stand in a
    header makes it a failure. -/
def State.returnStatus (state : State) : Nat :=
  if Http.isFieldValue state.config.baseUrl then 307 else 500

theorem status_welcome_eq (state : State) (user : Session.User) :
    (welcome state user).status = state.returnStatus := by
  have profile : Http.isFieldValue "/profile" = true := by decide
  rw [welcome, Http.Response.status_setting, Http.Response.status_redirect_eq,
    Http.isFieldValue_append, profile, Bool.and_true, State.returnStatus]

theorem status_logout_eq (state : State) : (logout state).status = state.returnStatus := by
  rw [logout, Http.Response.status_setting, Http.Response.status_redirect_eq, State.returnStatus]
  unfold State.home
  split
  · rename_i empty
    rw [String.isEmpty_iff.mp empty]
    rfl
  · rfl

section goodBase

variable {state : State} (field : Http.isFieldValue state.config.baseUrl = true)
include field

theorem status_welcome (user : Session.User) : (welcome state user).status = 307 := by
  rw [status_welcome_eq, State.returnStatus, if_pos field]

theorem status_logout : (logout state).status = 307 := by
  rw [status_logout_eq, State.returnStatus, if_pos field]

end goodBase

/-- The routes outside the login are quiet. -/
theorem isQuiet_respond_other (state : State) (around : Surroundings) (request : Http.Request)
    (capture : String) {route : Route} (other : route ∉ [.login, .callback, .logout]) :
    (respond state around request capture route).response.IsQuiet := by
  have quiet {status : Nat} (kind body : String) (stays : status ≠ 307) :
      (Http.Response.typed status kind body).IsQuiet := ⟨rfl, stays⟩
  cases route with
  | hello => exact quiet _ _ (by decide)
  | sendMail =>
    rw [respond_sendMail]
    split
    · exact quiet _ _ (by decide)
    · exact quiet _ _ (by decide)
  | listModels =>
    rw [respond_listModels]
    split
    · exact quiet _ _ (by decide)
    · dsimp only
      split
      · exact quiet _ _ (by decide)
      · exact quiet _ _ (by decide)
  | userDefinedConfig => exact quiet _ _ (by decide)
  | migrateStatus =>
    rw [respond_migrateStatus]
    split
    · exact quiet _ _ (by decide)
    · exact quiet _ _ (by decide)
  | profile =>
    rw [respond_profile]
    dsimp only [Outcome.ofResponse]
    unfold profile
    split
    · exact quiet _ _ (by decide)
    · exact quiet _ _ (by decide)
    · exact quiet _ _ (by decide)
  | login => exact absurd (by decide) other
  | callback => exact absurd (by decide) other
  | logout => exact absurd (by decide) other

/-- A completion with a user vouches for the user. -/
theorem isVouchedFor_of_completion {state : State} {around : Surroundings} {request : Http.Request}
    {captures : List String} {code : String} {flow : Session.Flow} {user : Session.User}
    {exchanges : List Http.Exchange} (faithful : around.readers.AreFaithful)
    (brings : BringsBack state request (captures.head?.getD "") code flow)
    (completion : Oidc.Completion around.readers around.services state.provider code
      flow.pkceVerifier (.ok user) exchanges) :
    IsVouchedFor state around request captures flow exchanges user := by
  obtain ⟨first, second, token, claims, whole, granted, told, rfl⟩ :=
    exchanges_of_completion_ok completion
  have sent : exchanges ≠ [] := by
    rw [whole]
    exact List.cons_ne_nil _ _
  exact ⟨code, first, second, token, claims.email, brings,
    asksInOrder_of_completion faithful completion sent, whole, faithful.token granted,
    faithful.claims told, rfl⟩

/-- The provider that answers vouches for one address only. -/
theorem IsVouchedFor.user_answering {state : State} {request : Http.Request}
    {captures : List String} {flow : Session.Flow} {exchanges : List Http.Exchange}
    {user : Session.User}
    (vouched : IsVouchedFor state .answering request captures flow exchanges user) :
    user = ⟨"alice@example.com", state.provider.name⟩ := by
  obtain ⟨code, first, second, token, email, -, asks, two, -, tells, rfl⟩ := vouched
  rw [two] at asks
  rw [asks.email_answering tells, Option.getD_some]

section step

variable {state : State} {browser : Cookie.Browser} {cells : Cells} {request : Http.Request}
  {captures : List String}

theorem keepsOn_login (sendable : state.sessions.options.AreSendable)
    (keeps : Keeps state.sessions.key browser cells) (entry : Entry) (tally : Tally)
    (around : Surroundings) (routed : Route.ofPath? request.path = some (.login, captures)) :
    KeepsOn state around request browser cells (serve state entry tally around request).1 := by
  obtain ⟨response, answered, set, status⟩ := serve_response_cases state entry tally around routed
  generalize (serve state entry tally around request).1 = outcome at set status ⊢
  have begins : response.IsQuiet ∨
      response.status = 307 ∧ response.setCookie =
        Cookie.headers [state.sessions.saveFlow (around.draws.flow state.provider.name)] := by
    rcases answered with quiet | rfl
    · exact .inl quiet
    · exact respond_login_cases state around request _
  unfold KeepsOn Outcome.takenIn Follows
  rw [routed, set]
  dsimp only
  rw [status]
  rcases begins with quiet | ⟨gone, cookies⟩
  · refine ⟨cells, keeps_of_noCookie quiet.setCookie keeps, ?_⟩
    rw [if_neg quiet.status]
  · rw [cookies, gone]
    exact ⟨_, keeps_begin sendable keeps _, rfl⟩

theorem keepsOn_callback (sendable : state.sessions.options.AreSendable)
    (field : Http.isFieldValue state.config.baseUrl = true)
    (keeps : Keeps state.sessions.key browser cells)
    (sent : request.cookies = browser.cookieHeaders) (entry : Entry) (tally : Tally)
    (around : Surroundings) (faithful : around.readers.AreFaithful)
    (routed : Route.ofPath? request.path = some (.callback, captures)) :
    KeepsOn state around request browser cells (serve state entry tally around request).1 := by
  obtain ⟨effective, effect, exchanged, set, status⟩ :=
    callbackEffect_serve state entry tally around routed
  generalize (serve state entry tally around request).1 = outcome at exchanged set status ⊢
  unfold KeepsOn Outcome.takenIn Follows
  rw [routed, set]
  dsimp only
  rw [status, exchanged]
  cases effect with
  | refused response quiet =>
    refine ⟨cells, keeps_of_noCookie quiet.setCookie keeps, ?_⟩
    rw [if_neg quiet.status]
  | failed brings completion =>
    refine ⟨cells, keeps_of_noCookie (LoginFailure.isQuiet_response _).setCookie keeps, ?_⟩
    rw [if_neg (LoginFailure.isQuiet_response _).status]
  | completed brings completion =>
    refine ⟨_, keeps_welcome sendable keeps _, ?_⟩
    rw [if_pos (status_welcome field _)]
    -- The login in progress that the request brings back is the one that the browser keeps.
    refine ⟨_, _, ?_, isVouchedFor_of_completion faithful brings completion, rfl⟩
    obtain ⟨value, last, decoded⟩ := brings.lastFlow
    rw [← keeps.loadFlow?, ← sent, Session.Store.loadFlow?_of_lastSigned last, decoded]

theorem keepsOn_logout (sendable : state.sessions.options.AreSendable)
    (field : Http.isFieldValue state.config.baseUrl = true)
    (keeps : Keeps state.sessions.key browser cells) (entry : Entry) (tally : Tally)
    (around : Surroundings) (routed : Route.ofPath? request.path = some (.logout, captures)) :
    KeepsOn state around request browser cells (serve state entry tally around request).1 := by
  obtain ⟨response, answered, set, status⟩ := serve_response_cases state entry tally around routed
  generalize (serve state entry tally around request).1 = outcome at set status ⊢
  have ends : response.IsQuiet ∨ response = logout state := by
    rcases answered with quiet | rfl
    · exact .inl quiet
    · exact respond_logout_cases state around request _
  unfold KeepsOn Outcome.takenIn Follows
  rw [routed, set]
  dsimp only
  rw [status]
  rcases ends with quiet | rfl
  · refine ⟨cells, keeps_of_noCookie quiet.setCookie keeps, ?_⟩
    rw [if_neg quiet.status]
  · refine ⟨_, keeps_logout sendable keeps, ?_⟩
    rw [if_pos (status_logout field)]

/-- No route but those of the login touches the cookies of a browser. -/
theorem setCookie_serve_other (state : State) (entry : Entry) (tally : Tally)
    (around : Surroundings)
    (other : ∀ route captures, Route.ofPath? request.path = some (route, captures) →
      route ∉ [.login, .callback, .logout]) :
    (serve state entry tally around request).1.response.setCookie = [] := by
  rcases serve_cases state entry tally around request with
    ⟨response, quiet, served⟩ | ⟨route, captures, routed, -, served⟩
  · rw [served]
    exact quiet.setCookie
  · rw [served]
    dsimp only
    rw [Http.Response.setCookie_forMethod]
    exact (isQuiet_respond_other state around request _ (other route captures routed)).setCookie

/-- The profile shows the user that is loaded. -/
theorem showsUser_profile {cookies : List String} {user : Option Session.User}
    (loaded : state.sessions.load cookies = .ok user) (method : String) :
    ShowsUser state method ((profile state cookies).forMethod method) user := by
  unfold profile
  rw [loaded]
  cases user with
  | none =>
    dsimp only [ShowsUser]
    rw [Http.Response.status_forMethod]
    rfl
  | some user =>
    dsimp only [ShowsUser]
    refine ⟨?_, ?_⟩
    · rw [Http.Response.status_forMethod]
      rfl
    · rintro rfl
      rw [Http.Response.forMethod_get]
      rfl

theorem keepsOn_profile (coherent : state.config.IsCoherent)
    (keeps : Keeps state.sessions.key browser cells)
    (sent : request.cookies = browser.cookieHeaders) {entry : Entry} (served : entry ≠ .metrics)
    (tally : Tally) (around : Surroundings)
    (routed : Route.ofPath? request.path = some (.profile, captures)) :
    KeepsOn state around request browser cells (serve state entry tally around request).1 := by
  have noCookie := setCookie_serve_other state entry tally around
    (fun route captures found => by
      rw [routed, Option.some.injEq, Prod.mk.injEq] at found
      rw [← found.1]
      decide)
  have shows (reads : request.reads = true) :
      ShowsUser state request.method (serve state entry tally around request).1.response
        cells.user := by
    rw [response_serve_of_reads tally around (reachesApplication_profile coherent served routed)
      routed reads, respond_profile]
    dsimp only [Outcome.ofResponse]
    refine showsUser_profile ?_ request.method
    rw [sent]
    exact keeps.load
  generalize (serve state entry tally around request).1 = outcome at noCookie shows ⊢
  refine ⟨cells, keeps_of_noCookie noCookie keeps, ?_⟩
  unfold Follows
  rw [routed]
  exact ⟨rfl, shows⟩

theorem keepsOn_other (keeps : Keeps state.sessions.key browser cells) (entry : Entry)
    (tally : Tally) (around : Surroundings)
    (other : ∀ route captures, Route.ofPath? request.path = some (route, captures) →
      route ∉ loginRoutes) :
    KeepsOn state around request browser cells (serve state entry tally around request).1 := by
  have noCookie := setCookie_serve_other state entry tally around
    fun route captures routed member =>
      other route captures routed (by
        revert member
        cases route <;> decide)
  generalize (serve state entry tally around request).1 = outcome at noCookie ⊢
  refine ⟨cells, keeps_of_noCookie noCookie keeps, ?_⟩
  unfold Follows
  split
  · rename_i routed
    exact absurd (by decide : Route.login ∈ loginRoutes) (other _ _ routed)
  · rename_i routed
    exact absurd (by decide : Route.callback ∈ loginRoutes) (other _ _ routed)
  · rename_i routed
    exact absurd (by decide : Route.logout ∈ loginRoutes) (other _ _ routed)
  · rename_i routed
    exact absurd (by decide : Route.profile ∈ loginRoutes) (other _ _ routed)
  · rfl

/-- Whatever a browser that keeps a pair asks for, it keeps one that follows. -/
theorem keepsOn_serve (coherent : state.config.IsCoherent)
    (sendable : state.sessions.options.AreSendable)
    (field : Http.isFieldValue state.config.baseUrl = true)
    (keeps : Keeps state.sessions.key browser cells)
    (sent : request.cookies = browser.cookieHeaders) {entry : Entry} (served : entry ≠ .metrics)
    (tally : Tally) (around : Surroundings) (faithful : around.readers.AreFaithful) :
    KeepsOn state around request browser cells (serve state entry tally around request).1 := by
  cases routed : Route.ofPath? request.path with
  | none =>
    refine keepsOn_other keeps entry tally around fun route captures found => ?_
    rw [routed] at found
    cases found
  | some found =>
    obtain ⟨route, captures⟩ := found
    by_cases ofLogin : route ∈ loginRoutes
    · simp only [loginRoutes, List.mem_cons, List.not_mem_nil, or_false] at ofLogin
      rcases ofLogin with rfl | rfl | rfl | rfl
      · exact keepsOn_login sendable keeps entry tally around routed
      · exact keepsOn_callback sendable field keeps sent entry tally around faithful routed
      · exact keepsOn_logout sendable field keeps entry tally around routed
      · exact keepsOn_profile coherent keeps sent served tally around routed
    · refine keepsOn_other keeps entry tally around fun other captures found => ?_
      rw [routed, Option.some.injEq, Prod.mk.injEq] at found
      rw [← found.1]
      exact ofLogin

end step

namespace World

variable {state : State} {entry : Entry} {world : World}

theorem outcome_eq (world : World) (state : State) (entry : Entry) (click : Click) :
    world.outcome state entry click =
      (serve state entry world.tally click.around (world.request click)).1 := rfl

theorem browsers_next (world : World) (state : State) (entry : Entry) (click : Click)
    (browser : Nat) :
    (world.next state entry click).browsers browser =
      if browser = click.browser then
        (world.outcome state entry click).takenIn (world.browsers browser)
      else world.browsers browser := by
  have next : (world.next state entry click).browsers browser =
      if browser = click.browser then
        (world.outcome state entry click).takenIn (world.browsers click.browser)
      else world.browsers browser := rfl
  rw [next]
  split
  · rename_i same
    rw [same]
  · rfl

/-- Every browser keeps some pair. -/
def IsKept (state : State) (world : World) : Prop :=
  ∀ browser, Keeps state.sessions.key (world.browsers browser) (world.cells state browser)

theorem isKept_start (state : State) : start.IsKept state := fun browser => by
  have keeps : Keeps state.sessions.key (start.browsers browser) .empty := .empty _
  rw [cells, cellsOf_of_keeps keeps]
  exact keeps

/-- A click makes the pairs step, and all browsers keep them. -/
theorem IsKept.next (kept : world.IsKept state) (coherent : state.config.IsCoherent)
    (sendable : state.sessions.options.AreSendable)
    (field : Http.isFieldValue state.config.baseUrl = true) (served : entry ≠ .metrics)
    (click : Click) (faithful : click.around.readers.AreFaithful) :
    (world.next state entry click).IsKept state ∧
      Steps state click (world.request click) (world.outcome state entry click)
        (world.cells state) ((world.next state entry click).cells state) := by
  have sent : (world.request click).cookies =
      (world.browsers click.browser).cookieHeaders := rfl
  obtain ⟨after, keeps, follows⟩ := keepsOn_serve coherent sendable field
    (kept click.browser) sent served world.tally click.around faithful
  rw [← outcome_eq] at keeps follows
  have own : (world.next state entry click).browsers click.browser =
      (world.outcome state entry click).takenIn (world.browsers click.browser) := by
    rw [browsers_next, if_pos rfl]
  have others {other : Nat} (apart : other ≠ click.browser) :
      (world.next state entry click).browsers other = world.browsers other := by
    rw [browsers_next, if_neg apart]
  have reached : (world.next state entry click).cells state click.browser = after := by
    rw [cells, own, cellsOf_of_keeps keeps]
  refine ⟨fun browser => ?_, ?_, fun other apart => ?_⟩
  · by_cases same : browser = click.browser
    · rw [same, reached, own]
      exact keeps
    · rw [cells, others same]
      exact kept browser
  · rw [reached]
    exact follows
  · rw [cells, others apart]
    rfl

theorem IsKept.run (kept : world.IsKept state) (coherent : state.config.IsCoherent)
    (sendable : state.sessions.options.AreSendable)
    (field : Http.isFieldValue state.config.baseUrl = true) (served : entry ≠ .metrics)
    {clicks : List Click} (faithful : ∀ click ∈ clicks, click.around.readers.AreFaithful) :
    (world.run state entry clicks).IsKept state := by
  -- The pairs are part of the invariant: each world keeps those that its own cookies represent.
  induction clicks generalizing world with
  | nil => exact kept
  | cons click clicks ih =>
    obtain ⟨first, rest⟩ := List.forall_mem_cons.mp faithful
    exact ih (kept.next coherent sendable field served click first).1 rest

section clicks

variable (coherent : state.config.IsCoherent) (served : entry ≠ .metrics)
  (registered : state.provider.name = "openid-connect") (world : World) {click : Click}
include coherent served registered

theorem status_outcome_login (get : (world.request click).method = "GET")
    (path : (world.request click).path = "/login/openid-connect") {endpoints : Oidc.Endpoints}
    (usable : Oidc.Endpoints.ofProvider state.provider = .ok endpoints) :
    (world.outcome state entry click).response.status = 307 := by
  have known : state.knows "openid-connect" = true := by
    rw [State.knows, registered]
    rfl
  rw [outcome_eq, response_serve_login coherent served _ _ get path, status_login known usable]

theorem status_outcome_callback (field : Http.isFieldValue state.config.baseUrl = true)
    (get : (world.request click).method = "GET")
    (path : (world.request click).path = "/auth/openid-connect/callback")
    {code : String} {flow : Session.Flow} {user : Session.User}
    (pairs : queryPairs (world.request click) = [("code", code), ("state", flow.csrfToken)])
    (pending : (world.cells state click.browser).flow = some flow)
    (begun : flow.provider = "openid-connect")
    (completed : (Oidc.complete click.around.readers click.around.services state.provider code
      flow.pkceVerifier).1 = .ok user) :
    (world.outcome state entry click).response.status = 307 := by
  rw [outcome_eq, response_serve_callback coherent served _ _ get path pairs pending begun
    registered completed, status_welcome field]

end clicks

/-- Over any interleaving of requests, from browsers without cookies on, the cookies of each browser
    represent a pair, and with every request the pairs step as the answer says, where the replies of
    the provider are read faithfully. -/
theorem steps_run_start {env : Settings.Variables} (made : state.IsMadeBy env)
    (field : Http.isFieldValue state.config.baseUrl = true)
    (whole : ∀ c ∈ state.config.basePath.toList, c ≠ ';') (served : entry ≠ .metrics) :
    (∀ browser, start.cells state browser = .empty) ∧
      ∀ click clicks, (∀ one ∈ click :: clicks, one.around.readers.AreFaithful) →
        let world := start.run state entry clicks
        (∀ browser, state.sessions.load (world.browsers browser).cookieHeaders =
          .ok (world.cells state browser).user) ∧
        Steps state click (world.request click) (world.outcome state entry click)
          (world.cells state) ((world.next state entry click).cells state) := by
  have sendable := made.areSendable whole
  refine ⟨fun browser => cellsOf_of_keeps (.empty _), fun click clicks faithful => ?_⟩
  obtain ⟨last, earlier⟩ := List.forall_mem_cons.mp faithful
  have kept := (isKept_start state).run made.coherent sendable field served earlier
  exact ⟨fun browser => (kept browser).load,
    (kept.next made.coherent sendable field served click last).2⟩

/-- A browser begins a login at the provider. -/
def loginClick : Click :=
  ⟨0, .answering, "GET", ⟨none, none, "/login/openid-connect", none⟩⟩

/-- The provider sends it back with the token of this login. -/
def callbackClick : Click :=
  ⟨0, .answering, "GET", ⟨none, none, "/auth/openid-connect/callback",
    some (Url.formText [("code", "c"),
      ("state", (Surroundings.answering.draws.flow "openid-connect").csrfToken)])⟩⟩

/-- A browser asks for the profile. -/
def profileClick (browser : Nat) : Click :=
  ⟨browser, .answering, "GET", ⟨none, none, "/profile", none⟩⟩

/-- A browser that logs in is shown the user whom the provider tells, and another one nobody. -/
theorem steps_run_start_two_browsers :
    ∃ state : State, state.IsMadeBy localVariables ∧
      let world := start.run state .main [loginClick, callbackClick]
      let own := (world.outcome state .main (profileClick 0)).response
      own.status = 200 ∧
        own.body =
          renderProfile state.config.baseUrl ⟨"alice@example.com", "openid-connect"⟩ ∧
        (world.outcome state .main (profileClick 1)).response.status = 403 := by
  obtain ⟨state, made, shown⟩ := exists_isMadeBy_of_shown localVariables
    (fun state => (state.provider.name, state.config.baseUrl, state.config.basePath,
      (Oidc.Endpoints.ofProvider state.provider).toOption.isSome,
      (Oidc.complete .typed answeringServices state.provider "c"
        (Surroundings.answering.draws.flow "openid-connect").pkceVerifier).1.toOption))
    ("openid-connect", "http://localhost:8080/app", "/app", true,
      some ⟨"alice@example.com", "openid-connect"⟩) (by decide +kernel)
  simp only [Prod.mk.injEq] at shown
  obtain ⟨registered, baseUrl, basePath, usable, completed⟩ := shown
  obtain ⟨endpoints, usable⟩ := Option.isSome_iff_exists.mp usable
  have field : Http.isFieldValue state.config.baseUrl = true := by
    rw [baseUrl]
    decide
  have whole : ∀ c ∈ state.config.basePath.toList, c ≠ ';' := by
    rw [basePath]
    exact List.all_iff_forall_prop.mp (by decide)
  have served : Entry.main ≠ .metrics := by decide
  have answering {clicks : List Click} (same : ∀ click ∈ clicks, click.around = .answering) :
      ∀ click ∈ clicks, click.around.readers.AreFaithful := fun click member => by
    rw [same click member]
    exact Oidc.Readers.areFaithful_typed
  have ⟨empty, steps⟩ := steps_run_start made field whole served
  have begins := (steps loginClick [] (answering (by simp [loginClick]))).2
  have returns := (steps callbackClick [loginClick]
    (answering (by simp [loginClick, callbackClick]))).2
  have looks (browser : Nat) := (steps (profileClick browser) [loginClick, callbackClick]
    (answering (by simp [loginClick, callbackClick, profileClick]))).2.own
  have pending := begins.own.login
    (by decide : Route.ofPath? "/login/openid-connect" = some (.login, ["openid-connect"]))
    (status_outcome_login made.coherent served registered _ rfl rfl (eq_ok_of_toOption usable))
  rw [registered] at pending
  obtain ⟨flow, user, -, vouched, loggedIn⟩ := returns.own.callback
    (by decide : Route.ofPath? "/auth/openid-connect/callback" =
      some (.callback, ["openid-connect"]))
    (status_outcome_callback made.coherent served registered _ field rfl rfl
      (Url.formPairs_formText _) (congrArg Cells.flow pending) rfl (eq_ok_of_toOption completed))
  rw [vouched.user_answering, registered] at loggedIn
  have untouched : (start.run state .main [loginClick, callbackClick]).cells state 1 = .empty :=
    (returns.others 1 (by decide)).trans ((begins.others 1 (by decide)).trans (empty 1))
  have shows (browser : Nat) {cells : Cells}
      (held : (start.run state .main [loginClick, callbackClick]).cells state browser = cells) :
      ShowsUser state "GET" ((start.run state .main [loginClick, callbackClick]).outcome state
        .main (profileClick browser)).response cells.user := by
    rw [← held]
    exact (looks browser).profile (by decide : Route.ofPath? "/profile" = some (.profile, [])) rfl
  have own := shows 0 loggedIn
  exact ⟨state, made, own.1, own.2 rfl, shows 1 untouched⟩

end World

end Gatehouse.App
