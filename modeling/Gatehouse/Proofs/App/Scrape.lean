import Gatehouse.Proofs.App.Counted
import Gatehouse.Proofs.Http.Target
import Gatehouse.Proofs.Metrics.Exposition

/-!
# Whether the metrics are served

The metrics are served at their path, on the port that is theirs, whenever the path can be
asked for.  A path with a character that ends the path of a request is accepted too, and
then nothing is ever answered with the metrics.
-/

namespace Gatehouse.App

open Http.Target (IsTargetPath)

/-- Where the metrics are served. -/
def State.metricsEntry (state : State) : Entry :=
  if state.sharesPort then .main else .metrics

/-- The answer to a scrape: the registry of the application as text. -/
def metricsResponse (counter : Metrics.Counter) : Http.Response :=
  .typed 200 Metrics.contentType (Metrics.render counter)

theorem reachesApplication_metricsEntry {state : State} {request : Http.Request}
    (scrapes : state.isScrape request = true) :
    state.metricsEntry.reachesApplication state request = false := by
  unfold State.metricsEntry
  split
  · rename_i shares
    rw [Entry.reachesApplication, shares, scrapes]
    rfl
  · rfl

/-- A scrape is answered where the metrics are served, and is not counted. -/
theorem serve_scrape {state : State} {request : Http.Request}
    (scrapes : state.isScrape request = true) (reads : request.method = "GET") (tally : Tally)
    (around : Surroundings) :
    serve state state.metricsEntry tally around request =
      (.ofResponse (metricsResponse tally.requests), tally) := by
  have asked : request.reads = true := by
    rw [Http.Request.reads, reads]
    rfl
  have elsewhere := reachesApplication_metricsEntry scrapes
  rw [serve_of_not_reaches tally around (Bool.eq_false_iff.mp elsewhere), if_pos scrapes, scrape,
    if_pos asked, reads]
  rfl

/-- The media types of the application's own answers. -/
def ownTypes : List (Option String) :=
  [none, some "text/plain; charset=utf-8", some "text/html; charset=utf-8",
    some "application/json"]

theorem contentType_text (status : Nat) (body : String) :
    (Http.Response.text status body).contentType ∈ ownTypes := by
  simp [Http.Response.text, Http.Response.typed, ownTypes]

theorem contentType_json (status : Nat) (body : String) :
    (Http.Response.json status body).contentType ∈ ownTypes := by
  simp [Http.Response.json, Http.Response.typed, ownTypes]

theorem contentType_html (body : String) : (Http.Response.html body).contentType ∈ ownTypes := by
  simp [Http.Response.html, Http.Response.typed, ownTypes]

theorem contentType_redirect (location : String) :
    (Http.Response.redirect location).contentType ∈ ownTypes := by
  unfold Http.Response.redirect
  split
  · exact List.mem_cons_self
  · exact contentType_text _ _

theorem contentType_loginFailure (failure : LoginFailure) :
    failure.response.contentType ∈ ownTypes := by
  cases failure <;> exact contentType_text _ _

theorem contentType_login (state : State) (draws : Oidc.Draws) (provider : String) :
    (login state draws provider).contentType ∈ ownTypes := by
  unfold login
  split
  · split
    · exact contentType_loginFailure _
    · exact contentType_redirect _
  · exact contentType_loginFailure _

theorem contentType_callback (state : State) (readers : Oidc.Readers) (services : Http.Services)
    (provider : String) (query : CallbackQuery) (cookies : List String) :
    (callback state readers services provider query cookies).1.contentType ∈ ownTypes := by
  unfold callback
  split
  · exact contentType_loginFailure _
  · dsimp only
    split
    · exact contentType_loginFailure _
    · exact contentType_redirect _

theorem contentType_profile (state : State) (cookies : List String) :
    (profile state cookies).contentType ∈ ownTypes := by
  unfold profile
  split
  · exact contentType_text _ _
  · exact contentType_text _ _
  · exact contentType_html _

theorem contentType_withProvider (capture : String) {respond : String → Outcome}
    (own : ∀ provider, (respond provider).response.contentType ∈ ownTypes) :
    (withProvider capture respond).response.contentType ∈ ownTypes := by
  unfold withProvider
  split
  · exact own _
  · exact contentType_text _ _

/-- No route answers with the media type of the metrics. -/
theorem contentType_respond (state : State) (around : Surroundings) (request : Http.Request)
    (capture : String) (route : Route) :
    (respond state around request capture route).response.contentType ∈ ownTypes := by
  cases route with
  | hello => exact contentType_text _ _
  | sendMail =>
    rw [respond_sendMail]
    split
    · exact contentType_text _ _
    · exact contentType_json _ _
  | listModels =>
    rw [respond_listModels]
    split
    · exact contentType_json _ _
    · dsimp only
      split
      · exact contentType_text _ _
      · exact contentType_json _ _
  | userDefinedConfig => exact contentType_json _ _
  | migrateStatus =>
    rw [respond_migrateStatus]
    split
    · exact contentType_text _ _
    · exact contentType_text _ _
  | callback =>
    refine contentType_withProvider capture fun provider => ?_
    unfold respondToCallback
    split
    · exact contentType_text _ _
    · exact contentType_callback _ _ _ _ _ _
  | logout => exact contentType_withProvider capture fun _ => contentType_redirect _
  | login => exact contentType_withProvider capture fun provider => contentType_login _ _ _
  | profile => exact contentType_profile _ _

theorem contentType_forMethod (response : Http.Response) (method : String) :
    (response.forMethod method).contentType = response.contentType := by
  unfold Http.Response.forMethod
  split <;> rfl

/-- Only a request for the path of the metrics is answered with the media type of the metrics. -/
theorem isScrape_of_contentType {state : State} {entry : Entry} {tally : Tally}
    {around : Surroundings} {request : Http.Request}
    (typed : (serve state entry tally around request).1.response.contentType =
      some Metrics.contentType) : state.isScrape request = true := by
  have notOwn : some Metrics.contentType ∉ ownTypes := by decide
  by_contra other
  refine notOwn ?_
  rw [← typed]
  by_cases reaches : entry.reachesApplication state request = true
  · rw [outcome_serve_of_reaches tally around reaches, Outcome.forMethod, contentType_forMethod,
      result_dispatch]
    split
    · exact List.mem_cons_self
    · split
      · exact contentType_respond _ _ _ _ _
      · exact List.mem_cons_self
  · rw [serve_of_not_reaches tally around reaches, if_neg other, Outcome.forMethod,
      contentType_forMethod]
    exact List.mem_cons_self

/-- An accepted metrics path is served exactly if it can be asked for: then a `GET` for it is
    answered with the registry of the application, on the main port if the metrics share it and on
    their own port otherwise, and the answer shows the count, which is the total after every run.
    If it cannot, no request is ever answered with the metrics, on any port. -/
theorem served_iff_isTargetPath {state : State} {env : Settings.Variables}
    (made : state.IsMadeBy env) (tally : Tally) (around : Surroundings) (cookies : List String) :
    ((∃ request, Http.Request.ofTexts? "GET" state.config.metrics.path cookies = some request ∧
      let response := (serve state state.metricsEntry tally around request).1.response
      response = metricsResponse tally.requests ∧
        Metrics.shown? Metrics.requestCount response.body = some tally.requests.exported) ↔
      IsTargetPath state.config.metrics.path) ∧
    (∀ entry visits, let counted := (run state entry .zero visits).2.requests
      counted.exported = counted.total) ∧
    (¬IsTargetPath state.config.metrics.path →
      ∀ method target cookies request,
        Http.Request.ofTexts? method target cookies = some request →
          ∀ entry, (serve state entry tally around request).1.response.contentType ≠
            some Metrics.contentType) := by
  have plain := (Settings.metricsPathFault?_eq_none_iff.mp made.coherent.metrics).1
  have reachable {method target : String} {cookies : List String} {request : Http.Request}
      (read : Http.Request.ofTexts? method target cookies = some request)
      (scrapes : state.isScrape request = true) : IsTargetPath state.config.metrics.path := by
    rw [Http.Request.ofTexts?] at read
    split at read
    · obtain ⟨parsed, found, rfl⟩ := Option.map_eq_some_iff.mp read
      rw [State.isScrape, beq_iff_eq] at scrapes
      rw [← scrapes]
      exact Http.Target.isTargetPath_of_parse (eq_ok_of_toOption found)
    · cases read
  refine ⟨⟨?_, ?_⟩, exported_eq_total_run rfl state, ?_⟩
  · rintro ⟨request, read, answered, -⟩
    exact reachable read (isScrape_of_contentType (by rw [answered]; rfl))
  · intro target
    have parsed := Http.Target.parse_of_isTargetPath plain.absolute target
    refine ⟨⟨"GET", ⟨none, none, state.config.metrics.path, none⟩, cookies⟩, ?_, ?_⟩
    · rw [Http.Request.ofTexts?, parsed, if_pos (by decide)]
      rfl
    · have scrapes : state.isScrape ⟨"GET", ⟨none, none, state.config.metrics.path, none⟩, cookies⟩ =
          true := beq_self_eq_true _
      rw [serve_scrape scrapes rfl]
      exact ⟨rfl, Metrics.shown?_render _⟩
  · intro beyond method target cookies request read entry typed
    exact beyond (reachable read (isScrape_of_contentType typed))

/-- A metrics path between the paths of the logins is served. -/
theorem served_iff_isTargetPath_login :
    ∃ state : State, state.IsMadeBy sharedVariables ∧ state.metricsEntry = .main ∧
      ∃ request, Http.Request.ofTexts? "GET" "/login/a/b" [] = some request ∧
        (serve state .main .zero .silent request).1.response = metricsResponse .zero ∧
        Metrics.shown? Metrics.requestCount
          (serve state .main .zero .silent request).1.response.body = some 0 := by
  obtain ⟨state, made, shares, path⟩ := exists_isMadeBy_sharedVariables
  have entry : state.metricsEntry = .main := by rw [State.metricsEntry, if_pos shares]
  have served := (served_iff_isTargetPath made .zero .silent []).1.mpr
    (path ▸ ⟨List.all_eq_true.mp (by decide), by decide⟩)
  rw [path, entry] at served
  exact ⟨state, made, entry, served⟩

/-- Variables of an application whose metrics path has a question mark. -/
def questionVariables : Settings.Variables :=
  localVariables ++ [("APP_METRICS_PORT", "8080"), ("APP_METRICS_PATH", "/a?b")]

/-- A metrics path with a question mark is accepted, and a `GET` for it finds nothing. -/
theorem status_scrape_question :
    ∃ state : State, state.IsMadeBy questionVariables ∧ state.metricsEntry = .main ∧
      ∃ request, Http.Request.ofTexts? "GET" state.config.metrics.path [] = some request ∧
        (serve state .main .zero .silent request).1.response.status = 404 := by
  obtain ⟨state, made, shown⟩ := exists_isMadeBy_of_shown questionVariables
    (fun state => (state.sharesPort, state.config.metrics.path)) (true, "/a?b")
    (by decide +kernel)
  rw [Prod.mk.injEq] at shown
  obtain ⟨shares, path⟩ := shown
  refine ⟨state, made, by rw [State.metricsEntry, if_pos shares], ?_⟩
  refine ⟨⟨"GET", ⟨none, none, "/a", some "b"⟩, []⟩, by rw [path]; decide, ?_⟩
  have other : state.isScrape ⟨"GET", ⟨none, none, "/a", some "b"⟩, []⟩ = false := by
    rw [State.isScrape, path]
    decide
  have unrouted : Route.ofPath? "/a" = none := by decide
  have reaches : Entry.main.reachesApplication state ⟨"GET", ⟨none, none, "/a", some "b"⟩, []⟩ =
      true := by
    rw [Entry.reachesApplication, other, Bool.and_false]
    rfl
  rw [outcome_serve_of_reaches .zero .silent reaches, Outcome.forMethod,
    Http.Response.status_forMethod, result_dispatch,
    show Http.Request.path ⟨"GET", ⟨none, none, "/a", some "b"⟩, []⟩ = "/a" from rfl, unrouted]
  rfl

end Gatehouse.App
