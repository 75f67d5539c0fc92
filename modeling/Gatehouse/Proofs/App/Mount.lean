import Gatehouse.App.Mount
import Gatehouse.App.Run
import Gatehouse.Proofs.App.Router
import Gatehouse.Proofs.App.State
import Gatehouse.Proofs.Settings.MetricsPath

/-!
# Mounting the metrics

The check of the metrics path agrees with the router of the application, and what it
accepts can be mounted: no router refuses it.  Mounted on the port of the application the
metrics take over their own path, and every other request is answered as before.
-/

namespace Gatehouse.App

open Http (Fits pathSegments readPattern Refusal)
open Settings (metricsPathFault? metricsPathFault?_eq_none_iff IsPlainPath)

theorem mem_applicationRoutes {written : String × Endpoint} :
    written ∈ applicationRoutes ↔ ∃ route : Route, (route.path, .application route) = written := by
  rw [applicationRoutes, List.mem_map]
  exact ⟨fun ⟨route, _, same⟩ => ⟨route, same⟩, fun ⟨route, same⟩ => ⟨route, Route.mem_all route, same⟩⟩

theorem agree_applicationRoutes : applicationRoutes.Pairwise fun route other =>
    Http.agree (readPattern route.1) (readPattern other.1) = false := by
  decide

theorem areApart_application : Http.AreApart (Http.Router.rows ⟨applicationRoutes⟩) :=
  Http.areApart_of_agree (List.pairwise_map.mpr agree_applicationRoutes)

theorem rows_application : Http.Router.rows ⟨applicationRoutes⟩ =
    Route.all.map fun route => (route.pattern, Endpoint.application route) := by
  rw [Http.Router.rows, applicationRoutes, List.map_map]
  refine List.map_congr_left ?_
  intro route _
  rw [Function.comp_apply, Settings.readPattern_path]

/-- The router of the application finds the route of a path. -/
theorem find?_application (path : String) :
    Http.Router.find? ⟨applicationRoutes⟩ path =
      (Route.ofPath? path).map fun found => (.application found.1, found.2) := by
  rw [Http.Router.find?, areApart_application.walk_eq_findSome?, rows_application,
    List.findSome?_map, Route.ofPath?, List.map_findSome?]
  refine congrArg (List.findSome? · Route.all) (funext fun route => ?_)
  simp [Function.comp_def]

/-- A route that matches although its capture takes nothing is the callback, at one path. -/
theorem Route.path_of_emptyCapture {path : String} {route : Route} {taken : List String}
    (matched : Http.matchSegments? route.pattern (pathSegments path) = some taken)
    (empty : "" ∈ taken) : path = "/auth//callback" := by
  -- No literal takes anything, and what a capture at the end takes is not empty.
  have literals (texts : List String)
      (literal : Http.matchSegments? (texts.map .literal) (pathSegments path) = some taken) :
      False := by
    obtain ⟨-, rfl⟩ := (Http.matchSegments?_literals_eq_some texts).mp literal
    cases empty
  have last (texts : List String) (name : String)
      (captured : Http.matchSegments? (texts.map .literal ++ [.capture name])
        (pathSegments path) = some taken) : False := by
    obtain ⟨behind, -, captured⟩ := Http.exists_of_matchSegments?_literals texts _ captured
    obtain ⟨s, behind, rest, rfl, rfl, nothing, filled⟩ :=
      Http.exists_of_matchSegments?_capture captured
    obtain ⟨rfl, rfl⟩ := (Http.matchSegments?_literals_eq_some []).mp nothing
    exact filled ⟨(List.mem_singleton.mp empty).symm, rfl⟩
  cases route with
  | hello => exact (literals ["", ""] matched).elim
  | sendMail => exact (literals ["", "send_mail"] matched).elim
  | listModels => exact (literals ["", "openfga", "list-authorization-models"] matched).elim
  | userDefinedConfig => exact (literals ["", "env", "user-defined-config"] matched).elim
  | migrateStatus => exact (literals ["", "postgresql", "migratestatus"] matched).elim
  | logout => exact (last ["", "logout"] "provider" matched).elim
  | login => exact (last ["", "login"] "provider" matched).elim
  | profile => exact (literals ["", "profile"] matched).elim
  | callback =>
    obtain ⟨behind, segments, captured⟩ := Http.exists_of_matchSegments?_literals ["", "auth"]
      [.capture "provider", .literal "callback"] matched
    obtain ⟨s, behind, rest, rfl, rfl, literal, -⟩ := Http.exists_of_matchSegments?_capture captured
    obtain ⟨rfl, rfl⟩ := (Http.matchSegments?_literals_eq_some ["callback"]).mp literal
    rw [← Http.joinWith_pathSegments path, segments, ← List.mem_singleton.mp empty]
    rfl

section router

variable {refuses : Refusal} (sparing : refuses.IsSparing)
include sparing

theorem applicationRouter?_eq : applicationRouter? refuses = some ⟨applicationRoutes⟩ := by
  refine Http.Router.addAll?_eq_some sparing .empty (by decide) ?_
  exact agree_applicationRoutes.imp Http.not_overlap_of_agree

/-- A path that is accepted can be mounted alone. -/
theorem metricsRouter?_eq {path : String} (plain : IsPlainPath path) :
    metricsRouter? refuses path = some ⟨[metricsRoute path]⟩ :=
  Http.Router.add?_eq_some sparing plain.isRoutePath (by simp [Http.Router.empty])

/-- A path that is accepted can be mounted beside the application. -/
theorem mainRouter?_eq {path : String} {shared : Bool}
    (accepted : metricsPathFault? path shared = none) :
    mainRouter? refuses shared path = some ⟨mainRoutes shared path⟩ := by
  obtain ⟨plain, apart⟩ := metricsPathFault?_eq_none_iff.mp accepted
  rw [mainRouter?, applicationRouter?_eq sparing, metricsRouter?_eq sparing plain, mainRoutes]
  cases shared with
  | false => rfl
  | true =>
    refine Http.Router.addAll?_eq_some sparing _ (by simpa [metricsRoute] using plain.isRoutePath) ?_
    rw [List.pairwise_append]
    refine ⟨agree_applicationRoutes.imp Http.not_overlap_of_agree, List.pairwise_singleton _ _, ?_⟩
    intro written member metrics same
    obtain ⟨route, rfl⟩ := mem_applicationRoutes.mp member
    rw [List.mem_singleton.mp same, metricsRoute, Settings.readPattern_path, plain.readPattern_eq]
    rintro ⟨segments, fits, own⟩
    -- Literals fit their own path alone.
    obtain ⟨taken, matched, -⟩ := Http.fits_iff_matchSegments?.mp own
    rw [((Http.matchSegments?_literals_eq_some _).mp matched).1] at fits
    exact apart rfl route fits

end router

/-- The application's router, and every other one that dispatches by its routes, leaves a plain path
    alone exactly if no pattern fits it. -/
theorem dispatch_eq_none_iff {dispatch : String → Option Endpoint}
    (dispatches : Http.Router.IsDispatch ⟨applicationRoutes⟩ dispatch) (path : String) :
    dispatch path = none ↔ ∀ route : Route, ¬Fits route.pattern (pathSegments path) := by
  constructor
  · intro unrouted route fits
    have written : (route.path, Endpoint.application route) ∈ applicationRoutes :=
      mem_applicationRoutes.mpr ⟨route, rfl⟩
    exact dispatches.complete written (by rwa [Settings.readPattern_path]) unrouted
  · intro unfit
    by_contra routed
    obtain ⟨target, found⟩ := Option.ne_none_iff_exists'.mp routed
    obtain ⟨written, member, -, fits⟩ := dispatches.sound found
    obtain ⟨route, rfl⟩ := mem_applicationRoutes.mp member
    rw [Settings.readPattern_path] at fits
    exact unfit route fits

/-- No pattern fits a path exactly if no route is found for it, but for one path at which the
    capture of the callback takes nothing. -/
theorem not_fits_iff (path : String) :
    (∀ route : Route, ¬Fits route.pattern (pathSegments path)) ↔
      Route.ofPath? path = none ∨ path = "/auth//callback" := by
  constructor
  · intro unfit
    rw [Decidable.or_iff_not_imp_left]
    intro routed
    obtain ⟨⟨route, taken⟩, found⟩ := Option.ne_none_iff_exists'.mp routed
    obtain ⟨route, -, found⟩ := List.exists_of_findSome?_eq_some found
    obtain ⟨taken, matched, -⟩ := Option.map_eq_some_iff.mp found
    by_cases empty : "" ∈ taken
    · exact Route.path_of_emptyCapture matched empty
    · exact absurd (Http.fits_iff_matchSegments?.mpr ⟨taken, matched, empty⟩) (unfit route)
  · rintro (unrouted | rfl) route fits
    · obtain ⟨taken, matched, -⟩ := Http.fits_iff_matchSegments?.mp fits
      have fails := List.findSome?_eq_none_iff.mp unrouted route (Route.mem_all route)
      rw [matched] at fails
      cases fails
    · rw [← Http.coversSegments_iff] at fits
      revert fits
      cases route <;> decide

/-- The check of the metrics path agrees with the router, and no router refuses what it accepts.
    Taken that a capture is one segment that is not empty, a plain path is accepted on a shared
    port exactly if no route of the application takes it.  Where a capture may also be an empty
    segment in the middle of a path, this holds of every path but one. -/
theorem metricsPath_agrees {refuses : Refusal} (sparing : refuses.IsSparing)
    {dispatch : String → Option Endpoint}
    (dispatches : Http.Router.IsDispatch ⟨applicationRoutes⟩ dispatch) :
    (∀ path, IsPlainPath path →
      (metricsPathFault? path true = none ↔ dispatch path = none) ∧
      (metricsPathFault? path true = none ↔
        Route.ofPath? path = none ∨ path = "/auth//callback")) ∧
    ∀ path shared, metricsPathFault? path shared = none →
      metricsRouter? refuses path = some ⟨[metricsRoute path]⟩ ∧
      mainRouter? refuses shared path = some ⟨mainRoutes shared path⟩ := by
  refine ⟨?_, ?_⟩
  · intro path plain
    have accepted : metricsPathFault? path true = none ↔
        ∀ route : Route, ¬Fits route.pattern (pathSegments path) := by
      rw [metricsPathFault?_eq_none_iff]
      exact ⟨fun free => free.2 rfl, fun unfit => ⟨plain, fun _ => unfit⟩⟩
    exact ⟨accepted.trans (dispatch_eq_none_iff dispatches path).symm,
      accepted.trans (not_fits_iff path)⟩
  · intro path shared accepted
    have plain := (metricsPathFault?_eq_none_iff.mp accepted).1
    exact ⟨metricsRouter?_eq sparing plain, mainRouter?_eq sparing accepted⟩

/-- A path that goes on behind a captured one is accepted, is not taken by the application, and is
    mounted beside it. -/
theorem metricsPath_agrees_login :
    metricsPathFault? "/login/a/b" true = none ∧ Route.ofPath? "/login/a/b" = none ∧
      (mainRouter? Refusal.usual true "/login/a/b").isSome := by
  have agrees := metricsPath_agrees Http.Refusal.isSparing_usual
    (Http.Router.isDispatch_findFilled? areApart_application)
  have plain : IsPlainPath "/login/a/b" := ⟨by decide, List.all_iff_forall_prop.mp (by decide), by decide⟩
  have unrouted : Http.Router.findFilled? ⟨applicationRoutes⟩ "/login/a/b" = none := by decide
  have accepted := (agrees.1 "/login/a/b" plain).1.mpr unrouted
  refine ⟨accepted, ?_, ?_⟩
  · exact ((agrees.1 "/login/a/b" plain).2.mp accepted).resolve_right (by decide)
  · rw [(agrees.2 "/login/a/b" true accepted).2]
    rfl

/-- A router with the metrics as its last route finds them at their own path, and everything else as
    it would without them. -/
theorem find?_append_metrics {path : String} (plain : IsPlainPath path)
    (routes : List (String × Endpoint))
    (apart : ∀ written ∈ routes, ¬Fits (readPattern written.1) (pathSegments path))
    (asked : String) :
    Http.Router.find? ⟨routes ++ [metricsRoute path]⟩ asked =
      if asked = path then some (.metrics, []) else Http.Router.find? ⟨routes⟩ asked := by
  have rows : Http.Router.rows ⟨routes ++ [metricsRoute path]⟩ =
      Http.Router.rows ⟨routes⟩ ++ [((pathSegments path).map .literal, Endpoint.metrics)] := by
    rw [Http.Router.rows, List.map_append, ← plain.readPattern_eq]
    rfl
  rw [Http.Router.find?, rows]
  by_cases own : asked = path
  · have fresh : ∀ row ∈ Http.Router.rows ⟨routes⟩, row.1 ≠ (pathSegments path).map .literal := by
      intro row member same
      obtain ⟨written, present, rfl⟩ := List.mem_map.mp member
      refine apart written present (Http.fits_iff_matchSegments?.mpr ⟨[], ?_, by simp⟩)
      rw [show readPattern written.1 = (pathSegments path).map .literal from same]
      exact (Http.matchSegments?_literals_eq_some _).mpr ⟨rfl, rfl⟩
    rw [if_pos own, own, Http.walk_append_literals_self fresh]
  · rw [if_neg own, Http.walk_append_literals_of_ne (mt Http.pathSegments_inj.mp own)]
    rfl

/-- The router of the main port differs from that of the application at the path of the metrics, if
    they share the port. -/
theorem find?_main {state : State} (coherent : state.config.IsCoherent) (path : String) :
    (Entry.main.router state).find? path =
      if state.sharesPort = true ∧ path = state.config.metrics.path then some (.metrics, [])
      else (Entry.application.router state).find? path := by
  obtain ⟨plain, apart⟩ := metricsPathFault?_eq_none_iff.mp coherent.metrics
  rw [Entry.router, mainRoutes]
  cases shares : state.sharesPort with
  | false => simp [Entry.router]
  | true =>
    have unfit : ∀ written ∈ applicationRoutes,
        ¬Fits (readPattern written.1) (pathSegments state.config.metrics.path) := by
      intro written member
      obtain ⟨route, rfl⟩ := mem_applicationRoutes.mp member
      rw [Settings.readPattern_path]
      exact apart shares route
    rw [if_pos rfl, find?_append_metrics plain applicationRoutes unfit]
    simp [Entry.router]

/-- Where a path leads on a port. -/
theorem find?_router {state : State} (coherent : state.config.IsCoherent) (entry : Entry)
    (request : Http.Request) :
    (entry.router state).find? request.path =
      if entry.reachesApplication state request then
        (Route.ofPath? request.path).map fun found => (.application found.1, found.2)
      else if state.isScrape request then some (.metrics, []) else none := by
  have plain := (metricsPathFault?_eq_none_iff.mp coherent.metrics).1
  cases entry with
  | application => exact find?_application request.path
  | metrics =>
    have found := find?_append_metrics plain [] (by simp) request.path
    have nothing : Http.Router.find? ⟨([] : List (String × Endpoint))⟩ request.path = none := by
      cases other : Http.Router.find? ⟨([] : List (String × Endpoint))⟩ request.path with
      | none => rfl
      | some target =>
        obtain ⟨pattern, member, -⟩ := Http.exists_of_walk other
        cases member
    rw [nothing, List.nil_append] at found
    rw [Entry.router, found, Entry.reachesApplication, if_neg Bool.false_ne_true, State.isScrape]
    simp only [beq_iff_eq]
  | main =>
    rw [find?_main coherent, Entry.router, find?_application, Entry.reachesApplication,
      State.isScrape]
    cases state.sharesPort with
    | false => simp
    | true => by_cases own : request.path = state.config.metrics.path <;> simp [own]

/-- The routers of the ports give the answers of the application: to answer a request is to answer
    it by the route that the router of its port finds. -/
theorem serve_eq_answer {state : State} (coherent : state.config.IsCoherent) (entry : Entry)
    (tally : Tally) (around : Surroundings) (request : Http.Request) :
    serve state entry tally around request =
      answer (entry.router state) state tally around request := by
  rw [serve, answer, find?_router coherent, handling]
  by_cases reaches : entry.reachesApplication state request = true
  · rw [if_pos reaches, if_pos reaches, dispatch]
    cases Route.ofPath? request.path with
    | none => rfl
    | some found => rfl
  · rw [if_neg reaches, if_neg reaches]
    by_cases scrapes : state.isScrape request = true
    · rw [if_pos scrapes, if_pos scrapes]
    · rw [if_neg scrapes, if_neg scrapes]

/-- Mounting the metrics changes nothing else.  On every port a request is answered by the route that
    the port's router finds.  A path other than that of the metrics leads on the main port where it
    leads in the router of the application, with the same capture, so that every request for it is
    answered and counted the same, and so is every run of such requests. -/
theorem serve_main_of_path_ne {state : State} {env : Settings.Variables}
    (made : state.IsMadeBy env) :
    (∀ (entry : Entry) tally around request, serve state entry tally around request =
      answer (entry.router state) state tally around request) ∧
    (∀ path, path ≠ state.config.metrics.path →
      (Entry.main.router state).find? path = (Entry.application.router state).find? path) ∧
    (∀ tally around (request : Http.Request), request.path ≠ state.config.metrics.path →
      serve state .main tally around request = serve state .application tally around request) ∧
    ∀ tally (visits : List Visit),
      (∀ visit ∈ visits, visit.request.path ≠ state.config.metrics.path) →
        run state .main tally visits = run state .application tally visits := by
  have coherent := made.coherent
  have routed (path : String) (other : path ≠ state.config.metrics.path) :
      (Entry.main.router state).find? path = (Entry.application.router state).find? path := by
    rw [find?_main coherent, if_neg fun own => other own.2]
  have served (tally : Tally) (around : Surroundings) (request : Http.Request)
      (other : request.path ≠ state.config.metrics.path) :
      serve state .main tally around request = serve state .application tally around request := by
    rw [serve_eq_answer coherent, serve_eq_answer coherent, answer, answer, routed _ other]
  refine ⟨serve_eq_answer coherent, routed, served, ?_⟩
  intro tally visits others
  induction visits generalizing tally with
  | nil => rfl
  | cons visit visits ih =>
    have rest := fun next => ih next fun visit member => others visit (List.mem_cons_of_mem _ member)
    simp only [run, served tally visit.around visit.request (others visit List.mem_cons_self), rest]

/-- Variables of an application with the metrics on its own port, beside the paths of the logins. -/
def sharedVariables : Settings.Variables :=
  localVariables ++ [("APP_METRICS_PORT", "8080"), ("APP_METRICS_PATH", "/login/a/b")]

theorem exists_isMadeBy_sharedVariables :
    ∃ state : State, state.IsMadeBy sharedVariables ∧ state.sharesPort = true ∧
      state.config.metrics.path = "/login/a/b" := by
  obtain ⟨state, made, shown⟩ := exists_isMadeBy_of_shown sharedVariables
    (fun state => (state.sharesPort, state.config.metrics.path)) (true, "/login/a/b")
    (by decide +kernel)
  rw [Prod.mk.injEq] at shown
  exact ⟨state, made, shown⟩

/-- A login beside the metrics path is begun as without the metrics. -/
theorem serve_main_of_path_ne_login :
    ∃ state : State, state.IsMadeBy sharedVariables ∧ state.sharesPort = true ∧
      serve state .main .zero .silent ⟨"GET", ⟨none, none, "/login/a", none⟩, []⟩ =
        serve state .application .zero .silent ⟨"GET", ⟨none, none, "/login/a", none⟩, []⟩ := by
  obtain ⟨state, made, shares, path⟩ := exists_isMadeBy_sharedVariables
  refine ⟨state, made, shares, ?_⟩
  refine (serve_main_of_path_ne made).2.2.1 .zero .silent _ ?_
  rw [path]
  decide

end Gatehouse.App
