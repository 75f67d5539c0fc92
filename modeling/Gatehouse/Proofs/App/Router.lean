import Gatehouse.App.Router
import Gatehouse.Proofs.App.Handling
import Gatehouse.Proofs.Http.Response
import Gatehouse.Proofs.Http.Router

/-!
# Which requests reach a handler

The routes of the login by the segments of their paths, and what a request brings about
when it reaches the application and when it does not.
-/

namespace Gatehouse

namespace App

namespace Route

variable {path capture : String}

theorem mem_all (route : Route) : route ∈ all := by
  cases route <;> decide

theorem ofPath?_logout (segments : Http.pathSegments path = ["", "logout", capture])
    (named : capture ≠ "") : ofPath? path = some (logout, [capture]) := by
  have filled : capture.isEmpty = false := by simpa using named
  rw [ofPath?, segments]
  simp [all, pattern, Http.matchSegments?, filled]

theorem ofPath?_callback (segments : Http.pathSegments path = ["", "auth", capture, "callback"]) :
    ofPath? path = some (callback, [capture]) := by
  rw [ofPath?, segments]
  simp [all, pattern, Http.matchSegments?]

theorem ofPath?_profile (segments : Http.pathSegments path = ["", "profile"]) :
    ofPath? path = some (profile, []) := by
  rw [ofPath?, segments]
  simp [all, pattern, Http.matchSegments?]

theorem segments_of_ofPath?_profile {captures : List String}
    (routed : ofPath? path = some (profile, captures)) :
    Http.pathSegments path = ["", "profile"] := by
  obtain ⟨route, -, found⟩ := List.exists_of_findSome?_eq_some routed
  obtain ⟨taken, fits, same⟩ := Option.map_eq_some_iff.mp found
  cases same
  exact ((Http.matchSegments?_literals_eq_some ["", "profile"]).mp fits).1

end Route

/-- The outcome of a request on a route. -/
def respond (state : State) (around : Surroundings) (request : Http.Request) (capture : String)
    (route : Route) : Outcome :=
  (handle state around request capture route).result

section respond

variable {state : State} {around : Surroundings} {request : Http.Request} {capture : String}

theorem respond_callback : respond state around request capture .callback =
    withProvider capture fun provider => respondToCallback state around provider request := rfl

theorem respond_logout : respond state around request capture .logout =
    withProvider capture fun _ => .ofResponse (logout state) := rfl

theorem respond_login : respond state around request capture .login =
    withProvider capture fun provider => .ofResponse (login state around.draws provider) := rfl

theorem respond_profile : respond state around request capture .profile =
    .ofResponse (profile state request.cookies) := rfl

theorem respond_sendMail : respond state around request capture .sendMail =
    match around.deliver (state.config.mail.relay state.config.skipVerify) Mail.testMessage with
    | .ok () => ⟨.text 200 "Sent", [], true⟩
    | .error error => .ofResponse (serviceFailure error.message) := by
  change (sendMail state around).result = _
  unfold sendMail
  rw [Handling.result_count]
  cases around.deliver (state.config.mail.relay state.config.skipVerify) Mail.testMessage <;> rfl

theorem respond_listModels : respond state around request capture .listModels =
    match state.authz with
    | none => .ofResponse (serviceFailure "OpenFGA client is not configured")
    | some client =>
      let (result, exchanges) := client.listModels around.services
      match result with
      | .ok _ => ⟨.text 200 "Listed authorization models", exchanges, false⟩
      | .error error => ⟨serviceFailure error.message, exchanges, false⟩ := by
  change (listModels state around).result = _
  unfold listModels
  rw [Handling.result_count]
  cases state.authz with
  | none => rfl
  | some client =>
    dsimp only
    cases (client.listModels around.services).1 <;> rfl

theorem respond_migrateStatus : respond state around request capture .migrateStatus =
    match around.probe state.config.connectString with
    | .ok _ => .ofResponse (.text 200 "SUCCESS")
    | .error _ => .ofResponse (.text 200 "FAILURE") := by
  change (migrateStatus state around).result = _
  unfold migrateStatus
  cases around.probe state.config.connectString <;> rfl

end respond

section serve

variable (state : State) (entry : Entry) (tally : Tally) (around : Surroundings)
  (request : Http.Request)

/-- The outcome of a request on the routes of the application. -/
theorem result_dispatch : (dispatch state around request).result =
    match Route.ofPath? request.path with
    | none => .ofResponse (.empty 404)
    | some (route, captures) =>
      if route.anyMethod || request.reads then
        respond state around request (captures.head?.getD "") route
      else .ofResponse .readOnly := by
  unfold dispatch
  cases Route.ofPath? request.path with
  | none => rfl
  | some found =>
    dsimp only
    unfold handleOn
    split <;> rfl

variable {state entry request}

/-- What a request that reaches the application brings about and adds to what is counted. -/
theorem serve_of_reaches (reaches : entry.reachesApplication state request = true) :
    serve state entry tally around request =
      let handling := dispatch state around request
      (handling.result.forMethod request.method,
        ⟨⟨tally.requests.exported + handling.exports, tally.requests.total + handling.totals⟩,
          tally.deliveries + handling.result.delivered.toNat⟩) := by
  rw [serve, Tally.settle, handling, if_pos reaches, Handling.run_eq, Handling.result_map,
    Handling.exports_map, Handling.totals_map]
  rfl

theorem outcome_serve_of_reaches (reaches : entry.reachesApplication state request = true) :
    (serve state entry tally around request).1 =
      (dispatch state around request).result.forMethod request.method :=
  congrArg Prod.fst (serve_of_reaches tally around reaches)

/-- A request that does not reach the application changes nothing that is counted. -/
theorem serve_of_not_reaches (elsewhere : ¬entry.reachesApplication state request = true) :
    serve state entry tally around request =
      ((if state.isScrape request then scrape tally.requests request
        else .ofResponse (.empty 404)).forMethod request.method, tally) := by
  have quiet : (scrape tally.requests request).delivered = false := by
    unfold scrape
    split <;> rfl
  rw [serve, Tally.settle, handling, if_neg elsewhere]
  by_cases scrapes : state.isScrape request = true
  · rw [if_pos scrapes, if_pos scrapes, Handling.run]
    simp only [Outcome.forMethod, quiet, Bool.toNat_false, Nat.add_zero]
  · rw [if_neg scrapes, if_neg scrapes]
    rfl

variable (state entry request)

/-- The outcome of a request: the route of its path answers, or it is answered elsewhere, without
    asking anybody. -/
theorem serve_cases :
    (∃ response : Http.Response, response.IsQuiet ∧
      (serve state entry tally around request).1 = .ofResponse response) ∨
    ∃ route captures, Route.ofPath? request.path = some (route, captures) ∧
      (route.anyMethod || request.reads) = true ∧
      (serve state entry tally around request).1 =
        let outcome := respond state around request (captures.head?.getD "") route
        { outcome with response := outcome.response.forMethod request.method } := by
  have aside (response : Http.Response) (quiet : response.IsQuiet) :
      ∃ other : Http.Response, other.IsQuiet ∧
        (Outcome.ofResponse response).forMethod request.method = Outcome.ofResponse other :=
    ⟨response.forMethod request.method, quiet.forMethod _, rfl⟩
  by_cases reaches : entry.reachesApplication state request = true
  · rw [outcome_serve_of_reaches tally around reaches, result_dispatch]
    cases routed : Route.ofPath? request.path with
    | none => exact .inl (aside (.empty 404) ⟨rfl, by decide⟩)
    | some found =>
      dsimp only
      split
      · rename_i allowed
        exact .inr ⟨found.1, found.2, rfl, allowed, rfl⟩
      · exact .inl (aside .readOnly ⟨rfl, by decide⟩)
  · rw [serve_of_not_reaches tally around reaches]
    dsimp only
    split
    · unfold scrape
      split
      · exact .inl (aside (.typed 200 _ _) ⟨rfl, (by decide : 200 ≠ 307)⟩)
      · exact .inl (aside .readOnly ⟨rfl, by decide⟩)
    · exact .inl (aside (.empty 404) ⟨rfl, by decide⟩)

end serve

/-- Status and cookies of a response that goes out are those that the route of the path gives it,
    or it is quiet. -/
theorem serve_response_cases (state : State) (entry : Entry) (tally : Tally)
    (around : Surroundings) {request : Http.Request} {route : Route} {captures : List String}
    (routed : Route.ofPath? request.path = some (route, captures)) :
    ∃ response : Http.Response,
      (response.IsQuiet ∨
        response = (respond state around request (captures.head?.getD "") route).response) ∧
      (serve state entry tally around request).1.response.setCookie = response.setCookie ∧
      (serve state entry tally around request).1.response.status = response.status := by
  rcases serve_cases state entry tally around request with
    ⟨response, quiet, served⟩ | ⟨route, captures, found, -, served⟩
  · exact ⟨response, .inl quiet, by rw [served]; rfl, by rw [served]; rfl⟩
  · rw [routed, Option.some.injEq, Prod.mk.injEq] at found
    obtain ⟨rfl, rfl⟩ := found
    refine ⟨_, .inr rfl, ?_, ?_⟩
    · rw [served]
      exact Http.Response.setCookie_forMethod _ _
    · rw [served]
      exact Http.Response.status_forMethod _ _

/-- A request that only reads, on a route, is answered by the route where it reaches the
    application. -/
theorem response_serve_of_reads {state : State} {entry : Entry} {request : Http.Request}
    {route : Route} {captures : List String} (tally : Tally) (around : Surroundings)
    (reaches : entry.reachesApplication state request = true)
    (routed : Route.ofPath? request.path = some (route, captures))
    (reads : request.reads = true) :
    (serve state entry tally around request).1.response =
      (respond state around request (captures.head?.getD "") route).response.forMethod
        request.method := by
  rw [outcome_serve_of_reaches tally around reaches, result_dispatch, routed]
  simp only [reads, Bool.or_true, if_true]
  rfl

end App

end Gatehouse
