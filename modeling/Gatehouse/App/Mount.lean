import Gatehouse.App.Router
import Gatehouse.Http.Router

/-!
# What is mounted on a port

The routers of the ports: the application's routes, the metrics, or both in one router.
The metrics are merged into the router of the application where both have one port.
-/

namespace Gatehouse.App

/-- What a path leads to. -/
inductive Endpoint where
  | application (route : Route)
  | metrics
deriving DecidableEq, Repr

/-- The routes of the application. -/
def applicationRoutes : List (String × Endpoint) :=
  Route.all.map fun route => (route.path, .application route)

/-- The route of the metrics. -/
def metricsRoute (path : String) : String × Endpoint :=
  (path, .metrics)

/-- The router of the application, unless it refuses a route. -/
def applicationRouter? (refuses : Http.Refusal) : Option (Http.Router Endpoint) :=
  Http.Router.empty.addAll? refuses applicationRoutes

/-- The router of the metrics, unless it refuses their path. -/
def metricsRouter? (refuses : Http.Refusal) (path : String) : Option (Http.Router Endpoint) :=
  Http.Router.empty.add? refuses (metricsRoute path)

/-- The router of the main port, into which the metrics are merged if they share it. -/
def mainRouter? (refuses : Http.Refusal) (shared : Bool) (path : String) :
    Option (Http.Router Endpoint) := do
  let application ← applicationRouter? refuses
  if shared then application.merge? refuses (← metricsRouter? refuses path)
  else some application

/-- The routes of the main port. -/
def mainRoutes (shared : Bool) (path : String) : List (String × Endpoint) :=
  if shared then applicationRoutes ++ [metricsRoute path] else applicationRoutes

/-- The router of a port. -/
def Entry.router (state : State) : Entry → Http.Router Endpoint
  | .main => ⟨mainRoutes state.sharesPort state.config.metrics.path⟩
  | .application => ⟨applicationRoutes⟩
  | .metrics => ⟨[metricsRoute state.config.metrics.path]⟩

/-- Answers a request by the route that a router finds. -/
def answer (router : Http.Router Endpoint) (state : State) (tally : Tally) (around : Surroundings)
    (request : Http.Request) : Outcome × Tally :=
  tally.settle request.method
    (match router.find? request.path with
    | none => .done fun _ => .ofResponse (.empty 404)
    | some (.metrics, _) => .done fun counter => scrape counter request
    | some (.application route, captures) =>
      (handleOn state around request captures route).map fun outcome _ => outcome)

end Gatehouse.App
