import Gatehouse.App.Handling
import Gatehouse.App.Login
import Gatehouse.App.Profile
import Gatehouse.App.Route
import Gatehouse.Http.Request
import Gatehouse.Metrics.Registry

/-!
# Answering requests

The route of the path decides who answers.  The metrics have a path of their own, on the
port of the application or on another one; where they are on the same port their path
comes first.
-/

namespace Gatehouse.App

/-- A text in a path as it is meant. -/
def captureText? (capture : String) : Option String :=
  (Percent.decodeText? capture.toList).map .ofList

/-- The answer to a capture that is not UTF-8. -/
def badCapture : Http.Response :=
  .text 400 "Invalid URL: Invalid UTF-8 in `provider`"

/-- The answer to a query in which a name occurs more than once. -/
def badQuery (name : String) : Http.Response :=
  .text 400 ("Failed to deserialize query string: duplicate field `" ++ name ++ "`")

/-- Greets. -/
def hello : Handling Outcome :=
  .count (.done (.ofResponse (.text 200 "Hello, World!")))

/-- Sends the test message. -/
def sendMail (state : State) (around : Surroundings) : Handling Outcome :=
  .count
    (match around.deliver (state.config.mail.relay state.config.skipVerify) Mail.testMessage with
    | .ok () => .done ⟨.text 200 "Sent", [], true⟩
    | .error error => .done (.ofResponse (serviceFailure error.message)))

/-- Asks for the authorization models. -/
def listModels (state : State) (around : Surroundings) : Handling Outcome :=
  .count
    (match state.authz with
    | none => .done (.ofResponse (serviceFailure "OpenFGA client is not configured"))
    | some client =>
      let (result, exchanges) := client.listModels around.services
      match result with
      | .ok _ => .done ⟨.text 200 "Listed authorization models", exchanges, false⟩
      | .error error => .done ⟨serviceFailure error.message, exchanges, false⟩)

/-- Hands out the text of the configuration. -/
def userDefinedConfig (state : State) : Handling Outcome :=
  .count (.done (.ofResponse (.json 200 (Json.writeOptionalText state.config.userDefined))))

/-- Tells whether the database is in order. -/
def migrateStatus (state : State) (around : Surroundings) : Handling Outcome :=
  match around.probe state.config.connectString with
  | .ok _ => .done (.ofResponse (.text 200 "SUCCESS"))
  | .error _ => .done (.ofResponse (.text 200 "FAILURE"))

/-- Answers a callback. -/
def respondToCallback (state : State) (around : Surroundings) (provider : String)
    (request : Http.Request) : Outcome :=
  match CallbackQuery.ofPairs (Url.formPairs (request.target.query.getD "")) with
  | .error name => .ofResponse (badQuery name)
  | .ok query =>
    let (response, exchanges) :=
      callback state around.readers around.services provider query request.cookies
    ⟨response, exchanges, false⟩

/-- Answers with the provider of a path. -/
def withProvider (capture : String) (answer : String → Outcome) : Outcome :=
  match captureText? capture with
  | some provider => answer provider
  | none => .ofResponse badCapture

/-- Handles a request on a route, of whose path the capture takes a part. -/
def handle (state : State) (around : Surroundings) (request : Http.Request) (capture : String) :
    Route → Handling Outcome
  | .hello => hello
  | .sendMail => sendMail state around
  | .listModels => listModels state around
  | .userDefinedConfig => userDefinedConfig state
  | .migrateStatus => migrateStatus state around
  | .callback =>
    .done (withProvider capture fun provider => respondToCallback state around provider request)
  | .logout => .done (withProvider capture fun _ => .ofResponse (logout state))
  | .login =>
    .done (withProvider capture fun provider => .ofResponse (login state around.draws provider))
  | .profile => .done (.ofResponse (profile state request.cookies))

/-- Handles a request on a route of the application, if the route answers its method. -/
def handleOn (state : State) (around : Surroundings) (request : Http.Request)
    (captures : List String) (route : Route) : Handling Outcome :=
  if route.anyMethod || request.reads then
    handle state around request (captures.head?.getD "") route
  else .done (.ofResponse .readOnly)

/-- Handles a request on the routes of the application. -/
def dispatch (state : State) (around : Surroundings) (request : Http.Request) :
    Handling Outcome :=
  match Route.ofPath? request.path with
  | none => .done (.ofResponse (.empty 404))
  | some (route, captures) => handleOn state around request captures route

/-- Answers a request for the metrics. -/
def scrape (counter : Metrics.Counter) (request : Http.Request) : Outcome :=
  if request.reads then .ofResponse (.typed 200 Metrics.contentType (Metrics.render counter))
  else .ofResponse .readOnly

/-- A port with what is served there. -/
inductive Entry where
  /-- The routes of the application, and the metrics if both have one port. -/
  | main
  /-- The routes of the application alone. -/
  | application
  /-- The metrics alone. -/
  | metrics
deriving DecidableEq, Repr

/-- Whether the metrics are served on the port of the application. -/
def State.sharesPort (state : State) : Bool :=
  state.config.metrics.port == state.config.port

/-- Whether a request asks for the metrics. -/
def State.isScrape (state : State) (request : Http.Request) : Bool :=
  request.path == state.config.metrics.path

/-- What has been counted: requests, and deliveries of mail. -/
structure Tally where
  requests : Metrics.Counter
  deliveries : Nat
deriving DecidableEq, Repr

/-- Nothing counted. -/
def Tally.zero : Tally := ⟨.zero, 0⟩

/-- Whether a request is answered by the routes of the application. -/
def Entry.reachesApplication (state : State) (request : Http.Request) : Entry → Bool
  | .main => !(state.sharesPort && state.isScrape request)
  | .application => true
  | .metrics => false

/-- Handles a request that came in somewhere; a scrape shows what has been counted at the end. -/
def handling (state : State) (entry : Entry) (around : Surroundings) (request : Http.Request) :
    Handling (Metrics.Counter → Outcome) :=
  if entry.reachesApplication state request then
    (dispatch state around request).map fun outcome _ => outcome
  else if state.isScrape request then .done fun counter => scrape counter request
  else .done fun _ => .ofResponse (.empty 404)

/-- Lets a request with a method be handled: what is sent back, and what has been counted then. -/
def Tally.settle (tally : Tally) (method : String)
    (handling : Handling (Metrics.Counter → Outcome)) : Outcome × Tally :=
  let (answer, requests) := handling.run tally.requests
  let outcome := (answer requests).forMethod method
  (outcome, ⟨requests, tally.deliveries + outcome.delivered.toNat⟩)

/-- Answers a request that came in somewhere. -/
def serve (state : State) (entry : Entry) (tally : Tally) (around : Surroundings)
    (request : Http.Request) : Outcome × Tally :=
  tally.settle request.method (handling state entry around request)

end Gatehouse.App
