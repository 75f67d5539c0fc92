import Gatehouse.App.Failure
import Gatehouse.App.State

/-!
# Logging in and out

A login sends the browser to the provider and remembers what it needs in a cookie.  The
provider sends it back to the callback, which asks the provider for the user only after
everything that the request brings back has been checked.
-/

namespace Gatehouse.App

/-- Whether a name is that of the registered provider. -/
def State.knows (state : State) (provider : String) : Bool :=
  provider == state.provider.name

/-- Begins a login at a provider. -/
def login (state : State) (draws : Oidc.Draws) (provider : String) : Http.Response :=
  if state.knows provider then
    match Oidc.Endpoints.ofProvider state.provider with
    | .error error => (LoginFailure.login error).response
    | .ok endpoints =>
      (Http.Response.redirect (Oidc.loginUrl state.provider endpoints draws)).setting
        (Cookie.headers [state.sessions.saveFlow (draws.flow state.provider.name)])
  else (LoginFailure.unknownProvider (.unknownProvider provider)).response

/-- What a callback looks at in its query. -/
structure CallbackQuery where
  code : Option String
  state : Option String
  error : Option String
  errorDescription : Option String
deriving DecidableEq, Repr

namespace CallbackQuery

/-- The names of the query that a callback looks at. -/
def names : List String :=
  ["code", "state", "error", "error_description"]

/-- The first name that occurs again, after names that have occurred. -/
def repeated? : (seen : List String) → List String → Option String
  | _, [] => none
  | seen, name :: rest =>
    if seen.contains name then some name else repeated? (name :: seen) rest

/-- What a callback looks at, or the name that occurs more than once. -/
def ofPairs (pairs : List (String × String)) : Except String CallbackQuery :=
  match repeated? [] ((pairs.map (·.1)).filter names.contains) with
  | some name => .error name
  | none =>
    .ok
      ⟨pairs.lookup "code", pairs.lookup "state", pairs.lookup "error",
        pairs.lookup "error_description"⟩

/-- The error that the provider reports. -/
def reason? (query : CallbackQuery) : Option String :=
  query.error.map fun reason =>
    match query.errorDescription with
    | some description => reason ++ ": " ++ description
    | none => reason

end CallbackQuery

/-- A callback that may be completed: its code, and the verifier of the login in progress. -/
structure Grant where
  code : String
  verifier : String
deriving DecidableEq, Repr

/-- The login in progress of a request, if it was begun at a provider. -/
def State.flowOf? (state : State) (provider : String) (cookies : List String) :
    Option Session.Flow :=
  (state.sessions.loadFlow? cookies).filter (·.provider == provider)

/-- Checks a callback: the provider is the registered one and reports no error, a login is in
    progress there, and the request brings back its token and a code. -/
def checkCallback (state : State) (provider : String) (query : CallbackQuery)
    (cookies : List String) : Except Oidc.LoginError Grant := do
  if !state.knows provider then
    .error (.unknownProvider provider)
  else
    match query.reason?, state.flowOf? provider cookies with
    | some reason, _ => .error (.provider provider reason)
    | none, none => .error .noFlow
    | none, some flow =>
      if query.state = some flow.csrfToken then
        match query.code with
        | some code => .ok ⟨code, flow.pkceVerifier⟩
        | none => .error .missingCode
      else .error .stateMismatch

/-- The response to a completed login. -/
def welcome (state : State) (user : Session.User) : Http.Response :=
  (Http.Response.redirect (state.config.baseUrl ++ "/profile")).setting
    (Cookie.headers [state.sessions.clearFlow, state.sessions.save user])

/-- Completes a login at a provider. -/
def callback (state : State) (readers : Oidc.Readers) (services : Http.Services)
    (provider : String) (query : CallbackQuery) (cookies : List String) :
    Http.Response × List Http.Exchange :=
  match checkCallback state provider query cookies with
  | .error error => ((LoginFailure.login error).response, [])
  | .ok grant =>
    let (result, exchanges) :=
      Oidc.complete readers services state.provider grant.code grant.verifier
    match result with
    | .error error => ((LoginFailure.login error).response, exchanges)
    | .ok user => (welcome state user, exchanges)

/-- Where a logout leads. -/
def State.home (state : State) : String :=
  if state.config.baseUrl.isEmpty then "/" else state.config.baseUrl

/-- Logs out, whoever is logged in. -/
def logout (state : State) : Http.Response :=
  (Http.Response.redirect state.home).setting
    (Cookie.headers [state.sessions.clearFlow, state.sessions.invalidate])

end Gatehouse.App
