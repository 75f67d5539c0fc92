import Gatehouse.Authz.Client
import Gatehouse.Database.Probe
import Gatehouse.Http.Response
import Gatehouse.Mail.Relay
import Gatehouse.Oidc.Readers
import Gatehouse.Service.Error
import Gatehouse.Session.Store
import Gatehouse.Settings.Config

/-!
# The state of the application

What the application is made of once it has its configuration, and what surrounds it
while it answers a request.
-/

namespace Gatehouse.App

/-- The parts of the application. -/
structure State where
  config : Settings.Config
  sessions : Session.Store
  provider : Oidc.Provider
  /-- The client of the authorization service, if one is configured. -/
  authz : Option Authz.Client
deriving DecidableEq, Repr

/-- The client of the authorization service, or why there is none although an address is set. -/
def authzClient? (config : Settings.AuthzConfig) : Option (Except Authz.AuthzError Authz.Client) :=
  config.apiUrl.map fun apiUrl =>
    Authz.Client.ofSettings apiUrl (config.storeId.getD "") config.token

/-- The parts that a configuration makes. -/
def State.ofConfig (config : Settings.Config) : Except Service.StartupError State :=
  match Oidc.register config.provider with
  | .error error => .error (.oidc error.message)
  | .ok provider =>
    .ok
      { config := config
        sessions := .ofSecret config.session.secretKey config.session.options
        provider := provider
        authz := (authzClient? config.authz).bind (·.toOption) }

/-- What surrounds the application while it answers a request: other services and how the replies of
    the provider among them are read, the mail relay, the database, and what is drawn at random. -/
structure Surroundings where
  services : Http.Services
  readers : Oidc.Readers := .typed
  deliver : Mail.Settings → Mail.Message → Except Mail.MailError Unit
  probe : Option String → Except Database.ProbeError Database.Report
  draws : Oidc.Draws

/-- What a request brings about: the response, the exchanges with other services, and whether a
    mail was delivered. -/
structure Outcome where
  response : Http.Response
  exchanges : List Http.Exchange
  delivered : Bool
deriving DecidableEq, Repr

/-- A response and nothing else. -/
def Outcome.ofResponse (response : Http.Response) : Outcome :=
  ⟨response, [], false⟩

/-- An outcome as it is sent back to a request with a method. -/
def Outcome.forMethod (outcome : Outcome) (method : String) : Outcome :=
  { outcome with response := outcome.response.forMethod method }

end Gatehouse.App
