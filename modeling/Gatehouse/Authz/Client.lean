import Gatehouse.Authz.Error
import Gatehouse.Authz.Models
import Gatehouse.Http.Exchange

/-!
# The authorization client

Asks the authorization service for the models of one store.  A question is asked at most
once: there is no second try, and a redirection is an answer like any other.
-/

namespace Gatehouse.Authz

/-- A client of the authorization service, for one store. -/
structure Client where
  /-- The address of the service without slashes at its end. -/
  apiUrl : String
  storeId : String
  token : Option String
deriving DecidableEq, Repr

namespace Client

/-- The client with an address, a store and a token; an empty token is none. -/
def ofSettings (apiUrl storeId : String) (token : Option String) : Except AuthzError Client :=
  if (Text.trim apiUrl).isEmpty then .error (.invalidInput "api url is required")
  else if (Text.trim storeId).isEmpty then .error (.invalidInput "store id is required")
  else .ok ⟨Text.trimSlashes apiUrl, storeId, token.filter (!·.isEmpty)⟩

/-- The address of the models of the store. -/
def modelsUrl (client : Client) : String :=
  client.apiUrl ++ "/stores/" ++ client.storeId ++ "/authorization-models"

/-- What a reply to the question for the models says. -/
def readReply (url : Url) : Http.Reply → Except AuthzError ModelsPage
  | .answered status _ body =>
    if Http.isSuccess status then
      match ModelsPage.ofJson body with
      | .ok page => .ok page
      | .error _ => .error (.invalidResponse "error decoding response body")
    else
      .error (.requestFailed status (.ofList (Utf8.decodeLossy body)))
  | .unreachable => .error (.connectionFailed (Http.CallFault.unanswered url.text).message)
  | .dropped => .error (.connectionFailed (Http.CallFault.unanswered url.text).message)

/-- Asks for the models of the store: what the service answers, and what was exchanged. -/
def listModels (client : Client) (services : Http.Services) :
    Except AuthzError ModelsPage × List Http.Exchange :=
  match Http.getCall client.modelsUrl client.token with
  | .error fault => (.error (.connectionFailed fault.message), [])
  | .ok (url, call) =>
    let reply := services [] call
    (readReply url reply, [⟨call, reply⟩])

end Client

end Gatehouse.Authz
