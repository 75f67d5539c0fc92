import Gatehouse.Http.Exchange
import Gatehouse.Http.Status
import Gatehouse.Oidc.Endpoints
import Gatehouse.Session.User

/-!
# From a code to a user

The code of a callback is exchanged for a token, and the token shows who the user is.
The provider is asked at most twice, and for the user only when it gave a token.  How its
replies are read is a parameter, so that what is said of every login holds of each way to
read them.
-/

namespace Gatehouse.Oidc

/-- The media type of JSON. -/
def jsonType : String := "application/json"

/-- Why the provider's reply is of no use, or why it could not be asked. -/
inductive ExchangeFault where
  /-- No answer came back. -/
  | unanswered
  /-- The provider answers with an error of its own. -/
  | refused (reason : String)
  /-- The answer to the question for the user has the wrong status. -/
  | wrongStatus (status : Nat)
  /-- The answer cannot be read. -/
  | unreadable
  /-- The answer is signed, and no key to check it with is known. -/
  | unverifiable
  | other (reason : String)
deriving DecidableEq, Repr

/-- The wording of a fault. -/
def ExchangeFault.message : ExchangeFault → String
  | .unanswered => "Request failed"
  | .refused reason => "Server returned error response: " ++ reason
  | .wrongStatus status =>
    "Server returned invalid response with status " ++ Http.statusText status ++
      ": unexpected HTTP status code"
  | .unreadable => "Failed to parse server response"
  | .unverifiable => "Failed to verify claims"
  | .other reason => "Other error: " ++ reason

/-- Sends a request after earlier ones: the reply, and the exchange if it was sent. -/
def send (services : Http.Services) (earlier : List Http.Call) (url : Url) (call : Http.Call) :
    Except ExchangeFault Http.Reply × List Http.Exchange :=
  match Http.Target.parse url.text with
  | .error fault => (.error (.other ("failed to prepare request: " ++ fault.message)), [])
  | .ok _ =>
    if url.scheme == "http" || url.scheme == "https" then
      let reply := services earlier call
      (.ok reply, [⟨call, reply⟩])
    else (.error .unanswered, [])

/-- The request that exchanges a code for a token. -/
def tokenCall (provider : Provider) (endpoint : Url) (code verifier : String) : Http.Call where
  method := "POST"
  url := { endpoint with fragment := none }.text
  authorization :=
    [Http.basic (.ofList (Url.encodeForm provider.clientId))
      (.ofList (Url.encodeForm provider.clientSecret))]
  accept := [jsonType]
  contentType := ["application/x-www-form-urlencoded"]
  body :=
    Url.formText
      [("grant_type", "authorization_code"), ("code", code), ("code_verifier", verifier),
        ("redirect_uri", provider.redirectUrl)]

/-- The request for the user of a token. -/
def userCall (endpoint : Url) (token : String) : Http.Call where
  method := "GET"
  url := { endpoint with fragment := none }.text
  authorization := [Http.bearer token]
  accept := [jsonType]
  contentType := []
  body := ""

/-- What the application takes from what a provider says about a user. -/
structure UserClaims where
  /-- The address of the user, if there is one. -/
  email : Option String
deriving DecidableEq, Repr

/-- How the replies of a provider are read: the access token of the reply to a code, and what the
    reply to a token says about the user. -/
structure Readers where
  token : Http.Reply → Except ExchangeFault String
  claims : Http.Reply → Except ExchangeFault UserClaims

/-- Exchanges a code: the token, and what was exchanged. -/
def exchangeCode (readers : Readers) (services : Http.Services) (provider : Provider)
    (endpoints : Endpoints) (code verifier : String) :
    Except ExchangeFault String × List Http.Exchange :=
  let (reply, exchanges) :=
    send services [] endpoints.token (tokenCall provider endpoints.token code verifier)
  (reply.bind readers.token, exchanges)

/-- Asks for the user of a token, after earlier requests. -/
def askUser (readers : Readers) (services : Http.Services) (earlier : List Http.Call)
    (endpoints : Endpoints) (token : String) :
    Except ExchangeFault UserClaims × List Http.Exchange :=
  if Http.isFieldValue token then
    let (reply, exchanges) :=
      send services earlier endpoints.userInfo (userCall endpoints.userInfo token)
    (reply.bind readers.claims, exchanges)
  else
    (.error (.other "invalid access token"), [])

/-- Completes a login: the user of a code, and what was exchanged with the provider.  A user without
    an address has an empty one. -/
def complete (readers : Readers) (services : Http.Services) (provider : Provider)
    (code verifier : String) : Except LoginError Session.User × List Http.Exchange :=
  match Endpoints.ofProvider provider with
  | .error error => (.error error, [])
  | .ok endpoints =>
    match exchangeCode readers services provider endpoints code verifier with
    | (.error fault, exchanges) => (.error (.tokenExchange fault.message), exchanges)
    | (.ok token, exchanges) =>
      match askUser readers services (exchanges.map (·.call)) endpoints token with
      | (.error fault, more) => (.error (.userInfo fault.message), exchanges ++ more)
      | (.ok claims, more) => (.ok ⟨claims.email.getD "", provider.name⟩, exchanges ++ more)

end Gatehouse.Oidc
