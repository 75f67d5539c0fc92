import Gatehouse.Http.Response
import Gatehouse.Http.Target
import Gatehouse.Text.Base64
import Gatehouse.Text.Percent
import Gatehouse.Url.Parser

/-!
# Exchanges with other services

Requests that the application sends itself, and what comes back.  How the other side
behaves is a function of the requests that it has seen before and of the new one, so a
statement about every such function holds whatever the other side does.
-/

namespace Gatehouse.Http

/-- A request to another service.  Each of the three fields may occur a number of times. -/
structure Call where
  method : String
  url : String
  authorization : List String
  accept : List String
  contentType : List String
  body : String
deriving DecidableEq, Repr

/-- What comes back. -/
inductive Reply where
  /-- No connection could be made, so the request did not arrive. -/
  | unreachable
  /-- The request arrived, but the connection was closed without an answer. -/
  | dropped
  | answered (status : Nat) (contentType : Option String) (body : List UInt8)
deriving DecidableEq, Repr

/-- A request with what came back. -/
structure Exchange where
  call : Call
  reply : Reply
deriving DecidableEq, Repr

/-- Whether the request of an exchange arrived. -/
def Exchange.arrived (exchange : Exchange) : Bool :=
  exchange.reply != .unreachable

/-- The behaviour of other services: their reply to a request after earlier ones. -/
abbrev Services := (earlier : List Call) → Call → Reply

/-- Services that cannot be reached. -/
def Services.unreachable : Services :=
  fun _ _ => .unreachable

/-- Why a request was not answered. -/
inductive CallFault where
  /-- The request cannot be put together. -/
  | unusable
  /-- The address cannot be asked for. -/
  | unusableUrl (url : String)
  /-- No answer came back. -/
  | unanswered (url : String)
deriving DecidableEq, Repr

/-- The wording of a fault. -/
def CallFault.message : CallFault → String
  | .unusable => "builder error"
  | .unusableUrl url => "builder error for url (" ++ url ++ ")"
  | .unanswered url => "error sending request for url (" ++ url ++ ")"

/-- The value of an authorization field that shows a token. -/
def bearer (token : String) : String :=
  "Bearer " ++ token

/-- The value of an authorization field that shows a name and a password. -/
def basic (user password : String) : String :=
  "Basic " ++ .ofList (Base64.encode Base64.usual (Utf8.octets (user ++ ":" ++ password)))

/-- Whether an answer with a status is a success. -/
def isSuccess (status : Nat) : Bool :=
  200 ≤ status && status < 300

/-- A URL without its user and password, which become the value of an authorization field.  A user
    that is not UTF-8 stays where it is, and such a password is dropped. -/
def takeCredentials (url : Url) : Url × List String :=
  match url.authority with
  | none => (url, [])
  | some authority =>
    match Percent.decodeText? authority.username.toList with
    | none => (url, [])
    | some user =>
      let password := authority.password.bind fun s => Percent.decodeText? s.toList
      if user.isEmpty && password.isNone then (url, [])
      else
        ({ url with authority := some { authority with username := "", password := none } },
          [basic (.ofList user) (.ofList (password.getD []))])

/-- Whether a URL has a host. -/
def hasHost (url : Url) : Bool :=
  match url.authority with
  | some authority => !authority.host.text.isEmpty
  | none => false

/-- Whether a URL is one that can be asked for. -/
def isReachable (url : Url) : Bool :=
  (url.scheme == "http" || url.scheme == "https") && (Target.parse url.text).isOk

/-- The request that reads a URL, with a token if there is one. -/
def getCall (address : String) (token : Option String) : Except CallFault (Url × Call) :=
  match Url.parse address with
  | .error _ => .error .unusable
  | .ok url =>
    if !hasHost url then .error (.unusableUrl url.text)
    else
      let (url, credentials) := takeCredentials url
      let tokens := (token.map bearer).toList
      if !tokens.all isFieldValue then .error .unusable
      else if !isReachable url then .error (.unusableUrl url.text)
      else
        .ok
          (url,
            { method := "GET"
              url := { url with fragment := none }.text
              authorization := credentials ++ tokens
              accept := ["*/*"]
              contentType := []
              body := "" })

end Gatehouse.Http
