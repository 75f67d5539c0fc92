import Gatehouse.Http.Response
import Gatehouse.Json.Writer
import Gatehouse.Mail.Error
import Gatehouse.Oidc.Error
import Gatehouse.Session.User

/-!
# Failures as responses

How each kind of failure of a handler looks to the browser.
-/

namespace Gatehouse.App

/-- A failure of a handler that talks to another service: a JSON object with the message. -/
def serviceFailure (message : String) : Http.Response :=
  .json 500 (Json.writeObject [("message", Json.writeText message)])

/-- Why a login request failed. -/
inductive LoginFailure where
  /-- The login was asked for at a provider that is not registered. -/
  | unknownProvider (error : Oidc.LoginError)
  | login (error : Oidc.LoginError)
  | session (error : Session.SessionError)
deriving DecidableEq, Repr

/-- The response to a failed login request. -/
def LoginFailure.response : LoginFailure → Http.Response
  | .unknownProvider error => .text 400 error.message
  | .login error => .text 500 error.message
  | .session error => .text 500 error.message

/-- Why there is no profile page. -/
inductive ProfileFailure where
  | notAuthenticated
  | session (error : Session.SessionError)
deriving DecidableEq, Repr

/-- The response in place of a profile page. -/
def ProfileFailure.response : ProfileFailure → Http.Response
  | .notAuthenticated => .text 403 "User not authenticated."
  | .session error => .text 500 error.message

end Gatehouse.App
