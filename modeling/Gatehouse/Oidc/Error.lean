/-!
# Login errors

What can go wrong between the start of a login and a known user.
-/

namespace Gatehouse.Oidc

/-- Why a login does not go on. -/
inductive LoginError where
  /-- No provider is registered under the name. -/
  | unknownProvider (name : String)
  /-- No login in progress belongs to the request. -/
  | noFlow
  /-- The callback brings back another token than the one that was sent out. -/
  | stateMismatch
  | missingCode
  /-- The provider reports an error. -/
  | provider (name reason : String)
  /-- The provider's settings cannot be used. -/
  | configuration (reason : String)
  | tokenExchange (reason : String)
  | userInfo (reason : String)
deriving DecidableEq, Repr

/-- The wording of an error. -/
def LoginError.message : LoginError → String
  | .unknownProvider name => "no provider for " ++ name ++ " exists"
  | .noFlow => "could not find a matching session for this request"
  | .stateMismatch => "state token mismatch"
  | .missingCode => "callback is missing the authorization code"
  | .provider name reason => "OIDC provider '" ++ name ++ "' error: " ++ reason
  | .configuration reason => "OIDC configuration error: " ++ reason
  | .tokenExchange reason => "OIDC token exchange error: " ++ reason
  | .userInfo reason => "OIDC user info error: " ++ reason

end Gatehouse.Oidc
