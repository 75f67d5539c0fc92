/-!
# Authorization errors
-/

namespace Gatehouse.Authz

/-- Why the authorization service gave no models. -/
inductive AuthzError where
  /-- The client lacks a setting. -/
  | invalidInput (details : String)
  /-- No response arrived. -/
  | connectionFailed (details : String)
  /-- The service answered with another status than success. -/
  | requestFailed (status : Nat) (details : String)
  /-- The response is not a page of models. -/
  | invalidResponse (details : String)
deriving DecidableEq, Repr

/-- The wording of an error. -/
def AuthzError.message : AuthzError → String
  | .invalidInput details => "invalid authorization input: " ++ details
  | .connectionFailed details => "failed to connect to authorization service: " ++ details
  | .requestFailed status details =>
    "authorization request failed with status " ++ toString status ++ ": " ++ details
  | .invalidResponse details => "invalid authorization response: " ++ details

end Gatehouse.Authz
