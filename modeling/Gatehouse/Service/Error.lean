import Gatehouse.Settings.Error

/-!
# Errors that end the process
-/

namespace Gatehouse.Service

/-- Why the process did not start, or did not stop as it should. -/
inductive StartupError where
  | config (error : Settings.ConfigError)
  /-- The client for outgoing requests cannot be built. -/
  | httpClient (reason : String)
  /-- The identity provider cannot be registered. -/
  | oidc (reason : String)
  /-- A port cannot be listened on. -/
  | bind (port : Nat) (reason : String)
  /-- A server failed while it ran. -/
  | serve (server reason : String)
  /-- A request outlived the time that was left to it. -/
  | shutdownTimeout (server : String) (graceMs : Nat)
deriving DecidableEq, Repr

/-- The wording of an error. -/
def StartupError.message : StartupError → String
  | .config error => error.message
  | .httpClient reason => "failed to build HTTP client: " ++ reason
  | .oidc reason => "failed to register OIDC provider: " ++ reason
  | .bind port reason => "failed to bind port " ++ toString port ++ ": " ++ reason
  | .serve server reason => server ++ " server failed: " ++ reason
  | .shutdownTimeout server graceMs =>
    server ++ " server did not shut down within " ++ toString (graceMs / 1000) ++ "s"

end Gatehouse.Service
