/-!
# Configuration errors
-/

namespace Gatehouse.Settings

/-- Why the variables make no configuration. -/
inductive ConfigError where
  /-- A required variable is absent or empty. -/
  | missing (variableName : String)
  /-- A variable cannot be used. -/
  | invalid (variableName reason : String)
  /-- The variables have not the types that are expected of them. -/
  | source (reason : String)
deriving DecidableEq, Repr

/-- The wording of an error. -/
def ConfigError.message : ConfigError → String
  | .missing variableName => variableName ++ " must be set"
  | .invalid variableName reason => variableName ++ " is invalid: " ++ reason
  | .source reason => "failed to read configuration: " ++ reason

end Gatehouse.Settings
