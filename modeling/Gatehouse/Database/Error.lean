/-!
# Probe errors
-/

namespace Gatehouse.Database

/-- Why the database could not be probed. -/
inductive ProbeError where
  | notConfigured
  | connection (reason : String)
  | query (text reason : String)
deriving DecidableEq, Repr

/-- The wording of an error. -/
def ProbeError.message : ProbeError → String
  | .notConfigured => "database connection string is not set"
  | .connection reason => "database connection failed: " ++ reason
  | .query text reason => "query '" ++ text ++ "' failed: " ++ reason

end Gatehouse.Database
