import Gatehouse.Http.Pattern

/-!
# The path of the metrics

Where the metrics may be served: at a literal path, and on the application's own port
only at a path that the application does not serve.
-/

namespace Gatehouse.Settings

/-- Whether a segment would be read as a wildcard. -/
def isWildcard (segment : List Char) : Bool :=
  match segment with
  | c :: _ => c == '*' || c == ':'
  | [] => false

/-- Whether a path is literal: without braces, and without wildcards in front of a segment. -/
def isLiteralPath (path : String) : Bool :=
  !path.toList.any (fun c => c == '\x7b' || c == '\x7d') &&
    !(Text.splitBy (· == '/') path.toList).any isWildcard

/-- The paths that the application serves, with their captures in braces. -/
def applicationPaths : List String :=
  ["/", "/send_mail", "/openfga/list-authorization-models", "/env/user-defined-config",
    "/postgresql/migratestatus", "/profile", "/login/\x7bprovider\x7d",
    "/logout/\x7bprovider\x7d", "/auth/\x7bprovider\x7d/callback"]

/-- Whether a segment is in braces. -/
def isBraced (segment : String) : Bool :=
  segment.toList.head? == some '\x7b' && segment.toList.getLast? == some '\x7d'

/-- Whether a path would be routed to a route, segment by segment: one in braces stands for any
    segment that is not empty. -/
def routeMatches (route path : String) : Bool :=
  let segments := Http.pathSegments route
  let asked := Http.pathSegments path
  segments.length == asked.length &&
    (segments.zip asked).all fun (r, s) => isBraced r && !s.isEmpty || r == s

/-- Whether a path is served by the application. -/
def isApplicationPath (path : String) : Bool :=
  applicationPaths.any (routeMatches · path)

/-- What keeps a path from serving the metrics. -/
def metricsPathFault? (path : String) (sharedPort : Bool) : Option String :=
  if path.toList.head? ≠ some '/' then some "must start with '/'"
  else if !isLiteralPath path then some (path ++ " must be a literal path without captures")
  else if sharedPort && isApplicationPath path then
    some (path ++ " is already served by the application")
  else none

end Gatehouse.Settings
