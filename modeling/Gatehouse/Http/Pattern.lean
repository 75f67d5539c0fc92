import Gatehouse.Text.Blank

/-!
# Path patterns

Patterns of request paths, segment by segment.  A literal segment matches itself.  A
capture matches any segment, even an empty one, except that it does not match an empty
segment at the end of a path.
-/

namespace Gatehouse.Http

/-- One segment of a pattern. -/
inductive Segment where
  | literal (text : String)
  | capture (name : String)
deriving DecidableEq, Repr

/-- The segments of a path; the one in front of the first slash is empty. -/
def pathSegments (path : String) : List String :=
  (Text.splitBy (· == '/') path.toList).map .ofList

/-- What a capture takes from segments that match a pattern, the last capture first.  Patterns
    here have at most one. -/
def matchSegments? : List Segment → List String → Option (List String)
  | [], [] => some []
  | .literal text :: pattern, s :: segments =>
    if s = text then matchSegments? pattern segments else none
  | .capture _ :: pattern, s :: segments =>
    if s.isEmpty && segments.isEmpty then none
    else (matchSegments? pattern segments).map (s :: ·)
  | _, _ => none

end Gatehouse.Http
