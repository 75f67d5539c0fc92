import Gatehouse.Http.Pattern
import Gatehouse.Text.Ascii

/-!
# Routers

A router is put together from routes.  The path of a route is written with its captures in
braces.  Where several routes match a path, segment by segment a literal comes before a
capture.
-/

namespace Gatehouse.Http

/-- The name of a capture that is written in braces. -/
def captureName? (segment : List Char) : Option (List Char) :=
  match segment with
  | '\x7b' :: rest =>
    let name := rest.dropLast
    if rest.getLast? = some '\x7d' ∧ !name.isEmpty ∧
        name.all (fun c => Ascii.isAlphanumeric c || c == '_') then
      some name
    else none
  | _ => none

/-- A segment as it is written in the path of a route. -/
def Segment.ofText (text : String) : Segment :=
  match captureName? text.toList with
  | some name => .capture (.ofList name)
  | none => .literal text

/-- The pattern that the path of a route stands for. -/
def readPattern (path : String) : List Segment :=
  (pathSegments path).map .ofText

/-- Whether a segment can stand in the path of a route: it does not begin with a colon or an
    asterisk, and has braces only around the name of a capture. -/
def isRouteSegment (text : String) : Bool :=
  text.toList.head? != some ':' && text.toList.head? != some '*' &&
    ((captureName? text.toList).isSome || text.toList.all fun c => c != '\x7b' && c != '\x7d')

/-- Whether a text can be the path of a route. -/
def isRoutePath (path : String) : Bool :=
  path.toList.head? == some '/' && (pathSegments path).all isRouteSegment

/-- Whether two patterns differ at most in the names of their captures. -/
def samePattern : List Segment → List Segment → Bool
  | [], [] => true
  | .literal s :: pattern, .literal t :: other => s == t && samePattern pattern other
  | .capture _ :: pattern, .capture _ :: other => samePattern pattern other
  | _, _ => false

/-- Routes whose patterns go on behind a literal segment. -/
def behindLiteral {α : Type} (segment : String) (rows : List (List Segment × α)) :
    List (List Segment × α) :=
  rows.filterMap fun row =>
    match row.1 with
    | .literal text :: pattern => if segment = text then some (pattern, row.2) else none
    | _ => none

/-- Routes whose patterns go on behind a capture. -/
def behindCapture {α : Type} (rows : List (List Segment × α)) : List (List Segment × α) :=
  rows.filterMap fun row =>
    match row.1 with
    | .capture _ :: pattern => some (pattern, row.2)
    | _ => none

/-- The first target in a walk along the segments of a path, with what its captures take.  A
    literal is tried first, and the walk comes back to a capture if it does not lead on. -/
def walk {α : Type} : List String → List (List Segment × α) → Option (α × List String)
  | [], rows => (rows.find? (·.1.isEmpty)).map fun row => (row.2, [])
  | s :: segments, rows =>
    (walk segments (behindLiteral s rows)).or
      (if s.isEmpty && segments.isEmpty then none
      else (walk segments (behindCapture rows)).map fun found => (found.1, s :: found.2))

/-- Routes in the order in which they were added, with what they lead to. -/
structure Router (α : Type) where
  routes : List (String × α)
deriving DecidableEq, Repr

/-- Whether a router that has some paths refuses another one. -/
abbrev Refusal := (existing : List String) → (path : String) → Bool

/-- Refuses what cannot be the path of a route, and a pattern that is there already. -/
def Refusal.usual : Refusal :=
  fun existing path =>
    !isRoutePath path || existing.any fun other => samePattern (readPattern other) (readPattern path)

namespace Router

variable {α : Type}

/-- A router without routes. -/
def empty : Router α := ⟨[]⟩

/-- Adds a route, unless it is refused. -/
def add? (refuses : Refusal) (router : Router α) (route : String × α) : Option (Router α) :=
  if refuses (router.routes.map (·.1)) route.1 then none else some ⟨router.routes ++ [route]⟩

/-- Adds routes in turn, unless one of them is refused. -/
def addAll? (refuses : Refusal) (router : Router α) (routes : List (String × α)) :
    Option (Router α) :=
  routes.foldlM (add? refuses) router

/-- Takes over the routes of another router, unless one of them is refused. -/
def merge? (refuses : Refusal) (router other : Router α) : Option (Router α) :=
  router.addAll? refuses other.routes

/-- The patterns of the routes. -/
def rows (router : Router α) : List (List Segment × α) :=
  router.routes.map fun route => (readPattern route.1, route.2)

/-- Where a path leads, with what is captured on the way. -/
def find? (router : Router α) (path : String) : Option (α × List String) :=
  walk (pathSegments path) router.rows

end Router

end Gatehouse.Http
