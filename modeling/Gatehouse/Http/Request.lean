import Gatehouse.Http.Target

/-!
# Requests

What the application looks at in a request: the method, the target and the cookies.
-/

namespace Gatehouse.Http

/-- A request, with the values of its `Cookie` fields in order. -/
structure Request where
  method : String
  target : Target
  cookies : List String
deriving DecidableEq, Repr

namespace Request

/-- Whether a text may be a method. -/
def isMethod (s : String) : Bool :=
  !s.isEmpty && s.toList.all fun c => Ascii.isAlphanumeric c || "!#$%&'*+-.^_`|~".toList.contains c

/-- The request with a method and a target, if there is one. -/
def ofTexts? (method target : String) (cookies : List String) : Option Request :=
  if isMethod method then
    (Target.parse target).toOption.map fun target => ⟨method, target, cookies⟩
  else none

/-- The path that is asked for. -/
def path (request : Request) : String :=
  request.target.path

/-- Whether a request only reads. -/
def reads (request : Request) : Bool :=
  request.method == "GET" || request.method == "HEAD"

end Request

end Gatehouse.Http
