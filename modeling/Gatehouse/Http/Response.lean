import Gatehouse.Text.Ascii

/-!
# Responses

What the application answers: a status, the header fields that it sets, and a body.
-/

namespace Gatehouse.Http

/-- Whether a text may be the value of a header field: it holds no control character but tabs. -/
def isFieldValue (s : String) : Bool :=
  s.toList.all fun c => c == '\t' || !Ascii.isControl c

/-- A response. -/
structure Response where
  status : Nat
  contentType : Option String
  location : Option String
  allow : Option String
  setCookie : List String
  body : String
deriving DecidableEq, Repr

namespace Response

/-- A response with a status and nothing else. -/
def empty (status : Nat) : Response :=
  ⟨status, none, none, none, [], ""⟩

/-- A response of a media type. -/
def typed (status : Nat) (contentType body : String) : Response :=
  { empty status with contentType := some contentType, body := body }

/-- A response in plain text. -/
def text (status : Nat) (body : String) : Response :=
  typed status "text/plain; charset=utf-8" body

/-- A page. -/
def html (body : String) : Response :=
  typed 200 "text/html; charset=utf-8" body

/-- A response in JSON. -/
def json (status : Nat) (body : String) : Response :=
  typed status "application/json" body

/-- A response that sends the browser to another address.  An address that cannot stand in a
    header makes it a failure. -/
def redirect (location : String) : Response :=
  if isFieldValue location then { empty 307 with location := some location }
  else text 500 "failed to parse header value"

/-- A response that also sets cookies. -/
def setting (response : Response) (headers : List String) : Response :=
  { response with setCookie := headers }

/-- The answer to a method that is not allowed. -/
def readOnly : Response :=
  { empty 405 with allow := some "GET,HEAD" }

/-- A response as it goes out for a method: one to `HEAD` has no body, and neither has a good one
    to `CONNECT`. -/
def forMethod (response : Response) (method : String) : Response :=
  if method = "HEAD" ∨ (method = "CONNECT" ∧ 200 ≤ response.status ∧ response.status < 300) then
    { response with body := "" }
  else response

end Response

end Gatehouse.Http
