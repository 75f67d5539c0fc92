import Gatehouse.Http.Request
import Gatehouse.Http.Response
import Gatehouse.Http.Status
import Gatehouse.Text.Blank

/-!
# Messages on a connection

The head of a request as lines, and a response as the text that answers it.
-/

namespace Gatehouse.Http

/-- The end of a line. -/
def lineEnd : String := "\r\n"

/-- The name of a header field in lower case, and its value. -/
def readField? (line : String) : Option (String × String) :=
  (Text.cutAt? (· == ':') line.toList).map fun (name, value) =>
    (Ascii.lowerString (.ofList name), Text.trim (.ofList value))

/-- The request whose head has the given lines. -/
def Request.ofHead? : List String → Option Request
  | [] => none
  | first :: fields =>
    match Text.words first with
    | [method, target, _] =>
      Request.ofTexts? method target
        ((fields.filterMap readField?).filterMap fun (name, value) =>
          if name = "cookie" then some value else none)
    | _ => none

/-- The header fields of a response. -/
def Response.fields (response : Response) : List (String × String) :=
  (response.contentType.map fun s => ("content-type", s)).toList ++
    (response.location.map fun s => ("location", s)).toList ++
    (response.allow.map fun s => ("allow", s)).toList ++
    response.setCookie.map (fun s => ("set-cookie", s)) ++
    [("content-length", toString response.body.utf8ByteSize)]

/-- The text of a response. -/
def Response.wire (response : Response) : String :=
  "HTTP/1.1 " ++ statusText response.status ++ lineEnd ++
    response.fields.foldl (fun text (name, value) => text ++ name ++ ": " ++ value ++ lineEnd) "" ++
    lineEnd ++ response.body

end Gatehouse.Http
