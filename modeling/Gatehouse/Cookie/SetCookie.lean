import Gatehouse.Http.Response
import Gatehouse.Text.Blank
import Gatehouse.Text.Percent

/-!
# Cookies of a response

A cookie with its attributes and the text of its `Set-Cookie` header.  A user agent
reads the header back by cutting it at semicolons; the first piece is the pair and
every later one an attribute.
-/

namespace Gatehouse.Cookie

/-- How long a cookie lives. -/
inductive Lifetime where
  /-- So many seconds. -/
  | seconds (count : Int)
  /-- Not at all: the browser is to drop the cookie. -/
  | over
deriving DecidableEq, Repr

/-- A cookie that a response sets. -/
structure SetCookie where
  name : String
  value : String
  httpOnly : Bool
  secure : Bool
  path : String
  lifetime : Lifetime
deriving DecidableEq, Repr

/-- The characters of names and values that stand for themselves. -/
def keepsPlain (c : Char) : Bool :=
  Ascii.isVisible c && !"\"<>`#?\x7b\x7d/:;=@[\\]^|%(),".toList.contains c

/-- A name or a value as it stands in the header. -/
def encodePart (s : String) : String :=
  .ofList (Percent.encode keepsPlain s.toList)

/-- The attributes about the lifetime.  A cookie that is over also names a day in the past,
    for browsers that do not know `Max-Age`. -/
def Lifetime.attributes : Lifetime → List String
  | .seconds count => ["Max-Age=" ++ toString count]
  | .over => ["Max-Age=0", "Expires=Thu, 01 Jan 1970 00:00:00 GMT"]

/-- The attributes of a cookie, in the order in which they are written. -/
def SetCookie.attributes (c : SetCookie) : List String :=
  (if c.httpOnly then ["HttpOnly"] else []) ++ ["SameSite=Lax"] ++
    (if c.secure then ["Secure"] else []) ++ ["Path=" ++ c.path] ++ c.lifetime.attributes

/-- The text of the header. -/
def SetCookie.header (c : SetCookie) : String :=
  Text.joinWith "; " ((encodePart c.name ++ "=" ++ encodePart c.value) :: c.attributes)

/-- The headers of the cookies of a response; one that cannot be a header is left out. -/
def headers (cookies : List SetCookie) : List String :=
  (cookies.map (·.header)).filter Http.isFieldValue

/-- A header as a user agent reads it: the pair, and the attributes without white space. -/
structure Reading where
  name : String
  value : String
  attributes : List String
deriving DecidableEq, Repr

/-- Reads a header as a user agent does. -/
def Reading.ofHeader? (header : String) : Option Reading := do
  match Text.splitBy (· == ';') header.toList with
  | [] => none
  | first :: more =>
    let (name, value) ← Text.cutAt? (· == '=') first
    some
      ⟨.ofList name, .ofList value,
        more.map fun piece => .ofList (Text.trimBy Text.isBlank piece)⟩

end Gatehouse.Cookie
