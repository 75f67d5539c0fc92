import Gatehouse.Cookie.SetCookie

/-!
# A browser

What a user agent keeps of the cookies that responses set: the raw text of each value
under the raw text of its name.  It sends everything that it holds with each request,
sorted by name, in one header.
-/

namespace Gatehouse.Cookie

/-- The cookies that a browser holds, sorted by name, each name once. -/
structure Browser where
  held : List (String × String)
deriving DecidableEq, Repr

namespace Browser

/-- A browser without cookies. -/
def empty : Browser := ⟨[]⟩

/-- Puts a pair into sorted pairs, in place of one of the same name. -/
def insert (name value : String) : List (String × String) → List (String × String)
  | [] => [(name, value)]
  | (other, kept) :: rest =>
    if name = other then (name, value) :: rest
    else if name < other then (name, value) :: (other, kept) :: rest
    else (other, kept) :: insert name value rest

/-- The value under a name. -/
def get? (browser : Browser) (name : String) : Option String :=
  (browser.held.find? (·.1 == name)).map (·.2)

/-- Holds a value under a name. -/
def set (browser : Browser) (name value : String) : Browser :=
  ⟨insert name value browser.held⟩

/-- Lets go of a name. -/
def drop (browser : Browser) (name : String) : Browser :=
  ⟨browser.held.filter (·.1 != name)⟩

/-- Holds the value of one name under another one; an absent value is empty. -/
def copy (browser : Browser) (name other : String) : Browser :=
  browser.set other ((browser.get? name).getD "")

/-- The first occurrence of a text replaced by another one. -/
def replaceFirst (old new : List Char) : List Char → List Char
  | [] => if old.isEmpty then new else []
  | c :: cs =>
    if old.isPrefixOf (c :: cs) then new ++ (c :: cs).drop old.length
    else c :: replaceFirst old new cs

/-- Replaces the first occurrence of a text in the value of a name; an absent value is empty. -/
def tamper (browser : Browser) (name old new : String) : Browser :=
  let value := (browser.get? name).getD ""
  browser.set name (.ofList (replaceFirst old.toList new.toList value.toList))

/-- Something that is done to the cookies of a browser from outside. -/
inductive Edit where
  | set (name value : String)
  | drop (name : String)
  /-- Replaces the first occurrence of a text in the value of a name. -/
  | tamper (name old new : String)
  /-- Holds the value of one name under another one. -/
  | copy (name other : String)
deriving DecidableEq, Repr

/-- Does something to the cookies of a browser. -/
def edit (browser : Browser) : Edit → Browser
  | .set name value => browser.set name value
  | .drop name => browser.drop name
  | .tamper name old new => browser.tamper name old new
  | .copy name other => browser.copy name other

/-- Takes in a `Set-Cookie` header: the cookie is held, or dropped when its lifetime is zero. -/
def absorb (browser : Browser) (header : String) : Browser :=
  match Reading.ofHeader? header with
  | none => browser
  | some reading =>
    if reading.attributes.contains "Max-Age=0" then browser.drop reading.name
    else browser.set reading.name reading.value

/-- Takes in the headers of a response. -/
def absorbAll (browser : Browser) (headers : List String) : Browser :=
  headers.foldl absorb browser

/-- The names that are held. -/
def names (browser : Browser) : List String :=
  browser.held.map (·.1)

/-- The `Cookie` headers of a request. -/
def cookieHeaders (browser : Browser) : List String :=
  match browser.held with
  | [] => []
  | held => [Text.joinWith "; " (held.map fun (name, value) => name ++ "=" ++ value)]

end Browser

end Gatehouse.Cookie
