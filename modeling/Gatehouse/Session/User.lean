import Gatehouse.Json.Record
import Gatehouse.Json.Writer
import Gatehouse.Text.Base64

/-!
# Session values

Who is logged in, as the value of a session: a JSON object written in Base64 with the
alphabet for URLs, so that the value means nothing special in a cookie.
-/

namespace Gatehouse.Session

/-- A user that an identity provider vouched for. -/
structure User where
  email : String
  provider : String
deriving DecidableEq, Repr

/-- What can go wrong with session values and their cookies. -/
inductive SessionError where
  | encode (reason : String)
  | decode (reason : String)
  | invalidSignature (name : String)
deriving DecidableEq, Repr

/-- The wording of an error. -/
def SessionError.message : SessionError → String
  | .encode reason => "failed to encode session value: " ++ reason
  | .decode reason => "failed to decode session value: " ++ reason
  | .invalidSignature name => "session cookie '" ++ name ++ "' is not valid"

/-- A JSON text as a cookie value. -/
def wrap (json : String) : String :=
  .ofList (Base64.encode Base64.urlSafe (Utf8.octets json))

/-- The record in a cookie value, or why there is none. -/
def unwrap {α : Type} (reader : Json.Reader α) (value : String) : Except String α :=
  match Base64.decode (Utf8.octets value) with
  | .error fault => .error fault.message
  | .ok octets =>
    match Json.read reader octets with
    | .error fault => .error fault.message
    | .ok a => .ok a

/-- A user while it is being read. -/
structure UserDraft where
  email : Option String
  provider : Option String

/-- The JSON form of a user. -/
def userShape : Json.Shape UserDraft where
  title := "UserRecord"
  members :=
    [.text "email" true (·.email) fun draft s => { draft with email := some s },
      .text "provider" true (·.provider) fun draft s => { draft with provider := some s }]

namespace User

/-- Reads the JSON form. -/
def reader : Json.Reader User := fun input =>
  (userShape.read ⟨none, none⟩ Json.maxDepth input).map fun (draft, rest) =>
    (⟨draft.email.getD "", draft.provider.getD ""⟩, rest)

/-- The members of the JSON form. -/
def members (user : User) : List (String × String) :=
  [("email", user.email), ("provider", user.provider)]

/-- The JSON form. -/
def json (user : User) : String :=
  Json.writeObject (user.members.map fun (name, s) => (name, Json.writeText s))

/-- The session value of a user. -/
def encode (user : User) : String :=
  wrap user.json

/-- The user of a session value. -/
def decode (value : String) : Except SessionError User :=
  (unwrap reader value).mapError .decode

end User

end Gatehouse.Session
