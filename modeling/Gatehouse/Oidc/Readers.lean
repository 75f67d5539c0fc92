import Gatehouse.Json.Reader
import Gatehouse.Oidc.Exchange

/-!
# Reading the replies of a provider

A good reply is a document in JSON whose members have their types.  Members of other names
are not looked at, and neither is what a signed member says.
-/

namespace Gatehouse.Oidc

/-- The media type of a reply without its parameters. -/
def essence (contentType : String) : String :=
  Ascii.lowerString (Text.trim (.ofList (contentType.toList.takeWhile (· != ';'))))

/-- The members of the object in front of a text, of which the last one of each name counts.  What
    stands behind the object is not looked at. -/
def document? (octets : List UInt8) : Option (List (String × Json.Value)) :=
  match Json.readValue Json.maxDepth octets with
  | .ok (.object members, _) => some members
  | _ => none

/-- The text that a document has under a name. -/
def textOf? (name : String) (members : List (String × Json.Value)) : Option String :=
  match members.lookup name with
  | some (.text s) => some s
  | _ => none

/-- The types of the members of a document. -/
inductive ClaimType where
  | text
  | switch
  /-- A number of seconds. -/
  | seconds
  | moment
  | object
  | address
  /-- A text or a list of texts. -/
  | texts
  /-- A text in the three parts of what is signed. -/
  | signed
deriving DecidableEq, Repr

/-- Whether a value is a text. -/
def isText : Json.Value → Bool
  | .text _ => true
  | _ => false

/-- Whether a value is of a type. -/
def ClaimType.has : ClaimType → Json.Value → Bool
  | .text, .text _ => true
  | .switch, .bool _ => true
  | .seconds, .number (.integer n) => 0 ≤ n
  | .moment, .number _ => true
  | .object, .object _ => true
  | .address, .text s => (Url.parse s).isOk
  | .texts, .text _ => true
  | .texts, .list items => items.all isText
  | .signed, .text s => (Text.splitBy (· == '.') s.toList).length == 3
  | _, _ => false

/-- Whether the members of a document that are there, and not null, have their types. -/
def areTyped (types : List (String × ClaimType)) (members : List (String × Json.Value)) : Bool :=
  types.all fun (name, type) =>
    match members.lookup name with
    | none => true
    | some .null => true
    | some value => type.has value

/-- The types of what comes with a provider's own error. -/
def refusalTypes : List (String × ClaimType) :=
  [("error_description", .text), ("error_uri", .text)]

/-- The wording of the provider's own error. -/
def refusalOf? (octets : List UInt8) : Option String := do
  let members ← document? octets
  let error ← textOf? "error" members
  let description := match textOf? "error_description" members with
    | some s => ": " ++ s
    | none => ""
  let address := match textOf? "error_uri" members with
    | some s => " (see " ++ s ++ ")"
    | none => ""
  if areTyped refusalTypes members then some (error ++ description ++ address) else none

/-- What is wrong with an answer that has another status than it should. -/
def refusal (body : List UInt8) : ExchangeFault :=
  if body.isEmpty then .other "server returned empty error response"
  else
    match refusalOf? body with
    | some reason => .refused reason
    | none => .unreadable

/-- The fault of a media type other than JSON. -/
def wrongType (contentType : String) : ExchangeFault :=
  .other ("unexpected response Content-Type: " ++ Text.quote contentType ++
    ", should be `application/json`")

/-- The types of what comes with a token. -/
def tokenTypes : List (String × ClaimType) :=
  [("expires_in", .seconds), ("refresh_token", .text), ("scope", .text), ("id_token", .signed)]

/-- The types of what is said about a user. -/
def userTypes : List (String × ClaimType) :=
  [("iss", .address), ("aud", .texts), ("name", .text), ("given_name", .text),
    ("family_name", .text), ("middle_name", .text), ("nickname", .text),
    ("preferred_username", .text), ("profile", .text), ("picture", .text), ("website", .text),
    ("email", .text), ("email_verified", .switch), ("gender", .text), ("birthdate", .text),
    ("zoneinfo", .text), ("locale", .text), ("phone_number", .text),
    ("phone_number_verified", .switch), ("address", .object), ("updated_at", .moment)]

/-- The access token of a document. -/
def tokenOf? (octets : List UInt8) : Option String := do
  let members ← document? octets
  let token ← textOf? "access_token" members
  let _ ← textOf? "token_type" members
  if areTyped tokenTypes members then some token else none

/-- What a document says about a user. -/
def claimsOf? (octets : List UInt8) : Option UserClaims := do
  let members ← document? octets
  let _ ← textOf? "sub" members
  if areTyped userTypes members then some ⟨textOf? "email" members⟩ else none

/-- The access token of a reply. -/
def readToken : Http.Reply → Except ExchangeFault String
  | .answered status contentType body =>
    if status ≠ 200 then .error (refusal body)
    else if essence (contentType.getD jsonType) ≠ jsonType then
      .error (wrongType (contentType.getD jsonType))
    else if body.isEmpty then .error (.other "server returned empty response body")
    else
      match tokenOf? body with
      | some token => .ok token
      | none => .error .unreadable
  | .unreachable => .error .unanswered
  | .dropped => .error .unanswered

/-- What a reply says about a user. -/
def readClaims : Http.Reply → Except ExchangeFault UserClaims
  | .answered status contentType body =>
    let kind := essence (contentType.getD jsonType)
    if status ≠ 200 then .error (.wrongStatus status)
    else if kind = "application/jwt" then .error .unverifiable
    else if kind ≠ jsonType then
      .error
        (.other ("unexpected response Content-Type: " ++ Text.quote (contentType.getD jsonType)))
    else
      match claimsOf? body with
      | some claims => .ok claims
      | none => .error .unreadable
  | .unreachable => .error .unanswered
  | .dropped => .error .unanswered

/-- Readers of documents by their types. -/
def Readers.typed : Readers :=
  ⟨readToken, readClaims⟩

end Gatehouse.Oidc
