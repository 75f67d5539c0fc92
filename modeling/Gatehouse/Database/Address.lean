import Gatehouse.Text.Quoted
import Gatehouse.Url.Parser
import Gatehouse.Url.Query

/-!
# Database addresses

A connection string names the server, the user and the database in the parts of a URL,
and may name them again, with further settings, in its query.
-/

namespace Gatehouse.Database

/-- Where the server listens. -/
inductive Place where
  /-- At a name or an address in the network; without one, at the usual place. -/
  | host (name : Option String)
  /-- In a directory of this machine. -/
  | socket (directory : String)
deriving DecidableEq, Repr

/-- How much the connection has to be secured. -/
inductive SslMode where
  | disable
  | allow
  | prefer
  | require
  | verifyCa
  | verifyFull
deriving DecidableEq, Repr

/-- The mode that a text names, in any letter case. -/
def SslMode.ofText? (s : String) : Option SslMode :=
  match Ascii.lowerString s with
  | "disable" => some .disable
  | "allow" => some .allow
  | "prefer" => some .prefer
  | "require" => some .require
  | "verify-ca" => some .verifyCa
  | "verify-full" => some .verifyFull
  | _ => none

/-- What a connection string says.  What it does not say is left to the usual settings. -/
structure Address where
  place : Place
  port : Option Nat
  user : Option String
  password : Option String
  database : Option String
  sslMode : SslMode
deriving DecidableEq, Repr

namespace Address

/-- Why a text is no number below a limit. -/
def numberFault (s : String) : String :=
  if s.isEmpty then "cannot parse integer from empty string"
  else if (Ascii.natural? s.toList).isSome then "number too large to fit in target type"
  else "invalid digit found in string"

/-- A number below a limit, with a plus sign if one is written. -/
def number (limit : Nat) (s : String) : Except String Nat :=
  let digits := match s.toList with
    | '+' :: rest => if rest.isEmpty then s.toList else rest
    | cs => cs
  match Ascii.natural? digits with
  | some n => if n < limit then .ok n else .error (numberFault (.ofList digits))
  | none => .error (numberFault (.ofList digits))

/-- A part of a URL as text. -/
def partText (part : String) : Except String String :=
  match Utf8.read (Percent.decode part.toList) with
  | .ok cs => .ok (.ofList cs)
  | .error fault => .error fault.message

/-- The place that a name stands for: one that begins with a slash is a directory. -/
def placeOf (name : String) : Place :=
  if name.toList.head? = some '/' then .socket name else .host (some name)

/-- The place in a host. -/
def hostPlace (host : String) : Except String Place := do
  if (Percent.decode host.toList).head? = some 0x2F then .ok (.socket (← partText host))
  else .ok (.host (some host))

/-- Whether a text is a numeric address. -/
def isNumericAddress (s : String) : Bool :=
  (Url.ipv6? s.toList).isSome || (Url.embeddedPieces? s.toList).isSome

/-- Takes in a mode. -/
def withSslMode (address : Address) (value : String) : Except String Address :=
  match SslMode.ofText? value with
  | some mode => .ok { address with sslMode := mode }
  | none =>
    .error ("error with configuration: unknown value " ++ Text.quote value ++ " for `ssl_mode`")

/-- Takes in one pair of the query; a name that is not known is passed over. -/
def withPair (address : Address) (pair : String × String) : Except String Address :=
  let (name, value) := pair
  match name with
  | "sslmode" => withSslMode address value
  | "ssl-mode" => withSslMode address value
  | "statement-cache-capacity" => (number (Nat.pow 2 64) value).map fun _ => address
  | "host" => .ok { address with place := placeOf value }
  | "hostaddr" =>
    if isNumericAddress value then .ok { address with place := placeOf value }
    else .error "invalid IP address syntax"
  | "port" => (number (Nat.pow 2 16) value).map fun port => { address with port := some port }
  | "dbname" => .ok { address with database := some value }
  | "user" => .ok { address with user := some value }
  | "password" => .ok { address with password := some value }
  | _ => .ok address

/-- What a URL says. -/
def ofUrl (url : Url) : Except String Address := do
  let host := (url.authority.map (·.host.text)).getD ""
  let place ← if host.isEmpty then .ok (.host none) else hostPlace host
  let username := (url.authority.map (·.username)).getD ""
  let user ← if username.isEmpty then .ok none else (partText username).map some
  let password ← match url.authority.bind (·.password) with
    | some password => (partText password).map some
    | none => .ok none
  let path := String.ofList (url.path.text.toList.dropWhile (· == '/'))
  (Url.formPairs (url.query.getD "")).foldlM withPair
    { place := place
      port := url.authority.bind (·.port)
      user := user
      password := password
      database := if path.isEmpty then none else some path
      sslMode := .prefer }

/-- What a connection string says, or why it cannot be read. -/
def parse (s : String) : Except String Address :=
  match Url.parse s with
  | .ok url => ofUrl url
  | .error fault => .error fault.message

end Address

end Gatehouse.Database
