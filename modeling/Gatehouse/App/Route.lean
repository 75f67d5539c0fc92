import Gatehouse.Http.Pattern

/-!
# Routes of the application
-/

namespace Gatehouse.App

/-- What the application serves. -/
inductive Route where
  | hello
  | sendMail
  | listModels
  | userDefinedConfig
  | migrateStatus
  | callback
  | logout
  | login
  | profile
deriving DecidableEq, Repr

namespace Route

/-- All routes. -/
def all : List Route :=
  [hello, sendMail, listModels, userDefinedConfig, migrateStatus, callback, logout, login, profile]

/-- The pattern of a route's paths. -/
def pattern : Route → List Http.Segment
  | hello => [.literal "", .literal ""]
  | sendMail => [.literal "", .literal "send_mail"]
  | listModels => [.literal "", .literal "openfga", .literal "list-authorization-models"]
  | userDefinedConfig => [.literal "", .literal "env", .literal "user-defined-config"]
  | migrateStatus => [.literal "", .literal "postgresql", .literal "migratestatus"]
  | callback => [.literal "", .literal "auth", .capture "provider", .literal "callback"]
  | logout => [.literal "", .literal "logout", .capture "provider"]
  | login => [.literal "", .literal "login", .capture "provider"]
  | profile => [.literal "", .literal "profile"]

/-- The path of a route as it is written in a router. -/
def path : Route → String
  | hello => "/"
  | sendMail => "/send_mail"
  | listModels => "/openfga/list-authorization-models"
  | userDefinedConfig => "/env/user-defined-config"
  | migrateStatus => "/postgresql/migratestatus"
  | callback => "/auth/\x7bprovider\x7d/callback"
  | logout => "/logout/\x7bprovider\x7d"
  | login => "/login/\x7bprovider\x7d"
  | profile => "/profile"

/-- Whether a route answers every method; the others answer `GET` and `HEAD` only. -/
def anyMethod : Route → Bool
  | hello => true
  | sendMail => true
  | listModels => true
  | userDefinedConfig => true
  | migrateStatus => true
  | callback => false
  | logout => false
  | login => false
  | profile => false

/-- The route of a path, with what its capture takes. -/
def ofPath? (path : String) : Option (Route × List String) :=
  all.findSome? fun route =>
    (Http.matchSegments? route.pattern (Http.pathSegments path)).map fun taken => (route, taken)

end Route

end Gatehouse.App
