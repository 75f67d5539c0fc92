import Gatehouse.Database.Address
import Gatehouse.Database.Error

/-!
# The database probe

One connection and two questions: the version of the server, and the number of users.
The second fails while the table of users is missing.
-/

namespace Gatehouse.Database

/-- What the database says about itself. -/
structure Report where
  version : String
  userCount : Int
deriving DecidableEq, Repr

/-- The question for the version. -/
def versionQuery : String := "SELECT version()"

/-- The question for the number of users. -/
def userCountQuery : String := "SELECT count(*) FROM users"

/-- The behaviour of a server: whether it can be reached at an address, and what it answers to
    the two questions; each may fail for a reason. -/
structure Server where
  connect : Address → Except String Unit
  version : Except String String
  userCount : Except String Int

/-- A server that cannot be reached for a reason. -/
def Server.unreachable (reason : Address → String) : Server :=
  ⟨fun address => .error ("error communicating with database: " ++ reason address),
    .error "", .error ""⟩

/-- Asks the two questions: the report, and the questions that were asked. -/
def ask (server : Server) : Except ProbeError Report × List String :=
  match server.version with
  | .error reason => (.error (.query versionQuery reason), [versionQuery])
  | .ok version =>
    match server.userCount with
    | .error reason => (.error (.query userCountQuery reason), [versionQuery, userCountQuery])
    | .ok userCount => (.ok ⟨version, userCount⟩, [versionQuery, userCountQuery])

/-- Probes the database of a connection string; an empty one is none. -/
def probe (connectString : Option String) (server : Server) :
    Except ProbeError Report × List String :=
  match connectString.filter (!·.isEmpty) with
  | none => (.error .notConfigured, [])
  | some text =>
    match Address.parse text with
    | .error reason => (.error (.connection ("error with configuration: " ++ reason)), [])
    | .ok address =>
      match server.connect address with
      | .error reason => (.error (.connection reason), [])
      | .ok () => ask server

end Gatehouse.Database
