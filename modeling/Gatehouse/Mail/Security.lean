import Gatehouse.Text.Ascii
import Gatehouse.Text.Blank

/-!
# Mail settings

How the mail relay reaches its server.
-/

namespace Gatehouse.Mail

/-- How a connection to the mail server is secured. -/
inductive Security where
  /-- Not at all. -/
  | none
  /-- The plain connection is upgraded before anything else is said. -/
  | startTls
  /-- The connection is secured from the start, and the relay logs in. -/
  | tls
deriving DecidableEq, Repr

/-- The mode that a text names, in any letter case and between white space; an unknown text
    names the plain mode. -/
def Security.ofText (s : String) : Security :=
  match Ascii.lowerString (Text.trim s) with
  | "starttls" => .startTls
  | "tls" => .tls
  | _ => .none

/-- The name of a mode. -/
def Security.name : Security → String
  | .none => "none"
  | .startTls => "starttls"
  | .tls => "tls"

/-- The settings of the relay. -/
structure Settings where
  host : Option String
  port : Option Nat
  user : Option String
  domain : Option String
  password : Option String
  security : Security
  acceptInvalidCertificates : Bool
deriving DecidableEq, Repr

/-- The login name, `user@domain`. -/
def Settings.username (settings : Settings) : String :=
  settings.user.getD "" ++ "@" ++ settings.domain.getD ""

end Gatehouse.Mail
