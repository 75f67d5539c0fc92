import Gatehouse.Text.Blank

/-!
# Replies of a mail server

A reply is a code with lines of text.  The reply to the greeting of the relay lists what
the server is capable of.
-/

namespace Gatehouse.Mail

/-- A reply of a mail server. -/
structure Reply where
  code : Nat
  lines : List String
deriving DecidableEq, Repr

namespace Reply

/-- Whether a reply is a good one. -/
def isPositive (reply : Reply) : Bool :=
  200 ≤ reply.code && reply.code < 400

/-- Whether a reply asks for more before a login is settled. -/
def isChallenge (reply : Reply) : Bool :=
  reply.code == 334

/-- The first word of a reply. -/
def firstWord? (reply : Reply) : Option String :=
  reply.lines.head?.bind fun line => (Text.words line).head?

/-- Whether a reply lists a capability. -/
def lists (reply : Reply) (capability : String) : Bool :=
  reply.lines.any fun line => (Text.words line).head? == some capability

/-- Whether a reply lists a way to log in. -/
def listsLogin (reply : Reply) (mechanism : String) : Bool :=
  reply.lines.any fun line =>
    match Text.words line with
    | first :: rest => first == "AUTH" && rest.contains mechanism
    | [] => false

end Reply

end Gatehouse.Mail
