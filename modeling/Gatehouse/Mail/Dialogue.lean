import Gatehouse.Mail.Message
import Gatehouse.Mail.Reply
import Gatehouse.Text.Base64
import Gatehouse.Text.Utf8

/-!
# The dialogue with a mail server

What the relay says is a list of steps, one after the other; the first step that fails
ends the dialogue.  The server is a function of all that has happened on the connection,
so a statement about every such function holds for every server.
-/

namespace Gatehouse.Mail

/-- What the relay says. -/
inductive Command where
  | hello
  | startTls
  /-- Logs in with a name and a password. -/
  | login (user password : String)
  | sender (address : String)
  | recipient (address : String)
  | data
  | message (lines : List String)
  | quit
deriving DecidableEq, Repr

/-- A line as it is sent inside of a message: a dot in front is doubled. -/
def stuffed (line : String) : String :=
  if line.toList.head? = some '.' then "." ++ line else line

/-- The lines of a command; `host` is the name of the relay. -/
def Command.lines (host : String) : Command → List String
  | .hello => ["EHLO " ++ host]
  | .startTls => ["STARTTLS"]
  | .login user password =>
    ["AUTH PLAIN " ++
      .ofList (Base64.encode Base64.usual (Utf8.octets ("\x00" ++ user ++ "\x00" ++ password)))]
  | .sender address => ["MAIL FROM:<" ++ address ++ ">"]
  | .recipient address => ["RCPT TO:<" ++ address ++ ">"]
  | .data => ["DATA"]
  | .message lines => lines.map stuffed ++ ["."]
  | .quit => ["QUIT"]

/-- What happens on a connection. -/
inductive Event where
  | said (command : Command)
  /-- From here on the connection is secured. -/
  | secured
deriving DecidableEq, Repr

/-- What comes back from the server. -/
inductive Response where
  | reply (reply : Reply)
  /-- Something that is no reply. -/
  | malformed
  /-- The end of the connection. -/
  | closed
deriving DecidableEq, Repr

/-- The outcome of securing a connection. -/
inductive Handshake where
  | trusted
  /-- The connection is secured, but the certificate does not verify. -/
  | untrusted
  | failed
deriving DecidableEq, Repr

/-- What a secured connection is made with: the name that the certificate has to be for, and whether
    any certificate will do. -/
structure TlsParameters where
  host : String
  acceptInvalid : Bool
deriving DecidableEq, Repr

/-- What the relay meets: whether it can make use of parameters for a secured connection, whether
    the server can be reached at a name and a port, what the server says after what has happened so
    far, and how it takes part in securing the connection. -/
structure Server where
  prepare : TlsParameters → Except String Unit
  connect : (host : String) → (port : Nat) → Except String Unit
  respond : List Event → Response
  handshake : List Event → Handshake

/-- A server that cannot be reached for a reason. -/
def Server.unreachable (reason : String) : Server :=
  ⟨fun _ => .ok (), fun _ _ => .error reason, fun _ => .closed, fun _ => .failed⟩

/-- Why a dialogue failed. -/
inductive DialogueFault where
  | unreachable (reason : String)
  | closed
  | malformed
  /-- The server refuses a command, for now or for good. -/
  | refused (reply : Reply)
  | noServerName
  | noStartTls
  | noLogin
  | challenge
  | certificate
  | handshake
deriving DecidableEq, Repr

/-- The wording of a fault. -/
def DialogueFault.message : DialogueFault → String
  | .unreachable reason => "Connection error: " ++ reason
  | .closed => "response error: incomplete response"
  | .malformed => "response error: malformed reply"
  | .refused reply =>
    (if reply.code < 500 then "transient error (" else "permanent error (") ++
      toString reply.code ++ "): " ++ reply.lines.head?.getD ""
  | .noServerName => "response error: Could not read server name"
  | .noStartTls => "internal client error: STARTTLS is not supported on this server"
  | .noLogin => "internal client error: No compatible authentication mechanism was found"
  | .challenge => "internal client error: This mechanism does not expect a challenge"
  | .certificate => "Connection error: invalid peer certificate"
  | .handshake => "Connection error: handshake failed"

/-- One step of a dialogue. -/
inductive Step where
  /-- Waits for the server to say something first. -/
  | greeting
  /-- Names the relay and learns what the server is capable of. -/
  | hello
  /-- Announces that the connection is to be secured, if the server is capable of it. -/
  | startTls
  /-- Secures the connection. -/
  | secure
  /-- Logs in, if the server is capable of it. -/
  | login (user password : String)
  /-- Says a command that needs a good reply and nothing else. -/
  | say (command : Command)
deriving DecidableEq, Repr

/-- The state of a dialogue: what has happened, and the last list of capabilities. -/
structure Progress where
  events : List Event
  capabilities : Reply
deriving DecidableEq, Repr

/-- A dialogue of which nothing has happened. -/
def Progress.start : Progress :=
  ⟨[], ⟨0, []⟩⟩

/-- What the server says to all that has happened: a good reply, or a fault. -/
def listen (server : Server) (events : List Event) : Except DialogueFault Reply :=
  match server.respond events with
  | .reply reply => if reply.isPositive then .ok reply else .error (.refused reply)
  | .malformed => .error .malformed
  | .closed => .error .closed

/-- A command said after all that has happened. -/
def Progress.say (progress : Progress) (command : Command) : Progress :=
  { progress with events := progress.events ++ [.said command] }

/-- Does one step: how it ends, and what has happened by then. -/
def Step.perform (acceptInvalid : Bool) (server : Server) (progress : Progress) :
    Step → Except DialogueFault Unit × Progress
  | .greeting => ((listen server progress.events).map fun _ => (), progress)
  | .hello =>
    let said := progress.say .hello
    match listen server said.events with
    | .error fault => (.error fault, said)
    | .ok reply =>
      if reply.firstWord?.isSome then (.ok (), { said with capabilities := reply })
      else (.error .noServerName, said)
  | .startTls =>
    if progress.capabilities.lists "STARTTLS" then
      let said := progress.say .startTls
      ((listen server said.events).map fun _ => (), said)
    else (.error .noStartTls, progress)
  | .secure =>
    let secured := { progress with events := progress.events ++ [.secured] }
    match server.handshake progress.events with
    | .trusted => (.ok (), secured)
    | .untrusted => if acceptInvalid then (.ok (), secured) else (.error .certificate, progress)
    | .failed => (.error .handshake, progress)
  | .login user password =>
    if progress.capabilities.listsLogin "PLAIN" then
      let said := progress.say (.login user password)
      match listen server said.events with
      | .error fault => (.error fault, said)
      | .ok reply => (if reply.isChallenge then .error .challenge else .ok (), said)
    else (.error .noLogin, progress)
  | .say command =>
    let said := progress.say command
    ((listen server said.events).map fun _ => (), said)

/-- Whether the relay still takes its leave after a step has failed. -/
def Step.quitsOnFault (progress : Progress) : Step → Bool
  | .greeting => false
  | .hello => true
  | .startTls => progress.capabilities.lists "STARTTLS"
  | .secure => false
  | .login _ _ => false
  | .say _ => true

/-- Does steps in turn, and takes leave at the end. -/
def perform (acceptInvalid : Bool) (server : Server) (progress : Progress) :
    List Step → Except DialogueFault Unit × List Event
  | [] => (.ok (), (progress.say .quit).events)
  | step :: steps =>
    match step.perform acceptInvalid server progress with
    | (.ok (), next) => perform acceptInvalid server next steps
    | (.error fault, next) =>
      (.error fault, (if step.quitsOnFault progress then next.say .quit else next).events)

end Gatehouse.Mail
