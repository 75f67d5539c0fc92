import Gatehouse.Mail.Dialogue
import Gatehouse.Mail.Error
import Gatehouse.Mail.Security

/-!
# The mail relay

A new connection for every message.  The settings decide how the connection is secured and
whether the relay logs in; these decisions make the steps in front of the message.
-/

namespace Gatehouse.Mail

/-- The port of the server unless another one is set. -/
def defaultPort : Nat := 25

/-- The port of the server. -/
def Settings.serverPort (settings : Settings) : Nat :=
  settings.port.getD defaultPort

/-- How a connection is secured. -/
inductive Tls where
  | none
  /-- The plain connection is upgraded; without that nothing else is said. -/
  | required (parameters : TlsParameters)
  /-- The connection is secured before anything is said. -/
  | wrapper (parameters : TlsParameters)
deriving DecidableEq, Repr

/-- Whether a certificate that does not verify will do. -/
def Tls.acceptsInvalid : Tls → Bool
  | .none => false
  | .required parameters => parameters.acceptInvalid
  | .wrapper parameters => parameters.acceptInvalid

/-- The name and the password of a login. -/
structure Credentials where
  user : String
  password : String
deriving DecidableEq, Repr

/-- How a message is handed over: where to, how the connection is secured, and whether there is a
    login, for which `PLAIN` is the only mechanism. -/
structure Transport where
  host : String
  port : Nat
  tls : Tls
  credentials : Option Credentials
deriving DecidableEq, Repr

/-- The transport of the settings.  A login takes place only on a connection that is secured from
    the start. -/
def Settings.transport (settings : Settings) (prepare : TlsParameters → Except String Unit) :
    Except MailError Transport :=
  match settings.host.filter (!·.isEmpty) with
  | none => .error (.notConfigured "SMTP_HOST")
  | some host =>
    let parameters : TlsParameters := ⟨host, settings.acceptInvalidCertificates⟩
    let prepared (transport : Transport) : Except MailError Transport :=
      match prepare parameters with
      | .ok () => .ok transport
      | .error reason => .error (.tls reason)
    match settings.security with
    | .none => .ok ⟨host, settings.serverPort, .none, none⟩
    | .startTls => prepared ⟨host, settings.serverPort, .required parameters, none⟩
    | .tls =>
      prepared
        ⟨host, settings.serverPort, .wrapper parameters,
          some ⟨settings.username, settings.password.getD ""⟩⟩

/-- The steps that make the connection. -/
def Tls.opening : Tls → List Step
  | .none => [.greeting, .hello]
  | .required _ => [.greeting, .hello, .startTls, .secure, .hello]
  | .wrapper _ => [.secure, .greeting, .hello]

/-- The steps in front of the message. -/
def Transport.opening (transport : Transport) : List Step :=
  transport.tls.opening ++
    match transport.credentials with
    | some credentials => [.login credentials.user credentials.password]
    | none => []

/-- The steps that hand over a message. -/
def Message.steps (message : Message) : List Step :=
  [.say (.sender message.sender)] ++ message.recipients.map (.say ∘ .recipient) ++
    [.say .data, .say (.message message.lines)]

/-- Sends a message: how it ends, and what has happened on the connection. -/
def send (settings : Settings) (server : Server) (message : Message) :
    Except MailError Unit × List Event :=
  match settings.transport server.prepare with
  | .error fault => (.error fault, [])
  | .ok transport =>
    match server.connect transport.host transport.port with
    | .error reason => (.error (.transport (DialogueFault.unreachable reason).message), [])
    | .ok () =>
      let (result, events) :=
        perform transport.tls.acceptsInvalid server .start (transport.opening ++ message.steps)
      (result.mapError fun fault => .transport fault.message, events)

end Gatehouse.Mail
