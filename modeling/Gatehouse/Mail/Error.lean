/-!
# Mail errors
-/

namespace Gatehouse.Mail

/-- Why a message was not delivered. -/
inductive MailError where
  /-- A setting is missing. -/
  | notConfigured (setting : String)
  | invalidMessage (reason : String)
  /-- The parameters of a secured connection cannot be used. -/
  | tls (reason : String)
  /-- The dialogue with the server failed. -/
  | transport (reason : String)
deriving DecidableEq, Repr

/-- The wording of an error. -/
def MailError.message : MailError → String
  | .notConfigured setting => "mail relay is not configured: " ++ setting ++ " is not set"
  | .invalidMessage reason => "invalid message: " ++ reason
  | .tls reason => "TLS setup failed: " ++ reason
  | .transport reason => "SMTP error: " ++ reason

end Gatehouse.Mail
