/-!
# The test message

The one message that the relay delivers.
-/

namespace Gatehouse.Mail

/-- A message: who sends it, who gets it, and its header fields and body as lines.  The field with
    the date, which the relay adds at the time of sending, is not among them. -/
structure Message where
  sender : String
  recipients : List String
  lines : List String
  addressed : recipients ≠ [] := by decide
  /-- Plain ASCII is what every server takes. -/
  ascii : ((sender :: (recipients ++ lines)).all fun text =>
    text.toList.all fun c => c.toNat < 0x80) = true := by decide
deriving DecidableEq, Repr

/-- The test message. -/
def testMessage : Message where
  sender := "tester@example.com"
  recipients := ["test@example.com"]
  lines :=
    ["From: tester@example.com", "To: test@example.com", "Subject: hello",
      "Content-Type: text/plain; charset=utf-8", "Content-Transfer-Encoding: 7bit", "",
      "Hello world!"]

end Gatehouse.Mail
