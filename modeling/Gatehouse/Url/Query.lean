import Gatehouse.Text.Percent
import Gatehouse.Url.Basic

/-!
# Forms in queries

Pairs of names and values as the text of a form: a plus sign for a space, and percent
signs for everything but letters, digits and a few marks.
-/

namespace Gatehouse.Url

/-- Whether a character stands for itself in a form. -/
def isFormChar (c : Char) : Bool :=
  Ascii.isAlphanumeric c || c == '*' || c == '-' || c == '.' || c == '_'

/-- A name or a value as it is written in a form. -/
def encodeForm (s : String) : List Char :=
  s.toList.flatMap fun c =>
    if c = ' ' then ['+'] else if isFormChar c then [c] else Percent.escapeChar c

/-- Pairs as the text of a form. -/
def formText (pairs : List (String × String)) : String :=
  Text.joinWith "&" (pairs.map fun (name, value) =>
    .ofList (encodeForm name ++ '=' :: encodeForm value))

/-- A name or a value of a form, with malformed text replaced. -/
def decodeForm (cs : List Char) : String :=
  .ofList (Utf8.decodeLossy (Percent.decode (cs.map fun c => if c = '+' then ' ' else c)))

/-- One piece of a form as a pair. -/
def formPair (piece : List Char) : String × String :=
  match Text.cutAt? (· == '=') piece with
  | some (name, value) => (decodeForm name, decodeForm value)
  | none => (decodeForm piece, "")

/-- The pairs of a form; empty pieces are passed over. -/
def formPairs (form : String) : List (String × String) :=
  ((Text.splitBy (· == '&') form.toList).filter (!·.isEmpty)).map formPair

/-- A URL with pairs added to the end of its query. -/
def addPairs (url : Url) (pairs : List (String × String)) : Url :=
  let old := url.query.getD ""
  let text := formText pairs
  { url with query := some (if old.isEmpty then text else old ++ "&" ++ text) }

end Gatehouse.Url
