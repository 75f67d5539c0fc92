import Gatehouse.Text.Blank
import Gatehouse.Text.Percent

/-!
# Cookies of a request

The pairs of names and values in the `Cookie` headers of a request.  A header counts
only if it is plain ASCII, and a piece of it only if it is a name and a value around an
equals sign; everything else is passed over.
-/

namespace Gatehouse.Cookie

/-- A cookie as the browser sends it back. -/
structure Pair where
  name : String
  value : String
deriving DecidableEq, Repr

/-- Whether a character may stand in a header that is read as text. -/
def isHeaderText (c : Char) : Bool :=
  c == '\t' || c == ' ' || Ascii.isVisible c

/-- One piece of a header as a pair. -/
def Pair.ofPiece? (piece : List Char) : Option Pair := do
  let (name, value) ← Text.cutAt? (· == '=') piece
  let name := Text.trimBy Text.isBlank name
  let value := Text.trimBy Text.isBlank value
  if name.isEmpty then none
  else
    let name ← Percent.decodeText? name
    let value ← Percent.decodeText? value
    some ⟨.ofList name, .ofList value⟩

/-- The pairs of one header. -/
def pairsOfHeader (header : String) : List Pair :=
  if header.toList.all isHeaderText then
    (Text.splitBy (· == ';') header.toList).filterMap Pair.ofPiece?
  else []

/-- The pairs of all `Cookie` headers of a request, in order. -/
def pairs (headers : List String) : List Pair :=
  headers.flatMap pairsOfHeader

end Gatehouse.Cookie
