/-!
# Text in HTML

Characters that mean something in HTML are written as references, so that a text stays
a text wherever it is put.
-/

namespace Gatehouse.Html

/-- The reference for a character that means something between tags. -/
def textReference? : Char → Option String
  | '&' => some "&amp;"
  | '<' => some "&lt;"
  | '>' => some "&gt;"
  | _ => none

/-- The reference for a character that means something in an attribute between double quotes. -/
def attributeReference? : Char → Option String
  | '"' => some "&quot;"
  | c => textReference? c

/-- Writes the characters that have a reference as it. -/
def escape (reference? : Char → Option String) (cs : List Char) : List Char :=
  cs.flatMap fun c =>
    match reference? c with
    | some reference => reference.toList
    | none => [c]

/-- A text between tags. -/
def escapeText (s : String) : String :=
  .ofList (escape textReference? s.toList)

/-- A text in an attribute between double quotes. -/
def escapeAttribute (s : String) : String :=
  .ofList (escape attributeReference? s.toList)

/-- Reads the references back; every other text stands for itself. -/
def unescape : List Char → List Char
  | '&' :: 'a' :: 'm' :: 'p' :: ';' :: rest => '&' :: unescape rest
  | '&' :: 'l' :: 't' :: ';' :: rest => '<' :: unescape rest
  | '&' :: 'g' :: 't' :: ';' :: rest => '>' :: unescape rest
  | '&' :: 'q' :: 'u' :: 'o' :: 't' :: ';' :: rest => '"' :: unescape rest
  | c :: rest => c :: unescape rest
  | [] => []

end Gatehouse.Html
