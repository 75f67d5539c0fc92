import Gatehouse.Json.Value
import Gatehouse.Text.Ascii
import Gatehouse.Text.Blank

/-!
# Writing JSON

Values without white space.  In strings the quote, the backslash and the control
characters below U+0020 are escaped, and every other character stands for itself.
-/

namespace Gatehouse.Json

/-- A character inside quotes. -/
def writeChar (c : Char) : List Char :=
  if c = '"' then ['\\', '"']
  else if c = '\\' then ['\\', '\\']
  else if c = '\x08' then ['\\', 'b']
  else if c = '\x0c' then ['\\', 'f']
  else if c = '\n' then ['\\', 'n']
  else if c = '\r' then ['\\', 'r']
  else if c = '\t' then ['\\', 't']
  else if c.toNat < 0x20 then
    ['\\', 'u', '0', '0', Ascii.lowerHexDigit (c.toNat / 16), Ascii.lowerHexDigit (c.toNat % 16)]
  else [c]

/-- The characters of a string with its quotes. -/
def writeChars (cs : List Char) : List Char :=
  '"' :: cs.flatMap writeChar ++ ['"']

/-- A string with its quotes. -/
def writeText (s : String) : String :=
  .ofList (writeChars s.toList)

/-- A string, or `null` in its absence. -/
def writeOptionalText : Option String → String
  | some s => writeText s
  | none => "null"

/-- Texts between brackets, with commas between them. -/
def writeList : List String → String
  | [] => "[]"
  | s :: rest => "[" ++ s ++ rest.foldl (fun text t => text ++ "," ++ t) "" ++ "]"

/-- Named texts between braces, with commas between them. -/
def writeObject : List (String × String) → String
  | [] => "\x7b\x7d"
  | (name, s) :: rest =>
    "\x7b" ++ writeText name ++ ":" ++ s ++
      rest.foldl (fun text (name, t) => text ++ "," ++ writeText name ++ ":" ++ t) "" ++ "\x7d"

/-- Named texts between braces, each on a line of its own. -/
def writeObjectLines (members : List (String × String)) : String :=
  "\x7b\n" ++
    Text.joinWith ",\n" (members.map fun (name, s) => "  " ++ writeText name ++ ": " ++ s) ++
    "\n\x7d"

mutual

/-- The text of a value. -/
def Value.write : Value → String
  | .null => "null"
  | .bool b => if b then "true" else "false"
  | .number n => n.text
  | .text s => writeText s
  | .list items => writeList (writeValues items)
  | .object members => writeObject (writeMembers members)

/-- The texts of values. -/
def writeValues : List Value → List String
  | [] => []
  | v :: rest => v.write :: writeValues rest

/-- The named texts of members. -/
def writeMembers : List (String × Value) → List (String × String)
  | [] => []
  | (name, v) :: rest => (name, v.write) :: writeMembers rest

end

end Gatehouse.Json
