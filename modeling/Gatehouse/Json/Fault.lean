import Gatehouse.Json.Value
import Gatehouse.Text.Quoted

/-!
# What can be wrong with a JSON text

The causes, their wording, and the place in the text that a message names: a line
counted from one and a column counted in octets since the last line break.
-/

namespace Gatehouse.Json

/-- What stood in the place of something else. -/
inductive Found where
  | null
  | bool (b : Bool)
  | number (n : Number)
  | text (s : String)
  | list
  | object
deriving DecidableEq, Repr

/-- The wording of what was found. -/
def Found.message : Found → String
  | .null => "null"
  | .bool b => "boolean `" ++ (if b then "true" else "false") ++ "`"
  | .number (.integer n) => "integer `" ++ toString n ++ "`"
  | .number (.real x) => "floating point `" ++ x.text ++ "`"
  | .text s => "string " ++ Text.quote s
  | .list => "sequence"
  | .object => "map"

/-- Why a text was refused. -/
inductive Cause where
  | endInList
  | endInObject
  | endInText
  | endInValue
  | expectedColon
  | expectedListCommaOrEnd
  | expectedObjectCommaOrEnd
  | expectedWord
  | expectedValue
  | invalidEscape
  | invalidNumber
  | numberOutOfRange
  | invalidCodePoint
  | controlCharacter
  | keyMustBeText
  | loneSurrogate
  | trailingComma
  | trailingCharacters
  | unexpectedEndOfEscape
  | tooDeep
  /-- A value of another type than the one described. -/
  | wrongType (found : Found) (expected : String)
  /-- A list that is too short for the record described. -/
  | wrongLength (length : Nat) (expected : String)
  | missingMember (name : String)
  | repeatedMember (name : String)
deriving DecidableEq, Repr

/-- The wording of a cause. -/
def Cause.message : Cause → String
  | .endInList => "EOF while parsing a list"
  | .endInObject => "EOF while parsing an object"
  | .endInText => "EOF while parsing a string"
  | .endInValue => "EOF while parsing a value"
  | .expectedColon => "expected `:`"
  | .expectedListCommaOrEnd => "expected `,` or `]`"
  | .expectedObjectCommaOrEnd => "expected `,` or `\x7d`"
  | .expectedWord => "expected ident"
  | .expectedValue => "expected value"
  | .invalidEscape => "invalid escape"
  | .invalidNumber => "invalid number"
  | .numberOutOfRange => "number out of range"
  | .invalidCodePoint => "invalid unicode code point"
  | .controlCharacter => "control character (\\u0000-\\u001F) found while parsing a string"
  | .keyMustBeText => "key must be a string"
  | .loneSurrogate => "lone leading surrogate in hex escape"
  | .trailingComma => "trailing comma"
  | .trailingCharacters => "trailing characters"
  | .unexpectedEndOfEscape => "unexpected end of hex escape"
  | .tooDeep => "recursion limit exceeded"
  | .wrongType found expected => "invalid type: " ++ found.message ++ ", expected " ++ expected
  | .wrongLength length expected =>
    "invalid length " ++ toString length ++ ", expected " ++ expected
  | .missingMember name => "missing field `" ++ name ++ "`"
  | .repeatedMember name => "duplicate field `" ++ name ++ "`"

/-- Where reading stopped and why.  The place is given by the number of octets left. -/
structure Stop where
  cause : Cause
  left : Nat
deriving DecidableEq, Repr

/-- Reads something from the front of a list of octets. -/
abbrev Reader (α : Type) := List UInt8 → Except Stop (α × List UInt8)

/-- Stops in front of the octets that are left. -/
def stopHere {α : Type} (cause : Cause) (rest : List UInt8) : Except Stop α :=
  .error ⟨cause, rest.length⟩

/-- Stops behind the next octet, if there is one. -/
def stopAhead {α : Type} (cause : Cause) (rest : List UInt8) : Except Stop α :=
  .error ⟨cause, rest.length - 1⟩

/-- A fault with its place. -/
structure Fault where
  cause : Cause
  line : Nat
  column : Nat
deriving DecidableEq, Repr

/-- The wording of a fault. -/
def Fault.message (fault : Fault) : String :=
  fault.cause.message ++ " at line " ++ toString fault.line ++ " column " ++ toString fault.column

/-- The line and the column behind some octets, from those in front of them. -/
def advance (place : Nat × Nat) (octet : UInt8) : Nat × Nat :=
  if octet = 0x0A then (place.1 + 1, 0) else (place.1, place.2 + 1)

/-- A stop as a fault in the text that was read. -/
def Stop.inText (stop : Stop) (input : List UInt8) : Fault :=
  let (line, column) := (input.take (input.length - stop.left)).foldl advance (1, 0)
  ⟨stop.cause, line, column⟩

end Gatehouse.Json
