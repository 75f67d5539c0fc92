import Gatehouse.Json.Reader

/-!
# Skipping a value

The value of a member that a record does not know is checked for its form and then
forgotten.  Strings in it may name any code points, and lists and objects may nest to
any depth, so open brackets are kept on a stack.
-/

namespace Gatehouse.Json

/-- Skips an escape and says how many octets behind the backslash it takes. -/
def skipEscape (input : List UInt8) : Except Stop Nat :=
  match input with
  | [] => stopHere .endInText []
  | x :: rest =>
    if x = 0x75 then (readHex rest).map fun _ => 5
    else if (simpleEscape? x).isSome then .ok 1
    else stopHere .invalidEscape rest

/-- Skips a string, behind its opening quote. -/
def skipText (input : List UInt8) : Except Stop (List UInt8) :=
  match input with
  | [] => stopHere .endInText []
  | x :: rest =>
    if x = 0x22 then .ok rest
    else if x = 0x5C then
      match skipEscape rest with
      | .error stop => .error stop
      | .ok used => skipText (rest.drop used)
    else if x < 0x20 then stopHere .controlCharacter (x :: rest)
    else skipText rest
termination_by input.length
decreasing_by all_goals simp; try omega

/-- Skips an exponent, behind its letter. -/
def skipExponent (input : List UInt8) : Except Stop (List UInt8) :=
  match (readExponentSign input).2 with
  | [] => stopHere .invalidNumber []
  | x :: rest => if (digit? x).isSome then .ok (dropDigits rest) else stopHere .invalidNumber rest

/-- Skips what may follow the digits of a number. -/
def skipNumberEnd (input : List UInt8) : Except Stop (List UInt8) :=
  match input with
  | x :: rest =>
    if x = 0x2E then
      if startsWithDigit rest then
        match dropDigits rest with
        | y :: more => if isExponentMark y then skipExponent more else .ok (y :: more)
        | [] => .ok []
      else
        stopAhead .invalidNumber rest
    else if isExponentMark x then skipExponent rest
    else .ok (x :: rest)
  | [] => .ok []

/-- Skips a number, behind its minus sign. -/
def skipNumber (input : List UInt8) : Except Stop (List UInt8) :=
  match input with
  | [] => stopHere .invalidNumber []
  | x :: rest =>
    if x = 0x30 then
      if startsWithDigit rest then stopAhead .invalidNumber rest else skipNumberEnd rest
    else if (digit? x).isSome then skipNumberEnd (dropDigits rest)
    else stopHere .invalidNumber rest

/-- An open bracket. -/
inductive Open where
  | list
  | object
deriving DecidableEq, Repr

/-- The octet that closes a bracket. -/
def Open.close : Open → UInt8
  | .list => 0x5D
  | .object => 0x7D

/-- What is reported when a text ends inside a bracket. -/
def Open.atEnd : Open → Cause
  | .list => .endInList
  | .object => .endInObject

/-- What is reported when neither a comma nor the closing bracket follows an item. -/
def Open.atOther : Open → Cause
  | .list => .expectedListCommaOrEnd
  | .object => .expectedObjectCommaOrEnd

/-- Closes brackets as long as closing ones follow.  Gives back the brackets that are still open
    when another item comes, or none at the end of the value.  `fresh` says that the innermost
    bracket has no item yet. -/
def closeBrackets : (stack : List Open) → (fresh : Bool) → List UInt8 →
    Except Stop (List Open × List UInt8)
  | [], _, input => .ok ([], input)
  | bracket :: stack, fresh, input =>
    match skipSpace input with
    | [] => stopAhead bracket.atEnd []
    | x :: rest =>
      if !fresh && x == 0x2C then .ok (bracket :: stack, rest)
      else if x = bracket.close then closeBrackets stack false rest
      else if fresh then .ok (bracket :: stack, x :: rest)
      else stopAhead bracket.atOther (x :: rest)

/-- Skips the name and the colon in front of the next item of an object. -/
def skipName (bracket : Open) (input : List UInt8) : Except Stop (List UInt8) :=
  match bracket with
  | .list => .ok input
  | .object => do
    match skipSpace input with
    | [] => stopAhead .endInObject []
    | x :: rest =>
      if x = 0x22 then
        let rest ← skipText rest
        readColon rest
      else
        stopAhead .keyMustBeText (x :: rest)

/-- Skips values until all open brackets are closed.  `limit` bounds their number. -/
def skipValues : (limit : Nat) → (stack : List Open) → List UInt8 → Except Stop (List UInt8)
  | 0, _, input => stopAhead .expectedValue input
  | limit + 1, stack, input => do
    let (stack, fresh, rest) ←
      match skipSpace input with
      | [] => stopAhead .endInValue []
      | x :: rest =>
        if x = 0x6E then (readWord (ascii "ull") rest).map fun rest => (stack, false, rest)
        else if x = 0x74 then (readWord (ascii "rue") rest).map fun rest => (stack, false, rest)
        else if x = 0x66 then (readWord (ascii "alse") rest).map fun rest => (stack, false, rest)
        else if x = 0x2D then (skipNumber rest).map fun rest => (stack, false, rest)
        else if (digit? x).isSome then
          (skipNumber (x :: rest)).map fun rest => (stack, false, rest)
        else if x = 0x22 then (skipText rest).map fun rest => (stack, false, rest)
        else if x = 0x5B then .ok (.list :: stack, true, rest)
        else if x = 0x7B then .ok (.object :: stack, true, rest)
        else stopAhead .expectedValue (x :: rest)
    let (stack, rest) ← closeBrackets stack fresh rest
    match stack with
    | [] => .ok rest
    | bracket :: _ =>
      let rest ← skipName bracket rest
      skipValues limit stack rest

/-- Skips one value. -/
def skipValue (input : List UInt8) : Except Stop (List UInt8) :=
  skipValues (input.length + 1) [] input

end Gatehouse.Json
