import Gatehouse.Json.Token

/-!
# Reading JSON

Values of any shape, values that are skipped, and the parts of which readers for
described records are made.  Lists and objects may nest 127 levels deep where a
value is kept; a skipped value may nest to any depth.
-/

namespace Gatehouse.Json

/-- The octets of a word of ASCII characters. -/
def ascii (word : String) : List UInt8 :=
  word.toList.map fun c => .ofNat c.toNat

/-- How many levels a text may nest. -/
def maxDepth : Nat := 127

/-- The items of a list, behind its opening bracket, up to and with the closing one.
    `limit` bounds their number. -/
def readItems {α : Type} (item : Reader α) : (limit : Nat) → (first : Bool) → Reader (List α)
  | 0, _, input => stopAhead .expectedListCommaOrEnd input
  | limit + 1, first, input => do
    match skipSpace input with
    | [] => stopAhead .endInList []
    | x :: rest =>
      if x = 0x5D then
        .ok ([], rest)
      else if first then
        let (a, rest) ← item (x :: rest)
        let (as, rest) ← readItems item limit false rest
        .ok (a :: as, rest)
      else if x = 0x2C then
        match skipSpace rest with
        | [] => stopAhead .endInValue []
        | y :: rest =>
          if y = 0x5D then stopAhead .trailingComma (y :: rest)
          else
            let (a, rest) ← item (y :: rest)
            let (as, rest) ← readItems item limit false rest
            .ok (a :: as, rest)
      else
        stopAhead .expectedListCommaOrEnd (x :: rest)

/-- The colon behind a name. -/
def readColon (input : List UInt8) : Except Stop (List UInt8) :=
  match skipSpace input with
  | [] => stopAhead .endInObject []
  | x :: rest => if x = 0x3A then .ok rest else stopAhead .expectedColon (x :: rest)

/-- What comes next in an object. -/
inductive NextMember where
  | none (rest : List UInt8)
  | name (name : String) (rest : List UInt8)

/-- The next name of an object, or its closing brace. -/
def readName (first : Bool) (input : List UInt8) : Except Stop NextMember :=
  match skipSpace input with
  | [] => stopAhead .endInObject []
  | x :: rest =>
    if x = 0x7D then
      .ok (.none rest)
    else if first then
      if x = 0x22 then (readText rest).map fun (name, rest) => .name name rest
      else stopAhead .keyMustBeText (x :: rest)
    else if x = 0x2C then
      match skipSpace rest with
      | [] => stopAhead .endInValue []
      | y :: rest =>
        if y = 0x22 then (readText rest).map fun (name, rest) => .name name rest
        else if y = 0x7D then stopAhead .trailingComma (y :: rest)
        else stopAhead .keyMustBeText (y :: rest)
    else
      stopAhead .expectedObjectCommaOrEnd (x :: rest)

/-- The members of an object, behind its opening brace, up to and with the closing one.
    `limit` bounds their number. -/
def readMembers {α : Type} (item : Reader α) :
    (limit : Nat) → (first : Bool) → Reader (List (String × α))
  | 0, _, input => stopAhead .expectedObjectCommaOrEnd input
  | limit + 1, first, input => do
    match ← readName first input with
    | .none rest => .ok ([], rest)
    | .name name rest =>
      let rest ← readColon rest
      let (a, rest) ← item rest
      let (as, rest) ← readMembers item limit false rest
      .ok ((name, a) :: as, rest)

/-- A value, in which lists and objects may nest `depth` levels deep. -/
def readValue : (depth : Nat) → Reader Value
  | depth, input =>
    match skipSpace input with
    | [] => stopAhead .endInValue []
    | x :: rest =>
      if x = 0x6E then
        (readWord (ascii "ull") rest).map fun rest => (.null, rest)
      else if x = 0x74 then
        (readWord (ascii "rue") rest).map fun rest => (.bool true, rest)
      else if x = 0x66 then
        (readWord (ascii "alse") rest).map fun rest => (.bool false, rest)
      else if x = 0x2D then
        (readNumber true rest).map fun (n, rest) => (.number n, rest)
      else if (digit? x).isSome then
        (readNumber false (x :: rest)).map fun (n, rest) => (.number n, rest)
      else if x = 0x22 then
        (readText rest).map fun (s, rest) => (.text s, rest)
      else if x = 0x5B then
        match depth with
        | 0 => stopAhead .tooDeep (x :: rest)
        | depth + 1 =>
          (readItems (readValue depth) (rest.length + 1) true rest).map fun (items, rest) =>
            (.list items, rest)
      else if x = 0x7B then
        match depth with
        | 0 => stopAhead .tooDeep (x :: rest)
        | depth + 1 =>
          (readMembers (readValue depth) (rest.length + 1) true rest).map fun (members, rest) =>
            (.ofMembers members, rest)
      else
        stopAhead .expectedValue (x :: rest)

/-- Stops at a value of another type than the one expected.  A scalar is read first, so that
    one that is malformed is reported as such. -/
def wrongType {α : Type} (expected : String) (input : List UInt8) : Except Stop α :=
  match input with
  | [] => stopAhead .endInValue []
  | x :: rest => do
    if x = 0x6E then
      let rest ← readWord (ascii "ull") rest
      stopHere (.wrongType .null expected) rest
    else if x = 0x74 then
      let rest ← readWord (ascii "rue") rest
      stopHere (.wrongType (.bool true) expected) rest
    else if x = 0x66 then
      let rest ← readWord (ascii "alse") rest
      stopHere (.wrongType (.bool false) expected) rest
    else if x = 0x2D then
      let (n, rest) ← readNumber true rest
      stopHere (.wrongType (.number n) expected) rest
    else if (digit? x).isSome then
      let (n, rest) ← readNumber false (x :: rest)
      stopHere (.wrongType (.number n) expected) rest
    else if x = 0x22 then
      let (s, rest) ← readText rest
      stopHere (.wrongType (.text s) expected) rest
    else if x = 0x5B then
      stopHere (.wrongType .list expected) (x :: rest)
    else if x = 0x7B then
      stopHere (.wrongType .object expected) (x :: rest)
    else
      stopAhead .expectedValue (x :: rest)

/-- A string and nothing else. -/
def readString : Reader String := fun input =>
  match skipSpace input with
  | [] => stopAhead .endInValue []
  | x :: rest => if x = 0x22 then readText rest else wrongType "a string" (x :: rest)

/-- A string or `null`. -/
def readOptionalString : Reader (Option String) := fun input =>
  match skipSpace input with
  | [] => stopAhead .endInValue []
  | x :: rest =>
    if x = 0x6E then (readWord (ascii "ull") rest).map fun rest => (none, rest)
    else (readString (x :: rest)).map fun (s, rest) => (some s, rest)

/-- A list of items and nothing else, at a place where `depth` more levels are allowed. -/
def readList {α : Type} (item : Nat → Reader α) (depth : Nat) : Reader (List α) := fun input =>
  match skipSpace input with
  | [] => stopAhead .endInValue []
  | x :: rest =>
    if x = 0x5B then
      match depth with
      | 0 => stopAhead .tooDeep (x :: rest)
      | depth + 1 => readItems (item depth) (rest.length + 1) true rest
    else
      wrongType "a sequence" (x :: rest)

/-- Reads a whole text, which white space may surround. -/
def read {α : Type} (reader : Reader α) (input : List UInt8) : Except Fault α :=
  let result : Except Stop α := do
    let (a, rest) ← reader input
    match skipSpace rest with
    | [] => .ok a
    | rest => stopAhead .trailingCharacters rest
  match result with
  | .ok a => .ok a
  | .error stop => .error (stop.inText input)

end Gatehouse.Json
