import Gatehouse.Json.Skip

/-!
# Records in JSON

A record with named members, read from an object or from a list with the members in
their order.  In an object unknown members are skipped and a repeated known one is
refused.  A member that is not required may be absent.
-/

namespace Gatehouse.Json

/-- A member of records that are filled as values of `σ`. -/
structure Member (σ : Type) where
  name : String
  required : Bool
  /-- Whether the member has been read. -/
  filled : σ → Bool
  /-- Reads the member's value, inside of which `depth` more levels are allowed. -/
  fill : (depth : Nat) → σ → Reader σ

/-- The description of a kind of record. -/
structure Shape (σ : Type) where
  title : String
  members : List (Member σ)

/-- A member that holds a string. -/
def Member.text {σ : Type} (name : String) (required : Bool) (get : σ → Option String)
    (set : σ → String → σ) : Member σ where
  name := name
  required := required
  filled record := (get record).isSome
  fill _ record input := (readString input).map fun (s, rest) => (set record s, rest)

namespace Shape

variable {σ : Type}

/-- The record as a message describes it. -/
def expected (shape : Shape σ) : String :=
  "struct " ++ shape.title

/-- The record with the number of its members. -/
def expectedLength (shape : Shape σ) : String :=
  shape.expected ++ " with " ++ toString shape.members.length ++ " elements"

/-- The place and name of the first required member that has not been read. -/
def missing? (shape : Shape σ) (record : σ) : Option (Nat × String) :=
  (shape.members.zipIdx.find? fun (m, _) => m.required && !m.filled record).map fun (m, i) =>
    (i, m.name)

/-- The members of an object, up to and with its closing brace, or what is wrong with their
    names together with the octets behind that point. -/
def readMembers (shape : Shape σ) (depth : Nat) :
    (limit : Nat) → (first : Bool) → σ → Reader (Except Cause σ)
  | 0, _, _, input => stopAhead .expectedObjectCommaOrEnd input
  | limit + 1, first, record, input => do
    match ← readName first input with
    | .none rest =>
      match shape.missing? record with
      | some (_, name) => .ok (.error (.missingMember name), rest)
      | none => .ok (.ok record, rest)
    | .name name rest =>
      match shape.members.find? (·.name == name) with
      | some m =>
        if m.filled record then
          match skipSpace rest with
          | 0x7D :: rest => .ok (.error (.repeatedMember name), rest)
          | rest => .ok (.error (.repeatedMember name), rest)
        else
          let rest ← readColon rest
          let (record, rest) ← m.fill depth record rest
          readMembers shape depth limit false record rest
      | none =>
        let rest ← readColon rest
        let rest ← skipValue rest
        readMembers shape depth limit false record rest

/-- The end of a list behind all members of a record. -/
def readListEnd (input : List UInt8) : Except Stop (List UInt8) :=
  match skipSpace input with
  | [] => stopAhead .endInList []
  | x :: rest =>
    if x = 0x5D then .ok rest
    else if x = 0x2C then
      match skipSpace rest with
      | [] => stopAhead .trailingCharacters []
      | y :: rest =>
        if y = 0x5D then stopAhead .trailingComma (y :: rest)
        else stopAhead .trailingCharacters (y :: rest)
    else
      stopAhead .trailingCharacters (x :: rest)

/-- The items of a list as the members of a record, up to and with the closing bracket. -/
def readItems (shape : Shape σ) (depth : Nat) :
    (members : List (Member σ)) → (first : Bool) → σ → Reader (Except Cause σ)
  | [], _, record, input => (readListEnd input).map fun rest => (.ok record, rest)
  | m :: members, first, record, input => do
    match skipSpace input with
    | [] => stopAhead .endInList []
    | x :: rest =>
      if x = 0x5D then
        match shape.missing? record with
        | some (place, _) => .ok (.error (.wrongLength place shape.expectedLength), rest)
        | none => .ok (.ok record, rest)
      else if first then
        let (record, rest) ← m.fill depth record (x :: rest)
        readItems shape depth members false record rest
      else if x = 0x2C then
        match skipSpace rest with
        | [] => stopAhead .endInValue []
        | y :: rest =>
          if y = 0x5D then stopAhead .trailingComma (y :: rest)
          else
            let (record, rest) ← m.fill depth record (y :: rest)
            readItems shape depth members false record rest
      else
        stopAhead .expectedListCommaOrEnd (x :: rest)

/-- Turns what is wrong with a record as a whole into a stop behind the record. -/
def settle (result : Except Cause σ × List UInt8) : Except Stop (σ × List UInt8) :=
  match result with
  | (.ok record, rest) => .ok (record, rest)
  | (.error cause, rest) => stopHere cause rest

/-- Reads a record, starting from an empty one. -/
def read (shape : Shape σ) (blank : σ) (depth : Nat) : Reader σ := fun input =>
  match skipSpace input with
  | [] => stopAhead .endInValue []
  | x :: rest =>
    if x = 0x5B then
      match depth with
      | 0 => stopAhead .tooDeep (x :: rest)
      | depth + 1 => do settle (← shape.readItems depth shape.members true blank rest)
    else if x = 0x7B then
      match depth with
      | 0 => stopAhead .tooDeep (x :: rest)
      | depth + 1 => do settle (← shape.readMembers depth (rest.length + 1) true blank rest)
    else
      wrongType shape.expected (x :: rest)

end Shape

end Gatehouse.Json
