import Gatehouse.Settings.Error
import Gatehouse.Text.Blank
import Gatehouse.Text.Case
import Gatehouse.Text.Quoted

/-!
# Variables

Variables by name, as they come from the environment.  A name in lower case is read as
a path into nested values: `a.b` makes `a` a table and `a[0]` makes it a list.  A name
that is no such path stands for itself.
-/

namespace Gatehouse.Settings

/-- Variables with their values. -/
abbrev Variables := List (String × String)

/-- What a name holds after all variables have been put in place. -/
inductive Held where
  | text (s : String)
  | table
  | list
deriving DecidableEq, Repr

/-- Whether a character may stand in a name of a path. -/
def isNameChar (c : Char) : Bool :=
  Ascii.isAlphanumeric c || c == '_' || c == '-'

/-- A step from a name into its value. -/
inductive PathStep where
  | member
  | item
deriving DecidableEq, Repr

/-- Whether a character is a blank between brackets. -/
def isPathBlank (c : Char) : Bool :=
  c == ' ' || c == '\t'

/-- Whether a text between brackets is an index: an integer of 64 bits. -/
def isIndex (cs : List Char) : Bool :=
  match Text.trimBy isPathBlank cs with
  | '-' :: digits => (Ascii.natural? digits).any (· ≤ Nat.pow 2 63)
  | digits => (Ascii.natural? digits).any (· < Nat.pow 2 63)

/-- The steps behind the first name of a path.  `limit` bounds their number. -/
def readSteps : (limit : Nat) → List Char → Option (List PathStep)
  | _, [] => some []
  | 0, _ => none
  | limit + 1, c :: cs =>
    if c = '.' then
      let name := cs.takeWhile isNameChar
      if name.isEmpty then none
      else (readSteps limit (cs.dropWhile isNameChar)).map (.member :: ·)
    else if c = '[' then
      match Text.cutAt? (· == ']') cs with
      | some (index, rest) =>
        if isIndex index then (readSteps limit rest).map (.item :: ·) else none
      | none => none
    else none

/-- The name that a variable sets, and the kind of what it holds. -/
def place (name value : String) : String × Held :=
  let cs := (Text.lowercase name).toList
  let root := cs.takeWhile isNameChar
  match if root.isEmpty then none else readSteps cs.length (cs.dropWhile isNameChar) with
  | some (.member :: _) => (.ofList root, .table)
  | some (.item :: _) => (.ofList root, .list)
  | _ => (.ofList cs, .text value)

/-- What a name holds; the last variable that sets it counts. -/
def held? (env : Variables) (name : String) : Option Held :=
  ((env.map fun (n, v) => place n v).findRev? (·.1 == name)).map (·.2)

/-- An error about the type of what a name holds. -/
def wrongType (found expected name : String) (given : Bool) : ConfigError :=
  .source ("invalid type: " ++ found ++ ", expected " ++ expected ++ " for key `" ++ name ++ "`" ++
    if given then " in the environment" else "")

/-- The text of a name. -/
def text? (env : Variables) (name : String) : Except ConfigError (Option String) :=
  match held? env name with
  | none => .ok none
  | some (.text s) => .ok (some s)
  | some .table => .error (wrongType "map" "a string" name false)
  | some .list => .error (wrongType "sequence" "a string" name false)

/-- A number as variables write it: a numeral of at most 64 bits, or a word for yes or no. -/
def number? (s : String) : Option Nat :=
  match Text.lowercase s with
  | "true" => some 1
  | "on" => some 1
  | "yes" => some 1
  | "false" => some 0
  | "off" => some 0
  | "no" => some 0
  | _ =>
    let digits := match s.toList with
      | '+' :: digits => digits
      | digits => digits
    match Ascii.natural? digits with
    | some n => if n < Nat.pow 2 64 then some n else none
    | none => none

/-- The port of a name. -/
def port? (env : Variables) (name : String) : Except ConfigError (Option Nat) :=
  match held? env name with
  | none => .ok none
  | some (.text s) =>
    match number? s with
    | none => .error (wrongType ("string " ++ Text.quote s) "an integer" name true)
    | some n =>
      if n ≤ 65535 then .ok (some n)
      else
        .error (wrongType ("64-bit unsigned integer `" ++ toString n ++ "`")
          "an unsigned 16 bit integer" name false)
  | some .table => .error (wrongType "map" "an integer" name false)
  | some .list => .error (wrongType "sequence" "an integer" name false)

/-- The switch of a name. -/
def switch? (env : Variables) (name : String) : Except ConfigError (Option Bool) :=
  match held? env name with
  | none => .ok none
  | some (.text s) =>
    match Text.lowercase s with
    | "1" => .ok (some true)
    | "true" => .ok (some true)
    | "on" => .ok (some true)
    | "yes" => .ok (some true)
    | "0" => .ok (some false)
    | "false" => .ok (some false)
    | "off" => .ok (some false)
    | "no" => .ok (some false)
    | other => .error (wrongType ("string " ++ Text.quote other) "a boolean" name true)
  | some .table => .error (wrongType "map" "a boolean" name false)
  | some .list => .error (wrongType "sequence" "a boolean" name false)

end Gatehouse.Settings
