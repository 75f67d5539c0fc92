import Gatehouse.Decimal.Shortest

/-!
# JSON values

A value as it is kept after reading: integers exactly, other numbers in double
precision, and the members of an object in the order of their names, each name once.
-/

namespace Gatehouse.Json

open Gatehouse.Decimal (Binary64)

/-- A number: an integer of at most 64 bits, or a number in double precision. -/
inductive Number where
  | integer (n : Int)
  | real (x : Binary64)
deriving DecidableEq, Repr

/-- The text of a number. -/
def Number.text : Number → String
  | .integer n => toString n
  | .real x => x.text

/-- A JSON value. -/
inductive Value where
  | null
  | bool (b : Bool)
  | number (n : Number)
  | text (s : String)
  | list (items : List Value)
  | object (members : List (String × Value))
deriving Repr

/-- Adds a member to members in the order of their names; a member of the same name is replaced. -/
def insertMember {α : Type} (name : String) (value : α) :
    List (String × α) → List (String × α)
  | [] => [(name, value)]
  | (other, held) :: rest =>
    if name = other then (name, value) :: rest
    else if name < other then (name, value) :: (other, held) :: rest
    else (other, held) :: insertMember name value rest

/-- The object with the given members, of which the last of each name counts. -/
def Value.ofMembers (members : List (String × Value)) : Value :=
  .object (members.foldl (fun kept (name, value) => insertMember name value kept) [])

end Gatehouse.Json
