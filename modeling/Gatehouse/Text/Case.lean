import Gatehouse.Text.Ascii
import Gatehouse.Text.Property.Casing

/-!
# Lower case

The full lower-case form of a text.  It is made character by character, except that
a capital sigma at the end of a word becomes the final sigma.
-/

namespace Gatehouse.Text

/-- The lower-case form of a character from the list of runs. -/
def lowerFrom (runs : List CaseRun) (c : Char) : Char :=
  match runs.find? fun run => run.first ≤ c.toNat && c.toNat ≤ run.last with
  | some run =>
    if (c.toNat - run.first) % run.stride = 0 then .ofNat (c.toNat + run.shift).toNat else c
  | none => c

/-- The lower-case form of a character by itself. -/
def lowerChar (c : Char) : List Char :=
  if c.toNat < 0x80 then [Ascii.lower c]
  else if c = '\u0130' then ['i', '\u0307']
  else [lowerFrom lowerRuns c]

/-- Whether the first character that is not ignored is cased. -/
def casedAhead (cs : List Char) : Bool :=
  match cs.dropWhile caseIgnorable.has with
  | c :: _ => cased.has c
  | [] => false

/-- The lower-case form of a text behind the characters `before`, the last one first. -/
def lowerAfter (before : List Char) : List Char → List Char
  | [] => []
  | c :: cs =>
    let here :=
      if c = 'Σ' then [if casedAhead before && !casedAhead cs then 'ς' else 'σ'] else lowerChar c
    here ++ lowerAfter (c :: before) cs

/-- The lower-case form of a string. -/
def lowercase (s : String) : String :=
  .ofList (lowerAfter [] s.toList)

end Gatehouse.Text
