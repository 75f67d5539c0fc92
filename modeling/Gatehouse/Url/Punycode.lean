import Gatehouse.Text.Ascii

/-!
# Punycode

A label with characters above U+007F as letters, digits and hyphens: first its ASCII
characters, then, in the order of their code points, the places of all others as
numbers with digits to a varying base.
-/

namespace Gatehouse.Url.Punycode

/-- The digit of a number below 36: letters, then decimal digits. -/
def digit (n : Nat) : Char :=
  if n < 26 then .ofNat ('a'.toNat + n) else .ofNat ('0'.toNat + (n - 26))

/-- The number of a digit. -/
def value? (c : Char) : Option Nat :=
  if Ascii.isLower c then some (c.toNat - 'a'.toNat)
  else if Ascii.isUpper c then some (c.toNat - 'A'.toNat)
  else if Ascii.isDigit c then some (c.toNat - '0'.toNat + 26)
  else none

/-- The least value of the digit at a place that says that another digit follows. -/
def threshold (place bias : Nat) : Nat :=
  if place ≤ bias + 1 then 1 else if bias + 26 ≤ place then 26 else place - bias

/-- Divides a distance until it is small, and counts. -/
def shrink (distance count : Nat) : Nat × Nat :=
  if 455 < distance then shrink (distance / 35) (count + 36) else (distance, count)
termination_by distance
decreasing_by exact Nat.div_lt_self (by omega) (by omega)

/-- The bias after a distance, of which there have been `points`. -/
def adapt (distance points : Nat) (first : Bool) : Nat :=
  let start := if first then distance / 700 else distance / 2
  let (left, count) := shrink (start + start / points) 0
  count + 36 * left / (left + 38)

/-- The digits of a number.  `limit` bounds their count. -/
def digits (bias : Nat) : (limit : Nat) → (place n : Nat) → List Char
  | 0, _, _ => []
  | limit + 1, place, n =>
    let t := threshold place bias
    if n < t then [digit n]
    else digit (t + (n - t) % (36 - t)) :: digits bias limit (place + 36) ((n - t) / (36 - t))

/-- What is kept while a label is written. -/
structure Writing where
  output : List Char
  distance : Nat
  bias : Nat
  done : Nat

/-- Writes the places of one character in a label of which `ascii` characters are ASCII. -/
def writeChar (ascii : Nat) (point : Nat) (label : List Char) (w : Writing) : Writing :=
  label.foldl
    (fun w c =>
      if c.toNat < point then { w with distance := w.distance + 1 }
      else if c.toNat = point then
        { output := w.output ++ digits w.bias (w.distance + 1) 36 w.distance
          distance := 0
          bias := adapt w.distance (w.done + 1) (w.done = ascii)
          done := w.done + 1 }
      else w)
    w

/-- Numbers in order, each once. -/
def insertPoint (n : Nat) : List Nat → List Nat
  | [] => [n]
  | m :: rest =>
    if n < m then n :: m :: rest else if n = m then m :: rest else m :: insertPoint n rest

/-- The label in letters, digits and hyphens. -/
def encode (label : List Char) : List Char :=
  let basic := label.filter (·.toNat < 0x80)
  let points := (label.filter (0x80 ≤ ·.toNat)).foldl (fun ps c => insertPoint c.toNat ps) []
  let (_, w) := points.foldl
    (fun (next, w) point =>
      let w := { w with distance := w.distance + (point - next) * (w.done + 1) }
      let w := writeChar basic.length point label w
      (point + 1, { w with distance := w.distance + 1 }))
    (0x80, (⟨[], 0, 72, basic.length⟩ : Writing))
  (if basic.isEmpty then [] else basic ++ ['-']) ++ w.output

/-- Reads one number. -/
def readNumber (bias : Nat) : (place weight sum : Nat) → List Char → Option (Nat × List Char)
  | _, _, _, [] => none
  | place, weight, sum, c :: rest => do
    let d ← value? c
    let sum := sum + d * weight
    let t := threshold place bias
    if d < t then some (sum, rest) else readNumber bias (place + 36) (weight * (36 - t)) sum rest

/-- Reads the places of characters and puts these into the label.  `limit` bounds their number. -/
def readPoints : (limit : Nat) → (point place bias : Nat) → (label : List Char) → List Char →
    Option (List Char)
  | _, _, _, _, label, [] => some label
  | 0, _, _, _, _, _ => none
  | limit + 1, point, place, bias, label, input => do
    let (distance, rest) ← readNumber bias 36 1 0 input
    let size := label.length + 1
    let point := point + (place + distance) / size
    let here := (place + distance) % size
    if 0x10FFFF < point ∨ (0xD800 ≤ point ∧ point < 0xE000) then none
    else
      readPoints limit point (here + 1) (adapt distance size (place = 0))
        (label.take here ++ .ofNat point :: label.drop here) rest

/-- The label that letters, digits and hyphens stand for. -/
def decode? (text : List Char) : Option (List Char) :=
  let back := text.reverse
  let places := (back.takeWhile (· != '-')).reverse
  let basic := ((back.dropWhile (· != '-')).drop 1).reverse
  readPoints (places.length + 1) 0x80 0 72 basic places

end Gatehouse.Url.Punycode
