import Gatehouse.Text.Ascii
import Gatehouse.Text.Blank

/-!
# Numeric addresses

Addresses of four octets, whose parts may be decimal, octal or hexadecimal, and
addresses of eight pieces of sixteen bits.
-/

namespace Gatehouse.Url

/-- The number of a part of an address; `0x` announces hexadecimal and `0` octal digits. -/
def addressNumber? (part : List Char) : Option Nat :=
  let read (base : Nat) (digits : List Char) : Option Nat :=
    digits.foldl
      (fun n c => do
        let n ← n
        let d ← Ascii.hexValue? c
        if d < base then some (n * base + d) else none)
      (some 0)
  match part with
  | [] => none
  | '0' :: 'x' :: digits => read 16 digits
  | '0' :: 'X' :: digits => read 16 digits
  | '0' :: d :: digits => read 8 (d :: digits)
  | digits => read 10 digits

/-- The parts of a domain name without an empty one at the end. -/
def addressParts (name : List Char) : List (List Char) :=
  let parts := Text.splitBy (· == '.') name
  if parts.getLast? = some [] then parts.dropLast else parts

/-- Whether the last part of a domain name is a number, so that the name has to be an address. -/
def endsInNumber (name : List Char) : Bool :=
  match (addressParts name).getLast? with
  | some part => (!part.isEmpty && part.all Ascii.isDigit) || (addressNumber? part).isSome
  | none => false

/-- The address of four octets that a name writes, as a number. -/
def ipv4? (name : List Char) : Option Nat := do
  let numbers ← (addressParts name).mapM addressNumber?
  let last ← numbers.getLast?
  let octets := numbers.dropLast
  if 4 < numbers.length ∨ Nat.pow 256 (4 - octets.length) ≤ last ∨ octets.any (255 < ·) then none
  else some ((octets.zipIdx.foldl (fun sum (n, i) => sum + n * Nat.pow 256 (3 - i)) 0) + last)

/-- The text of an address of four octets. -/
def ipv4Text (address : Nat) : String :=
  Text.joinWith "." ([3, 2, 1, 0].map fun i => toString (address / Nat.pow 256 i % 256))

/-- What is read of an address of eight pieces: the pieces so far, and how many of them stand
    in front of the gap. -/
structure Pieces where
  read : List Nat
  gap : Option Nat

/-- How many pieces have their place; a gap is at least one. -/
def Pieces.count (pieces : Pieces) : Nat :=
  pieces.read.length + if pieces.gap.isSome then 1 else 0

/-- The last part of an address of eight pieces: four decimal octets in two pieces. -/
def embeddedPieces? (text : List Char) : Option (List Nat) := do
  let octets ← (Text.splitBy (· == '.') text).mapM fun part => do
    let n ← Ascii.natural? part
    if 255 < n ∨ (1 < part.length ∧ part.head? = some '0') then none else some n
  match octets with
  | [a, b, c, d] => some [a * 256 + b, c * 256 + d]
  | _ => none

/-- The hexadecimal digits in front of a text, at most `limit`, and what follows. -/
def takeHex : (limit : Nat) → List Char → List Nat × List Char
  | 0, cs => ([], cs)
  | _, [] => ([], [])
  | limit + 1, c :: cs =>
    match Ascii.hexValue? c with
    | some d => let (ds, rest) := takeHex limit cs; (d :: ds, rest)
    | none => ([], c :: cs)

/-- Reads the pieces of an address.  `limit` bounds their number. -/
def readPieces : (limit : Nat) → Pieces → List Char → Option Pieces
  | _, pieces, [] => some pieces
  | 0, _, _ => none
  | limit + 1, pieces, c :: cs =>
    if 8 ≤ pieces.count then none
    else if c = ':' then
      match pieces.gap with
      | some _ => none
      | none => readPieces limit ⟨pieces.read, some pieces.read.length⟩ cs
    else
      let (ds, rest) := takeHex 4 (c :: cs)
      let pieces' : Pieces := ⟨pieces.read ++ [ds.foldl (fun n d => n * 16 + d) 0], pieces.gap⟩
      match rest with
      | [] => some pieces'
      | '.' :: _ =>
        if ds.isEmpty ∨ 6 < pieces.count then none
        else (embeddedPieces? (c :: cs)).map fun last => ⟨pieces.read ++ last, pieces.gap⟩
      | ':' :: more => if more.isEmpty then none else readPieces limit pieces' more
      | _ => none

/-- The eight pieces of an address, with zeros in its gap. -/
def ipv6? (text : List Char) : Option (List Nat) := do
  let pieces ← match text with
    | ':' :: ':' :: rest => readPieces (rest.length + 1) ⟨[], some 0⟩ rest
    | ':' :: _ => none
    | [_] => none
    | [] => none
    | _ => readPieces (text.length + 1) ⟨[], none⟩ text
  match pieces.gap with
  | none => if pieces.read.length = 8 then some pieces.read else none
  | some gap =>
    some (pieces.read.take gap ++ List.replicate (8 - pieces.read.length) 0 ++ pieces.read.drop gap)

/-- The longest run of at least two zeros: its place and its length. -/
def longestZeros : (place : Nat) → (run : Nat) → (best : Nat × Nat) → List Nat → Nat × Nat
  | _, _, best, [] => best
  | place, run, best, n :: rest =>
    if n = 0 then
      let run := run + 1
      longestZeros (place + 1) run (if best.2 < run ∧ 2 ≤ run then (place + 1 - run, run) else best)
        rest
    else longestZeros (place + 1) 0 best rest

/-- The text of an address of eight pieces, with its longest run of zeros left out. -/
def ipv6Text (pieces : List Nat) : String :=
  let hex (n : Nat) : String := .ofList (Nat.toDigits 16 n)
  let (place, run) := longestZeros 0 0 (0, 0) pieces
  if run = 0 then Text.joinWith ":" (pieces.map hex)
  else
    Text.joinWith ":" ((pieces.take place).map hex) ++ "::" ++
      Text.joinWith ":" ((pieces.drop (place + run)).map hex)

end Gatehouse.Url
