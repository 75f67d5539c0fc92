/-!
# Base64

Three octets as four letters.  Two alphabets are in use: the usual one, filled up
with `=`, for tags in cookies and for credentials; the one made for URLs, without
filling, for values.  Reading accepts exactly what writing in the alphabet for
URLs produces and says at which octet any other input goes wrong.
-/

namespace Gatehouse.Base64

/-- An alphabet is fixed by its last two letters and by whether `=` fills the last group. -/
structure Alphabet where
  letter62 : Char
  letter63 : Char
  filled : Bool
deriving DecidableEq, Repr

/-- The usual alphabet. -/
def usual : Alphabet := ⟨'+', '/', true⟩

/-- The alphabet whose letters mean nothing in URLs, file names and cookies. -/
def urlSafe : Alphabet := ⟨'-', '_', false⟩

/-- The letter of a number below 64. -/
def Alphabet.letter (alphabet : Alphabet) (n : Nat) : Char :=
  if n < 26 then .ofNat ('A'.toNat + n)
  else if n < 52 then .ofNat ('a'.toNat + (n - 26))
  else if n < 62 then .ofNat ('0'.toNat + (n - 52))
  else if n = 62 then alphabet.letter62
  else alphabet.letter63

/-- The `=` signs that fill up a group, if the alphabet wants them. -/
def Alphabet.filling (alphabet : Alphabet) (count : Nat) : List Char :=
  if alphabet.filled then List.replicate count '=' else []

/-- Writes octets as letters, three by three. -/
def encode (alphabet : Alphabet) : List UInt8 → List Char
  | [] => []
  | [a] =>
    [alphabet.letter (a.toNat / 4), alphabet.letter (a.toNat % 4 * 16)] ++ alphabet.filling 2
  | [a, b] =>
    [alphabet.letter (a.toNat / 4), alphabet.letter (a.toNat % 4 * 16 + b.toNat / 16),
      alphabet.letter (b.toNat % 16 * 4)] ++ alphabet.filling 1
  | a :: b :: c :: rest =>
    alphabet.letter (a.toNat / 4) :: alphabet.letter (a.toNat % 4 * 16 + b.toNat / 16) ::
      alphabet.letter (b.toNat % 16 * 4 + c.toNat / 64) :: alphabet.letter (c.toNat % 64) ::
      encode alphabet rest

/-- Why a text is not Base64 in the alphabet for URLs. -/
inductive Fault where
  /-- The octet at a place is no letter. -/
  | symbol (octet : UInt8) (place : Nat)
  /-- The last letter carries bits that belong to no octet. -/
  | lastSymbol (octet : UInt8) (place : Nat)
  /-- One letter is left over. -/
  | length (count : Nat)
  /-- The text is filled up with `=`. -/
  | filling
deriving DecidableEq, Repr

/-- The wording of a fault. -/
def Fault.message : Fault → String
  | .symbol octet place =>
    "Invalid symbol " ++ toString octet.toNat ++ ", offset " ++ toString place ++ "."
  | .lastSymbol octet place =>
    "Invalid last symbol " ++ toString octet.toNat ++ ", offset " ++ toString place ++ "."
  | .length count => "Invalid input length: " ++ toString count
  | .filling => "Invalid padding"

/-- The number that a letter of the alphabet for URLs stands for. -/
def value? (octet : UInt8) : Option Nat :=
  let n := octet.toNat
  if 65 ≤ n ∧ n ≤ 90 then some (n - 65)
  else if 97 ≤ n ∧ n ≤ 122 then some (n - 71)
  else if 48 ≤ n ∧ n ≤ 57 then some (n + 4)
  else if n = 45 then some 62
  else if n = 95 then some 63
  else none

/-- The number of the letter at a place. -/
def valueAt (octet : UInt8) (place : Nat) : Except Fault Nat :=
  match value? octet with
  | some n => .ok n
  | none => .error (.symbol octet place)

/-- The letters of the last group, with the place in the group of the first `=`, if there is one. -/
def lastLetters (start : Nat) :
    (group : List UInt8) → (index : Nat) → (equals : Option Nat) →
      Except Fault (List (UInt8 × Nat) × Option Nat)
  | [], _, equals => .ok ([], equals)
  | x :: rest, index, equals =>
    if x = 61 then
      if index < 2 then .error (.symbol x (start + index))
      else lastLetters start rest (index + 1) (equals <|> some index)
    else
      match equals with
      | some first => .error (.symbol 61 (start + first))
      | none => do
        let n ← valueAt x (start + index)
        let (letters, equals) ← lastLetters start rest (index + 1) none
        .ok ((x, n) :: letters, equals)

/-- Reads the last group, of at most four letters, which begins at a place. -/
def decodeLast (start : Nat) (group : List UInt8) : Except Fault (List UInt8) := do
  let (letters, equals) ← lastLetters start group 0 none
  if !group.isEmpty && letters.length < 2 then
    .error (.length (start + letters.length))
  else if equals.isSome then
    .error .filling
  else
    match letters with
    | [(_, a), (x, b)] =>
      if b % 16 = 0 then .ok [.ofNat (a * 4 + b / 16)] else .error (.lastSymbol x (start + 1))
    | [(_, a), (_, b), (x, c)] =>
      if c % 4 = 0 then .ok [.ofNat (a * 4 + b / 16), .ofNat (b % 16 * 16 + c / 4)]
      else .error (.lastSymbol x (start + 2))
    | [(_, a), (_, b), (_, c), (_, d)] =>
      .ok [.ofNat (a * 4 + b / 16), .ofNat (b % 16 * 16 + c / 4), .ofNat (c % 4 * 64 + d)]
    | _ => .ok []

/-- Reads groups of four letters, the first of which begins at a place. -/
def decodeFrom (start : Nat) : List UInt8 → Except Fault (List UInt8)
  | a :: b :: c :: d :: e :: rest => do
    let a ← valueAt a start
    let b ← valueAt b (start + 1)
    let c ← valueAt c (start + 2)
    let d ← valueAt d (start + 3)
    let more ← decodeFrom (start + 4) (e :: rest)
    .ok (.ofNat (a * 4 + b / 16) :: .ofNat (b % 16 * 16 + c / 4) :: .ofNat (c % 4 * 64 + d) :: more)
  | group => decodeLast start group

/-- Whether the last octet, standing alone in its group, is no letter; a stray
    octet at the end of a text, such as a line break, is reported before all else. -/
def strayEnd? (octets : List UInt8) : Option Fault :=
  match octets.getLast? with
  | some x =>
    if octets.length % 4 = 1 ∧ x ≠ 61 ∧ value? x = none then
      some (.symbol x (octets.length - 1))
    else none
  | none => none

/-- Reads the octets of a text in the alphabet for URLs, without filling. -/
def decode (octets : List UInt8) : Except Fault (List UInt8) :=
  match strayEnd? octets with
  | some fault => .error fault
  | none => decodeFrom 0 octets

end Gatehouse.Base64
