import Gatehouse.Json.Fault
import Gatehouse.Text.Utf8

/-!
# JSON tokens

White space, words, strings and numbers.  Each reader starts at its first octet, or
behind the quote or the minus sign that announced it, and gives back what follows.
-/

namespace Gatehouse.Json

open Gatehouse.Decimal (Binary64)

/-- Whether an octet is white space between tokens. -/
def isSpace (octet : UInt8) : Bool :=
  octet == 0x20 || octet == 0x0A || octet == 0x09 || octet == 0x0D

/-- The octets behind white space. -/
def skipSpace (input : List UInt8) : List UInt8 :=
  input.dropWhile isSpace

/-- The rest of a word of which the first letter has been read. -/
def readWord : (word : List UInt8) → List UInt8 → Except Stop (List UInt8)
  | [], rest => .ok rest
  | _ :: _, [] => stopHere .endInValue []
  | w :: word, x :: rest => if x = w then readWord word rest else stopHere .expectedWord rest

/-- The four digits of an escape. -/
def readHex (input : List UInt8) : Except Stop Nat :=
  match input with
  | a :: b :: c :: d :: rest =>
    let digit (x : UInt8) := Ascii.hexValue? (.ofNat x.toNat)
    match digit a, digit b, digit c, digit d with
    | some a, some b, some c, some d => .ok (a * 4096 + b * 256 + c * 16 + d)
    | _, _, _, _ => stopHere .invalidEscape rest
  | _ => stopHere .endInText []

/-- A number that stands for the first half of a character above U+FFFF. -/
def isHighSurrogate (n : Nat) : Bool :=
  0xD800 ≤ n && n ≤ 0xDBFF

/-- A number that stands for the second half of a character above U+FFFF. -/
def isLowSurrogate (n : Nat) : Bool :=
  0xDC00 ≤ n && n ≤ 0xDFFF

/-- The character of an escape by number, and how many octets behind the `u` it takes. -/
def readCodePoint (input : List UInt8) : Except Stop (Char × Nat) := do
  let n ← readHex input
  let rest := input.drop 4
  if isLowSurrogate n then
    stopHere .loneSurrogate rest
  else if !isHighSurrogate n then
    .ok (.ofNat n, 4)
  else
    match rest with
    | [] => stopHere .endInText []
    | [x] => if x = 0x5C then stopHere .endInText [] else stopHere .unexpectedEndOfEscape []
    | x :: y :: more =>
      if x ≠ 0x5C then stopHere .unexpectedEndOfEscape (y :: more)
      else if y ≠ 0x75 then stopHere .unexpectedEndOfEscape more
      else
        let m ← readHex more
        if isLowSurrogate m then
          .ok (.ofNat ((n - 0xD800) * 0x400 + (m - 0xDC00) + 0x10000), 10)
        else
          stopHere .loneSurrogate (more.drop 4)

/-- The character that a letter behind a backslash stands for. -/
def simpleEscape? (letter : UInt8) : Option Char :=
  if letter = 0x22 then some '"'
  else if letter = 0x5C then some '\\'
  else if letter = 0x2F then some '/'
  else if letter = 0x62 then some '\x08'
  else if letter = 0x66 then some '\x0c'
  else if letter = 0x6E then some '\n'
  else if letter = 0x72 then some '\r'
  else if letter = 0x74 then some '\t'
  else none

/-- The character of an escape, and how many octets behind the backslash it takes. -/
def readEscape (input : List UInt8) : Except Stop (Char × Nat) :=
  match input with
  | [] => stopHere .endInText []
  | x :: rest =>
    if x = 0x75 then (readCodePoint rest).map fun (c, used) => (c, used + 1)
    else
      match simpleEscape? x with
      | some c => .ok (c, 1)
      | none => stopHere .invalidEscape rest

/-- The octets of a string, behind its opening quote. -/
def readTextOctets (input : List UInt8) : Except Stop (List UInt8 × List UInt8) :=
  match input with
  | [] => stopHere .endInText []
  | x :: rest =>
    if x = 0x22 then .ok ([], rest)
    else if x = 0x5C then
      match readEscape rest with
      | .error stop => .error stop
      | .ok (c, used) =>
        (readTextOctets (rest.drop used)).map fun (octets, after) =>
          (Utf8.encodeChar c ++ octets, after)
    else if x < 0x20 then stopHere .controlCharacter rest
    else (readTextOctets rest).map fun (octets, after) => (x :: octets, after)
termination_by input.length
decreasing_by all_goals simp; try omega

/-- A string, behind its opening quote.  Octets that are no text are reported behind the first
    of them, once the end of the string has been found. -/
def readText : Reader String := fun input => do
  let (octets, rest) ← readTextOctets input
  match Utf8.decode? octets with
  | some cs => .ok (.ofList cs, rest)
  | none => stopHere .invalidCodePoint (input.drop (Utf8.goodLength input + 1))

/-- The value of a decimal digit. -/
def digit? (octet : UInt8) : Option Nat :=
  if 0x30 ≤ octet ∧ octet ≤ 0x39 then some (octet.toNat - 0x30) else none

/-- Whether the next octet is a decimal digit. -/
def startsWithDigit : List UInt8 → Bool
  | x :: _ => (digit? x).isSome
  | [] => false

/-- The octets behind digits. -/
def dropDigits (input : List UInt8) : List UInt8 :=
  input.dropWhile fun x => (digit? x).isSome

/-- Reads digits into a number as long as it fits into 64 bits, and counts them. -/
def readDigits (number count : Nat) : List UInt8 → Nat × Nat × List UInt8
  | [] => (number, count, [])
  | x :: rest =>
    match digit? x with
    | some d =>
      if number * 10 + d < Nat.pow 2 64 then readDigits (number * 10 + d) (count + 1) rest
      else (number, count, x :: rest)
    | none => (number, count, x :: rest)

/-- The greatest power of ten that is a number. -/
def greatPower : Binary64 := .powerOfTen 308

/-- Divides by 10 ^ 308 a number of times, or until nothing is left. -/
def divideDown : (times : Nat) → Binary64 → Binary64
  | 0, x => x
  | times + 1, x => if x.isZero then x else divideDown times ((x.div? greatPower).getD x)

/-- A number times a power of ten, in one multiplication or, when the power is out of reach
    downwards, in several divisions, each of which rounds. -/
def scaleBy (x : Binary64) (exponent : Int) : Option Binary64 :=
  let size := exponent.natAbs
  if 0 ≤ exponent then
    if size ≤ 308 then x.mul? (.powerOfTen size) else if x.isZero then some x else none
  else
    let times := (size - 1) / 308
    (divideDown times x).div? (.powerOfTen (size - 308 * times))

/-- A number from its decimal parts. -/
def numberOf (negative : Bool) (significand : Nat) (exponent : Int) : Reader Number := fun rest =>
  match scaleBy (.ofNat significand) exponent with
  | some x => .ok (.real (if negative then x.negate else x), rest)
  | none => stopHere .numberOutOfRange rest

/-- The greatest exponent that is read. -/
def exponentLimit : Nat := Nat.pow 2 31 - 1

/-- Reads the digits of an exponent behind its first one; `none` when it exceeds the limit. -/
def readExponentDigits (exponent : Nat) : List UInt8 → Option Nat × List UInt8
  | [] => (some exponent, [])
  | x :: rest =>
    match digit? x with
    | some d =>
      if exponent * 10 + d ≤ exponentLimit then readExponentDigits (exponent * 10 + d) rest
      else (none, rest)
    | none => (some exponent, x :: rest)

/-- The sign of an exponent and what follows it. -/
def readExponentSign : List UInt8 → Bool × List UInt8
  | x :: rest =>
    if x = 0x2D then (true, rest) else if x = 0x2B then (false, rest) else (false, x :: rest)
  | [] => (false, [])

/-- An exponent, behind its letter, and with it the number. -/
def readExponent (negative : Bool) (significand : Nat) (start : Int) : Reader Number := fun input =>
  let (down, input) := readExponentSign input
  match input with
  | [] => stopHere .endInValue []
  | x :: rest =>
    match digit? x with
    | none => stopHere .invalidNumber rest
    | some d =>
      match readExponentDigits d rest with
      | (some exponent, rest) =>
        numberOf negative significand (if down then start - exponent else start + exponent) rest
      | (none, rest) =>
        if significand ≠ 0 ∧ !down then stopHere .numberOutOfRange rest
        else .ok (.real (.zero negative), dropDigits rest)

/-- Whether an octet announces an exponent. -/
def isExponentMark (octet : UInt8) : Bool :=
  octet == 0x65 || octet == 0x45

/-- The end of a number with a fraction or too many digits: an exponent or nothing. -/
def readScale (negative : Bool) (significand : Nat) (exponent : Int) : Reader Number := fun input =>
  match input with
  | x :: rest =>
    if isExponentMark x then readExponent negative significand exponent rest
    else numberOf negative significand exponent input
  | [] => numberOf negative significand exponent []

/-- A fraction, behind its point, and with it the number.  Digits that no longer fit are dropped. -/
def readFraction (negative : Bool) (significand : Nat) (start : Int) : Reader Number := fun input =>
  let (number, count, rest) := readDigits significand 0 input
  if startsWithDigit rest then
    readScale negative number (start - count) (dropDigits rest)
  else if count = 0 then
    match rest with
    | [] => stopAhead .endInValue []
    | _ => stopAhead .invalidNumber rest
  else
    readScale negative number (start - count) rest

/-- The end of an integer that fits into 64 bits. -/
def readIntegerEnd (negative : Bool) (n : Nat) : Reader Number := fun input =>
  let whole : Number :=
    if !negative then .integer n
    else if n = 0 ∨ Nat.pow 2 63 < n then .real (Binary64.ofNat n).negate
    else .integer (-n)
  match input with
  | x :: rest =>
    if x = 0x2E then readFraction negative n 0 rest
    else if isExponentMark x then readExponent negative n 0 rest
    else .ok (whole, input)
  | [] => .ok (whole, [])

/-- The end of an integer whose further digits no longer fit into 64 bits. -/
def readLongEnd (negative : Bool) (significand : Nat) : Reader Number := fun input =>
  let rest := dropDigits input
  let exponent : Int := input.length - rest.length
  match rest with
  | x :: more =>
    if x = 0x2E then readFraction negative significand exponent more
    else readScale negative significand exponent rest
  | [] => numberOf negative significand exponent []

/-- A number, behind its minus sign. -/
def readNumber (negative : Bool) : Reader Number := fun input =>
  match input with
  | [] => stopHere .endInValue []
  | x :: rest =>
    match digit? x with
    | none => stopHere .invalidNumber rest
    | some d =>
      if d = 0 then
        if startsWithDigit rest then stopAhead .invalidNumber rest
        else readIntegerEnd negative 0 rest
      else
        let (n, _, rest) := readDigits d 1 rest
        if startsWithDigit rest then readLongEnd negative n rest else readIntegerEnd negative n rest

end Gatehouse.Json
