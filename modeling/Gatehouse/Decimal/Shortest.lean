import Gatehouse.Decimal.Binary64

/-!
# Shortest decimal

The fewest decimal digits that read back as the same number, and of those the ones
nearest to it.  For one digit, two digits and so on, the two neighbours of the number
on the grid of that many digits are tested; the first grid with a hit wins.
-/

namespace Gatehouse.Decimal

/-- The number `digits * 10 ^ exponent`. -/
structure Digits where
  digits : Nat
  exponent : Int
deriving DecidableEq, Repr

/-- The numbers around a positive number that round to it, as multiples of `up / down`. -/
structure Interval where
  low : Nat
  value : Nat
  high : Nat
  up : Nat
  down : Nat
  closed : Bool

/-- The numbers that round to a number other than zero: half the distance to each neighbour,
    and the ends themselves when the significand is even. -/
def Interval.around (x : Binary64) : Interval where
  low :=
    if x.significand = Nat.pow 2 52 ∧ x.exponent > Binary64.minExponent then 4 * x.significand - 1
    else 4 * x.significand - 2
  value := 4 * x.significand
  high := 4 * x.significand + 2
  up := Nat.pow 2 (x.exponent - 2).toNat
  down := Nat.pow 2 (2 - x.exponent).toNat
  closed := x.significand % 2 = 0

/-- The number of decimal digits. -/
def digitCount (n : Nat) : Nat :=
  (Nat.toDigits 10 n).length

/-- The exponent of the first decimal digit of a positive fraction. -/
def leadingExponent (num den : Nat) : Int :=
  if den ≤ num then (digitCount (num / den) : Int) - 1
  else
    let q := (den + num - 1) / num
    (0 : Int) - digitCount (q - 1)

/-- A multiple of the interval's unit in tenths of a power of ten. -/
def Interval.scaled (i : Interval) (n : Nat) (exponent : Int) : Nat :=
  n * i.up * Nat.pow 10 (-exponent).toNat

/-- The size of one step of a decimal grid, in the same measure as `scaled`. -/
def Interval.step (i : Interval) (exponent : Int) : Nat :=
  i.down * Nat.pow 10 exponent.toNat

/-- Whether a point of a decimal grid lies in the interval. -/
def Interval.holds (i : Interval) (point : Nat) (exponent : Int) : Bool :=
  let here := point * i.step exponent
  let low := i.scaled i.low exponent
  let high := i.scaled i.high exponent
  if i.closed then low ≤ here && here ≤ high else low < here && here < high

/-- The better of the two neighbours of the number on a decimal grid, if one is in the interval. -/
def Interval.onGrid? (i : Interval) (exponent : Int) : Option Digits :=
  let value := i.scaled i.value exponent
  let step := i.step exponent
  let below := value / step
  let rest := value % step
  let above := below + 1
  match i.holds below exponent, i.holds above exponent with
  | true, true =>
    if 2 * rest < step ∨ (2 * rest = step ∧ below % 2 = 0) then some ⟨below, exponent⟩
    else some ⟨above, exponent⟩
  | true, false => some ⟨below, exponent⟩
  | false, true => some ⟨above, exponent⟩
  | false, false => none

/-- The first hit on the grids of `count` digits and more, with `tries` grids to go. -/
def Interval.search (i : Interval) (leading : Int) : (tries count : Nat) → Digits
  | 0, count => ⟨i.scaled i.value (leading - count) / i.step (leading - count), leading - count⟩
  | tries + 1, count =>
    match i.onGrid? (leading + 1 - count) with
    | some digits => digits
    | none => i.search leading tries (count + 1)

/-- The same number without a zero at its end; only the first grid can give `10`. -/
def Digits.dropZero (d : Digits) : Digits :=
  if d.digits = 10 then ⟨1, d.exponent + 1⟩ else d

/-- The shortest digits of a number other than zero, without its sign. -/
def shortest (x : Binary64) : Digits :=
  let i := Interval.around x
  (i.search (leadingExponent (i.value * i.up) i.down) 17 1).dropZero

/-- Zeros in a row. -/
def zeros (n : Nat) : String :=
  .ofList (List.replicate n '0')

/-- A decimal exponent with its sign. -/
def exponentText (n : Int) : String :=
  if n < 0 then "e-" ++ toString (-n).toNat else "e+" ++ toString n.toNat

/-- Digits as text: positional with a point when the first digit counts from 10 ^ -5 to 10 ^ 15,
    and with an exponent otherwise. -/
def Digits.text (d : Digits) : String :=
  let all := Nat.toDigits 10 d.digits
  let leading := d.exponent + all.length - 1
  if leading < -5 ∨ 15 < leading then
    match all with
    | [one] => .ofList [one] ++ exponentText leading
    | first :: more => .ofList [first, '.'] ++ .ofList more ++ exponentText leading
    | [] => ""
  else if leading < 0 then
    "0." ++ zeros (-leading - 1).toNat ++ .ofList all
  else if 0 ≤ d.exponent then
    .ofList all ++ zeros d.exponent.toNat ++ ".0"
  else
    let whole := (leading + 1).toNat
    .ofList (all.take whole) ++ "." ++ .ofList (all.drop whole)

/-- The text of a number. -/
def Binary64.text (x : Binary64) : String :=
  (if x.negative then "-" else "") ++ (if x.isZero then "0.0" else (shortest x).text)

end Gatehouse.Decimal
