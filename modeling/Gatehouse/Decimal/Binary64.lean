/-!
# Double precision

Finite numbers of 64-bit binary floating point as exact values: a significand below
2 ^ 53 times a power of two from 2 ^ -1074 to 2 ^ 971.  Multiplication and division
round once, to the nearest value and to the even significand from the middle.
-/

namespace Gatehouse.Decimal

/-- The number `significand * 2 ^ exponent` with a sign, which zero has too. -/
structure Binary64 where
  negative : Bool
  significand : Nat
  exponent : Int
deriving DecidableEq, Repr

namespace Binary64

/-- The least exponent. -/
def minExponent : Int := -1074

/-- The greatest exponent. -/
def maxExponent : Int := 971

/-- Zero with a sign. -/
def zero (negative : Bool) : Binary64 :=
  ⟨negative, 0, minExponent⟩

/-- Whether the number is zero. -/
def isZero (x : Binary64) : Bool :=
  x.significand == 0

/-- The number with its sign turned. -/
def negate (x : Binary64) : Binary64 :=
  { x with negative := !x.negative }

/-- The fraction `num / den` divided by a power of two, as numerator and denominator. -/
def unscale (num den : Nat) (exponent : Int) : Nat × Nat :=
  (num * Nat.pow 2 (-exponent).toNat, den * Nat.pow 2 exponent.toNat)

/-- The quotient rounded to the nearest number, and to the even one from the middle. -/
def roundQuotient (num den : Nat) : Nat :=
  let q := num / den
  let r := num % den
  if 2 * r < den then q
  else if 2 * r > den then q + 1
  else q + q % 2

/-- The exponent that gives a positive fraction a significand of 53 bits, or the least one. -/
def exponentFor (num den : Nat) : Int :=
  let guess : Int := (Nat.log2 num : Int) - (Nat.log2 den : Int) - 52
  let (n, d) := unscale num den guess
  max (if n / d < Nat.pow 2 52 then guess - 1 else guess) minExponent

/-- The number nearest to the fraction `num / den`; there is none when it is too large. -/
def ofRatio? (negative : Bool) (num den : Nat) : Option Binary64 :=
  if num = 0 then some (zero negative)
  else
    let exponent := exponentFor num den
    let (n, d) := unscale num den exponent
    let significand := roundQuotient n d
    let (significand, exponent) :=
      if significand = Nat.pow 2 53 then (Nat.pow 2 52, exponent + 1) else (significand, exponent)
    if exponent > maxExponent then none else some ⟨negative, significand, exponent⟩

/-- The nearest number to a natural number of at most 64 bits. -/
def ofNat (n : Nat) : Binary64 :=
  (ofRatio? false n 1).getD (zero false)

/-- The number as numerator and denominator, without its sign. -/
def ratio (x : Binary64) : Nat × Nat :=
  unscale x.significand 1 (-x.exponent)

/-- The rounded product, if it is not too large. -/
def mul? (x y : Binary64) : Option Binary64 :=
  ofRatio? (x.negative != y.negative) (x.ratio.1 * y.ratio.1) (x.ratio.2 * y.ratio.2)

/-- The rounded quotient by a number other than zero, if it is not too large. -/
def div? (x y : Binary64) : Option Binary64 :=
  ofRatio? (x.negative != y.negative) (x.ratio.1 * y.ratio.2) (x.ratio.2 * y.ratio.1)

/-- The number nearest to a power of ten, up to 10 ^ 308. -/
def powerOfTen (n : Nat) : Binary64 :=
  (ofRatio? false (Nat.pow 10 n) 1).getD (zero false)

end Binary64

end Gatehouse.Decimal
