import SignedSetup.Number.Decimal

/-!
# Binary floating-point numbers

A double is a sign, a significand and a power of two, so that every finite value is exactly
`significand · 2 ^ exponent`. A decimal fraction is read by exact arithmetic on natural numbers and
one rounding to the nearest double; a half goes to the even significand.
-/

namespace SignedSetup

/-- A double-precision number. In a finite one the significand is below `2 ^ 53` and the exponent
at least `-1074`; the significand is below `2 ^ 52` only where the exponent is least. -/
inductive Double where
  | nan
  | infinite (negative : Bool)
  | finite (negative : Bool) (significand : Nat) (exponent : Int)
deriving DecidableEq

namespace Double

/-- The least exponent of a finite double. -/
def minExponent : Int := -1074

/-- The greatest exponent of a finite double. -/
def maxExponent : Int := 971

/-- Zero with a sign. -/
def zero (negative : Bool) : Double := .finite negative 0 minExponent

/-- The quotient to the nearest natural number, a half to the even one. -/
def roundQuotient (num den : Nat) : Nat :=
  let q := num / den
  let twice := 2 * (num % den)
  if twice < den then q
  else if den < twice then q + 1
  else q + q % 2

/-- The greatest `e` with `2 ^ e ≤ num / den`, for positive numbers. -/
def log2Quotient (num den : Nat) : Int :=
  let e : Int := (Nat.log2 num : Int) - (Nat.log2 den : Int)
  if den * 2 ^ e.toNat ≤ num * 2 ^ (-e).toNat then e else e - 1

/-- The double nearest to `num / den`, for a positive denominator. -/
def ofQuotient (negative : Bool) (num den : Nat) : Double :=
  if num = 0 then zero negative
  else
    let exponent := max (log2Quotient num den - 52) minExponent
    let significand := roundQuotient (num * 2 ^ (-exponent).toNat) (den * 2 ^ exponent.toNat)
    let (significand, exponent) :=
      if significand = 2 ^ 53 then (2 ^ 52, exponent + 1) else (significand, exponent)
    if maxExponent < exponent then .infinite negative
    else .finite negative significand exponent

/-- The double nearest to the number that `digits` spell times `10 ^ exponent`. Powers of ten that
are out of range whatever the digits are not computed. -/
def ofDecimal (negative : Bool) (digits : Text) (exponent : Int) : Double :=
  let significant := digits.dropWhile (· = Decimal.digit 0)
  let magnitude : Int := significant.length + exponent
  if significant.isEmpty || magnitude < -400 then zero negative
  else if 400 < magnitude then .infinite negative
  else
    ofQuotient negative (Decimal.value significant * 10 ^ exponent.toNat)
      (10 ^ (-exponent).toNat)

/-- The integer a double is equal to, if it is one. -/
def toInt? : Double → Option Int
  | .nan => none
  | .infinite _ => none
  | .finite negative significand exponent =>
    let den := 2 ^ (-exponent).toNat
    let num := significand * 2 ^ exponent.toNat
    if num % den = 0 then
      some (if negative then -(num / den : Nat) else (num / den : Nat))
    else none

/-- The double is zero, of either sign. -/
def isZero : Double → Bool
  | .finite _ 0 _ => true
  | _ => false

/-- The double is zero or below. -/
def isAtMostZero : Double → Bool
  | .nan => false
  | .infinite negative => negative
  | .finite negative significand _ => negative || significand = 0

end Double

end SignedSetup
