import SignedSetup.Instances

/-!
# Powers and inverses modulo a number

`Fin n` computes modulo `n`. Modulo a prime, the inverse of a number that is not zero is its power
`n - 2`.
-/

namespace SignedSetup.Modular

variable {n : Nat} [NeZero n]

/-- A power by repeated squaring. -/
def power (base : Fin n) (exponent : Nat) : Fin n :=
  if exponent = 0 then 1
  else
    let rest := power (base * base) (exponent / 2)
    if exponent % 2 = 1 then base * rest else rest

/-- The inverse modulo a prime; zero has none and gives zero. -/
def inverse (a : Fin n) : Fin n := power a (n - 2)

/-- The least number in a class is odd. -/
def isOdd (a : Fin n) : Bool := a.val % 2 = 1

end SignedSetup.Modular
