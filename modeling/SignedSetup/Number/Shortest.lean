import SignedSetup.Number.Double

/-!
# Shortest decimal text of a double

The text of a double has the fewest digits that read back as that double. Of all decimals with so
many digits that do, it is the one nearest to the exact value. The interval of the numbers that
round to a double ends halfway to its two neighbours, and holds its ends iff the significand is
even. For a given number of digits, only the two neighbours of the exact value on that decimal
grid have to be tried: if any point of the grid lies in the interval, one of them does.
-/

namespace SignedSetup.Double

/-- A positive number `digits · 10 ^ exponent`. -/
structure Scientific where
  digits : Nat
  exponent : Int

/-- The interval of the numbers that round to a positive double. All four numbers are counted in
units of `num / den`. -/
structure Interval where
  low : Nat
  value : Nat
  high : Nat
  /-- The ends belong to the interval. -/
  closed : Bool
  num : Nat
  den : Nat

/-- The interval of `significand · 2 ^ exponent`, in quarters of the unit in the last place, since
the lower neighbour of a power of two is only half as far away. -/
def interval (significand : Nat) (exponent : Int) : Interval where
  low :=
    if significand = 2 ^ 52 && minExponent < exponent then 4 * significand - 1
    else 4 * significand - 2
  value := 4 * significand
  high := 4 * significand + 2
  closed := significand % 2 = 0
  num := 2 ^ (exponent - 2).toNat
  den := 2 ^ (2 - exponent).toNat

/-- A decimal lies in the interval. -/
def Interval.contains (i : Interval) (d : Scientific) : Bool :=
  let point := d.digits * 10 ^ d.exponent.toNat * i.den
  let unit := i.num * 10 ^ (-d.exponent).toNat
  if i.closed then i.low * unit ≤ point && point ≤ i.high * unit
  else i.low * unit < point && point < i.high * unit

/-- The greatest `e` with `10 ^ e` at most the value. Every positive double is at least
`10 ^ -324`. -/
def Interval.magnitude (i : Interval) : Int :=
  ((Decimal.ofNat (i.value * i.num * 10 ^ 324 / i.den)).length : Int) - 325

/-- The decimal with so many digits that stands for the value, if there is one. Of two that do,
the nearer is taken, and of two that are equally near the one with the even last digit. -/
def Interval.decimal? (i : Interval) (count : Nat) : Option Scientific :=
  let exponent := i.magnitude - (count : Int) + 1
  let num := i.value * i.num * 10 ^ (-exponent).toNat
  let den := i.den * 10 ^ exponent.toNat
  let below : Scientific := ⟨num / den, exponent⟩
  let above : Scientific := ⟨num / den + 1, exponent⟩
  match i.contains below, i.contains above with
  | true, true => some ⟨roundQuotient num den, exponent⟩
  | true, false => some below
  | false, true => some above
  | false, false => none

/-- The shortest decimal that stands for the value, tried with `count` digits and then with up to
`more` digits more. Seventeen digits always do. -/
def Interval.shortest (i : Interval) (count : Nat) : Nat → Scientific
  | 0 => (i.decimal? count).getD ⟨i.value, 0⟩
  | more + 1 => (i.decimal? count).getD (i.shortest (count + 1) more)

/-- A decimal in positional notation for exponents from -4 to 15, with at least one digit on each
side of the point, and else with an exponent of at least two digits and a sign. -/
def Scientific.text (d : Scientific) : Text :=
  let digits := Text.trimRight (· = Decimal.digit 0) (Decimal.ofNat d.digits)
  let exponent : Int := d.exponent + (Decimal.ofNat d.digits).length - 1
  let zeros (n : Nat) : Text := List.replicate n (Decimal.digit 0)
  if exponent < -4 || 16 ≤ exponent then
    let fraction : Text := if digits.length = 1 then [] else "." ++ digits.drop 1
    let sign : Text := if exponent < 0 then "-" else "+"
    let power := Decimal.ofNat exponent.natAbs
    digits.take 1 ++ fraction ++ "e" ++ sign ++ zeros (2 - power.length) ++ power
  else if exponent < 0 then
    "0." ++ zeros (-exponent - 1).toNat ++ digits
  else
    let whole := exponent.toNat + 1
    let fraction := digits.drop whole
    digits.take whole ++ zeros (whole - digits.length) ++ "." ++
      (if fraction.isEmpty then zeros 1 else fraction)

/-- The shortest decimal text of a finite double. -/
def finiteText (negative : Bool) (significand : Nat) (exponent : Int) : Text :=
  let magnitude : Text :=
    if significand = 0 then "0.0" else ((interval significand exponent).shortest 1 16).text
  if negative then "-" ++ magnitude else magnitude

/-- The text of a double in JSON, where three names stand for the values that are no numbers. -/
def jsonText : Double → Text
  | .nan => "NaN"
  | .infinite false => "Infinity"
  | .infinite true => "-Infinity"
  | .finite negative significand exponent => finiteText negative significand exponent

/-- The text of a double in a message. -/
def displayText : Double → Text
  | .nan => "nan"
  | .infinite false => "inf"
  | .infinite true => "-inf"
  | .finite negative significand exponent => finiteText negative significand exponent

end SignedSetup.Double
