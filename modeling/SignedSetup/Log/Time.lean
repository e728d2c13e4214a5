import SignedSetup.Number.Decimal

/-!
# Times in log records

A time is written as a date and a time of day with microseconds, in universal time. Days are
counted in eras of 400 years, which all have the same length; a year begins in March, so that a
leap day is its last day.
-/

namespace SignedSetup.Log

/-- A date. -/
structure Date where
  year : Nat
  month : Nat
  day : Nat
deriving DecidableEq

/-- The date that lies so many days after the first of January 1970. -/
def Date.ofDays (days : Nat) : Date :=
  let fromMarch := days + 719468
  let era := fromMarch / 146097
  let dayOfEra := fromMarch % 146097
  let yearOfEra :=
    (dayOfEra - dayOfEra / 1460 + dayOfEra / 36524 - dayOfEra / 146096) / 365
  let dayOfYear := dayOfEra - (365 * yearOfEra + yearOfEra / 4 - yearOfEra / 100)
  let monthFromMarch := (5 * dayOfYear + 2) / 153
  let month := if monthFromMarch < 10 then monthFromMarch + 3 else monthFromMarch - 9
  { year := yearOfEra + era * 400 + (if month ≤ 2 then 1 else 0)
    month
    day := dayOfYear - (153 * monthFromMarch + 2) / 5 + 1 }

/-- A number with zeros in front, up to a width. -/
def padded (width n : Nat) : Text :=
  List.replicate (width - (Decimal.ofNat n).length) (Decimal.digit 0) ++ Decimal.ofNat n

/-- The text of the time that lies so many microseconds after the beginning of 1970. -/
def timeText (microseconds : Nat) : Text :=
  let seconds := microseconds / 1000000
  let date := Date.ofDays (seconds / 86400)
  padded 4 date.year ++ "-" ++ padded 2 date.month ++ "-" ++ padded 2 date.day ++ "T" ++
    padded 2 (seconds / 3600 % 24) ++ ":" ++ padded 2 (seconds / 60 % 60) ++ ":" ++
    padded 2 (seconds % 60) ++ "." ++ padded 6 (microseconds % 1000000) ++ "Z"

end SignedSetup.Log
