import SignedSetup.Text.Basic

/-!
# Decimal numerals

Numbers are written with the fewest digits. Reading a numeral has a limit on its length: a numeral
of more than `Decimal.limit` digits is refused whatever its value, leading zeros counted. Where a
number stands in words, its numeral is held to the same limit.
-/

namespace SignedSetup

namespace Decimal

/-- The code point of a digit. -/
def digit (n : Nat) : CodePoint := CodePoint.ofNat (0x30 + n)

/-- The value of an ASCII digit. -/
def digit? (c : CodePoint) : Option Nat :=
  if 0x30 ≤ c.val && c.val ≤ 0x39 then some (c.val - 0x30) else none

/-- One of the ten ASCII digits. -/
def isDigit (c : CodePoint) : Bool := (digit? c).isSome

/-- The numeral of a natural number. -/
def ofNat (n : Nat) : Text :=
  if n < 10 then [digit n] else ofNat (n / 10) ++ [digit (n % 10)]

/-- The numeral of an integer, with a minus sign if it is negative. -/
def ofInt : Int → Text
  | .ofNat n => ofNat n
  | .negSucc n => "-" ++ ofNat (n + 1)

/-- The number that digits spell; other characters count as zero. -/
def value (digits : Text) : Nat :=
  digits.foldl (fun acc c => 10 * acc + (digit? c).getD 0) 0

/-- The most digits that a numeral may have when it is read. -/
def limit : Nat := 4300

/-- A numeral with too many digits: how many it has. -/
structure TooLong where
  digits : Nat
deriving DecidableEq

/-- What is said of a numeral with too many digits; `detail` stands between what is exceeded and
what can be done. -/
def tooLongMessage (detail : Text) : Text :=
  "Exceeds the limit (" ++ ofNat limit ++ " digits) for integer string conversion" ++ detail ++
    "; use sys.set_int_max_str_digits() to increase the limit"

/-- What is said of a numeral with too many digits that is read. -/
def TooLong.message (e : TooLong) : Text :=
  tooLongMessage (": value has " ++ ofNat e.digits ++ " digits")

/-- The numeral of a number has too many digits. -/
def exceedsLimit (n : Nat) : Bool := 10 ^ limit ≤ n

/-- The number that digits spell, within the limit. -/
def read (digits : Text) : Except TooLong Nat :=
  if digits.length ≤ limit then .ok (value digits) else .error ⟨digits.length⟩

/-! ## Writing and reading back -/

theorem digit?_digit {n : Nat} (h : n < 10) : digit? (digit n) = some n := by
  have hn : 0x30 + n < 0x110000 := by omega
  simp only [digit?, digit, CodePoint.ofNat, hn, ↓reduceDIte]
  grind

theorem isDigit_of_mem_ofNat {n : Nat} {c : CodePoint} (h : c ∈ ofNat n) : isDigit c = true := by
  induction n using ofNat.induct with
  | case1 n hn =>
    rw [ofNat, if_pos hn] at h
    obtain rfl := List.mem_singleton.1 h
    simp [isDigit, digit?_digit hn]
  | case2 n hn ih =>
    rw [ofNat, if_neg hn] at h
    rcases List.mem_append.1 h with h | h
    · exact ih h
    · obtain rfl := List.mem_singleton.1 h
      simp [isDigit, digit?_digit (Nat.mod_lt n (by decide))]

theorem value_append_digit (digits : Text) {d : Nat} (h : d < 10) :
    value (digits ++ [digit d]) = 10 * value digits + d := by
  simp [value, digit?_digit h]

@[simp]
theorem value_ofNat (n : Nat) : value (ofNat n) = n := by
  induction n using ofNat.induct with
  | case1 n hn =>
    rw [ofNat, if_pos hn]
    simp [value, digit?_digit hn]
  | case2 n hn ih =>
    rw [ofNat, if_neg hn, value_append_digit _ (Nat.mod_lt n (by decide)), ih]
    omega

end Decimal

end SignedSetup
