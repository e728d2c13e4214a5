import Mathlib.Algebra.Order.Field.Power
import Mathlib.Algebra.Order.Field.Rat
import Mathlib.Data.Nat.Log
import Mathlib.Tactic.FieldSimp
import Mathlib.Tactic.Linarith
import Mathlib.Tactic.NormNum
import Mathlib.Tactic.Positivity
import Mathlib.Tactic.Ring
import SignedSetup.Number.Shortest
import SignedSetup.Proofs.Number.Decimal

/-!
# Numbers are rounded to the nearest double

A finite double with a significand and an exponent in their bounds stands for the numbers in an
interval around it, and these are rounded to it (`ofQuotient_of_holds`). The interval is that of
the shortest decimals: it ends halfway to the neighbours, and holds its ends iff the significand is
even. Right below a power of two the doubles stand twice as close; a number there is rounded with
the exponent of these, to a significand that is one too great, and so carried to the power.
-/

namespace SignedSetup.Double

/-- The significand and the exponent of a finite double are in their bounds, and the significand is
as great as the exponent allows. -/
structure IsNormalized (significand : Nat) (exponent : Int) : Prop where
  significand_lt : significand < 2 ^ 53
  exponent_ge : minExponent ≤ exponent
  exponent_le : exponent ≤ maxExponent
  normal : 2 ^ 52 ≤ significand ∨ exponent = minExponent

instance (significand : Nat) (exponent : Int) : Decidable (IsNormalized significand exponent) :=
  decidable_of_iff (significand < 2 ^ 53 ∧ minExponent ≤ exponent ∧ exponent ≤ maxExponent ∧
    (2 ^ 52 ≤ significand ∨ exponent = minExponent))
    ⟨fun h => ⟨h.1, h.2.1, h.2.2.1, h.2.2.2⟩,
      fun h => ⟨h.significand_lt, h.exponent_ge, h.exponent_le, h.normal⟩⟩

/-- A double is one of those that there are: a finite one has its parts in their bounds. -/
def isCanonical : Double → Bool
  | .finite _ significand exponent => decide (IsNormalized significand exponent)
  | _ => true

/-! ## Quotients -/

theorem pow_toNat_div (b : ℚ) (e : Int) : b ^ e.toNat / b ^ (-e).toNat = b ^ e := by
  rcases Int.le_total 0 e with h | h
  · obtain ⟨n, rfl⟩ := Int.eq_ofNat_of_zero_le h
    simp
  · obtain ⟨n, hn⟩ := Int.eq_ofNat_of_zero_le (Int.neg_nonneg.2 h)
    obtain rfl : e = -(n : Int) := by omega
    simp

theorem roundQuotient_eq_or (num den : Nat) :
    roundQuotient num den = num / den ∨ roundQuotient num den = num / den + 1 := by
  unfold roundQuotient
  dsimp only
  split_ifs <;> omega

/-- A quotient between two natural numbers is rounded to one between them. -/
theorem roundQuotient_bounds {num den low high : Nat} (hden : 0 < den) (hlow : low * den ≤ num)
    (hhigh : num ≤ high * den) :
    low ≤ roundQuotient num den ∧ roundQuotient num den ≤ high := by
  have hdiv := Nat.div_add_mod num den
  have hle : low ≤ num / den := (Nat.le_div_iff_mul_le hden).2 hlow
  have hge : num / den ≤ high := Nat.div_le_of_le_mul (by rwa [Nat.mul_comm])
  unfold roundQuotient
  dsimp only
  by_cases heq : num / den = high
  · -- Then nothing is left over.
    have hmod : num % den = 0 := by
      rw [heq, Nat.mul_comm] at hdiv
      omega
    rw [hmod, if_pos (by omega)]
    exact ⟨hle, hge⟩
  · split_ifs <;> omega

theorem roundQuotient_eq {num den n : Nat} (hden : 0 < den) (hlow : 2 * n * den ≤ 2 * num + den)
    (hhigh : 2 * num ≤ 2 * n * den + den)
    (hodd : n % 2 = 1 → 2 * n * den < 2 * num + den ∧ 2 * num < 2 * n * den + den) :
    roundQuotient num den = n := by
  have hdiv := Nat.div_add_mod num den
  have hmod := Nat.mod_lt num hden
  unfold roundQuotient
  dsimp only
  generalize num / den = q at hdiv ⊢
  generalize num % den = r at hdiv hmod ⊢
  subst hdiv
  have hle : n ≤ q + 1 := by nlinarith
  have hge : q ≤ n := by nlinarith
  -- A half goes to the even one of the two; for an odd one the bounds are strict.
  obtain rfl | rfl : n = q ∨ n = q + 1 := by omega
  · have h1 : 2 * n * den = 2 * (den * n) := by ring
    split_ifs <;> omega
  · have h1 : 2 * (q + 1) * den = 2 * (den * q) + 2 * den := by ring
    split_ifs <;> omega

section Quotient

variable {num den : Nat} (hden : den ≠ 0)
include hden

theorem mul_zpow_le_quotient_iff (c : ℚ) (e : Int) :
    c * 2 ^ e ≤ num / den ↔ c * (den * 2 ^ e.toNat : Nat) ≤ (num * 2 ^ (-e).toNat : Nat) := by
  have hpos : (0 : ℚ) < den := by exact_mod_cast Nat.pos_of_ne_zero hden
  have hunit : (0 : ℚ) < 2 ^ (-e).toNat := by positivity
  rw [← pow_toNat_div, ← mul_div_assoc, div_le_div_iff₀ hunit hpos]
  push_cast
  rw [mul_comm (den : ℚ), mul_assoc]

theorem quotient_le_mul_zpow_iff (c : ℚ) (e : Int) :
    (num : ℚ) / den ≤ c * 2 ^ e ↔ (num * 2 ^ (-e).toNat : Nat) ≤ c * (den * 2 ^ e.toNat : Nat) := by
  have hpos : (0 : ℚ) < den := by exact_mod_cast Nat.pos_of_ne_zero hden
  have hunit : (0 : ℚ) < 2 ^ (-e).toNat := by positivity
  rw [← pow_toNat_div, ← mul_div_assoc, div_le_div_iff₀ hpos hunit]
  push_cast
  rw [mul_comm (den : ℚ), mul_assoc]

theorem zpow_le_quotient_iff (e : Int) :
    den * 2 ^ e.toNat ≤ num * 2 ^ (-e).toNat ↔ (2 : ℚ) ^ e ≤ num / den := by
  rw [← one_mul ((2 : ℚ) ^ e), mul_zpow_le_quotient_iff hden, one_mul]
  exact Nat.cast_le.symm

/-- The quotient has the logarithm that is worked out for it. -/
theorem log2Quotient_spec (hnum : num ≠ 0) :
    (2 : ℚ) ^ log2Quotient num den ≤ num / den ∧
      (num : ℚ) / den < 2 ^ (log2Quotient num den + 1) := by
  have hpos : (0 : ℚ) < den := by exact_mod_cast Nat.pos_of_ne_zero hden
  have hnumLow : (2 : ℚ) ^ num.log2 ≤ num := by exact_mod_cast Nat.log2_self_le hnum
  have hnumHigh : (num : ℚ) < 2 ^ (num.log2 + 1) := by exact_mod_cast Nat.lt_log2_self
  have hdenLow : (2 : ℚ) ^ den.log2 ≤ den := by exact_mod_cast Nat.log2_self_le hden
  have hdenHigh : (den : ℚ) < 2 ^ (den.log2 + 1) := by exact_mod_cast Nat.lt_log2_self
  have hsub (a b : Nat) : (2 : ℚ) ^ ((a : Int) - b) = 2 ^ a / 2 ^ b := by
    rw [zpow_sub₀ two_ne_zero, zpow_natCast, zpow_natCast]
  -- The logarithms differ by that of the quotient, or by one more.
  unfold log2Quotient
  dsimp only
  split
  · next h =>
    refine ⟨(zpow_le_quotient_iff hden _).1 h, ?_⟩
    have hexponent : (num.log2 : Int) - den.log2 + 1 = ((num.log2 + 1 : Nat) : Int) - den.log2 := by
      push_cast
      ring
    rw [hexponent, hsub]
    exact div_lt_div₀ hnumHigh hdenLow (by positivity) (by positivity)
  · next h =>
    rw [zpow_le_quotient_iff hden, not_le] at h
    refine ⟨?_, by rwa [sub_add_cancel]⟩
    have hexponent : (num.log2 : Int) - den.log2 - 1 = (num.log2 : Int) - (den.log2 + 1 : Nat) := by
      push_cast
      ring
    rw [hexponent, hsub]
    exact div_le_div₀ (by positivity) hnumLow hpos hdenHigh.le

/-- A quotient between two natural numbers of a unit is rounded to one between them. -/
theorem roundQuotient_scaled_bounds {low high : Nat} {e : Int}
    (hlow : (low : ℚ) * 2 ^ e ≤ num / den) (hhigh : (num : ℚ) / den ≤ high * 2 ^ e) :
    low ≤ roundQuotient (num * 2 ^ (-e).toNat) (den * 2 ^ e.toNat) ∧
      roundQuotient (num * 2 ^ (-e).toNat) (den * 2 ^ e.toNat) ≤ high := by
  rw [mul_zpow_le_quotient_iff hden] at hlow
  rw [quotient_le_mul_zpow_iff hden] at hhigh
  exact roundQuotient_bounds (Nat.mul_pos (Nat.pos_of_ne_zero hden) (Nat.pow_pos (by decide)))
    (by exact_mod_cast hlow) (by exact_mod_cast hhigh)

/-- A quotient near to a natural number in a unit is rounded to it. -/
theorem roundQuotient_scaled {n : Nat} {e : Int} (hlow : (n - 1 / 2 : ℚ) * 2 ^ e ≤ num / den)
    (hhigh : (num : ℚ) / den ≤ (n + 1 / 2) * 2 ^ e)
    (hodd : n % 2 = 1 →
      (n - 1 / 2 : ℚ) * 2 ^ e < num / den ∧ (num : ℚ) / den < (n + 1 / 2) * 2 ^ e) :
    roundQuotient (num * 2 ^ (-e).toNat) (den * 2 ^ e.toNat) = n := by
  rw [mul_zpow_le_quotient_iff hden] at hlow
  rw [quotient_le_mul_zpow_iff hden] at hhigh
  rw [← not_le, quotient_le_mul_zpow_iff hden, ← not_le, mul_zpow_le_quotient_iff hden, not_le,
    not_le] at hodd
  have hpos : 0 < den * 2 ^ e.toNat :=
    Nat.mul_pos (Nat.pos_of_ne_zero hden) (Nat.pow_pos (by decide))
  generalize den * 2 ^ e.toNat = b at hlow hhigh hodd hpos ⊢
  generalize num * 2 ^ (-e).toNat = a at hlow hhigh hodd ⊢
  refine roundQuotient_eq hpos ?_ ?_ fun h => ?_
  · have h : (2 * n * b : ℚ) ≤ 2 * a + b := by linarith
    exact_mod_cast h
  · have h : (2 * a : ℚ) ≤ 2 * n * b + b := by linarith
    exact_mod_cast h
  · obtain ⟨hlow, hhigh⟩ := hodd h
    have hl : (2 * n * b : ℚ) < 2 * a + b := by linarith
    have hh : (2 * a : ℚ) < 2 * n * b + b := by linarith
    exact ⟨by exact_mod_cast hl, by exact_mod_cast hh⟩

end Quotient

/-! ## The interval of a double -/

/-- The unit that the numbers of an interval are counted in. -/
def Interval.unit (i : Interval) : ℚ := i.num / i.den

/-- A number lies in the interval. -/
def Interval.Holds (i : Interval) (q : ℚ) : Prop :=
  if i.closed then i.low * i.unit ≤ q ∧ q ≤ i.high * i.unit
  else i.low * i.unit < q ∧ q < i.high * i.unit

section Interval

variable {significand : Nat} {exponent : Int}

theorem unit_interval (significand : Nat) (exponent : Int) :
    (interval significand exponent).unit = 2 ^ exponent / 4 := by
  have h := pow_toNat_div 2 (exponent - 2)
  rw [neg_sub, zpow_sub₀ two_ne_zero] at h
  rw [Interval.unit, interval]
  push_cast
  rw [h]
  norm_num

theorem low_interval_ge (hpos : 0 < significand) (exponent : Int) :
    (4 * significand - 2 : ℚ) ≤ (interval significand exponent).low := by
  have h : 4 * significand ≤ (interval significand exponent).low + 2 := by
    unfold interval
    dsimp only
    split <;> omega
  have h : (4 * significand : ℚ) ≤ (interval significand exponent).low + 2 := by exact_mod_cast h
  linarith

/-- What lies in the interval of a double is at most half a unit away from it, and less than half a
unit if the significand is odd. -/
theorem Interval.Holds.bounds {q : ℚ} (hpos : 0 < significand)
    (h : (interval significand exponent).Holds q) :
    (significand - 1 / 2 : ℚ) * 2 ^ exponent ≤ q ∧ q ≤ (significand + 1 / 2) * 2 ^ exponent ∧
      (significand % 2 = 1 →
        (significand - 1 / 2 : ℚ) * 2 ^ exponent < q ∧
          q < (significand + 1 / 2) * 2 ^ exponent) := by
  have hunit : (0 : ℚ) < 2 ^ exponent := by positivity
  have hlow := mul_le_mul_of_nonneg_right (low_interval_ge hpos exponent) hunit.le
  have hhigh : ((interval significand exponent).high : ℚ) = 4 * significand + 2 := by
    simp [interval]
  have hclosed : (interval significand exponent).closed = decide (significand % 2 = 0) := rfl
  rw [Holds, unit_interval, hhigh, hclosed] at h
  by_cases heven : significand % 2 = 0
  · rw [if_pos (decide_eq_true heven)] at h
    exact ⟨by linarith, by linarith, fun hodd => by omega⟩
  · rw [if_neg (by simpa using heven)] at h
    exact ⟨by linarith, by linarith, fun _ => ⟨by linarith, by linarith⟩⟩

/-- Right below a power of two the interval is half as wide. -/
theorem Interval.Holds.bound_below_power {q : ℚ} (h : (interval (2 ^ 52) exponent).Holds q)
    (hexponent : minExponent < exponent) : (2 ^ 52 - 1 / 4 : ℚ) * 2 ^ exponent ≤ q := by
  have hlow : ((interval (2 ^ 52) exponent).low : ℚ) = 4 * 2 ^ 52 - 1 := by
    simp [interval, hexponent]
    norm_num
  have hclosed : (interval (2 ^ 52) exponent).closed = true := rfl
  rw [Holds, unit_interval, hlow, if_pos hclosed] at h
  linarith [h.1]

end Interval

/-! ## Rounding -/

/-- The double of a rounded quotient, where the significand is not carried. -/
theorem ofQuotient_eq_finite {negative : Bool} {num den significand : Nat} {exponent : Int}
    (hnum : num ≠ 0) (hexponent : max (log2Quotient num den - 52) minExponent = exponent)
    (hround : roundQuotient (num * 2 ^ (-exponent).toNat) (den * 2 ^ exponent.toNat) = significand)
    (hlt : significand < 2 ^ 53) (hle : exponent ≤ maxExponent) :
    ofQuotient negative num den = .finite negative significand exponent := by
  unfold ofQuotient
  rw [if_neg hnum]
  dsimp only
  rw [hexponent, hround, if_neg hlt.ne, if_neg (not_lt.2 hle)]

/-- The double of a rounded quotient, where the significand is carried. -/
theorem ofQuotient_eq_power {negative : Bool} {num den : Nat} {exponent : Int}
    (hnum : num ≠ 0) (hexponent : max (log2Quotient num den - 52) minExponent = exponent)
    (hround : roundQuotient (num * 2 ^ (-exponent).toNat) (den * 2 ^ exponent.toNat) = 2 ^ 53)
    (hle : exponent + 1 ≤ maxExponent) :
    ofQuotient negative num den = .finite negative (2 ^ 52) (exponent + 1) := by
  unfold ofQuotient
  rw [if_neg hnum]
  dsimp only
  rw [hexponent, hround, if_pos rfl]
  dsimp only
  rw [if_neg (not_lt.2 hle)]

/-- Whatever a quotient is rounded to has its parts in their bounds. -/
theorem isCanonical_ofQuotient (negative : Bool) (num : Nat) {den : Nat} (hden : den ≠ 0) :
    (ofQuotient negative num den).isCanonical = true := by
  by_cases hnum : num = 0
  · rw [ofQuotient, if_pos hnum]
    cases negative <;> decide
  obtain ⟨hlogLow, hlogHigh⟩ := log2Quotient_spec hden hnum
  obtain ⟨exponent, hexponent⟩ : ∃ e, max (log2Quotient num den - 52) minExponent = e := ⟨_, rfl⟩
  have hge : minExponent ≤ exponent := by omega
  have hhigh : (num : ℚ) / den ≤ (2 ^ 53 : Nat) * 2 ^ exponent := by
    refine hlogHigh.le.trans ?_
    rw [Nat.cast_pow, Nat.cast_ofNat, ← zpow_natCast, ← zpow_add₀ two_ne_zero]
    exact zpow_le_zpow_right₀ one_le_two (by push_cast; omega)
  have hround :
      roundQuotient (num * 2 ^ (-exponent).toNat) (den * 2 ^ exponent.toNat) ≤ 2 ^ 53 := by
    have hzero : ((0 : Nat) : ℚ) * 2 ^ exponent ≤ num / den := by
      rw [Nat.cast_zero, zero_mul]
      positivity
    exact (roundQuotient_scaled_bounds hden hzero hhigh).2
  have hnormal : 2 ^ 52 ≤ roundQuotient (num * 2 ^ (-exponent).toNat) (den * 2 ^ exponent.toNat) ∨
      exponent = minExponent := by
    by_cases hleast : exponent = minExponent
    · exact .inr hleast
    · have hlow : ((2 ^ 52 : Nat) : ℚ) * 2 ^ exponent ≤ num / den := by
        refine le_trans (le_of_eq ?_) hlogLow
        rw [Nat.cast_pow, Nat.cast_ofNat, ← zpow_natCast, ← zpow_add₀ two_ne_zero]
        congr 1
        push_cast
        omega
      exact .inl (roundQuotient_scaled_bounds hden hlow hhigh).1
  unfold ofQuotient
  rw [if_neg hnum]
  dsimp only
  rw [hexponent]
  generalize roundQuotient (num * 2 ^ (-exponent).toNat) (den * 2 ^ exponent.toNat) = significand
    at hround hnormal ⊢
  split
  · next heq =>
    dsimp only
    split
    · rfl
    · next hle => exact decide_eq_true ⟨by decide, by omega, not_lt.1 hle, .inl le_rfl⟩
  · next hne =>
    dsimp only
    split
    · rfl
    · next hle =>
      exact decide_eq_true ⟨lt_of_le_of_ne hround hne, hge, not_lt.1 hle, hnormal⟩

/-- A number right below a power of two is rounded up to it. -/
theorem ofQuotient_below_power {negative : Bool} {num den : Nat} {exponent : Int} (hden : den ≠ 0)
    (hgt : minExponent < exponent) (hle : exponent ≤ maxExponent)
    (hnear : (2 ^ 52 - 1 / 4 : ℚ) * 2 ^ exponent ≤ num / den)
    (hsmall : (num : ℚ) / den < 2 ^ 52 * 2 ^ exponent) :
    ofQuotient negative num den = .finite negative (2 ^ 52) exponent := by
  -- The unit of the number is half as great as that of the power.
  obtain ⟨half, rfl⟩ : ∃ half, exponent = half + 1 := ⟨exponent - 1, by omega⟩
  have hunit : (0 : ℚ) < 2 ^ half := by positivity
  rw [zpow_add_one₀ two_ne_zero] at hnear hsmall
  have hquotient : (0 : ℚ) < num / den := lt_of_lt_of_le (by linarith) hnear
  have hnum : num ≠ 0 := by
    rintro rfl
    simp at hquotient
  obtain ⟨hlogLow, hlogHigh⟩ := log2Quotient_spec hden hnum
  have hge : half + 52 < log2Quotient num den + 1 := by
    refine (zpow_lt_zpow_iff_right₀ one_lt_two).1 (lt_of_le_of_lt ?_ hlogHigh)
    rw [zpow_add₀ two_ne_zero]
    norm_num
    linarith
  have hlt : log2Quotient num den < half + 53 := by
    refine (zpow_lt_zpow_iff_right₀ one_lt_two).1 (lt_of_le_of_lt hlogLow ?_)
    rw [zpow_add₀ two_ne_zero]
    norm_num
    linarith
  have hround : roundQuotient (num * 2 ^ (-half).toNat) (den * 2 ^ half.toNat) = 2 ^ 53 := by
    refine roundQuotient_scaled hden ?_ ?_ fun hodd => absurd hodd (by decide)
    · push_cast
      linarith
    · push_cast
      linarith
  exact ofQuotient_eq_power hnum (by omega) hround hle

/-- A number in the interval of a double is rounded to it. -/
theorem ofQuotient_of_holds {negative : Bool} {num den significand : Nat} {exponent : Int}
    (hden : den ≠ 0) (hpos : 0 < significand) (h : IsNormalized significand exponent)
    (hq : (interval significand exponent).Holds (num / den)) :
    ofQuotient negative num den = .finite negative significand exponent := by
  obtain ⟨hlow, hhigh, hodd⟩ := hq.bounds hpos
  have hunit : (0 : ℚ) < 2 ^ exponent := by positivity
  have hone : (1 : ℚ) ≤ significand := by exact_mod_cast hpos
  have hlt : (significand : ℚ) + 1 ≤ 2 ^ 53 := by exact_mod_cast h.significand_lt
  by_cases hbelow : minExponent < exponent ∧ (num : ℚ) / den < 2 ^ 52 * 2 ^ exponent
  · -- Then no significand but the least one is near enough.
    obtain ⟨hgt, hsmall⟩ := hbelow
    have hclose : (significand - 1 / 2 : ℚ) < 2 ^ 52 :=
      lt_of_mul_lt_mul_right (hlow.trans_lt hsmall) hunit.le
    have hle : (significand : ℚ) < 2 ^ 52 + 1 := by linarith
    have hle : significand < 2 ^ 52 + 1 := by exact_mod_cast hle
    have hge := h.normal.resolve_right hgt.ne'
    obtain rfl : significand = 2 ^ 52 := by omega
    exact ofQuotient_below_power hden hgt h.exponent_le (hq.bound_below_power hgt) hsmall
  · -- The unit of the number is that of the double.
    have hquotient : (0 : ℚ) < num / den := lt_of_lt_of_le (mul_pos (by linarith) hunit) hlow
    have hnum : num ≠ 0 := by
      rintro rfl
      simp at hquotient
    obtain ⟨hlogLow, hlogHigh⟩ := log2Quotient_spec hden hnum
    have hlog : log2Quotient num den < exponent + 53 := by
      refine (zpow_lt_zpow_iff_right₀ one_lt_two).1 (lt_of_le_of_lt hlogLow ?_)
      rw [zpow_add₀ two_ne_zero, mul_comm]
      refine lt_of_le_of_lt hhigh (mul_lt_mul_of_pos_right ?_ hunit)
      norm_num at hlt ⊢
      linarith
    have hexponent : max (log2Quotient num den - 52) minExponent = exponent := by
      have hge := h.exponent_ge
      by_cases hgt : minExponent < exponent
      · have hlarge := not_lt.1 fun hsmall => hbelow ⟨hgt, hsmall⟩
        have hlog : exponent + 52 < log2Quotient num den + 1 := by
          refine (zpow_lt_zpow_iff_right₀ one_lt_two).1 (lt_of_le_of_lt ?_ hlogHigh)
          rw [zpow_add₀ two_ne_zero, mul_comm]
          exact_mod_cast hlarge
        omega
      · omega
    exact ofQuotient_eq_finite hnum hexponent (roundQuotient_scaled hden hlow hhigh hodd)
      h.significand_lt h.exponent_le

/-! ## Decimals -/

/-- The numbers in the interval of a double are neither so small nor so great that a decimal is not
looked at. -/
theorem Interval.Holds.range {q : ℚ} {significand : Nat} {exponent : Int} (hpos : 0 < significand)
    (h : IsNormalized significand exponent) (hq : (interval significand exponent).Holds q) :
    (10 : ℚ) ^ (-400 : Int) < q ∧ q < 10 ^ (400 : Int) := by
  obtain ⟨hlow, hhigh, -⟩ := hq.bounds hpos
  have hone : (1 : ℚ) ≤ significand := by exact_mod_cast hpos
  have hlt : (significand : ℚ) + 1 ≤ 2 ^ 53 := by exact_mod_cast h.significand_lt
  have hunit : (0 : ℚ) < 2 ^ exponent := by positivity
  constructor
  · have hleast : (10 : ℚ) ^ (-400 : Int) < 2 ^ (-1075 : Int) := by
      have hpow : 2 ^ 1075 < 10 ^ 400 := by decide +kernel
      rw [zpow_neg, zpow_neg]
      exact inv_strictAnti₀ (by positivity) (by exact_mod_cast hpow)
    have hunitLow : (2 : ℚ) ^ (-1074 : Int) ≤ 2 ^ exponent :=
      zpow_le_zpow_right₀ one_le_two h.exponent_ge
    have hhalf : (2 : ℚ) ^ (-1074 : Int) = 2 * 2 ^ (-1075 : Int) := by
      rw [← zpow_one_add₀ two_ne_zero]
      norm_num
    have hnear : (1 / 2 : ℚ) * 2 ^ exponent ≤ (significand - 1 / 2) * 2 ^ exponent :=
      mul_le_mul_of_nonneg_right (by linarith) hunit.le
    calc (10 : ℚ) ^ (-400 : Int) < 2 ^ (-1075 : Int) := hleast
      _ = 1 / 2 * 2 ^ (-1074 : Int) := by rw [hhalf]; ring
      _ ≤ 1 / 2 * 2 ^ exponent := mul_le_mul_of_nonneg_left hunitLow (by norm_num)
      _ ≤ q := hnear.trans hlow
  · have hgreatest : (2 : ℚ) ^ (1024 : Int) < 10 ^ (400 : Int) := by
      have hpow : 2 ^ 1024 < 10 ^ 400 := by decide +kernel
      exact_mod_cast hpow
    have hunitHigh : (2 : ℚ) ^ exponent ≤ 2 ^ (971 : Int) :=
      zpow_le_zpow_right₀ one_le_two h.exponent_le
    have hsplit : (2 : ℚ) ^ (1024 : Int) = 2 ^ 53 * 2 ^ (971 : Int) := by
      rw [← zpow_natCast, ← zpow_add₀ two_ne_zero]
      norm_num
    have hnear : (significand + 1 / 2 : ℚ) * 2 ^ exponent ≤ 2 ^ 53 * 2 ^ (971 : Int) :=
      mul_le_mul (by linarith) hunitHigh hunit.le (by positivity)
    calc q ≤ 2 ^ 53 * 2 ^ (971 : Int) := hhigh.trans hnear
      _ = 2 ^ (1024 : Int) := hsplit.symm
      _ < 10 ^ (400 : Int) := hgreatest

theorem isCanonical_ofDecimal (negative : Bool) (digits : Text) (power : Int) :
    (ofDecimal negative digits power).isCanonical = true := by
  unfold ofDecimal
  dsimp only
  split
  · cases negative <;> decide
  · split
    · rfl
    · exact isCanonical_ofQuotient negative _ (Nat.pow_pos (by decide)).ne'

/-- Zeros are read as zero. -/
theorem ofDecimal_of_value_eq_zero {negative : Bool} {digits : Text} {power : Int}
    (hdigits : ∀ c ∈ digits, Decimal.isDigit c = true) (h : Decimal.value digits = 0) :
    ofDecimal negative digits power = zero negative := by
  rcases Decimal.dropWhile_spec hdigits with ⟨hdrop, -⟩ | ⟨c, rest, -, hlow, -⟩
  · unfold ofDecimal
    dsimp only
    rw [hdrop, List.isEmpty_nil, Bool.true_or, if_pos rfl]
  · rw [h] at hlow
    exact absurd hlow (not_le.2 (Nat.pow_pos (by decide)))

/-- A decimal in the interval of a double is rounded to it. -/
theorem ofDecimal_of_holds {negative : Bool} {digits : Text} {power : Int} {significand : Nat}
    {exponent : Int} (hdigits : ∀ c ∈ digits, Decimal.isDigit c = true) (hpos : 0 < significand)
    (h : IsNormalized significand exponent)
    (hq : (interval significand exponent).Holds (Decimal.value digits * 10 ^ power)) :
    ofDecimal negative digits power = .finite negative significand exponent := by
  obtain ⟨hlow, hhigh⟩ := hq.range hpos h
  have hpower : (0 : ℚ) < 10 ^ power := by positivity
  have hten : (1 : ℚ) < 10 := by norm_num
  rcases Decimal.dropWhile_spec hdigits with ⟨-, hzero⟩ | ⟨c, rest, hdrop, hvalueLow, hvalueHigh⟩
  · rw [hzero, Nat.cast_zero, zero_mul] at hlow
    exact absurd hlow (not_lt.2 (by positivity))
  · have hvalueLow : (10 : ℚ) ^ rest.length ≤ Decimal.value digits := by exact_mod_cast hvalueLow
    have hvalueHigh : (Decimal.value digits : ℚ) < 10 ^ (rest.length + 1) := by
      exact_mod_cast hvalueHigh
    have hmagnitudeLow : (-400 : Int) < rest.length + 1 + power := by
      refine (zpow_lt_zpow_iff_right₀ hten).1 (hlow.trans ?_)
      rw [zpow_add₀ (by norm_num)]
      exact mul_lt_mul_of_pos_right (by exact_mod_cast hvalueHigh) hpower
    have hmagnitudeHigh : rest.length + power < (400 : Int) := by
      refine (zpow_lt_zpow_iff_right₀ hten).1 (lt_of_le_of_lt ?_ hhigh)
      rw [zpow_add₀ (by norm_num)]
      exact mul_le_mul_of_nonneg_right (by exact_mod_cast hvalueLow) hpower.le
    have hvalue := Decimal.value_dropWhile digits
    rw [hdrop] at hvalue
    have hsmall : ((c :: rest).isEmpty || decide (((c :: rest).length : Int) + power < -400)) =
        false := by
      rw [List.isEmpty_cons, Bool.false_or, decide_eq_false_iff_not, List.length_cons]
      push_cast
      omega
    have hlarge : ¬ (400 : Int) < ((c :: rest).length : Int) + power := by
      rw [List.length_cons]
      push_cast
      omega
    unfold ofDecimal
    dsimp only
    rw [hdrop, hsmall, if_neg Bool.false_ne_true, if_neg hlarge, hvalue]
    refine ofQuotient_of_holds (Nat.pow_pos (by decide)).ne' hpos h ?_
    push_cast
    rw [mul_div_assoc, pow_toNat_div]
    exact hq

end SignedSetup.Double
