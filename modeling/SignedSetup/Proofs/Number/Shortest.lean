import SignedSetup.Proofs.Number.Rounding

/-!
# The shortest decimal of a double stands for it

A decimal is taken for a double only if it lies in the interval of the double, and one of seventeen
digits does (`contains_shortest`): seventeen digits make a grid that is finer than the interval is
wide, so the interval holds one of the two neighbours that the exact value has on the grid.
-/

namespace SignedSetup.Double

/-- The number that a decimal stands for. -/
def Scientific.toRat (d : Scientific) : ℚ := d.digits * 10 ^ d.exponent

/-- The next decimal of the same exponent. -/
def Scientific.next (d : Scientific) : Scientific := ⟨d.digits + 1, d.exponent⟩

theorem Scientific.toRat_next (d : Scientific) : d.next.toRat = d.toRat + 10 ^ d.exponent := by
  rw [toRat, toRat, next]
  push_cast
  ring

theorem floor_quotient (num : Nat) {den : Nat} (hden : den ≠ 0) :
    ((num / den : Nat) : ℚ) ≤ num / den ∧ (num : ℚ) / den < (num / den : Nat) + 1 := by
  have hpos : (0 : ℚ) < den := by exact_mod_cast Nat.pos_of_ne_zero hden
  rw [le_div_iff₀ hpos, div_lt_iff₀ hpos, mul_comm (_ + 1)]
  exact ⟨by exact_mod_cast Nat.div_mul_le_self num den,
    by exact_mod_cast Nat.lt_mul_div_succ num (Nat.pos_of_ne_zero hden)⟩

namespace Interval

/-! ## The neighbours on the grid -/

/-- The decimal of so many digits right below the value. -/
def below (i : Interval) (count : Nat) : Scientific :=
  let exponent := i.magnitude - (count : Int) + 1
  ⟨i.value * i.num * 10 ^ (-exponent).toNat / (i.den * 10 ^ exponent.toNat), exponent⟩

section Grid

variable {i : Interval} (hden : i.den ≠ 0)
include hden

theorem contains_iff {d : Scientific} : i.contains d = true ↔ i.Holds d.toRat := by
  have hpos : (0 : ℚ) < i.den := by exact_mod_cast Nat.pos_of_ne_zero hden
  have hunit : (0 : ℚ) < 10 ^ (-d.exponent).toNat := by positivity
  have hrat : d.toRat = d.digits * 10 ^ d.exponent.toNat / 10 ^ (-d.exponent).toNat := by
    rw [Scientific.toRat, ← pow_toNat_div, mul_div_assoc]
  have hlow (n : Nat) : n * (i.num * 10 ^ (-d.exponent).toNat) ≤
      d.digits * 10 ^ d.exponent.toNat * i.den ↔ n * i.unit ≤ d.toRat := by
    rw [unit, ← mul_div_assoc, hrat, div_le_div_iff₀ hpos hunit, mul_assoc (n : ℚ)]
    exact_mod_cast Iff.rfl
  have hhigh (n : Nat) : d.digits * 10 ^ d.exponent.toNat * i.den ≤
      n * (i.num * 10 ^ (-d.exponent).toNat) ↔ d.toRat ≤ n * i.unit := by
    rw [unit, ← mul_div_assoc, hrat, div_le_div_iff₀ hunit hpos, mul_assoc (n : ℚ)]
    exact_mod_cast Iff.rfl
  unfold contains Holds
  dsimp only
  split
  · rw [Bool.and_eq_true, decide_eq_true_eq, decide_eq_true_eq, hlow, hhigh]
  · rw [Bool.and_eq_true, decide_eq_true_eq, decide_eq_true_eq, ← not_le, ← not_le, hlow, hhigh,
      not_le, not_le]

/-- The magnitude of an interval is that of its value, unless the value is too small. -/
theorem magnitude_spec (hvalue : (10 : ℚ) ^ (-324 : Int) ≤ i.value * i.unit) :
    (10 : ℚ) ^ i.magnitude ≤ i.value * i.unit ∧ i.value * i.unit < 10 ^ (i.magnitude + 1) := by
  have hscaled : ((i.value * i.num * 10 ^ 324 : Nat) : ℚ) / i.den =
      i.value * i.unit * 10 ^ (324 : Int) := by
    have hpow : (10 : ℚ) ^ (324 : Int) = 10 ^ 324 := zpow_natCast 10 324
    rw [unit, hpow]
    simp only [Nat.cast_mul, Nat.cast_pow, Nat.cast_ofNat]
    rw [mul_div_right_comm, mul_div_assoc]
  obtain ⟨hfloor, hnext⟩ := floor_quotient (i.value * i.num * 10 ^ 324) hden
  rw [hscaled] at hfloor hnext
  have hscale : (0 : ℚ) < 10 ^ (324 : Int) := by positivity
  have hone : (1 : ℚ) ≤ i.value * i.unit * 10 ^ (324 : Int) := by
    rw [zpow_neg, inv_le_iff_one_le_mul₀ hscale] at hvalue
    exact hvalue
  -- The whole part of the scaled value has as many digits as its magnitude says.
  unfold magnitude
  generalize i.value * i.num * 10 ^ 324 / i.den = n at hfloor hnext ⊢
  have hn : 0 < n := by
    refine Nat.pos_of_ne_zero ?_
    rintro rfl
    rw [Nat.cast_zero, zero_add] at hnext
    exact absurd hone (not_le.2 hnext)
  obtain ⟨hlow, hhigh⟩ := Decimal.length_ofNat_spec hn
  have hlow : (10 : ℚ) ^ ((Decimal.ofNat n).length : Int) ≤ 10 * n := by exact_mod_cast hlow
  have hhigh : (n : ℚ) + 1 ≤ 10 ^ ((Decimal.ofNat n).length : Int) := by exact_mod_cast hhigh
  generalize ((Decimal.ofNat n).length : Int) = length at hlow hhigh ⊢
  have hsplit : (10 : ℚ) ^ length = 10 * 10 ^ (length - 325) * 10 ^ (324 : Int) := by
    rw [← zpow_one_add₀ (by norm_num), ← zpow_add₀ (by norm_num)]
    congr 1
    ring
  rw [hsplit] at hlow hhigh
  constructor
  · refine le_of_mul_le_mul_right ?_ hscale
    linarith
  · rw [zpow_add_one₀ (by norm_num)]
    refine lt_of_mul_lt_mul_right ?_ hscale.le
    linarith

theorem toRat_below (count : Nat) :
    (i.below count).toRat ≤ i.value * i.unit ∧
      i.value * i.unit < (i.below count).next.toRat := by
  have hgrid : i.den * 10 ^ (i.below count).exponent.toNat ≠ 0 :=
    Nat.mul_ne_zero hden (Nat.pow_pos (by decide)).ne'
  obtain ⟨hfloor, hnext⟩ := floor_quotient
    (i.value * i.num * 10 ^ (-(i.below count).exponent).toNat) hgrid
  have hquotient : ((i.value * i.num * 10 ^ (-(i.below count).exponent).toNat : Nat) : ℚ) /
      (i.den * 10 ^ (i.below count).exponent.toNat : Nat) =
      i.value * i.unit / 10 ^ (i.below count).exponent := by
    rw [← pow_toNat_div, unit]
    push_cast
    field_simp
  have hunit : (0 : ℚ) < 10 ^ (i.below count).exponent := by positivity
  rw [hquotient, le_div_iff₀ hunit] at hfloor
  rw [hquotient, div_lt_iff₀ hunit] at hnext
  refine ⟨hfloor, ?_⟩
  rw [Scientific.toRat, Scientific.next]
  push_cast
  exact hnext

end Grid

variable {i : Interval}

/-- A decimal is taken only if it stands for the value, and one is taken if one of the neighbours
of the value does. -/
theorem decimal?_spec (count : Nat) :
    (∀ d, i.decimal? count = some d → i.contains d = true) ∧
      (i.contains (i.below count) = true ∨ i.contains (i.below count).next = true →
        (i.decimal? count).isSome = true) := by
  unfold decimal? below Scientific.next
  dsimp only
  generalize i.magnitude - (count : Int) + 1 = exponent
  generalize i.value * i.num * 10 ^ (-exponent).toNat = num
  generalize i.den * 10 ^ exponent.toNat = den
  split
  · next hbelow habove =>
    refine ⟨fun d hd => ?_, fun _ => rfl⟩
    obtain rfl := Option.some.inj hd
    rcases roundQuotient_eq_or num den with hround | hround
    · rw [hround]
      exact hbelow
    · rw [hround]
      exact habove
  · next hbelow _ =>
    refine ⟨fun d hd => ?_, fun _ => rfl⟩
    rwa [← Option.some.inj hd]
  · next _ habove =>
    refine ⟨fun d hd => ?_, fun _ => rfl⟩
    rwa [← Option.some.inj hd]
  · next hbelow habove =>
    refine ⟨nofun, fun h => ?_⟩
    rw [hbelow, habove] at h
    simp at h

/-- The shortest decimal stands for the value, if one of the lengths that are tried does. -/
theorem contains_shortest {more count : Nat}
    (h : (i.decimal? (count + more)).isSome = true) :
    i.contains (i.shortest count more) = true := by
  induction more generalizing count with
  | zero =>
    obtain ⟨d, hd⟩ := Option.isSome_iff_exists.1 h
    rw [Nat.add_zero] at hd
    rw [shortest, hd]
    exact (decimal?_spec count).1 d hd
  | succ more ih =>
    rw [shortest]
    cases hd : i.decimal? count with
    | some d => exact (decimal?_spec count).1 d hd
    | none =>
      refine ih ?_
      rwa [Nat.add_right_comm, Nat.add_assoc]

/-- An interval that is wider than a step holds a number or the next one, if its value lies between
the two. -/
theorem holds_or_holds {q step : ℚ} (hlow : i.low * i.unit < i.value * i.unit)
    (hhigh : i.value * i.unit < i.high * i.unit) (hq : q ≤ i.value * i.unit)
    (hnext : i.value * i.unit < q + step) (hstep : step < (i.high - i.low) * i.unit) :
    i.Holds q ∨ i.Holds (q + step) := by
  by_cases hbelow : i.low * i.unit < q
  · left
    unfold Holds
    split
    · exact ⟨hbelow.le, (hq.trans_lt hhigh).le⟩
    · exact ⟨hbelow, hq.trans_lt hhigh⟩
  · right
    have habove : q + step < i.high * i.unit := by linarith
    unfold Holds
    split
    · exact ⟨(hlow.trans hnext).le, habove.le⟩
    · exact ⟨hlow.trans hnext, habove⟩

end Interval

/-! ## Seventeen digits -/

section Seventeen

variable {significand : Nat} {exponent : Int} (hpos : 0 < significand)
  (h : IsNormalized significand exponent)

theorem den_interval (significand : Nat) (exponent : Int) :
    (interval significand exponent).den ≠ 0 := (Nat.pow_pos (by decide)).ne'

theorem value_interval (significand : Nat) (exponent : Int) :
    (interval significand exponent).value * (interval significand exponent).unit =
      significand * 2 ^ exponent := by
  have hvalue : (interval significand exponent).value = 4 * significand := rfl
  rw [hvalue, unit_interval]
  push_cast
  ring

theorem unit_interval_pos (significand : Nat) (exponent : Int) :
    0 < (interval significand exponent).unit := by
  rw [unit_interval]
  positivity

include hpos

theorem interval_lt (exponent : Int) :
    (interval significand exponent).low < (interval significand exponent).value ∧
      (interval significand exponent).value < (interval significand exponent).high := by
  unfold interval
  dsimp only
  constructor
  · split <;> omega
  · omega

include h

theorem value_interval_ge :
    (10 : ℚ) ^ (-324 : Int) ≤ significand * 2 ^ exponent := by
  have hleast : (10 : ℚ) ^ (-324 : Int) ≤ 2 ^ (-1074 : Int) := by
    have hpow : 2 ^ 1074 ≤ 10 ^ 324 := by decide +kernel
    rw [zpow_neg, zpow_neg]
    exact inv_anti₀ (by positivity) (by exact_mod_cast hpow)
  have hunit : (2 : ℚ) ^ (-1074 : Int) ≤ 2 ^ exponent :=
    zpow_le_zpow_right₀ one_le_two h.exponent_ge
  have hone : (1 : ℚ) ≤ significand := by exact_mod_cast hpos
  exact (hleast.trans hunit).trans (le_mul_of_one_le_left (by positivity) hone)

/-- The interval is wider than the part of its value that seventeen digits leave. -/
theorem width_interval :
    significand * 2 ^ exponent / 10 ^ 16 <
      (((interval significand exponent).high : ℚ) - (interval significand exponent).low) *
        (interval significand exponent).unit := by
  have hunit : (0 : ℚ) < 2 ^ exponent := by positivity
  have hhigh : ((interval significand exponent).high : ℚ) = 4 * significand + 2 := by
    simp [interval]
  rw [unit_interval, hhigh]
  by_cases hpower : significand = 2 ^ 52 ∧ minExponent < exponent
  · have hlow : (interval significand exponent).low = 4 * significand - 1 := by
      simp [interval, hpower]
    rw [hlow, Nat.cast_sub (by omega), hpower.1]
    push_cast
    linarith
  · have hlow : (interval significand exponent).low = 4 * significand - 2 := by
      simp only [interval, Bool.and_eq_true, decide_eq_true_eq, hpower, if_false]
    have hlt : (significand : ℚ) < 2 ^ 53 := by exact_mod_cast h.significand_lt
    have hscaled := mul_lt_mul_of_pos_right hlt hunit
    rw [hlow, Nat.cast_sub (by omega)]
    push_cast
    linarith

/-- The shortest decimal of a double stands for it. -/
theorem holds_shortest :
    (interval significand exponent).Holds
      ((interval significand exponent).shortest 1 16).toRat := by
  have hden := den_interval significand exponent
  have hvalue := value_interval significand exponent
  obtain ⟨hmagnitude, -⟩ := Interval.magnitude_spec hden
    (by rw [hvalue]; exact value_interval_ge hpos h)
  obtain ⟨hbelow, hnext⟩ := Interval.toRat_below hden 17
  rw [Scientific.toRat_next] at hnext
  -- The grid of seventeen digits is finer than the interval is wide.
  have hgrid : (10 : ℚ) ^ ((interval significand exponent).below 17).exponent <
      (((interval significand exponent).high : ℚ) - (interval significand exponent).low) *
        (interval significand exponent).unit := by
    have hexponent : ((interval significand exponent).below 17).exponent =
        (interval significand exponent).magnitude - 16 := by
      rw [Interval.below]
      push_cast
      ring
    rw [hexponent, zpow_sub₀ (by norm_num)]
    refine lt_of_le_of_lt ?_ (width_interval hpos h)
    rw [← hvalue]
    exact div_le_div_of_nonneg_right hmagnitude (by positivity)
  refine (Interval.contains_iff hden).1
    (Interval.contains_shortest ((Interval.decimal?_spec 17).2 ?_))
  rw [Interval.contains_iff hden, Interval.contains_iff hden, Scientific.toRat_next]
  obtain ⟨hlow, hhigh⟩ := interval_lt hpos exponent
  have hunit := unit_interval_pos significand exponent
  refine Interval.holds_or_holds ?_ ?_ hbelow hnext hgrid
  · exact mul_lt_mul_of_pos_right (by exact_mod_cast hlow) hunit
  · exact mul_lt_mul_of_pos_right (by exact_mod_cast hhigh) hunit

end Seventeen

end SignedSetup.Double
