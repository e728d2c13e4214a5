import Mathlib.Data.List.TakeWhile
import Mathlib.Tactic.Ring
import SignedSetup.Number.Decimal

/-!
# What digits spell

Digits spell a number below the power of ten that their count gives, and at least a tenth of it if
the first one is no zero. Zeros before the digits do not count, and each zero behind them counts
ten times. A numeral has no zero before its digits, so its length says how great its number is.
-/

namespace SignedSetup.Decimal

theorem isDigit_iff {c : CodePoint} : isDigit c = true ↔ ∃ d, d < 10 ∧ digit? c = some d := by
  unfold isDigit digit?
  constructor
  · intro h
    split at h
    · next hc =>
      simp only [Bool.and_eq_true, decide_eq_true_eq] at hc
      exact ⟨c.val - 0x30, by omega, if_pos (by simpa using hc)⟩
    · cases h
  · rintro ⟨d, -, h⟩
    rw [h]
    rfl

/-- Only the character `0` is the digit zero. -/
theorem eq_zero_of_digit? {c : CodePoint} (h : digit? c = some 0) : c = CodePoint.ofChar '0' := by
  unfold digit? at h
  split at h
  · next hc =>
    simp only [Bool.and_eq_true, decide_eq_true_eq] at hc
    have hval : c.val - 0x30 = 0 := Option.some.inj h
    exact Fin.ext (show c.val = 0x30 by omega)
  · cases h

theorem foldl_value (acc : Nat) (ds : Text) :
    ds.foldl (fun acc c => 10 * acc + (digit? c).getD 0) acc =
      acc * 10 ^ ds.length + value ds := by
  induction ds generalizing acc with
  | nil => simp [value]
  | cons c ds ih =>
    rw [value, List.foldl_cons, List.foldl_cons, ih, ih, List.length_cons, Nat.pow_succ]
    ring

theorem value_cons (c : CodePoint) (ds : Text) :
    value (c :: ds) = (digit? c).getD 0 * 10 ^ ds.length + value ds := by
  rw [value, List.foldl_cons, foldl_value, Nat.mul_zero, Nat.zero_add]

theorem value_append (ds es : Text) : value (ds ++ es) = value ds * 10 ^ es.length + value es := by
  rw [value, List.foldl_append, foldl_value]
  rfl

theorem value_zeros (count : Nat) : value (List.replicate count (digit 0)) = 0 := by
  induction count with
  | zero => rfl
  | succ count ih => rw [List.replicate_succ, value_cons, ih, digit?_digit (by decide)]; simp

/-- Zeros before digits count for nothing. -/
theorem value_zeros_append (count : Nat) (ds : Text) :
    value (List.replicate count (digit 0) ++ ds) = value ds := by
  rw [value_append, value_zeros, Nat.zero_mul, Nat.zero_add]

/-- Each zero behind digits counts ten times. -/
theorem value_append_zeros (ds : Text) (count : Nat) :
    value (ds ++ List.replicate count (digit 0)) = value ds * 10 ^ count := by
  rw [value_append, value_zeros, List.length_replicate, Nat.add_zero]

/-- Digits are zeros and what follows them. -/
theorem exists_eq_zeros_append (ds : Text) :
    ∃ count, ds = List.replicate count (digit 0) ++ ds.dropWhile (· = digit 0) := by
  have htake : ds.takeWhile (· = digit 0) =
      List.replicate (ds.takeWhile (· = digit 0)).length (digit 0) := by
    refine List.eq_replicate_iff.2 ⟨rfl, fun c hc => ?_⟩
    have hzero := List.mem_takeWhile_imp hc
    exact of_decide_eq_true hzero
  refine ⟨(ds.takeWhile (· = digit 0)).length, ?_⟩
  rw [← htake, List.takeWhile_append_dropWhile]

theorem value_dropWhile (ds : Text) : value (ds.dropWhile (· = digit 0)) = value ds := by
  obtain ⟨count, hds⟩ := exists_eq_zeros_append ds
  rw [← value_zeros_append count, ← hds]

/-- Digits spell a number below the power of ten that their count gives. -/
theorem value_lt_pow {ds : Text} (h : ∀ c ∈ ds, isDigit c = true) : value ds < 10 ^ ds.length := by
  induction ds with
  | nil => exact Nat.one_pos
  | cons c ds ih =>
    obtain ⟨d, hd, hc⟩ := isDigit_iff.1 (h c List.mem_cons_self)
    have hrest := ih fun c hc => h c (List.mem_cons_of_mem _ hc)
    rw [value_cons, hc, Option.getD_some, List.length_cons]
    calc d * 10 ^ ds.length + value ds < d * 10 ^ ds.length + 10 ^ ds.length :=
          Nat.add_lt_add_left hrest _
      _ = (d + 1) * 10 ^ ds.length := (Nat.succ_mul _ _).symm
      _ ≤ 10 * 10 ^ ds.length := Nat.mul_le_mul_right _ hd
      _ = 10 ^ (ds.length + 1) := (Nat.pow_succ').symm

/-- Digits after one that is no zero spell at least the power of ten that their count gives. -/
theorem pow_le_value_cons {c : CodePoint} {ds : Text} (hdigit : isDigit c = true)
    (hzero : c ≠ CodePoint.ofChar '0') : 10 ^ ds.length ≤ value (c :: ds) := by
  obtain ⟨d, -, hc⟩ := isDigit_iff.1 hdigit
  have hpos : 0 < d := Nat.pos_of_ne_zero fun hd => hzero (eq_zero_of_digit? (hd ▸ hc))
  rw [value_cons, hc, Option.getD_some]
  exact Nat.le_add_right_of_le (Nat.le_mul_of_pos_left _ hpos)

/-- The digits from the first that is no zero, if there is one, say how great the number is. -/
theorem dropWhile_spec {ds : Text} (h : ∀ c ∈ ds, isDigit c = true) :
    ds.dropWhile (· = digit 0) = [] ∧ value ds = 0 ∨
      ∃ c rest, ds.dropWhile (· = digit 0) = c :: rest ∧ 10 ^ rest.length ≤ value ds ∧
        value ds < 10 ^ (rest.length + 1) := by
  rw [← value_dropWhile ds]
  have hall : ∀ c ∈ ds.dropWhile (· = digit 0), isDigit c = true :=
    fun c hc => h c ((List.dropWhile_suffix _).subset hc)
  cases hdrop : ds.dropWhile (· = digit 0) with
  | nil => exact .inl ⟨rfl, rfl⟩
  | cons c rest =>
    rw [hdrop] at hall
    have hc : c ≠ CodePoint.ofChar '0' := by
      intro hc
      have hfirst := List.head?_dropWhile_not (· = digit 0) ds
      rw [hdrop, hc] at hfirst
      cases hfirst
    exact .inr ⟨c, rest, rfl, pow_le_value_cons (hall c List.mem_cons_self) hc, value_lt_pow hall⟩

/-! ## Numerals -/

/-- A numeral begins with a digit, and with a zero only if the number is zero. -/
theorem exists_cons_ofNat (n : Nat) :
    ∃ c rest, ofNat n = c :: rest ∧ isDigit c = true ∧ (c = digit 0 → n = 0) := by
  induction n using ofNat.induct with
  | case1 n hn =>
    refine ⟨digit n, [], by rw [ofNat, if_pos hn], isDigit_of_mem_ofNat (n := n) ?_, fun h => ?_⟩
    · rw [ofNat, if_pos hn]
      exact List.mem_singleton_self _
    · have h := congrArg digit? h
      rw [digit?_digit hn, digit?_digit (by decide)] at h
      exact Option.some.inj h
  | case2 n hn ih =>
    obtain ⟨c, rest, hc, hdigit, hzero⟩ := ih
    refine ⟨c, rest ++ [digit (n % 10)], by rw [ofNat, if_neg hn, hc, List.cons_append], hdigit,
      fun h => ?_⟩
    have := hzero h
    omega

/-- The length of a numeral says how great its number is. -/
theorem length_ofNat_spec {n : Nat} (h : 0 < n) :
    10 ^ (ofNat n).length ≤ 10 * n ∧ n < 10 ^ (ofNat n).length := by
  obtain ⟨c, ds, hn, hc, hzero⟩ := exists_cons_ofNat n
  have hvalue : value (c :: ds) = n := by rw [← hn, value_ofNat]
  constructor
  · have hle : 10 ^ ds.length ≤ value (c :: ds) :=
      pow_le_value_cons hc fun heq => h.ne' (hzero heq)
    rw [hn, List.length_cons, Nat.pow_succ', ← hvalue]
    exact Nat.mul_le_mul_left 10 hle
  · have hlt : value (ofNat n) < 10 ^ (ofNat n).length :=
      value_lt_pow fun d hd => isDigit_of_mem_ofNat hd
    rwa [value_ofNat] at hlt

/-- A numeral is its digits up to the last that is no zero, and zeros. -/
theorem exists_ofNat_eq_append (n : Nat) :
    ∃ count, ofNat n =
      Text.trimRight (· = digit 0) (ofNat n) ++ List.replicate count (digit 0) := by
  obtain ⟨count, hreverse⟩ := exists_eq_zeros_append (ofNat n).reverse
  refine ⟨count, ?_⟩
  rw [Text.trimRight, ← List.reverse_replicate, ← List.reverse_append, ← hreverse,
    List.reverse_reverse]

/-- The digits of a positive number up to the last that is no zero: they begin with another digit
than zero, and with the zeros after them they spell the number. -/
theorem exists_cons_trimRight_ofNat {n : Nat} (h : 0 < n) :
    ∃ c rest count, Text.trimRight (· = digit 0) (ofNat n) = c :: rest ∧ c ≠ digit 0 ∧
      (∀ d ∈ c :: rest, isDigit d = true) ∧
      (ofNat n).length = (c :: rest).length + count ∧ value (c :: rest) * 10 ^ count = n := by
  obtain ⟨c, ds, hn, -, hzero⟩ := exists_cons_ofNat n
  have hc : c ≠ digit 0 := fun heq => h.ne' (hzero heq)
  obtain ⟨count, hkept⟩ := exists_ofNat_eq_append n
  have hvalue : value (Text.trimRight (· = digit 0) (ofNat n)) * 10 ^ count = n := by
    rw [← value_append_zeros, ← hkept, value_ofNat]
  have hlength := congrArg List.length hkept
  rw [List.length_append, List.length_replicate] at hlength
  cases htrim : Text.trimRight (· = digit 0) (ofNat n) with
  | nil =>
    -- Then the numeral is that of zero.
    rw [htrim] at hvalue
    exact absurd hvalue (by simpa [value] using h.ne)
  | cons d rest =>
    rw [htrim] at hvalue hlength hkept
    obtain rfl : c = d := by
      rw [hn] at hkept
      exact (List.cons.inj hkept).1
    refine ⟨c, rest, count, rfl, hc, fun e he => isDigit_of_mem_ofNat (n := n) ?_, hlength, hvalue⟩
    rw [hkept]
    exact List.mem_append_left _ he

end SignedSetup.Decimal
