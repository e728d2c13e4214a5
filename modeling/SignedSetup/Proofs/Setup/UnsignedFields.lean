import SignedSetup.Proofs.Json.Doubles
import SignedSetup.Proofs.Setup.Numerals

/-!
# Fields that are numbers

A field is an unsigned 64-bit integer iff it is a string of ASCII digits, after at most one plus
sign, whose value is not too great; with leading zeros it may have as many digits as are read. Any
other field gives the default, with one exception: a numeral of too many digits is refused, also
where its value is small (`unsignedField_iff`).
-/

namespace SignedSetup.Setup

/-! ## Texts -/

/-- A text spells an unsigned 64-bit integer. -/
def IsUnsigned (t : Text) (n : Nat) : Prop :=
  ∃ digits, IsNumeral t digits ∧ Decimal.value digits = n ∧ n ≤ maxUnsigned

/-- A text is a numeral of so many digits, which are more than are read. -/
def IsTooLong (t : Text) (count : Nat) : Prop :=
  ∃ digits, IsNumeral t digits ∧ digits.length = count ∧ Decimal.limit < count

section Text

variable {t digits digits' : Text} {n count : Nat}

theorem IsNumeral.unique (h : IsNumeral t digits) (h' : IsNumeral t digits') : digits = digits' :=
  (isNumeral_iff.1 h).1.trans (isNumeral_iff.1 h').1.symm

theorem IsUnsigned.unique {m : Nat} (h : IsUnsigned t m) (h' : IsUnsigned t n) : m = n := by
  obtain ⟨digits, hdigits, rfl, -⟩ := h
  obtain ⟨digits', hdigits', rfl, -⟩ := h'
  rw [hdigits.unique hdigits']

theorem IsTooLong.unique (h : IsTooLong t count) {count' : Nat} (h' : IsTooLong t count') :
    count = count' := by
  obtain ⟨digits, hdigits, rfl, -⟩ := h
  obtain ⟨digits', hdigits', rfl, -⟩ := h'
  rw [hdigits.unique hdigits']

theorem IsNumeral.isUnsigned_iff (h : IsNumeral t digits) :
    IsUnsigned t n ↔ Decimal.value digits = n ∧ n ≤ maxUnsigned := by
  constructor
  · rintro ⟨digits', h', hn⟩
    rwa [h.unique h']
  · exact fun hn => ⟨digits, h, hn⟩

theorem IsNumeral.isTooLong_iff (h : IsNumeral t digits) :
    IsTooLong t count ↔ digits.length = count ∧ Decimal.limit < count := by
  constructor
  · rintro ⟨digits', h', hcount⟩
    rwa [h.unique h']
  · exact fun hcount => ⟨digits, h, hcount⟩

/-- A text is a numeral that is too long, or a numeral of an unsigned 64-bit integer, or neither. -/
theorem unsigned?_cases (t : Text) :
    (∃ count, IsTooLong t count ∧ unsigned? t = .error ⟨count⟩) ∨
      (∀ count, ¬ IsTooLong t count) ∧
        ((∃ n, IsUnsigned t n ∧ unsigned? t = .ok (some n)) ∨
          (∀ n, ¬ IsUnsigned t n) ∧ unsigned? t = .ok none) := by
  by_cases hnumeral : ∃ digits, IsNumeral t digits
  · obtain ⟨digits, hdigits⟩ := hnumeral
    rw [unsigned?_of_isNumeral hdigits, Decimal.read]
    simp only [hdigits.isTooLong_iff, hdigits.isUnsigned_iff]
    by_cases hlong : Decimal.limit < digits.length
    · refine .inl ⟨digits.length, ⟨rfl, hlong⟩, ?_⟩
      rw [if_neg (Nat.not_le_of_lt hlong)]
      rfl
    · refine .inr ⟨fun count h => hlong (h.1 ▸ h.2), ?_⟩
      rw [if_pos (Nat.le_of_not_lt hlong), Except.map]
      by_cases hle : Decimal.value digits ≤ maxUnsigned
      · exact .inl ⟨_, ⟨rfl, hle⟩, by rw [if_pos hle]⟩
      · exact .inr ⟨fun n h => hle (h.1 ▸ h.2), by rw [if_neg hle]⟩
  · rw [unsigned?_of_not_isNumeral hnumeral]
    have hnone (digits : Text) : ¬ IsNumeral t digits := fun h => hnumeral ⟨digits, h⟩
    exact .inr ⟨fun _ h => hnone _ h.choose_spec.1, .inr ⟨fun _ h => hnone _ h.choose_spec.1, rfl⟩⟩

/-- The numeral of an unsigned 64-bit integer spells it, and is not too long. -/
theorem isUnsigned_ofNat (h : n ≤ maxUnsigned) :
    IsUnsigned (Decimal.ofNat n) n ∧ ∀ count, ¬ IsTooLong (Decimal.ofNat n) count := by
  have hdigits : IsNumeral (Decimal.ofNat n) (Decimal.ofNat n) := by
    refine ⟨.inl rfl, ?_, fun c hc => Decimal.isDigit_of_mem_ofNat hc⟩
    obtain ⟨c, ds, hn, -⟩ := Decimal.exists_cons_ofNat n
    rw [hn]
    exact List.cons_ne_nil c ds
  have hlength : (Decimal.ofNat n).length ≤ Decimal.limit := by
    rw [← Json.exceedsLimit_value (Json.isWhole_ofNat n), Decimal.value_ofNat,
      Decimal.exceedsLimit, decide_eq_false_iff_not, Nat.not_le]
    have hpow : maxUnsigned < 10 ^ 20 := by decide
    exact Nat.lt_of_le_of_lt h (Nat.lt_of_lt_of_le hpow (Nat.pow_le_pow_right (by decide)
      (by decide)))
  refine ⟨hdigits.isUnsigned_iff.2 ⟨Decimal.value_ofNat n, h⟩, fun count hlong => ?_⟩
  obtain ⟨rfl, hlong⟩ := hdigits.isTooLong_iff.1 hlong
  exact absurd hlong (Nat.not_lt_of_le hlength)

end Text

/-! ## Fields -/

section Field

variable {α : Type} {ofNat : Nat → α} {message : List (Text × Json)} {name : Text}
  {default r : α}

/-- What is taken from a field that may be no string: the number that it spells, or a default. -/
def Takes (ofNat : Nat → α) (field? : Option Text) (default r : α) : Prop :=
  (∃ t n, field? = some t ∧ IsUnsigned t n ∧ r = ofNat n) ∨
    (∀ t n, field? = some t → ¬ IsUnsigned t n) ∧ r = default

theorem Takes.unique {field? : Option Text} {r' : α} (h : Takes ofNat field? default r)
    (h' : Takes ofNat field? default r') : r = r' := by
  rcases h with ⟨t, n, ht, hn, rfl⟩ | ⟨hnone, rfl⟩
  · rcases h' with ⟨t', n', ht', hn', rfl⟩ | ⟨hnone, -⟩
    · obtain rfl := Option.some.inj (ht.symm.trans ht')
      rw [hn.unique hn']
    · exact absurd hn (hnone t n ht)
  · rcases h' with ⟨t', n', ht', hn', -⟩ | ⟨-, rfl⟩
    · exact absurd hn' (hnone t' n' ht')
    · rfl

theorem unsignedField_cases (ofNat : Nat → α) (message : List (Text × Json)) (name : Text)
    (default : α) :
    (∃ t count, textField? message name = some t ∧ IsTooLong t count ∧
        unsignedField ofNat message name default = .error ⟨count⟩) ∨
      (∀ t count, textField? message name = some t → ¬ IsTooLong t count) ∧
        ∃ r, Takes ofNat (textField? message name) default r ∧
          unsignedField ofNat message name default = .ok r := by
  rw [unsignedField]
  cases textField? message name with
  | none =>
    have hnone {t : Text} (h : none = some t) : False := Option.some_ne_none t h.symm
    exact .inr ⟨fun _ _ h => (hnone h).elim, default, .inr ⟨fun _ _ h => (hnone h).elim, rfl⟩, rfl⟩
  | some t =>
    dsimp only
    rcases unsigned?_cases t with ⟨count, hlong, h⟩ | ⟨hshort, ⟨n, hn, h⟩ | ⟨hnone, h⟩⟩
    · rw [h]
      exact .inl ⟨t, count, rfl, hlong, rfl⟩
    · rw [h]
      refine .inr ⟨fun u count hu => Option.some.inj hu ▸ hshort count, ofNat n, ?_, rfl⟩
      exact .inl ⟨t, n, rfl, hn, rfl⟩
    · rw [h]
      refine .inr ⟨fun u count hu => Option.some.inj hu ▸ hshort count, default, ?_, rfl⟩
      exact .inr ⟨fun u n hu => Option.some.inj hu ▸ hnone n, rfl⟩

/-- A field gives the unsigned 64-bit integer that it spells, or else the default, unless it is a
numeral of too many digits: that one is refused. The numeral of an unsigned 64-bit integer is read
as this integer. -/
theorem unsignedField_iff (ofNat : Nat → α) (message : List (Text × Json)) (name : Text)
    (default : α) :
    (∀ e, unsignedField ofNat message name default = .error e ↔
      ∃ t, textField? message name = some t ∧ IsTooLong t e.digits) ∧
    (∀ r, unsignedField ofNat message name default = .ok r ↔
      (∀ t count, textField? message name = some t → ¬ IsTooLong t count) ∧
        Takes ofNat (textField? message name) default r) ∧
    ∀ n ≤ maxUnsigned, textField? message name = some (Decimal.ofNat n) →
      unsignedField ofNat message name default = .ok (ofNat n) := by
  have hok (r : α) : unsignedField ofNat message name default = .ok r ↔
      (∀ t count, textField? message name = some t → ¬ IsTooLong t count) ∧
        Takes ofNat (textField? message name) default r := by
    rcases unsignedField_cases ofNat message name default with
      ⟨t, count, ht, hlong, h⟩ | ⟨hshort, r', htakes, h⟩
    · rw [h]
      exact iff_of_false nofun fun hr => hr.1 t count ht hlong
    · rw [h, Except.ok.injEq]
      constructor
      · rintro rfl
        exact ⟨hshort, htakes⟩
      · exact fun hr => htakes.unique hr.2
  refine ⟨fun e => ?_, hok, fun n hn ht => ?_⟩
  · rcases unsignedField_cases ofNat message name default with
      ⟨t, count, ht, hlong, h⟩ | ⟨hshort, r, -, h⟩
    · rw [h, Except.error.injEq]
      constructor
      · rintro rfl
        exact ⟨t, ht, hlong⟩
      · rintro ⟨u, hu, hlong'⟩
        obtain rfl := Option.some.inj (ht.symm.trans hu)
        rw [hlong.unique hlong']
    · rw [h]
      exact iff_of_false nofun fun ⟨t, ht, hlong⟩ => hshort t e.digits ht hlong
  · obtain ⟨hunsigned, hshort⟩ := isUnsigned_ofNat hn
    refine (hok _).2 ⟨fun t count h => ?_, .inl ⟨_, n, ht, hunsigned, rfl⟩⟩
    rw [ht] at h
    exact Option.some.inj h ▸ hshort count

/-- Ones beyond the limit are refused, whatever the default is. -/
theorem unsignedField_overlongDigits :
    IsTooLong overlongDigits (Decimal.limit + 1) ∧
      unsignedField id [("a", .text overlongDigits)] "a" 7 = .error ⟨Decimal.limit + 1⟩ := by
  have hnumeral : IsNumeral overlongDigits overlongDigits := by
    refine ⟨.inl rfl, List.cons_ne_nil _ _, fun c hc => ?_⟩
    rw [List.eq_of_mem_replicate hc]
    rfl
  have hlong : IsTooLong overlongDigits (Decimal.limit + 1) :=
    ⟨overlongDigits, hnumeral, List.length_replicate, Nat.lt_succ_self _⟩
  exact ⟨hlong, ((unsignedField_iff id _ "a" 7).1 _).2 ⟨overlongDigits, rfl, hlong⟩⟩

end Field

end SignedSetup.Setup
