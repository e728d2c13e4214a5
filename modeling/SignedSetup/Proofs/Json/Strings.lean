import SignedSetup.Json.Parser
import SignedSetup.Json.Printer
import SignedSetup.Proofs.Text.Utf8

/-!
# Strings are read as they were written

A written string is read in two steps: its characters and escapes are cut into parts
(`parts_escapeChar`), and then units that form a pair are joined (`joinParts_escapeParts`). Joining
gives the text back if no half of a pair that was escaped on its own meets its other half, which is
what `Text.isUnpaired` says. Without escapes above ASCII nothing is asked of the text.
-/

namespace SignedSetup

/-- No first half of a surrogate pair stands right before a second half. -/
def Text.isUnpaired : Text → Bool
  | [] => true
  | [_] => true
  | c :: d :: rest => !(c.isHighSurrogate && d.isLowSurrogate) && isUnpaired (d :: rest)

namespace Hex

/-- A numeral of four digits. -/
theorem numeral_four {n : Nat} (h : n < 0x10000) :
    numeral 4 n = [digit (n / 0x1000), digit (n / 0x100 % 16), digit (n / 16 % 16),
      digit (n % 16)] := by
  have h₁ : n / 16 / 16 = n / 0x100 := by omega
  have h₂ : n / 0x100 / 16 = n / 0x1000 := by omega
  have step (m : Nat) (hm : ¬ m < 16) : ofNat m = ofNat (m / 16) ++ [digit (m % 16)] := by
    rw [ofNat, if_neg hm]
  have last (m : Nat) (hm : m < 16) : ofNat m = [digit m] := by rw [ofNat, if_pos hm]
  unfold numeral
  by_cases h3 : n < 16
  · rw [last n h3]
    have e₀ : n / 0x1000 = 0 := by omega
    have e₁ : n / 0x100 % 16 = 0 := by omega
    have e₂ : n / 16 % 16 = 0 := by omega
    rw [e₀, e₁, e₂, Nat.mod_eq_of_lt h3]
    rfl
  · by_cases h2 : n < 0x100
    · rw [step n h3, last (n / 16) (by omega)]
      have e₀ : n / 0x1000 = 0 := by omega
      have e₁ : n / 0x100 % 16 = 0 := by omega
      have e₂ : n / 16 % 16 = n / 16 := by omega
      rw [e₀, e₁, e₂]
      rfl
    · by_cases h1 : n < 0x1000
      · rw [step n h3, step (n / 16) (by omega), h₁, last (n / 0x100) (by omega)]
        have e₀ : n / 0x1000 = 0 := by omega
        have e₁ : n / 0x100 % 16 = n / 0x100 := by omega
        rw [e₀, e₁]
        rfl
      · rw [step n h3, step (n / 16) (by omega), h₁, step (n / 0x100) (by omega), h₂,
          last (n / 0x1000) (by omega)]
        rfl

end Hex

namespace Json

/-! ## From a written text to its parts -/

/-- The four digits of a unit are read as its number. -/
theorem unit?_numeral {n : Nat} (h : n < 0x10000) :
    unit? (Hex.digit (n / 0x1000)) (Hex.digit (n / 0x100 % 16)) (Hex.digit (n / 16 % 16))
      (Hex.digit (n % 16)) = some n := by
  have hd (m : Nat) : Hex.digit? (Hex.digit (m % 16)) = some (m % 16) :=
    Hex.digit?_digit (Nat.mod_lt m (by decide))
  have hn : ((n / 0x1000 * 16 + n / 0x100 % 16) * 16 + n / 16 % 16) * 16 + n % 16 = n := by omega
  simp only [unit?, Hex.digit?_digit (show n / 0x1000 < 16 by omega), hd, Option.bind_eq_bind,
    Option.bind_some, Option.pure_def, hn]

/-- No parts are read from nothing, not even a closing quote. -/
theorem ne_nil_of_parts_eq_ok {opening : Nat} {t : Text} {r : List Part × Text}
    (h : parts opening t = .ok r) : t ≠ [] := by
  rintro rfl
  cases h

/-- The escape of a unit is read as that unit. -/
theorem parts_unitEscape {n opening : Nat} {rest tail : Text} {ps : List Part}
    (hn : n < 0x10000) (h : parts opening rest = .ok (ps, tail)) :
    parts opening (unitEscape n ++ rest) = .ok (.unit n :: ps, tail) := by
  obtain ⟨next, rest, rfl⟩ := List.exists_cons_of_ne_nil (ne_nil_of_parts_eq_ok h)
  have hescape : unitEscape n ++ next :: rest = CodePoint.ofChar '\\' :: CodePoint.ofChar 'u' ::
      Hex.digit (n / 0x1000) :: Hex.digit (n / 0x100 % 16) :: Hex.digit (n / 16 % 16) ::
        Hex.digit (n % 16) :: next :: rest := by
    rw [unitEscape, Hex.numeral_four hn]
    rfl
  rw [hescape, parts, if_neg (by decide), if_pos rfl]
  simp only [if_true, unit?_numeral hn, h]
  rfl

/-- A short escape is read as its character. -/
theorem parts_shortEscape {opening : Nat} {c e : CodePoint} {rest tail : Text} {ps : List Part}
    (he : shortEscape? e = some c) (h : parts opening rest = .ok (ps, tail)) :
    parts opening (CodePoint.ofChar '\\' :: e :: rest) = .ok (.character c :: ps, tail) := by
  have hu : e ≠ 'u' := by
    rintro rfl
    cases he
  rw [parts.eq_def]
  simp only [hu, if_false, he, h]
  rfl

/-- A character that needs no escape is read as itself. -/
theorem parts_character {opening : Nat} {c : CodePoint} {rest tail : Text} {ps : List Part}
    (hquote : c ≠ '"') (hslash : c ≠ '\\') (hcontrol : ¬ c.val < 0x20)
    (h : parts opening rest = .ok (ps, tail)) :
    parts opening (c :: rest) = .ok (.character c :: ps, tail) := by
  rw [parts.eq_def]
  simp only [hquote, hslash, hcontrol, if_false, h]
  rfl

/-- The characters that have a short escape, each with the letter of its escape. -/
def shortEscapes : List (CodePoint × CodePoint) :=
  [('"', '"'), ('\\', '\\'), ('\n', 'n'), ('\r', 'r'), ('\t', 't'), (0x08, 'b'), (0x0C, 'f')]

/-- How a character without a short escape is written. -/
theorem escapeChar_of_lookup_eq_none {c : CodePoint} (h : shortEscapes.lookup c = none)
    (ascii : Bool) :
    escapeChar ascii c =
      if c.val < 0x20 then unitEscape c.val
      else if !ascii || c.val < 0x7F then [c]
      else if c.val < 0x10000 then unitEscape c.val
      else
        unitEscape (0xD800 + (c.val - 0x10000) / 0x400) ++
          unitEscape (0xDC00 + (c.val - 0x10000) % 0x400) := by
  have hne : ∀ d ∈ shortEscapes.map Prod.fst, c ≠ d := by
    simpa [List.lookup_eq_none_iff] using h
  have hb : c.val ≠ 0x08 := fun hc => hne 0x08 (by decide) (Fin.ext hc)
  have hf : c.val ≠ 0x0C := fun hc => hne 0x0C (by decide) (Fin.ext hc)
  rw [escapeChar, if_neg (hne _ (by decide)), if_neg (hne _ (by decide)),
    if_neg (hne _ (by decide)), if_neg (hne _ (by decide)), if_neg (hne _ (by decide)),
    if_neg hb, if_neg hf]

/-- The parts that a written character is read as. -/
def escapeParts (ascii : Bool) (c : CodePoint) : List Part :=
  if (shortEscapes.lookup c).isSome then [.character c]
  else if c.val < 0x20 then [.unit c.val]
  else if !ascii || c.val < 0x7F then [.character c]
  else if c.val < 0x10000 then [.unit c.val]
  else
    [.unit (0xD800 + (c.val - 0x10000) / 0x400), .unit (0xDC00 + (c.val - 0x10000) % 0x400)]

theorem parts_escapeChar {ascii : Bool} {opening : Nat} {rest tail : Text} {ps : List Part}
    (c : CodePoint) (h : parts opening rest = .ok (ps, tail)) :
    parts opening (escapeChar ascii c ++ rest) = .ok (escapeParts ascii c ++ ps, tail) := by
  have hlt := c.isLt
  cases hc : shortEscapes.lookup c with
  | some e =>
    have hshort : shortEscapes.all fun ce => escapeChar ascii ce.1 = [CodePoint.ofChar '\\', ce.2] ∧
        shortEscape? ce.2 = some ce.1 := by
      cases ascii <;> decide
    obtain ⟨_, _, hmem, -⟩ := List.lookup_eq_some_iff.1 hc
    obtain ⟨hescape, hletter⟩ :=
      of_decide_eq_true (List.all_eq_true.1 hshort (c, e) (by rw [hmem]; simp))
    rw [hescape, escapeParts, hc]
    exact parts_shortEscape hletter h
  | none =>
    have hquote : c ≠ '"' := fun hq => by rw [hq] at hc; exact absurd hc (by decide)
    have hslash : c ≠ '\\' := fun hs => by rw [hs] at hc; exact absurd hc (by decide)
    rw [escapeChar_of_lookup_eq_none hc, escapeParts, hc]
    simp only [Option.isSome_none, Bool.false_eq_true, if_false]
    split_ifs with hcontrol hself hunit
    · exact parts_unitEscape (by omega) h
    · exact parts_character hquote hslash hcontrol h
    · exact parts_unitEscape hunit h
    · rw [List.append_assoc]
      exact parts_unitEscape (by omega) (parts_unitEscape (by omega) h)

/-- The parts of a written string. -/
theorem parts_flatMap_escapeChar (ascii : Bool) (opening : Nat) (t rest : Text) :
    parts opening (t.flatMap (escapeChar ascii) ++ CodePoint.ofChar '"' :: rest) =
      .ok (t.flatMap (escapeParts ascii), rest) := by
  induction t with
  | nil => rw [List.flatMap_nil, List.nil_append, parts.eq_def]; rfl
  | cons c t ih =>
    rw [List.flatMap_cons, List.append_assoc, List.flatMap_cons]
    exact parts_escapeChar c ih

/-! ## From the parts to the text -/

/-- A unit stands for itself where it does not form a pair with the next part. -/
theorem joinParts_unit {n : Nat} {ps : List Part}
    (h : ∀ m qs, ps = .unit m :: qs → pair? n m = none) :
    joinParts (.unit n :: ps) = CodePoint.ofNat n :: joinParts ps := by
  cases ps with
  | nil => rfl
  | cons p qs =>
    cases p with
    | character d => rfl
    | unit m => rw [joinParts, h m qs rfl]

/-- The three ways in which a written character is read. -/
theorem escapeParts_cases (ascii : Bool) (c : CodePoint) :
    escapeParts ascii c = [.character c] ∨
    (escapeParts ascii c = [.unit c.val] ∧ (c.val < 0x20 ∨ ascii = true)) ∨
    (escapeParts ascii c = [.unit (0xD800 + (c.val - 0x10000) / 0x400),
        .unit (0xDC00 + (c.val - 0x10000) % 0x400)] ∧ 0x10000 ≤ c.val ∧ ascii = true) := by
  unfold escapeParts
  split_ifs with hshort hcontrol hself hunit
  · exact .inl rfl
  · exact .inr (.inl ⟨rfl, .inl hcontrol⟩)
  · exact .inl rfl
  all_goals
    have hascii : ascii = true := by
      cases ascii
      · exact absurd (Bool.true_or _) hself
      · rfl
  · exact .inr (.inl ⟨rfl, .inr hascii⟩)
  · exact .inr (.inr ⟨rfl, Nat.le_of_not_lt hunit, hascii⟩)

/-- A second half at the beginning of a text's parts is the text's own first character. -/
theorem head_of_flatMap_escapeParts {ascii : Bool} {t : Text} {m : Nat} {qs : List Part}
    (h : t.flatMap (escapeParts ascii) = .unit m :: qs)
    (hm : (CodePoint.ofNat m).isLowSurrogate = true) :
    ∃ rest, t = CodePoint.ofNat m :: rest := by
  cases t with
  | nil => cases h
  | cons d t =>
    rw [List.flatMap_cons] at h
    have hlt := d.isLt
    rcases escapeParts_cases ascii d with hd | ⟨hd, -⟩ | ⟨hd, hastral, -⟩
    · rw [hd] at h
      cases h
    · rw [hd] at h
      obtain rfl : d.val = m := by
        injection h with h
        injection h
      exact ⟨t, by rw [CodePoint.ofNat_val]⟩
    · rw [hd] at h
      obtain rfl : 0xD800 + (d.val - 0x10000) / 0x400 = m := by
        injection h with h
        injection h
      have hhigh : 0xD800 + (d.val - 0x10000) / 0x400 < 0x110000 := by omega
      simp only [CodePoint.isLowSurrogate, CodePoint.ofNat, hhigh, dif_pos, Bool.and_eq_true,
        decide_eq_true_eq] at hm
      omega

/-- The two units of a character past the first plane form that character. -/
theorem pair?_units {c : CodePoint} (h : 0x10000 ≤ c.val) :
    pair? (0xD800 + (c.val - 0x10000) / 0x400) (0xDC00 + (c.val - 0x10000) % 0x400) = some c := by
  have hlt := c.isLt
  have hhigh : 0xD800 + (c.val - 0x10000) / 0x400 < 0x110000 := by omega
  have hlow : 0xDC00 + (c.val - 0x10000) % 0x400 < 0x110000 := by omega
  have hhigh' : (CodePoint.ofNat (0xD800 + (c.val - 0x10000) / 0x400)).isHighSurrogate = true := by
    simp only [CodePoint.isHighSurrogate, CodePoint.ofNat, hhigh, dif_pos, Bool.and_eq_true,
      decide_eq_true_eq]
    omega
  have hlow' : (CodePoint.ofNat (0xDC00 + (c.val - 0x10000) % 0x400)).isLowSurrogate = true := by
    simp only [CodePoint.isLowSurrogate, CodePoint.ofNat, hlow, dif_pos, Bool.and_eq_true,
      decide_eq_true_eq]
    omega
  have hsum : 0x10000 + (0xD800 + (c.val - 0x10000) / 0x400 - 0xD800) * 0x400 +
      (0xDC00 + (c.val - 0x10000) % 0x400 - 0xDC00) = c.val := by
    omega
  rw [pair?, hhigh', hlow', Bool.and_self, if_pos rfl, hsum, CodePoint.ofNat_val]

theorem isUnpaired_tail {c : CodePoint} {t : Text} (h : Text.isUnpaired (c :: t) = true) :
    Text.isUnpaired t = true := by
  cases t with
  | nil => rfl
  | cons d t => exact (Bool.and_eq_true_iff.1 h).2

/-- The parts of a written string are joined to the string. -/
theorem joinParts_flatMap_escapeParts {ascii : Bool} {t : Text}
    (h : ascii = true → t.isUnpaired = true) : joinParts (t.flatMap (escapeParts ascii)) = t := by
  induction t with
  | nil => rfl
  | cons c t ih =>
    have ih := ih fun hascii => isUnpaired_tail (h hascii)
    rw [List.flatMap_cons]
    rcases escapeParts_cases ascii c with hc | ⟨hc, hcase⟩ | ⟨hc, hastral, -⟩
    · rw [hc, List.singleton_append, joinParts, ih]
    · -- A half of a pair on its own does not meet the other half.
      have hpair : ∀ m qs, t.flatMap (escapeParts ascii) = .unit m :: qs →
          pair? c.val m = none := by
        intro m qs hm
        rw [pair?, CodePoint.ofNat_val, if_neg]
        intro hhalves
        rw [Bool.and_eq_true] at hhalves
        obtain ⟨rest, rfl⟩ := head_of_flatMap_escapeParts hm hhalves.2
        have hhigh : 0xD800 ≤ c.val := by
          have := hhalves.1
          simp only [CodePoint.isHighSurrogate, Bool.and_eq_true, decide_eq_true_eq] at this
          exact this.1
        have hunpaired := h (hcase.resolve_left (by omega))
        rw [Text.isUnpaired, hhalves.1, hhalves.2] at hunpaired
        cases hunpaired
      rw [hc, List.singleton_append, joinParts_unit hpair, CodePoint.ofNat_val, ih]
    · rw [hc, List.cons_append, List.singleton_append, joinParts, pair?_units hastral, ih]

/-- A written string is read back, whatever follows its closing quote. -/
theorem string_flatMap_escapeChar {ascii : Bool} {t : Text}
    (h : ascii = true → t.isUnpaired = true) (opening : Nat) (rest : Text) :
    string opening (t.flatMap (escapeChar ascii) ++ CodePoint.ofChar '"' :: rest) =
      .ok (t, rest) := by
  rw [string, parts_flatMap_escapeChar]
  exact congrArg (fun t => Except.ok (t, rest)) (joinParts_flatMap_escapeParts h)

end Json

end SignedSetup
