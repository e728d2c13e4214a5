import Mathlib.Tactic.IntervalCases
import SignedSetup.Text.Utf8

/-!
# What is written in UTF-8 is read back

`Utf8.decode_utf8` reads the octets of any text back as the text scrubbed. The reader is a machine
that works octet by octet, so the proof follows one character through it: the leading octet puts
the machine within a character (`begin_lead`), each further octet adds six bits (`step_tail`), and
after the last one the machine stands between characters again (`pieces_character`).

`utf8_toByteArray` ties the octets to the standard library's own notion of UTF-8.
-/

namespace SignedSetup

/-! ## Scrubbed texts -/

namespace CodePoint

theorem isSurrogate_scrub (c : CodePoint) : c.scrub.isSurrogate = false := by
  unfold scrub
  split
  · rfl
  · next h => simpa using h

theorem scrub_of_not_isSurrogate {c : CodePoint} (h : c.isSurrogate = false) : c.scrub = c := by
  simp [scrub, h]

theorem ofNat_val (c : CodePoint) : ofNat c.val = c := by
  simp [ofNat]

end CodePoint

namespace Text

@[simp]
theorem isScalar_nil : isScalar [] = true := rfl

@[simp]
theorem isScalar_cons (c : CodePoint) (t : Text) :
    isScalar (c :: t) = (!c.isSurrogate && isScalar t) := rfl

@[simp]
theorem isScalar_append (s t : Text) : isScalar (s ++ t) = (s.isScalar && t.isScalar) :=
  List.all_append

@[simp]
theorem isScalar_scrub (t : Text) : t.scrub.isScalar = true := by
  simp [isScalar, scrub, CodePoint.isSurrogate_scrub]

theorem isScalar_of_isAscii {t : Text} (h : ∀ c ∈ t, c.isAscii = true) : t.isScalar = true := by
  refine List.all_eq_true.2 fun c hc => ?_
  have hlt : c.val < 0x80 := of_decide_eq_true (h c hc)
  have hsurrogate : c.isSurrogate = false := by
    rw [CodePoint.isSurrogate, Bool.and_eq_false_iff, decide_eq_false_iff_not]
    omega
  rw [hsurrogate]
  rfl

theorem scrub_eq_self {t : Text} (h : t.isScalar = true) : t.scrub = t := by
  induction t with
  | nil => rfl
  | cons c t ih =>
    rw [isScalar_cons, Bool.and_eq_true, Bool.not_eq_true'] at h
    rw [scrub, List.map_cons, CodePoint.scrub_of_not_isSurrogate h.1]
    exact congrArg (c :: ·) (ih h.2)

@[simp]
theorem scrub_append (s t : Text) : scrub (s ++ t) = scrub s ++ scrub t := List.map_append

end Text

namespace Utf8

/-! ## One octet of the machine -/

@[simp]
theorem pieces_between_nil (offset : Nat) : (State.between offset).pieces [] = [] := rfl

theorem pieces_cons (s : State) (b : UInt8) (rest : Bytes) :
    s.pieces (b :: rest) = (s.step b).1 ++ (s.step b).2.pieces rest := by
  cases s <;> rfl

/-- The partial character that the leading octet `0xC0 + m` of two begins. -/
theorem begin?_two {m : Nat} (h : 2 ≤ m) (h' : m < 32) (offset : Nat) :
    Partial.begin? offset (UInt8.ofNat (0xC0 + m)) =
      some ⟨offset, [UInt8.ofNat (0xC0 + m)], m, 1, 0x80, 0xBF⟩ := by
  interval_cases m <;> rfl

/-- The partial character that the leading octet `0xE0 + m` of three begins. -/
theorem begin?_three {m : Nat} (h : m < 16) (offset : Nat) :
    Partial.begin? offset (UInt8.ofNat (0xE0 + m)) =
      some ⟨offset, [UInt8.ofNat (0xE0 + m)], m, 2, if m = 0 then 0xA0 else 0x80,
        if m = 0xD then 0x9F else 0xBF⟩ := by
  interval_cases m <;> rfl

/-- The partial character that the leading octet `0xF0 + m` of four begins. -/
theorem begin?_four {m : Nat} (h : m < 5) (offset : Nat) :
    Partial.begin? offset (UInt8.ofNat (0xF0 + m)) =
      some ⟨offset, [UInt8.ofNat (0xF0 + m)], m, 3, if m = 0 then 0x90 else 0x80,
        if m = 4 then 0x8F else 0xBF⟩ := by
  interval_cases m <;> rfl

/-- A leading octet puts the machine within a character. -/
theorem pieces_lead {n offset : Nat} {p : Partial} (h : 0x80 ≤ n) (h' : n < 0x100)
    (hp : Partial.begin? offset (UInt8.ofNat n) = some p) (rest : Bytes) :
    (State.between offset).pieces (UInt8.ofNat n :: rest) = (State.within p).pieces rest := by
  have hn : ¬ UInt8.ofNat n < 0x80 := by
    rw [UInt8.lt_iff_toNat_lt, UInt8.toNat_ofNat_of_lt' h']
    simpa using h
  rw [pieces_cons, State.step, begin, if_neg hn, hp, List.nil_append]

theorem toNat_tail {k : Nat} (hk : k < 0x40) : (UInt8.ofNat (0x80 + k)).toNat = 0x80 + k :=
  UInt8.toNat_ofNat_of_lt' (show 0x80 + k < 256 by omega)

theorem accepts_tail {p : Partial} {k : Nat} (hk : k < 0x40) (hlow : p.low.toNat ≤ 0x80 + k)
    (hhigh : 0x80 + k ≤ p.high.toNat) : p.accepts (UInt8.ofNat (0x80 + k)) = true := by
  simp only [Partial.accepts, UInt8.le_iff_toNat_le, toNat_tail hk, decide_eq_true hlow,
    decide_eq_true hhigh, Bool.and_self]

/-- A tail octet that is not the last adds its six bits. -/
theorem pieces_tail {p : Partial} {k : Nat} (hk : k < 0x40) (hlow : p.low.toNat ≤ 0x80 + k)
    (hhigh : 0x80 + k ≤ p.high.toNat) (hmissing : p.missing ≠ 1) (rest : Bytes) :
    (State.within p).pieces (UInt8.ofNat (0x80 + k) :: rest) =
      (State.within ⟨p.offset, p.run ++ [UInt8.ofNat (0x80 + k)], p.bits * 0x40 + k,
        p.missing - 1, 0x80, 0xBF⟩).pieces rest := by
  rw [pieces_cons, State.step, if_pos (accepts_tail hk hlow hhigh), if_neg hmissing, toNat_tail hk,
    Nat.add_sub_cancel_left, List.nil_append]

/-- The last octet completes a character. -/
theorem pieces_last {p : Partial} {k : Nat} (hk : k < 0x40) (hlow : p.low.toNat ≤ 0x80 + k)
    (hhigh : 0x80 + k ≤ p.high.toNat) (hmissing : p.missing = 1) (rest : Bytes) :
    (State.within p).pieces (UInt8.ofNat (0x80 + k) :: rest) =
      .character (CodePoint.ofNat (p.bits * 0x40 + k)) ::
        (State.between (p.offset + p.run.length + 1)).pieces rest := by
  rw [pieces_cons, State.step, if_pos (accepts_tail hk hlow hhigh), if_pos hmissing, toNat_tail hk,
    Nat.add_sub_cancel_left]
  rfl

/-- An octet that may come anywhere but first is no more restricted than that. -/
theorem toNat_bounds {k : Nat} (hk : k < 0x40) :
    (0x80 : UInt8).toNat ≤ 0x80 + k ∧ 0x80 + k ≤ (0xBF : UInt8).toNat := by
  constructor
  · exact Nat.le_add_right _ _
  · show 0x80 + k ≤ 0xBF
    omega

/-! ## One character -/

/-- The octets of a code point are those of the ranges that its number is in, with its six-bit
groups after the leading octet. -/
theorem utf8_eq (c : CodePoint) :
    c.utf8 =
      if c.val < 0x80 then [UInt8.ofNat c.val]
      else if c.val < 0x800 then
        [UInt8.ofNat (0xC0 + c.val / 0x40), UInt8.ofNat (0x80 + c.val % 0x40)]
      else if c.val < 0x10000 then
        [UInt8.ofNat (0xE0 + c.val / 0x1000), UInt8.ofNat (0x80 + c.val / 0x40 % 0x40),
          UInt8.ofNat (0x80 + c.val % 0x40)]
      else
        [UInt8.ofNat (0xF0 + c.val / 0x40000), UInt8.ofNat (0x80 + c.val / 0x1000 % 0x40),
          UInt8.ofNat (0x80 + c.val / 0x40 % 0x40), UInt8.ofNat (0x80 + c.val % 0x40)] := by
  simp [CodePoint.utf8]

/-- What the machine reads from the octets of one character, whatever follows them. -/
theorem pieces_character {c : CodePoint} (hc : c.isSurrogate = false) (offset : Nat)
    (rest : Bytes) :
    (State.between offset).pieces (c.utf8 ++ rest) =
      .character c :: (State.between (offset + c.utf8.length)).pieces rest := by
  have hlt := c.isLt
  have hmod (x : Nat) : x % 0x40 < 0x40 := Nat.mod_lt _ (by decide)
  have hgap : ¬ (0xD800 ≤ c.val ∧ c.val < 0xE000) := by simpa [CodePoint.isSurrogate] using hc
  have hself : CodePoint.ofNat c.val = c := CodePoint.ofNat_val c
  rw [utf8_eq]
  split_ifs with h₁ h₂ h₃
  · have hb : (UInt8.ofNat c.val).toNat = c.val :=
      UInt8.toNat_ofNat_of_lt' (show c.val < 256 by omega)
    have hascii : UInt8.ofNat c.val < 0x80 := by
      rw [UInt8.lt_iff_toNat_lt, hb]
      exact h₁
    simp [pieces_cons, State.step, begin, hascii, hb, hself]
  · have hlead := pieces_lead (by omega) (by omega)
      (begin?_two (m := c.val / 0x40) (by omega) (by omega) offset)
    have hbits : c.val / 0x40 * 0x40 + c.val % 0x40 = c.val := by omega
    obtain ⟨hlow, hhigh⟩ := toNat_bounds (hmod c.val)
    simp only [List.cons_append, List.nil_append]
    rw [hlead, pieces_last (hmod _) hlow hhigh rfl]
    simp [hbits, hself]
  · have hlead := pieces_lead (by omega) (by omega)
      (begin?_three (m := c.val / 0x1000) (by omega) offset)
    have hbits : (c.val / 0x1000 * 0x40 + c.val / 0x40 % 0x40) * 0x40 + c.val % 0x40 = c.val := by
      omega
    -- The bounds of the second octet hold because the form is shortest and no surrogate.
    have hlow : (if c.val / 0x1000 = 0 then 0xA0 else 0x80 : UInt8).toNat ≤
        0x80 + c.val / 0x40 % 0x40 := by
      split <;> simp only [UInt8.reduceToNat] <;> omega
    have hhigh : 0x80 + c.val / 0x40 % 0x40 ≤
        (if c.val / 0x1000 = 0xD then 0x9F else 0xBF : UInt8).toNat := by
      split <;> simp only [UInt8.reduceToNat] <;> omega
    obtain ⟨hlow', hhigh'⟩ := toNat_bounds (hmod c.val)
    simp only [List.cons_append, List.nil_append]
    rw [hlead, pieces_tail (hmod _) hlow hhigh (by decide : 2 ≠ 1),
      pieces_last (hmod _) hlow' hhigh' rfl]
    simp [hbits, hself]
  · have hlead := pieces_lead (by omega) (by omega)
      (begin?_four (m := c.val / 0x40000) (by omega) offset)
    have hbits : ((c.val / 0x40000 * 0x40 + c.val / 0x1000 % 0x40) * 0x40 + c.val / 0x40 % 0x40) *
        0x40 + c.val % 0x40 = c.val := by
      omega
    -- The bounds of the second octet hold because the form is shortest and within the code points.
    have hlow : (if c.val / 0x40000 = 0 then 0x90 else 0x80 : UInt8).toNat ≤
        0x80 + c.val / 0x1000 % 0x40 := by
      split <;> simp only [UInt8.reduceToNat] <;> omega
    have hhigh : 0x80 + c.val / 0x1000 % 0x40 ≤
        (if c.val / 0x40000 = 4 then 0x8F else 0xBF : UInt8).toNat := by
      split <;> simp only [UInt8.reduceToNat] <;> omega
    obtain ⟨hlow', hhigh'⟩ := toNat_bounds (hmod (c.val / 0x40))
    obtain ⟨hlow'', hhigh''⟩ := toNat_bounds (hmod c.val)
    simp only [List.cons_append, List.nil_append]
    rw [hlead, pieces_tail (hmod _) hlow hhigh (by decide : 3 ≠ 1),
      pieces_tail (hmod _) hlow' hhigh' (by decide : 2 ≠ 1),
      pieces_last (hmod _) hlow'' hhigh'' rfl]
    simp [hbits, hself]

/-! ## Whole texts -/

theorem pieces_flatMap_utf8 {t : Text} (h : t.isScalar = true) (offset : Nat) :
    (State.between offset).pieces (t.flatMap CodePoint.utf8) = t.map .character := by
  induction t generalizing offset with
  | nil => rfl
  | cons c t ih =>
    rw [Text.isScalar_cons, Bool.and_eq_true, Bool.not_eq_true'] at h
    rw [List.flatMap_cons, pieces_character h.1, ih h.2, List.map_cons]

/-- The octets of a text are read back as the text scrubbed. -/
theorem decode_utf8 (t : Text) : decode t.utf8 = .ok t.scrub := by
  rw [decode, pieces, Text.utf8, pieces_flatMap_utf8 (Text.isScalar_scrub t), List.mapM_map]
  exact (List.mapM_pure (m := Except Fault) (f := id)).trans (by simp; rfl)

/-! ## The standard notion -/

/-- The character of a code point that is one. -/
theorem val_toNat_ofNat {c : CodePoint} (hc : c.isSurrogate = false) :
    (Char.ofNat c.val).val.toNat = c.val := by
  have hlt := c.isLt
  have hgap : ¬ (0xD800 ≤ c.val ∧ c.val < 0xE000) := by simpa [CodePoint.isSurrogate] using hc
  have hvalid : c.val.isValidChar := by
    unfold Nat.isValidChar
    omega
  rw [Char.ofNat, dif_pos hvalid]
  rfl

theorem utf8_eq_utf8EncodeChar {c : CodePoint} (hc : c.isSurrogate = false) :
    c.utf8 = String.utf8EncodeChar (Char.ofNat c.val) := by
  have hlt := c.isLt
  have h₁ : c.val / 0x40 < 0x20 → c.val / 0x40 % 0x20 = c.val / 0x40 := Nat.mod_eq_of_lt
  have h₂ : c.val / 0x1000 < 0x10 → c.val / 0x1000 % 0x10 = c.val / 0x1000 := Nat.mod_eq_of_lt
  have h₃ : c.val / 0x40000 % 0x08 = c.val / 0x40000 := by omega
  rw [utf8_eq, String.utf8EncodeChar]
  simp only [val_toNat_ofNat hc, Nat.le_iff_lt_add_one, Nat.reduceAdd]
  split_ifs
  · rfl
  · rw [h₁ (by omega), Nat.add_comm 0xC0, Nat.add_comm 0x80]
  · rw [h₂ (by omega), Nat.add_comm 0xE0, Nat.add_comm 0x80, Nat.add_comm 0x80]
  · rw [h₃, Nat.add_comm 0xF0, Nat.add_comm 0x80, Nat.add_comm 0x80, Nat.add_comm 0x80]

/-- The octets of a text are the ones that the standard library's string of the text has. -/
theorem utf8_toByteArray (t : Text) : t.utf8.toByteArray = t.toString.toByteArray := by
  have h (s : Text) (hs : s.isScalar = true) : s.flatMap CodePoint.utf8 =
      (s.map fun c => Char.ofNat c.val).flatMap String.utf8EncodeChar := by
    induction s with
    | nil => rfl
    | cons c s ih =>
      rw [Text.isScalar_cons, Bool.and_eq_true, Bool.not_eq_true'] at hs
      rw [List.flatMap_cons, List.map_cons, List.flatMap_cons, utf8_eq_utf8EncodeChar hs.1, ih hs.2]
  rw [Text.utf8, h _ (Text.isScalar_scrub t), Text.toString]
  rfl

end Utf8

end SignedSetup
