import SignedSetup.Proofs.Results
import SignedSetup.Proofs.Text.Utf8

/-!
# Octets that spell a text

The machine accepts nothing but what is written: octets from which it reads characters alone are
the octets of these characters, and none of them is a surrogate (`decode_eq_ok_iff`).

The proof follows the machine through one character. The leading octet fixes how many octets are
missing, each of them has to be in its bounds, and the bounds of the second one are what keeps out
longer forms, surrogates and numbers past the last code point. After a fault the machine begins
anew, so what any octets spell, faults replaced, has no surrogate either (`isScalar_decodeLossy`).
-/

namespace SignedSetup.Utf8

/-! ## Octets within a character -/

/-- The octets that begin a longer character, with what the machine keeps of them. -/
theorem begin?_eq_some {offset : Nat} {b : UInt8} {p : Partial}
    (h : Partial.begin? offset b = some p) :
    (∃ m, 2 ≤ m ∧ m < 32 ∧ b = UInt8.ofNat (0xC0 + m) ∧ p = ⟨offset, [b], m, 1, 0x80, 0xBF⟩) ∨
    (∃ m, m < 16 ∧ b = UInt8.ofNat (0xE0 + m) ∧
      p = ⟨offset, [b], m, 2, if m = 0 then 0xA0 else 0x80, if m = 0xD then 0x9F else 0xBF⟩) ∨
    (∃ m, m < 5 ∧ b = UInt8.ofNat (0xF0 + m) ∧
      p = ⟨offset, [b], m, 3, if m = 0 then 0x90 else 0x80, if m = 4 then 0x8F else 0xBF⟩) := by
  have hb {base : Nat} (hbase : base ≤ b.toNat) : b = UInt8.ofNat (base + (b.toNat - base)) := by
    rw [Nat.add_sub_cancel' hbase, UInt8.ofNat_toNat]
  simp only [Partial.begin?, Bool.and_eq_true, decide_eq_true_eq] at h
  split_ifs at h with h₁ h₂ h₃ h₄ h₅ h₆ h₇ <;> obtain rfl := Option.some.inj h
  · exact .inl ⟨b.toNat - 0xC0, by omega, by omega, hb (by omega), rfl⟩
  · refine .inr (.inl ⟨0, by omega, ?_, rfl⟩)
    rw [← UInt8.ofNat_toNat (x := b), h₂]
  · refine .inr (.inl ⟨0xD, by omega, ?_, rfl⟩)
    rw [← UInt8.ofNat_toNat (x := b), h₃]
  · refine .inr (.inl ⟨b.toNat - 0xE0, by omega, hb (by omega), ?_⟩)
    rw [if_neg (by omega), if_neg (by omega)]
  · refine .inr (.inr ⟨0, by omega, ?_, rfl⟩)
    rw [← UInt8.ofNat_toNat (x := b), h₅]
  · refine .inr (.inr ⟨4, by omega, ?_, rfl⟩)
    rw [← UInt8.ofNat_toNat (x := b), h₆]
  · refine .inr (.inr ⟨b.toNat - 0xF0, by omega, hb (by omega), ?_⟩)
    rw [if_neg (by omega), if_neg (by omega)]

section Tail

variable {offset bits missing : Nat} {run bytes : Bytes} {low high : UInt8} {c : CodePoint}
  {ps : List Piece}

/-- Within a character the next octet is one of its tail, if a character comes of it. -/
theorem exists_tail
    (h : (State.within ⟨offset, run, bits, missing, low, high⟩).pieces bytes = .character c :: ps)
    (hlow : 0x80 ≤ low.toNat) (hhigh : high.toNat ≤ 0xBF) :
    ∃ k rest, bytes = UInt8.ofNat (0x80 + k) :: rest ∧ k < 0x40 ∧ low.toNat ≤ 0x80 + k ∧
      0x80 + k ≤ high.toNat := by
  cases bytes with
  | nil => cases h
  | cons b rest =>
    have haccepts : Partial.accepts ⟨offset, run, bits, missing, low, high⟩ b = true := by
      by_contra hb
      rw [pieces_cons, State.step, if_neg hb] at h
      cases h
    simp only [Partial.accepts, Bool.and_eq_true, decide_eq_true_eq, UInt8.le_iff_toNat_le]
      at haccepts
    refine ⟨b.toNat - 0x80, rest, ?_, by omega, by omega, by omega⟩
    rw [Nat.add_sub_cancel' (by omega), UInt8.ofNat_toNat]

/-- An octet that is not the last leaves the machine within the character. -/
theorem within_of_tail
    (h : (State.within ⟨offset, run, bits, missing, low, high⟩).pieces bytes = .character c :: ps)
    (hlow : 0x80 ≤ low.toNat) (hhigh : high.toNat ≤ 0xBF) (hmissing : missing ≠ 1) :
    ∃ k rest, bytes = UInt8.ofNat (0x80 + k) :: rest ∧ k < 0x40 ∧ low.toNat ≤ 0x80 + k ∧
      0x80 + k ≤ high.toNat ∧
      (State.within ⟨offset, run ++ [UInt8.ofNat (0x80 + k)], bits * 0x40 + k, missing - 1, 0x80,
        0xBF⟩).pieces rest = .character c :: ps := by
  obtain ⟨k, rest, rfl, hk, hklow, hkhigh⟩ := exists_tail h hlow hhigh
  rw [pieces_tail hk hklow hkhigh hmissing] at h
  exact ⟨k, rest, rfl, hk, hklow, hkhigh, h⟩

theorem character_of_last
    (h : (State.within ⟨offset, run, bits, 1, 0x80, 0xBF⟩).pieces bytes = .character c :: ps) :
    ∃ k rest offset', bytes = UInt8.ofNat (0x80 + k) :: rest ∧ k < 0x40 ∧
      c = CodePoint.ofNat (bits * 0x40 + k) ∧ (State.between offset').pieces rest = ps := by
  have hlow : 0x80 ≤ (0x80 : UInt8).toNat := by decide
  have hhigh : (0xBF : UInt8).toNat ≤ 0xBF := by decide
  obtain ⟨k, rest, rfl, hk, hklow, hkhigh⟩ := exists_tail h hlow hhigh
  rw [pieces_last hk hklow hkhigh rfl] at h
  injection h with hc hps
  injection hc with hc
  exact ⟨k, rest, _, rfl, hk, hc.symm, hps⟩

end Tail

/-! ## One character -/

theorem val_ofNat {n : Nat} (h : n < 0x110000) : (CodePoint.ofNat n).val = n := by
  rw [CodePoint.ofNat, dif_pos h]

theorem isSurrogate_ofNat {n : Nat} (h : n < 0x110000) (hn : n < 0xD800 ∨ 0xE000 ≤ n) :
    (CodePoint.ofNat n).isSurrogate = false := by
  rw [CodePoint.isSurrogate, val_ofNat h, Bool.and_eq_false_iff, decide_eq_false_iff_not,
    decide_eq_false_iff_not]
  omega

/-- The octets begin with those of a character that is no surrogate; from the rest on the machine
reads the given pieces. -/
def Begins (bytes : Bytes) (c : CodePoint) (ps : List Piece) : Prop :=
  c.isSurrogate = false ∧
    ∃ rest offset, bytes = c.utf8 ++ rest ∧ (State.between offset).pieces rest = ps

section Lengths

variable {offset m : Nat} {run bytes : Bytes} {c : CodePoint} {ps : List Piece}

theorem begins_two (hm : 2 ≤ m) (hm' : m < 32)
    (h : (State.within ⟨offset, run, m, 1, 0x80, 0xBF⟩).pieces bytes = .character c :: ps) :
    Begins (UInt8.ofNat (0xC0 + m) :: bytes) c ps := by
  obtain ⟨k, rest, offset', rfl, hk, rfl, hps⟩ := character_of_last h
  have hlt : m * 0x40 + k < 0x110000 := by omega
  have hdiv : (m * 0x40 + k) / 0x40 = m := by omega
  have hmod : (m * 0x40 + k) % 0x40 = k := by omega
  refine ⟨isSurrogate_ofNat hlt (by omega), rest, offset', ?_, hps⟩
  rw [utf8_eq, val_ofNat hlt, if_neg (by omega), if_pos (by omega), hdiv, hmod]
  rfl

theorem begins_three (hm : m < 16)
    (h : (State.within ⟨offset, run, m, 2, if m = 0 then 0xA0 else 0x80,
      if m = 0xD then 0x9F else 0xBF⟩).pieces bytes = .character c :: ps) :
    Begins (UInt8.ofNat (0xE0 + m) :: bytes) c ps := by
  obtain ⟨k, rest, rfl, hk, hlow, hhigh, h⟩ :=
    within_of_tail h (by split <;> decide) (by split <;> decide) (by decide)
  obtain ⟨l, rest, offset', rfl, hl, rfl, hps⟩ := character_of_last h
  -- The bounds of the second octet keep out longer forms of other characters, and surrogates.
  have hshort : m = 0 → 0x20 ≤ k := by
    rintro rfl
    have : 0xA0 ≤ 0x80 + k := hlow
    omega
  have hgap : m = 0xD → k < 0x20 := by
    rintro rfl
    have : 0x80 + k ≤ 0x9F := hhigh
    omega
  have hlt : (m * 0x40 + k) * 0x40 + l < 0x110000 := by omega
  have hdiv : ((m * 0x40 + k) * 0x40 + l) / 0x1000 = m := by omega
  have hmid : ((m * 0x40 + k) * 0x40 + l) / 0x40 % 0x40 = k := by omega
  have hmod : ((m * 0x40 + k) * 0x40 + l) % 0x40 = l := by omega
  refine ⟨isSurrogate_ofNat hlt (by omega), rest, offset', ?_, hps⟩
  rw [utf8_eq, val_ofNat hlt, if_neg (by omega), if_neg (by omega), if_pos (by omega), hdiv, hmid,
    hmod]
  rfl

theorem begins_four (hm : m < 5)
    (h : (State.within ⟨offset, run, m, 3, if m = 0 then 0x90 else 0x80,
      if m = 4 then 0x8F else 0xBF⟩).pieces bytes = .character c :: ps) :
    Begins (UInt8.ofNat (0xF0 + m) :: bytes) c ps := by
  obtain ⟨k, rest, rfl, hk, hlow, hhigh, h⟩ :=
    within_of_tail h (by split <;> decide) (by split <;> decide) (by decide)
  obtain ⟨l, rest, rfl, hl, -, -, h⟩ := within_of_tail h (by decide) (by decide) (by decide)
  obtain ⟨j, rest, offset', rfl, hj, rfl, hps⟩ := character_of_last h
  -- The bounds of the second octet keep out longer forms, and numbers past the last code point.
  have hshort : m = 0 → 0x10 ≤ k := by
    rintro rfl
    have : 0x90 ≤ 0x80 + k := hlow
    omega
  have hlast : m = 4 → k < 0x10 := by
    rintro rfl
    have : 0x80 + k ≤ 0x8F := hhigh
    omega
  have hlt : ((m * 0x40 + k) * 0x40 + l) * 0x40 + j < 0x110000 := by omega
  have hdiv : (((m * 0x40 + k) * 0x40 + l) * 0x40 + j) / 0x40000 = m := by omega
  have hfirst : (((m * 0x40 + k) * 0x40 + l) * 0x40 + j) / 0x1000 % 0x40 = k := by omega
  have hmid : (((m * 0x40 + k) * 0x40 + l) * 0x40 + j) / 0x40 % 0x40 = l := by omega
  have hmod : (((m * 0x40 + k) * 0x40 + l) * 0x40 + j) % 0x40 = j := by omega
  refine ⟨isSurrogate_ofNat hlt (by omega), rest, offset', ?_, hps⟩
  rw [utf8_eq, val_ofNat hlt, if_neg (by omega), if_neg (by omega), if_neg (by omega), hdiv,
    hfirst, hmid, hmod]
  rfl

end Lengths

theorem begins_of_pieces {offset : Nat} {bytes : Bytes} {c : CodePoint} {ps : List Piece}
    (h : (State.between offset).pieces bytes = .character c :: ps) : Begins bytes c ps := by
  cases bytes with
  | nil => cases h
  | cons b bytes =>
    rw [pieces_cons, State.step] at h
    unfold begin at h
    by_cases hascii : b < 0x80
    · rw [if_pos hascii] at h
      have hlt : b.toNat < 0x80 := UInt8.lt_iff_toNat_lt.1 hascii
      have hlt' : b.toNat < 0x110000 := by omega
      injection h with hc hps
      injection hc with hc
      subst hc
      refine ⟨isSurrogate_ofNat hlt' (by omega), bytes, _, ?_, hps⟩
      rw [utf8_eq, val_ofNat hlt', if_pos hlt, UInt8.ofNat_toNat]
      rfl
    · rw [if_neg hascii] at h
      cases hp : Partial.begin? offset b with
      | none =>
        rw [hp] at h
        cases h
      | some p =>
        rw [hp] at h
        have h : (State.within p).pieces bytes = .character c :: ps := h
        rcases begin?_eq_some hp with ⟨m, hm, hm', rfl, rfl⟩ | ⟨m, hm, rfl, rfl⟩ | ⟨m, hm, rfl, rfl⟩
        · exact begins_two hm hm' h
        · exact begins_three hm h
        · exact begins_four hm h

/-- No octets at all are the only ones that give no piece. -/
theorem eq_nil_of_pieces_eq_nil {offset : Nat} {bytes : Bytes}
    (h : (State.between offset).pieces bytes = []) : bytes = [] := by
  have hwithin (bytes : Bytes) : ∀ p : Partial, (State.within p).pieces bytes ≠ [] := by
    induction bytes with
    | nil => exact fun p => List.cons_ne_nil _ _
    | cons b bytes ih =>
      intro p hp
      rw [pieces_cons, State.step] at hp
      split at hp
      · split at hp
        · cases hp
        · exact ih _ hp
      · cases hp
  cases bytes with
  | nil => rfl
  | cons b bytes =>
    rw [pieces_cons, State.step] at h
    unfold begin at h
    split at h
    · cases h
    · split at h
      · cases h
      · exact absurd h (hwithin bytes _)

/-! ## Whole texts -/

/-- Octets that are cut into characters alone are those of the characters. -/
theorem eq_flatMap_utf8_of_pieces {t : Text} {offset : Nat} {bytes : Bytes}
    (h : (State.between offset).pieces bytes = t.map .character) :
    t.isScalar = true ∧ bytes = t.flatMap CodePoint.utf8 := by
  induction t generalizing offset bytes with
  | nil => exact ⟨rfl, eq_nil_of_pieces_eq_nil h⟩
  | cons c t ih =>
    obtain ⟨hc, rest, offset', rfl, hrest⟩ := begins_of_pieces h
    obtain ⟨ht, rfl⟩ := ih hrest
    refine ⟨?_, rfl⟩
    rw [Text.isScalar_cons, hc, ht]
    rfl

/-- Pieces that make a text are its characters. -/
theorem eq_map_of_mapM {l : List Piece} {t : Text}
    (h : (l.mapM fun | .character c => .ok c | .fault f => .error f : Except Fault Text) = .ok t) :
    l = t.map .character := by
  induction l generalizing t with
  | nil =>
    obtain rfl : [] = t := Except.ok.inj h
    rfl
  | cons p l ih =>
    rw [List.mapM_cons] at h
    cases p with
    | fault f => cases h
    | character c =>
      obtain ⟨_, hc, h⟩ := bind_eq_ok h
      obtain ⟨t', ht', h⟩ := bind_eq_ok h
      obtain rfl := Except.ok.inj hc
      obtain rfl : c :: t' = t := Except.ok.inj h
      rw [ih ht', List.map_cons]

/-- Octets are read as a text iff they are its own and it holds no surrogate. -/
theorem decode_eq_ok_iff {bytes : Bytes} {t : Text} :
    decode bytes = .ok t ↔ t.isScalar = true ∧ bytes = t.flatMap CodePoint.utf8 := by
  constructor
  · intro h
    exact eq_flatMap_utf8_of_pieces (eq_map_of_mapM h)
  · rintro ⟨ht, rfl⟩
    have hread := decode_utf8 t
    rwa [Text.utf8, Text.scrub_eq_self ht] at hread

/-! ## Any octets -/

/-- After a fault within a character the machine reads on between characters. -/
theorem between_of_fault_within {f : Fault} {ps : List Piece} {bytes : Bytes} {p : Partial}
    (h : (State.within p).pieces bytes = .fault f :: ps) :
    ∃ rest offset, (State.between offset).pieces rest = ps := by
  induction bytes generalizing p with
  | nil => exact ⟨[], 0, (List.cons.inj h).2⟩
  | cons b bytes ih =>
    rw [pieces_cons, State.step] at h
    by_cases haccepts : p.accepts b = true
    · rw [if_pos haccepts] at h
      dsimp only at h
      split at h
      · cases h
      · exact ih h
    · rw [if_neg haccepts] at h
      refine ⟨b :: bytes, p.offset + p.run.length, ?_⟩
      rw [pieces_cons]
      exact (List.cons.inj h).2

/-- After a fault the machine reads on between characters. -/
theorem between_of_fault {f : Fault} {ps : List Piece} {offset : Nat} {bytes : Bytes}
    (h : (State.between offset).pieces bytes = .fault f :: ps) :
    ∃ rest offset', (State.between offset').pieces rest = ps := by
  cases bytes with
  | nil => cases h
  | cons b bytes =>
    rw [pieces_cons, State.step] at h
    unfold begin at h
    split at h
    · cases h
    · split at h
      · exact ⟨bytes, _, (List.cons.inj h).2⟩
      · exact between_of_fault_within h

/-- No character that is read is a surrogate, whatever faults stand around it. -/
theorem isSurrogate_of_mem_pieces {ps : List Piece} {offset : Nat} {bytes : Bytes}
    (h : (State.between offset).pieces bytes = ps) {c : CodePoint} (hc : .character c ∈ ps) :
    c.isSurrogate = false := by
  induction ps generalizing offset bytes with
  | nil => cases hc
  | cons p ps ih =>
    cases p with
    | character d =>
      obtain ⟨hd, rest, offset', -, hrest⟩ := begins_of_pieces h
      rcases List.mem_cons.1 hc with heq | hc
      · rwa [Piece.character.inj heq]
      · exact ih hrest hc
    | fault f =>
      obtain ⟨rest, offset', hrest⟩ := between_of_fault h
      rcases List.mem_cons.1 hc with heq | hc
      · cases heq
      · exact ih hrest hc

/-- The text of any octets holds no surrogate. -/
theorem isScalar_decodeLossy (bytes : Bytes) : (decodeLossy bytes).isScalar = true := by
  rw [decodeLossy, Text.isScalar, List.all_map, List.all_eq_true]
  intro p hp
  cases p with
  | character c =>
    show (!c.isSurrogate) = true
    rw [isSurrogate_of_mem_pieces rfl hp]
    rfl
  | fault f => rfl

end SignedSetup.Utf8
