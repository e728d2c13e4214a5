import SignedSetup.Account.Signature
import SignedSetup.Proofs.Results

/-!
# The language of hexadecimal octets

A text spells octets if it is made of pairs of digits, one pair for each octet, with blanks before,
between and after the pairs (`Hex.Spells`). The reader accepts just these texts, and what it gives
are the octets that they spell (`read_eq_ok_iff`).
-/

namespace SignedSetup

namespace Hex

/-- A text that spells octets. -/
inductive Spells : Text → Bytes → Prop where
  | nil : Spells [] []
  | blank {c : CodePoint} {t : Text} {bytes : Bytes} :
      isBlank c = true → Spells t bytes → Spells (c :: t) bytes
  | pair {c d : CodePoint} {high low : Nat} {t : Text} {bytes : Bytes} :
      digit? c = some high → digit? d = some low → Spells t bytes →
      Spells (c :: d :: t) (UInt8.ofNat (16 * high + low) :: bytes)

/-- Octets in hexadecimal digits behind a prefix. -/
def prefixed (octets : Bytes) : Text := "0x" ++ ofBytes octets

/-! ## Characters -/

theorem digit?_bounds {c : CodePoint} {n : Nat} (h : digit? c = some n) :
    0x30 ≤ c.val ∧ c.val < 0x80 := by
  unfold digit? at h
  simp only [Bool.and_eq_true, decide_eq_true_eq] at h
  split at h
  · omega
  · split at h
    · omega
    · split at h
      · omega
      · cases h

theorem isBlank_of_digit? {c : CodePoint} {n : Nat} (h : digit? c = some n) :
    isBlank c = false := by
  have hbounds := digit?_bounds h
  rw [isBlank, Bool.or_eq_false_iff, Bool.and_eq_false_iff, decide_eq_false_iff_not,
    decide_eq_false_iff_not, decide_eq_false_iff_not]
  omega

theorem isAscii_of_digit? {c : CodePoint} {n : Nat} (h : digit? c = some n) :
    c.isAscii = true :=
  decide_eq_true (digit?_bounds h).2

theorem isAscii_of_isBlank {c : CodePoint} (h : isBlank c = true) : c.isAscii = true := by
  rw [isBlank, Bool.or_eq_true, Bool.and_eq_true, decide_eq_true_eq, decide_eq_true_eq,
    decide_eq_true_eq] at h
  have hlt : c.val < 0x80 := by omega
  exact decide_eq_true hlt

theorem Spells.isAscii {t : Text} {bytes : Bytes} (h : Spells t bytes) :
    ∀ c ∈ t, c.isAscii = true := by
  induction h with
  | nil => exact fun c hc => absurd hc List.not_mem_nil
  | blank hc _ ih => exact List.forall_mem_cons.2 ⟨isAscii_of_isBlank hc, ih⟩
  | pair hc hd _ ih =>
    exact List.forall_mem_cons.2
      ⟨isAscii_of_digit? hc, List.forall_mem_cons.2 ⟨isAscii_of_digit? hd, ih⟩⟩

/-! ## Reading -/

theorem spells_of_pairs {t : Text} {offset : Nat} {bytes : Bytes}
    (h : pairs offset t = .ok bytes) : Spells t bytes := by
  fun_induction pairs offset t generalizing bytes with
  | case1 =>
    obtain rfl : [] = bytes := Except.ok.inj h
    exact .nil
  | case2 offset c rest hblank ih => exact .blank hblank (ih h)
  | case3 => cases h
  | case4 => cases h
  | case5 => cases h
  | case6 offset c hblank high d rest hc low hd ih =>
    obtain ⟨bytes, hrest, rfl⟩ := map_eq_ok h
    exact .pair hc hd (ih hrest)

theorem pairs_of_spells {t : Text} {bytes : Bytes} (h : Spells t bytes) (offset : Nat) :
    pairs offset t = .ok bytes := by
  induction h generalizing offset with
  | nil => rfl
  | blank hc _ ih => rw [pairs.eq_def]; simp only [hc, if_true, ih]
  | pair hc hd _ ih =>
    rw [pairs.eq_def]
    simp only [isBlank_of_digit? hc, Bool.false_eq_true, if_false, hc, hd, ih]
    rfl

/-- The reader accepts the texts that spell octets and gives these octets. -/
theorem read_eq_ok_iff {t : Text} {bytes : Bytes} : read t = .ok bytes ↔ Spells t bytes := by
  constructor
  · intro h
    rw [read] at h
    split at h
    · cases h
    · exact spells_of_pairs h
  · intro h
    have hascii : t.findIdx? (fun c => !c.isAscii) = none := by
      rw [List.findIdx?_eq_none_iff]
      intro c hc
      rw [h.isAscii c hc]
      rfl
    rw [read, hascii]
    exact pairs_of_spells h 0

end Hex

namespace Signature

/-- A text is read as a signature iff it spells 65 octets after an optional prefix. -/
theorem exists_ofText_eq_ok_iff (t : Text) :
    (∃ s, ofText t = .ok s) ↔
      ∃ bytes : Bytes, Hex.Spells (Address.dropHexPrefix t) bytes ∧ bytes.length = 65 := by
  constructor
  · rintro ⟨s, h⟩
    unfold ofText at h
    split at h
    · cases h
    · next bytes hread =>
      split at h
      · next hlength => exact ⟨bytes, Hex.read_eq_ok_iff.1 hread, hlength⟩
      · cases h
  · rintro ⟨bytes, hspells, hlength⟩
    refine ⟨⟨bytes, hlength⟩, ?_⟩
    rw [ofText, Hex.read_eq_ok_iff.2 hspells]
    exact dif_pos hlength

end Signature

end SignedSetup
