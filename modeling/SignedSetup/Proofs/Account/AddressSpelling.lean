import SignedSetup.Proofs.Hex
import SignedSetup.Proofs.Text.Utf8Reading

/-!
# Spellings of an address

An address is spelled by forty hexadecimal digits, of either case, after an optional prefix: what
is read is the address with these digits, up to their case (`Address.ofText?_eq_some_iff`). The
spelling with a checksum is one of them (`Address.ofText?_checksummed`).
-/

namespace SignedSetup

/-! ## Letters -/

/-- A character in lower case, if it is an ASCII letter. -/
def CodePoint.lower (c : CodePoint) : CodePoint :=
  if 0x41 ≤ c.val ∧ c.val ≤ 0x5A then CodePoint.ofNat (c.val + 0x20) else c

/-- A text with its ASCII letters in lower case. -/
def Text.lower (t : Text) : Text := t.map CodePoint.lower

theorem CodePoint.val_lower (c : CodePoint) :
    c.lower.val = if 0x41 ≤ c.val ∧ c.val ≤ 0x5A then c.val + 0x20 else c.val := by
  rw [lower]
  split
  · exact Utf8.val_ofNat (by omega)
  · rfl

namespace Hex

theorem val_digit {n : Nat} (h : n < 16) :
    (digit n).val = if n < 10 then 0x30 + n else 0x57 + n :=
  Utf8.val_ofNat (by split <;> omega)

/-- A character is a digit of a value iff in lower case it is the digit that is written for it. -/
theorem digit?_eq_some_iff {c : CodePoint} {n : Nat} :
    digit? c = some n ↔ n < 16 ∧ c.lower = digit n := by
  have hlower := c.val_lower
  constructor
  · intro h
    have hn : n < 16 := by
      simp only [digit?, Bool.and_eq_true, decide_eq_true_eq] at h
      grind
    refine ⟨hn, Fin.ext ?_⟩
    rw [hlower, val_digit hn]
    simp only [digit?, Bool.and_eq_true, decide_eq_true_eq] at h
    grind
  · rintro ⟨hn, h⟩
    have hval := congrArg Fin.val h
    rw [hlower, val_digit hn] at hval
    simp only [digit?, Bool.and_eq_true, decide_eq_true_eq]
    grind

theorem ofBytes_cons_ofNat {high low : Nat} (hhigh : high < 16) (hlow : low < 16)
    (bytes : Bytes) : ofBytes (UInt8.ofNat (16 * high + low) :: bytes) =
      digit high :: digit low :: ofBytes bytes := by
  have hval : (UInt8.ofNat (16 * high + low)).toNat = 16 * high + low :=
    Nat.mod_eq_of_lt (by omega)
  have hdiv : (16 * high + low) / 16 = high := by omega
  have hmod : (16 * high + low) % 16 = low := by omega
  rw [ofBytes_cons, hval, hdiv, hmod]

/-- Digits are read as octets iff in lower case they are what is written for these octets. -/
theorem readExact?_eq_some_iff {t : Text} {bytes : Bytes} :
    readExact? t = some bytes ↔ t.lower = ofBytes bytes := by
  constructor
  · intro h
    induction t using readExact?.induct generalizing bytes with
    | case1 =>
      obtain rfl := Option.some.inj h
      rfl
    | case2 c => cases h
    | case3 c d rest ih =>
      rw [readExact?] at h
      obtain ⟨high, hc, h⟩ := Option.bind_eq_some_iff.1 h
      obtain ⟨low, hd, h⟩ := Option.bind_eq_some_iff.1 h
      obtain ⟨more, hrest, h⟩ := Option.bind_eq_some_iff.1 h
      obtain ⟨hhigh, hc⟩ := digit?_eq_some_iff.1 hc
      obtain ⟨hlow, hd⟩ := digit?_eq_some_iff.1 hd
      rw [← Option.some.inj h, ofBytes_cons_ofNat hhigh hlow, ← hc, ← hd, ← ih hrest]
      rfl
  · intro h
    induction bytes generalizing t with
    | nil =>
      obtain rfl := List.map_eq_nil_iff.1 h
      rfl
    | cons b bytes ih =>
      rw [ofBytes_cons] at h
      obtain ⟨c, t, rfl, hc, h⟩ := List.map_eq_cons_iff.1 h
      obtain ⟨d, rest, rfl, hd, hrest⟩ := List.map_eq_cons_iff.1 h
      rw [readExact?, digit?_eq_some_iff.2 ⟨high_lt b, hc⟩, digit?_eq_some_iff.2 ⟨low_lt b, hd⟩,
        ih hrest]
      exact congrArg (fun x => some (x :: bytes)) (ofNat_digits b)

theorem length_ofBytes (bytes : Bytes) : (ofBytes bytes).length = 2 * bytes.length := by
  induction bytes with
  | nil => rfl
  | cons b bytes ih =>
    rw [ofBytes_cons, List.length_cons, List.length_cons, List.length_cons, ih]
    omega

theorem isDigit_of_digit? {c : CodePoint} {n : Nat} (h : digit? c = some n) : isDigit c = true := by
  rw [isDigit, h]
  rfl

theorem isDigit_of_lower {t : Text} {bytes : Bytes} (h : t.lower = ofBytes bytes) :
    ∀ c ∈ t, isDigit c = true := by
  intro c hc
  have hmem : c.lower ∈ ofBytes bytes := h ▸ List.mem_map_of_mem hc
  obtain ⟨b, -, hb⟩ := List.mem_flatMap.1 hmem
  rcases List.mem_cons.1 hb with hb | hb
  · exact isDigit_of_digit? (digit?_eq_some_iff.2 ⟨high_lt b, hb⟩)
  · exact isDigit_of_digit? (digit?_eq_some_iff.2 ⟨low_lt b, List.mem_singleton.1 hb⟩)

/-- An even number of digits are the digits of octets. -/
theorem exists_lower_eq_ofBytes {t : Text} (h : ∀ c ∈ t, isDigit c = true)
    (heven : t.length % 2 = 0) : ∃ bytes, t.lower = ofBytes bytes := by
  induction t using readExact?.induct with
  | case1 => exact ⟨[], rfl⟩
  | case2 c => cases heven
  | case3 c d rest ih =>
    obtain ⟨hc, h⟩ := List.forall_mem_cons.1 h
    obtain ⟨hd, hrest⟩ := List.forall_mem_cons.1 h
    obtain ⟨high, hc⟩ := Option.isSome_iff_exists.1 hc
    obtain ⟨low, hd⟩ := Option.isSome_iff_exists.1 hd
    obtain ⟨bytes, hbytes⟩ := ih hrest (by rw [← heven]; exact (Nat.add_mod_right _ 2).symm)
    obtain ⟨hhigh, hc⟩ := digit?_eq_some_iff.1 hc
    obtain ⟨hlow, hd⟩ := digit?_eq_some_iff.1 hd
    refine ⟨UInt8.ofNat (16 * high + low) :: bytes, ?_⟩
    rw [ofBytes_cons_ofNat hhigh hlow, ← hc, ← hd, ← hbytes]
    rfl

end Hex

theorem Keccak.length_hash (message : Bytes) : (Keccak.hash message).length = 32 := by
  simp [Keccak.hash, Keccak.bytesOfLane, List.length_flatten, Function.comp_def]

namespace Address

/-- A text is an optional prefix and digits behind it. -/
def IsPrefixed (t digits : Text) : Prop := t = digits ∨ t = "0x" ++ digits ∨ t = "0X" ++ digits

/-- A text is forty hexadecimal digits, of either case, after an optional prefix. -/
structure Spells (t digits : Text) : Prop where
  isPrefixed : IsPrefixed t digits
  length : digits.length = 40
  isDigit : ∀ c ∈ digits, Hex.isDigit c = true

theorem dropHexPrefix_of_isDigit {t : Text} (h : ∀ c ∈ t, Hex.isDigit c = true) :
    dropHexPrefix t = t := by
  unfold dropHexPrefix
  split
  · next z x rest =>
    have hx := h x (List.mem_cons_of_mem z List.mem_cons_self)
    refine if_neg fun hprefix => ?_
    simp only [Bool.and_eq_true, Bool.or_eq_true, decide_eq_true_eq] at hprefix
    rcases hprefix.2 with rfl | rfl <;> cases hx
  · rfl

theorem isPrefixed_dropHexPrefix (t : Text) : IsPrefixed t (dropHexPrefix t) := by
  unfold dropHexPrefix
  split
  · next z x rest =>
    split
    · next hprefix =>
      simp only [Bool.and_eq_true, Bool.or_eq_true, decide_eq_true_eq] at hprefix
      obtain ⟨rfl, rfl | rfl⟩ := hprefix
      · exact .inr (.inl rfl)
      · exact .inr (.inr rfl)
    · exact .inl rfl
  · exact .inl rfl

theorem Spells.dropHexPrefix_eq {t digits : Text} (h : Spells t digits) :
    dropHexPrefix t = digits := by
  rcases h.isPrefixed with rfl | rfl | rfl
  · exact dropHexPrefix_of_isDigit h.isDigit
  · rfl
  · rfl

/-- A text spells an address: its digits are those of the address up to case. -/
def IsSpelled (a : Address) (t : Text) : Prop :=
  ∃ digits, Spells t digits ∧ digits.lower = Hex.ofBytes a.bytes

/-- A text is read as the address that it spells. -/
theorem ofText?_eq_some_iff {t : Text} {a : Address} : ofText? t = some a ↔ a.IsSpelled t := by
  constructor
  · intro h
    unfold ofText? at h
    split at h
    · cases h
    · next bytes hread =>
      split at h
      · next hlength =>
        obtain rfl := Option.some.inj h
        have hlower := Hex.readExact?_eq_some_iff.1 hread
        refine ⟨dropHexPrefix t,
          ⟨isPrefixed_dropHexPrefix t, ?_, Hex.isDigit_of_lower hlower⟩, hlower⟩
        rw [← List.length_map CodePoint.lower]
        exact (congrArg List.length hlower).trans (by rw [Hex.length_ofBytes, hlength])
      · cases h
  · rintro ⟨digits, hspells, hlower⟩
    rw [ofText?, hspells.dropHexPrefix_eq, Hex.readExact?_eq_some_iff.2 hlower]
    exact dif_pos a.length_bytes

/-- A text spells one address at most. -/
theorem IsSpelled.unique {a b : Address} {t : Text} (h : a.IsSpelled t) (h' : b.IsSpelled t) :
    a = b := by
  rw [← ofText?_eq_some_iff] at h h'
  exact Option.some.inj (h.symm.trans h')

theorem IsSpelled.exists_spells {a : Address} {t : Text} (h : a.IsSpelled t) :
    ∃ digits, Spells t digits := by
  obtain ⟨digits, hspells, -⟩ := h
  exact ⟨digits, hspells⟩

/-- Whatever spells an address, there is an address that it spells. -/
theorem Spells.exists_ofText? {t digits : Text} (h : Spells t digits) :
    ∃ a : Address, digits.lower = Hex.ofBytes a.bytes ∧ ofText? t = some a := by
  obtain ⟨bytes, hbytes⟩ := Hex.exists_lower_eq_ofBytes h.isDigit (by rw [h.length])
  have hlength : bytes.length = 20 := by
    have hlower : digits.lower.length = 2 * bytes.length := by
      rw [hbytes, Hex.length_ofBytes]
    rw [Text.lower, List.length_map, h.length] at hlower
    omega
  exact ⟨⟨bytes, hlength⟩, hbytes, ofText?_eq_some_iff.2 ⟨digits, h, hbytes⟩⟩

theorem ofText?_eq_none_iff {t : Text} : ofText? t = none ↔ ¬ ∃ digits, Spells t digits := by
  constructor
  · rintro hnone ⟨digits, hspells⟩
    obtain ⟨a, -, ha⟩ := hspells.exists_ofText?
    rw [hnone] at ha
    cases ha
  · intro h
    rw [Option.eq_none_iff_forall_ne_some]
    intro a ha
    obtain ⟨digits, hspells, -⟩ := ofText?_eq_some_iff.1 ha
    exact h ⟨digits, hspells⟩

/-- Two spellings with the same digits up to case are of one address. -/
theorem ofText?_congr {t t' digits digits' : Text} (h : Spells t digits) (h' : Spells t' digits')
    (heq : digits.lower = digits'.lower) : ofText? t = ofText? t' := by
  obtain ⟨a, hlower, ha⟩ := h.exists_ofText?
  rw [ha]
  exact (ofText?_eq_some_iff.2 ⟨digits', h', heq ▸ hlower⟩).symm

/-! ## The checksum -/

theorem lower_checkedDigit {n : Nat} (h : n < 16) (check : CodePoint) :
    (checkedDigit (Hex.digit n) check).lower = Hex.digit n := by
  have hdigit : ∀ n : Fin 16, (Hex.digit n.val).lower = Hex.digit n.val ∧
      (0x61 ≤ (Hex.digit n.val).val →
        (CodePoint.ofNat ((Hex.digit n.val).val - 0x20)).lower = Hex.digit n.val) := by
    decide
  obtain ⟨hsame, hupper⟩ := hdigit ⟨n, h⟩
  rw [checkedDigit]
  split
  · next hcheck =>
    rw [Bool.and_eq_true, decide_eq_true_eq] at hcheck
    exact hupper hcheck.1
  · exact hsame

theorem lower_zipWith_checkedDigit {digits checks : Text}
    (hdigits : ∀ c ∈ digits, ∃ n < 16, c = Hex.digit n) (hlength : digits.length ≤ checks.length) :
    Text.lower (List.zipWith checkedDigit digits checks) = digits := by
  induction digits generalizing checks with
  | nil => rfl
  | cons c digits ih =>
    obtain ⟨check, checks, rfl⟩ : ∃ check rest, checks = check :: rest :=
      List.exists_cons_of_length_pos (Nat.lt_of_lt_of_le (Nat.succ_pos _) hlength)
    obtain ⟨⟨n, hn, rfl⟩, hmore⟩ := List.forall_mem_cons.1 hdigits
    have hrest := ih hmore (Nat.le_of_succ_le_succ hlength)
    rw [List.zipWith_cons_cons]
    exact congrArg₂ List.cons (lower_checkedDigit hn check) hrest

/-- The spelling with a checksum is one of the address's spellings. -/
theorem ofText?_checksummed (a : Address) : ofText? a.checksummed = some a := by
  let digits := Hex.ofBytes a.bytes
  let checks := Hex.ofBytes (Keccak.hash digits.utf8)
  have hdigits : ∀ c ∈ digits, ∃ n < 16, c = Hex.digit n := by
    intro c hc
    obtain ⟨b, -, hb⟩ := List.mem_flatMap.1 hc
    rcases List.mem_cons.1 hb with hb | hb
    · exact ⟨_, Hex.high_lt b, hb⟩
    · exact ⟨_, Hex.low_lt b, List.mem_singleton.1 hb⟩
  have hlength : digits.length = 40 := by
    rw [Hex.length_ofBytes, a.length_bytes]
  have hchecks : checks.length = 64 := by
    rw [Hex.length_ofBytes, Keccak.length_hash]
  have hlower : Text.lower (List.zipWith checkedDigit digits checks) = digits :=
    lower_zipWith_checkedDigit hdigits (by omega)
  refine ofText?_eq_some_iff.2 ⟨List.zipWith checkedDigit digits checks, ⟨.inr (.inl rfl), ?_, ?_⟩,
    hlower⟩
  · rw [List.length_zipWith, hlength, hchecks]
    rfl
  · exact Hex.isDigit_of_lower hlower

end Address

end SignedSetup
