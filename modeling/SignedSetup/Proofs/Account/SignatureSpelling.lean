import SignedSetup.Proofs.Account.AddressSpelling
import SignedSetup.Proofs.Account.Lifecycle
import SignedSetup.Proofs.Setup.Sources

/-!
# Spellings of a signature

A signature is spelled by 65 groups of two adjacent hexadecimal digits, of either case, after an
optional prefix. ASCII blanks may stand before, between and after the groups, but not inside one.
What a text is read as is the signature that it spells, and nothing else is read
(`Signature.ofText_iff_isSpelled`). So it does not matter to a verification how its signature is
spelled. A signature that was made is written with the prefix, in lower case and without blanks.
-/

namespace SignedSetup

namespace Hex

/-! ## Groups of digits -/

/-- The ASCII blanks: space, tab, line feed, vertical tab, form feed and carriage return. -/
def blanks : List CodePoint := [0x20, 0x09, 0x0A, 0x0B, 0x0C, 0x0D]

/-- A text of blanks alone, or without a character. -/
def IsBlanks (t : Text) : Prop := ∀ c ∈ t, c ∈ blanks

/-- Two adjacent digits, of either case, that spell an octet. -/
def IsGroup (group : Text) (b : UInt8) : Prop := group.lower = ofByte b

/-- Groups of digits, one for each octet, with blanks before, between and after them. -/
inductive IsGroups : Text → Bytes → Prop where
  | blanks {t : Text} : IsBlanks t → IsGroups t []
  | group {before group t : Text} {b : UInt8} {bytes : Bytes} :
      IsBlanks before → IsGroup group b → IsGroups t bytes →
        IsGroups (before ++ (group ++ t)) (b :: bytes)

theorem isBlanks_nil : IsBlanks [] := fun _ hc => absurd hc List.not_mem_nil

theorem IsGroups.of_group {group t : Text} {b : UInt8} {bytes : Bytes} (hgroup : IsGroup group b)
    (ht : IsGroups t bytes) : IsGroups (group ++ t) (b :: bytes) :=
  IsGroups.group isBlanks_nil hgroup ht

theorem isBlank_iff_mem {c : CodePoint} : isBlank c = true ↔ c ∈ blanks := by
  simp only [isBlank, blanks, Bool.or_eq_true, Bool.and_eq_true, decide_eq_true_eq, List.mem_cons,
    List.not_mem_nil, or_false, Fin.ext_iff]
  constructor
  · intro h
    have hcases : c.val = 0x20 ∨ c.val = 0x09 ∨ c.val = 0x0A ∨ c.val = 0x0B ∨ c.val = 0x0C ∨
        c.val = 0x0D := by omega
    exact hcases
  · rintro (h | h | h | h | h | h) <;> rw [h] <;> decide

/-- A group is a digit for each half of the octet. -/
theorem isGroup_iff {group : Text} {b : UInt8} :
    IsGroup group b ↔ ∃ c d, group = [c, d] ∧ digit? c = some (b.toNat / 16) ∧
      digit? d = some (b.toNat % 16) := by
  simp only [digit?_eq_some_iff, high_lt, low_lt, true_and]
  constructor
  · intro h
    obtain ⟨c, rest, rfl, hc, hrest⟩ := List.map_eq_cons_iff.1 h
    obtain ⟨d, rest, rfl, hd, hrest⟩ := List.map_eq_cons_iff.1 hrest
    obtain rfl := List.map_eq_nil_iff.1 hrest
    exact ⟨c, d, rfl, hc, hd⟩
  · rintro ⟨c, d, rfl, hc, hd⟩
    show [c.lower, d.lower] = ofByte b
    rw [hc, hd]
    rfl

theorem spells_append_of_isBlanks {before t : Text} {bytes : Bytes} (hbefore : IsBlanks before)
    (h : Spells t bytes) : Spells (before ++ t) bytes := by
  induction before with
  | nil => exact h
  | cons c before ih =>
    obtain ⟨hc, hmore⟩ := List.forall_mem_cons.1 hbefore
    exact .blank (isBlank_iff_mem.2 hc) (ih hmore)

/-- What the reader takes character by character are groups with blanks around them. -/
theorem spells_iff_isGroups {t : Text} {bytes : Bytes} : Spells t bytes ↔ IsGroups t bytes := by
  constructor
  · intro h
    induction h with
    | nil => exact .blanks isBlanks_nil
    | @blank c t bytes hc _ ih =>
      -- The blank joins those that the groups begin with.
      have hc := isBlank_iff_mem.1 hc
      cases ih with
      | blanks ht => exact .blanks (List.forall_mem_cons.2 ⟨hc, ht⟩)
      | @group before group t b bytes hbefore hgroup ht =>
        have hblanks : IsBlanks (c :: before) := List.forall_mem_cons.2 ⟨hc, hbefore⟩
        exact IsGroups.group hblanks hgroup ht
    | @pair c d high low t bytes hc hd _ ih =>
      have hhigh := (digit?_eq_some_iff.1 hc).1
      have hlow := (digit?_eq_some_iff.1 hd).1
      have hval : (UInt8.ofNat (16 * high + low)).toNat = 16 * high + low :=
        Nat.mod_eq_of_lt (by omega)
      have hgroup : IsGroup [c, d] (UInt8.ofNat (16 * high + low)) := by
        refine isGroup_iff.2 ⟨c, d, rfl, ?_, ?_⟩
        · rw [hc, hval]
          congr 1
          omega
        · rw [hd, hval]
          congr 1
          omega
      exact .of_group hgroup ih
  · intro h
    induction h with
    | @blanks t ht =>
      rw [← List.append_nil t]
      exact spells_append_of_isBlanks ht .nil
    | @group before group t b bytes hbefore hgroup _ ih =>
      obtain ⟨c, d, rfl, hc, hd⟩ := isGroup_iff.1 hgroup
      have hpair := Spells.pair hc hd ih
      rw [ofNat_digits] at hpair
      exact spells_append_of_isBlanks hbefore hpair

/-- Digits without blanks are groups. -/
theorem isGroups_of_lower {digits : Text} {bytes : Bytes} (h : digits.lower = ofBytes bytes) :
    IsGroups digits bytes := by
  induction bytes generalizing digits with
  | nil =>
    obtain rfl := List.map_eq_nil_iff.1 h
    exact .blanks isBlanks_nil
  | cons b bytes ih =>
    obtain ⟨group, rest, rfl, hgroup, hrest⟩ := List.map_eq_append_iff.1 h
    exact .of_group hgroup (ih hrest)

/-- The digits that octets are written in. -/
def lowerDigits : Text := "0123456789abcdef"

theorem mem_lowerDigits_of_mem_ofBytes {bytes : Bytes} {c : CodePoint} (h : c ∈ ofBytes bytes) :
    c ∈ lowerDigits := by
  have hdigit : ∀ n : Fin 16, digit n.val ∈ lowerDigits := by decide
  obtain ⟨b, -, hb⟩ := List.mem_flatMap.1 h
  rcases List.mem_cons.1 hb with rfl | hb
  · exact hdigit ⟨b.toNat / 16, high_lt b⟩
  · rw [List.mem_singleton.1 hb]
    exact hdigit ⟨b.toNat % 16, low_lt b⟩

end Hex

namespace Signature

/-! ## Groups behind a prefix -/

/-- A text spells octets as a signature: 65 groups of digits after an optional prefix. -/
def IsSpelled (t : Text) (bytes : Bytes) : Prop :=
  bytes.length = 65 ∧ ∃ groups, Address.IsPrefixed t groups ∧ Hex.IsGroups groups bytes

/-- Groups of digits do not begin with a prefix. -/
theorem dropHexPrefix_of_spells {t : Text} {bytes : Bytes} (h : Hex.Spells t bytes) :
    Address.dropHexPrefix t = t := by
  unfold Address.dropHexPrefix
  split
  · next z x rest =>
    refine if_neg fun hprefix => ?_
    simp only [Bool.and_eq_true, Bool.or_eq_true, decide_eq_true_eq] at hprefix
    obtain ⟨rfl, hx⟩ := hprefix
    cases h with
    | blank hz => exact absurd hz (by decide)
    | pair _ hd => rcases hx with rfl | rfl <;> cases hd
  · rfl

theorem dropHexPrefix_of_isPrefixed {t groups : Text} {bytes : Bytes}
    (ht : Address.IsPrefixed t groups) (h : Hex.Spells groups bytes) :
    Address.dropHexPrefix t = groups := by
  rcases ht with rfl | rfl | rfl
  · exact dropHexPrefix_of_spells h
  · rfl
  · rfl

theorem isSpelled_iff {t : Text} {bytes : Bytes} :
    IsSpelled t bytes ↔ bytes.length = 65 ∧ Hex.Spells (Address.dropHexPrefix t) bytes := by
  refine and_congr_right fun _ => ?_
  constructor
  · rintro ⟨groups, ht, hgroups⟩
    have hspells := Hex.spells_iff_isGroups.2 hgroups
    rwa [dropHexPrefix_of_isPrefixed ht hspells]
  · exact fun h => ⟨_, Address.isPrefixed_dropHexPrefix t, Hex.spells_iff_isGroups.1 h⟩

/-- A text is read as the signature that it spells. -/
theorem ofText_eq_ok_iff {t : Text} {s : Signature} : ofText t = .ok s ↔ IsSpelled t s.bytes := by
  rw [isSpelled_iff, ← Hex.read_eq_ok_iff]
  unfold ofText
  constructor
  · intro h
    split at h
    · cases h
    · next bytes hread =>
      split at h
      · next hlength =>
        obtain rfl := Except.ok.inj h
        exact ⟨hlength, hread⟩
      · cases h
  · rintro ⟨-, hread⟩
    rw [hread]
    exact dif_pos s.length_bytes

theorem ofText_of_isSpelled {t : Text} {bytes : Bytes} (h : IsSpelled t bytes) :
    ofText t = .ok ⟨bytes, h.1⟩ := ofText_eq_ok_iff.2 h

/-- A text that spells no signature is refused. -/
theorem exists_ofText_eq_error_iff {t : Text} :
    (∃ e, ofText t = .error e) ↔ ∀ bytes, ¬ IsSpelled t bytes := by
  constructor
  · rintro ⟨e, he⟩ bytes hspelled
    rw [ofText_of_isSpelled hspelled] at he
    cases he
  · intro h
    cases hread : ofText t with
    | error e => exact ⟨e, rfl⟩
    | ok s => exact absurd (ofText_eq_ok_iff.1 hread) (h s.bytes)

/-- Digits of either case behind any prefix spell a signature. -/
theorem isSpelled_of_lower {t digits : Text} (ht : Address.IsPrefixed t digits) {s : Signature}
    (h : digits.lower = Hex.ofBytes s.bytes) : IsSpelled t s.bytes :=
  ⟨s.length_bytes, digits, ht, Hex.isGroups_of_lower h⟩

theorem length_digits (s : Signature) : (Hex.ofBytes s.bytes).length = 130 := by
  rw [Hex.length_ofBytes, s.length_bytes]

/-- What the curve made of a digest is read from the signature of typed data. -/
theorem numbers_of_signTypedData {envelope : Json} {key : Text} {s : Signature}
    (h : signTypedData envelope key = .ok s) :
    ∃ k digest, PrivateKey.ofText key = .ok k ∧ TypedData.digest envelope = .ok digest ∧
      s.r = (Curve.Ecdsa.sign k.value digest).r ∧ s.s = (Curve.Ecdsa.sign k.value digest).s ∧
      oddOfMark? s.mark = some (Curve.Ecdsa.sign k.value digest).odd := by
  obtain ⟨digest, hdigest, h⟩ := bind_eq_ok h
  obtain ⟨k, hk, h⟩ := bind_eq_ok h
  obtain ⟨hr, hs⟩ := Curve.Ecdsa.sign_lt_order k.value digest
  rw [← Except.ok.inj h]
  exact ⟨k, digest, mapError_eq_ok hk, mapError_eq_ok hdigest, r_ofRaw hr, s_ofRaw hs,
    oddOfMark?_ofRaw _⟩

/-- The spellings of signatures. A text is read as 65 octets iff it spells them, and is refused iff
it spells none. The digits of a signature spell it in either case and behind any prefix; requests
that differ in how their signatures are spelled are verified with one result. A signature of typed
data is written as a prefix and 130 digits in lower case, which are read as it again, with the
numbers that the curve gave. -/
theorem ofText_iff_isSpelled :
    (∀ (t : Text) (bytes : Bytes),
      (∃ s, ofText t = .ok s ∧ s.bytes = bytes) ↔ IsSpelled t bytes) ∧
    (∀ t : Text, (∃ e, ofText t = .error e) ↔ ∀ bytes, ¬ IsSpelled t bytes) ∧
    (∀ (s : Signature) (t digits : Text), Address.IsPrefixed t digits →
      digits.lower = Hex.ofBytes s.bytes → ofText t = .ok s) ∧
    (∀ (t t' : Text) (bytes : Bytes), IsSpelled t bytes → IsSpelled t' bytes →
      ∀ payload, Setup.verify payload t = Setup.verify payload t') ∧
    ∀ (envelope : Json) (key : Text) (s : Signature), signTypedData envelope key = .ok s →
      (∃ digits : Text, s.text = "0x" ++ digits ∧ digits.length = 130 ∧
        ∀ c ∈ digits, c ∈ Hex.lowerDigits) ∧
      ofText s.text = .ok s ∧
      ∃ k digest, PrivateKey.ofText key = .ok k ∧ TypedData.digest envelope = .ok digest ∧
        s.r = (Curve.Ecdsa.sign k.value digest).r ∧ s.s = (Curve.Ecdsa.sign k.value digest).s ∧
        oddOfMark? s.mark = some (Curve.Ecdsa.sign k.value digest).odd := by
  refine ⟨fun t bytes => ?_, fun t => exists_ofText_eq_error_iff, fun s t digits ht h => ?_,
    fun t t' bytes h h' payload => ?_, fun envelope key s h => ⟨?_, ofText_text s, ?_⟩⟩
  · constructor
    · rintro ⟨s, hs, rfl⟩
      exact ofText_eq_ok_iff.1 hs
    · exact fun h => ⟨_, ofText_of_isSpelled h, rfl⟩
  · exact ofText_eq_ok_iff.2 (isSpelled_of_lower ht h)
  · rw [Setup.verify, Setup.verify, ofText_of_isSpelled h, ofText_of_isSpelled h']
  · exact ⟨Hex.ofBytes s.bytes, rfl, s.length_digits,
      fun c hc => Hex.mem_lowerDigits_of_mem_ofBytes hc⟩
  · exact numbers_of_signTypedData h

/-! ## A signature of equal octets -/

/-- A signature of one octet, again and again. -/
def sampleSignature : Signature := ⟨List.replicate 65 0xAB, List.length_replicate⟩

/-- The octets of that signature with a blank before each and another prefix, the digits of either
case. -/
def spacedText : Text := "0X" ++ (List.replicate 65 (Text.ofString "\taB")).flatten

/-- The spaced text is read as the signature is, which is signed by whom it is signed in its own
spelling; and what is signed is read back. -/
theorem ofText_iff_isSpelled_spacedText :
    IsSpelled spacedText sampleSignature.bytes ∧ ofText sampleSignature.text = .ok sampleSignature ∧
      Setup.verify Setup.sampleConfigPayload spacedText =
        Setup.verify Setup.sampleConfigPayload sampleSignature.text ∧
      ∃ s digest, signTypedData Signer.networkEnvelope Signer.sampleKeyText = .ok s ∧
        ofText s.text = .ok s ∧ TypedData.digest Signer.networkEnvelope = .ok digest ∧
        s.r = (Curve.Ecdsa.sign Setup.sampleKey.value digest).r := by
  obtain ⟨hread, -, hlower, hverify, hmade⟩ := ofText_iff_isSpelled
  have hspaced := (hread spacedText sampleSignature.bytes).1 ⟨sampleSignature, by decide, rfl⟩
  have htext := hlower sampleSignature sampleSignature.text (Hex.ofBytes sampleSignature.bytes)
    (.inr (.inl rfl)) (by decide)
  have hsame := (hread sampleSignature.text sampleSignature.bytes).1 ⟨_, htext, rfl⟩
  have hsigned := (Signer.signTypedData_eq_ok_iff Signer.ofText_sampleKeyText).2
    Signer.signTypedData_networkEnvelope
  obtain ⟨-, hagain, k, digest, hk, hdigest, hr, -⟩ := hmade _ _ _ hsigned
  obtain rfl := Except.ok.inj (Signer.ofText_sampleKeyText.symm.trans hk)
  exact ⟨hspaced, htext, hverify _ _ _ hspaced hsame _, _, digest, hsigned, hagain, hdigest, hr⟩

end Signature

end SignedSetup
