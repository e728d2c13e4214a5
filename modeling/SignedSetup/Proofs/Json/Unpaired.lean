import SignedSetup.Proofs.Json.Alike
import SignedSetup.Proofs.Json.Writing
import SignedSetup.Proofs.PayloadReading

/-!
# Surrogates that are read stand alone

A text without surrogates can spell one by an escape. Two escapes in a row that are the halves of a
pair are joined, so in what is read no first half stands before a second half. Doubles that are read
have their parts in their bounds. So whatever is read of octets can be written in ASCII
(`isPrintable_of_parse`) and is read again as it was (`IsPrintable.parse_render_append`).
-/

namespace SignedSetup

theorem Text.isUnpaired_cons {c : CodePoint} {t : Text} (ht : t.isUnpaired = true)
    (h : ∀ d rest, t = d :: rest → c.isHighSurrogate = true → d.isLowSurrogate = false) :
    Text.isUnpaired (c :: t) = true := by
  cases t with
  | nil => rfl
  | cons d rest =>
    rw [isUnpaired, ht, Bool.and_true]
    cases hc : c.isHighSurrogate with
    | false => rfl
    | true => rw [h d rest rfl hc]; rfl

namespace CodePoint

theorem isHighSurrogate_of_not_isSurrogate {c : CodePoint} (h : c.isSurrogate = false) :
    c.isHighSurrogate = false := by
  simp only [isSurrogate, isHighSurrogate, Bool.and_eq_false_iff, decide_eq_false_iff_not] at h ⊢
  omega

theorem isLowSurrogate_of_not_isSurrogate {c : CodePoint} (h : c.isSurrogate = false) :
    c.isLowSurrogate = false := by
  simp only [isSurrogate, isLowSurrogate, Bool.and_eq_false_iff, decide_eq_false_iff_not] at h ⊢
  omega

end CodePoint

/-- A text without first halves of pairs holds no pair. -/
theorem Text.isUnpaired_of_isHighSurrogate {t : Text}
    (h : ∀ c ∈ t, CodePoint.isHighSurrogate c = false) : t.isUnpaired = true := by
  induction t with
  | nil => rfl
  | cons c t ih =>
    refine isUnpaired_cons (ih fun d hd => h d (List.mem_cons_of_mem _ hd)) fun d rest _ hhigh => ?_
    rw [h c List.mem_cons_self] at hhigh
    cases hhigh

/-- A text without surrogates holds no pair. -/
theorem Text.isUnpaired_of_isScalar {t : Text} (h : t.isScalar = true) : t.isUnpaired = true :=
  isUnpaired_of_isHighSurrogate fun c hc =>
    CodePoint.isHighSurrogate_of_not_isSurrogate
      (Bool.not_eq_true' _ ▸ List.all_eq_true.1 h c hc)

namespace Json

/-! ## Joined units -/

/-- A pair is joined to a character past all surrogates. -/
theorem isSurrogate_pair? {n m : Nat} {c : CodePoint} (h : pair? n m = some c) :
    c.isSurrogate = false := by
  unfold pair? at h
  split at h
  · next hhalves =>
    obtain rfl := Option.some.inj h
    have hbound {k : Nat} (hk : (CodePoint.ofNat k).val ≠ 0xFFFD) :
        (CodePoint.ofNat k).val = k := by
      unfold CodePoint.ofNat at hk ⊢
      split
      · rfl
      · next hlt => rw [dif_neg hlt] at hk; exact absurd rfl hk
    simp only [CodePoint.isHighSurrogate, CodePoint.isLowSurrogate, Bool.and_eq_true,
      decide_eq_true_eq] at hhalves
    rw [hbound (by omega), hbound (by omega)] at hhalves
    have hlt : 0x10000 + (n - 0xD800) * 0x400 + (m - 0xDC00) < 0x110000 := by omega
    simp only [CodePoint.isSurrogate, CodePoint.ofNat, hlt, dif_pos, Bool.and_eq_false_iff,
      decide_eq_false_iff_not]
    omega
  · cases h

/-- The parts of a string hold no surrogate but by the number of a unit. -/
def IsPlainParts (ps : List Part) : Prop :=
  ∀ c, Part.character c ∈ ps → c.isSurrogate = false

theorem IsPlainParts.tail {p : Part} {ps : List Part} (h : IsPlainParts (p :: ps)) :
    IsPlainParts ps := fun c hc => h c (List.mem_cons_of_mem _ hc)

/-- A second half at the beginning of joined parts is the unit that they begin with. -/
theorem head_joinParts {ps : List Part} (h : IsPlainParts ps) {d : CodePoint} {rest : Text}
    (hjoin : joinParts ps = d :: rest) (hd : d.isLowSurrogate = true) :
    ∃ m qs, ps = .unit m :: qs ∧ d = CodePoint.ofNat m := by
  have hplain {c : CodePoint} (hc : c.isSurrogate = false) (heq : c = d) : False := by
    rw [heq] at hc
    rw [CodePoint.isLowSurrogate_of_not_isSurrogate hc] at hd
    cases hd
  cases ps with
  | nil => cases hjoin
  | cons p ps =>
    cases p with
    | character c =>
      rw [joinParts] at hjoin
      exact absurd (List.cons.inj hjoin).1 (hplain (h c List.mem_cons_self))
    | unit n =>
      refine ⟨n, ps, rfl, ?_⟩
      by_cases hpair : ∃ m qs c, ps = .unit m :: qs ∧ pair? n m = some c
      · obtain ⟨m, qs, c, rfl, hpair⟩ := hpair
        rw [joinParts, hpair] at hjoin
        exact absurd (List.cons.inj hjoin).1 (hplain (isSurrogate_pair? hpair))
      · have hnone (m : Nat) (qs : List Part) (hps : ps = .unit m :: qs) : pair? n m = none :=
          Option.eq_none_iff_forall_ne_some.2 fun c hc => hpair ⟨m, qs, c, hps, hc⟩
        rw [joinParts_unit hnone] at hjoin
        exact (List.cons.inj hjoin).1.symm

theorem isUnpaired_joinParts {ps : List Part} (h : IsPlainParts ps) :
    (joinParts ps).isUnpaired = true := by
  induction ps using joinParts.induct with
  | case1 => rfl
  | case2 c ps ih =>
    have hc := h c List.mem_cons_self
    refine Text.isUnpaired_cons (ih h.tail) fun d rest _ hhigh => ?_
    rw [CodePoint.isHighSurrogate_of_not_isSurrogate hc] at hhigh
    cases hhigh
  | case3 n => rfl
  | case4 n c ps ih =>
    have hc := h c (List.mem_cons_of_mem _ List.mem_cons_self)
    refine Text.isUnpaired_cons ?_ fun d rest heq _ => ?_
    · refine Text.isUnpaired_cons (ih h.tail.tail) fun d rest _ hhigh => ?_
      rw [CodePoint.isHighSurrogate_of_not_isSurrogate hc] at hhigh
      cases hhigh
    · rw [← (List.cons.inj heq).1, CodePoint.isLowSurrogate_of_not_isSurrogate hc]
  | case5 n m ps c hpair ih =>
    rw [joinParts, hpair]
    refine Text.isUnpaired_cons (ih h.tail.tail) fun d rest _ hhigh => ?_
    rw [CodePoint.isHighSurrogate_of_not_isSurrogate (isSurrogate_pair? hpair)] at hhigh
    cases hhigh
  | case6 n m ps hpair ih =>
    rw [joinParts, hpair]
    refine Text.isUnpaired_cons (ih h.tail) fun d rest heq hhigh => ?_
    -- The other half would have been joined to this one.
    refine Bool.eq_false_iff.2 fun hd => ?_
    obtain ⟨m', qs, hps, rfl⟩ := head_joinParts h.tail heq hd
    obtain rfl : m = m' := Part.unit.inj (List.cons.inj hps).1
    rw [pair?, hhigh, hd, Bool.and_self, if_pos rfl] at hpair
    cases hpair

/-! ## What a text without surrogates spells -/

theorem isPlainParts_of_spellsParts {ps : List Part} {t : Text} (h : SpellsParts ps t)
    (ht : t.isScalar = true) : IsPlainParts ps := by
  induction h with
  | nil => exact nofun
  | @character c ps t _ _ _ _ ih =>
    rw [Text.isScalar_cons, Bool.and_eq_true, Bool.not_eq_true'] at ht
    rintro d hd
    rcases List.mem_cons.1 hd with hd | hd
    · rw [Part.character.inj hd]
      exact ht.1
    · exact ih ht.2 d hd
  | @short c e ps t he _ ih =>
    rw [Text.isScalar_cons, Text.isScalar_cons, Bool.and_eq_true, Bool.and_eq_true] at ht
    rintro d hd
    rcases List.mem_cons.1 hd with hd | hd
    · have hc : c.isSurrogate = false := by
        unfold shortEscape? at he
        split_ifs at he with h₁ h₂ h₃
        · rw [← Option.some.inj he, h₁]; rfl
        · rw [← Option.some.inj he, h₂]; rfl
        · rw [← Option.some.inj he, h₃]; rfl
        all_goals rw [← Option.some.inj he]; rfl
      rw [Part.character.inj hd]
      exact hc
    · exact ih ht.2.2 d hd
  | unit _ _ ih =>
    simp only [Text.isScalar_cons, Bool.and_eq_true] at ht
    rintro d hd
    rcases List.mem_cons.1 hd with hd | hd
    · cases hd
    · exact ih ht.2.2.2.2.2.2 d hd

theorem SpellsText.isUnpaired {s t : Text} (h : SpellsText s t) (ht : t.isScalar = true) :
    s.isUnpaired = true := by
  obtain ⟨ps, inner, hspells, rfl, rfl⟩ := h
  simp only [Text.isScalar_cons, Text.isScalar_append, Bool.and_eq_true] at ht
  exact isUnpaired_joinParts (isPlainParts_of_spellsParts hspells ht.2.1)

theorem SpellsKey.isUnpaired {k t : Text} (h : SpellsKey k t) (ht : t.isScalar = true) :
    k.isUnpaired = true := by
  obtain ⟨word, before, after, hword, -, -, rfl⟩ := h
  simp only [Text.isScalar_append, Bool.and_eq_true] at ht
  exact hword.isUnpaired ht.1

/-- A phrase holds no two halves of a pair side by side. -/
def Phrase.IsUnpaired : Phrase → Prop
  | .value v => v.isUnpaired = true
  | .items vs => allItems isUnpairedNode vs = true
  | .members ms => (Entries.keys ms).all Text.isUnpaired = true ∧
      allMembers isUnpairedNode ms = true

theorem Spells.isUnpaired {p : Phrase} {t : Text} (h : Spells p t) (ht : t.isScalar = true) :
    p.IsUnpaired := by
  induction h with
  | @name word v hmem =>
    have hnames : ∀ wv ∈ names, wv.2.isUnpaired = true := by
      intro wv hwv
      simp only [names, List.mem_cons, List.not_mem_nil, or_false] at hwv
      rcases hwv with rfl | rfl | rfl | rfl | rfl | rfl <;> rfl
    exact hnames _ hmem
  | number hnumber => cases hnumber <;> rfl
  | text htext => exact htext.isUnpaired ht
  | emptyArray _ => rfl
  | array _ _ ih =>
    simp only [Text.isScalar_cons, Text.isScalar_append, Bool.and_eq_true] at ht
    exact Bool.and_eq_true_iff.2 ⟨rfl, ih ht.2.2.1⟩
  | emptyObject _ => rfl
  | object _ _ ih =>
    simp only [Text.isScalar_cons, Text.isScalar_append, Bool.and_eq_true] at ht
    exact Bool.and_eq_true_iff.2 (ih ht.2.2.1)
  | lastItem _ _ ih =>
    simp only [Text.isScalar_append, Bool.and_eq_true] at ht
    exact Bool.and_eq_true_iff.2 ⟨ih ht.1, rfl⟩
  | item _ _ _ _ ih ihs =>
    simp only [Text.isScalar_cons, Text.isScalar_append, Bool.and_eq_true] at ht
    exact Bool.and_eq_true_iff.2 ⟨ih ht.1, ihs ht.2.2.2.2⟩
  | lastMember hkey _ _ ih =>
    simp only [Text.isScalar_append, Bool.and_eq_true] at ht
    exact ⟨Bool.and_eq_true_iff.2 ⟨hkey.isUnpaired ht.1, rfl⟩,
      Bool.and_eq_true_iff.2 ⟨ih ht.2.1, rfl⟩⟩
  | member hkey _ _ _ _ ih ihs =>
    simp only [Text.isScalar_cons, Text.isScalar_append, Bool.and_eq_true] at ht
    obtain ⟨hkeys, hvalues⟩ := ihs ht.2.2.2.2.2
    exact ⟨Bool.and_eq_true_iff.2 ⟨hkey.isUnpaired ht.1, hkeys⟩,
      Bool.and_eq_true_iff.2 ⟨ih ht.2.1, hvalues⟩⟩

/-! ## Doubles are in their bounds -/

/-- A phrase all of whose doubles have their parts in their bounds. -/
def Phrase.IsCanonical : Phrase → Prop
  | .value v => v.isCanonical = true
  | .items vs => allItems isCanonicalNode vs = true
  | .members ms => allMembers isCanonicalNode ms = true

theorem Spells.isCanonical {p : Phrase} {t : Text} (h : Spells p t) : p.IsCanonical := by
  induction h with
  | @name word v hmem =>
    have hnames : ∀ wv ∈ names, wv.2.isCanonical = true := by
      intro wv hwv
      simp only [names, List.mem_cons, List.not_mem_nil, or_false] at hwv
      rcases hwv with rfl | rfl | rfl | rfl | rfl | rfl <;> rfl
    exact hnames _ hmem
  | number hnumber =>
    cases hnumber with
    | integer _ _ => rfl
    | double negative _ _ _ _ => exact Double.isCanonical_ofDecimal negative _ _
  | text _ => rfl
  | emptyArray _ => rfl
  | array _ _ ih => exact Bool.and_eq_true_iff.2 ⟨rfl, ih⟩
  | emptyObject _ => rfl
  | object _ _ ih => exact Bool.and_eq_true_iff.2 ⟨rfl, ih⟩
  | lastItem _ _ ih => exact Bool.and_eq_true_iff.2 ⟨ih, rfl⟩
  | item _ _ _ _ ih ihs => exact Bool.and_eq_true_iff.2 ⟨ih, ihs⟩
  | lastMember _ _ _ ih => exact Bool.and_eq_true_iff.2 ⟨ih, rfl⟩
  | member _ _ _ _ _ ih ihs => exact Bool.and_eq_true_iff.2 ⟨ih, ihs⟩

/-! ## What is read -/

theorem isUnpairedNode_merge (v : Json) (h : isUnpairedNode v = true) :
    isUnpairedNode v.merge = true := by
  cases v with
  | obj members =>
    rw [isUnpairedNode, List.all_eq_true] at h
    rw [merge, isUnpairedNode, Entries.keys_ofList, keys_mergeMembers, List.all_eq_true]
    exact fun k hk => h k (List.mem_eraseDups.1 hk)
  | _ => exact h

theorem isCanonical_of_parse {t : Text} {v : Json} (h : parse t = .ok v) :
    v.isCanonical = true := by
  obtain ⟨raw, ⟨before, inner, after, -, hspells, -, rfl⟩, -, rfl⟩ := parse_eq_ok_iff.1 h
  exact all_merge (fun v hv => by cases v <;> exact hv) raw hspells.isCanonical

/-- A value that can be written in ASCII and read again: no pair stands in it, no integer has too
many digits, no key comes twice, and its doubles have their parts in their bounds. -/
structure IsPrintable (v : Json) : Prop where
  unpaired : v.isUnpaired = true
  readable : v.isReadable = true
  distinct : v.hasDistinctKeys = true
  canonical : v.isCanonical = true

/-- What is read of a text without surrogates can be written and read again. -/
theorem isPrintable_of_parse {t : Text} {v : Json} (h : parse t = .ok v) (ht : t.isScalar = true) :
    v.IsPrintable := by
  have hcanonical := isCanonical_of_parse h
  obtain ⟨raw, ⟨before, inner, after, -, hspells, -, rfl⟩, hreadable, rfl⟩ := parse_eq_ok_iff.1 h
  simp only [Text.isScalar_append, Bool.and_eq_true] at ht
  exact {
    unpaired := all_merge isUnpairedNode_merge raw (hspells.isUnpaired ht.2.1)
    readable := all_merge (fun v hv => by cases v <;> exact hv) raw hreadable
    distinct := hasDistinctKeys_merge raw
    canonical := hcanonical }

/-- Any value of a printable object is printable. -/
theorem IsPrintable.of_lookup {members : List (Text × Json)} (h : (Json.obj members).IsPrintable)
    {key : Text} {v : Json} (hv : members.lookup key = some v) : v.IsPrintable := by
  have hall {p : Json → Bool} (h : (Json.obj members).all p = true) : v.all p = true := by
    rw [all, Bool.and_eq_true] at h
    exact all_of_lookup h.2 hv
  exact ⟨hall h.unpaired, hall h.readable, hall h.distinct, hall h.canonical⟩

theorem isPrintable_text {t : Text} (h : t.isUnpaired = true) : (Json.text t).IsPrintable :=
  ⟨h, rfl, rfl, rfl⟩

/-- An object of printable values is printable if its keys are. -/
theorem isPrintable_obj {members : List (Text × Json)}
    (hkeys : (Entries.keys members).all Text.isUnpaired = true)
    (hnodup : (Entries.keys members).Nodup) (h : ∀ member ∈ members, member.2.IsPrintable) :
    (Json.obj members).IsPrintable where
  unpaired := Bool.and_eq_true_iff.2 ⟨hkeys, allMembers_of_forall fun m hm => (h m hm).unpaired⟩
  readable := Bool.and_eq_true_iff.2 ⟨rfl, allMembers_of_forall fun m hm => (h m hm).readable⟩
  distinct := Bool.and_eq_true_iff.2
    ⟨decide_eq_true hnodup, allMembers_of_forall fun m hm => (h m hm).distinct⟩
  canonical := Bool.and_eq_true_iff.2 ⟨rfl, allMembers_of_forall fun m hm => (h m hm).canonical⟩

/-- A printable value is read from what is written of it with blanks after it. -/
theorem IsPrintable.parse_render_append {v : Json} (h : v.IsPrintable) {s : Style}
    (hs : s.IsReadable) {blanks : Text} (hblanks : IsBlanks blanks) :
    parse (render s v ++ blanks) = .ok v := by
  rw [Json.parse_render_append hs h.readable (fun _ => h.unpaired) hblanks, merge_reread,
    merge_eq_self (fun _ hnodup => of_decide_eq_true hnodup) v h.distinct,
    reread_of_isCanonical v h.canonical]

end Json

/-- What is read of octets can be written and read again. -/
theorem Payload.isPrintable_of_decode {payload : Bytes} {e : Envelope}
    (h : decode payload = .ok e) : e.json.IsPrintable := by
  obtain ⟨t, htext, h⟩ := bind_eq_ok h
  obtain ⟨v, hvalue, h⟩ := bind_eq_ok h
  rw [Envelope.ofJson_eq_ok_iff.1 (mapError_eq_ok h)]
  exact Json.isPrintable_of_parse (mapError_eq_ok hvalue)
    (Utf8.decode_eq_ok_iff.1 (mapError_eq_ok htext)).1

end SignedSetup
