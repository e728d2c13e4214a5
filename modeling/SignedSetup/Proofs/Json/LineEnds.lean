import SignedSetup.Proofs.Json.Reading
import SignedSetup.Text.Lines

/-!
# The ends of lines do not matter

A file is read with one line feed for each end of a line. A carriage return can stand between the
tokens of a document only, where it is a blank as the line feed is, so a text is read as a value iff
it is so with its line ends normalized (`parse_normalizeNewlines`).

A text is cut where its normalized form is cut (`exists_append_of_normalizeNewlines`). The other
way round this holds wherever no line end is cut in two, which the grammar never does: between a
blank and what follows it stands the first character of a token.
-/

namespace SignedSetup

namespace Text

/-- The two characters that end lines. -/
abbrev carriageReturn : CodePoint := CodePoint.ofChar '\r'

@[inherit_doc carriageReturn]
abbrev lineFeed : CodePoint := CodePoint.ofChar '\n'

theorem normalizeNewlines_crlf (t : Text) :
    normalizeNewlines (carriageReturn :: lineFeed :: t) = lineFeed :: normalizeNewlines t := by
  rw [normalizeNewlines, if_pos rfl, if_pos rfl]

theorem normalizeNewlines_cr {t : Text} (h : t.head? ≠ some lineFeed) :
    normalizeNewlines (carriageReturn :: t) = lineFeed :: normalizeNewlines t := by
  cases t with
  | nil => rfl
  | cons d t =>
    have hd : d ≠ lineFeed := fun heq => h (congrArg some heq)
    rw [normalizeNewlines, if_pos rfl, if_neg hd]

theorem normalizeNewlines_cons {c : CodePoint} (h : c ≠ carriageReturn) (t : Text) :
    normalizeNewlines (c :: t) = c :: normalizeNewlines t := by
  cases t with
  | nil => exact if_neg h
  | cons d t => rw [normalizeNewlines, if_neg h]

/-- A text is read from its front: both characters of a line end, a carriage return alone, or
another character. -/
theorem newlines_induction {motive : Text → Prop} (nil : motive [])
    (crlf : ∀ t, motive t → motive (carriageReturn :: lineFeed :: t))
    (cr : ∀ t, t.head? ≠ some lineFeed → motive t → motive (carriageReturn :: t))
    (cons : ∀ c t, c ≠ carriageReturn → motive t → motive (c :: t)) (t : Text) : motive t := by
  induction h : t.length using Nat.strong_induction_on generalizing t with
  | _ n ih =>
    subst h
    match t with
    | [] => exact nil
    | c :: t =>
      by_cases hc : c = carriageReturn
      · subst hc
        by_cases hhead : t.head? = some lineFeed
        · obtain ⟨t, rfl⟩ := List.head?_eq_some_iff.1 hhead
          exact crlf t (ih _ (by simp only [List.length_cons]; omega) t rfl)
        · exact cr t hhead (ih _ (by simp) t rfl)
      · exact cons c t hc (ih _ (by simp) t rfl)

/-- A text without carriage returns stays as it is. -/
theorem normalizeNewlines_eq_self {t : Text} (h : carriageReturn ∉ t) :
    normalizeNewlines t = t := by
  induction t with
  | nil => rfl
  | cons c t ih =>
    rw [List.mem_cons, not_or] at h
    rw [normalizeNewlines_cons (Ne.symm h.1), ih h.2]

/-- A normalized text without line feeds is the text itself. -/
theorem eq_of_normalizeNewlines {t u : Text} (h : normalizeNewlines t = u) (hu : lineFeed ∉ u) :
    t = u := by
  induction t using newlines_induction generalizing u with
  | nil => exact h
  | crlf t _ =>
    rw [normalizeNewlines_crlf] at h
    exact absurd (h ▸ List.mem_cons_self) hu
  | cr t hhead _ =>
    rw [normalizeNewlines_cr hhead] at h
    exact absurd (h ▸ List.mem_cons_self) hu
  | cons c t hc ih =>
    rw [normalizeNewlines_cons hc] at h
    have ht : t = normalizeNewlines t := ih rfl fun hmem => hu (h ▸ List.mem_cons_of_mem _ hmem)
    rwa [← ht] at h

/-- Texts are normalized one by one, unless the two characters of a line end stand in both. -/
theorem normalizeNewlines_append {s t : Text}
    (h : s.getLast? ≠ some carriageReturn ∨ t.head? ≠ some lineFeed) :
    normalizeNewlines (s ++ t) = normalizeNewlines s ++ normalizeNewlines t := by
  have hlast {c : CodePoint} {s : Text}
      (h : (c :: s).getLast? ≠ some carriageReturn ∨ t.head? ≠ some lineFeed) :
      s.getLast? ≠ some carriageReturn ∨ t.head? ≠ some lineFeed := by
    refine h.imp_left fun h heq => h ?_
    rw [List.getLast?_cons, heq]
    rfl
  induction s using newlines_induction with
  | nil => rfl
  | crlf s ih =>
    rw [List.cons_append, List.cons_append, normalizeNewlines_crlf, normalizeNewlines_crlf,
      ih (hlast (hlast h)), List.cons_append]
  | cr s hhead ih =>
    have hcut : (s ++ t).head? ≠ some lineFeed := by
      cases s with
      | nil => exact h.resolve_left (fun h => h rfl)
      | cons c s => exact hhead
    rw [List.cons_append, normalizeNewlines_cr hcut, normalizeNewlines_cr hhead, ih (hlast h),
      List.cons_append]
  | cons c s hc ih =>
    rw [List.cons_append, normalizeNewlines_cons hc, normalizeNewlines_cons hc, ih (hlast h),
      List.cons_append]

/-- A text is cut where its normalized form is cut. -/
theorem exists_append_of_normalizeNewlines {t x y : Text} (h : normalizeNewlines t = x ++ y) :
    ∃ s u, t = s ++ u ∧ normalizeNewlines s = x ∧ normalizeNewlines u = y := by
  induction t using newlines_induction generalizing x with
  | nil =>
    obtain ⟨rfl, rfl⟩ := List.append_eq_nil_iff.1 (Eq.symm h)
    exact ⟨[], [], rfl, rfl, rfl⟩
  | crlf t ih =>
    rw [normalizeNewlines_crlf] at h
    cases x with
    | nil => exact ⟨[], _, rfl, rfl, (normalizeNewlines_crlf t).trans h⟩
    | cons c x =>
      rw [List.cons_append] at h
      obtain ⟨rfl, htail⟩ := List.cons.inj h
      obtain ⟨s, u, rfl, hs, hu⟩ := ih htail
      exact ⟨_ :: _ :: s, u, rfl, by rw [normalizeNewlines_crlf, hs], hu⟩
  | cr t hhead ih =>
    rw [normalizeNewlines_cr hhead] at h
    cases x with
    | nil => exact ⟨[], _, rfl, rfl, (normalizeNewlines_cr hhead).trans h⟩
    | cons c x =>
      rw [List.cons_append] at h
      obtain ⟨rfl, htail⟩ := List.cons.inj h
      obtain ⟨s, u, rfl, hs, hu⟩ := ih htail
      have hcut : s.head? ≠ some lineFeed := by
        cases s with
        | nil => exact nofun
        | cons d s => exact hhead
      exact ⟨_ :: s, u, rfl, by rw [normalizeNewlines_cr hcut, hs], hu⟩
  | cons c t hc ih =>
    rw [normalizeNewlines_cons hc] at h
    cases x with
    | nil => exact ⟨[], _, rfl, rfl, (normalizeNewlines_cons hc t).trans h⟩
    | cons d x =>
      rw [List.cons_append] at h
      obtain ⟨rfl, htail⟩ := List.cons.inj h
      obtain ⟨s, u, rfl, hs, hu⟩ := ih htail
      exact ⟨_ :: s, u, rfl, by rw [normalizeNewlines_cons hc, hs], hu⟩

theorem exists_cons_of_normalizeNewlines {t y : Text} {c : CodePoint}
    (h : normalizeNewlines t = c :: y) (hc : c ≠ lineFeed) :
    ∃ u, t = c :: u ∧ normalizeNewlines u = y := by
  obtain ⟨s, u, rfl, hs, hu⟩ := exists_append_of_normalizeNewlines (x := [c]) h
  have hs := eq_of_normalizeNewlines hs fun hmem => hc (List.mem_singleton.1 hmem).symm
  exact ⟨u, by rw [hs]; rfl, hu⟩

end Text

namespace Json

open Text

theorem isBlanks_normalizeNewlines (t : Text) : IsBlanks t.normalizeNewlines ↔ IsBlanks t := by
  induction t using newlines_induction with
  | nil => rfl
  | crlf t ih =>
    rw [normalizeNewlines_crlf, IsBlanks, IsBlanks, List.all_cons, List.all_cons, List.all_cons]
    exact ih
  | cr t hhead ih =>
    rw [normalizeNewlines_cr hhead, IsBlanks, IsBlanks, List.all_cons, List.all_cons]
    exact ih
  | cons c t hc ih =>
    rw [normalizeNewlines_cons hc, IsBlanks, IsBlanks, List.all_cons, List.all_cons]
    rw [IsBlanks, IsBlanks] at ih
    rw [Bool.and_eq_true, Bool.and_eq_true, ih]

/-! ## Tokens hold no line ends -/

/-- The character ends no line and is no part of what does. -/
def IsInline (c : CodePoint) : Prop := c ≠ carriageReturn ∧ c ≠ lineFeed

instance (c : CodePoint) : Decidable (IsInline c) := inferInstanceAs (Decidable (_ ∧ _))

theorem isInline_of_le {c : CodePoint} (h : 0x20 ≤ c.val) : IsInline c := by
  constructor
  · rintro rfl
    exact absurd h (by decide)
  · rintro rfl
    exact absurd h (by decide)

theorem isInline_of_hex {c : CodePoint} {n : Nat} (h : Hex.digit? c = some n) : IsInline c := by
  constructor
  · rintro rfl
    cases h
  · rintro rfl
    cases h

theorem isInline_of_spellsParts {ps : List Part} {t : Text} (h : SpellsParts ps t) :
    ∀ c ∈ t, IsInline c := by
  induction h with
  | nil => exact nofun
  | character _ _ hle _ ih => exact List.forall_mem_cons.2 ⟨isInline_of_le hle, ih⟩
  | @short c e ps t he _ ih =>
    have hletter : IsInline e := by
      constructor
      · rintro rfl
        cases he
      · rintro rfl
        cases he
    exact List.forall_mem_cons.2 ⟨by decide, List.forall_mem_cons.2 ⟨hletter, ih⟩⟩
  | @unit a b c d n ps t hn _ ih =>
    obtain ⟨m₁, ha, hn⟩ := Option.bind_eq_some_iff.1 hn
    obtain ⟨m₂, hb, hn⟩ := Option.bind_eq_some_iff.1 hn
    obtain ⟨m₃, hc, hn⟩ := Option.bind_eq_some_iff.1 hn
    obtain ⟨m₄, hd, -⟩ := Option.bind_eq_some_iff.1 hn
    simp only [List.forall_mem_cons]
    exact ⟨by decide, by decide, isInline_of_hex ha, isInline_of_hex hb, isInline_of_hex hc,
      isInline_of_hex hd, ih⟩

theorem isInline_of_spellsText {s t : Text} (h : SpellsText s t) : ∀ c ∈ t, IsInline c := by
  obtain ⟨ps, inner, hspells, -, rfl⟩ := h
  refine List.forall_mem_cons.2 ⟨by decide, fun c hc => ?_⟩
  rcases List.mem_append.1 hc with hc | hc
  · exact isInline_of_spellsParts hspells c hc
  · rw [List.mem_singleton.1 hc]
    decide

theorem isInline_of_spellsNumber {v : Json} {t : Text} (h : SpellsNumber v t) :
    ∀ c ∈ t, IsInline c := fun c hc =>
  isInline_of_le (val_of_isNumeric (List.all_eq_true.1 h.all_isNumeric c hc)).1

theorem isInline_of_mem_names {word : Text} {v : Json} (h : (word, v) ∈ names) :
    ∀ c ∈ word, IsInline c := by
  have hnames : (names.all fun wv => wv.1.all fun c => decide (0x20 ≤ c.val)) = true := rfl
  intro c hc
  have hword := List.all_eq_true.1 hnames _ h
  exact isInline_of_le (of_decide_eq_true (List.all_eq_true.1 hword c hc))

section Tokens

variable {t u : Text}

/-- A token is as it was before line ends were normalized. -/
theorem normalizeNewlines_of_isInline (h : ∀ c ∈ t, IsInline c) : t.normalizeNewlines = t :=
  normalizeNewlines_eq_self fun hmem => (h _ hmem).1 rfl

theorem eq_of_isInline (h : ∀ c ∈ u, IsInline c) (ht : t.normalizeNewlines = u) : t = u :=
  eq_of_normalizeNewlines ht fun hmem => (h _ hmem).2 rfl

end Tokens

/-! ## Phrases -/

/-- A value ends with a character of a token. -/
theorem Spells.getLast?_ne {v : Json} {t : Text} (h : Spells (.value v) t) :
    t.getLast? ≠ some carriageReturn := by
  have hinline {t : Text} (ht : ∀ c ∈ t, IsInline c) : t.getLast? ≠ some carriageReturn :=
    fun heq => (ht _ (List.mem_of_getLast? heq)).1 rfl
  have hclosed (c d : CodePoint) (a b : Text) (hd : d ≠ carriageReturn) :
      (c :: (a ++ (b ++ [d]))).getLast? ≠ some carriageReturn := by
    rw [← List.append_assoc, ← List.cons_append, List.getLast?_append]
    exact fun heq => hd (Option.some.inj heq)
  cases h with
  | name hmem => exact hinline (isInline_of_mem_names hmem)
  | number hnumber => exact hinline (isInline_of_spellsNumber hnumber)
  | text htext => exact hinline (isInline_of_spellsText htext)
  | emptyArray _ => exact hclosed _ _ [] _ (by decide)
  | array _ _ => exact hclosed _ _ _ _ (by decide)
  | emptyObject _ => exact hclosed _ _ [] _ (by decide)
  | object _ _ => exact hclosed _ _ _ _ (by decide)

/-- No phrase begins with a line feed. -/
theorem Spells.head?_append_ne {p : Phrase} {t : Text} (h : Spells p t) (rest : Text) :
    (t ++ rest).head? ≠ some lineFeed := by
  have hcons (c : CodePoint) (hc : c ≠ lineFeed) (u : Text) :
      (c :: u ++ rest).head? ≠ some lineFeed := fun heq => hc (Option.some.inj heq)
  have hbegins {c : CodePoint} (hc : BeginsValue c) : c ≠ lineFeed := by
    rintro rfl
    exact absurd hc.1 (by decide)
  match p, h with
  | .value _, h =>
    obtain ⟨c, u, rfl, hc⟩ := h.exists_cons
    exact hcons c (hbegins hc) u
  | .items _, h =>
    obtain ⟨c, u, rfl, hc⟩ := h.exists_cons_items
    exact hcons c (hbegins hc) u
  | .members _, h =>
    obtain ⟨u, rfl⟩ := h.exists_cons_members
    exact hcons _ (by decide) u

theorem Spells.head?_ne {p : Phrase} {t : Text} (h : Spells p t) : t.head? ≠ some lineFeed :=
  List.append_nil t ▸ h.head?_append_ne []

/-- Before a character that is no line feed a text can be cut. -/
theorem normalizeNewlines_append_cons (s : Text) {c : CodePoint} (hc : IsInline c) (t : Text) :
    Text.normalizeNewlines (s ++ c :: t) = s.normalizeNewlines ++ c :: t.normalizeNewlines := by
  have hcut : (c :: t).head? ≠ some lineFeed := fun heq => hc.2 (Option.some.inj heq)
  rw [normalizeNewlines_append (.inr hcut), normalizeNewlines_cons hc.1]

theorem spellsKey_normalizeNewlines {k t : Text} (h : SpellsKey k t) {rest : Text}
    (hrest : rest.head? ≠ some lineFeed) :
    ∃ key, SpellsKey k key ∧
      Text.normalizeNewlines (t ++ rest) = key ++ rest.normalizeNewlines := by
  obtain ⟨word, before, after, hword, hbefore, hafter, rfl⟩ := h
  have hinline := isInline_of_spellsText hword
  have hlast : word.getLast? ≠ some carriageReturn := fun heq =>
    (hinline _ (List.mem_of_getLast? heq)).1 rfl
  refine ⟨_, ⟨word, before.normalizeNewlines, after.normalizeNewlines, hword,
    (isBlanks_normalizeNewlines _).2 hbefore, (isBlanks_normalizeNewlines _).2 hafter, rfl⟩, ?_⟩
  rw [List.append_assoc, List.append_assoc, List.cons_append, normalizeNewlines_append (.inl hlast),
    normalizeNewlines_of_isInline hinline, normalizeNewlines_append_cons _ (by decide),
    normalizeNewlines_append (.inr hrest)]
  simp only [List.append_assoc, List.cons_append]

/-- A phrase with its line ends normalized spells what it spelled. -/
theorem Spells.normalizeNewlines {p : Phrase} {t : Text} (h : Spells p t) :
    Spells p t.normalizeNewlines := by
  have hblank {t : Text} (h : IsBlanks t) : IsBlanks t.normalizeNewlines :=
    (isBlanks_normalizeNewlines t).2 h
  induction h with
  | name hmem =>
    rw [normalizeNewlines_of_isInline (isInline_of_mem_names hmem)]
    exact .name hmem
  | number hnumber =>
    rw [normalizeNewlines_of_isInline (isInline_of_spellsNumber hnumber)]
    exact .number hnumber
  | text htext =>
    rw [normalizeNewlines_of_isInline (isInline_of_spellsText htext)]
    exact .text htext
  | emptyArray hblanks =>
    rw [normalizeNewlines_cons (by decide), normalizeNewlines_append_cons _ (by decide)]
    exact .emptyArray (hblank hblanks)
  | array hblanks hitems ih =>
    rw [normalizeNewlines_cons (by decide),
      normalizeNewlines_append (.inr (hitems.head?_append_ne _)),
      normalizeNewlines_append_cons _ (by decide)]
    exact .array (hblank hblanks) ih
  | emptyObject hblanks =>
    rw [normalizeNewlines_cons (by decide), normalizeNewlines_append_cons _ (by decide)]
    exact .emptyObject (hblank hblanks)
  | object hblanks hmembers ih =>
    rw [normalizeNewlines_cons (by decide),
      normalizeNewlines_append (.inr (hmembers.head?_append_ne _)),
      normalizeNewlines_append_cons _ (by decide)]
    exact .object (hblank hblanks) ih
  | lastItem hvalue hblanks ih =>
    rw [normalizeNewlines_append (.inl hvalue.getLast?_ne)]
    exact .lastItem ih (hblank hblanks)
  | item hvalue hbefore hafter hitems ih ihs =>
    rw [normalizeNewlines_append (.inl hvalue.getLast?_ne),
      normalizeNewlines_append_cons _ (by decide), normalizeNewlines_append (.inr hitems.head?_ne)]
    exact .item ih (hblank hbefore) (hblank hafter) ihs
  | lastMember hkey hvalue hblanks ih =>
    obtain ⟨key, hkey', heq⟩ := spellsKey_normalizeNewlines hkey (hvalue.head?_append_ne _)
    rw [heq, normalizeNewlines_append (.inl hvalue.getLast?_ne)]
    exact .lastMember hkey' ih (hblank hblanks)
  | member hkey hvalue hbefore hafter hmembers ih ihs =>
    obtain ⟨key, hkey', heq⟩ := spellsKey_normalizeNewlines hkey (hvalue.head?_append_ne _)
    rw [heq, normalizeNewlines_append (.inl hvalue.getLast?_ne),
      normalizeNewlines_append_cons _ (by decide),
      normalizeNewlines_append (.inr hmembers.head?_ne)]
    exact .member hkey' ih (hblank hbefore) (hblank hafter) ihs

/-- What spells a key with its line ends normalized spells it. -/
theorem spellsKey_of_normalizeNewlines {k t : Text} (h : SpellsKey k t.normalizeNewlines) :
    SpellsKey k t := by
  obtain ⟨word, before, after, hword, hbefore, hafter, heq⟩ := h
  obtain ⟨t₁, rest, rfl, ht₁, hcut₁⟩ := exists_append_of_normalizeNewlines heq
  obtain ⟨t₂, rest, rfl, rfl, hcut₂⟩ := exists_append_of_normalizeNewlines hcut₁
  obtain ⟨t₃, rfl, rfl⟩ := exists_cons_of_normalizeNewlines hcut₂ (by decide)
  rw [eq_of_isInline (isInline_of_spellsText hword) ht₁]
  exact ⟨word, t₂, t₃, hword, (isBlanks_normalizeNewlines _).1 hbefore,
    (isBlanks_normalizeNewlines _).1 hafter, rfl⟩

/-- A text is closed as its normalized form is. -/
theorem exists_closed_of_normalizeNewlines {a b : CodePoint} (ha : IsInline a) (hb : IsInline b)
    {t x : Text} (h : t.normalizeNewlines = a :: (x ++ [b])) :
    ∃ u : Text, t = a :: (u ++ [b]) ∧ u.normalizeNewlines = x := by
  obtain ⟨t, rfl, hcut⟩ := exists_cons_of_normalizeNewlines h ha.2
  obtain ⟨u, closing, rfl, hu, hclosing⟩ := exists_append_of_normalizeNewlines hcut
  have hinline : ∀ c ∈ [b], IsInline c := List.forall_mem_singleton.2 hb
  exact ⟨u, by rw [eq_of_isInline hinline hclosing], hu⟩

/-- A phrase spells what it spells with its line ends normalized. -/
theorem Spells.of_normalizeNewlines {p : Phrase} {u : Text} (h : Spells p u) :
    ∀ t : Text, t.normalizeNewlines = u → Spells p t := by
  have hblank {t : Text} (h : IsBlanks t.normalizeNewlines) : IsBlanks t :=
    (isBlanks_normalizeNewlines t).1 h
  -- The text is cut as its normalized form is, and each token in it is as it was.
  induction h with
  | name hmem =>
    intro t ht
    rw [eq_of_isInline (isInline_of_mem_names hmem) ht]
    exact .name hmem
  | number hnumber =>
    intro t ht
    rw [eq_of_isInline (isInline_of_spellsNumber hnumber) ht]
    exact .number hnumber
  | text htext =>
    intro t ht
    rw [eq_of_isInline (isInline_of_spellsText htext) ht]
    exact .text htext
  | emptyArray hblanks =>
    intro t ht
    obtain ⟨u, rfl, rfl⟩ := exists_closed_of_normalizeNewlines (by decide) (by decide) ht
    exact .emptyArray (hblank hblanks)
  | array hblanks _ ih =>
    intro t ht
    rw [← List.append_assoc] at ht
    obtain ⟨u, rfl, hu⟩ := exists_closed_of_normalizeNewlines (by decide) (by decide) ht
    obtain ⟨t₁, t₂, rfl, rfl, rfl⟩ := exists_append_of_normalizeNewlines hu
    rw [List.append_assoc]
    exact .array (hblank hblanks) (ih t₂ rfl)
  | emptyObject hblanks =>
    intro t ht
    obtain ⟨u, rfl, rfl⟩ := exists_closed_of_normalizeNewlines (by decide) (by decide) ht
    exact .emptyObject (hblank hblanks)
  | object hblanks _ ih =>
    intro t ht
    rw [← List.append_assoc] at ht
    obtain ⟨u, rfl, hu⟩ := exists_closed_of_normalizeNewlines (by decide) (by decide) ht
    obtain ⟨t₁, t₂, rfl, rfl, rfl⟩ := exists_append_of_normalizeNewlines hu
    rw [List.append_assoc]
    exact .object (hblank hblanks) (ih t₂ rfl)
  | lastItem _ hblanks ih =>
    intro t ht
    obtain ⟨t₁, t₂, rfl, rfl, rfl⟩ := exists_append_of_normalizeNewlines ht
    exact .lastItem (ih t₁ rfl) (hblank hblanks)
  | item _ hbefore hafter _ ih ihs =>
    intro t ht
    obtain ⟨t₁, t, rfl, rfl, hcut₁⟩ := exists_append_of_normalizeNewlines ht
    obtain ⟨t₂, t, rfl, rfl, hcut₂⟩ := exists_append_of_normalizeNewlines hcut₁
    obtain ⟨t, rfl, hcut₃⟩ := exists_cons_of_normalizeNewlines hcut₂ (by decide)
    obtain ⟨t₃, t₄, rfl, rfl, rfl⟩ := exists_append_of_normalizeNewlines hcut₃
    exact .item (ih t₁ rfl) (hblank hbefore) (hblank hafter) (ihs t₄ rfl)
  | lastMember hkey _ hblanks ih =>
    intro t ht
    obtain ⟨t₁, t, rfl, rfl, hcut₁⟩ := exists_append_of_normalizeNewlines ht
    obtain ⟨t₂, t₃, rfl, rfl, rfl⟩ := exists_append_of_normalizeNewlines hcut₁
    exact .lastMember (spellsKey_of_normalizeNewlines hkey) (ih t₂ rfl) (hblank hblanks)
  | member hkey _ hbefore hafter _ ih ihs =>
    intro t ht
    obtain ⟨t₁, t, rfl, rfl, hcut₁⟩ := exists_append_of_normalizeNewlines ht
    obtain ⟨t₂, t, rfl, rfl, hcut₂⟩ := exists_append_of_normalizeNewlines hcut₁
    obtain ⟨t₃, t, rfl, rfl, hcut₃⟩ := exists_append_of_normalizeNewlines hcut₂
    obtain ⟨t, rfl, hcut₄⟩ := exists_cons_of_normalizeNewlines hcut₃ (by decide)
    obtain ⟨t₄, t₅, rfl, rfl, rfl⟩ := exists_append_of_normalizeNewlines hcut₄
    exact .member (spellsKey_of_normalizeNewlines hkey) (ih t₂ rfl) (hblank hbefore)
      (hblank hafter) (ihs t₅ rfl)

/-! ## Documents -/

theorem isDocument_normalizeNewlines {v : Json} {t : Text} :
    IsDocument v t.normalizeNewlines ↔ IsDocument v t := by
  constructor
  · rintro ⟨before, inner, after, hbefore, hspells, hafter, ht⟩
    obtain ⟨t₁, t, rfl, rfl, hcut₁⟩ := exists_append_of_normalizeNewlines ht
    obtain ⟨t₂, t₃, rfl, rfl, rfl⟩ := exists_append_of_normalizeNewlines hcut₁
    exact ⟨t₁, t₂, t₃, (isBlanks_normalizeNewlines _).1 hbefore,
      hspells.of_normalizeNewlines t₂ rfl, (isBlanks_normalizeNewlines _).1 hafter, rfl⟩
  · rintro ⟨before, inner, after, hbefore, hspells, hafter, rfl⟩
    refine ⟨_, _, _, (isBlanks_normalizeNewlines before).2 hbefore, hspells.normalizeNewlines,
      (isBlanks_normalizeNewlines after).2 hafter, ?_⟩
    rw [normalizeNewlines_append (.inr (hspells.head?_append_ne _)),
      normalizeNewlines_append (.inl hspells.getLast?_ne)]

/-- A text with its line ends normalized is read as a value iff the text itself is. -/
theorem parse_normalizeNewlines {t : Text} {v : Json} :
    parse t.normalizeNewlines = .ok v ↔ parse t = .ok v := by
  simp only [parse_eq_ok_iff, isDocument_normalizeNewlines]

end Json

end SignedSetup
