import SignedSetup.Proofs.Json.NumberReading
import SignedSetup.Proofs.Json.Strings

/-!
# Texts are read as the grammar has them

The reader accepts exactly the documents of the grammar that hold no integer of too many digits, and
gives what they spell with members of equal keys merged (`parse_eq_ok_iff`). Each reader is shown to
take nothing but its phrase, and to take it whole wherever what follows ends it; for the other
direction the induction is on the grammar.
-/

namespace SignedSetup

theorem Text.dropWord?_eq_some {word t rest : Text} (h : dropWord? word t = some rest) :
    t = word ++ rest := by
  induction word generalizing t with
  | nil => exact Option.some.inj h
  | cons a word ih =>
    cases t with
    | nil => cases h
    | cons b t =>
      rw [dropWord?] at h
      split at h
      · next hab => rw [hab, ih h, List.cons_append]
      · cases h

namespace Json

/-! ## Blanks -/

theorem exists_isBlanks (t : Text) : ∃ blanks, IsBlanks blanks ∧ t = blanks ++ skipBlanks t :=
  ⟨t.takeWhile isBlank, List.all_takeWhile, List.takeWhile_append_dropWhile.symm⟩

theorem endsNumber_blanks {t : Text} (h : IsBlanks t) : EndsNumber t := by
  cases t with
  | nil => trivial
  | cons c t =>
    have hc : [c].all isBlank = true := by
      rw [IsBlanks, List.all_cons, Bool.and_eq_true] at h
      rw [List.all_cons, h.1]
      rfl
    have hends : EndsNumber (CodePoint.ofChar ',' :: []) :=
      ⟨by decide, by decide, by decide, by decide⟩
    exact endsNumber_append hc hends

/-! ## Strings -/

theorem parts_unit {opening n : Nat} {a b c d : CodePoint} {rest tail : Text} {ps : List Part}
    (hn : unit? a b c d = some n) (h : parts opening rest = .ok (ps, tail)) :
    parts opening (CodePoint.ofChar '\\' :: CodePoint.ofChar 'u' :: a :: b :: c :: d :: rest) =
      .ok (.unit n :: ps, tail) := by
  obtain ⟨next, rest, rfl⟩ := List.exists_cons_of_ne_nil (ne_nil_of_parts_eq_ok h)
  rw [parts, if_neg (by decide), if_pos rfl]
  simp only [if_true, hn, h]
  rfl

/-- Whatever is read as the parts of a string spells them, up to a closing quote. -/
theorem parts_eq_ok {opening : Nat} {t rest : Text} {ps : List Part}
    (h : parts opening t = .ok (ps, rest)) :
    ∃ inner, t = inner ++ CodePoint.ofChar '"' :: rest ∧ SpellsParts ps inner := by
  fun_induction parts opening t generalizing ps with
  | case1 => cases h
  | case2 t =>
    obtain ⟨rfl, rfl⟩ := Prod.mk.inj (Except.ok.inj h)
    exact ⟨[], rfl, .nil⟩
  | case3 _ => cases h
  | case4 a b c d next t n hn _ ih =>
    obtain ⟨⟨qs, after⟩, hread, h⟩ := bind_eq_ok h
    obtain ⟨rfl, rfl⟩ := Prod.mk.inj (Except.ok.inj h)
    obtain ⟨inner, hinner, hspells⟩ := ih hread
    exact ⟨_, by rw [hinner]; rfl, .unit hn hspells⟩
  | case5 a b c d next t hn _ => cases h
  | case6 t hshort _ => cases h
  | case7 e t hu c he _ ih =>
    obtain ⟨⟨qs, after⟩, hread, h⟩ := bind_eq_ok h
    obtain ⟨rfl, rfl⟩ := Prod.mk.inj (Except.ok.inj h)
    obtain ⟨inner, hinner, hspells⟩ := ih hread
    exact ⟨_, by rw [hinner]; rfl, .short he hspells⟩
  | case8 e t hu he _ => cases h
  | case9 c t hquote hslash hcontrol => cases h
  | case10 c t hquote hslash hcontrol ih =>
    obtain ⟨⟨qs, after⟩, hread, h⟩ := bind_eq_ok h
    obtain ⟨rfl, rfl⟩ := Prod.mk.inj (Except.ok.inj h)
    obtain ⟨inner, rfl, hspells⟩ := ih hread
    exact ⟨c :: inner, rfl, .character hquote hslash (Nat.le_of_not_lt hcontrol) hspells⟩

theorem parts_append {ps : List Part} {inner : Text} (h : SpellsParts ps inner) (opening : Nat)
    (rest : Text) : parts opening (inner ++ CodePoint.ofChar '"' :: rest) = .ok (ps, rest) := by
  induction h with
  | nil =>
    rw [List.nil_append, parts.eq_def]
    simp only [if_true]
  | character hquote hslash hcontrol _ ih =>
    exact parts_character hquote hslash (Nat.not_lt.2 hcontrol) ih
  | short he _ ih => exact parts_shortEscape he ih
  | unit hn _ ih => exact parts_unit hn ih

theorem string_eq_ok {opening : Nat} {t rest s : Text} (h : string opening t = .ok (s, rest)) :
    ∃ word, CodePoint.ofChar '"' :: t = word ++ rest ∧ SpellsText s word := by
  obtain ⟨⟨ps, after⟩, hparts, h⟩ := bind_eq_ok h
  obtain ⟨rfl, rfl⟩ := Prod.mk.inj (Except.ok.inj h)
  obtain ⟨inner, rfl, hspells⟩ := parts_eq_ok hparts
  exact ⟨_, by simp, ps, inner, hspells, rfl, rfl⟩

theorem string_append {s word : Text} (h : SpellsText s word) :
    ∃ inner, word = CodePoint.ofChar '"' :: inner ∧
      ∀ opening rest, string opening (inner ++ rest) = .ok (s, rest) := by
  obtain ⟨ps, inner, hspells, rfl, rfl⟩ := h
  refine ⟨_, rfl, fun opening rest => ?_⟩
  rw [string, List.append_assoc, List.singleton_append, parts_append hspells, ok_bind]
  rfl

/-! ## Names -/

theorem name?_eq_some {t rest : Text} {v : Json} (h : name? t = some (v, rest)) :
    ∃ word, (word, v) ∈ names ∧ t = word ++ rest := by
  obtain ⟨⟨word, u⟩, hmem, hword⟩ := List.exists_of_findSome?_eq_some h
  obtain ⟨after, hdrop, hpair⟩ := Option.map_eq_some_iff.1 hword
  obtain ⟨rfl, rfl⟩ := Prod.mk.inj hpair
  exact ⟨word, hmem, Text.dropWord?_eq_some hdrop⟩

/-! ## Only values are read -/

/-- A reader takes nothing but values without integers of too many digits, and merges members of
equal keys. -/
def TakesValues (reader : Text → Except Stop (Json × Text)) : Prop :=
  ∀ {t rest : Text} {v : Json}, reader t = .ok (v, rest) →
    ∃ raw spelled, t = spelled ++ rest ∧ Spells (.value raw) spelled ∧ raw.isReadable = true ∧
      raw.merge = v

theorem key_eq_ok {t rest k : Text} (h : key t = .ok (k, rest)) :
    ∃ word, t = word ++ rest ∧ SpellsKey k word := by
  cases t with
  | nil => cases h
  | cons c t =>
    rw [key] at h
    split at h
    · next hc =>
      obtain ⟨⟨s, u⟩, hstring, h⟩ := bind_eq_ok h
      obtain ⟨word, hword, htext⟩ := string_eq_ok hstring
      obtain ⟨before, hbefore, hu⟩ := exists_isBlanks u
      dsimp only at h
      split at h
      · cases h
      · next d after hskip =>
        split at h
        · next hd =>
          obtain ⟨rfl, rfl⟩ := Prod.mk.inj (Except.ok.inj h)
          obtain ⟨blanks, hblanks, hafter⟩ := exists_isBlanks after
          refine ⟨_, ?_, word, before, blanks, htext, hbefore, hblanks, rfl⟩
          rw [hc, hword, hu, hskip, hd]
          simp [← hafter]
        · cases h
    · cases h

section Readers

variable {reader : Text → Except Stop (Json × Text)} (hreader : TakesValues reader)
include hreader

theorem items_eq_ok {fuel : Nat} {t rest : Text} {vs : List Json}
    (h : items reader fuel t = .ok (vs, rest)) :
    ∃ raws spelled, t = spelled ++ CodePoint.ofChar ']' :: rest ∧ Spells (.items raws) spelled ∧
      allItems isReadableNode raws = true ∧ mergeItems raws = vs := by
  induction fuel generalizing t vs with
  | zero => cases h
  | succ fuel ih =>
    obtain ⟨⟨v, u⟩, hitem, h⟩ := bind_eq_ok h
    obtain ⟨raw, spelled, rfl, hspells, hreadable, rfl⟩ := hreader hitem
    obtain ⟨before, hbefore, hu⟩ := exists_isBlanks u
    dsimp only at h
    split at h
    · cases h
    · next c after hskip =>
      split at h
      · next hc =>
        obtain ⟨rfl, rfl⟩ := Prod.mk.inj (Except.ok.inj h)
        refine ⟨[raw], spelled ++ before, ?_, .lastItem hspells hbefore, ?_, rfl⟩
        · rw [hu, hskip, hc, List.append_assoc]
        · exact Bool.and_eq_true_iff.2 ⟨hreadable, rfl⟩
      · split at h
        · next hc =>
          obtain ⟨⟨vs, w⟩, hitems, h⟩ := bind_eq_ok h
          obtain ⟨rfl, rfl⟩ := Prod.mk.inj (Except.ok.inj h)
          obtain ⟨raws, tail, htail, hspellsTail, hreadableTail, rfl⟩ := ih hitems
          obtain ⟨blanks, hblanks, hafter⟩ := exists_isBlanks after
          refine ⟨raw :: raws, _, ?_, .item hspells hbefore hblanks hspellsTail, ?_, rfl⟩
          · rw [hu, hskip, hc, hafter, htail]
            simp
          · exact Bool.and_eq_true_iff.2 ⟨hreadable, hreadableTail⟩
        · cases h

theorem members_eq_ok {fuel : Nat} {t rest : Text} {ms : List (Text × Json)}
    (h : members reader fuel t = .ok (ms, rest)) :
    ∃ raws spelled, t = spelled ++ CodePoint.ofChar '\x7d' :: rest ∧
      Spells (.members raws) spelled ∧ allMembers isReadableNode raws = true ∧
        mergeMembers raws = ms := by
  induction fuel generalizing t ms with
  | zero => cases h
  | succ fuel ih =>
    obtain ⟨⟨k, w⟩, hkey, h⟩ := bind_eq_ok h
    obtain ⟨⟨v, u⟩, hvalue, h⟩ := bind_eq_ok h
    obtain ⟨word, ht, hspellsKey⟩ := key_eq_ok hkey
    obtain ⟨raw, spelled, hw, hspells, hreadable, rfl⟩ := hreader hvalue
    rw [hw] at ht
    obtain ⟨before, hbefore, hu⟩ := exists_isBlanks u
    dsimp only at h
    split at h
    · cases h
    · next c after hskip =>
      split at h
      · next hc =>
        obtain ⟨rfl, rfl⟩ := Prod.mk.inj (Except.ok.inj h)
        refine ⟨[(k, raw)], _, ?_, .lastMember hspellsKey hspells hbefore, ?_, rfl⟩
        · rw [ht, hu, hskip, hc]
          simp
        · exact Bool.and_eq_true_iff.2 ⟨hreadable, rfl⟩
      · split at h
        · next hc =>
          obtain ⟨⟨ms, w⟩, hmembers, h⟩ := bind_eq_ok h
          obtain ⟨rfl, rfl⟩ := Prod.mk.inj (Except.ok.inj h)
          obtain ⟨raws, tail, htail, hspellsTail, hreadableTail, rfl⟩ := ih hmembers
          obtain ⟨blanks, hblanks, hafter⟩ := exists_isBlanks after
          refine ⟨(k, raw) :: raws, _, ?_,
            .member hspellsKey hspells hbefore hblanks hspellsTail, ?_, rfl⟩
          · rw [ht, hu, hskip, hc, hafter, htail]
            simp
          · exact Bool.and_eq_true_iff.2 ⟨hreadable, hreadableTail⟩
        · cases h

theorem array_eq_ok {t rest : Text} {v : Json} (h : array reader t = .ok (v, rest)) :
    ∃ raw spelled, CodePoint.ofChar '[' :: t = spelled ++ rest ∧ Spells (.value raw) spelled ∧
      raw.isReadable = true ∧ raw.merge = v := by
  obtain ⟨blanks, hblanks, ht⟩ := exists_isBlanks t
  rw [array] at h
  split at h
  · cases h
  · next c after hskip =>
    rw [hskip] at ht
    split at h
    · next hc =>
      obtain ⟨rfl, rfl⟩ := Prod.mk.inj (Except.ok.inj h)
      refine ⟨.arr [], _, ?_, .emptyArray hblanks, rfl, rfl⟩
      rw [ht, hc]
      simp
    · obtain ⟨⟨vs, w⟩, hitems, h⟩ := bind_eq_ok h
      obtain ⟨rfl, rfl⟩ := Prod.mk.inj (Except.ok.inj h)
      obtain ⟨raws, spelled, hspelled, hspells, hreadable, rfl⟩ := items_eq_ok hreader hitems
      refine ⟨.arr raws, _, ?_, .array hblanks hspells, ?_, rfl⟩
      · rw [ht, hspelled]
        simp
      · exact Bool.and_eq_true_iff.2 ⟨rfl, hreadable⟩

theorem object_eq_ok {t rest : Text} {v : Json} (h : object reader t = .ok (v, rest)) :
    ∃ raw spelled, CodePoint.ofChar '\x7b' :: t = spelled ++ rest ∧ Spells (.value raw) spelled ∧
      raw.isReadable = true ∧ raw.merge = v := by
  obtain ⟨blanks, hblanks, ht⟩ := exists_isBlanks t
  rw [object] at h
  split at h
  · cases h
  · next c after hskip =>
    rw [hskip] at ht
    split at h
    · next hc =>
      obtain ⟨rfl, rfl⟩ := Prod.mk.inj (Except.ok.inj h)
      refine ⟨.obj [], _, ?_, .emptyObject hblanks, rfl, rfl⟩
      rw [ht, hc]
      simp
    · obtain ⟨⟨ms, w⟩, hmembers, h⟩ := bind_eq_ok h
      obtain ⟨rfl, rfl⟩ := Prod.mk.inj (Except.ok.inj h)
      obtain ⟨raws, spelled, hspelled, hspells, hreadable, rfl⟩ := members_eq_ok hreader hmembers
      refine ⟨.obj raws, _, ?_, .object hblanks hspells, ?_, rfl⟩
      · rw [ht, hspelled]
        simp
      · exact Bool.and_eq_true_iff.2 ⟨rfl, hreadable⟩

end Readers

theorem takesValues_value (depth : Nat) : TakesValues (value depth) := by
  induction depth with
  | zero => exact fun h => by cases h
  | succ depth ih =>
    intro t rest v h
    cases t with
    | nil => cases h
    | cons c t =>
      rw [value] at h
      split at h
      · next hc =>
        obtain ⟨⟨s, u⟩, hstring, h⟩ := bind_eq_ok h
        obtain ⟨rfl, rfl⟩ := Prod.mk.inj (Except.ok.inj h)
        obtain ⟨word, hword, htext⟩ := string_eq_ok hstring
        exact ⟨.text s, word, hc ▸ hword, .text htext, rfl, rfl⟩
      · split at h
        · next hc => exact hc ▸ array_eq_ok ih h
        · split at h
          · next hc => exact hc ▸ object_eq_ok ih h
          · split at h
            · next r hname =>
              have hsome := hname.trans (congrArg some (Except.ok.inj h))
              obtain ⟨word, hmem, hword⟩ := name?_eq_some hsome
              refine ⟨v, word, hword, .name hmem, ?_⟩
              have hplain : ∀ wv ∈ names, wv.2.isReadable = true ∧ wv.2.merge = wv.2 := by
                intro wv hwv
                simp only [names, List.mem_cons, List.not_mem_nil, or_false] at hwv
                rcases hwv with rfl | rfl | rfl | rfl | rfl | rfl <;> exact ⟨rfl, rfl⟩
              exact hplain _ hmem
            · obtain ⟨spelled, hspelled, hspells, hreadable⟩ := number_eq_ok h
              refine ⟨v, spelled, hspelled, .number hspells, ?_⟩
              cases hspells <;> exact ⟨hreadable, rfl⟩

/-! ## All values are read -/

theorem name?_of_number {v : Json} {t : Text} (h : SpellsNumber v t) (rest : Text) :
    name? (t ++ rest) = none := by
  obtain ⟨negative, c, u, rfl, hc⟩ := h.exists_cons
  cases negative with
  | false => exact name?_digit_cons hc _
  | true => exact name?_minus_cons hc _

theorem value_of_number {v : Json} {t rest : Text} (h : SpellsNumber v t)
    (hreadable : isReadableNode v = true) (fuel : Nat) (hrest : EndsNumber rest) :
    value (fuel + 1) (t ++ rest) = .ok (v, rest) := by
  have hname := name?_of_number h rest
  have hnumber := number_append h hreadable hrest
  have hhead : ∃ c u, t = c :: u ∧ c ≠ '"' ∧ c ≠ '[' ∧ c ≠ '\x7b' := by
    obtain ⟨negative, c, u, rfl, hc⟩ := h.exists_cons
    cases negative with
    | false => refine ⟨c, u, rfl, ?_, ?_, ?_⟩ <;> rintro rfl <;> cases hc
    | true => exact ⟨_, c :: u, rfl, by decide, by decide, by decide⟩
  obtain ⟨c, u, rfl, hquote, hbracket, hbrace⟩ := hhead
  rw [List.cons_append] at hname hnumber ⊢
  simp only [value, hquote, hbracket, hbrace, if_false, hname, hnumber]

/-- An integer of too many digits stops the reader. -/
theorem value_of_overlong {ws rest : Text} (h : IsWhole ws) (hlong : Decimal.limit < ws.length)
    (fuel : Nat) (hrest : EndsNumber rest) :
    value (fuel + 1) (ws ++ rest) = .error (.tooLong ⟨ws.length⟩) := by
  have hread : Decimal.read ws = .error ⟨ws.length⟩ := if_neg (Nat.not_le_of_lt hlong)
  have hnumber : number (ws ++ rest) = .error (.tooLong ⟨ws.length⟩) := by
    have hsplit := number_minusSign false h hrest.endsDigits
    rw [afterWhole_of_integer (fraction_of_endsNumber hrest) (power?_of_endsNumber hrest),
      hread] at hsplit
    exact hsplit
  obtain ⟨c, ds, rfl, hc⟩ := h.isDigits.exists_cons
  have hname : name? (c :: (ds ++ rest)) = none := name?_digit_cons hc _
  have hne : c ≠ '"' ∧ c ≠ '[' ∧ c ≠ '\x7b' := by
    refine ⟨?_, ?_, ?_⟩ <;> rintro rfl <;> cases hc
  rw [List.cons_append] at hnumber ⊢
  simp only [value, hne.1, hne.2.1, hne.2.2, if_false, hname, hnumber]

theorem key_append {k word rest : Text} (h : SpellsKey k word) (hrest : skipBlanks rest = rest) :
    key (word ++ rest) = .ok (k, rest) := by
  obtain ⟨word, before, after, htext, hbefore, hafter, rfl⟩ := h
  obtain ⟨inner, rfl, hstring⟩ := string_append htext
  have hskip : skipBlanks (before ++ CodePoint.ofChar ':' :: (after ++ rest)) =
      CodePoint.ofChar ':' :: (after ++ rest) := by
    rw [skipBlanks_append hbefore, skipBlanks_cons (by decide)]
  simp only [List.cons_append, List.append_assoc, key, if_true, hstring, bind, Except.bind, hskip,
    skipBlanks_append hafter, hrest]
  rfl

/-- The reader of a phrase takes its text whole, wherever what follows ends it. -/
def IsRead : Phrase → Text → Prop
  | .value v, t => v.isReadable = true → ∀ fuel rest, EndsNumber rest → t.length < fuel →
      value fuel (t ++ rest) = .ok (v.merge, rest)
  | .items vs, t => allItems isReadableNode vs = true → ∀ fuel count rest, t.length < fuel →
      t.length < count →
        items (value fuel) count (t ++ CodePoint.ofChar ']' :: rest) = .ok (mergeItems vs, rest)
  | .members ms, t => allMembers isReadableNode ms = true → ∀ fuel count rest, t.length < fuel →
      t.length < count →
        members (value fuel) count (t ++ CodePoint.ofChar '\x7d' :: rest) =
          .ok (mergeMembers ms, rest)

theorem isRead_array {blanks t : Text} {vs : List Json} (hblanks : IsBlanks blanks)
    (hspells : Spells (.items vs) t) (ih : IsRead (.items vs) t) :
    IsRead (.value (.arr vs))
      (CodePoint.ofChar '[' :: (blanks ++ (t ++ [CodePoint.ofChar ']']))) := by
  intro hreadable fuel rest _ hfuel
  obtain ⟨fuel, rfl⟩ := Nat.exists_eq_succ_of_ne_zero (Nat.ne_zero_of_lt hfuel)
  simp only [List.length_cons, List.length_append, List.length_nil] at hfuel
  rw [isReadable, all, Bool.and_eq_true] at hreadable
  obtain ⟨c, u, hc, hbegins⟩ := hspells.exists_cons_items
  have hskip : skipBlanks (blanks ++ (t ++ CodePoint.ofChar ']' :: rest)) =
      t ++ CodePoint.ofChar ']' :: rest := by
    rw [skipBlanks_append hblanks, hc, List.cons_append, skipBlanks_cons hbegins.1]
  have hitems := ih hreadable.2 fuel
    (t ++ CodePoint.ofChar ']' :: rest).length rest (by omega) (by simp)
  have harray : array (value fuel) (blanks ++ (t ++ CodePoint.ofChar ']' :: rest)) =
      .ok (.arr (mergeItems vs), rest) :=
    array_of_items hskip ⟨c, u ++ CodePoint.ofChar ']' :: rest, by rw [hc, List.cons_append],
      hbegins.2.1⟩ hitems
  simp only [List.cons_append, List.append_assoc, List.nil_append]
  exact harray

theorem isRead_object {blanks t : Text} {ms : List (Text × Json)} (hblanks : IsBlanks blanks)
    (hspells : Spells (.members ms) t) (ih : IsRead (.members ms) t) :
    IsRead (.value (.obj ms))
      (CodePoint.ofChar '\x7b' :: (blanks ++ (t ++ [CodePoint.ofChar '\x7d']))) := by
  intro hreadable fuel rest _ hfuel
  obtain ⟨fuel, rfl⟩ := Nat.exists_eq_succ_of_ne_zero (Nat.ne_zero_of_lt hfuel)
  simp only [List.length_cons, List.length_append, List.length_nil] at hfuel
  rw [isReadable, all, Bool.and_eq_true] at hreadable
  obtain ⟨u, hu⟩ := hspells.exists_cons_members
  have hskip : skipBlanks (blanks ++ (t ++ CodePoint.ofChar '\x7d' :: rest)) =
      t ++ CodePoint.ofChar '\x7d' :: rest := by
    rw [skipBlanks_append hblanks, hu, List.cons_append, skipBlanks_cons (by decide)]
  have hmembers := ih hreadable.2 fuel
    (t ++ CodePoint.ofChar '\x7d' :: rest).length rest (by omega) (by simp)
  have hobject : object (value fuel) (blanks ++ (t ++ CodePoint.ofChar '\x7d' :: rest)) =
      .ok (.obj (Entries.ofList (mergeMembers ms)), rest) :=
    object_of_members hskip ⟨_, u ++ CodePoint.ofChar '\x7d' :: rest,
      by rw [hu, List.cons_append], by decide⟩ hmembers
  simp only [List.cons_append, List.append_assoc, List.nil_append]
  exact hobject

theorem Spells.skipBlanks_append {v : Json} {t : Text} (h : Spells (.value v) t) (rest : Text) :
    skipBlanks (t ++ rest) = t ++ rest := by
  obtain ⟨c, u, rfl, hbegins⟩ := h.exists_cons
  rw [List.cons_append, skipBlanks_cons hbegins.1]

theorem isRead_of_spells {p : Phrase} {t : Text} (h : Spells p t) : IsRead p t := by
  induction h with
  | @name word v hmem =>
    intro _ fuel rest _ hfuel
    obtain ⟨fuel, rfl⟩ := Nat.exists_eq_succ_of_ne_zero (Nat.ne_zero_of_lt hfuel)
    have hnames : ∀ wv ∈ names, value (fuel + 1) (wv.1 ++ rest) = .ok (wv.2.merge, rest) := by
      intro wv hwv
      simp only [names, List.mem_cons, List.not_mem_nil, or_false] at hwv
      rcases hwv with rfl | rfl | rfl | rfl | rfl | rfl <;> rfl
    exact hnames _ hmem
  | number hnumber =>
    intro hreadable fuel rest hrest hfuel
    obtain ⟨fuel, rfl⟩ := Nat.exists_eq_succ_of_ne_zero (Nat.ne_zero_of_lt hfuel)
    have hread := value_of_number hnumber (all_self hreadable) fuel hrest
    cases hnumber <;> exact hread
  | text htext =>
    intro _ fuel rest _ hfuel
    obtain ⟨fuel, rfl⟩ := Nat.exists_eq_succ_of_ne_zero (Nat.ne_zero_of_lt hfuel)
    obtain ⟨inner, rfl, hstring⟩ := string_append htext
    rw [List.cons_append]
    simp only [value, if_true, hstring]
    rfl
  | @emptyArray blanks hblanks =>
    intro _ fuel rest _ hfuel
    obtain ⟨fuel, rfl⟩ := Nat.exists_eq_succ_of_ne_zero (Nat.ne_zero_of_lt hfuel)
    have harray : array (value fuel) (blanks ++ CodePoint.ofChar ']' :: rest) =
        .ok (.arr [], rest) := by
      rw [array, skipBlanks_append hblanks, skipBlanks_cons (by decide)]
      exact if_pos rfl
    rw [List.cons_append, List.append_assoc]
    exact harray
  | array hblanks hitems ih => exact isRead_array hblanks hitems ih
  | @emptyObject blanks hblanks =>
    intro _ fuel rest _ hfuel
    obtain ⟨fuel, rfl⟩ := Nat.exists_eq_succ_of_ne_zero (Nat.ne_zero_of_lt hfuel)
    have hobject : object (value fuel) (blanks ++ CodePoint.ofChar '\x7d' :: rest) =
        .ok (.obj [], rest) := by
      rw [object, skipBlanks_append hblanks, skipBlanks_cons (by decide)]
      exact if_pos rfl
    rw [List.cons_append, List.append_assoc]
    exact hobject
  | object hblanks hmembers ih => exact isRead_object hblanks hmembers ih
  | @lastItem v t blanks hvalue hblanks ih =>
    intro hreadable fuel count rest hfuel hcount
    obtain ⟨count, rfl⟩ := Nat.exists_eq_succ_of_ne_zero (Nat.ne_zero_of_lt hcount)
    rw [List.length_append] at hfuel
    have hends : EndsNumber (blanks ++ CodePoint.ofChar ']' :: rest) :=
      endsNumber_append hblanks ⟨by decide, by decide, by decide, by decide⟩
    have hread := ih (Bool.and_eq_true_iff.1 hreadable).1 fuel _ hends (by omega)
    rw [List.append_assoc]
    exact items_close hread hblanks
  | @item v t before after tail vs hvalue hbefore hafter hitems ih ihItems =>
    intro hreadable fuel count rest hfuel hcount
    obtain ⟨count, rfl⟩ := Nat.exists_eq_succ_of_ne_zero (Nat.ne_zero_of_lt hcount)
    simp only [List.length_append, List.length_cons] at hfuel hcount
    obtain ⟨hitem, hrest⟩ := Bool.and_eq_true_iff.1 hreadable
    obtain ⟨c, u, hc, hbegins⟩ := hitems.exists_cons_items
    have hends : EndsNumber (before ++ CodePoint.ofChar ',' :: (after ++ (tail ++
        CodePoint.ofChar ']' :: rest))) :=
      endsNumber_append hbefore ⟨by decide, by decide, by decide, by decide⟩
    have hread := ih hitem fuel _ hends (by omega)
    have htail := ihItems hrest fuel count rest (by omega) (by omega)
    have hskip : skipBlanks (after ++ (tail ++ CodePoint.ofChar ']' :: rest)) =
        tail ++ CodePoint.ofChar ']' :: rest := by
      rw [skipBlanks_append hafter, hc, List.cons_append, skipBlanks_cons hbegins.1]
    simp only [List.append_assoc, List.cons_append]
    refine items_comma before hread hbefore ?_
    rw [hskip]
    exact htail
  | @lastMember k key t blanks v hkey hvalue hblanks ih =>
    intro hreadable fuel count rest hfuel hcount
    obtain ⟨count, rfl⟩ := Nat.exists_eq_succ_of_ne_zero (Nat.ne_zero_of_lt hcount)
    simp only [List.length_append] at hfuel
    have hends : EndsNumber (blanks ++ CodePoint.ofChar '\x7d' :: rest) :=
      endsNumber_append hblanks ⟨by decide, by decide, by decide, by decide⟩
    have hread := ih (Bool.and_eq_true_iff.1 hreadable).1 fuel _ hends (by omega)
    rw [List.append_assoc, List.append_assoc]
    exact members_close (key_append hkey (hvalue.skipBlanks_append _)) hread hblanks
  | @member k key t before after tail v ms hkey hvalue hbefore hafter hmembers ih ihMembers =>
    intro hreadable fuel count rest hfuel hcount
    obtain ⟨count, rfl⟩ := Nat.exists_eq_succ_of_ne_zero (Nat.ne_zero_of_lt hcount)
    simp only [List.length_append, List.length_cons] at hfuel hcount
    obtain ⟨hitem, hrest⟩ := Bool.and_eq_true_iff.1 hreadable
    obtain ⟨u, hu⟩ := hmembers.exists_cons_members
    have hends : EndsNumber (before ++ CodePoint.ofChar ',' :: (after ++ (tail ++
        CodePoint.ofChar '\x7d' :: rest))) :=
      endsNumber_append hbefore ⟨by decide, by decide, by decide, by decide⟩
    have hread := ih hitem fuel _ hends (by omega)
    have htail := ihMembers hrest fuel count rest (by omega) (by omega)
    have hskip : skipBlanks (after ++ (tail ++ CodePoint.ofChar '\x7d' :: rest)) =
        tail ++ CodePoint.ofChar '\x7d' :: rest := by
      rw [skipBlanks_append hafter, hu, List.cons_append, skipBlanks_cons (by decide)]
    simp only [List.append_assoc, List.cons_append]
    refine members_comma before (key_append hkey (hvalue.skipBlanks_append _)) hread hbefore ?_
    rw [hskip]
    exact htail

/-! ## Documents -/

theorem parse_eq_ok_iff_document {t : Text} {v : Json} :
    parse t = .ok v ↔ document t = .ok v := by
  rw [parse]
  cases document t with
  | ok u =>
    constructor
    · exact fun h => congrArg Except.ok (Except.ok.inj h)
    · exact fun h => congrArg Except.ok (Except.ok.inj h)
  | error e => cases e <;> exact iff_of_false (by simp) (by simp)

/-- A text is read as a value iff it is a document of the grammar, none of whose integers has too
many digits, and the value is what it spells with members of equal keys merged. -/
theorem parse_eq_ok_iff {t : Text} {v : Json} :
    parse t = .ok v ↔ ∃ raw, IsDocument raw t ∧ raw.isReadable = true ∧ raw.merge = v := by
  rw [parse_eq_ok_iff_document, document]
  constructor
  · intro h
    split at h
    · cases h
    · obtain ⟨⟨u, rest⟩, hvalue, h⟩ := bind_eq_ok h
      obtain ⟨raw, spelled, hspelled, hspells, hreadable, rfl⟩ := takesValues_value _ hvalue
      obtain ⟨before, hbefore, ht⟩ := exists_isBlanks t
      obtain ⟨after, hafter, hrest⟩ := exists_isBlanks rest
      dsimp only at h
      split at h
      · next hskip =>
        obtain rfl := Except.ok.inj h
        rw [hskip, List.append_nil] at hrest
        refine ⟨raw, ⟨before, spelled, after, hbefore, hspells, hafter, ?_⟩, hreadable, rfl⟩
        rw [← hrest, ← hspelled]
        exact ht
      · cases h
  · rintro ⟨raw, ⟨before, inner, after, hbefore, hspells, hafter, rfl⟩, hreadable, rfl⟩
    obtain ⟨c, u, hc, hbegins⟩ := hspells.exists_cons
    have hhead : (before ++ (inner ++ after)).head? ≠ some 0xFEFF := by
      cases before with
      | nil =>
        rw [hc]
        exact fun h => hbegins.2.2 (Option.some.inj h)
      | cons b before =>
        intro h
        rw [IsBlanks, List.all_cons, Bool.and_eq_true, Option.some.inj h] at hbefore
        exact absurd hbefore.1 (by decide)
    have hskip : skipBlanks (before ++ (inner ++ after)) = inner ++ after := by
      rw [skipBlanks_append hbefore, hspells.skipBlanks_append]
    have hlength : inner.length < (before ++ (inner ++ after)).length + 1 := by
      simp only [List.length_append]
      omega
    have hend : skipBlanks after = [] := by
      have := skipBlanks_append hafter []
      rwa [List.append_nil] at this
    rw [if_neg hhead, hskip,
      isRead_of_spells hspells hreadable _ after (endsNumber_blanks hafter) hlength, ok_bind]
    simp only [hend]
    rfl

end Json

end SignedSetup
