import SignedSetup.Json.Parser

/-!
# Readers at the ends of what they read

What stands between and after values: blanks, separators and closing brackets. Blanks are skipped,
a number ends where neither a digit nor the rest of a number follows (`EndsNumber`), and a list of
items or members goes on at a comma and ends at its bracket. A value is known by its first
character, which is none of these (`BeginsValue`).
-/

namespace SignedSetup.Json

/-! ## The end of a number -/

/-- No number that comes before the text goes on with it. -/
def EndsNumber : Text → Prop
  | [] => True
  | c :: _ => Decimal.isDigit c = false ∧ c ≠ '.' ∧ c ≠ 'e' ∧ c ≠ 'E'

theorem fraction_of_endsNumber {rest : Text} (h : EndsNumber rest) :
    fraction rest = ([], rest) := by
  cases rest with
  | nil => rfl
  | cons c rest => simp only [fraction, h.2.1, if_false]

theorem power?_of_endsNumber {rest : Text} (h : EndsNumber rest) : power? rest = none := by
  cases rest with
  | nil => rfl
  | cons c rest =>
    have he : (decide (c = CodePoint.ofChar 'e') || decide (c = CodePoint.ofChar 'E')) = false := by
      rw [decide_eq_false h.2.2.1, decide_eq_false h.2.2.2, Bool.or_self]
    simp only [power?, he, Bool.false_eq_true, if_false]

/-! ## Blanks -/

theorem skipBlanks_append {blanks : Text} (h : blanks.all isBlank = true) (t : Text) :
    skipBlanks (blanks ++ t) = skipBlanks t :=
  List.dropWhile_append_of_pos (List.all_eq_true.1 h)

theorem skipBlanks_cons {c : CodePoint} (h : isBlank c = false) (t : Text) :
    skipBlanks (c :: t) = c :: t := by
  rw [skipBlanks, List.dropWhile_cons, h, if_neg (by decide)]

theorem skipBlanks_append_cons {blanks : Text} (h : blanks.all isBlank = true) {c : CodePoint}
    (hc : isBlank c = false) (t : Text) : skipBlanks (blanks ++ c :: t) = c :: t := by
  rw [skipBlanks_append h, skipBlanks_cons hc]

/-- Neither a blank nor a separator or closing bracket goes on with a number. -/
theorem endsNumber_append {blanks : Text} (h : blanks.all isBlank = true) {c : CodePoint}
    {rest : Text} (hc : EndsNumber (c :: rest)) : EndsNumber (blanks ++ c :: rest) := by
  cases blanks with
  | nil => exact hc
  | cons b blanks =>
    rw [List.all_cons, Bool.and_eq_true] at h
    have hb : b = ' ' ∨ b = '\t' ∨ b = '\n' ∨ b = '\r' := by
      simpa [isBlank, or_assoc] using h.1
    rcases hb with rfl | rfl | rfl | rfl <;> exact ⟨by decide, by decide, by decide, by decide⟩

/-! ## The first character of a value -/

/-- The character begins a value, whose text is therefore neither blank nor empty. -/
def BeginsValue (c : CodePoint) : Prop := isBlank c = false ∧ c ≠ ']' ∧ c ≠ 0xFEFF

instance (c : CodePoint) : Decidable (BeginsValue c) := inferInstanceAs (Decidable (_ ∧ _))

theorem beginsValue_of_isDigit {c : CodePoint} (h : Decimal.isDigit c = true) : BeginsValue c := by
  refine ⟨?_, ?_, ?_⟩
  · refine Bool.eq_false_iff.2 fun hb => ?_
    have hb : c = ' ' ∨ c = '\t' ∨ c = '\n' ∨ c = '\r' := by
      simpa [isBlank, or_assoc] using hb
    rcases hb with rfl | rfl | rfl | rfl <;> cases h
  · rintro rfl
    cases h
  · rintro rfl
    cases h

/-! ## Names -/

theorem dropWord?_cons_of_ne {a b : CodePoint} (h : a ≠ b) (word t : Text) :
    Text.dropWord? (a :: word) (b :: t) = none := by
  rw [Text.dropWord?, if_neg h]

/-- A name is none of the others. -/
theorem name?_eq_none {c : CodePoint} {t : Text}
    (h : ∀ word v, (word, v) ∈ names → Text.dropWord? word (c :: t) = none) :
    name? (c :: t) = none := by
  rw [name?, List.findSome?_eq_none_iff]
  rintro ⟨word, v⟩ hmem
  show (Text.dropWord? word (c :: t)).map (fun rest => (v, rest)) = none
  rw [h word v hmem, Option.map_none]

theorem dropWord?_name_cons {c : CodePoint} (h : Decimal.isDigit c = true) (t : Text) {word : Text}
    {v : Json} (hmem : (word, v) ∈ names) : Text.dropWord? word (c :: t) = none := by
  have hhead : ∀ wv ∈ names, ∃ a rest, wv.1 = a :: rest ∧ Decimal.isDigit a = false := by
    intro wv hwv
    simp only [names, List.mem_cons, List.not_mem_nil, or_false] at hwv
    rcases hwv with rfl | rfl | rfl | rfl | rfl | rfl <;> exact ⟨_, _, rfl, rfl⟩
  obtain ⟨a, rest, rfl, ha⟩ := hhead _ hmem
  exact dropWord?_cons_of_ne (fun hac => by rw [hac, h] at ha; cases ha) _ _

theorem name?_digit_cons {c : CodePoint} (h : Decimal.isDigit c = true) (t : Text) :
    name? (c :: t) = none :=
  name?_eq_none fun _ _ hmem => dropWord?_name_cons h t hmem

theorem name?_minus_cons {c : CodePoint} (h : Decimal.isDigit c = true) (t : Text) :
    name? (CodePoint.ofChar '-' :: c :: t) = none := by
  have hne : CodePoint.ofChar 'I' ≠ c := by
    rintro rfl
    cases h
  refine name?_eq_none fun word v hmem => ?_
  simp only [names, List.mem_cons, Prod.mk.injEq, List.not_mem_nil, or_false] at hmem
  rcases hmem with ⟨rfl, -⟩ | ⟨rfl, -⟩ | ⟨rfl, -⟩ | ⟨rfl, -⟩ | ⟨rfl, -⟩ | ⟨rfl, -⟩
  -- Only the last name begins with a minus sign, and no digit follows it.
  · exact dropWord?_cons_of_ne (a := CodePoint.ofChar 'n') (by decide) _ _
  · exact dropWord?_cons_of_ne (a := CodePoint.ofChar 't') (by decide) _ _
  · exact dropWord?_cons_of_ne (a := CodePoint.ofChar 'f') (by decide) _ _
  · exact dropWord?_cons_of_ne (a := CodePoint.ofChar 'N') (by decide) _ _
  · exact dropWord?_cons_of_ne (a := CodePoint.ofChar 'I') (by decide) _ _
  · exact dropWord?_cons_of_ne (a := CodePoint.ofChar 'I') hne _ _

/-! ## Readers at a separator -/

section Items

variable {item : Text → Except Stop (Json × Text)} {count : Nat} {t blanks rest tail : Text}
  {v : Json} {vs : List Json}

theorem items_close (hitem : item t = .ok (v, blanks ++ CodePoint.ofChar ']' :: rest))
    (hblanks : blanks.all isBlank = true) : items item (count + 1) t = .ok ([v], rest) := by
  have hskip := skipBlanks_append_cons hblanks (c := CodePoint.ofChar ']') (by decide) rest
  simp only [items, hitem, bind, Except.bind, hskip]
  rfl

theorem items_comma (blanks : Text)
    (hitem : item t = .ok (v, blanks ++ CodePoint.ofChar ',' :: rest))
    (hblanks : blanks.all isBlank = true)
    (hvs : items item count (skipBlanks rest) = .ok (vs, tail)) :
    items item (count + 1) t = .ok (v :: vs, tail) := by
  have hskip := skipBlanks_append_cons hblanks (c := CodePoint.ofChar ',') (by decide) rest
  have hne : CodePoint.ofChar ',' ≠ CodePoint.ofChar ']' := by decide
  simp only [items, hitem, bind, Except.bind, hskip, hne, if_false, if_true, hvs]
  rfl

theorem array_of_items (hskip : skipBlanks t = rest) (hrest : ∃ c u, rest = c :: u ∧ c ≠ ']')
    (hvs : items item rest.length rest = .ok (vs, tail)) :
    array item t = .ok (.arr vs, tail) := by
  obtain ⟨c, u, rfl, hc⟩ := hrest
  simp only [array, hskip, hc, if_false, hvs]
  rfl

end Items

section Members

variable {value : Text → Except Stop (Json × Text)} {count : Nat} {k t t' blanks rest tail : Text}
  {v : Json} {ms : List (Text × Json)}

theorem members_close (hkey : key t = .ok (k, t'))
    (hvalue : value t' = .ok (v, blanks ++ CodePoint.ofChar '}' :: rest))
    (hblanks : blanks.all isBlank = true) :
    members value (count + 1) t = .ok ([(k, v)], rest) := by
  have hskip := skipBlanks_append_cons hblanks (c := CodePoint.ofChar '}') (by decide) rest
  simp only [members, hkey, hvalue, bind, Except.bind, hskip]
  rfl

theorem members_comma (blanks : Text) (hkey : key t = .ok (k, t'))
    (hvalue : value t' = .ok (v, blanks ++ CodePoint.ofChar ',' :: rest))
    (hblanks : blanks.all isBlank = true)
    (hms : members value count (skipBlanks rest) = .ok (ms, tail)) :
    members value (count + 1) t = .ok ((k, v) :: ms, tail) := by
  have hskip := skipBlanks_append_cons hblanks (c := CodePoint.ofChar ',') (by decide) rest
  have hne : CodePoint.ofChar ',' ≠ CodePoint.ofChar '\x7d' := by decide
  simp only [members, hkey, hvalue, bind, Except.bind, hskip, hne, if_false, if_true, hms]
  rfl

theorem object_of_members (hskip : skipBlanks t = rest) (hrest : ∃ c u, rest = c :: u ∧ c ≠ '}')
    (hms : members value rest.length rest = .ok (ms, tail)) :
    object value t = .ok (.obj (Entries.ofList ms), tail) := by
  obtain ⟨c, u, rfl, hc⟩ := hrest
  simp only [object, hskip, hc, if_false, hms]
  rfl

end Members

end SignedSetup.Json
