import SignedSetup.Json.Printer
import SignedSetup.Proofs.Json.Doubles
import SignedSetup.Proofs.Json.Reading

/-!
# What is written is spelled

What the printer writes of a value is a text of the grammar that spells the value, its doubles
reread (`spells_renderAt`). So it is read back, whatever blanks stand around it
(`parse_render_append`); members of equal keys are merged then, because that is what a reader does
with a key that comes twice. In a style of ASCII alone the strings must not hold the two halves of a
surrogate pair side by side, since they are escaped one by one there and joined when they are read.

The induction is on the value, with one statement each for a value, for the items after a first one
and for the members after a first one.
-/

namespace SignedSetup

namespace Json

/-- The separators of a style are a comma and a colon, with blanks after them. -/
structure Style.IsReadable (s : Style) : Prop where
  comma : ∃ blanks : Text, s.comma = CodePoint.ofChar ',' :: blanks ∧ IsBlanks blanks
  colon : ∃ blanks : Text, s.colon = CodePoint.ofChar ':' :: blanks ∧ IsBlanks blanks

theorem Style.isReadable_compact : Style.compact.IsReadable :=
  ⟨⟨[], rfl, rfl⟩, ⟨[], rfl, rfl⟩⟩

theorem Style.isReadable_indented : Style.indented.IsReadable :=
  ⟨⟨[], rfl, rfl⟩, ⟨[CodePoint.ofChar ' '], rfl, rfl⟩⟩

/-- A value is no string, and has no key, with the two halves of a surrogate pair side by side. -/
def isUnpairedNode : Json → Bool
  | .text t => t.isUnpaired
  | .obj members => (Entries.keys members).all Text.isUnpaired
  | _ => true

/-- A value without the two halves of a surrogate pair side by side. -/
def isUnpaired (v : Json) : Bool := v.all isUnpairedNode

/-! ## Strings and integers -/

theorem spellsText_renderText {ascii : Bool} {t : Text} (h : ascii = true → t.isUnpaired = true) :
    SpellsText t (renderText ascii t) := by
  obtain ⟨word, hword, hspells⟩ := string_eq_ok (string_flatMap_escapeChar h 0 [])
  rw [List.append_nil] at hword
  rw [← hword] at hspells
  exact hspells

theorem spellsNumber_ofInt (n : Int) : SpellsNumber (.int n) (Decimal.ofInt n) := by
  cases n with
  | ofNat n =>
    have hnumber := SpellsNumber.integer false (isWhole_ofNat n)
    rwa [Decimal.value_ofNat] at hnumber
  | negSucc n =>
    have hnumber := SpellsNumber.integer true (isWhole_ofNat (n + 1))
    rwa [Decimal.value_ofNat] at hnumber

/-! ## Written forms, character by character -/

section Written

variable (s : Style) (depth : Nat) (rest : Text)

theorem renderAt_arr_append (item : Json) (items : List Json) :
    renderAt s depth (.arr (item :: items)) ++ rest = CodePoint.ofChar '[' ::
      (s.newline (depth + 1) ++ (renderAt s (depth + 1) item ++
        (renderItems s (depth + 1) items ++
          (s.newline depth ++ CodePoint.ofChar ']' :: rest)))) := by
  show [CodePoint.ofChar '['] ++ s.newline (depth + 1) ++ renderAt s (depth + 1) item ++
    renderItems s (depth + 1) items ++ s.newline depth ++ [CodePoint.ofChar ']'] ++ rest = _
  simp only [List.append_assoc]
  rfl

theorem renderAt_obj_append (key : Text) (v : Json) (members : List (Text × Json)) :
    renderAt s depth (.obj ((key, v) :: members)) ++ rest = CodePoint.ofChar '{' ::
      (s.newline (depth + 1) ++ (renderText s.ascii key ++ (s.colon ++ (renderAt s (depth + 1) v ++
        (renderMembers s (depth + 1) members ++
          (s.newline depth ++ CodePoint.ofChar '}' :: rest)))))) := by
  show [CodePoint.ofChar '{'] ++ s.newline (depth + 1) ++ renderText s.ascii key ++ s.colon ++
    renderAt s (depth + 1) v ++ renderMembers s (depth + 1) members ++ s.newline depth ++
      [CodePoint.ofChar '}'] ++ rest = _
  simp only [List.append_assoc]
  rfl

theorem renderItems_append (item : Json) (items : List Json) :
    renderItems s depth (item :: items) ++ rest = s.comma ++ (s.newline depth ++
      (renderAt s depth item ++ (renderItems s depth items ++ rest))) := by
  simp only [renderItems, List.append_assoc]

theorem renderMembers_append (key : Text) (v : Json) (members : List (Text × Json)) :
    renderMembers s depth ((key, v) :: members) ++ rest = s.comma ++ (s.newline depth ++
      (renderText s.ascii key ++ (s.colon ++ (renderAt s depth v ++
        (renderMembers s depth members ++ rest))))) := by
  simp only [renderMembers, List.append_assoc]

end Written

/-! ## Values -/

theorem all_isBlank_newline (s : Style) (depth : Nat) : IsBlanks (s.newline depth) := by
  unfold Style.newline
  split
  · rfl
  · next width _ =>
    show (CodePoint.ofChar '\n' :: Text.spaces (width * depth)).all isBlank = true
    rw [List.all_cons, Text.spaces, List.all_replicate]
    simp [show isBlank (CodePoint.ofChar '\n') = true by decide,
      show isBlank (CodePoint.ofChar ' ') = true by decide]

theorem isBlanks_append {a b : Text} (ha : IsBlanks a) (hb : IsBlanks b) : IsBlanks (a ++ b) := by
  rw [IsBlanks, List.all_append, ha, hb]
  rfl

section Values

variable {s : Style} (hs : s.IsReadable)
include hs

theorem spellsKey_renderText {k : Text} (h : s.ascii = true → k.isUnpaired = true) :
    SpellsKey k (renderText s.ascii k ++ s.colon) := by
  obtain ⟨blanks, hcolon, hblanks⟩ := hs.colon
  exact ⟨_, [], blanks, spellsText_renderText h, rfl, hblanks, by rw [hcolon, List.nil_append]⟩

mutual

/-- A value is spelled by what is written of it. -/
theorem spells_renderAt : ∀ v : Json, (s.ascii = true → v.isUnpaired = true) → ∀ depth : Nat,
    Spells (.value v.reread) (renderAt s depth v)
  | .null, _, _ => .name (by simp [names, reread, renderAt])
  | .bool true, _, _ => .name (by simp [names, reread, renderAt])
  | .bool false, _, _ => .name (by simp [names, reread, renderAt])
  | .int n, _, _ => .number (spellsNumber_ofInt n)
  | .float x, _, _ => spells_jsonText x
  | .text t, h, _ => .text (spellsText_renderText h)
  | .arr [], _, _ => .emptyArray isBlanks_nil
  | .arr (item :: items), h, depth => by
    simp only [isUnpaired, all, allItems, Bool.and_eq_true] at h
    have hitems := spells_renderItems items (fun ha => (h ha).2.2) (depth + 1)
      (spells_renderAt item (fun ha => (h ha).2.1) (depth + 1)) (all_isBlank_newline s depth)
    have harray := Spells.array (all_isBlank_newline s (depth + 1)) hitems
    rw [reread, rereadItems, ← List.append_nil (renderAt s depth (.arr (item :: items))),
      renderAt_arr_append]
    simpa only [List.append_assoc] using harray
  | .obj [], _, _ => .emptyObject isBlanks_nil
  | .obj ((key, v) :: members), h, depth => by
    simp only [isUnpaired, all, allMembers, isUnpairedNode, Entries.keys_cons, List.all_cons,
      Bool.and_eq_true] at h
    have hmembers := spells_renderMembers members (fun ha => (h ha).1.2) (fun ha => (h ha).2.2)
      (depth + 1) (spellsKey_renderText hs fun ha => (h ha).1.1)
      (spells_renderAt v (fun ha => (h ha).2.1) (depth + 1)) (all_isBlank_newline s depth)
    have hobject := Spells.object (all_isBlank_newline s (depth + 1)) hmembers
    rw [reread, rereadMembers, ← List.append_nil (renderAt s depth (.obj ((key, v) :: members))),
      renderAt_obj_append]
    simpa only [List.append_assoc] using hobject
termination_by structural v => v

theorem spells_renderItems : ∀ items : List Json,
    (s.ascii = true → allItems isUnpairedNode items = true) → ∀ depth {v : Json} {t blanks : Text},
      Spells (.value v) t → IsBlanks blanks →
      Spells (.items (v :: rereadItems items)) (t ++ (renderItems s depth items ++ blanks))
  | [], _, _, _, _, _, ht, hblanks => .lastItem ht hblanks
  | item :: items, h, depth, v, t, blanks, ht, hblanks => by
    simp only [allItems, Bool.and_eq_true] at h
    obtain ⟨after, hcomma, hafter⟩ := hs.comma
    have hitems := spells_renderItems items (fun ha => (h ha).2) depth
      (spells_renderAt item (fun ha => (h ha).1) depth) hblanks
    have hitem := Spells.item ht isBlanks_nil
      (isBlanks_append hafter (all_isBlank_newline s depth)) hitems
    rw [rereadItems, renderItems_append, hcomma]
    simpa only [List.append_assoc, List.nil_append, List.cons_append] using hitem
termination_by structural items => items

theorem spells_renderMembers : ∀ members : List (Text × Json),
    (s.ascii = true → (Entries.keys members).all Text.isUnpaired = true) →
    (s.ascii = true → allMembers isUnpairedNode members = true) →
    ∀ depth {k key : Text} {v : Json} {t blanks : Text},
      SpellsKey k key → Spells (.value v) t → IsBlanks blanks →
      Spells (.members ((k, v) :: rereadMembers members))
        (key ++ (t ++ (renderMembers s depth members ++ blanks)))
  | [], _, _, _, _, _, _, _, _, hkey, ht, hblanks => .lastMember hkey ht hblanks
  | (l, u) :: members, hk, h, depth, k, key, v, t, blanks, hkey, ht, hblanks => by
    simp only [Entries.keys_cons, List.all_cons, Bool.and_eq_true] at hk
    simp only [allMembers, Bool.and_eq_true] at h
    obtain ⟨after, hcomma, hafter⟩ := hs.comma
    have hmembers := spells_renderMembers members (fun ha => (hk ha).2) (fun ha => (h ha).2) depth
      (spellsKey_renderText hs fun ha => (hk ha).1) (spells_renderAt u (fun ha => (h ha).1) depth)
      hblanks
    have hmember := Spells.member hkey ht isBlanks_nil
      (isBlanks_append hafter (all_isBlank_newline s depth)) hmembers
    rw [rereadMembers, renderMembers_append, hcomma]
    simpa only [List.append_assoc, List.nil_append, List.cons_append] using hmember
termination_by structural members => members

end

end Values

theorem isReadable_reread {v : Json} (h : v.isReadable = true) : v.reread.isReadable = true :=
  all_reread (fun v hv => by cases v <;> exact hv) v h

/-- A value is read from what is written of it with blanks after it, its doubles reread and its
members of equal keys merged. -/
theorem parse_render_append {s : Style} (hs : s.IsReadable) {v : Json}
    (hreadable : v.isReadable = true) (hunpaired : s.ascii = true → v.isUnpaired = true)
    {blanks : Text} (hblanks : IsBlanks blanks) :
    parse (render s v ++ blanks) = .ok v.reread.merge :=
  parse_eq_ok_iff.2 ⟨v.reread, ⟨[], render s v, blanks, rfl, spells_renderAt hs v hunpaired 0,
    hblanks, rfl⟩, isReadable_reread hreadable, rfl⟩

end Json

end SignedSetup
