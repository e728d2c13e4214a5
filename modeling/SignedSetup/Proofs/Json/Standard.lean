import SignedSetup.Proofs.Json.Ascii

/-!
# Standard JSON

A reader takes three words that JSON itself does not have: `NaN`, `Infinity` and `-Infinity`, for
the doubles that are not finite. No other word outside a string has a capital letter `I` or `N`, so
a text that can be read is JSON as others read it if neither letter stands outside its strings. What
is written of a value is such a text iff all its doubles are finite (`isStandard_render_iff`).
-/

namespace SignedSetup.Json

/-- Where a character stands: outside strings, inside one, or after a backslash inside one. -/
inductive Region where
  | outside
  | inside
  | escaped

/-- A letter that begins the name of an infinite double, or of one that is no number. -/
def isMark (c : CodePoint) : Bool := c = 'I' || c = 'N'

/-- One of these letters stands outside the strings of a text that begins at a place. -/
def hasMark : Region → Text → Bool
  | _, [] => false
  | .outside, c :: t => isMark c || hasMark (if c = '"' then .inside else .outside) t
  | .inside, c :: t =>
    hasMark (if c = '"' then .outside else if c = '\\' then .escaped else .inside) t
  | .escaped, _ :: t => hasMark .inside t

/-- A text that any reader of JSON can read. -/
structure IsStandard (t : Text) : Prop where
  parsed : ∃ v, parse t = .ok v
  unmarked : hasMark .outside t = false

/-- A value is no double that is infinite or no number. -/
def isFiniteNode : Json → Bool
  | .float .nan => false
  | .float (.infinite _) => false
  | _ => true

/-- A value all of whose doubles are finite. -/
def isFinite (v : Json) : Bool := v.all isFiniteNode

/-! ## Outside strings -/

theorem hasMark_cons {c : CodePoint} (h : c ≠ '"') (u : Text) :
    hasMark .outside (c :: u) = (isMark c || hasMark .outside u) := by
  rw [hasMark, if_neg h]

theorem hasMark_append {t : Text} (h : ∀ c ∈ t, c ≠ '"' ∧ isMark c = false) (u : Text) :
    hasMark .outside (t ++ u) = hasMark .outside u := by
  induction t with
  | nil => rfl
  | cons c t ih =>
    rw [List.forall_mem_cons] at h
    rw [List.cons_append, hasMark_cons h.1.1, h.1.2, ih h.2, Bool.false_or]

theorem hasMark_blanks {blanks : Text} (h : IsBlanks blanks) (u : Text) :
    hasMark .outside (blanks ++ u) = hasMark .outside u := by
  refine hasMark_append (fun c hc => ?_) u
  have hblank : c = ' ' ∨ c = '\t' ∨ c = '\n' ∨ c = '\r' := by
    simpa [isBlank, or_assoc] using List.all_eq_true.1 h c hc
  rcases hblank with rfl | rfl | rfl | rfl <;> decide

theorem hasMark_number {v : Json} {t : Text} (h : SpellsNumber v t) (u : Text) :
    hasMark .outside (t ++ u) = hasMark .outside u := by
  refine hasMark_append (fun c hc => ?_) u
  have hnumeric := List.all_eq_true.1 h.all_isNumeric c hc
  constructor
  · rintro rfl
    cases hnumeric
  · refine Bool.eq_false_iff.2 fun hmark => ?_
    rw [isMark, Bool.or_eq_true, decide_eq_true_eq, decide_eq_true_eq] at hmark
    rcases hmark with rfl | rfl <;> cases hnumeric

/-! ## Strings -/

/-- A digit of a unit ends no string and begins no escape. -/
theorem hasMark_inside_digit {c : CodePoint} {n : Nat} (h : Hex.digit? c = some n) (u : Text) :
    hasMark .inside (c :: u) = hasMark .inside u := by
  have hquote : c ≠ '"' := by
    rintro rfl
    cases h
  have hbackslash : c ≠ '\\' := by
    rintro rfl
    cases h
  rw [hasMark, if_neg hquote, if_neg hbackslash]

theorem hasMark_spellsParts {ps : List Part} {t : Text} (h : SpellsParts ps t) (u : Text) :
    hasMark .inside (t ++ u) = hasMark .inside u := by
  induction h with
  | nil => rfl
  | character hquote hbackslash _ _ ih =>
    rw [List.cons_append, hasMark, if_neg hquote, if_neg hbackslash, ih]
  | short _ _ ih => exact ih
  | @unit a b c d n ps t hn _ ih =>
    obtain ⟨m₁, ha, hn⟩ := Option.bind_eq_some_iff.1 hn
    obtain ⟨m₂, hb, hn⟩ := Option.bind_eq_some_iff.1 hn
    obtain ⟨m₃, hc, hn⟩ := Option.bind_eq_some_iff.1 hn
    obtain ⟨m₄, hd, -⟩ := Option.bind_eq_some_iff.1 hn
    show hasMark .inside (a :: b :: c :: d :: (t ++ u)) = _
    rw [hasMark_inside_digit ha, hasMark_inside_digit hb, hasMark_inside_digit hc,
      hasMark_inside_digit hd, ih]

/-- Nothing in a string counts. A string is written in ASCII as the joined string is, which is
spelled by what is written. -/
theorem hasMark_renderText {s : Style} (hs : s.ascii = true) (t u : Text) :
    hasMark .outside (renderText s.ascii t ++ u) = hasMark .outside u := by
  have hjoined : SpellsText t.joined (renderText s.ascii t.joined) :=
    spellsText_renderText fun _ => isUnpaired_joined t
  obtain ⟨ps, inner, hspells, -, htext⟩ := hjoined
  rw [← renderText_joined hs, htext, List.cons_append, List.append_assoc]
  exact hasMark_spellsParts hspells (CodePoint.ofChar '"' :: u)

theorem hasMark_jsonText (x : Double) (u : Text) :
    hasMark .outside (x.jsonText ++ u) = (!isFiniteNode (.float x) || hasMark .outside u) := by
  cases x with
  | nan => rfl
  | infinite negative => cases negative <;> rfl
  | finite negative significand exponent =>
    obtain ⟨y, hy⟩ := Double.spellsNumber_finiteText negative significand exponent
    exact hasMark_number hy u

/-! ## Values -/

theorem hasMark_comma {s : Style} (hs : s.IsReadable) (u : Text) :
    hasMark .outside (s.comma ++ u) = hasMark .outside u := by
  obtain ⟨blanks, hcomma, hblanks⟩ := hs.comma
  rw [hcomma]
  exact hasMark_blanks hblanks u

theorem hasMark_colon {s : Style} (hs : s.IsReadable) (u : Text) :
    hasMark .outside (s.colon ++ u) = hasMark .outside u := by
  obtain ⟨blanks, hcolon, hblanks⟩ := hs.colon
  rw [hcolon]
  exact hasMark_blanks hblanks u

mutual

theorem hasMark_renderAt {s : Style} (hs : s.IsReadable) (hascii : s.ascii = true) :
    ∀ (v : Json) (depth : Nat) (u : Text),
      hasMark .outside (renderAt s depth v ++ u) = (!v.isFinite || hasMark .outside u)
  | .null, _, _ => rfl
  | .bool true, _, _ => rfl
  | .bool false, _, _ => rfl
  | .int n, _, u => hasMark_number (spellsNumber_ofInt n) u
  | .float x, _, u => hasMark_jsonText x u
  | .text t, _, u => hasMark_renderText hascii t u
  | .arr [], _, _ => rfl
  | .arr (item :: items), depth, u => by
    rw [renderAt_arr_append, hasMark_cons (by decide), hasMark_blanks (all_isBlank_newline s _),
      hasMark_renderAt hs hascii item, hasMark_renderItems hs hascii items,
      hasMark_blanks (all_isBlank_newline s _), hasMark_cons (by decide), isFinite, isFinite, all,
      allItems, Bool.not_and, Bool.not_and, Bool.or_assoc, Bool.or_assoc]
    rfl
  | .obj [], _, _ => rfl
  | .obj ((key, v) :: members), depth, u => by
    rw [renderAt_obj_append, hasMark_cons (by decide), hasMark_blanks (all_isBlank_newline s _),
      hasMark_renderText hascii, hasMark_colon hs, hasMark_renderAt hs hascii v,
      hasMark_renderMembers hs hascii members, hasMark_blanks (all_isBlank_newline s _),
      hasMark_cons (by decide), isFinite, isFinite, all, allMembers, Bool.not_and, Bool.not_and,
      Bool.or_assoc, Bool.or_assoc]
    rfl
termination_by structural v => v

theorem hasMark_renderItems {s : Style} (hs : s.IsReadable) (hascii : s.ascii = true) :
    ∀ (items : List Json) (depth : Nat) (u : Text),
      hasMark .outside (renderItems s depth items ++ u) =
        (!allItems isFiniteNode items || hasMark .outside u)
  | [], _, _ => rfl
  | item :: items, depth, u => by
    rw [renderItems_append, hasMark_comma hs, hasMark_blanks (all_isBlank_newline s _),
      hasMark_renderAt hs hascii item, hasMark_renderItems hs hascii items, isFinite, allItems,
      Bool.not_and, Bool.or_assoc]
termination_by structural vs => vs

theorem hasMark_renderMembers {s : Style} (hs : s.IsReadable) (hascii : s.ascii = true) :
    ∀ (members : List (Text × Json)) (depth : Nat) (u : Text),
      hasMark .outside (renderMembers s depth members ++ u) =
        (!allMembers isFiniteNode members || hasMark .outside u)
  | [], _, _ => rfl
  | (key, v) :: members, depth, u => by
    rw [renderMembers_append, hasMark_comma hs, hasMark_blanks (all_isBlank_newline s _),
      hasMark_renderText hascii, hasMark_colon hs, hasMark_renderAt hs hascii v,
      hasMark_renderMembers hs hascii members, isFinite, allMembers, Bool.not_and, Bool.or_assoc]
termination_by structural ms => ms

end

/-- What is written of a value in ASCII is standard iff its doubles are finite. -/
theorem isStandard_render_iff {s : Style} (hs : s.IsReadable) (hascii : s.ascii = true) {v : Json}
    (hv : v.isReadable = true) (hdoubles : v.isCanonical = true) :
    IsStandard (render s v) ↔ v.isFinite = true := by
  have hmark := hasMark_renderAt hs hascii v 0 []
  rw [List.append_nil, hasMark, Bool.or_false] at hmark
  constructor
  · intro h
    have hunmarked := hmark.symm.trans h.unmarked
    rwa [Bool.not_eq_false'] at hunmarked
  · intro h
    exact ⟨⟨_, parse_render_ascii hs hascii hv hdoubles⟩, hmark.trans (congrArg (!·) h)⟩

end SignedSetup.Json
