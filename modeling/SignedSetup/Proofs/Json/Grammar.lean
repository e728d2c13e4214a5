import SignedSetup.Proofs.Json.Separators
import SignedSetup.Proofs.Json.Within

/-!
# The grammar of JSON texts

What a text spells is said without a reader: `Spells` has one production for each form that a value
can take, and `IsDocument` is a value with blanks around it. Beyond the standard grammar there are
the names `NaN`, `Infinity` and `-Infinity`. What is spelled is the value as it stands in the text:
an object keeps each of its members, also where a key comes twice, and an integer has any number of
digits.
-/

namespace SignedSetup.Json

/-! ## Strings -/

/-- A text spells the parts of a string, as they stand between its quotes. -/
inductive SpellsParts : List Part → Text → Prop where
  | nil : SpellsParts [] []
  | character {c : CodePoint} {ps : List Part} {t : Text} :
      c ≠ '"' → c ≠ '\\' → 0x20 ≤ c.val → SpellsParts ps t →
        SpellsParts (.character c :: ps) (c :: t)
  | short {c e : CodePoint} {ps : List Part} {t : Text} :
      shortEscape? e = some c → SpellsParts ps t →
        SpellsParts (.character c :: ps) (CodePoint.ofChar '\\' :: e :: t)
  | unit {a b c d : CodePoint} {n : Nat} {ps : List Part} {t : Text} :
      unit? a b c d = some n → SpellsParts ps t →
        SpellsParts (.unit n :: ps)
          (CodePoint.ofChar '\\' :: CodePoint.ofChar 'u' :: a :: b :: c :: d :: t)

/-- A text spells a string with its quotes. -/
def SpellsText (s t : Text) : Prop :=
  ∃ ps inner, SpellsParts ps inner ∧ s = joinParts ps ∧
    t = CodePoint.ofChar '"' :: (inner ++ [CodePoint.ofChar '"'])

/-! ## Numbers -/

/-- A text is digits, at least one. -/
def IsDigits (t : Text) : Prop := t ≠ [] ∧ ∀ c ∈ t, Decimal.isDigit c = true

/-- A text is the whole part of a number: a zero alone, or digits that begin with another. -/
def IsWhole (t : Text) : Prop :=
  t = [CodePoint.ofChar '0'] ∨ IsDigits t ∧ t.head? ≠ some (CodePoint.ofChar '0')

/-- A text spells the digits of a fraction after a point, or is empty for none. -/
def SpellsFraction (digits t : Text) : Prop :=
  digits = [] ∧ t = [] ∨ IsDigits digits ∧ t = CodePoint.ofChar '.' :: digits

/-- A text spells a sign: whether it is a minus. -/
inductive SpellsSign : Bool → Text → Prop where
  | none : SpellsSign false []
  | plus : SpellsSign false [CodePoint.ofChar '+']
  | minus : SpellsSign true [CodePoint.ofChar '-']

/-- A number with a minus sign or without one. -/
def signed (negative : Bool) (n : Nat) : Int := if negative then -(n : Int) else n

/-- A text spells a power of ten after its mark, or is empty for none. -/
def SpellsPower : Option Int → Text → Prop
  | none, t => t = []
  | some p, t => ∃ mark negative sign digits,
      (mark = CodePoint.ofChar 'e' ∨ mark = CodePoint.ofChar 'E') ∧ SpellsSign negative sign ∧
        IsDigits digits ∧ t = mark :: (sign ++ digits) ∧ p = signed negative (Decimal.value digits)

/-- The minus sign of a number, if it has one. -/
def minusSign (negative : Bool) : Text := if negative then [CodePoint.ofChar '-'] else []

/-- A text spells a number. It is an integer if it has neither a fraction nor a power. -/
inductive SpellsNumber : Json → Text → Prop where
  | integer {ws : Text} (negative : Bool) :
      IsWhole ws →
        SpellsNumber (.int (signed negative (Decimal.value ws))) (minusSign negative ++ ws)
  | double {ws fs fraction power : Text} {p : Option Int} (negative : Bool) :
      IsWhole ws → SpellsFraction fs fraction → SpellsPower p power → fs ≠ [] ∨ p.isSome = true →
        SpellsNumber
          (.float (Double.ofDecimal negative (ws ++ fs) (p.getD 0 - (fs.length : Int))))
          (minusSign negative ++ (ws ++ (fraction ++ power)))

/-! ## Values -/

/-- What a text can spell. Items and members are those between brackets, at least one, with the
commas between them. -/
inductive Phrase where
  | value (v : Json)
  | items (vs : List Json)
  | members (ms : List (Text × Json))

/-- A text is blanks alone. -/
abbrev IsBlanks (t : Text) : Prop := t.all isBlank = true

theorem isBlanks_nil : IsBlanks [] := rfl

/-- A text spells a key with the colon after it and blanks around the colon. -/
def SpellsKey (k t : Text) : Prop :=
  ∃ word before after, SpellsText k word ∧ IsBlanks before ∧ IsBlanks after ∧
    t = word ++ (before ++ CodePoint.ofChar ':' :: after)

/-- A text spells a value, or the items or members that stand in one. -/
inductive Spells : Phrase → Text → Prop where
  | name {word : Text} {v : Json} : (word, v) ∈ names → Spells (.value v) word
  | number {v : Json} {t : Text} : SpellsNumber v t → Spells (.value v) t
  | text {s t : Text} : SpellsText s t → Spells (.value (.text s)) t
  | emptyArray {blanks : Text} :
      IsBlanks blanks →
        Spells (.value (.arr [])) (CodePoint.ofChar '[' :: (blanks ++ [CodePoint.ofChar ']']))
  | array {blanks t : Text} {vs : List Json} :
      IsBlanks blanks → Spells (.items vs) t →
        Spells (.value (.arr vs))
          (CodePoint.ofChar '[' :: (blanks ++ (t ++ [CodePoint.ofChar ']'])))
  | emptyObject {blanks : Text} :
      IsBlanks blanks →
        Spells (.value (.obj [])) (CodePoint.ofChar '\x7b' :: (blanks ++ [CodePoint.ofChar '\x7d']))
  | object {blanks t : Text} {ms : List (Text × Json)} :
      IsBlanks blanks → Spells (.members ms) t →
        Spells (.value (.obj ms))
          (CodePoint.ofChar '\x7b' :: (blanks ++ (t ++ [CodePoint.ofChar '\x7d'])))
  | lastItem {v : Json} {t blanks : Text} :
      Spells (.value v) t → IsBlanks blanks → Spells (.items [v]) (t ++ blanks)
  | item {v : Json} {t before after rest : Text} {vs : List Json} :
      Spells (.value v) t → IsBlanks before → IsBlanks after → Spells (.items vs) rest →
        Spells (.items (v :: vs)) (t ++ (before ++ CodePoint.ofChar ',' :: (after ++ rest)))
  | lastMember {k key t blanks : Text} {v : Json} :
      SpellsKey k key → Spells (.value v) t → IsBlanks blanks →
        Spells (.members [(k, v)]) (key ++ (t ++ blanks))
  | member {k key t before after rest : Text} {v : Json} {ms : List (Text × Json)} :
      SpellsKey k key → Spells (.value v) t → IsBlanks before → IsBlanks after →
        Spells (.members ms) rest →
        Spells (.members ((k, v) :: ms))
          (key ++ (t ++ (before ++ CodePoint.ofChar ',' :: (after ++ rest))))

/-- A whole text spells a value with blanks around it. -/
def IsDocument (v : Json) (t : Text) : Prop :=
  ∃ before inner after, IsBlanks before ∧ Spells (.value v) inner ∧ IsBlanks after ∧
    t = before ++ (inner ++ after)

/-! ## How phrases begin -/

theorem IsWhole.isDigits {t : Text} (h : IsWhole t) : IsDigits t := by
  rcases h with rfl | h
  · refine ⟨List.cons_ne_nil _ _, fun c hc => ?_⟩
    obtain rfl := List.mem_singleton.1 hc
    rfl
  · exact h.1

theorem IsDigits.exists_cons {t : Text} (h : IsDigits t) :
    ∃ c rest, t = c :: rest ∧ Decimal.isDigit c = true := by
  obtain ⟨c, rest, rfl⟩ := List.exists_cons_of_ne_nil h.1
  exact ⟨c, rest, rfl, h.2 c List.mem_cons_self⟩

/-- A number is a digit and more, after a minus sign or without one. -/
theorem SpellsNumber.exists_cons {v : Json} {t : Text} (h : SpellsNumber v t) :
    ∃ negative c rest, t = minusSign negative ++ c :: rest ∧ Decimal.isDigit c = true := by
  cases h with
  | integer negative hws =>
    obtain ⟨c, rest, rfl, hc⟩ := hws.isDigits.exists_cons
    exact ⟨negative, c, rest, rfl, hc⟩
  | @double ws fs fraction power p negative hws =>
    obtain ⟨c, rest, rfl, hc⟩ := hws.isDigits.exists_cons
    exact ⟨negative, c, rest ++ (fraction ++ power), rfl, hc⟩

/-- A value begins with a character that is neither blank nor a closing bracket. -/
theorem Spells.exists_cons {v : Json} {t : Text} (h : Spells (.value v) t) :
    ∃ c rest, t = c :: rest ∧ BeginsValue c := by
  cases h with
  | name hmem =>
    have hhead : ∀ wv ∈ names, ∃ c rest, wv.1 = c :: rest ∧ BeginsValue c := by
      intro wv hwv
      simp only [names, List.mem_cons, List.not_mem_nil, or_false] at hwv
      rcases hwv with rfl | rfl | rfl | rfl | rfl | rfl <;> exact ⟨_, _, rfl, by decide⟩
    exact hhead _ hmem
  | number hnumber =>
    obtain ⟨negative, c, rest, rfl, hc⟩ := hnumber.exists_cons
    cases negative with
    | false => exact ⟨c, rest, rfl, beginsValue_of_isDigit hc⟩
    | true => exact ⟨_, c :: rest, rfl, by decide⟩
  | text htext =>
    obtain ⟨ps, inner, -, -, rfl⟩ := htext
    exact ⟨_, _, rfl, by decide⟩
  | emptyArray _ => exact ⟨_, _, rfl, by decide⟩
  | array _ _ => exact ⟨_, _, rfl, by decide⟩
  | emptyObject _ => exact ⟨_, _, rfl, by decide⟩
  | object _ _ => exact ⟨_, _, rfl, by decide⟩

theorem Spells.exists_cons_items {vs : List Json} {t : Text} (h : Spells (.items vs) t) :
    ∃ c rest, t = c :: rest ∧ BeginsValue c := by
  cases h with
  | lastItem hvalue _ =>
    obtain ⟨c, rest, rfl, hc⟩ := hvalue.exists_cons
    exact ⟨c, _, rfl, hc⟩
  | item hvalue _ _ _ =>
    obtain ⟨c, rest, rfl, hc⟩ := hvalue.exists_cons
    exact ⟨c, _, rfl, hc⟩

theorem Spells.exists_cons_members {ms : List (Text × Json)} {t : Text}
    (h : Spells (.members ms) t) : ∃ rest, t = CodePoint.ofChar '"' :: rest := by
  cases h with
  | lastMember hkey _ _ =>
    obtain ⟨_, before, after, ⟨ps, inner, -, -, rfl⟩, -, -, rfl⟩ := hkey
    exact ⟨_, rfl⟩
  | member hkey _ _ _ _ =>
    obtain ⟨_, before, after, ⟨ps, inner, -, -, rfl⟩, -, -, rfl⟩ := hkey
    exact ⟨_, rfl⟩

/-! ## The characters of numbers -/

/-- The character can stand in a number. -/
def isNumeric (c : CodePoint) : Bool :=
  Decimal.isDigit c || c = '-' || c = '+' || c = '.' || c = 'e' || c = 'E'

/-- A number is written in ASCII without controls. -/
theorem val_of_isNumeric {c : CodePoint} (h : isNumeric c = true) :
    0x20 ≤ c.val ∧ c.val < 0x7F := by
  simp only [isNumeric, Bool.or_eq_true, decide_eq_true_eq] at h
  rcases h with ((((hdigit | rfl) | rfl) | rfl) | rfl) | rfl
  · unfold Decimal.isDigit Decimal.digit? at hdigit
    split at hdigit
    · next hrange =>
      rw [Bool.and_eq_true, decide_eq_true_eq, decide_eq_true_eq] at hrange
      omega
    · cases hdigit
  all_goals decide

theorem IsDigits.all_isNumeric {t : Text} (h : IsDigits t) : t.all isNumeric = true := by
  refine List.all_eq_true.2 fun c hc => ?_
  simp only [isNumeric, h.2 c hc, Bool.true_or]

theorem SpellsPower.all_isNumeric {p : Option Int} {t : Text} (h : SpellsPower p t) :
    t.all isNumeric = true := by
  cases p with
  | none =>
    obtain rfl : t = [] := h
    rfl
  | some p =>
    obtain ⟨mark, negative, sign, digits, hmark, hsign, hdigits, rfl, -⟩ := h
    have hsign : sign.all isNumeric = true := by cases hsign <;> rfl
    rw [List.all_cons, List.all_append, hsign, hdigits.all_isNumeric]
    rcases hmark with rfl | rfl <;> rfl

theorem SpellsNumber.all_isNumeric {v : Json} {t : Text} (h : SpellsNumber v t) :
    t.all isNumeric = true := by
  have hminus (negative : Bool) : (minusSign negative).all isNumeric = true := by
    cases negative <;> rfl
  cases h with
  | integer negative hws =>
    rw [List.all_append, hminus, hws.isDigits.all_isNumeric]
    rfl
  | @double ws fs fraction power p negative hws hfraction hpower =>
    have hfraction : fraction.all isNumeric = true := by
      rcases hfraction with ⟨-, rfl⟩ | ⟨hfs, rfl⟩
      · rfl
      · rw [List.all_cons, hfs.all_isNumeric]
        rfl
    rw [List.all_append, List.all_append, List.all_append, hminus, hws.isDigits.all_isNumeric,
      hfraction, hpower.all_isNumeric]
    rfl

/-! ## Texts without escapes and blanks -/

/-- A character stands for itself in a string. -/
def isUnescaped (c : CodePoint) : Bool := c ≠ '"' && c ≠ '\\' && 0x20 ≤ c.val

theorem spellsParts_of_isUnescaped {s : Text} (h : s.all isUnescaped = true) :
    SpellsParts (s.map .character) s ∧ joinParts (s.map .character) = s := by
  induction s with
  | nil => exact ⟨.nil, rfl⟩
  | cons c s ih =>
    rw [List.all_cons, Bool.and_eq_true] at h
    obtain ⟨hspells, hjoin⟩ := ih h.2
    have hc := h.1
    simp only [isUnescaped, Bool.and_eq_true, decide_eq_true_eq] at hc
    refine ⟨.character hc.1.1 hc.1.2 hc.2 hspells, ?_⟩
    rw [List.map_cons, joinParts, hjoin]

theorem spellsText_of_isUnescaped {s : Text} (h : s.all isUnescaped = true) :
    SpellsText s (CodePoint.ofChar '"' :: (s ++ [CodePoint.ofChar '"'])) := by
  obtain ⟨hspells, hjoin⟩ := spellsParts_of_isUnescaped h
  exact ⟨_, s, hspells, hjoin.symm, rfl⟩

theorem spellsKey_of_isUnescaped {k : Text} (h : k.all isUnescaped = true) :
    SpellsKey k (CodePoint.ofChar '"' :: (k ++ [CodePoint.ofChar '"', CodePoint.ofChar ':'])) :=
  ⟨_, [], [], spellsText_of_isUnescaped h, rfl, rfl, by simp⟩

theorem spells_lastMember {k t : Text} {v : Json} (hk : k.all isUnescaped = true)
    (hv : Spells (.value v) t) :
    Spells (.members [(k, v)])
      (CodePoint.ofChar '"' :: (k ++ CodePoint.ofChar '"' :: CodePoint.ofChar ':' :: t)) := by
  have hmember := Spells.lastMember (spellsKey_of_isUnescaped hk) hv (rfl : IsBlanks [])
  simpa using hmember

theorem spells_member {k t rest : Text} {v : Json} {ms : List (Text × Json)}
    (hk : k.all isUnescaped = true) (hv : Spells (.value v) t) (hms : Spells (.members ms) rest) :
    Spells (.members ((k, v) :: ms))
      (CodePoint.ofChar '"' :: (k ++ CodePoint.ofChar '"' :: CodePoint.ofChar ':' ::
        (t ++ CodePoint.ofChar ',' :: rest))) := by
  have hmember := Spells.member (spellsKey_of_isUnescaped hk) hv (rfl : IsBlanks [])
    (rfl : IsBlanks []) hms
  simpa using hmember

theorem spells_object {t : Text} {ms : List (Text × Json)} (h : Spells (.members ms) t) :
    Spells (.value (.obj ms)) (CodePoint.ofChar '\x7b' :: (t ++ [CodePoint.ofChar '\x7d'])) :=
  .object (rfl : IsBlanks []) h

end SignedSetup.Json
