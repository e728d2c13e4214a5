import SignedSetup.Proofs.Json.NumberReading
import SignedSetup.Proofs.Number.Shortest

/-!
# Doubles in written values

The text of a finite double is a number of the grammar, with a fraction or a power, and so is read
as a double (`spells_jsonText`). Which double is read is the business of two roundings, the one to
the shortest decimal and the one back. It has the name `Double.reread`, and is the double itself if
the parts of the double are in their bounds (`Double.reread_eq_self`). A value with each of its
doubles reread (`Json.reread`) is what is read back of a value that holds doubles; if the parts of
all of them are in their bounds, or there are none, it is the value itself.
-/

namespace SignedSetup

/-- The double that is read from the text of a double. -/
def Double.reread (x : Double) : Double :=
  match Json.number x.jsonText with
  | .ok (.float y, _) => y
  | _ => x

namespace Json

/-- A numeral is a whole part: it begins with a zero only if it is that of zero. -/
theorem isWhole_ofNat (n : Nat) : IsWhole (Decimal.ofNat n) := by
  obtain ⟨c, ds, hn, -, hzero⟩ := Decimal.exists_cons_ofNat n
  by_cases hc : c = Decimal.digit 0
  · obtain rfl := hzero hc
    exact .inl (by rw [Decimal.ofNat]; rfl)
  · rw [IsWhole, IsDigits, hn]
    refine .inr ⟨⟨List.cons_ne_nil _ _, fun d hd => ?_⟩, fun heq => hc (Option.some.inj heq)⟩
    exact Decimal.isDigit_of_mem_ofNat (n := n) (hn ▸ hd)

end Json

namespace Double

/-! ## Decimals that stand for a double are positive -/

theorem Interval.digits_pos {i : Interval} {d : Scientific} (hlow : 0 < i.low) (hnum : 0 < i.num)
    (h : i.contains d = true) : 0 < d.digits := by
  refine Nat.pos_of_ne_zero fun hzero => ?_
  have hunit : 0 < i.low * (i.num * 10 ^ (-d.exponent).toNat) :=
    Nat.mul_pos hlow (Nat.mul_pos hnum (Nat.pow_pos (by decide)))
  simp only [contains, hzero, Nat.zero_mul] at h
  split at h
  · simp only [Bool.and_eq_true, decide_eq_true_eq] at h
    omega
  · simp only [Bool.and_eq_true, decide_eq_true_eq] at h
    omega

theorem Interval.digits_pos_shortest {i : Interval} (hlow : 0 < i.low) (hnum : 0 < i.num)
    (hvalue : 0 < i.value) (more count : Nat) : 0 < (i.shortest count more).digits := by
  induction more generalizing count with
  | zero =>
    rw [shortest]
    cases hd : i.decimal? count with
    | none => exact hvalue
    | some d => exact digits_pos hlow hnum ((decimal?_spec _).1 d hd)
  | succ more ih =>
    rw [shortest]
    cases hd : i.decimal? count with
    | none => exact ih (count + 1)
    | some d => exact digits_pos hlow hnum ((decimal?_spec _).1 d hd)

/-! ## The text of a decimal -/

open Json

theorem isDigit_of_mem_zeros (count : Nat) :
    ∀ c ∈ List.replicate count (Decimal.digit 0), Decimal.isDigit c = true := by
  intro c hc
  rw [(List.mem_replicate.1 hc).2]
  rfl

theorem isDigits_append {a b : Text} (ha : ∀ c ∈ a, Decimal.isDigit c = true) (hb : IsDigits b) :
    IsDigits (a ++ b) :=
  ⟨fun h => hb.1 (List.append_eq_nil_iff.1 h).2,
    fun c hc => (List.mem_append.1 hc).elim (ha c) (hb.2 c)⟩

/-- The point and the digits after it, if there are any. -/
theorem spellsFraction_tail (c : CodePoint) {rest : Text}
    (hrest : ∀ d ∈ rest, Decimal.isDigit d = true) :
    SpellsFraction rest
      (if (c :: rest).length = 1 then [] else "." ++ List.drop 1 (c :: rest)) := by
  cases rest with
  | nil => exact .inl ⟨rfl, rfl⟩
  | cons d ds => exact .inr ⟨⟨List.cons_ne_nil _ _, hrest⟩, rfl⟩

/-- The mark, the sign and the digits of a power, with zeros before them. -/
theorem spellsPower_digits (exponent : Int) (zeros : Nat) :
    SpellsPower (some exponent)
      (CodePoint.ofChar 'e' :: ((if exponent < 0 then "-" else "+" : Text) ++
        (List.replicate zeros (Decimal.digit 0) ++ Decimal.ofNat exponent.natAbs))) := by
  have hdigits : IsDigits
      (List.replicate zeros (Decimal.digit 0) ++ Decimal.ofNat exponent.natAbs) :=
    isDigits_append (isDigit_of_mem_zeros zeros) (isWhole_ofNat exponent.natAbs).isDigits
  have hvalue : Decimal.value
      (List.replicate zeros (Decimal.digit 0) ++ Decimal.ofNat exponent.natAbs) =
        exponent.natAbs := by
    rw [Decimal.value_zeros_append, Decimal.value_ofNat]
  by_cases hnegative : exponent < 0
  · rw [if_pos hnegative]
    refine ⟨_, true, _, _, .inl rfl, .minus, hdigits, rfl, ?_⟩
    rw [hvalue, signed, if_pos rfl]
    omega
  · rw [if_neg hnegative]
    refine ⟨_, false, _, _, .inl rfl, .plus, hdigits, rfl, ?_⟩
    rw [hvalue, signed, if_neg Bool.false_ne_true]
    omega

/-- A text spells the double that a number is rounded to. -/
def SpellsRounded (negative : Bool) (q : ℚ) (t : Text) : Prop :=
  ∃ digits power, (∀ c ∈ digits, Decimal.isDigit c = true) ∧
    (Decimal.value digits : ℚ) * 10 ^ power = q ∧
    SpellsNumber (.float (ofDecimal negative digits power)) (minusSign negative ++ t)

/-- A text in three parts spells a double. -/
theorem spellsRounded {ws fs fraction power t : Text} {p : Option Int} {q : ℚ} (negative : Bool)
    (hwhole : IsWhole ws) (hfraction : SpellsFraction fs fraction) (hpower : SpellsPower p power)
    (h : fs ≠ [] ∨ p.isSome = true) (ht : t = ws ++ (fraction ++ power))
    (hq : (Decimal.value (ws ++ fs) : ℚ) * 10 ^ (p.getD 0 - (fs.length : Int)) = q) :
    SpellsRounded negative q t := by
  refine ⟨ws ++ fs, _, fun c hc => ?_, hq, ?_⟩
  · rcases List.mem_append.1 hc with hc | hc
    · exact hwhole.isDigits.2 c hc
    · rcases hfraction with ⟨rfl, -⟩ | ⟨hfs, -⟩
      · cases hc
      · exact hfs.2 c hc
  · rw [ht]
    exact .double negative hwhole hfraction hpower h

section Forms

variable {c : CodePoint} {rest : Text} (hall : ∀ d ∈ c :: rest, Decimal.isDigit d = true)
include hall

/-- A text that begins with a digit other than zero and goes on with digits is a whole part. -/
theorem isWhole_cons (hc : c ≠ Decimal.digit 0) {more : Text}
    (hmore : ∀ d ∈ more, Decimal.isDigit d = true) : IsWhole (c :: more) :=
  .inr ⟨⟨List.cons_ne_nil _ _, List.forall_mem_cons.2 ⟨hall c List.mem_cons_self, hmore⟩⟩,
    fun heq => hc (Option.some.inj heq)⟩

/-- With a power: the first digit, the others as a fraction. -/
theorem spellsRounded_scientific (negative : Bool) (hc : c ≠ Decimal.digit 0) (exponent : Int)
    (zeros : Nat) :
    SpellsRounded negative (Decimal.value (c :: rest) * 10 ^ (exponent - rest.length))
      (List.take 1 (c :: rest) ++
        (if (c :: rest).length = 1 then [] else "." ++ List.drop 1 (c :: rest) : Text) ++ "e" ++
        (if exponent < 0 then "-" else "+" : Text) ++ List.replicate zeros (Decimal.digit 0) ++
        Decimal.ofNat exponent.natAbs) := by
  have hrest : ∀ d ∈ rest, Decimal.isDigit d = true := fun d hd =>
    hall d (List.mem_cons_of_mem _ hd)
  have hfirst : IsWhole [c] := isWhole_cons hall hc nofun
  refine spellsRounded negative hfirst (spellsFraction_tail c hrest)
    (spellsPower_digits exponent zeros) (.inr rfl) ?_ rfl
  simp [Text.ofString]

/-- Below one: all digits in the fraction, behind zeros. -/
theorem spellsRounded_small (negative : Bool) {exponent : Int} (h : exponent < 0) :
    SpellsRounded negative (Decimal.value (c :: rest) * 10 ^ (exponent - rest.length))
      ("0." ++ List.replicate (-exponent - 1).toNat (Decimal.digit 0) ++ (c :: rest)) := by
  have hfraction := isDigits_append (isDigit_of_mem_zeros (-exponent - 1).toNat)
    ⟨List.cons_ne_nil c rest, hall⟩
  refine spellsRounded negative (.inl rfl) (.inr ⟨hfraction, rfl⟩)
    (show SpellsPower none [] from rfl) (.inl hfraction.1) ?_ ?_
  · simp [Text.ofString]
  · have hvalue : Decimal.value ([CodePoint.ofChar '0'] ++
        (List.replicate (-exponent - 1).toNat (Decimal.digit 0) ++ (c :: rest))) =
          Decimal.value (c :: rest) := by
      rw [← Decimal.value_zeros_append (-exponent - 1).toNat (c :: rest)]
      exact Decimal.value_zeros_append 1 _
    have hpower : (none : Option Int).getD 0 -
        ((List.replicate (-exponent - 1).toNat (Decimal.digit 0) ++ (c :: rest)).length : Int) =
          exponent - rest.length := by
      rw [Option.getD_none, List.length_append, List.length_replicate, List.length_cons]
      push_cast
      omega
    rw [hvalue, hpower]

/-- From one on: the digits around the point, or before it with zeros behind them. -/
theorem spellsRounded_positional (negative : Bool) (hc : c ≠ Decimal.digit 0) {exponent : Int}
    (h : 0 ≤ exponent) :
    SpellsRounded negative (Decimal.value (c :: rest) * 10 ^ (exponent - rest.length))
      (List.take (exponent.toNat + 1) (c :: rest) ++
        List.replicate (exponent.toNat + 1 - (c :: rest).length) (Decimal.digit 0) ++ "." ++
        (if (List.drop (exponent.toNat + 1) (c :: rest)).isEmpty then
          List.replicate 1 (Decimal.digit 0)
        else List.drop (exponent.toNat + 1) (c :: rest))) := by
  obtain ⟨n, rfl⟩ := Int.eq_ofNat_of_zero_le h
  rw [Int.toNat_natCast]
  by_cases hlong : n + 1 < (c :: rest).length
  · -- The digits go on behind the point.
    have hne : List.drop (n + 1) (c :: rest) ≠ [] := by
      rw [ne_eq, List.drop_eq_nil_iff, not_le]
      exact hlong
    have hfraction : IsDigits (List.drop (n + 1) (c :: rest)) :=
      ⟨hne, fun d hd => hall d (List.mem_of_mem_drop hd)⟩
    have hwhole : IsWhole (c :: List.take n rest) :=
      isWhole_cons hall hc fun d hd => hall d (List.mem_cons_of_mem _ (List.mem_of_mem_take hd))
    have hsplit : c :: List.take n rest ++ List.drop (n + 1) (c :: rest) = c :: rest :=
      List.take_append_drop (n + 1) (c :: rest)
    have hpower : (none : Option Int).getD 0 - ((List.drop (n + 1) (c :: rest)).length : Int) =
        n - rest.length := by
      rw [List.length_cons] at hlong
      rw [Option.getD_none, List.length_drop, List.length_cons]
      omega
    rw [if_neg (by rwa [List.isEmpty_iff]), Nat.sub_eq_zero_of_le hlong.le]
    refine spellsRounded negative hwhole (.inr ⟨hfraction, rfl⟩)
      (show SpellsPower none [] from rfl) (.inl hne) ?_ (by rw [hsplit, hpower])
    simp [Text.ofString]
  · -- All digits stand before the point, with zeros behind them.
    rw [List.length_cons] at hlong
    obtain ⟨zeros, rfl⟩ : ∃ zeros, n = rest.length + zeros := ⟨n - rest.length, by omega⟩
    have hwhole : IsWhole (c :: (rest ++ List.replicate zeros (Decimal.digit 0))) :=
      isWhole_cons hall hc fun d hd => (List.mem_append.1 hd).elim
        (fun hd => hall d (List.mem_cons_of_mem _ hd)) (isDigit_of_mem_zeros zeros d)
    have hfraction : IsDigits (List.replicate 1 (Decimal.digit 0)) :=
      ⟨List.cons_ne_nil _ _, isDigit_of_mem_zeros 1⟩
    have hvalue : Decimal.value (c :: (rest ++ List.replicate zeros (Decimal.digit 0)) ++
        List.replicate 1 (Decimal.digit 0)) = Decimal.value (c :: rest) * 10 ^ zeros * 10 := by
      rw [Decimal.value_append_zeros, ← List.cons_append, Decimal.value_append_zeros, Nat.pow_one]
    have hdrop : List.drop (rest.length + zeros + 1) (c :: rest) = [] :=
      List.drop_eq_nil_iff.2 (by rw [List.length_cons]; omega)
    have htake : List.take (rest.length + zeros + 1) (c :: rest) = c :: rest :=
      List.take_of_length_le (by rw [List.length_cons]; omega)
    have hcount : rest.length + zeros + 1 - (c :: rest).length = zeros := by
      rw [List.length_cons]
      omega
    rw [hdrop, htake, hcount]
    refine spellsRounded negative hwhole (.inr ⟨hfraction, rfl⟩)
      (show SpellsPower none [] from rfl) (.inl hfraction.1) (by simp [Text.ofString]) ?_
    rw [hvalue, Nat.cast_add, add_sub_cancel_left, zpow_natCast]
    push_cast
    norm_num
    ring

end Forms

/-- The text of a positive decimal spells the double that the decimal is rounded to. -/
theorem Scientific.spellsRounded_text (negative : Bool) {d : Scientific} (h : 0 < d.digits) :
    SpellsRounded negative d.toRat d.text := by
  obtain ⟨c, rest, count, hdigits, hc, hall, hlength, hvalue⟩ :=
    Decimal.exists_cons_trimRight_ofNat h
  have hrat : d.toRat = (Decimal.value (c :: rest) : ℚ) *
      10 ^ (d.exponent + (Decimal.ofNat d.digits).length - 1 - rest.length) := by
    have hexponent : d.exponent + ((c :: rest).length + count : Nat) - 1 - rest.length =
        count + d.exponent := by
      rw [List.length_cons]
      push_cast
      ring
    rw [hlength, hexponent, toRat, ← hvalue, zpow_add₀ (by norm_num), zpow_natCast]
    push_cast
    ring
  unfold text
  simp only [hdigits]
  generalize d.exponent + (Decimal.ofNat d.digits).length - 1 = exponent at hrat ⊢
  rw [hrat]
  split
  · exact spellsRounded_scientific hall negative hc exponent _
  · split
    · next hsmall => exact spellsRounded_small hall negative hsmall
    · next hsmall => exact spellsRounded_positional hall negative hc (not_lt.1 hsmall)

/-- The text of a finite double spells a double: zero, or the one that its shortest decimal is
rounded to. -/
theorem spellsRounded_finiteText (negative : Bool) (significand : Nat) (exponent : Int) :
    ∃ t, finiteText negative significand exponent = minusSign negative ++ t ∧
      SpellsRounded negative
        (if significand = 0 then 0
        else ((interval significand exponent).shortest 1 16).toRat) t := by
  have hsign (t : Text) : (if negative then "-" ++ t else t) = minusSign negative ++ t := by
    cases negative <;> rfl
  refine ⟨_, hsign _, ?_⟩
  split
  · have hzero : IsWhole "0" := .inl rfl
    refine spellsRounded negative hzero (.inr ⟨hzero.isDigits, rfl⟩)
      (show SpellsPower none [] from rfl) (.inl nofun) rfl ?_
    have hvalue : Decimal.value (Text.ofString "0" ++ Text.ofString "0") = 0 := rfl
    rw [hvalue, Nat.cast_zero, zero_mul]
  · next hzero =>
    refine Scientific.spellsRounded_text negative (Interval.digits_pos_shortest ?_ ?_ ?_ 16 1)
    · unfold interval
      dsimp only
      split <;> omega
    · exact Nat.pow_pos (by decide)
    · exact Nat.mul_pos (by decide) (Nat.pos_of_ne_zero hzero)

/-- The text of a finite double spells a double. -/
theorem spellsNumber_finiteText (negative : Bool) (significand : Nat) (exponent : Int) :
    ∃ y, SpellsNumber (.float y) (finiteText negative significand exponent) := by
  obtain ⟨t, ht, digits, power, -, -, hspells⟩ :=
    spellsRounded_finiteText negative significand exponent
  exact ⟨_, ht ▸ hspells⟩

/-- A double is read back from its text: the shortest decimal is rounded to the double that it is
the text of. -/
theorem reread_eq_self {x : Double} (h : x.isCanonical = true) : x.reread = x := by
  cases x with
  | nan => rfl
  | infinite negative => cases negative <;> rfl
  | finite negative significand exponent =>
    have h : IsNormalized significand exponent := of_decide_eq_true h
    obtain ⟨t, ht, digits, power, hdigits, hvalue, hspells⟩ :=
      spellsRounded_finiteText negative significand exponent
    have hread : number (minusSign negative ++ t ++ []) =
        .ok (.float (ofDecimal negative digits power), []) :=
      number_append hspells rfl trivial
    rw [List.append_nil, ← ht] at hread
    have hreread : (finite negative significand exponent).reread =
        ofDecimal negative digits power := by rw [reread, jsonText, hread]
    rw [hreread]
    by_cases hzero : significand = 0
    · rw [if_pos hzero] at hvalue
      have hdigit : Decimal.value digits = 0 := by
        rcases mul_eq_zero.1 hvalue with hvalue | hpower
        · exact_mod_cast hvalue
        · exact absurd hpower (by positivity)
      have hleast : exponent = minExponent := h.normal.resolve_left (by rw [hzero]; decide)
      rw [ofDecimal_of_value_eq_zero hdigits hdigit, zero, hzero, hleast]
    · rw [if_neg hzero] at hvalue
      have hpos := Nat.pos_of_ne_zero hzero
      refine ofDecimal_of_holds hdigits hpos h ?_
      rw [hvalue]
      exact holds_shortest hpos h

end Double

namespace Json

/-- The text of a double spells that double as it is reread. -/
theorem spells_jsonText (x : Double) : Spells (.value (.float x.reread)) x.jsonText := by
  have hname {x : Double} (hmem : (x.jsonText, .float x) ∈ names) (hreread : x.reread = x) :
      Spells (.value (.float x.reread)) x.jsonText := by
    rw [hreread]
    exact .name hmem
  cases x with
  | nan => exact hname (by simp [names, Double.jsonText]) rfl
  | infinite negative =>
    cases negative <;> exact hname (by simp [names, Double.jsonText]) rfl
  | finite negative significand exponent =>
    obtain ⟨y, hy⟩ := Double.spellsNumber_finiteText negative significand exponent
    have hread : number (Double.finiteText negative significand exponent ++ []) =
        .ok (.float y, []) := number_append hy rfl trivial
    rw [List.append_nil] at hread
    have hreread : (Double.finite negative significand exponent).reread = y := by
      rw [Double.reread, Double.jsonText, hread]
    rw [hreread]
    exact .number hy

/-! ## Values with their doubles reread -/

mutual

/-- Every double replaced by the one that is read from its text. -/
def reread : Json → Json
  | .float x => .float x.reread
  | .arr items => .arr (rereadItems items)
  | .obj members => .obj (rereadMembers members)
  | .null => .null
  | .bool b => .bool b
  | .int n => .int n
  | .text t => .text t
termination_by structural v => v

/-- Each of the values reread. -/
def rereadItems : List Json → List Json
  | [] => []
  | item :: items => reread item :: rereadItems items
termination_by structural vs => vs

/-- The value of each of the members reread. -/
def rereadMembers : List (Text × Json) → List (Text × Json)
  | [] => []
  | (key, value) :: members => (key, reread value) :: rereadMembers members
termination_by structural ms => ms

end

/-- A value is no double. -/
def isExactNode : Json → Bool
  | .float _ => false
  | _ => true

/-- A value without doubles. -/
def isExact (v : Json) : Bool := v.all isExactNode

/-- A value is no finite double with parts out of their bounds. -/
def isCanonicalNode : Json → Bool
  | .float x => x.isCanonical
  | _ => true

/-- A value all of whose doubles have their parts in their bounds. -/
def isCanonical (v : Json) : Bool := v.all isCanonicalNode

theorem rereadMembers_eq_map (members : List (Text × Json)) :
    rereadMembers members = members.map fun m => (m.1, m.2.reread) := by
  induction members with
  | nil => rfl
  | cons member members ih => rw [List.map_cons, ← ih, rereadMembers]

theorem lookup_rereadMembers (members : List (Text × Json)) (key : Text) :
    (rereadMembers members).lookup key = (members.lookup key).map reread := by
  rw [rereadMembers_eq_map, Entries.lookup_map]

mutual

theorem all_reread {p q : Json → Bool} (h : ∀ v, p v = true → q v.reread = true) :
    ∀ v : Json, v.all p = true → v.reread.all q = true
  | .null, hv | .bool _, hv | .int _, hv | .float _, hv | .text _, hv => h _ hv
  | .arr items, hv => by
    rw [all, Bool.and_eq_true] at hv
    rw [reread, all, Bool.and_eq_true]
    exact ⟨h _ hv.1, all_rereadItems h items hv.2⟩
  | .obj members, hv => by
    rw [all, Bool.and_eq_true] at hv
    rw [reread, all, Bool.and_eq_true]
    exact ⟨h _ hv.1, all_rereadMembers h members hv.2⟩
termination_by structural v => v

theorem all_rereadItems {p q : Json → Bool} (h : ∀ v, p v = true → q v.reread = true) :
    ∀ items : List Json, allItems p items = true → allItems q (rereadItems items) = true
  | [], _ => rfl
  | item :: items, hv => by
    rw [allItems, Bool.and_eq_true] at hv
    rw [rereadItems, allItems, Bool.and_eq_true]
    exact ⟨all_reread h item hv.1, all_rereadItems h items hv.2⟩
termination_by structural vs => vs

theorem all_rereadMembers {p q : Json → Bool} (h : ∀ v, p v = true → q v.reread = true) :
    ∀ members : List (Text × Json), allMembers p members = true →
      allMembers q (rereadMembers members) = true
  | [], _ => rfl
  | (_, value) :: members, hv => by
    rw [allMembers, Bool.and_eq_true] at hv
    rw [rereadMembers, allMembers, Bool.and_eq_true]
    exact ⟨all_reread h value hv.1, all_rereadMembers h members hv.2⟩
termination_by structural ms => ms

end

mutual

/-- A value is what is read back of its doubles. -/
theorem reread_of_isCanonical : ∀ v : Json, v.isCanonical = true → v.reread = v
  | .null, _ | .bool _, _ | .int _, _ | .text _, _ => rfl
  | .float x, h => congrArg Json.float (Double.reread_eq_self h)
  | .arr items, h => by
    rw [isCanonical, all, Bool.and_eq_true] at h
    rw [reread, rereadItems_of_isCanonical items h.2]
  | .obj members, h => by
    rw [isCanonical, all, Bool.and_eq_true] at h
    rw [reread, rereadMembers_of_isCanonical members h.2]
termination_by structural v => v

theorem rereadItems_of_isCanonical :
    ∀ items : List Json, allItems isCanonicalNode items = true → rereadItems items = items
  | [], _ => rfl
  | item :: items, h => by
    rw [allItems, Bool.and_eq_true] at h
    rw [rereadItems, reread_of_isCanonical item h.1, rereadItems_of_isCanonical items h.2]
termination_by structural vs => vs

theorem rereadMembers_of_isCanonical :
    ∀ members : List (Text × Json), allMembers isCanonicalNode members = true →
      rereadMembers members = members
  | [], _ => rfl
  | (_, value) :: members, h => by
    rw [allMembers, Bool.and_eq_true] at h
    rw [rereadMembers, reread_of_isCanonical value h.1, rereadMembers_of_isCanonical members h.2]
termination_by structural ms => ms

end

/-- Without doubles there is nothing to reread. -/
theorem reread_eq_self (v : Json) (h : v.isExact = true) : v.reread = v :=
  reread_of_isCanonical v (all_mono (fun v hv => by cases v <;> first | rfl | cases hv) v h)

/-! ## Merging -/

mutual

/-- Members are merged by their keys, so it does not matter whether their values are reread before
or after. -/
theorem merge_reread : ∀ v : Json, v.reread.merge = v.merge.reread
  | .null | .bool _ | .int _ | .float _ | .text _ => rfl
  | .arr items => by
    rw [reread, merge, merge, reread, mergeItems_rereadItems items]
  | .obj members => by
    rw [reread, merge, merge, reread, mergeMembers_rereadMembers members, rereadMembers_eq_map,
      rereadMembers_eq_map, Entries.ofList_map]
termination_by structural v => v

theorem mergeItems_rereadItems :
    ∀ items : List Json, mergeItems (rereadItems items) = rereadItems (mergeItems items)
  | [] => rfl
  | v :: items => by
    rw [rereadItems, mergeItems, mergeItems, rereadItems, merge_reread v,
      mergeItems_rereadItems items]
termination_by structural vs => vs

theorem mergeMembers_rereadMembers :
    ∀ members : List (Text × Json),
      mergeMembers (rereadMembers members) = rereadMembers (mergeMembers members)
  | [] => rfl
  | (_, v) :: members => by
    rw [rereadMembers, mergeMembers, mergeMembers, rereadMembers, merge_reread v,
      mergeMembers_rereadMembers members]
termination_by structural ms => ms

end

end Json

end SignedSetup
