import Mathlib.Data.List.TakeWhile
import SignedSetup.Proofs.Json.Grammar
import SignedSetup.Proofs.Number.Decimal
import SignedSetup.Proofs.Results

/-!
# Numbers are read as the grammar has them

The reader of numbers takes what the grammar calls a number, and takes it whole: `number_eq_ok` says
that it accepts nothing else, `number_append` that it accepts all of it wherever no number goes on.
The one difference is the limit on the digits of an integer. A whole part has no leading zeros, so
that its length says the same as the size of its value (`exceedsLimit_value`).
-/

namespace SignedSetup

namespace Json

/-- The value of a whole part is too great to be told iff the part is too long to be read. -/
theorem exceedsLimit_value {ws : Text} (h : IsWhole ws) :
    Decimal.exceedsLimit (Decimal.value ws) = false ↔ ws.length ≤ Decimal.limit := by
  rw [Decimal.exceedsLimit, decide_eq_false_iff_not, Nat.not_le]
  rcases h with rfl | ⟨hdigits, hzero⟩
  · exact ⟨fun _ => by decide, fun _ => Nat.pow_pos (by decide)⟩
  · obtain ⟨c, ds, rfl, hc⟩ := hdigits.exists_cons
    have hzero : c ≠ CodePoint.ofChar '0' := fun heq => hzero (congrArg some heq)
    constructor
    · intro hlt
      have hle : 10 ^ ds.length ≤ Decimal.value (c :: ds) := Decimal.pow_le_value_cons hc hzero
      exact (Nat.pow_lt_pow_iff_right (by decide)).1 (Nat.lt_of_le_of_lt hle hlt)
    · intro hle
      exact Nat.lt_of_lt_of_le (Decimal.value_lt_pow hdigits.2)
        (Nat.pow_le_pow_right (by decide) hle)

theorem natAbs_signed (negative : Bool) (n : Nat) : (signed negative n).natAbs = n := by
  cases negative with
  | false => exact Int.natAbs_natCast n
  | true => exact (Int.natAbs_neg n).trans (Int.natAbs_natCast n)

theorem isReadableNode_signed (negative : Bool) {ws : Text} (h : IsWhole ws) :
    isReadableNode (.int (signed negative (Decimal.value ws))) = true ↔
      ws.length ≤ Decimal.limit := by
  rw [isReadableNode, natAbs_signed, Bool.not_eq_true', exceedsLimit_value h]

/-! ## Digits -/

/-- A text does not go on with a digit. -/
def EndsDigits : Text → Prop
  | [] => True
  | c :: _ => Decimal.isDigit c = false

theorem EndsNumber.endsDigits {t : Text} (h : EndsNumber t) : EndsDigits t := by
  cases t with
  | nil => trivial
  | cons c t => exact h.1

theorem digits_append_of_endsDigits {ds rest : Text} (h : ∀ c ∈ ds, Decimal.isDigit c = true)
    (hrest : EndsDigits rest) : digits (ds ++ rest) = (ds, rest) := by
  rw [digits, List.takeWhile_append_of_pos h, List.dropWhile_append_of_pos h]
  cases rest with
  | nil => simp
  | cons c rest =>
    rw [List.takeWhile_cons, List.dropWhile_cons, show Decimal.isDigit c = false from hrest,
      if_neg (by decide), if_neg (by decide), List.append_nil]

theorem digits_eq {t ds rest : Text} (h : digits t = (ds, rest)) :
    t = ds ++ rest ∧ ∀ c ∈ ds, Decimal.isDigit c = true := by
  obtain ⟨rfl, rfl⟩ := Prod.mk.inj h
  exact ⟨List.takeWhile_append_dropWhile.symm, fun c hc => List.mem_takeWhile_imp hc⟩

/-! ## Parts of a number -/

theorem whole?_eq_some {t ws rest : Text} (h : whole? t = some (ws, rest)) :
    t = ws ++ rest ∧ IsWhole ws := by
  cases t with
  | nil => cases h
  | cons c t =>
    unfold whole? at h
    dsimp only at h
    split at h
    · next hc =>
      obtain ⟨rfl, rfl⟩ := Prod.mk.inj (Option.some.inj h)
      exact ⟨rfl, .inl (by rw [hc])⟩
    · next hzero =>
      split at h
      · next hc =>
        obtain ⟨heq, hdigits⟩ := digits_eq (Option.some.inj h)
        have hws : ws ≠ [] := by
          rintro rfl
          rw [List.nil_append] at heq
          have htake := congrArg Prod.fst (Option.some.inj h)
          rw [digits, List.takeWhile_cons, hc, if_pos rfl] at htake
          cases htake
        refine ⟨heq, .inr ⟨⟨hws, hdigits⟩, ?_⟩⟩
        obtain ⟨d, ws, rfl⟩ := List.exists_cons_of_ne_nil hws
        rw [List.cons_append] at heq
        rw [← (List.cons.inj heq).1]
        exact fun h => hzero (Option.some.inj h)
      · cases h

theorem whole?_append {ws rest : Text} (h : IsWhole ws) (hrest : EndsDigits rest) :
    whole? (ws ++ rest) = some (ws, rest) := by
  rcases h with rfl | ⟨hdigits, hzero⟩
  · rfl
  · have htake := digits_append_of_endsDigits hdigits.2 hrest
    obtain ⟨c, ds, rfl, hc⟩ := hdigits.exists_cons
    have hzero : c ≠ CodePoint.ofChar '0' := fun heq => hzero (congrArg some heq)
    rw [List.cons_append] at htake ⊢
    simp only [whole?, hzero, if_false, hc, if_true, htake]

theorem fraction_eq (t : Text) :
    ∃ spelled, t = spelled ++ (fraction t).2 ∧ SpellsFraction (fraction t).1 spelled := by
  cases t with
  | nil => exact ⟨[], rfl, .inl ⟨rfl, rfl⟩⟩
  | cons c t =>
    by_cases hc : c = CodePoint.ofChar '.'
    · obtain ⟨heq, hdigits⟩ := digits_eq (rfl : digits t = (_, _))
      by_cases hds : (digits t).1 = []
      · have hfraction : fraction (c :: t) = ([], c :: t) := by
          simp only [fraction, hc, if_true, hds, List.isEmpty_nil]
        rw [hfraction]
        exact ⟨[], rfl, .inl ⟨rfl, rfl⟩⟩
      · have hfraction : fraction (c :: t) = digits t := by
          have hne := List.isEmpty_eq_false_iff.2 hds
          simp only [fraction, hc, if_true, hne, Bool.false_eq_true, if_false]
        rw [hfraction, hc]
        exact ⟨CodePoint.ofChar '.' :: (digits t).1,
          congrArg (CodePoint.ofChar '.' :: ·) heq, .inr ⟨⟨hds, hdigits⟩, rfl⟩⟩
    · have hfraction : fraction (c :: t) = ([], c :: t) := by
        simp only [fraction, hc, if_false]
      rw [hfraction]
      exact ⟨[], rfl, .inl ⟨rfl, rfl⟩⟩

theorem fraction_append {ds t rest : Text} (h : SpellsFraction ds t) (hdigits : EndsDigits rest)
    (hpoint : rest.head? ≠ some (CodePoint.ofChar '.')) : fraction (t ++ rest) = (ds, rest) := by
  rcases h with ⟨rfl, rfl⟩ | ⟨hds, rfl⟩
  · cases rest with
    | nil => rfl
    | cons c rest =>
      have hc : c ≠ CodePoint.ofChar '.' := fun heq => hpoint (congrArg some heq)
      rw [List.nil_append]
      simp only [fraction, hc, if_false]
  · have hne := List.isEmpty_eq_false_iff.2 hds.1
    rw [List.cons_append]
    simp only [fraction, if_true, digits_append_of_endsDigits hds.2 hdigits, hne,
      Bool.false_eq_true, if_false]

theorem sign_eq (t : Text) :
    ∃ spelled, t = spelled ++ (sign t).2 ∧ SpellsSign (sign t).1 spelled := by
  cases t with
  | nil => exact ⟨[], rfl, .none⟩
  | cons c t =>
    unfold sign
    dsimp only
    split
    · next hc => exact ⟨[CodePoint.ofChar '-'], by rw [hc]; rfl, .minus⟩
    · split
      · next hc => exact ⟨[CodePoint.ofChar '+'], by rw [hc]; rfl, .plus⟩
      · exact ⟨[], rfl, .none⟩

theorem sign_append {negative : Bool} {t ds : Text} (h : SpellsSign negative t) (hds : IsDigits ds)
    (rest : Text) : sign (t ++ (ds ++ rest)) = (negative, ds ++ rest) := by
  cases h with
  | none =>
    obtain ⟨c, ds, rfl, hc⟩ := hds.exists_cons
    have hminus : c ≠ CodePoint.ofChar '-' := by
      rintro rfl
      cases hc
    have hplus : c ≠ CodePoint.ofChar '+' := by
      rintro rfl
      cases hc
    rw [List.nil_append, List.cons_append]
    simp only [sign, hminus, hplus, if_false]
  | plus => rfl
  | minus => rfl

theorem power?_eq_some {t rest : Text} {p : Int} (h : power? t = some (p, rest)) :
    ∃ spelled, t = spelled ++ rest ∧ SpellsPower (some p) spelled := by
  cases t with
  | nil => cases h
  | cons c t =>
    unfold power? at h
    dsimp only at h
    split at h
    · next hmark =>
      rw [Bool.or_eq_true, decide_eq_true_eq, decide_eq_true_eq] at hmark
      split at h
      · cases h
      · next hne =>
        obtain ⟨hp, rfl⟩ := Prod.mk.inj (Option.some.inj h)
        obtain ⟨spelled, hsign, hspells⟩ := sign_eq t
        obtain ⟨hdigits, hall⟩ :=
          digits_eq (Prod.mk.eta (p := digits (sign t).2)).symm
        have hne := List.isEmpty_eq_false_iff.1 (Bool.not_eq_true _ ▸ hne)
        refine ⟨c :: (spelled ++ (digits (sign t).2).1), ?_,
          ⟨c, _, spelled, _, hmark, hspells, ⟨hne, hall⟩, rfl, hp.symm⟩⟩
        rw [List.cons_append, List.append_assoc, ← hdigits, ← hsign]
    · cases h

theorem power?_append {p : Option Int} {t rest : Text} (h : SpellsPower p t)
    (hrest : EndsNumber rest) : power? (t ++ rest) = p.map fun n => (n, rest) := by
  cases p with
  | none =>
    obtain rfl : t = [] := h
    exact power?_of_endsNumber hrest
  | some p =>
    obtain ⟨mark, negative, spelled, ds, hmark, hsign, hds, rfl, rfl⟩ := h
    have hmark : (decide (mark = CodePoint.ofChar 'e') || decide (mark = CodePoint.ofChar 'E')) =
        true := by
      rwa [Bool.or_eq_true, decide_eq_true_eq, decide_eq_true_eq]
    have hne := List.isEmpty_eq_false_iff.2 hds.1
    rw [List.cons_append, List.append_assoc]
    simp only [power?, hmark, if_true, sign_append hsign hds,
      digits_append_of_endsDigits hds.2 hrest.endsDigits, hne, Bool.false_eq_true, if_false]
    rfl

/-! ## Numbers -/

/-- A number from its whole part on. -/
def afterWhole (negative : Bool) (ws rest : Text) : Except Stop (Json × Text) :=
  let (fs, rest) := fraction rest
  match fs, power? rest with
  | [], none =>
    match Decimal.read ws with
    | .error e => .error (.tooLong e)
    | .ok n => .ok (.int (signed negative n), rest)
  | fs, none => .ok (.float (Double.ofDecimal negative (ws ++ fs) (-(fs.length : Int))), rest)
  | fs, some (p, rest) =>
    .ok (.float (Double.ofDecimal negative (ws ++ fs) (p - (fs.length : Int))), rest)

theorem afterWhole_of_integer {negative : Bool} {ws t rest : Text}
    (hfraction : fraction t = ([], rest)) (hpower : power? rest = none) :
    afterWhole negative ws t =
      match Decimal.read ws with
      | .error e => .error (.tooLong e)
      | .ok n => .ok (.int (signed negative n), rest) := by
  simp only [afterWhole, hfraction, hpower]

theorem afterWhole_of_fraction {negative : Bool} {ws t fs rest : Text}
    (hfraction : fraction t = (fs, rest)) (hfs : fs ≠ []) (hpower : power? rest = none) :
    afterWhole negative ws t =
      .ok (.float (Double.ofDecimal negative (ws ++ fs) (-(fs.length : Int))), rest) := by
  obtain ⟨c, ds, rfl⟩ := List.exists_cons_of_ne_nil hfs
  simp only [afterWhole, hfraction, hpower]

theorem afterWhole_of_power {negative : Bool} {ws t fs u rest : Text} {p : Int}
    (hfraction : fraction t = (fs, u)) (hpower : power? u = some (p, rest)) :
    afterWhole negative ws t =
      .ok (.float (Double.ofDecimal negative (ws ++ fs) (p - (fs.length : Int))), rest) := by
  simp only [afterWhole, hfraction, hpower]

theorem number_minus (t : Text) :
    number (CodePoint.ofChar '-' :: t) =
      match whole? t with
      | none => complain .expectingValue (CodePoint.ofChar '-' :: t)
      | some (ws, rest) => afterWhole true ws rest := rfl

theorem number_of_ne_minus {t : Text} (h : t.head? ≠ some (CodePoint.ofChar '-')) :
    number t =
      match whole? t with
      | none => complain .expectingValue t
      | some (ws, rest) => afterWhole false ws rest := by
  cases t with
  | nil => rfl
  | cons c t =>
    have hc : c ≠ CodePoint.ofChar '-' := fun heq => h (congrArg some heq)
    simp only [number, hc, if_false]
    rfl

/-- What is read after a whole part is the rest of a number. -/
theorem afterWhole_eq_ok {negative : Bool} {ws t rest : Text} {v : Json} (hws : IsWhole ws)
    (h : afterWhole negative ws t = .ok (v, rest)) :
    ∃ spelled, t = spelled ++ rest ∧ SpellsNumber v (minusSign negative ++ (ws ++ spelled)) ∧
      isReadableNode v = true := by
  obtain ⟨point, hpoint, hfraction⟩ := fraction_eq t
  have hread : fraction t = ((fraction t).1, (fraction t).2) := rfl
  generalize (fraction t).1 = fs at hpoint hfraction hread
  generalize (fraction t).2 = u at hpoint hfraction hread
  cases hpower : power? u with
  | none =>
    rcases hfraction with ⟨rfl, rfl⟩ | ⟨hfs, rfl⟩
    · rw [afterWhole_of_integer hread hpower, Decimal.read] at h
      by_cases hlength : ws.length ≤ Decimal.limit
      · rw [if_pos hlength] at h
        obtain ⟨rfl, rfl⟩ := Prod.mk.inj (Except.ok.inj h)
        have hreadable := (isReadableNode_signed negative hws).2 hlength
        refine ⟨[], hpoint, ?_, hreadable⟩
        rw [List.append_nil]
        exact .integer negative hws
      · rw [if_neg hlength] at h
        cases h
    · rw [afterWhole_of_fraction hread hfs.1 hpower] at h
      obtain ⟨rfl, rfl⟩ := Prod.mk.inj (Except.ok.inj h)
      refine ⟨_, hpoint, ?_, rfl⟩
      have hdouble := SpellsNumber.double negative hws (.inr ⟨hfs, rfl⟩)
        (show SpellsPower none [] from rfl) (.inl hfs.1)
      rwa [Option.getD_none, Int.zero_sub, List.append_nil] at hdouble
  | some r =>
    obtain ⟨p, after⟩ := r
    rw [afterWhole_of_power hread hpower] at h
    obtain ⟨spelled, hspelled, hpower⟩ := power?_eq_some hpower
    obtain ⟨rfl, rfl⟩ := Prod.mk.inj (Except.ok.inj h)
    have hdouble := SpellsNumber.double negative hws hfraction hpower (.inr rfl)
    rw [Option.getD_some] at hdouble
    refine ⟨point ++ spelled, ?_, hdouble, rfl⟩
    rw [List.append_assoc, ← hspelled]
    exact hpoint

/-- Whatever is read as a number is one. -/
theorem number_eq_ok {t rest : Text} {v : Json} (h : number t = .ok (v, rest)) :
    ∃ spelled, t = spelled ++ rest ∧ SpellsNumber v spelled ∧ isReadableNode v = true := by
  have hbody (negative : Bool) (body : Text)
      (h : (match whole? body with
        | none => complain .expectingValue t
        | some (ws, rest) => afterWhole negative ws rest) = .ok (v, rest)) :
      ∃ spelled, minusSign negative ++ body = spelled ++ rest ∧ SpellsNumber v spelled ∧
        isReadableNode v = true := by
    cases hwhole : whole? body with
    | none =>
      rw [hwhole] at h
      cases h
    | some r =>
      obtain ⟨ws, after⟩ := r
      rw [hwhole] at h
      obtain ⟨rfl, hws⟩ := whole?_eq_some hwhole
      obtain ⟨spelled, rfl, hspells, hreadable⟩ := afterWhole_eq_ok hws h
      exact ⟨_, by simp only [List.append_assoc], hspells, hreadable⟩
  by_cases hminus : t.head? = some (CodePoint.ofChar '-')
  · obtain ⟨body, rfl⟩ := List.head?_eq_some_iff.1 hminus
    exact hbody true body (number_minus body ▸ h)
  · exact hbody false t (number_of_ne_minus hminus ▸ h)

theorem endsDigits_power {p : Option Int} {t rest : Text} (h : SpellsPower p t)
    (hrest : EndsNumber rest) :
    EndsDigits (t ++ rest) ∧ (t ++ rest).head? ≠ some (CodePoint.ofChar '.') := by
  cases p with
  | none =>
    obtain rfl : t = [] := h
    refine ⟨hrest.endsDigits, ?_⟩
    cases rest with
    | nil => exact nofun
    | cons c rest => exact fun heq => hrest.2.1 (Option.some.inj heq)
  | some p =>
    obtain ⟨mark, negative, spelled, ds, rfl | rfl, -, -, rfl, -⟩ := h
    · exact ⟨rfl, fun heq => absurd (Option.some.inj heq) (by decide)⟩
    · exact ⟨rfl, fun heq => absurd (Option.some.inj heq) (by decide)⟩

theorem endsDigits_fraction {ds t rest : Text} (h : SpellsFraction ds t) (hrest : EndsDigits rest) :
    EndsDigits (t ++ rest) := by
  rcases h with ⟨rfl, rfl⟩ | ⟨-, rfl⟩
  · exact hrest
  · exact (by decide : Decimal.isDigit (CodePoint.ofChar '.') = false)

theorem number_minusSign (negative : Bool) {ws t : Text} (hws : IsWhole ws) (ht : EndsDigits t) :
    number (minusSign negative ++ (ws ++ t)) = afterWhole negative ws t := by
  have hwhole := whole?_append hws ht
  cases negative with
  | true =>
    rw [minusSign, if_pos rfl, List.singleton_append, number_minus, hwhole]
  | false =>
    have hhead : (ws ++ t).head? ≠ some (CodePoint.ofChar '-') := by
      obtain ⟨c, ds, rfl, hc⟩ := hws.isDigits.exists_cons
      intro heq
      rw [Option.some.inj heq] at hc
      cases hc
    rw [minusSign, if_neg (by decide), List.nil_append, number_of_ne_minus hhead, hwhole]

/-- A number is read as it is, wherever no number goes on. -/
theorem number_append {v : Json} {t rest : Text} (h : SpellsNumber v t)
    (hreadable : isReadableNode v = true) (hrest : EndsNumber rest) :
    number (t ++ rest) = .ok (v, rest) := by
  cases h with
  | @integer ws negative hws =>
    have hread : Decimal.read ws = .ok (Decimal.value ws) :=
      if_pos ((isReadableNode_signed negative hws).1 hreadable)
    have hfraction : fraction rest = ([], rest) := fraction_of_endsNumber hrest
    rw [List.append_assoc, number_minusSign negative hws hrest.endsDigits,
      afterWhole_of_integer hfraction (power?_of_endsNumber hrest), hread]
  | @double ws fs point power p negative hws hpoint hpower hdouble =>
    obtain ⟨hdigits, hhead⟩ := endsDigits_power hpower hrest
    have hfraction := fraction_append hpoint hdigits hhead
    rw [List.append_assoc, List.append_assoc, List.append_assoc,
      number_minusSign negative hws (endsDigits_fraction hpoint hdigits)]
    have hread := power?_append hpower hrest
    cases p with
    | some p => exact afterWhole_of_power hfraction hread
    | none =>
      have hfs : fs ≠ [] := hdouble.resolve_right Bool.false_ne_true
      obtain rfl : power = [] := hpower
      rw [afterWhole_of_fraction hfraction hfs hread, Option.getD_none, Int.zero_sub]
      rfl

end Json

end SignedSetup
