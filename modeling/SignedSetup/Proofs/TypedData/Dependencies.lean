import Mathlib.Data.List.Nodup
import Mathlib.Data.List.Perm.Subperm
import SignedSetup.Proofs.Results
import SignedSetup.TypedData.Declarations

/-!
# The search for dependencies ends

Declared types may refer to each other in circles. The search for the types that a type depends on
is here a relation without a bound on its steps (`Visits`): a list of names is pending, and a type
that was seen is not entered again. The bounded search `Declarations.reach` finds the outcome of the
unbounded one whatever the declarations are (`reach_eq_iff`), and there is just one. The names seen
are different and declared, so a chain of types that are entered one within another is no longer
than the declarations.
-/

namespace SignedSetup.TypedData.Declarations

/-- A name needs no visit: it is that of an atomic type or was seen. -/
def isKnown (seen : List Text) (name : Text) : Bool :=
  (Atomic.ofName? name).isSome || seen.contains name

/-- The search through pending names ends with an outcome, after the given names were seen. -/
inductive Visits (types : Declarations) :
    List Text → List Text → Except Fault (List Text) → Prop where
  | done {seen : List Text} : Visits types seen [] (.ok seen)
  | malformed {seen pending : List Text} {type : Text} {e : Fault} :
      coreName type = .error e → Visits types seen (type :: pending) (.error e)
  | known {seen pending : List Text} {type name : Text} {r : Except Fault (List Text)} :
      coreName type = .ok name → isKnown seen name = true → Visits types seen pending r →
        Visits types seen (type :: pending) r
  | undefined {seen pending : List Text} {type name : Text} :
      coreName type = .ok name → isKnown seen name = false → types.lookup name = none →
        Visits types seen (type :: pending) (.error (.undefinedType name))
  | declared {seen pending : List Text} {type name : Text} {members : List Member}
      {r : Except Fault (List Text)} :
      coreName type = .ok name → isKnown seen name = false → types.lookup name = some members →
        Visits types (name :: seen) (members.map Member.type ++ pending) r →
          Visits types seen (type :: pending) r

variable {types : Declarations}

/-- A search has one outcome. -/
theorem Visits.unique {seen pending : List Text} {r s : Except Fault (List Text)}
    (hr : Visits types seen pending r) (hs : Visits types seen pending s) : r = s := by
  induction hr with
  | done =>
    cases hs
    rfl
  | malformed hname =>
    cases hs <;> simp_all
  | known hname hknown _ ih =>
    cases hs with
    | known hname' _ hs => exact ih hs
    | malformed hname' => simp_all
    | undefined hname' hknown' => simp_all
    | declared hname' hknown' => simp_all
  | undefined hname hknown hlookup =>
    cases hs with
    | undefined hname' _ _ => rw [Except.ok.inj (hname.symm.trans hname')]
    | malformed hname' => simp_all
    | known hname' hknown' => simp_all
    | declared hname' _ hlookup' =>
      obtain rfl := Except.ok.inj (hname.symm.trans hname')
      rw [hlookup] at hlookup'
      cases hlookup'
  | declared hname hknown hlookup _ ih =>
    cases hs with
    | declared hname' _ hlookup' hs =>
      obtain rfl := Except.ok.inj (hname.symm.trans hname')
      obtain rfl := Option.some.inj (hlookup.symm.trans hlookup')
      exact ih hs
    | malformed hname' => simp_all
    | known hname' hknown' => simp_all
    | undefined hname' _ hlookup' =>
      obtain rfl := Except.ok.inj (hname.symm.trans hname')
      rw [hlookup] at hlookup'
      cases hlookup'

/-! ## The bound -/

/-- The names are different, and each of them is declared. -/
structure IsTrail (types : Declarations) (seen : List Text) : Prop where
  nodup : seen.Nodup
  declared : seen ⊆ Entries.keys types

theorem IsTrail.length_le {seen : List Text} (h : IsTrail types seen) :
    seen.length ≤ types.length := by
  have hlength := (List.subperm_of_subset h.nodup h.declared).length_le
  rwa [Entries.keys, List.length_map] at hlength

theorem mem_keys_of_lookup {name : Text} {members : List Member}
    (h : types.lookup name = some members) : name ∈ Entries.keys types := by
  obtain ⟨before, after, heq, -⟩ := List.lookup_eq_some_iff.1 h
  have hmem : (name, members) ∈ types := by
    rw [heq]
    exact List.mem_append_right _ List.mem_cons_self
  exact List.mem_map_of_mem hmem

/-- A new declared name goes on with a trail. -/
theorem IsTrail.cons {seen : List Text} (h : IsTrail types seen) {name : Text}
    {members : List Member} (hknown : isKnown seen name = false)
    (hlookup : types.lookup name = some members) : IsTrail types (name :: seen) := by
  obtain ⟨-, hseen⟩ := Bool.or_eq_false_iff.1 hknown
  refine ⟨List.nodup_cons.2 ⟨?_, h.nodup⟩,
    List.cons_subset.2 ⟨mem_keys_of_lookup hlookup, h.declared⟩⟩
  intro hmem
  rw [List.contains_iff_mem.2 hmem] at hseen
  cases hseen

/-- A result is where the search is after the names: it goes on from there with what is pending, or
has failed. -/
structure Explores (types : Declarations) (seen names : List Text)
    (r : Except Fault (List Text)) : Prop where
  ok : ∀ seen', r = .ok seen' → IsTrail types seen' ∧ seen.length ≤ seen'.length ∧
    ∀ pending s, Visits types seen' pending s → Visits types seen (names ++ pending) s
  error : ∀ e, r = .error e → ∀ pending, Visits types seen (names ++ pending) (.error e)

/-- The fuel is enough for the declared names that were not seen. -/
def IsEnough (types : Declarations) (fuel : Nat) (seen : List Text) : Prop :=
  types.length < fuel + seen.length

theorem explores_foldlM {fuel : Nat}
    (hreach : ∀ seen type, IsTrail types seen → IsEnough types fuel seen →
      Explores types seen [type] (reach types fuel seen type)) :
    ∀ (names : List Text) {seen : List Text}, IsTrail types seen → IsEnough types fuel seen →
      Explores types seen names (names.foldlM (reach types fuel) seen) := by
  intro names
  induction names with
  | nil =>
    intro seen htrail _
    refine ⟨fun seen' h => ?_, nofun⟩
    obtain rfl := Except.ok.inj h
    exact ⟨htrail, Nat.le_refl _, fun _ _ h => h⟩
  | cons type names ih =>
    intro seen htrail hfuel
    have hfirst := hreach seen type htrail hfuel
    rw [List.foldlM_cons]
    cases hr : reach types fuel seen type with
    | error e =>
      refine ⟨nofun, fun e' he pending => ?_⟩
      obtain rfl := Except.error.inj he
      exact hfirst.error _ hr (names ++ pending)
    | ok middle =>
      obtain ⟨htrail', hlength, hgoOn⟩ := hfirst.ok _ hr
      have hrest := ih htrail' (Nat.lt_of_lt_of_le hfuel (Nat.add_le_add_left hlength fuel))
      rw [ok_bind]
      refine ⟨fun seen' h => ?_, fun e he pending => hgoOn _ _ (hrest.error e he pending)⟩
      obtain ⟨htrail'', hlength', hgoOn'⟩ := hrest.ok seen' h
      exact ⟨htrail'', Nat.le_trans hlength hlength',
        fun pending s hs => hgoOn _ _ (hgoOn' pending s hs)⟩

/-- The bounded search from a type, one step unfolded. -/
theorem reach_succ (fuel : Nat) (seen : List Text) (type : Text) :
    reach types (fuel + 1) seen type =
      match coreName type with
      | .error e => .error e
      | .ok name =>
        if isKnown seen name then .ok seen
        else
          match types.lookup name with
          | none => .error (.undefinedType name)
          | some members => (members.map Member.type).foldlM (reach types fuel) (name :: seen) := by
  rw [reach]
  cases coreName type with
  | error e => rfl
  | ok name => rfl

theorem explores_reach (fuel : Nat) : ∀ (seen : List Text) (type : Text), IsTrail types seen →
    IsEnough types fuel seen → Explores types seen [type] (reach types fuel seen type) := by
  induction fuel with
  | zero =>
    intro seen type htrail hfuel
    have hlt : types.length < 0 + seen.length := hfuel
    have := htrail.length_le
    omega
  | succ fuel ih =>
    intro seen type htrail hfuel
    rw [reach_succ]
    cases hname : coreName type with
    | error e =>
      refine ⟨nofun, fun e' he pending => ?_⟩
      obtain rfl := Except.error.inj he
      exact .malformed hname
    | ok name =>
      dsimp only
      cases hknown : isKnown seen name with
      | true =>
        rw [if_pos rfl]
        refine ⟨fun seen' h => ?_, nofun⟩
        obtain rfl := Except.ok.inj h
        exact ⟨htrail, Nat.le_refl _, fun pending s hs => .known hname hknown hs⟩
      | false =>
        rw [if_neg Bool.false_ne_true]
        cases hlookup : types.lookup name with
        | none =>
          refine ⟨nofun, fun e' he pending => ?_⟩
          obtain rfl := Except.error.inj he
          exact .undefined hname hknown hlookup
        | some members =>
          -- The name counts against the fuel that entering it takes.
          have henough : IsEnough types fuel (name :: seen) := by
            unfold IsEnough at hfuel ⊢
            rw [List.length_cons]
            omega
          have hmembers := explores_foldlM ih (members.map Member.type)
            (htrail.cons hknown hlookup) henough
          refine ⟨fun seen' h => ?_, fun e he pending => ?_⟩
          · obtain ⟨htrail', hlength, hgoOn⟩ := hmembers.ok seen' h
            exact ⟨htrail', Nat.le_of_succ_le hlength,
              fun pending s hs => .declared hname hknown hlookup (hgoOn pending s hs)⟩
          · exact .declared hname hknown hlookup (hmembers.error e he pending)

/-- The search from a type ends, whatever the declarations, and the bounded search finds its
outcome. -/
theorem visits_reach (types : Declarations) (type : Text) :
    Visits types [] [type] (reach types (types.length + 1) [] type) := by
  have hexplores := explores_reach (types.length + 1) [] type ⟨List.nodup_nil, List.nil_subset _⟩
    (show types.length < types.length + 1 + 0 by omega)
  cases hr : reach types (types.length + 1) [] type with
  | error e => exact hexplores.error e hr []
  | ok seen => exact (hexplores.ok seen hr).2.2 [] _ .done

theorem reach_eq_iff {types : Declarations} {type : Text} {r : Except Fault (List Text)} :
    reach types (types.length + 1) [] type = r ↔ Visits types [] [type] r :=
  ⟨fun h => h ▸ visits_reach types type, fun h => (visits_reach types type).unique h⟩

end SignedSetup.TypedData.Declarations
