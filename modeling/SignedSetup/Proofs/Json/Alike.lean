import Mathlib.Data.List.Forall2
import SignedSetup.Proofs.Json.Within

/-!
# Values up to the order of members

Two values are alike if they are the same but for the order in which their objects list their
members (`Json.Alike`); a number is alike to the same number of the same kind alone. Objects are
compared by what is found under each key. This compares all that objects hold wherever their keys
are different (`Json.hasDistinctKeys`), and a merged value is such a one at every depth
(`hasDistinctKeys_merge`).
-/

namespace SignedSetup

namespace Json

/-- Two values are the same up to the order of members. -/
inductive Alike : Json → Json → Prop where
  | null : Alike .null .null
  | bool (b : Bool) : Alike (.bool b) (.bool b)
  | int (n : Int) : Alike (.int n) (.int n)
  | float (x : Double) : Alike (.float x) (.float x)
  | text (t : Text) : Alike (.text t) (.text t)
  | arr {vs ws : List Json} : List.Forall₂ Alike vs ws → Alike (.arr vs) (.arr ws)
  | obj {ms ns : List (Text × Json)} :
      (∀ key, Option.Rel Alike (ms.lookup key) (ns.lookup key)) → Alike (.obj ms) (.obj ns)

mutual

@[refl]
theorem Alike.refl : ∀ v : Json, Alike v v
  | .null => .null
  | .bool b => .bool b
  | .int n => .int n
  | .float x => .float x
  | .text t => .text t
  | .arr items => .arr (Alike.refl_items items)
  | .obj members => .obj (Alike.refl_members members)
termination_by structural v => v

theorem Alike.refl_items : ∀ items : List Json, List.Forall₂ Alike items items
  | [] => .nil
  | v :: items => .cons (Alike.refl v) (Alike.refl_items items)
termination_by structural vs => vs

theorem Alike.refl_members : ∀ (members : List (Text × Json)) (key : Text),
    Option.Rel Alike (members.lookup key) (members.lookup key)
  | [], _ => .none
  | (k, v) :: members, key => by
    rw [List.lookup_cons]
    cases key == k with
    | true => exact .some (Alike.refl v)
    | false => exact Alike.refl_members members key
termination_by structural ms => ms

end

theorem Alike.text? {v w : Json} (h : Alike v w) : v.text? = w.text? := by
  cases h <;> rfl

theorem Alike.exists_items {v : Json} {ws : List Json} (h : Alike v (.arr ws)) :
    ∃ vs, v = .arr vs ∧ List.Forall₂ Alike vs ws := by
  cases h with
  | arr h => exact ⟨_, rfl, h⟩

theorem Alike.exists_members {v : Json} {ns : List (Text × Json)} (h : Alike v (.obj ns)) :
    ∃ ms, v = .obj ms ∧ ∀ key, Option.Rel Alike (ms.lookup key) (ns.lookup key) := by
  cases h with
  | obj h => exact ⟨_, rfl, h⟩

theorem exists_lookup_of_rel {ms ns : List (Text × Json)} {key : Text} {w : Json}
    (h : Option.Rel Alike (ms.lookup key) (ns.lookup key)) (hw : ns.lookup key = some w) :
    ∃ v, ms.lookup key = some v ∧ Alike v w := by
  rw [hw] at h
  cases hv : ms.lookup key with
  | none =>
    rw [hv] at h
    cases h
  | some v =>
    rw [hv] at h
    cases h with
    | some h => exact ⟨v, rfl, h⟩

/-! ## Different keys at every depth -/

/-- A value is no object that has a key twice. -/
def isDistinctNode : Json → Bool
  | .obj members => (Entries.keys members).Nodup
  | _ => true

/-- A value with each key once in an object. -/
def hasDistinctKeys (v : Json) : Bool := v.all isDistinctNode

theorem all_of_mem {p : Json → Bool} {members : List (Text × Json)}
    (h : allMembers p members = true) {member : Text × Json} (hmember : member ∈ members) :
    member.2.all p = true := by
  induction members with
  | nil => cases hmember
  | cons _ members ih =>
    rw [allMembers, Bool.and_eq_true] at h
    rcases List.mem_cons.1 hmember with rfl | hmember
    · exact h.1
    · exact ih h.2 hmember

theorem allMembers_of_forall {p : Json → Bool} {members : List (Text × Json)}
    (h : ∀ member ∈ members, member.2.all p = true) : allMembers p members = true := by
  induction members with
  | nil => rfl
  | cons member members ih =>
    obtain ⟨hmember, hmembers⟩ := List.forall_mem_cons.1 h
    exact Bool.and_eq_true_iff.2 ⟨hmember, ih hmembers⟩

/-- An object has no integer of too many digits iff none of its values has. -/
theorem isReadable_obj_iff {members : List (Text × Json)} :
    (Json.obj members).isReadable = true ↔ ∀ member ∈ members, member.2.isReadable = true := by
  show (true && allMembers isReadableNode members) = true ↔ _
  rw [Bool.true_and]
  exact ⟨fun h member hmember => all_of_mem h hmember, allMembers_of_forall⟩

theorem all_of_lookup {p : Json → Bool} {members : List (Text × Json)}
    (h : allMembers p members = true) {key : Text} {v : Json}
    (hv : members.lookup key = some v) : v.all p = true := by
  obtain ⟨before, after, rfl, -⟩ := List.lookup_eq_some_iff.1 hv
  exact all_of_mem h (List.mem_append_right before List.mem_cons_self)

theorem allMembers_insert {p : Json → Bool} {members : List (Text × Json)}
    (h : allMembers p members = true) (key : Text) {v : Json} (hv : v.all p = true) :
    allMembers p (Entries.insert key v members) = true := by
  induction members with
  | nil => exact Bool.and_eq_true_iff.2 ⟨hv, rfl⟩
  | cons member members ih =>
    obtain ⟨k, u⟩ := member
    rw [allMembers, Bool.and_eq_true] at h
    rw [Entries.insert]
    split
    · exact Bool.and_eq_true_iff.2 ⟨hv, h.2⟩
    · exact Bool.and_eq_true_iff.2 ⟨h.1, ih h.2⟩

theorem allMembers_ofList {p : Json → Bool} {members : List (Text × Json)}
    (h : allMembers p members = true) : allMembers p (Entries.ofList members) = true := by
  refine Entries.ofList_of_insert (P := fun acc => allMembers p acc = true) rfl ?_
  intro member hmember acc hacc
  exact allMembers_insert hacc member.1 (all_of_mem h hmember)

mutual

/-- Merging asks nothing of a value but of its own keys and of what is within it. -/
theorem all_merge {p q : Json → Bool} (h : ∀ v, p v = true → q v.merge = true) :
    ∀ v : Json, v.all p = true → v.merge.all q = true
  | .null, hv | .bool _, hv | .int _, hv | .float _, hv | .text _, hv => h _ hv
  | .arr items, hv => by
    rw [all, Bool.and_eq_true] at hv
    rw [merge, all, Bool.and_eq_true]
    exact ⟨h _ hv.1, all_mergeItems h items hv.2⟩
  | .obj members, hv => by
    rw [all, Bool.and_eq_true] at hv
    rw [merge, all, Bool.and_eq_true]
    exact ⟨h _ hv.1, allMembers_ofList (all_mergeMembers h members hv.2)⟩
termination_by structural v => v

theorem all_mergeItems {p q : Json → Bool} (h : ∀ v, p v = true → q v.merge = true) :
    ∀ items : List Json, allItems p items = true → allItems q (mergeItems items) = true
  | [], _ => rfl
  | item :: items, hv => by
    rw [allItems, Bool.and_eq_true] at hv
    rw [mergeItems, allItems, Bool.and_eq_true]
    exact ⟨all_merge h item hv.1, all_mergeItems h items hv.2⟩
termination_by structural vs => vs

theorem all_mergeMembers {p q : Json → Bool} (h : ∀ v, p v = true → q v.merge = true) :
    ∀ members : List (Text × Json), allMembers p members = true →
      allMembers q (mergeMembers members) = true
  | [], _ => rfl
  | (_, value) :: members, hv => by
    rw [allMembers, Bool.and_eq_true] at hv
    rw [mergeMembers, allMembers, Bool.and_eq_true]
    exact ⟨all_merge h value hv.1, all_mergeMembers h members hv.2⟩
termination_by structural ms => ms

end

mutual

/-- A merged value has different keys at every depth. -/
theorem hasDistinctKeys_merge : ∀ v : Json, v.merge.hasDistinctKeys = true
  | .null | .bool _ | .int _ | .float _ | .text _ => rfl
  | .arr items => by
    rw [hasDistinctKeys, merge, all]
    exact Bool.and_eq_true_iff.2 ⟨rfl, hasDistinctKeys_mergeItems items⟩
  | .obj members => by
    rw [hasDistinctKeys, merge, all]
    exact Bool.and_eq_true_iff.2 ⟨decide_eq_true (Entries.nodup_keys_ofList _),
      allMembers_ofList (hasDistinctKeys_mergeMembers members)⟩
termination_by structural v => v

theorem hasDistinctKeys_mergeItems :
    ∀ items : List Json, allItems isDistinctNode (mergeItems items) = true
  | [] => rfl
  | v :: items =>
    Bool.and_eq_true_iff.2 ⟨hasDistinctKeys_merge v, hasDistinctKeys_mergeItems items⟩
termination_by structural vs => vs

theorem hasDistinctKeys_mergeMembers :
    ∀ members : List (Text × Json), allMembers isDistinctNode (mergeMembers members) = true
  | [] => rfl
  | (_, v) :: members =>
    Bool.and_eq_true_iff.2 ⟨hasDistinctKeys_merge v, hasDistinctKeys_mergeMembers members⟩
termination_by structural ms => ms

end

end Json

end SignedSetup
