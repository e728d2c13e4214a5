import SignedSetup.Json.Basic
import SignedSetup.Proofs.Entries
import SignedSetup.Proofs.Text.Utf8

/-!
# Inside JSON values

A value is *plain* if it holds no doubles, no integers whose numerals are too long to be read, and
no key twice in an object; it is *scalar* if none of its strings and keys holds a surrogate. Each is
a property asked of every value within a value (`Json.all`).

Scrubbing a value is done in two steps that are easier to follow one by one: every string and key
is replaced (`Json.mapTexts`), and then members with equal keys are merged (`Json.merge`). A plain
value that is scalar too is not changed by either (`scrub_eq_self`).
-/

namespace SignedSetup.Json

mutual

/-- Every string and every key replaced by what a function makes of it. -/
def mapTexts (f : Text → Text) : Json → Json
  | .text t => .text (f t)
  | .arr items => .arr (mapItems f items)
  | .obj members => .obj (mapMembers f members)
  | .null => .null
  | .bool b => .bool b
  | .int n => .int n
  | .float x => .float x
termination_by structural v => v

/-- The texts within values replaced. -/
def mapItems (f : Text → Text) : List Json → List Json
  | [] => []
  | item :: items => mapTexts f item :: mapItems f items
termination_by structural vs => vs

/-- The keys of members and the texts within their values replaced. -/
def mapMembers (f : Text → Text) : List (Text × Json) → List (Text × Json)
  | [] => []
  | (key, value) :: members => (f key, mapTexts f value) :: mapMembers f members
termination_by structural ms => ms

end

mutual

/-- Members with equal keys merged at every depth: first place, last value. -/
def merge : Json → Json
  | .arr items => .arr (mergeItems items)
  | .obj members => .obj (Entries.ofList (mergeMembers members))
  | .null => .null
  | .bool b => .bool b
  | .int n => .int n
  | .float x => .float x
  | .text t => .text t
termination_by structural v => v

/-- Each of the values merged. -/
def mergeItems : List Json → List Json
  | [] => []
  | item :: items => merge item :: mergeItems items
termination_by structural vs => vs

/-- The value of each of the members merged. -/
def mergeMembers : List (Text × Json) → List (Text × Json)
  | [] => []
  | (key, value) :: members => (key, merge value) :: mergeMembers members
termination_by structural ms => ms

end

/-- A value is no double, no integer of too many digits and no object that has a key twice. -/
def isPlainNode : Json → Bool
  | .int n => !Decimal.exceedsLimit n.natAbs
  | .float _ => false
  | .obj members => (Entries.keys members).Nodup
  | _ => true

/-- A value without doubles and integers of too many digits, with each key once in an object. -/
def isPlain (v : Json) : Bool := v.all isPlainNode

/-- A value is no string with a surrogate and no object with a surrogate in a key. -/
def isScalarNode : Json → Bool
  | .text t => t.isScalar
  | .obj members => (Entries.keys members).all Text.isScalar
  | _ => true

/-- A value without surrogates. -/
def isScalar (v : Json) : Bool := v.all isScalarNode

/-! ## A property of all values -/

theorem all_self {p : Json → Bool} {v : Json} (h : v.all p = true) : p v = true := by
  cases v <;> simp_all [all]

mutual

theorem all_mono {p q : Json → Bool} (h : ∀ v, p v = true → q v = true) :
    ∀ v : Json, v.all p = true → v.all q = true
  | .null, hv | .bool _, hv | .int _, hv | .float _, hv | .text _, hv => h _ hv
  | .arr items, hv => by
    rw [all, Bool.and_eq_true] at hv ⊢
    exact ⟨h _ hv.1, allItems_mono h items hv.2⟩
  | .obj members, hv => by
    rw [all, Bool.and_eq_true] at hv ⊢
    exact ⟨h _ hv.1, allMembers_mono h members hv.2⟩
termination_by structural v => v

theorem allItems_mono {p q : Json → Bool} (h : ∀ v, p v = true → q v = true) :
    ∀ items : List Json, allItems p items = true → allItems q items = true
  | [], _ => rfl
  | item :: items, hv => by
    rw [allItems, Bool.and_eq_true] at hv ⊢
    exact ⟨all_mono h item hv.1, allItems_mono h items hv.2⟩
termination_by structural vs => vs

theorem allMembers_mono {p q : Json → Bool} (h : ∀ v, p v = true → q v = true) :
    ∀ members : List (Text × Json), allMembers p members = true → allMembers q members = true
  | [], _ => rfl
  | (_, value) :: members, hv => by
    rw [allMembers, Bool.and_eq_true] at hv ⊢
    exact ⟨all_mono h value hv.1, allMembers_mono h members hv.2⟩
termination_by structural ms => ms

end

mutual

theorem all_mapTexts {p q : Json → Bool} {f : Text → Text}
    (h : ∀ v, p v = true → q (mapTexts f v) = true) :
    ∀ v, all p v = true → all q (mapTexts f v) = true
  | .null, hv | .bool _, hv | .int _, hv | .float _, hv | .text _, hv => h _ hv
  | .arr items, hv => by
    rw [all, Bool.and_eq_true] at hv
    rw [mapTexts, all, Bool.and_eq_true]
    exact ⟨h _ hv.1, all_mapItems h items hv.2⟩
  | .obj members, hv => by
    rw [all, Bool.and_eq_true] at hv
    rw [mapTexts, all, Bool.and_eq_true]
    exact ⟨h _ hv.1, all_mapMembers h members hv.2⟩
termination_by structural v => v

theorem all_mapItems {p q : Json → Bool} {f : Text → Text}
    (h : ∀ v, p v = true → q (mapTexts f v) = true) :
    ∀ items, allItems p items = true → allItems q (mapItems f items) = true
  | [], _ => rfl
  | item :: items, hv => by
    rw [allItems, Bool.and_eq_true] at hv
    rw [mapItems, allItems, Bool.and_eq_true]
    exact ⟨all_mapTexts h item hv.1, all_mapItems h items hv.2⟩
termination_by structural vs => vs

theorem all_mapMembers {p q : Json → Bool} {f : Text → Text}
    (h : ∀ v, p v = true → q (mapTexts f v) = true) :
    ∀ members, allMembers p members = true → allMembers q (mapMembers f members) = true
  | [], _ => rfl
  | (_, value) :: members, hv => by
    rw [allMembers, Bool.and_eq_true] at hv
    rw [mapMembers, allMembers, Bool.and_eq_true]
    exact ⟨all_mapTexts h value hv.1, all_mapMembers h members hv.2⟩
termination_by structural ms => ms

end

/-! ## Keys -/

@[simp]
theorem keys_mapMembers (f : Text → Text) (members : List (Text × Json)) :
    Entries.keys (mapMembers f members) = (Entries.keys members).map f := by
  induction members with
  | nil => rfl
  | cons member members ih => exact congrArg (f member.1 :: ·) ih

@[simp]
theorem keys_mergeMembers (members : List (Text × Json)) :
    Entries.keys (mergeMembers members) = Entries.keys members := by
  induction members with
  | nil => rfl
  | cons member members ih => exact congrArg (member.1 :: ·) ih

/-! ## Scrubbing in two steps -/

mutual

theorem scrub_eq_merge : ∀ v : Json, v.scrub = (v.mapTexts Text.scrub).merge
  | .null | .bool _ | .int _ | .float _ | .text _ => rfl
  | .arr items => by
    rw [scrub, mapTexts, merge, scrubItems_eq_mergeItems items]
  | .obj members => by
    rw [scrub, mapTexts, merge, scrubMembers_eq_mergeMembers members]
termination_by structural v => v

theorem scrubItems_eq_mergeItems :
    ∀ items : List Json, scrubItems items = mergeItems (mapItems Text.scrub items)
  | [] => rfl
  | item :: items => by
    rw [scrubItems, mapItems, mergeItems, scrub_eq_merge item, scrubItems_eq_mergeItems items]
termination_by structural vs => vs

theorem scrubMembers_eq_mergeMembers :
    ∀ members : List (Text × Json),
      scrubMembers members = mergeMembers (mapMembers Text.scrub members)
  | [] => rfl
  | (key, value) :: members => by
    rw [scrubMembers, mapMembers, mergeMembers, scrub_eq_merge value,
      scrubMembers_eq_mergeMembers members]
termination_by structural ms => ms

end

mutual

/-- A value whose objects have each key once has nothing to merge. -/
theorem merge_eq_self {p : Json → Bool}
    (hp : ∀ members, p (.obj members) = true → (Entries.keys members).Nodup) :
    ∀ v : Json, v.all p = true → v.merge = v
  | .null, _ | .bool _, _ | .int _, _ | .float _, _ | .text _, _ => rfl
  | .arr items, h => by
    rw [all, Bool.and_eq_true] at h
    rw [merge, mergeItems_eq_self hp items h.2]
  | .obj members, h => by
    rw [all, Bool.and_eq_true] at h
    rw [merge, mergeMembers_eq_self hp members h.2, Entries.ofList_eq_self (hp members h.1)]
termination_by structural v => v

theorem mergeItems_eq_self {p : Json → Bool}
    (hp : ∀ members, p (.obj members) = true → (Entries.keys members).Nodup) :
    ∀ items : List Json, allItems p items = true → mergeItems items = items
  | [], _ => rfl
  | item :: items, h => by
    rw [allItems, Bool.and_eq_true] at h
    rw [mergeItems, merge_eq_self hp item h.1, mergeItems_eq_self hp items h.2]
termination_by structural vs => vs

theorem mergeMembers_eq_self {p : Json → Bool}
    (hp : ∀ members, p (.obj members) = true → (Entries.keys members).Nodup) :
    ∀ members : List (Text × Json), allMembers p members = true → mergeMembers members = members
  | [], _ => rfl
  | (_, value) :: members, h => by
    rw [allMembers, Bool.and_eq_true] at h
    rw [mergeMembers, merge_eq_self hp value h.1, mergeMembers_eq_self hp members h.2]
termination_by structural ms => ms

end

mutual

/-- A value whose strings and keys are left as they are by a function is not changed by it. -/
theorem mapTexts_eq_self {p : Json → Bool} {f : Text → Text}
    (htext : ∀ t, p (.text t) = true → f t = t)
    (hkeys : ∀ members, p (.obj members) = true → ∀ k ∈ Entries.keys members, f k = k) :
    ∀ v : Json, v.all p = true → v.mapTexts f = v
  | .null, _ | .bool _, _ | .int _, _ | .float _, _ => rfl
  | .text t, h => congrArg Json.text (htext t h)
  | .arr items, h => by
    rw [all, Bool.and_eq_true] at h
    rw [mapTexts, mapItems_eq_self htext hkeys items h.2]
  | .obj members, h => by
    rw [all, Bool.and_eq_true] at h
    rw [mapTexts, mapMembers_eq_self htext hkeys members (hkeys members h.1) h.2]
termination_by structural v => v

theorem mapItems_eq_self {p : Json → Bool} {f : Text → Text}
    (htext : ∀ t, p (.text t) = true → f t = t)
    (hkeys : ∀ members, p (.obj members) = true → ∀ k ∈ Entries.keys members, f k = k) :
    ∀ items : List Json, allItems p items = true → mapItems f items = items
  | [], _ => rfl
  | item :: items, h => by
    rw [allItems, Bool.and_eq_true] at h
    rw [mapItems, mapTexts_eq_self htext hkeys item h.1, mapItems_eq_self htext hkeys items h.2]
termination_by structural vs => vs

theorem mapMembers_eq_self {p : Json → Bool} {f : Text → Text}
    (htext : ∀ t, p (.text t) = true → f t = t)
    (hkeys : ∀ members, p (.obj members) = true → ∀ k ∈ Entries.keys members, f k = k) :
    ∀ members : List (Text × Json), (∀ k ∈ Entries.keys members, f k = k) →
      allMembers p members = true → mapMembers f members = members
  | [], _, _ => rfl
  | (key, value) :: members, hk, h => by
    rw [Entries.keys_cons, List.forall_mem_cons] at hk
    rw [allMembers, Bool.and_eq_true] at h
    rw [mapMembers, hk.1, mapTexts_eq_self htext hkeys value h.1,
      mapMembers_eq_self htext hkeys members hk.2 h.2]
termination_by structural ms => ms

end

theorem mapTexts_scrub_eq_self {v : Json} (h : v.isScalar = true) : v.mapTexts Text.scrub = v :=
  mapTexts_eq_self (fun _ ht => Text.scrub_eq_self ht)
    (fun _ hkeys k hk => Text.scrub_eq_self (List.all_eq_true.1 hkeys k hk)) v h

theorem nodup_keys_of_isPlainNode (members : List (Text × Json))
    (h : isPlainNode (.obj members) = true) : (Entries.keys members).Nodup :=
  of_decide_eq_true h

/-- A plain value without surrogates is as it was when it is scrubbed. -/
theorem scrub_eq_self {v : Json} (hp : v.isPlain = true) (hs : v.isScalar = true) :
    v.scrub = v := by
  rw [scrub_eq_merge, mapTexts_scrub_eq_self hs, merge_eq_self nodup_keys_of_isPlainNode v hp]

end SignedSetup.Json
