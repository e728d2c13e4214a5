import Mathlib.Data.List.Nodup
import SignedSetup.Entries

/-!
# Keys and last values

What putting entries in one after another leaves: each key once (`nodup_keys_ofList`), with the
value that was last put there (`lookup_ofList`). Entries whose keys are all different are left as
they are (`ofList_eq_self`).
-/

namespace SignedSetup.Entries

variable {α : Type}

@[simp]
theorem keys_nil : keys ([] : List (Text × α)) = [] := rfl

@[simp]
theorem keys_cons (entry : Text × α) (entries : List (Text × α)) :
    keys (entry :: entries) = entry.1 :: keys entries := rfl

/-! ## Different keys -/

theorem insert_eq_append {key : Text} {entries : List (Text × α)} (h : key ∉ keys entries)
    (value : α) : insert key value entries = entries ++ [(key, value)] := by
  induction entries with
  | nil => rfl
  | cons entry rest ih =>
    obtain ⟨k, v⟩ := entry
    rw [keys_cons, List.mem_cons, not_or] at h
    rw [insert, if_neg (Ne.symm h.1), ih h.2, List.cons_append]

theorem nodup_keys_insert {entries : List (Text × α)} (h : (keys entries).Nodup) (key : Text)
    (value : α) : (keys (insert key value entries)).Nodup := by
  rw [keys_insert]
  split
  · exact h
  · next hk => exact List.nodup_append.2 ⟨h, List.nodup_singleton key, by
      intro a ha b hb hab
      rw [List.mem_singleton] at hb
      exact hk (hb ▸ hab ▸ ha)⟩

/-- The entries left by putting further ones into given ones. -/
theorem foldl_insert_eq_append {acc entries : List (Text × α)}
    (h : (keys (acc ++ entries)).Nodup) :
    entries.foldl (fun acc (k, v) => insert k v acc) acc = acc ++ entries := by
  induction entries generalizing acc with
  | nil => simp
  | cons entry rest ih =>
    obtain ⟨k, v⟩ := entry
    have hk : k ∉ keys acc := by
      rw [keys, List.map_append, List.map_cons, List.nodup_append] at h
      intro hm
      exact h.2.2 k hm k List.mem_cons_self rfl
    show rest.foldl _ (insert k v acc) = _
    rw [insert_eq_append hk, ih (by simpa using h), List.append_assoc]
    rfl

/-- Entries with different keys stay as they are. -/
theorem ofList_eq_self {entries : List (Text × α)} (h : (keys entries).Nodup) :
    ofList entries = entries := by
  have hnil : (keys ([] ++ entries)).Nodup := h
  exact foldl_insert_eq_append hnil

/-- What every insertion keeps holds in the end. -/
theorem ofList_of_insert {P : List (Text × α) → Prop} (hnil : P []) {entries : List (Text × α)}
    (hinsert : ∀ entry ∈ entries, ∀ acc, P acc → P (insert entry.1 entry.2 acc)) :
    P (ofList entries) := by
  suffices h : ∀ acc, P acc → P (entries.foldl (fun acc (k, v) => insert k v acc) acc) from
    h [] hnil
  induction entries with
  | nil => exact fun acc h => h
  | cons entry rest ih =>
    rw [List.forall_mem_cons] at hinsert
    exact fun acc h => ih hinsert.2 _ (hinsert.1 acc h)

theorem nodup_keys_ofList (entries : List (Text × α)) : (keys (ofList entries)).Nodup :=
  ofList_of_insert (P := fun acc => (keys acc).Nodup) List.nodup_nil fun entry _ _ h =>
    nodup_keys_insert h entry.1 entry.2

/-- Each key stands where it first stood. -/
theorem keys_ofList (entries : List (Text × α)) :
    keys (ofList entries) = (keys entries).eraseDups := by
  suffices h : ∀ acc : List (Text × α),
      keys (entries.foldl (fun acc (k, v) => insert k v acc) acc) =
        keys acc ++ ((keys entries).filter fun k => !(keys acc).contains k).eraseDups by
    rw [ofList, h []]
    simp
  induction entries with
  | nil => simp
  | cons entry rest ih =>
    intro acc
    obtain ⟨k, v⟩ := entry
    rw [List.foldl_cons, ih, keys_insert, keys_cons]
    by_cases hk : k ∈ keys acc
    · rw [if_pos hk, List.filter_cons, if_neg (by simp [hk])]
    · have hfilter : (fun l => !(keys acc ++ [k]).contains l) =
          fun l => !l == k && !(keys acc).contains l := by
        funext l
        simp [Bool.and_comm, Bool.beq_eq_decide_eq]
      rw [if_neg hk, List.filter_cons, if_pos (by simp [hk]), List.eraseDups_cons,
        List.filter_filter, List.append_assoc, hfilter]
      rfl

/-! ## Last values -/

theorem lookup_insert (key other : Text) (value : α) (entries : List (Text × α)) :
    (insert key value entries).lookup other =
      if other = key then some value else entries.lookup other := by
  split
  · next h => rw [h, lookup_insert_self]
  · next h => exact lookup_insert_of_ne h value entries

/-- The value under a key is the one that was last put there. -/
theorem lookup_ofList (key : Text) (entries : List (Text × α)) :
    (ofList entries).lookup key = entries.reverse.lookup key := by
  suffices h : ∀ acc : List (Text × α),
      (entries.foldl (fun acc (k, v) => insert k v acc) acc).lookup key =
        (entries.reverse.lookup key).or (acc.lookup key) by
    rw [ofList, h []]
    exact Option.or_none
  induction entries with
  | nil => exact fun acc => rfl
  | cons entry rest ih =>
    intro acc
    obtain ⟨k, v⟩ := entry
    rw [List.foldl_cons, ih, List.reverse_cons, List.lookup_append, lookup_insert]
    by_cases h : key = k
    · cases rest.reverse.lookup key <;> simp [h]
    · have hk : (key == k) = false := by simpa using h
      cases rest.reverse.lookup key <;> simp [h, hk, List.lookup_cons]

/-- Where the keys are all different, the first value is the last. -/
theorem lookup_reverse {entries : List (Text × α)} (h : (keys entries).Nodup) (key : Text) :
    entries.reverse.lookup key = entries.lookup key := by
  rw [← lookup_ofList, ofList_eq_self h]

theorem lookup_eq_none_iff {entries : List (Text × α)} {key : Text} :
    entries.lookup key = none ↔ key ∉ keys entries := by
  induction entries with
  | nil => exact ⟨fun _ => List.not_mem_nil, fun _ => rfl⟩
  | cons entry rest ih =>
    rw [List.lookup_cons, keys_cons, List.mem_cons, not_or]
    by_cases h : key = entry.1
    · simp [h]
    · rw [beq_false_of_ne h]
      exact ih.trans (and_iff_right h).symm

theorem lookup_eq_some_of_mem {entries : List (Text × α)} (h : (keys entries).Nodup) {key : Text}
    {value : α} (hmem : (key, value) ∈ entries) : entries.lookup key = some value := by
  induction entries with
  | nil => cases hmem
  | cons entry rest ih =>
    rw [keys_cons, List.nodup_cons] at h
    rw [List.lookup_cons]
    rcases List.mem_cons.1 hmem with rfl | hmem
    · rw [beq_self_eq_true]
    · have hne : key ≠ entry.1 := fun heq => h.1 (heq ▸ List.mem_map_of_mem hmem)
      rw [beq_false_of_ne hne]
      exact ih h.2 hmem

theorem mem_of_lookup_eq_some {entries : List (Text × α)} {key : Text} {value : α}
    (h : entries.lookup key = some value) : (key, value) ∈ entries := by
  obtain ⟨before, after, rfl, -⟩ := List.lookup_eq_some_iff.1 h
  exact List.mem_append_right _ List.mem_cons_self

section Map

variable {β : Type} (f : α → β)

theorem lookup_map (entries : List (Text × α)) (key : Text) :
    (entries.map fun m => (m.1, f m.2)).lookup key = (entries.lookup key).map f := by
  induction entries with
  | nil => rfl
  | cons entry rest ih =>
    rw [List.map_cons, List.lookup_cons, List.lookup_cons, ih]
    cases key == entry.1 <;> rfl

theorem insert_map (key : Text) (value : α) (entries : List (Text × α)) :
    insert key (f value) (entries.map fun m => (m.1, f m.2)) =
      (insert key value entries).map fun m => (m.1, f m.2) := by
  induction entries with
  | nil => rfl
  | cons entry rest ih =>
    rw [List.map_cons, insert, insert, ih]
    split <;> rfl

/-- Where a key stands does not depend on the values. -/
theorem ofList_map (entries : List (Text × α)) :
    ofList (entries.map fun m => (m.1, f m.2)) =
      (ofList entries).map fun m => (m.1, f m.2) := by
  suffices h : ∀ acc : List (Text × α),
      (entries.map fun m => (m.1, f m.2)).foldl (fun acc (k, v) => insert k v acc)
          (acc.map fun m => (m.1, f m.2)) =
        (entries.foldl (fun acc (k, v) => insert k v acc) acc).map fun m => (m.1, f m.2) from
    h []
  induction entries with
  | nil => exact fun acc => rfl
  | cons entry rest ih =>
    intro acc
    rw [List.map_cons, List.foldl_cons, List.foldl_cons]
    dsimp only
    rw [insert_map, ih]

end Map

/-! ## Erasing -/

theorem lookup_erase (key other : Text) (entries : List (Text × α)) :
    (erase key entries).lookup other = if other = key then none else entries.lookup other := by
  induction entries with
  | nil => simp [erase]
  | cons entry rest ih =>
    obtain ⟨k, v⟩ := entry
    rw [erase] at ih ⊢
    by_cases hk : k = key
    · rw [List.filter_cons, if_neg (by simp [hk]), ih, List.lookup_cons]
      split
      · rfl
      · next hother => rw [beq_false_of_ne (hk ▸ hother)]
    · rw [List.filter_cons, if_pos (by simpa using hk), List.lookup_cons, List.lookup_cons, ih]
      by_cases hother : other = k
      · simp [hother, hk]
      · rw [beq_false_of_ne hother]

/-- Entries of two keys, without the one: the entry of the other is left. -/
theorem erase_eq_singleton {entries : List (Text × α)} (hnodup : (keys entries).Nodup)
    {key other : Text} {value : α} (hvalue : entries.lookup other = some value)
    (hnone : ∀ k, k ≠ key → k ≠ other → entries.lookup k = none) (hne : other ≠ key) :
    erase key entries = [(other, value)] := by
  induction entries with
  | nil => cases hvalue
  | cons entry rest ih =>
    obtain ⟨k, v⟩ := entry
    rw [keys_cons, List.nodup_cons] at hnodup
    have hself : ((k, v) :: rest).lookup k = some v := by rw [List.lookup_cons, beq_self_eq_true]
    have hrest {l : Text} (hl : l ≠ k) : ((k, v) :: rest).lookup l = rest.lookup l := by
      rw [List.lookup_cons, beq_false_of_ne hl]
    by_cases hkey : k = key
    · have hother : other ≠ k := hkey ▸ hne
      rw [erase, List.filter_cons, if_neg (by simp [hkey])]
      refine ih hnodup.2 (hrest hother ▸ hvalue) fun l hl hlo => ?_
      exact hrest (hkey ▸ hl) ▸ hnone l hl hlo
    · by_cases hother : k = other
      · have hnil : erase key rest = [] := by
          rw [erase, List.filter_eq_nil_iff]
          rintro ⟨l, u⟩ hmem
          have hl : l ∈ keys rest := List.mem_map_of_mem hmem
          have hlk : l ≠ k := fun h => hnodup.1 (h ▸ hl)
          by_contra hkeep
          have hlkey : l ≠ key := by simpa using hkeep
          have hlookup := hrest hlk ▸ hnone l hlkey (hother ▸ hlk)
          have hdiffers := List.lookup_eq_none_iff.1 hlookup (l, u) hmem
          exact absurd hdiffers (by simp)
        rw [erase, List.filter_cons, if_pos (by simpa using hkey)]
        have hv : v = value := Option.some.inj (hself.symm.trans (hother ▸ hvalue))
        rw [hother, hv]
        exact congrArg ((other, value) :: ·) hnil
      · exact absurd (hself.symm.trans (hnone k hkey hother)) (Option.some_ne_none v)

end SignedSetup.Entries
