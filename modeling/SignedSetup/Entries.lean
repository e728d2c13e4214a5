import SignedSetup.Text.Basic

/-!
# Ordered entries

A JSON object, a log record and a list of settings are all entries under text keys whose order
shows. A key keeps the place where it first appeared and the value that was last put there.
`List.lookup` reads an entry.
-/

namespace SignedSetup.Entries

variable {α : Type}

/-- Put a value under a key: in the key's place if it is there, else at the end. -/
def insert (key : Text) (value : α) : List (Text × α) → List (Text × α)
  | [] => [(key, value)]
  | (k, v) :: rest => if k = key then (key, value) :: rest else (k, v) :: insert key value rest

/-- The entries left by putting the given ones in, one after another. -/
def ofList (entries : List (Text × α)) : List (Text × α) :=
  entries.foldl (fun acc (k, v) => insert k v acc) []

/-- Remove the entry under a key. -/
def erase (key : Text) (entries : List (Text × α)) : List (Text × α) :=
  entries.filter fun (k, _) => k ≠ key

/-- The keys in order. -/
def keys (entries : List (Text × α)) : List Text := entries.map Prod.fst

/-- There is an entry under the key. -/
def has (key : Text) (entries : List (Text × α)) : Bool := (entries.lookup key).isSome

/-! ## What is found after an insertion -/

@[simp]
theorem lookup_insert_self (key : Text) (value : α) (entries : List (Text × α)) :
    (insert key value entries).lookup key = some value := by
  induction entries with
  | nil => simp [insert]
  | cons entry rest ih =>
    obtain ⟨k, v⟩ := entry
    by_cases h : k = key
    · simp [insert, h]
    · have hk : (key == k) = false := by simpa using Ne.symm h
      simp [insert, h, List.lookup_cons, hk, ih]

theorem lookup_insert_of_ne {key other : Text} (h : other ≠ key) (value : α)
    (entries : List (Text × α)) :
    (insert key value entries).lookup other = entries.lookup other := by
  have ho : (other == key) = false := by simpa using h
  induction entries with
  | nil => simp [insert, List.lookup_cons, ho]
  | cons entry rest ih =>
    obtain ⟨k, v⟩ := entry
    by_cases hk : k = key
    · subst hk
      simp [insert, List.lookup_cons, ho]
    · simp [insert, hk, List.lookup_cons, ih]

/-- A new key comes last; one that is there keeps its place. -/
theorem keys_insert (key : Text) (value : α) (entries : List (Text × α)) :
    keys (insert key value entries) =
      if key ∈ keys entries then keys entries else keys entries ++ [key] := by
  induction entries with
  | nil => simp [insert, keys]
  | cons entry rest ih =>
    obtain ⟨k, v⟩ := entry
    simp only [keys] at ih
    by_cases h : k = key
    · simp [insert, keys, h]
    · by_cases hm : key ∈ List.map Prod.fst rest
      · simp [insert, keys, h, ih, hm]
      · simp [insert, keys, h, ih, hm, Ne.symm h]

end SignedSetup.Entries
