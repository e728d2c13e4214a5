import SignedSetup.Number.BigEndian

/-!
# Layout of encoded values

Encoded values stand one after another. A value of a fixed size stands in its place. For any other,
a word of 32 octets stands there, which says how far behind the beginning the value is to be found:
it comes after all places, in the order of the values.
-/

namespace SignedSetup.TypedData

/-- An encoded value. -/
structure Part where
  /-- The value does not stand in its place. -/
  isDynamic : Bool
  octets : Bytes

namespace Part

/-- The octets that the place of a part takes up. -/
def placeSize (p : Part) : Nat := if p.isDynamic then 32 else p.octets.length

/-- The places of parts, where the first of those that stand behind is so far from the beginning. -/
def places (offset : Nat) : List Part → Bytes
  | [] => []
  | p :: parts =>
    if p.isDynamic then BigEndian.ofNat 32 offset ++ places (offset + p.octets.length) parts
    else p.octets ++ places offset parts

/-- The values that do not stand in their places. -/
def behind (parts : List Part) : Bytes :=
  (parts.filter Part.isDynamic).flatMap Part.octets

/-- The octets of parts. -/
def assemble (parts : List Part) : Bytes :=
  places (parts.map placeSize).sum parts ++ behind parts

/-! ## Parts that all stand in their places -/

theorem places_of_static {parts : List Part} (h : ∀ p ∈ parts, p.isDynamic = false)
    (offset : Nat) : places offset parts = parts.flatMap Part.octets := by
  induction parts with
  | nil => rfl
  | cons p parts ih =>
    have hp := h p List.mem_cons_self
    have ht := ih fun q hq => h q (List.mem_cons_of_mem p hq)
    simp [places, hp, ht]

theorem behind_of_static {parts : List Part} (h : ∀ p ∈ parts, p.isDynamic = false) :
    behind parts = [] := by
  have hf : parts.filter Part.isDynamic = [] :=
    List.filter_eq_nil_iff.2 fun p hp => by simp [h p hp]
  simp [behind, hf]

theorem assemble_of_static {parts : List Part} (h : ∀ p ∈ parts, p.isDynamic = false) :
    assemble parts = parts.flatMap Part.octets := by
  simp [assemble, places_of_static h, behind_of_static h]

end Part

end SignedSetup.TypedData
