import SignedSetup.Text.Basic

/-!
# Numbers as octets

Numbers stand in octets with the highest octet first.
-/

namespace SignedSetup.BigEndian

/-- The number that octets spell. -/
def value (bytes : Bytes) : Nat := bytes.foldl (fun acc b => 256 * acc + b.toNat) 0

/-- The last `width` octets of a number. -/
def ofNat : Nat → Nat → Bytes
  | 0, _ => []
  | width + 1, n => ofNat width (n / 256) ++ [UInt8.ofNat n]

@[simp]
theorem length_ofNat (width n : Nat) : (ofNat width n).length = width := by
  induction width generalizing n with
  | zero => rfl
  | succ width ih => simp [ofNat, ih]

theorem value_append (bytes : Bytes) (b : UInt8) :
    value (bytes ++ [b]) = 256 * value bytes + b.toNat := by
  simp [value]

@[simp]
theorem value_ofNat (width n : Nat) : value (ofNat width n) = n % 256 ^ width := by
  induction width generalizing n with
  | zero => simp [ofNat, value, Nat.mod_one]
  | succ width ih =>
    rw [ofNat, value_append, ih, Nat.pow_succ, Nat.mul_comm _ 256, Nat.mod_mul, UInt8.toNat_ofNat']
    exact Nat.add_comm _ _

/-- The octets of a number without leading zeros; zero has one octet. -/
def minimal (n : Nat) : Bytes :=
  if n < 256 then [UInt8.ofNat n] else minimal (n / 256) ++ [UInt8.ofNat n]

end SignedSetup.BigEndian
