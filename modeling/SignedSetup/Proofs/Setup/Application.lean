import SignedSetup.Proofs.Results
import SignedSetup.Setup.Application

/-!
# What an applied request gives

A request is applied iff its signer is the administrator and its message can be read, and neither
depends on the configuration that the node has (`result_apply`). What it gives is the configuration
over which it is applied, with the fields of the message in place of its own.
-/

namespace SignedSetup.Setup

/-! ## Reading a message -/

/-- The number of a field: none where the field is no string, or no unsigned 64-bit integer. -/
def number? (message : List (Text × Json)) (f : ConfigField) :
    Except Decimal.TooLong (Option Nat) :=
  match textField? message f.wireName with
  | none => .ok none
  | some t => unsigned? t

theorem unsignedField_eq (message : List (Text × Json)) (f : ConfigField) (default : Nat) :
    unsignedField id message f.wireName default = (number? message f).map (·.getD default) := by
  rw [unsignedField, number?]
  cases textField? message f.wireName with
  | none => rfl
  | some t => cases unsigned? t <;> simp [Except.map]

/-- An unsigned integer is not greater than the greatest one. -/
theorem unsigned?_le {t : Text} {n : Nat} (h : unsigned? t = .ok (some n)) : n ≤ maxUnsigned := by
  have hdigits (digits : Text)
      (h : (if digits.isEmpty || !digits.all Decimal.isDigit then .ok none
        else (Decimal.read digits).map fun n => if n ≤ maxUnsigned then some n else none) =
          (.ok (some n) : Except Decimal.TooLong (Option Nat))) : n ≤ maxUnsigned := by
    split at h
    · cases h
    · obtain ⟨m, -, hm⟩ := map_eq_ok h
      split at hm
      · next hle => exact Option.some.inj hm ▸ hle
      · cases hm
  exact hdigits _ h

theorem unsigned?_zero : unsigned? "0" = .ok (some 0) := rfl

/-- The network of a message: zero where it is no string. -/
theorem networkField_eq (message : List (Text × Json)) :
    networkField message =
      match textField? message ConfigField.network.wireName with
      | none => .ok 0
      | some t =>
        match unsigned? t with
        | .error e => .error (.tooLong e)
        | .ok none => .error (.badNetwork t)
        | .ok (some n) => .ok n := by
  rw [networkField, textField]
  cases textField? message ConfigField.network.wireName with
  | none =>
    rw [Option.getD_none, unsigned?_zero]
    rfl
  | some t =>
    rw [Option.getD_some]
    cases hn : unsigned? t with
    | error e =>
      simp only [hn]
      rfl
    | ok n => cases n <;> simp only [hn] <;> rfl

/-- What a readable message gives over a configuration. -/
@[ext]
structure Reading where
  minRollupSize : Option Nat
  rollupInterval : Option Nat
  network : Nat
  evmNodeUrl : Option Text
  arNodeUrl : Option Text

/-- The configuration with what was read in place of its own. -/
def Reading.applyTo (r : Reading) (current : NodeConfig) : NodeConfig where
  minRollupSize := r.minRollupSize.getD current.minRollupSize
  rollupInterval := r.rollupInterval.getD current.rollupInterval
  networkId := r.network
  evmNodeUrl := r.evmNodeUrl.getD current.evmNodeUrl
  arNodeUrl := r.arNodeUrl.getD current.arNodeUrl

/-- What a message says to a node, whatever the node's configuration. -/
def reading (message : List (Text × Json)) : Except ApplicationFault Reading := do
  let network ← networkField message
  let minRollupSize ← (number? message .minRollupSize).mapError .tooLong
  let rollupInterval ← (number? message .rollupInterval).mapError .tooLong
  return ⟨minRollupSize, rollupInterval, network,
    textField? message ConfigField.evmNodeRpc.wireName,
    textField? message ConfigField.arNodeUrl.wireName⟩

/-- A message is read first, and only then the current configuration is looked at. -/
theorem configOf_eq (message : List (Text × Json)) (current : NodeConfig) :
    configOf message current = (reading message).map (·.applyTo current) := by
  rw [configOf, reading]
  simp only [unsignedField_eq]
  cases networkField message with
  | error e => rfl
  | ok network =>
    cases number? message .minRollupSize with
    | error e => rfl
    | ok minRollupSize =>
      cases number? message .rollupInterval with
      | error e => rfl
      | ok rollupInterval => rfl

theorem reading_eq_ok {message : List (Text × Json)} {r : Reading} (h : reading message = .ok r) :
    networkField message = .ok r.network ∧
      number? message .minRollupSize = .ok r.minRollupSize ∧
      number? message .rollupInterval = .ok r.rollupInterval ∧
      textField? message ConfigField.evmNodeRpc.wireName = r.evmNodeUrl ∧
      textField? message ConfigField.arNodeUrl.wireName = r.arNodeUrl := by
  obtain ⟨network, hnetwork, h⟩ := bind_eq_ok h
  obtain ⟨minRollupSize, hminRollupSize, h⟩ := bind_eq_ok h
  obtain ⟨rollupInterval, hrollupInterval, h⟩ := bind_eq_ok h
  cases h
  exact ⟨hnetwork, mapError_eq_ok hminRollupSize, mapError_eq_ok hrollupInterval, rfl, rfl⟩

/-! ## Applying a request -/

/-- What a request says to a node, if the administrator signed it. -/
def authorized (request : Verified) (admin : Text) : Except ApplicationFault Reading :=
  match Address.ofText? admin with
  | none => .error (.badAdmin admin)
  | some admin =>
    if admin = request.signer then reading request.envelope.message
    else .error (.notAdmin request.signer)

theorem authorized_eq_ok {request : Verified} {admin : Text} {r : Reading}
    (h : authorized request admin = .ok r) :
    Address.ofText? admin = some request.signer ∧ reading request.envelope.message = .ok r := by
  unfold authorized at h
  split at h
  · cases h
  · next address haddress =>
    split at h
    · next hsigner => exact ⟨hsigner ▸ haddress, h⟩
    · cases h

theorem result_applyVerified (request : Verified) (admin : Text) (current : NodeConfig) :
    (applyVerified request admin current).result =
      (authorized request admin).map (·.applyTo current) := by
  unfold applyVerified authorized
  cases Address.ofText? admin with
  | none => rfl
  | some address =>
    dsimp only
    split
    · rw [configOf_eq]
      cases reading request.envelope.message <;> rfl
    · rfl

/-- What a node hears in a request, whatever the node's configuration. -/
def heard (payload : Bytes) (signature admin : Text) : Except ApplicationFault Reading :=
  match verify payload signature with
  | .error e => .error (.verification e)
  | .ok request => authorized request admin

/-- A request is heard first, and only then put over the current configuration. -/
theorem result_apply (payload : Bytes) (signature admin : Text) (current : NodeConfig) :
    (apply payload signature admin current).result =
      (heard payload signature admin).map (·.applyTo current) := by
  rw [apply, heard]
  cases verify payload signature with
  | error e => rfl
  | ok request => exact result_applyVerified request admin current

end SignedSetup.Setup
