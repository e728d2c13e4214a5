import SignedSetup.Config.NodeConfig
import SignedSetup.Log.Record
import SignedSetup.Setup.Message
import SignedSetup.Setup.Verification

/-!
# Applying setup requests

A node applies a request only if the administrator signed it. It takes the fields that the message
gives and keeps its current values for the others; the network alone has a default of its own. The
events of an attempt go with its result.
-/

namespace SignedSetup.Setup

/-- What happens in an attempt to apply a request. -/
inductive ApplicationEvent where
  | recovered (signer : Address)
  | notAdmin (signer admin : Address)
  | applied (admin : Address) (config : NodeConfig)

/-- The name of the logger of these events. -/
def loggerName : Text := "web3_infra.setup_verifier"

/-- An address as the field of an event. -/
def addressField (a : Address) : Log.Value := .json (.text a.checksummed)

/-- A number as the field of an event. -/
def numberField (n : Nat) : Log.Value := .json (.int n)

/-- The event as it is logged. -/
def ApplicationEvent.logged : ApplicationEvent → Log.Event
  | .recovered signer =>
    ⟨loggerName, .debug, "setup_verifier.recovered", [("address", addressField signer)]⟩
  | .notAdmin signer admin =>
    ⟨loggerName, .warning, "setup_verifier.not_admin",
      [("address", addressField signer), ("admin", addressField admin)]⟩
  | .applied admin config =>
    ⟨loggerName, .info, "setup_verifier.applied",
      [("admin", addressField admin), ("network_id", numberField config.networkId),
        ("rollup_interval", numberField config.rollupInterval),
        ("min_rollup_size", numberField config.minRollupSize)]⟩

/-- Why a request is not applied. -/
inductive ApplicationFault where
  | verification (e : VerificationFault)
  /-- The administrator's address is none. -/
  | badAdmin (admin : Text)
  /-- Someone else signed the request. -/
  | notAdmin (signer : Address)
  /-- The network is no unsigned 64-bit integer. -/
  | badNetwork (network : Text)
  /-- A numeral of the message has too many digits. -/
  | tooLong (e : Decimal.TooLong)

/-- What is said of a value that is no address of an administrator. -/
def badAdminMessage (admin : Json) : Text := "invalid admin address " ++ admin.display

/-- What is said of a request that is not applied. -/
def ApplicationFault.message : ApplicationFault → Text
  | .verification e => e.message
  | .badAdmin admin => badAdminMessage (.text admin)
  | .notAdmin _ => "You are not the admin"
  | .badNetwork network => "invalid network " ++ network.quoted
  | .tooLong e => e.message

/-- The network that a message names; zero if it names none. -/
def networkField (message : List (Text × Json)) : Except ApplicationFault Nat := do
  let network := textField message ConfigField.network.wireName "0"
  match ← (unsigned? network).mapError .tooLong with
  | some n => return n
  | none => .error (.badNetwork network)

/-- The configuration that a message gives over a current one. -/
def configOf (message : List (Text × Json)) (current : NodeConfig) :
    Except ApplicationFault NodeConfig := do
  let networkId ← networkField message
  let minRollupSize ←
    (unsignedField id message ConfigField.minRollupSize.wireName current.minRollupSize).mapError
      .tooLong
  let rollupInterval ←
    (unsignedField id message ConfigField.rollupInterval.wireName current.rollupInterval).mapError
      .tooLong
  return {
    minRollupSize, rollupInterval, networkId
    evmNodeUrl := textField message ConfigField.evmNodeRpc.wireName current.evmNodeUrl
    arNodeUrl := textField message ConfigField.arNodeUrl.wireName current.arNodeUrl }

/-- The result of an attempt with its events. -/
structure Attempt where
  events : List ApplicationEvent
  result : Except ApplicationFault NodeConfig

/-- Apply a request whose signer is known. -/
def applyVerified (request : Verified) (admin : Text) (current : NodeConfig) : Attempt :=
  match Address.ofText? admin with
  | none => ⟨[], .error (.badAdmin admin)⟩
  | some admin =>
    if admin = request.signer then
      match configOf request.envelope.message current with
      | .ok config => ⟨[.applied request.signer config], .ok config⟩
      | .error e => ⟨[], .error e⟩
    else ⟨[.notAdmin request.signer admin], .error (.notAdmin request.signer)⟩

/-- Apply a request that the administrator must have signed. -/
def apply (payload : Bytes) (signature : Text) (admin : Text) (current : NodeConfig) : Attempt :=
  match verify payload signature with
  | .error e => ⟨[], .error (.verification e)⟩
  | .ok request =>
    let attempt := applyVerified request admin current
    { attempt with events := .recovered request.signer :: attempt.events }

end SignedSetup.Setup
