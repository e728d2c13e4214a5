import SignedSetup.Account.Signing
import SignedSetup.Setup.Application
import SignedSetup.Setup.Generation

/-!
# Sessions

A session is a node together with the request that it is about to try. Requests are made, stored,
amended, verified and applied step by step. An amended payload keeps the signature of the payload
before, so it is likely to be refused.
-/

namespace SignedSetup.Setup

/-- A node with a request and the administrator it is held against. -/
structure Session where
  current : NodeConfig
  admin : Text
  signature : Text
  payload : Bytes

namespace Session

/-- What can be done in a session. -/
inductive Step where
  /-- Make a request with a key and store it. -/
  | sign (key : Text) (source : Source)
  /-- Put other values in the place of stored ones; a payload is given in hexadecimal digits. -/
  | store (signature admin payload : Option Text)
  /-- Set fields of the stored payload's message to the values of JSON texts, and remove others. -/
  | amend (set : List (Text × Text)) (drop : List Text)
  | verify
  | apply

/-- Why the stored payload is not amended. -/
inductive AmendFault where
  | payload (e : Payload.Fault)
  | message (e : AmendmentFault)

/-- What a step answers. -/
inductive Answer where
  | signed (r : Except (GenerationFault SigningFault) (SignedPayload Text))
  | stored (r : Except Hex.Fault Unit)
  | amended (r : Except AmendFault Bytes)
  | verified (r : Except VerificationFault Verified)
  | applied (r : Except ApplicationFault NodeConfig)

/-- The payload that is stored, with its message amended. -/
def amended (s : Session) (set : List (Text × Text)) (drop : List Text) :
    Except AmendFault Bytes := do
  let e ← (Payload.decode s.payload).mapError .payload
  return Payload.encode (← (amendEnvelope set drop e).mapError .message)

/-- The session after a step, and its answer. A step that fails changes nothing, but values that
are stored beside a payload of bad digits stay. -/
def step (s : Session) : Step → Session × Answer
  | .sign key source =>
    let account (e : Envelope) := (signTypedData e.json key).map Signature.text
    match (generate (some account) source).result with
    | .ok signed =>
      ({ s with signature := signed.signature, payload := signed.payload }, .signed (.ok signed))
    | .error e => (s, .signed (.error e))
  | .store signature admin payload =>
    let s := { s with signature := signature.getD s.signature, admin := admin.getD s.admin }
    match payload.map Hex.read with
    | none => (s, .stored (.ok ()))
    | some (.ok payload) => ({ s with payload }, .stored (.ok ()))
    | some (.error e) => (s, .stored (.error e))
  | .amend set drop =>
    match s.amended set drop with
    | .ok payload => ({ s with payload }, .amended (.ok payload))
    | .error e => (s, .amended (.error e))
  | .verify => (s, .verified (Setup.verify s.payload s.signature))
  | .apply =>
    match (Setup.apply s.payload s.signature s.admin s.current).result with
    | .ok config => ({ s with current := config }, .applied (.ok config))
    | .error e => (s, .applied (.error e))

end Session

end SignedSetup.Setup
