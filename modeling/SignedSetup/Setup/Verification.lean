import SignedSetup.Account.Signature
import SignedSetup.Payload
import SignedSetup.TypedData.Digest

/-!
# Verification of setup requests

A setup request is a payload with a signature. Verifying it recovers the address that signed the
payload's envelope. The stages come in a fixed order: the payload is decoded, the signature is
read, the envelope is hashed, and the signer is recovered from the digest. The first stage that
fails is the fault.
-/

namespace SignedSetup.Setup

/-- A request whose signer is known. -/
structure Verified where
  signer : Address
  envelope : Envelope

/-- Why a request cannot be verified. -/
inductive VerificationFault where
  | payload (e : Payload.Fault)
  | signature (e : Signature.Fault)
  | typedData (e : TypedData.Fault)
  | recovery (e : Signature.RecoveryFault)

/-- What is said of a request that cannot be verified. -/
def VerificationFault.message : VerificationFault → Text
  | .payload e => "bad typed data for err " ++ e.message
  | .signature e => "invalid signature for err " ++ e.message
  | .typedData e =>
    match e.message? with
    | some words => "invalid typed data for err " ++ words
    | none => "invalid typed data for err"
  | .recovery e => "invalid typed data for err " ++ e.message

/-- The signer of an envelope. -/
def recover (envelope : Envelope) (signature : Signature) : Except VerificationFault Address := do
  let digest ← (TypedData.digest envelope.json).mapError .typedData
  (signature.signer digest).mapError .recovery

/-- The signer and the envelope of a request. -/
def verify (payload : Bytes) (signature : Text) : Except VerificationFault Verified := do
  let envelope ← (Payload.decode payload).mapError .payload
  let signature ← (Signature.ofText signature).mapError .signature
  return ⟨← recover envelope signature, envelope⟩

end SignedSetup.Setup
