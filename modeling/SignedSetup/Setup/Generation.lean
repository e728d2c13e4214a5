import SignedSetup.Payload
import SignedSetup.Setup.Message
import SignedSetup.Setup.Source

/-!
# Generation of setup requests

A request is made by building the envelope of a message, having it signed and writing it as a
payload. The signer is anything that answers an envelope with a signature or an error; it is asked
once, with the whole envelope, and what it answers is passed on as it is.
-/

namespace SignedSetup.Setup

/-- A signature with the payload that it covers. -/
structure SignedPayload (σ : Type) where
  signature : σ
  payload : Bytes

/-- Why no request is made. -/
inductive GenerationFault (ε : Type) where
  /-- There is no account to sign with. -/
  | noAccount
  | source (e : MappingFault)
  | signer (e : ε)

/-- What is said where there is no account. -/
def noAccountMessage : Text := "account must not be None"

/-- The result of a generation with the envelopes that the signer was asked to sign. -/
structure Generation (σ ε : Type) where
  calls : List Envelope
  result : Except (GenerationFault ε) (SignedPayload σ)

/-- Have a message signed and write it as a payload. -/
def generate {σ ε : Type} (account : Option (Envelope → Except ε σ)) (source : Source) :
    Generation σ ε :=
  match account, source.message with
  | none, _ => ⟨[], .error .noAccount⟩
  | some _, .error e => ⟨[], .error (.source e)⟩
  | some sign, .ok message =>
    let e := envelope message
    ⟨[e],
      match sign e with
      | .error fault => .error (.signer fault)
      | .ok signature => .ok ⟨signature, Payload.encode e.json⟩⟩

end SignedSetup.Setup
