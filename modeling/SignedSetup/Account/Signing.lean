import SignedSetup.Account.Signature
import SignedSetup.TypedData.Digest

/-!
# Signing typed data

An envelope is hashed first, and then the key is read, so an envelope that cannot be hashed is
reported whatever the key is.
-/

namespace SignedSetup

/-- Why typed data is not signed. -/
inductive SigningFault where
  | typedData (e : TypedData.Fault)
  | key (e : PrivateKey.Fault)

/-- The signature of typed data under a key. -/
def PrivateKey.signTypedData (key : PrivateKey) (envelope : Json) :
    Except TypedData.Fault Signature :=
  (TypedData.digest envelope).map (Signature.sign key)

/-- The signature of typed data under the key that a text spells. -/
def signTypedData (envelope : Json) (key : Text) : Except SigningFault Signature := do
  let digest ← (TypedData.digest envelope).mapError .typedData
  let key ← (PrivateKey.ofText key).mapError .key
  return Signature.sign key digest

end SignedSetup
