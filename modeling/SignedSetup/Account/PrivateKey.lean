import SignedSetup.Account.Address
import SignedSetup.Curve.Ecdsa
import SignedSetup.Json.Basic

/-!
# Private keys

A private key is a number between zero and the order of the curve. It is given as the hexadecimal
digits of 32 octets, with an optional prefix; one zero may be left out in front. A number of 32
octets may also be given as it is.
-/

namespace SignedSetup

/-- The private key of an account. -/
structure PrivateKey where
  value : Nat
  pos_value : 0 < value
  value_lt_order : value < Curve.order
deriving DecidableEq

namespace PrivateKey

/-- Why a value is no private key. -/
inductive Fault where
  /-- A character is outside ASCII. -/
  | notAscii
  /-- A character is no hexadecimal digit. -/
  | notHex
  /-- The octets are too few or too many, or their number is out of range. -/
  | notInRange (octets : Nat)
  /-- A number below zero has no octets. -/
  | negative (n : Int)
  /-- Neither a text nor a number. -/
  | wrongKind
deriving DecidableEq

/-- What is said of octets that are no private key, also where their count is right. -/
def rangeMessage (octets : Nat) : Text :=
  "The private key must be exactly 32 bytes long, instead of " ++ Decimal.ofNat octets ++
    " bytes."

/-- What is said of a number below zero. -/
def negativeMessage (n : Int) : Text :=
  "Cannot convert negative integer " ++ Decimal.ofInt n ++ " to bytes"

/-- The private key that octets spell. -/
def ofBytes (bytes : Bytes) : Except Fault PrivateKey :=
  let value := BigEndian.value bytes
  if bytes.length ≠ 32 then .error (.notInRange bytes.length)
  else if h : 0 < value ∧ value < Curve.order then .ok ⟨value, h.1, h.2⟩
  else .error (.notInRange bytes.length)

/-- The private key that a text spells. -/
def ofText (t : Text) : Except Fault PrivateKey :=
  let digits := Address.dropHexPrefix t
  let padded : Text := if digits.length % 2 = 1 then Hex.digit 0 :: digits else digits
  if !t.isAscii then .error .notAscii
  else
    match Hex.readExact? padded with
    | none => .error .notHex
    | some bytes => ofBytes bytes

/-- The private key that a value gives. A truth value counts as one octet. -/
def ofJson : Json → Except Fault PrivateKey
  | .text t => ofText t
  | .bool b => ofBytes [if b then 1 else 0]
  | .int n => if n < 0 then .error (.negative n) else ofBytes (BigEndian.minimal n.toNat)
  | _ => .error .wrongKind

/-- The address of the key's account. -/
def address (key : PrivateKey) : Address :=
  let (x, y) := ((Curve.Ecdsa.publicKey key.value).affine?).getD (0, 0)
  Address.ofPublicKey x y

end PrivateKey

end SignedSetup
