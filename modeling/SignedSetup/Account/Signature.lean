import SignedSetup.Account.PrivateKey

/-!
# Signatures

A signature is 65 octets: two numbers of 32 octets each and a recovery mark, which says which of
two public keys made it. It is given in hexadecimal with an optional prefix and blanks between the
octets, and written with the prefix and without blanks.
-/

namespace SignedSetup

/-- A signature as it is handed on. -/
structure Signature where
  bytes : Bytes
  length_bytes : bytes.length = 65
deriving DecidableEq

namespace Signature

/-- The octets of a signature. -/
def size : Nat := 65

/-- Why a text is no signature. -/
inductive Fault where
  | hex (e : Hex.Fault)
  /-- The text spells so many octets. -/
  | wrongSize (octets : Nat)
deriving DecidableEq

/-- What is said of a text that is no signature. -/
def Fault.message : Fault → Text
  | .hex e => e.message
  | .wrongSize octets =>
    "expected " ++ Decimal.ofNat size ++ " bytes, got " ++ Decimal.ofNat octets

/-- The signature that a text spells. -/
def ofText (t : Text) : Except Fault Signature :=
  match Hex.read (Address.dropHexPrefix t) with
  | .error e => .error (.hex e)
  | .ok bytes =>
    if h : bytes.length = size then .ok ⟨bytes, h⟩ else .error (.wrongSize bytes.length)

/-- The digits of a signature after the prefix. -/
def text (s : Signature) : Text := "0x" ++ Hex.ofBytes s.bytes

/-- The first number. -/
def r (s : Signature) : Nat := BigEndian.value (s.bytes.take 32)

/-- The second number. -/
def s (s : Signature) : Nat := BigEndian.value ((s.bytes.drop 32).take 32)

/-- The recovery mark. -/
def mark (s : Signature) : Nat := BigEndian.value (s.bytes.drop 64)

/-- The numbers of a signature as octets. -/
def ofRaw (raw : Curve.RawSignature) : Signature where
  bytes := BigEndian.ofNat 32 raw.r ++ BigEndian.ofNat 32 raw.s ++ [if raw.odd then 28 else 27]
  length_bytes := by simp

/-- The signature of a digest under a private key. -/
def sign (key : PrivateKey) (digest : Bytes) : Signature :=
  ofRaw (Curve.Ecdsa.sign key.value digest)

/-! ## Recovery -/

/-- Why a signature has no signer. -/
inductive RecoveryFault where
  | badMark (mark : Nat)
  /-- One of the numbers is not below the order of the curve. -/
  | outOfRange (number : Nat)
  | curve (e : Curve.Ecdsa.RecoveryFault)
deriving DecidableEq

/-- What is said of a signature without a signer. -/
def RecoveryFault.message : RecoveryFault → Text
  | .badMark mark =>
    "v " ++ Decimal.ofNat mark ++ " is invalid, must be one of: 0, 1, 27, 28, 35+"
  | .outOfRange number =>
    "Value " ++ Decimal.ofNat number ++ " is not less than or equal to " ++
      Decimal.ofNat (Curve.order - 1)
  | .curve .noPoint => "Invalid signature"
  | .curve .atInfinity => "InvalidSignature"

/-- What a recovery mark says: whether the second coordinate is odd. Three ranges are in use. -/
def oddOfMark? (mark : Nat) : Option Bool :=
  if mark = 0 || mark = 27 then some false
  else if mark = 1 || mark = 28 then some true
  else if 35 ≤ mark then some (mark % 2 = 0)
  else none

/-- The address that signed a digest. -/
def signer (s : Signature) (digest : Bytes) : Except RecoveryFault Address :=
  match oddOfMark? s.mark with
  | none => .error (.badMark s.mark)
  | some odd =>
    if Curve.order ≤ s.r then .error (.outOfRange s.r)
    else if Curve.order ≤ s.s then .error (.outOfRange s.s)
    else
      match Curve.Ecdsa.recover digest ⟨s.r, s.s, odd⟩ with
      | .error e => .error (.curve e)
      | .ok (x, y) => .ok (Address.ofPublicKey x y)

end Signature

end SignedSetup
