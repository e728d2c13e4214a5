import SignedSetup.Curve.Point
import SignedSetup.Hash.Sha256
import SignedSetup.Number.BigEndian

/-!
# Signatures with recoverable keys

A signature holds the first coordinate of a point, a scalar and one bit, from which the public key
can be worked out again. The point is chosen by the key and the digest alone, so that signing the
same digest twice gives the same signature. Of the two scalars that would do, signing takes the
lower one; recovery accepts both.
-/

namespace SignedSetup.Curve

/-- A signature: the first coordinate `r` of a point, the scalar `s`, and whether the second
coordinate of the point is odd. -/
structure RawSignature where
  r : Nat
  s : Nat
  odd : Bool
deriving DecidableEq

namespace Ecdsa

/-- The scalar of a digest. -/
def scalarOfDigest (digest : Bytes) : Scalar := Fin.ofNat order (BigEndian.value digest)

/-! ## Signing -/

/-- The state from which candidates for the secret multiple are drawn. -/
structure Drawing where
  key : Bytes
  value : Bytes

/-- The state for a private key and a digest. -/
def Drawing.start (key : Nat) (digest : Bytes) : Drawing :=
  let input := BigEndian.ofNat 32 key ++ BigEndian.ofNat 32 (scalarOfDigest digest).val
  let value := List.replicate 32 0x01
  let key := Sha256.keyedHash (List.replicate 32 0x00) (value ++ 0x00 :: input)
  let value := Sha256.keyedHash key value
  let key := Sha256.keyedHash key (value ++ 0x01 :: input)
  ⟨key, Sha256.keyedHash key value⟩

/-- The candidate of a state and the state after it. -/
def Drawing.next (d : Drawing) : Nat × Drawing :=
  let value := Sha256.keyedHash d.key d.value
  let key := Sha256.keyedHash d.key (value ++ [0x00])
  (BigEndian.value value, ⟨key, Sha256.keyedHash key value⟩)

/-- The signature that a secret multiple of the generator makes. -/
def signWith (key : Nat) (digest : Bytes) (secret : Nat) : RawSignature :=
  let (x, y) := ((Point.generator.multiple secret).affine?).getD (0, 0)
  let r := Fin.ofNat order x.val
  let s := Modular.inverse (Fin.ofNat order secret) *
    (scalarOfDigest digest + r * Fin.ofNat order key)
  let odd := Modular.isOdd y
  if 2 * s.val < order then ⟨r.val, s.val, odd⟩ else ⟨r.val, (-s).val, !odd⟩

/-- The signature of the first candidate that makes one, tried with so many candidates. A number
that is not between zero and the order is no candidate, nor is one that makes a zero. -/
def signFrom (key : Nat) (digest : Bytes) (d : Drawing) : Nat → RawSignature
  | 0 => signWith key digest 1
  | more + 1 =>
    let (secret, d) := d.next
    if secret = 0 || order ≤ secret then signFrom key digest d more
    else
      let signature := signWith key digest secret
      if signature.r = 0 || signature.s = 0 then signFrom key digest d more else signature

/-- The signature of a digest under a private key. That none of 64 candidates makes one has a
chance below `2 ^ -8000`. -/
def sign (key : Nat) (digest : Bytes) : RawSignature :=
  signFrom key digest (Drawing.start key digest) 64

/-- The public key of a private key. -/
def publicKey (key : Nat) : Point := Point.generator.multiple key

/-! ## Recovery -/

/-- Why a signature has no public key. -/
inductive RecoveryFault where
  /-- One of the numbers is zero, or the first is no coordinate of a point. -/
  | noPoint
  /-- The public key would be the point at infinity. -/
  | atInfinity
deriving DecidableEq

/-- The coordinates of the public key under which a signature signs a digest. -/
def recover (digest : Bytes) (signature : RawSignature) :
    Except RecoveryFault (Coordinate × Coordinate) :=
  let r := Fin.ofNat order signature.r
  let s := Fin.ofNat order signature.s
  match Point.lift? (Fin.ofNat prime signature.r) signature.odd with
  | none => .error .noPoint
  | some point =>
    if r = 0 || s = 0 then .error .noPoint
    else
      let sum := Point.generator.multiple (-scalarOfDigest digest).val + point.multiple s.val
      match (sum.multiple (Modular.inverse r).val).affine? with
      | none => .error .atInfinity
      | some key => .ok key

end Ecdsa

end SignedSetup.Curve
