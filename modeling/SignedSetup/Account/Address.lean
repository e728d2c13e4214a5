import SignedSetup.Curve.Point
import SignedSetup.Hash.Keccak
import SignedSetup.Hex
import SignedSetup.Number.BigEndian
import SignedSetup.Text.Utf8

/-!
# Addresses

An address is twenty octets: the end of the hash of a public key. It is written with a prefix and
forty hexadecimal digits whose case is a checksum, and read with or without the prefix in any case.
Two spellings of one address are one address.
-/

namespace SignedSetup

/-- The address of an account. -/
structure Address where
  bytes : Bytes
  length_bytes : bytes.length = 20
deriving DecidableEq

namespace Address

/-- The last twenty octets of at least so many, after zeros if there are fewer. -/
def ofBytes (bytes : Bytes) : Address where
  bytes := ((List.replicate 20 0 ++ bytes).reverse.take 20).reverse
  length_bytes := by simp

/-- The address of a public key. -/
def ofPublicKey (x y : Curve.Coordinate) : Address :=
  ofBytes (Keccak.hash (BigEndian.ofNat 32 x.val ++ BigEndian.ofNat 32 y.val))

/-- A text without one prefix `0x` or `0X`. -/
def dropHexPrefix (t : Text) : Text :=
  match t with
  | z :: x :: rest => if z = '0' && (x = 'x' || x = 'X') then rest else t
  | _ => t

/-- The address that a text spells: forty hexadecimal digits of either case after an optional
prefix. The case is not looked at. -/
def ofText? (t : Text) : Option Address :=
  match Hex.readExact? (dropHexPrefix t) with
  | none => none
  | some bytes => if h : bytes.length = 20 then some ⟨bytes, h⟩ else none

/-- A lower-case digit in the case that its check digit asks for: upper from eight on. -/
def checkedDigit (digit check : CodePoint) : CodePoint :=
  if 0x61 ≤ digit.val && 8 ≤ (Hex.digit? check).getD 0 then CodePoint.ofNat (digit.val - 0x20)
  else digit

/-- The address with its checksum: the check digits are those of the hash of its lower-case
digits. -/
def checksummed (a : Address) : Text :=
  let digits := Hex.ofBytes a.bytes
  let checks := Hex.ofBytes (Keccak.hash digits.utf8)
  "0x" ++ List.zipWith checkedDigit digits checks

end Address

end SignedSetup
