import SignedSetup.Number.Modular

/-!
# The curve y² = x³ + 7

The points of the curve over the integers modulo a prime form a group of prime order. Points are
held in homogeneous coordinates, so that one addition law, which has no exceptions on a curve of
odd order, serves for sums, doubles and the point at infinity alike and needs no division.
-/

namespace SignedSetup.Curve

/-- The prime modulo which coordinates are counted. -/
def prime : Nat := 2 ^ 256 - 2 ^ 32 - 977

/-- The number of points. -/
def order : Nat := 0xFFFFFFFFFFFFFFFFFFFFFFFFFFFFFFFEBAAEDCE6AF48A03BBFD25E8CD0364141

instance : NeZero prime := ⟨by decide⟩

instance : NeZero order := ⟨by decide⟩

/-- A coordinate of a point. -/
abbrev Coordinate := Fin prime

/-- A number modulo the order of the curve, which multiplies points. -/
abbrev Scalar := Fin order

/-- A point in homogeneous coordinates: `(x / z, y / z)`, or the point at infinity where `z` is
zero. -/
structure Point where
  x : Coordinate
  y : Coordinate
  z : Coordinate

namespace Point

/-- The neutral point. -/
def infinity : Point := ⟨0, 1, 0⟩

/-- The point with given coordinates. -/
def ofAffine (x y : Coordinate) : Point := ⟨x, y, 1⟩

/-- The sum of two points, by a law that is complete on this curve. -/
def add (p q : Point) : Point :=
  let xx := p.x * q.x
  let yy := p.y * q.y
  let zz := 21 * (p.z * q.z)
  let xy := p.x * q.y + q.x * p.y
  let yz := p.y * q.z + q.y * p.z
  let xz := p.x * q.z + q.x * p.z
  ⟨xy * (yy - zz) - 21 * (yz * xz), (yy + zz) * (yy - zz) + 63 * (xx * xz),
    yz * (yy + zz) + 3 * (xx * xy)⟩

instance : Add Point := ⟨add⟩

/-- The sum of so many copies of a point. -/
def multiple (n : Nat) (p : Point) : Point :=
  if n = 0 then infinity
  else
    let double := multiple (n / 2) (p + p)
    if n % 2 = 1 then double + p else double

/-- The coordinates of a point; the point at infinity has none. -/
def affine? (p : Point) : Option (Coordinate × Coordinate) :=
  if p.z = 0 then none
  else
    let scale := Modular.inverse p.z
    some (p.x * scale, p.y * scale)

/-- The point from which all others are multiples. -/
def generator : Point :=
  ofAffine (Fin.ofNat prime 0x79BE667EF9DCBBAC55A06295CE870B07029BFCDB2DCE28D959F2815B16F81798)
    (Fin.ofNat prime 0x483ADA7726A3C4655DA4FBFC0E1108A8FD17B448A68554199C47D08FFB10D4B8)

/-- The point with a given first coordinate whose second is odd or even, if the curve has it. The
prime is three modulo four, so a square has its power `(prime + 1) / 4` for a root. -/
def lift? (x : Coordinate) (odd : Bool) : Option Point :=
  let square := x * x * x + 7
  let root := Modular.power square ((prime + 1) / 4)
  if root * root ≠ square then none
  else if Modular.isOdd root = odd then some (ofAffine x root)
  else some (ofAffine x (-root))

end Point

end SignedSetup.Curve
