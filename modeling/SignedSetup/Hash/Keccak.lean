import SignedSetup.Text.Basic

/-!
# Keccak-256

The sponge over the permutation Keccak-f[1600] with a rate of 136 octets and the padding byte
`0x01`. The state is 25 lanes of 64 bits; lane `x + 5 * y` stands in column `x` of row `y`. Each
step of a round is a function of the lanes that it reads, as in its mathematical description.
-/

namespace SignedSetup.Keccak

/-- The lanes of the permutation. -/
abbrev State := Vector UInt64 25

/-- The lane in a column and a row, both counted modulo five. -/
def State.lane (s : State) (x y : Nat) : UInt64 :=
  s.get ⟨x % 5 + 5 * (y % 5), by omega⟩

/-- A state from the lane of each column and row. -/
def State.ofLanes (lane : Nat → Nat → UInt64) : State :=
  Vector.ofFn fun i => lane (i.val % 5) (i.val / 5)

/-- A lane rotated towards its high end. -/
def rotate (w : UInt64) (n : Nat) : UInt64 :=
  if n % 64 = 0 then w else w <<< UInt64.ofNat (n % 64) ||| w >>> UInt64.ofNat (64 - n % 64)

/-- How far each lane is rotated, row by row. -/
def offsets : Vector Nat 25 :=
  #v[0, 1, 62, 28, 27, 36, 44, 6, 55, 20, 3, 10, 43, 25, 39, 41, 45, 15, 21, 8, 18, 2, 61, 56, 14]

/-- The constants of the rounds. -/
def roundConstants : List UInt64 :=
  [0x0000000000000001, 0x0000000000008082, 0x800000000000808A, 0x8000000080008000,
    0x000000000000808B, 0x0000000080000001, 0x8000000080008081, 0x8000000000008009,
    0x000000000000008A, 0x0000000000000088, 0x0000000080008009, 0x000000008000000A,
    0x000000008000808B, 0x800000000000008B, 0x8000000000008089, 0x8000000000008003,
    0x8000000000008002, 0x8000000000000080, 0x000000000000800A, 0x800000008000000A,
    0x8000000080008081, 0x8000000000008080, 0x0000000080000001, 0x8000000080008008]

/-- The parity of a column. -/
def State.parity (s : State) (x : Nat) : UInt64 :=
  s.lane x 0 ^^^ s.lane x 1 ^^^ s.lane x 2 ^^^ s.lane x 3 ^^^ s.lane x 4

/-- Each lane takes up the parities of the columns on its two sides. -/
def theta (s : State) : State :=
  let parities : Vector UInt64 5 := Vector.ofFn fun x => s.parity x.val
  let parity (x : Nat) : UInt64 := parities.get ⟨x % 5, by omega⟩
  State.ofLanes fun x y => s.lane x y ^^^ parity (x + 4) ^^^ rotate (parity (x + 1)) 1

/-- The lanes are rotated, each by its offset. -/
def rho (s : State) : State := Vector.ofFn fun i => rotate s[i] offsets[i]

/-- The lanes change places. -/
def pi (s : State) : State := State.ofLanes fun x y => s.lane (x + 3 * y) x

/-- Each row is combined with itself, the only step that is not linear. -/
def chi (s : State) : State :=
  State.ofLanes fun x y => s.lane x y ^^^ (~~~s.lane (x + 1) y &&& s.lane (x + 2) y)

/-- The first lane takes up the constant of the round. -/
def iota (constant : UInt64) (s : State) : State := s.set 0 (s[0] ^^^ constant)

/-- One round. -/
def round (s : State) (constant : UInt64) : State := iota constant (chi (pi (rho (theta s))))

/-- The permutation: a round for each constant. -/
def permute (s : State) : State := roundConstants.foldl round s

/-- The number of octets that are taken up between two permutations. -/
def rate : Nat := 136

/-- The message followed by a one bit, zeros and a one bit, up to a multiple of the rate. -/
def pad (message : Bytes) : Bytes :=
  let missing := rate - message.length % rate
  if missing = 1 then message ++ [0x81]
  else message ++ 0x01 :: List.replicate (missing - 2) 0 ++ [0x80]

/-- The lane that eight octets spell, the lowest first. -/
def laneOfBytes (bytes : Bytes) : UInt64 :=
  bytes.foldr (fun b acc => acc <<< 8 ||| b.toUInt64) 0

/-- The octets of a lane, the lowest first. -/
def bytesOfLane (lane : UInt64) : Bytes :=
  (List.range 8).map fun i => (lane >>> UInt64.ofNat (8 * i)).toUInt8

/-- The state with one block taken up. -/
def absorb (s : State) (block : Bytes) : State :=
  permute (Vector.ofFn fun i => s[i] ^^^ laneOfBytes ((block.drop (8 * i.val)).take 8))

/-- The state with so many blocks taken up, one after another. -/
def absorbAll (s : State) : Nat → Bytes → State
  | 0, _ => s
  | count + 1, bytes => absorbAll (absorb s (bytes.take rate)) count (bytes.drop rate)

/-- The 32 octets of the hash of a message. -/
def hash (message : Bytes) : Bytes :=
  let padded := pad message
  let s := absorbAll (Vector.replicate 25 0) (padded.length / rate) padded
  ((s.toList.take 4).map bytesOfLane).flatten

end SignedSetup.Keccak
