import SignedSetup.Hash.Keccak

/-!
# Keccak row by row

The steps of a round are functions of all lanes of the state, from which a proof has to work out
each lane anew. Here the state is five rows of five lanes and each step is written out for them.
The hash is the same (`hash_eq`), and it can be evaluated within a proof.
-/

namespace SignedSetup.Keccak

/-- The five lanes of a row. -/
structure Row where
  a : UInt64
  b : UInt64
  c : UInt64
  d : UInt64
  e : UInt64

namespace Row

/-- Two rows lane by lane. -/
def xor (r s : Row) : Row :=
  ⟨r.a ^^^ s.a, r.b ^^^ s.b, r.c ^^^ s.c, r.d ^^^ s.d, r.e ^^^ s.e⟩

/-- The row with each lane in the place of the one before it. -/
def shift (r : Row) : Row := ⟨r.b, r.c, r.d, r.e, r.a⟩

/-- The row with each lane rotated. -/
def rotated (r : Row) (i j k l m : Nat) : Row :=
  ⟨rotate r.a i, rotate r.b j, rotate r.c k, rotate r.d l, rotate r.e m⟩

/-- The row combined with itself. -/
def chi (r : Row) : Row :=
  ⟨r.a ^^^ (~~~r.b &&& r.c), r.b ^^^ (~~~r.c &&& r.d), r.c ^^^ (~~~r.d &&& r.e),
    r.d ^^^ (~~~r.e &&& r.a), r.e ^^^ (~~~r.a &&& r.b)⟩

end Row

/-- The five rows of a state. -/
structure Grid where
  p : Row
  q : Row
  r : Row
  s : Row
  t : Row

namespace Grid

theorem zero_lt_lanes : 0 < 25 := by decide

/-- The rows of a state. -/
def ofState (s : State) : Grid :=
  ⟨⟨getElem s 0 zero_lt_lanes, s[1], s[2], s[3], s[4]⟩, ⟨s[5], s[6], s[7], s[8], s[9]⟩,
    ⟨s[10], s[11], s[12], s[13], s[14]⟩, ⟨s[15], s[16], s[17], s[18], s[19]⟩,
    ⟨s[20], s[21], s[22], s[23], s[24]⟩⟩

def xor (g h : Grid) : Grid :=
  ⟨g.p.xor h.p, g.q.xor h.q, g.r.xor h.r, g.s.xor h.s, g.t.xor h.t⟩

/-! ## The steps of a round -/

/-- Each lane takes up the parities of the columns on its two sides. -/
def theta (g : Grid) : Grid :=
  let parities := (((g.p.xor g.q).xor g.r).xor g.s).xor g.t
  let before := parities.shift.shift.shift.shift
  let after := parities.shift.rotated 1 1 1 1 1
  let take (r : Row) : Row := (r.xor before).xor after
  ⟨take g.p, take g.q, take g.r, take g.s, take g.t⟩

/-- The lanes are rotated, each by its offset. -/
def rho (g : Grid) : Grid :=
  ⟨g.p.rotated 0 1 62 28 27, g.q.rotated 36 44 6 55 20, g.r.rotated 3 10 43 25 39,
    g.s.rotated 41 45 15 21 8, g.t.rotated 18 2 61 56 14⟩

def pi (g : Grid) : Grid :=
  ⟨⟨g.p.a, g.q.b, g.r.c, g.s.d, g.t.e⟩, ⟨g.p.d, g.q.e, g.r.a, g.s.b, g.t.c⟩,
    ⟨g.p.b, g.q.c, g.r.d, g.s.e, g.t.a⟩, ⟨g.p.e, g.q.a, g.r.b, g.s.c, g.t.d⟩,
    ⟨g.p.c, g.q.d, g.r.e, g.s.a, g.t.b⟩⟩

/-- Each row is combined with itself. -/
def chi (g : Grid) : Grid := ⟨g.p.chi, g.q.chi, g.r.chi, g.s.chi, g.t.chi⟩

/-- The first lane takes up the constant of the round. -/
def iota (constant : UInt64) (g : Grid) : Grid :=
  { g with p := { g.p with a := g.p.a ^^^ constant } }

def round (g : Grid) (constant : UInt64) : Grid := g.theta.rho.pi.chi.iota constant

theorem getElem_ofLanes (lane : Nat → Nat → UInt64) (i : Nat) (h : i < 25) :
    (State.ofLanes lane)[i] = lane (i % 5) (i / 5) := by
  simp [State.ofLanes]

theorem theta_ofState (s : State) : ofState (Keccak.theta s) = (ofState s).theta := by
  simp only [ofState, Keccak.theta, getElem_ofLanes]
  rfl

theorem rho_ofState (s : State) : ofState (Keccak.rho s) = (ofState s).rho := by
  simp only [ofState, Keccak.rho, Vector.getElem_ofFn]
  rfl

theorem pi_ofState (s : State) : ofState (Keccak.pi s) = (ofState s).pi := by
  simp only [ofState, Keccak.pi, getElem_ofLanes]
  rfl

theorem chi_ofState (s : State) : ofState (Keccak.chi s) = (ofState s).chi := by
  simp only [ofState, Keccak.chi, getElem_ofLanes]
  rfl

theorem iota_ofState (constant : UInt64) (s : State) :
    ofState (Keccak.iota constant s) = (ofState s).iota constant := by
  simp [ofState, Keccak.iota, iota]

theorem round_ofState (s : State) (constant : UInt64) :
    ofState (Keccak.round s constant) = (ofState s).round constant := by
  rw [Keccak.round, iota_ofState, chi_ofState, pi_ofState, rho_ofState, theta_ofState, round]

/-! ## The sponge -/

def permute (g : Grid) : Grid := roundConstants.foldl round g

theorem permute_ofState (s : State) : ofState (Keccak.permute s) = (ofState s).permute := by
  suffices h : ∀ (constants : List UInt64) (s : State),
      ofState (constants.foldl Keccak.round s) = constants.foldl round (ofState s) from h _ s
  intro constants
  induction constants with
  | nil => exact fun s => rfl
  | cons constant constants ih =>
    intro s
    rw [List.foldl_cons, List.foldl_cons, ih, round_ofState]

/-- The rows that the octets of a block spell. -/
def ofBlock (block : Bytes) : Grid :=
  let lane (i : Nat) : UInt64 := laneOfBytes ((block.drop (8 * i)).take 8)
  let row (i : Nat) : Row := ⟨lane i, lane (i + 1), lane (i + 2), lane (i + 3), lane (i + 4)⟩
  ⟨row 0, row 5, row 10, row 15, row 20⟩

/-- The grid with so many blocks taken up, one after another. -/
def absorbAll (g : Grid) : Nat → Bytes → Grid
  | 0, _ => g
  | count + 1, bytes =>
    absorbAll (g.xor (ofBlock (bytes.take rate))).permute count (bytes.drop rate)

theorem absorb_ofState (s : State) (block : Bytes) :
    ofState (Keccak.absorb s block) = ((ofState s).xor (ofBlock block)).permute := by
  rw [Keccak.absorb, permute_ofState]
  simp only [ofState, Vector.getElem_ofFn]
  rfl

theorem absorbAll_ofState (s : State) (count : Nat) (bytes : Bytes) :
    ofState (Keccak.absorbAll s count bytes) = (ofState s).absorbAll count bytes := by
  induction count generalizing s bytes with
  | zero => rfl
  | succ count ih => rw [Keccak.absorbAll, ih, absorb_ofState, absorbAll]

/-- The grid of zeros. -/
def zero : Grid :=
  let row : Row := ⟨0, 0, 0, 0, 0⟩
  ⟨row, row, row, row, row⟩

/-- The 32 octets of the hash of a message. -/
def hash (message : Bytes) : Bytes :=
  let padded := pad message
  let g := zero.absorbAll (padded.length / rate) padded
  ([g.p.a, g.p.b, g.p.c, g.p.d].map bytesOfLane).flatten

end Grid

/-- The hash can be worked out row by row. -/
theorem hash_eq (message : Bytes) : hash message = Grid.hash message := by
  have hzero : Grid.ofState (Vector.replicate 25 0) = Grid.zero := rfl
  have htake (s : State) : s.toList.take 4 =
      [(Grid.ofState s).p.a, (Grid.ofState s).p.b, (Grid.ofState s).p.c, (Grid.ofState s).p.d] := by
    obtain ⟨⟨lanes⟩, hsize⟩ := s
    match lanes, hsize with
    | a :: b :: c :: d :: rest, _ => rfl
  rw [hash, htake, Grid.absorbAll_ofState, hzero, Grid.hash]

end SignedSetup.Keccak
