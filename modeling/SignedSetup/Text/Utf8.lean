import SignedSetup.Hex

/-!
# UTF-8

`Text.utf8` writes a text as octets. `Utf8.pieces` reads any octets at all: it cuts them into
characters and faults, where a fault is a longest run that begins like a character and is none.
Refusing at the first fault (`Utf8.decode`) and putting a replacement character in the place of
each (`Utf8.decodeLossy`) are two readings of the same pieces.
-/

namespace SignedSetup

/-- The octets of one code point. A surrogate has three like its neighbours; no reader accepts
them. -/
def CodePoint.utf8 (c : CodePoint) : Bytes :=
  let n := c.val
  let tail (shift : Nat) : UInt8 := UInt8.ofNat (0x80 + n / 2 ^ shift % 0x40)
  if n < 0x80 then [UInt8.ofNat n]
  else if n < 0x800 then [UInt8.ofNat (0xC0 + n / 2 ^ 6), tail 0]
  else if n < 0x10000 then [UInt8.ofNat (0xE0 + n / 2 ^ 12), tail 6, tail 0]
  else [UInt8.ofNat (0xF0 + n / 2 ^ 18), tail 12, tail 6, tail 0]

/-- The octets of a text, surrogates written as the replacement character. -/
def Text.utf8 (t : Text) : Bytes := t.scrub.flatMap CodePoint.utf8

/-- The surrogates of a text: how many characters stand before the first run of them, and the
run. -/
structure Text.Surrogates where
  offset : Nat
  run : Text
deriving DecidableEq

/-- What is said of a text that cannot be written because of surrogates. -/
def Text.Surrogates.message (e : Text.Surrogates) : Text :=
  let place :=
    match e.run with
    | [c] =>
      "character '\\u" ++ Hex.numeral 4 c.val ++ "' in position " ++ Decimal.ofNat e.offset
    | run =>
      "characters in position " ++ Decimal.ofNat e.offset ++ "-" ++
        Decimal.ofNat (e.offset + run.length - 1)
  "'utf-8' codec can't encode " ++ place ++ ": surrogates not allowed"

/-- The octets of a text, unless it holds a surrogate. -/
def Text.encode (t : Text) : Except Text.Surrogates Bytes :=
  if t.isScalar then .ok (t.flatMap CodePoint.utf8)
  else
    let before := t.takeWhile fun c => !c.isSurrogate
    .error ⟨before.length, (t.drop before.length).takeWhile CodePoint.isSurrogate⟩

namespace Utf8

/-- Why a run of octets is no character. -/
inductive Flaw where
  /-- No character begins with this octet. -/
  | invalidStart
  /-- The octet after the run does not continue it. -/
  | invalidContinuation
  /-- The octets end within the character. -/
  | unexpectedEnd
deriving DecidableEq

/-- A run of octets that is no character, with the number of octets before it. -/
structure Fault where
  offset : Nat
  run : Bytes
  flaw : Flaw
deriving DecidableEq

/-- A character, or a run that is none. -/
inductive Piece where
  | character (c : CodePoint)
  | fault (f : Fault)
deriving DecidableEq

/-- A character of which some octets have been read. -/
structure Partial where
  /-- The number of octets before it. -/
  offset : Nat
  /-- The octets read so far. -/
  run : Bytes
  /-- The bits they hold. -/
  bits : Nat
  /-- How many octets are to come, the next one included. -/
  missing : Nat
  /-- Least next octet. -/
  low : UInt8
  /-- Greatest next octet. -/
  high : UInt8

/-- What an octet after `offset` others begins: `none` for one that begins no longer character.
The bounds of the second octet leave out overlong forms, surrogates and numbers past the last code
point. -/
def Partial.begin? (offset : Nat) (b : UInt8) : Option Partial :=
  let n := b.toNat
  if 0xC2 ≤ n && n ≤ 0xDF then some ⟨offset, [b], n - 0xC0, 1, 0x80, 0xBF⟩
  else if n = 0xE0 then some ⟨offset, [b], 0, 2, 0xA0, 0xBF⟩
  else if n = 0xED then some ⟨offset, [b], 0xD, 2, 0x80, 0x9F⟩
  else if 0xE1 ≤ n && n ≤ 0xEF then some ⟨offset, [b], n - 0xE0, 2, 0x80, 0xBF⟩
  else if n = 0xF0 then some ⟨offset, [b], 0, 3, 0x90, 0xBF⟩
  else if n = 0xF4 then some ⟨offset, [b], 4, 3, 0x80, 0x8F⟩
  else if 0xF1 ≤ n && n ≤ 0xF3 then some ⟨offset, [b], n - 0xF0, 3, 0x80, 0xBF⟩
  else none

/-- The octet can be the next one. -/
def Partial.accepts (p : Partial) (b : UInt8) : Bool := p.low ≤ b && b ≤ p.high

/-- The partial character as a fault. -/
def Partial.fault (p : Partial) (flaw : Flaw) : Piece := .fault ⟨p.offset, p.run, flaw⟩

/-- Where a reader stands: between characters, after a number of octets, or within one. -/
inductive State where
  | between (offset : Nat)
  | within (p : Partial)

/-- Read an octet that begins a character, after `offset` others. -/
def begin (offset : Nat) (b : UInt8) : List Piece × State :=
  if b < 0x80 then ([.character (CodePoint.ofNat b.toNat)], .between (offset + 1))
  else
    match Partial.begin? offset b with
    | none => ([.fault ⟨offset, [b], .invalidStart⟩], .between (offset + 1))
    | some p => ([], .within p)

/-- Read one octet. -/
def State.step : State → UInt8 → List Piece × State
  | .between offset, b => begin offset b
  | .within p, b =>
    if p.accepts b then
      let bits := p.bits * 0x40 + (b.toNat - 0x80)
      if p.missing = 1 then
        ([.character (CodePoint.ofNat bits)], .between (p.offset + p.run.length + 1))
      else ([], .within ⟨p.offset, p.run ++ [b], bits, p.missing - 1, 0x80, 0xBF⟩)
    else
      let (out, s) := begin (p.offset + p.run.length) b
      (p.fault .invalidContinuation :: out, s)

/-- The pieces of octets, read from a state on. -/
def State.pieces : State → Bytes → List Piece
  | .between _, [] => []
  | .within p, [] => [p.fault .unexpectedEnd]
  | s, b :: rest =>
    let (out, s) := s.step b
    out ++ s.pieces rest

/-- Octets as characters and faults. -/
def pieces (bytes : Bytes) : List Piece := (State.between 0).pieces bytes

/-- The text that the octets spell, or their first fault. -/
def decode (bytes : Bytes) : Except Fault Text :=
  (pieces bytes).mapM fun
    | .character c => .ok c
    | .fault f => .error f

/-- The text that the octets spell, with a replacement character for each fault. -/
def decodeLossy (bytes : Bytes) : Text :=
  (pieces bytes).map fun
    | .character c => c
    | .fault _ => CodePoint.replacement

/-- What is said of a flaw. -/
def Flaw.message : Flaw → Text
  | .invalidStart => "invalid start byte"
  | .invalidContinuation => "invalid continuation byte"
  | .unexpectedEnd => "unexpected end of data"

/-- What is said of a fault: the octet and its place, or the places of a longer run. -/
def Fault.message (e : Fault) : Text :=
  let place :=
    match e.run with
    | [b] => "byte 0x" ++ Hex.ofByte b ++ " in position " ++ Decimal.ofNat e.offset
    | run =>
      "bytes in position " ++ Decimal.ofNat e.offset ++ "-" ++
        Decimal.ofNat (e.offset + run.length - 1)
  "'utf-8' codec can't decode " ++ place ++ ": " ++ e.flaw.message

end Utf8

end SignedSetup
