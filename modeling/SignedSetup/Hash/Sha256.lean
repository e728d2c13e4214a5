import SignedSetup.Text.Basic

/-!
# SHA-256 and its keyed form

The compression function works on eight words of 32 bits, whose arithmetic wraps. The keyed form
hashes twice, with the key mixed into the beginning of both messages.
-/

namespace SignedSetup.Sha256

/-- The eight words between two blocks. -/
structure State where
  a : UInt32
  b : UInt32
  c : UInt32
  d : UInt32
  e : UInt32
  f : UInt32
  g : UInt32
  h : UInt32

/-- The words before the first block. -/
def initial : State :=
  ⟨0x6A09E667, 0xBB67AE85, 0x3C6EF372, 0xA54FF53A, 0x510E527F, 0x9B05688C, 0x1F83D9AB, 0x5BE0CD19⟩

/-- The constants of the 64 rounds. -/
def roundConstants : List UInt32 :=
  [0x428A2F98, 0x71374491, 0xB5C0FBCF, 0xE9B5DBA5, 0x3956C25B, 0x59F111F1, 0x923F82A4, 0xAB1C5ED5,
    0xD807AA98, 0x12835B01, 0x243185BE, 0x550C7DC3, 0x72BE5D74, 0x80DEB1FE, 0x9BDC06A7, 0xC19BF174,
    0xE49B69C1, 0xEFBE4786, 0x0FC19DC6, 0x240CA1CC, 0x2DE92C6F, 0x4A7484AA, 0x5CB0A9DC, 0x76F988DA,
    0x983E5152, 0xA831C66D, 0xB00327C8, 0xBF597FC7, 0xC6E00BF3, 0xD5A79147, 0x06CA6351, 0x14292967,
    0x27B70A85, 0x2E1B2138, 0x4D2C6DFC, 0x53380D13, 0x650A7354, 0x766A0ABB, 0x81C2C92E, 0x92722C85,
    0xA2BFE8A1, 0xA81A664B, 0xC24B8B70, 0xC76C51A3, 0xD192E819, 0xD6990624, 0xF40E3585, 0x106AA070,
    0x19A4C116, 0x1E376C08, 0x2748774C, 0x34B0BCB5, 0x391C0CB3, 0x4ED8AA4A, 0x5B9CCA4F, 0x682E6FF3,
    0x748F82EE, 0x78A5636F, 0x84C87814, 0x8CC70208, 0x90BEFFFA, 0xA4506CEB, 0xBEF9A3F7, 0xC67178F2]

/-- A word rotated towards its low end. -/
def rotate (w : UInt32) (n : UInt32) : UInt32 := w >>> n ||| w <<< (32 - n)

/-- The word that four octets spell, the highest first. -/
def wordOfBytes (bytes : Bytes) : UInt32 :=
  bytes.foldl (fun acc b => acc <<< 8 ||| b.toUInt32) 0

/-- The octets of a word, the highest first. -/
def bytesOfWord (w : UInt32) : Bytes :=
  [(w >>> 24).toUInt8, (w >>> 16).toUInt8, (w >>> 8).toUInt8, w.toUInt8]

/-- The word that follows sixteen words of the schedule, given with the latest first. -/
def nextWord (window : List UInt32) : UInt32 :=
  let word (i : Nat) : UInt32 := (window[i]?).getD 0
  let w₁ := word 1
  let w₁₄ := word 14
  let s₁ := rotate w₁ 17 ^^^ rotate w₁ 19 ^^^ w₁ >>> 10
  let s₀ := rotate w₁₄ 7 ^^^ rotate w₁₄ 18 ^^^ w₁₄ >>> 3
  word 15 + s₀ + word 6 + s₁

/-- The window moved on by so many words, with the words that it has seen, the latest first. -/
def extend (words : List UInt32) : Nat → List UInt32
  | 0 => words
  | more + 1 => extend (nextWord words :: words) more

/-- The 64 words of a block: its own sixteen and 48 that follow from them. -/
def schedule (block : Bytes) : List UInt32 :=
  let own := (List.range 16).map fun i => wordOfBytes ((block.drop (4 * i)).take 4)
  (extend own.reverse 48).reverse

/-- One round with its constant and its word. -/
def round (s : State) (input : UInt32 × UInt32) : State :=
  let s₁ := rotate s.e 6 ^^^ rotate s.e 11 ^^^ rotate s.e 25
  let choice := (s.e &&& s.f) ^^^ (~~~s.e &&& s.g)
  let t₁ := s.h + s₁ + choice + input.1 + input.2
  let s₀ := rotate s.a 2 ^^^ rotate s.a 13 ^^^ rotate s.a 22
  let majority := (s.a &&& s.b) ^^^ (s.a &&& s.c) ^^^ (s.b &&& s.c)
  ⟨t₁ + (s₀ + majority), s.a, s.b, s.c, s.d + t₁, s.e, s.f, s.g⟩

/-- The words after one block. -/
def compress (s : State) (block : Bytes) : State :=
  let r := (roundConstants.zip (schedule block)).foldl round s
  ⟨s.a + r.a, s.b + r.b, s.c + r.c, s.d + r.d, s.e + r.e, s.f + r.f, s.g + r.g, s.h + r.h⟩

/-- The message followed by a one bit, zeros and its length in bits, up to a multiple of 64
octets. -/
def pad (message : Bytes) : Bytes :=
  let zeros := (119 - message.length % 64) % 64
  let bits := 8 * message.length
  message ++ 0x80 :: List.replicate zeros 0 ++
    (List.range 8).map fun i => UInt8.ofNat (bits / 2 ^ (56 - 8 * i))

/-- The words after so many blocks. -/
def compressAll (s : State) : Nat → Bytes → State
  | 0, _ => s
  | count + 1, bytes => compressAll (compress s (bytes.take 64)) count (bytes.drop 64)

/-- The 32 octets of the hash of a message. -/
def hash (message : Bytes) : Bytes :=
  let padded := pad message
  let s := compressAll initial (padded.length / 64) padded
  [s.a, s.b, s.c, s.d, s.e, s.f, s.g, s.h].flatMap bytesOfWord

/-- The 32 octets of the keyed hash of a message, for a key of at most 64 octets. -/
def keyedHash (key message : Bytes) : Bytes :=
  let block := key ++ List.replicate (64 - key.length) 0
  hash (block.map (· ^^^ 0x5C) ++ hash (block.map (· ^^^ 0x36) ++ message))

end SignedSetup.Sha256
