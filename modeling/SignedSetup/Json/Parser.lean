import SignedSetup.Hex
import SignedSetup.Json.Basic

/-!
# Reading JSON

A reader takes the text from a place on and gives a value with the text that follows it. A place
is the number of characters that remain, so a reader needs no position; line and column are worked
out once, for a complaint, from the whole text.

Beyond the standard grammar the names `NaN`, `Infinity` and `-Infinity` are read as doubles. A key
that comes twice keeps its first place and its last value. Values are nested as deep as the text
has them: there is no limit on the depth, as there is one on the digits of an integer.
-/

namespace SignedSetup.Json

/-- What a text that is not JSON is blamed for. -/
inductive Complaint where
  | expectingValue
  | expectingName
  | expectingColon
  | expectingComma
  | extraData
  | unterminatedString
  | controlCharacter
  | unknownEscape
  | malformedUnitEscape
  | byteOrderMark
deriving DecidableEq

/-- The words of a complaint. -/
def Complaint.message : Complaint → Text
  | .expectingValue => "Expecting value"
  | .expectingName => "Expecting property name enclosed in double quotes"
  | .expectingColon => "Expecting ':' delimiter"
  | .expectingComma => "Expecting ',' delimiter"
  | .extraData => "Extra data"
  | .unterminatedString => "Unterminated string starting at"
  | .controlCharacter => "Invalid control character at"
  | .unknownEscape => "Invalid \\escape"
  | .malformedUnitEscape => "Invalid \\uXXXX escape"
  | .byteOrderMark => "Unexpected UTF-8 BOM (decode using utf-8-sig)"

/-- Why a reader stopped. -/
inductive Stop where
  /-- A complaint about the place before the last `remaining` characters. -/
  | complaint (c : Complaint) (remaining : Nat)
  /-- An integer with too many digits. -/
  | tooLong (e : Decimal.TooLong)
deriving DecidableEq

/-- A complaint about the beginning of a text. -/
def complain {α : Type} (c : Complaint) (t : Text) : Except Stop α :=
  .error (.complaint c t.length)

/-- The four blanks that may stand between tokens. -/
def isBlank (c : CodePoint) : Bool := c = ' ' || c = '\t' || c = '\n' || c = '\r'

/-- The text from its first character that is no blank. -/
def skipBlanks (t : Text) : Text := t.dropWhile isBlank

/-! ## Strings -/

/-- A part of a string: a character written as itself or by a short escape, or a UTF-16 unit
written by its number. -/
inductive Part where
  | character (c : CodePoint)
  | unit (n : Nat)
deriving DecidableEq

/-- The character that a short escape stands for. -/
def shortEscape? (c : CodePoint) : Option CodePoint :=
  if c = '"' then some c
  else if c = '\\' then some c
  else if c = '/' then some c
  else if c = 'b' then some 0x08
  else if c = 'f' then some 0x0C
  else if c = 'n' then some 0x0A
  else if c = 'r' then some 0x0D
  else if c = 't' then some 0x09
  else none

/-- The number of four hexadecimal digits. -/
def unit? (a b c d : CodePoint) : Option Nat := do
  let a ← Hex.digit? a
  let b ← Hex.digit? b
  let c ← Hex.digit? c
  let d ← Hex.digit? d
  return ((a * 16 + b) * 16 + c) * 16 + d

/-- The parts of a string up to its closing quote. `opening` is the number of characters that
remained at its opening quote. The number of a unit must be followed by one more character. -/
def parts (opening : Nat) : Text → Except Stop (List Part × Text)
  | [] => .error (.complaint .unterminatedString opening)
  | c :: rest =>
    if c = '"' then .ok ([], rest)
    else if c = '\\' then
      match rest with
      | [] => .error (.complaint .unterminatedString opening)
      | e :: rest =>
        if e = 'u' then
          match rest with
          | h₁ :: h₂ :: h₃ :: h₄ :: next :: rest =>
            match unit? h₁ h₂ h₃ h₄ with
            | some n => do
              let (ps, rest) ← parts opening (next :: rest)
              return (.unit n :: ps, rest)
            | none => complain .malformedUnitEscape (e :: h₁ :: h₂ :: h₃ :: h₄ :: next :: rest)
          | _ => complain .malformedUnitEscape (e :: rest)
        else
          match shortEscape? e with
          | some c => do
            let (ps, rest) ← parts opening rest
            return (.character c :: ps, rest)
          | none => complain .unknownEscape (c :: e :: rest)
    else if c.val < 0x20 then complain .controlCharacter (c :: rest)
    else do
      let (ps, rest) ← parts opening rest
      return (.character c :: ps, rest)

/-- The code point of two units that form a pair. -/
def pair? (high low : Nat) : Option CodePoint :=
  if (CodePoint.ofNat high).isHighSurrogate && (CodePoint.ofNat low).isLowSurrogate then
    some (CodePoint.ofNat (0x10000 + (high - 0xD800) * 0x400 + (low - 0xDC00)))
  else none

/-- The text of a string's parts: two units in a row that form a pair are one character, and any
other unit is a code point of its own. -/
def joinParts : List Part → Text
  | [] => []
  | .character c :: ps => c :: joinParts ps
  | [.unit n] => [CodePoint.ofNat n]
  | .unit n :: .character c :: ps => CodePoint.ofNat n :: c :: joinParts ps
  | .unit n :: .unit m :: ps =>
    match pair? n m with
    | some c => c :: joinParts ps
    | none => CodePoint.ofNat n :: joinParts (.unit m :: ps)

/-- A string after its opening quote, before which `opening` characters remained. -/
def string (opening : Nat) (t : Text) : Except Stop (Text × Text) := do
  let (ps, rest) ← parts opening t
  return (joinParts ps, rest)

/-! ## Numbers and names -/

/-- The names of single values. -/
def names : List (Text × Json) :=
  [("null", .null), ("true", .bool true), ("false", .bool false), ("NaN", .float .nan),
    ("Infinity", .float (.infinite false)), ("-Infinity", .float (.infinite true))]

/-- A name at the beginning of a text. -/
def name? (t : Text) : Option (Json × Text) :=
  names.findSome? fun (word, v) => (Text.dropWord? word t).map fun rest => (v, rest)

/-- The digits at the beginning of a text, and what follows them. -/
def digits (t : Text) : Text × Text := (t.takeWhile Decimal.isDigit, t.dropWhile Decimal.isDigit)

/-- The whole part of a number: a zero alone, or digits that begin with another. -/
def whole? (t : Text) : Option (Text × Text) :=
  match t with
  | [] => none
  | c :: rest =>
    if c = '0' then some ([c], rest)
    else if Decimal.isDigit c then some (digits t)
    else none

/-- The digits of a fraction, none if there is no point with a digit after it. -/
def fraction (t : Text) : Text × Text :=
  match t with
  | [] => ([], t)
  | c :: rest =>
    if c = '.' then
      let (ds, rest) := digits rest
      if ds.isEmpty then ([], t) else (ds, rest)
    else ([], t)

/-- A sign at the beginning of a text: whether it is a minus, and what follows it. -/
def sign (t : Text) : Bool × Text :=
  match t with
  | [] => (false, t)
  | c :: rest => if c = '-' then (true, rest) else if c = '+' then (false, rest) else (false, t)

/-- The power of ten of a number, `none` if no digit follows the mark. -/
def power? (t : Text) : Option (Int × Text) :=
  match t with
  | [] => none
  | c :: rest =>
    if c = 'e' || c = 'E' then
      let (negative, rest) := sign rest
      let (ds, rest) := digits rest
      if ds.isEmpty then none
      else
        let n : Int := Decimal.value ds
        some (if negative then -n else n, rest)
    else none

/-- A number. It is an integer if it has neither a fraction nor a power. -/
def number (t : Text) : Except Stop (Json × Text) :=
  let (negative, body) :=
    match t with
    | [] => (false, t)
    | c :: rest => if c = '-' then (true, rest) else (false, t)
  match whole? body with
  | none => complain .expectingValue t
  | some (ws, rest) =>
    let (fs, rest) := fraction rest
    match fs, power? rest with
    | [], none =>
      match Decimal.read ws with
      | .error e => .error (.tooLong e)
      | .ok n => .ok (.int (if negative then -(n : Int) else n), rest)
    | fs, none => .ok (.float (Double.ofDecimal negative (ws ++ fs) (-(fs.length : Int))), rest)
    | fs, some (p, rest) =>
      .ok (.float (Double.ofDecimal negative (ws ++ fs) (p - (fs.length : Int))), rest)

/-! ## Values -/

/-- The items of an array from the first on, with a reader for one item. The fuel bounds their
number. -/
def items (item : Text → Except Stop (Json × Text)) : Nat → Text → Except Stop (List Json × Text)
  | 0, t => complain .expectingValue t
  | fuel + 1, t => do
    let (v, rest) ← item t
    match skipBlanks rest with
    | [] => complain .expectingComma []
    | c :: rest =>
      if c = ']' then return ([v], rest)
      else if c = ',' then
        let (vs, rest) ← items item fuel (skipBlanks rest)
        return (v :: vs, rest)
      else complain .expectingComma (c :: rest)

/-- A key with the colon after it. -/
def key (t : Text) : Except Stop (Text × Text) :=
  match t with
  | [] => complain .expectingName []
  | c :: rest =>
    if c = '"' then do
      let (k, rest) ← string t.length rest
      match skipBlanks rest with
      | [] => complain .expectingColon []
      | c :: rest =>
        if c = ':' then return (k, skipBlanks rest) else complain .expectingColon (c :: rest)
    else complain .expectingName t

/-- The members of an object from the first on, with a reader for one value. The fuel bounds their
number. -/
def members (value : Text → Except Stop (Json × Text)) :
    Nat → Text → Except Stop (List (Text × Json) × Text)
  | 0, t => complain .expectingName t
  | fuel + 1, t => do
    let (k, rest) ← key t
    let (v, rest) ← value rest
    match skipBlanks rest with
    | [] => complain .expectingComma []
    | c :: rest =>
      if c = '}' then return ([(k, v)], rest)
      else if c = ',' then
        let (ms, rest) ← members value fuel (skipBlanks rest)
        return ((k, v) :: ms, rest)
      else complain .expectingComma (c :: rest)

/-- An array after its opening bracket. -/
def array (item : Text → Except Stop (Json × Text)) (t : Text) : Except Stop (Json × Text) :=
  match skipBlanks t with
  | [] => complain .expectingValue []
  | c :: rest =>
    if c = ']' then .ok (.arr [], rest)
    else do
      let (vs, rest) ← items item (c :: rest).length (c :: rest)
      return (.arr vs, rest)

/-- An object after its opening brace. -/
def object (value : Text → Except Stop (Json × Text)) (t : Text) : Except Stop (Json × Text) :=
  match skipBlanks t with
  | [] => complain .expectingName []
  | c :: rest =>
    if c = '}' then .ok (.obj [], rest)
    else do
      let (ms, rest) ← members value (c :: rest).length (c :: rest)
      return (.obj (Entries.ofList ms), rest)

/-- A value, nested no deeper than the fuel says. -/
def value : Nat → Text → Except Stop (Json × Text)
  | 0, t => complain .expectingValue t
  | depth + 1, t =>
    match t with
    | [] => complain .expectingValue []
    | c :: rest =>
      if c = '"' then do
        let (s, rest) ← string t.length rest
        return (.text s, rest)
      else if c = '[' then array (value depth) rest
      else if c = '{' then object (value depth) rest
      else
        match name? t with
        | some r => .ok r
        | none => number t

/-- The value that a whole text spells, blanks around it left out. A text that begins with a byte
order mark is refused at once. -/
def document (t : Text) : Except Stop Json :=
  if t.head? = some 0xFEFF then complain .byteOrderMark t
  else do
    let (v, rest) ← value (t.length + 1) (skipBlanks t)
    match skipBlanks rest with
    | [] => return v
    | c :: rest => complain .extraData (c :: rest)

/-! ## Faults -/

/-- A place in a text: the number of characters before it, and its line and column from one. -/
structure Place where
  offset : Nat
  line : Nat
  column : Nat
deriving DecidableEq

/-- The place before the last `remaining` characters of a text. -/
def Place.before (t : Text) (remaining : Nat) : Place :=
  let offset := t.length - remaining
  let passed := t.take offset
  let newline : CodePoint := ('\n' : Char)
  ⟨offset, passed.count newline + 1, (passed.reverse.takeWhile (· ≠ newline)).length + 1⟩

/-- The words for a place. -/
def Place.message (p : Place) : Text :=
  "line " ++ Decimal.ofNat p.line ++ " column " ++ Decimal.ofNat p.column ++ " (char " ++
    Decimal.ofNat p.offset ++ ")"

/-- Why a text is no JSON value. -/
inductive Fault where
  | malformed (complaint : Complaint) (place : Place)
  | tooLong (e : Decimal.TooLong)
deriving DecidableEq

/-- What is said of a text that is no JSON value. -/
def Fault.message : Fault → Text
  | .malformed c p => c.message ++ ": " ++ p.message
  | .tooLong e => e.message

/-- The value that a text spells. -/
def parse (t : Text) : Except Fault Json :=
  match document t with
  | .ok v => .ok v
  | .error (.complaint c remaining) => .error (.malformed c (Place.before t remaining))
  | .error (.tooLong e) => .error (.tooLong e)

end SignedSetup.Json
