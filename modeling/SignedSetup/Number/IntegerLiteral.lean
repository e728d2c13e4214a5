import SignedSetup.Number.Decimal
import SignedSetup.Text.Blank
import SignedSetup.Text.DecimalDigit

/-!
# Integer literals

An integer literal is an optional sign and digits, where one underscore may stand between two
digits. What may stand around it differs from place to place: a configuration value may have white
space around it, zeros and underscores before it and a fraction of zeros behind it, and an integer
of typed data may be written with the digits and blanks of any script.

A configuration value is looked at twice: first as a plain numeral, then with all that may stand
around the numeral taken away. Only the first look reports a numeral that is too long.
-/

namespace SignedSetup.IntegerLiteral

/-- A sign at the beginning of a text: whether it is a minus, and what follows it. -/
def sign (t : Text) : Bool × Text :=
  match t with
  | [] => (false, t)
  | c :: rest => if c = '-' then (true, rest) else if c = '+' then (false, rest) else (false, t)

/-- A magnitude with the sign that was written before it. -/
def signed (negative : Bool) (n : Nat) : Int := if negative then -(n : Int) else n

/-- The digits of a text that is nothing but digits with single underscores between them. -/
def digits? : Text → Option Text
  | [] => none
  | [c] => if Decimal.isDigit c then some [c] else none
  | c :: d :: rest =>
    if !Decimal.isDigit c then none
    else if d = '_' then (digits? rest).map (c :: ·)
    else (digits? (d :: rest)).map (c :: ·)

/-- Why a text is no integer. -/
inductive Fault where
  | malformed
  | tooLong (e : Decimal.TooLong)
deriving DecidableEq

/-! ## Values of a configuration -/

/-- A text without a point followed by zeros, at least one, at its end. -/
def dropZeroFraction (t : Text) : Text :=
  let point : CodePoint := ('.' : Char)
  let fraction := (t.dropWhile (· ≠ point)).drop 1
  if !fraction.isEmpty && fraction.all (· = Decimal.digit 0) then t.takeWhile (· ≠ point) else t

/-- A text begins with one of the digits from 1 on. -/
def beginsPositive (t : Text) : Bool :=
  t.head?.any fun c => Decimal.isDigit c && c ≠ Decimal.digit 0

/-- The integer that a text spells plainly: digits, the first of them a zero only if it is the only
one, and perhaps a minus sign before them. A run of too many digits is reported before what stands
behind it is looked at. -/
def plain (t : Text) : Except Fault Int :=
  let minus : CodePoint := ('-' : Char)
  let negative := t.head? = some minus
  let body := if negative then t.drop 1 else t
  let run := body.takeWhile Decimal.isDigit
  if beginsPositive body && Decimal.limit < run.length then .error (.tooLong ⟨run.length⟩)
  else if run = body && (body = [Decimal.digit 0] || beginsPositive body) then
    .ok (signed negative (Decimal.value body))
  else .error .malformed

/-- What is left of a numeral without the zeros and underscores before it: the text from its first
digit that is not zero, or from a minus sign; from the character before a point, if that comes
first; and the last character if there is nothing but zeros and underscores. -/
def dropLeadingZeros (t : Text) : Option Text :=
  let minus : CodePoint := ('-' : Char)
  let begins (u : Text) : Bool := beginsPositive u || u.head? = some minus
  let isPadding (c : CodePoint) : Bool := c = Decimal.digit 0 || c = ('_' : Char)
  if begins t then some t
  else if t.head? ≠ some (Decimal.digit 0) then none
  else
    let padding := t.takeWhile isPadding
    match t.dropWhile isPadding with
    | [] => padding.getLast?.map ([·])
    | c :: rest =>
      if begins (c :: rest) then some (c :: rest)
      else if c = ('.' : Char) then padding.getLast?.map (· :: c :: rest)
      else none

/-- A text has an underscore at one of its ends, or two next to each other. -/
def hasStrayUnderscore (t : Text) : Bool := (Text.splitOn ('_' : Char) t).any List.isEmpty

/-- The numeral that is left of a text when all that may stand around it is taken away. -/
def strip (t : Text) : Option Text := do
  let (negative, body) := sign (t.trim CodePoint.isWhiteSpace)
  if body.head? = some (('+' : Char) : CodePoint) || body.head? = some (('-' : Char) : CodePoint)
  then none
  let body := dropZeroFraction (← dropLeadingZeros body)
  let body := if hasStrayUnderscore body then body else body.filter (· ≠ ('_' : Char))
  return if negative then "-" ++ body else body

/-- The integer that a configuration value spells. -/
def read (t : Text) : Except Fault Int :=
  match plain t with
  | .ok n => .ok n
  | .error (.tooLong e) => .error (.tooLong e)
  | .error .malformed =>
    match strip t with
    | none => .error .malformed
    | some numeral => (plain numeral).mapError fun _ => .malformed

/-! ## Integers of typed data -/

/-- A character of any script as the ASCII character that has its meaning, if there is one. Only
characters from U+007F on are looked up. -/
def asciiMeaning? (c : CodePoint) : Option CodePoint :=
  if c.val < 0x7F then some c
  else if c.isBlank then some (' ' : Char)
  else (c.decimalDigit?).map Decimal.digit

/-- A text with digits and blanks of all scripts as those of ASCII. A text within ASCII is left as
it is. -/
def asciiMeaning (t : Text) : Option Text := if t.isAscii then some t else t.mapM asciiMeaning?

/-- The integer that a text of ASCII characters spells, ASCII blanks around it. A run of too many
digits is reported before what stands behind it is looked at. -/
def readAscii (t : Text) : Except Fault Int :=
  let (negative, body) := sign (t.dropWhile CodePoint.isAsciiBlank)
  let inRun (c : CodePoint) : Bool := Decimal.isDigit c || c = '_'
  match digits? (body.takeWhile inRun) with
  | none => .error .malformed
  | some digits =>
    match Decimal.read digits with
    | .error e => .error (.tooLong e)
    | .ok n =>
      if (body.dropWhile inRun).all CodePoint.isAsciiBlank then .ok (signed negative n)
      else .error .malformed

/-- The integer that a text spells in the digits and blanks of any script. A character that means
nothing ends the text, which is malformed unless its digits are too many. -/
def readAnyScript (t : Text) : Except Fault Int :=
  match asciiMeaning t with
  | some ascii => readAscii ascii
  | none =>
    let meanings := t.map asciiMeaning?
    let before := (meanings.takeWhile Option.isSome).filterMap id
    match readAscii before with
    | .error (.tooLong e) => .error (.tooLong e)
    | _ => .error .malformed

end SignedSetup.IntegerLiteral
