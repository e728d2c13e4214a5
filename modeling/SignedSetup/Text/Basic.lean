import SignedSetup.Instances

/-!
# Code points and texts

A text is a list of Unicode code points. Lone surrogates are code points here, because a JSON
escape such as `\ud800` can put one into a member name or a value, and the library has to say what
becomes of it. `Char` cannot hold a surrogate, so a code point is a number below `0x110000`.

String literals stand for texts through a coercion, and `++` joins the two.
-/

namespace SignedSetup

/-- A Unicode code point, surrogates included. -/
abbrev CodePoint := Fin 0x110000

/-- Numerals below `0x110000` are code points. -/
instance instNeZeroCodePoint : NeZero 0x110000 := ⟨by decide⟩

/-- A sequence of code points. -/
abbrev Text := List CodePoint

instance (priority := 2000) instLawfulBEqText : LawfulBEq Text := inferInstance

/-- A sequence of octets. -/
abbrev Bytes := List UInt8

namespace CodePoint

/-- The code point of a character. -/
def ofChar (c : Char) : CodePoint :=
  ⟨c.toNat, by
    have := c.valid
    simp only [UInt32.isValidChar, Nat.isValidChar] at this
    simp only [Char.toNat]
    omega⟩

instance : Coe Char CodePoint := ⟨ofChar⟩

/-- First half of a surrogate pair. -/
def isHighSurrogate (c : CodePoint) : Bool := 0xD800 ≤ c.val && c.val < 0xDC00

/-- Second half of a surrogate pair. -/
def isLowSurrogate (c : CodePoint) : Bool := 0xDC00 ≤ c.val && c.val < 0xE000

/-- A code point that stands for no character. -/
def isSurrogate (c : CodePoint) : Bool := 0xD800 ≤ c.val && c.val < 0xE000

/-- One of the first 128 code points. -/
def isAscii (c : CodePoint) : Bool := c.val < 0x80

/-- The replacement character U+FFFD, which stands where a character could not be kept. -/
def replacement : CodePoint := 0xFFFD

/-- The code point itself, or the replacement character if it is a surrogate. -/
def scrub (c : CodePoint) : CodePoint := if c.isSurrogate then replacement else c

/-- A code point from its number; numbers past the last code point give the replacement
character. -/
def ofNat (n : Nat) : CodePoint := if h : n < 0x110000 then ⟨n, h⟩ else replacement

end CodePoint

namespace Text

/-- The text of a string literal. -/
def ofString (s : String) : Text := s.toList.map CodePoint.ofChar

instance : Coe String Text := ⟨ofString⟩

instance : HAppend Text String Text := ⟨fun t s => t ++ ofString s⟩

instance : HAppend String Text Text := ⟨fun s t => ofString s ++ t⟩

/-- Every surrogate becomes the replacement character. -/
def scrub (t : Text) : Text := t.map CodePoint.scrub

/-- No code point of the text is a surrogate. -/
def isScalar (t : Text) : Bool := t.all fun c => !c.isSurrogate

/-- Every code point of the text is below 128. -/
def isAscii (t : Text) : Bool := t.all CodePoint.isAscii

/-- What follows a word at the beginning of a text; `none` if the text begins otherwise. -/
def dropWord? : Text → Text → Option Text
  | [], t => some t
  | _ :: _, [] => none
  | a :: word, b :: t => if a = b then dropWord? word t else none

/-- A word stands somewhere in a text. -/
def holds (word : Text) : Text → Bool
  | [] => word.isEmpty
  | c :: rest => (dropWord? word (c :: rest)).isSome || holds word rest

/-- The order of texts by their code points: the one is not after the other. -/
def isAtMost (a b : Text) : Bool := !List.lex b a fun c d => c.val < d.val

/-- The text as a string of characters, surrogates replaced. -/
def toString (t : Text) : String := String.ofList (t.scrub.map fun c => Char.ofNat c.val)

/-- `n` spaces. -/
def spaces (n : Nat) : Text := List.replicate n (' ' : Char)

/-- The texts one after another with a separator between neighbours. -/
def join (separator : Text) (parts : List Text) : Text :=
  (parts.intersperse separator).flatten

/-- The text filled up with spaces on the right to a given width. -/
def padRight (t : Text) (width : Nat) : Text := t ++ spaces (width - t.length)

/-- The text without the given characters at its two ends. -/
def trim (blank : CodePoint → Bool) (t : Text) : Text :=
  ((t.dropWhile blank).reverse.dropWhile blank).reverse

/-- The text without the given characters at its end. -/
def trimRight (blank : CodePoint → Bool) (t : Text) : Text :=
  (t.reverse.dropWhile blank).reverse

/-- The pieces between the separators; `n` separators make `n + 1` pieces. -/
def splitOn (separator : CodePoint) : Text → List Text
  | [] => [[]]
  | c :: rest =>
    match splitOn separator rest with
    | [] => [[c]]
    | piece :: pieces => if c = separator then [] :: piece :: pieces else (c :: piece) :: pieces

end Text

end SignedSetup
