import SignedSetup.Text.Basic

/-!
# Blanks

Three sets of blank characters are in use, each larger than the one before: the ASCII blanks that
may stand around a numeral, the white space of Unicode, and the latter with the four ASCII
separators U+001C to U+001F.
-/

namespace SignedSetup

namespace CodePoint

/-- Space, tab, line feed, line tabulation, form feed and carriage return. -/
def isAsciiBlank (c : CodePoint) : Bool := c.val = 0x20 || (0x09 ≤ c.val && c.val ≤ 0x0D)

/-- The characters with the property `White_Space`. -/
def isWhiteSpace (c : CodePoint) : Bool :=
  let n := c.val
  c.isAsciiBlank || n = 0x85 || n = 0xA0 || n = 0x1680 || (0x2000 ≤ n && n ≤ 0x200A) ||
    n = 0x2028 || n = 0x2029 || n = 0x202F || n = 0x205F || n = 0x3000

/-- White space or one of the four ASCII separators. -/
def isBlank (c : CodePoint) : Bool :=
  c.isWhiteSpace || (0x1C ≤ c.val && c.val ≤ 0x1F)

end CodePoint

end SignedSetup
