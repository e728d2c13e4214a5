import SignedSetup.Hex
import SignedSetup.Text.Printable

/-!
# Quoted texts

A text is quoted for a message: between single quotes, or between double quotes if it holds a
single quote and no double one. A backslash, the quote and every character that is not printable
are escaped, so that the message stays on one line.
-/

namespace SignedSetup.Text

/-- How a character stands between the given quotes. -/
def quotedChar (quote c : CodePoint) : Text :=
  if c = quote || c = '\\' then [('\\' : Char), c]
  else if c = '\n' then "\\n"
  else if c = '\r' then "\\r"
  else if c = '\t' then "\\t"
  else if c.isPrintable then [c]
  else if c.val < 0x100 then "\\x" ++ Hex.numeral 2 c.val
  else if c.val < 0x10000 then "\\u" ++ Hex.numeral 4 c.val
  else "\\U" ++ Hex.numeral 8 c.val

/-- The quote to set around a text. -/
def quoteFor (t : Text) : CodePoint :=
  if t.contains (CodePoint.ofChar '\'') && !t.contains (CodePoint.ofChar '"') then ('"' : Char)
  else ('\'' : Char)

/-- The text between quotes. -/
def quoted (t : Text) : Text :=
  let quote := quoteFor t
  [quote] ++ t.flatMap (quotedChar quote) ++ [quote]

end SignedSetup.Text
