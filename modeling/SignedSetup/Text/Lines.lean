import SignedSetup.Text.Basic

/-!
# Lines

The lines of a text file end in a line feed, a carriage return, or one of each. A file that is read
has a line feed in the place of all three. Text that is shown line by line is also broken at the
other characters that separate lines, paragraphs, pages and records.
-/

namespace SignedSetup.Text

/-- The text with one line feed for each end of a line. -/
def normalizeNewlines : Text → Text
  | [] => []
  | [c] => if c = '\r' then [('\n' : Char)] else [c]
  | c :: d :: rest =>
    if c = '\r' then
      if d = '\n' then d :: normalizeNewlines rest
      else ('\n' : Char) :: normalizeNewlines (d :: rest)
    else c :: normalizeNewlines (d :: rest)

/-- A character that ends a line, alone or after a carriage return. -/
def endsLine (c : CodePoint) : Bool :=
  let n := c.val
  (0x0A ≤ n && n ≤ 0x0D) || (0x1C ≤ n && n ≤ 0x1E) || n = 0x85 || n = 0x2028 || n = 0x2029

/-- The lines of a text, each without what ends it; the end of a line at the end of the text begins
no line. -/
def lines (t : Text) : List Text :=
  let rec collect (line : Text) : Text → List Text
    | [] => if line.isEmpty then [] else [line.reverse]
    | c :: rest => if endsLine c then line.reverse :: collect [] rest else collect (c :: line) rest
  collect [] t.normalizeNewlines

end SignedSetup.Text
