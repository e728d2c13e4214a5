import SignedSetup.Hex
import SignedSetup.Json.Basic
import SignedSetup.Number.Shortest

/-!
# Writing JSON

One printer serves all outputs. A style says how separators and line breaks are written and whether
the text must be ASCII. In every style a string escapes the quote, the backslash and the controls
below U+0020 and writes the slash as it is; an ASCII style also escapes U+007F and whatever is
above, in UTF-16 units.
-/

namespace SignedSetup.Json

/-- How a value is laid out. -/
structure Style where
  /-- Characters from U+007F on are escaped. -/
  ascii : Bool
  /-- Stands between two items or members. -/
  comma : Text
  /-- Stands between a key and its value. -/
  colon : Text
  /-- Spaces per level for items on lines of their own. -/
  indent : Option Nat

/-- No blanks, characters written as they are: the form that is signed. -/
def Style.compact : Style := ⟨false, ",", ":", none⟩

/-- No blanks, ASCII alone. -/
def Style.compactAscii : Style := ⟨true, ",", ":", none⟩

/-- A blank after each separator, ASCII alone: the form of log records. -/
def Style.spaced : Style := ⟨true, ", ", ": ", none⟩

/-- Items on lines of their own, two spaces per level, ASCII alone: the form of printed results. -/
def Style.indented : Style := ⟨true, ",", ": ", some 2⟩

/-- What begins the line of an item at a depth. -/
def Style.newline (s : Style) (depth : Nat) : Text :=
  match s.indent with
  | none => []
  | some width => "\n" ++ Text.spaces (width * depth)

/-- The escape of a UTF-16 unit. -/
def unitEscape (unit : Nat) : Text := "\\u" ++ Hex.numeral 4 unit

/-- A character within a string. -/
def escapeChar (ascii : Bool) (c : CodePoint) : Text :=
  if c = '"' then "\\\""
  else if c = '\\' then "\\\\"
  else if c = '\n' then "\\n"
  else if c = '\r' then "\\r"
  else if c = '\t' then "\\t"
  else if c.val = 0x08 then "\\b"
  else if c.val = 0x0C then "\\f"
  else if c.val < 0x20 then unitEscape c.val
  else if !ascii || c.val < 0x7F then [c]
  else if c.val < 0x10000 then unitEscape c.val
  else
    unitEscape (0xD800 + (c.val - 0x10000) / 0x400) ++
      unitEscape (0xDC00 + (c.val - 0x10000) % 0x400)

/-- A string with its quotes. -/
def renderText (ascii : Bool) (t : Text) : Text := "\"" ++ t.flatMap (escapeChar ascii) ++ "\""

mutual

/-- A value at a depth. An empty array or object is written without a line break. -/
def renderAt (s : Style) (depth : Nat) : Json → Text
  | .null => "null"
  | .bool true => "true"
  | .bool false => "false"
  | .int n => Decimal.ofInt n
  | .float x => x.jsonText
  | .text t => renderText s.ascii t
  | .arr [] => "[]"
  | .arr (item :: items) =>
    "[" ++ s.newline (depth + 1) ++ renderAt s (depth + 1) item ++
      renderItems s (depth + 1) items ++ s.newline depth ++ "]"
  | .obj [] => "\x7b\x7d"
  | .obj ((key, value) :: members) =>
    "\x7b" ++ s.newline (depth + 1) ++ renderText s.ascii key ++ s.colon ++
      renderAt s (depth + 1) value ++ renderMembers s (depth + 1) members ++ s.newline depth ++
      "\x7d"
termination_by structural v => v

/-- Further items, each after a separator. -/
def renderItems (s : Style) (depth : Nat) : List Json → Text
  | [] => []
  | item :: items =>
    s.comma ++ s.newline depth ++ renderAt s depth item ++ renderItems s depth items
termination_by structural vs => vs

/-- Further members, each after a separator. -/
def renderMembers (s : Style) (depth : Nat) : List (Text × Json) → Text
  | [] => []
  | (key, value) :: members =>
    s.comma ++ s.newline depth ++ renderText s.ascii key ++ s.colon ++ renderAt s depth value ++
      renderMembers s depth members
termination_by structural ms => ms

end

/-- The text of a value in a style. -/
def render (s : Style) (v : Json) : Text := renderAt s 0 v

end SignedSetup.Json
