import SignedSetup.Json.Basic
import SignedSetup.Number.Shortest
import SignedSetup.Text.Quoted

/-!
# Values in messages

A message shows a value in a form of its own: texts between quotes, three capitalised words for
null and the truth values, and a blank after each separator.
-/

namespace SignedSetup.Json

mutual

/-- A value as it stands within a message, texts quoted. -/
def display : Json → Text
  | .null => "None"
  | .bool true => "True"
  | .bool false => "False"
  | .int n => Decimal.ofInt n
  | .float x => x.displayText
  | .text t => t.quoted
  | .arr [] => "[]"
  | .arr (item :: items) => "[" ++ display item ++ displayItems items ++ "]"
  | .obj [] => "\x7b\x7d"
  | .obj ((key, value) :: members) =>
    "\x7b" ++ key.quoted ++ ": " ++ display value ++ displayMembers members ++ "\x7d"
termination_by structural v => v

/-- Further items, each after a separator. -/
def displayItems : List Json → Text
  | [] => []
  | item :: items => ", " ++ display item ++ displayItems items
termination_by structural vs => vs

/-- Further members, each after a separator. -/
def displayMembers : List (Text × Json) → Text
  | [] => []
  | (key, value) :: members =>
    ", " ++ key.quoted ++ ": " ++ display value ++ displayMembers members
termination_by structural ms => ms

end

/-- A value as it is inserted into a message: a text bare, all else as displayed. -/
def inserted : Json → Text
  | .text t => t
  | v => v.display

end SignedSetup.Json
