import SignedSetup.Entries
import SignedSetup.Number.Double

/-!
# JSON values

A value keeps what its text said: the order of members, integers of any size apart from doubles,
and strings over all code points, lone surrogates included. Readers leave each key once in an
object (`Entries.ofList`); the type does not ask for it.
-/

namespace SignedSetup

/-- A JSON value. -/
inductive Json where
  | null
  | bool (b : Bool)
  | int (n : Int)
  | float (x : Double)
  | text (t : Text)
  | arr (items : List Json)
  | obj (members : List (Text × Json))

namespace Json

instance : Inhabited Json := ⟨.null⟩

/-- The name of a value's kind in messages. -/
def kindName : Json → Text
  | .null => "NoneType"
  | .bool _ => "bool"
  | .int _ => "int"
  | .float _ => "float"
  | .text _ => "str"
  | .arr _ => "list"
  | .obj _ => "dict"

/-- The members of an object. -/
def members? : Json → Option (List (Text × Json))
  | .obj members => some members
  | _ => none

/-- The items of an array. -/
def items? : Json → Option (List Json)
  | .arr items => some items
  | _ => none

/-- The text of a string. -/
def text? : Json → Option Text
  | .text t => some t
  | _ => none

/-- The value that a condition takes for false: null, zero of any kind and whatever is empty. -/
def isEmpty : Json → Bool
  | .null => true
  | .bool b => !b
  | .int n => n = 0
  | .float x => x.isZero
  | .text t => t.isEmpty
  | .arr items => items.isEmpty
  | .obj members => members.isEmpty

mutual

/-- Two values are the same, member order and number kind included. -/
def same : Json → Json → Bool
  | .null, .null => true
  | .bool a, .bool b => a = b
  | .int a, .int b => a = b
  | .float a, .float b => a = b
  | .text a, .text b => a = b
  | .arr a, .arr b => sameItems a b
  | .obj a, .obj b => sameMembers a b
  | _, _ => false
termination_by structural a => a

/-- Two lists of values are the same. -/
def sameItems : List Json → List Json → Bool
  | [], [] => true
  | a :: as, b :: bs => same a b && sameItems as bs
  | _, _ => false
termination_by structural a => a

/-- Two lists of members are the same. -/
def sameMembers : List (Text × Json) → List (Text × Json) → Bool
  | [], [] => true
  | (k, a) :: as, (l, b) :: bs => k = l && same a b && sameMembers as bs
  | _, _ => false
termination_by structural a => a

end

mutual

/-- Every value within a value, the value itself included, has a property. -/
def all (p : Json → Bool) : Json → Bool
  | .arr items => p (.arr items) && allItems p items
  | .obj members => p (.obj members) && allMembers p members
  | .null => p .null
  | .bool b => p (.bool b)
  | .int n => p (.int n)
  | .float x => p (.float x)
  | .text t => p (.text t)
termination_by structural v => v

/-- Every value within the values has a property. -/
def allItems (p : Json → Bool) : List Json → Bool
  | [] => true
  | item :: items => all p item && allItems p items
termination_by structural vs => vs

/-- Every value within the members has a property. -/
def allMembers (p : Json → Bool) : List (Text × Json) → Bool
  | [] => true
  | (_, value) :: members => all p value && allMembers p members
termination_by structural ms => ms

end

/-- A value is no integer of too many digits. -/
def isReadableNode : Json → Bool
  | .int n => !Decimal.exceedsLimit n.natAbs
  | _ => true

/-- A value without integers of too many digits: one that can be written within the limit, and
read. -/
def isReadable (v : Json) : Bool := v.all isReadableNode

mutual

/-- Every surrogate in a string or a key becomes the replacement character. Members whose keys
become equal are merged: first place, last value. -/
def scrub : Json → Json
  | .text t => .text t.scrub
  | .arr items => .arr (scrubItems items)
  | .obj members => .obj (Entries.ofList (scrubMembers members))
  | .null => .null
  | .bool b => .bool b
  | .int n => .int n
  | .float x => .float x
termination_by structural v => v

/-- Each of the values scrubbed. -/
def scrubItems : List Json → List Json
  | [] => []
  | item :: items => item.scrub :: scrubItems items
termination_by structural vs => vs

/-- Each key and each value scrubbed. -/
def scrubMembers : List (Text × Json) → List (Text × Json)
  | [] => []
  | (key, value) :: members => (key.scrub, value.scrub) :: scrubMembers members
termination_by structural ms => ms

end

end Json

end SignedSetup
