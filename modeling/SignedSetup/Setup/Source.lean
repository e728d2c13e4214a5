import SignedSetup.Config.SystemConfig
import SignedSetup.Json.Display

/-!
# Sources of messages

The message of a setup comes from a system configuration, whose nine fields are all there, or from
a mapping, which is taken as it is. A mapping is an object, or a list of pairs: a pair is an array
or a string of two, and an object of two members stands for its two keys. A later pair overwrites
the value of an earlier one of the same key.

A key that is no text is written as one. Equal numbers are one key, however they are written, and a
truth value is the number zero or one; but a number is never the key of the text that is written
like it, so that a message can show two members of one name.
-/

namespace SignedSetup.Setup

/-- Why a value is no mapping. -/
inductive MappingFault where
  /-- The value has no items. -/
  | notIterable (kind : Text)
  /-- The item at an index has no parts. -/
  | notPair (index : Nat)
  /-- The item at an index has so many parts and not two. -/
  | wrongLength (index : Nat) (length : Nat)
  /-- An array or an object stands for a key. -/
  | notKey (kind : Text)
deriving DecidableEq

/-- What is said of a value that is no mapping. -/
def MappingFault.message : MappingFault → Text
  | .notIterable kind => kind.quoted ++ " object is not iterable"
  | .notPair index =>
    "cannot convert dictionary update sequence element #" ++ Decimal.ofNat index ++
      " to a sequence"
  | .wrongLength index length =>
    "dictionary update sequence element #" ++ Decimal.ofNat index ++ " has length " ++
      Decimal.ofNat length ++ "; 2 is required"
  | .notKey kind => "unhashable type: " ++ kind.quoted

/-- The parts of a value. -/
def parts? : Json → Option (List Json)
  | .text t => some (t.map fun c => .text [c])
  | .arr items => some items
  | .obj members => some (members.map fun (k, _) => .text k)
  | _ => none

/-- What makes two keys one. -/
inductive Key where
  | null
  | text (t : Text)
  | integer (n : Int)
  /-- A number that is no integer. -/
  | number (x : Double)
deriving DecidableEq

/-- The key that a number is. -/
def Key.ofDouble (x : Double) : Key := (x.toInt?.map Key.integer).getD (.number x)

/-- A member of a mapping: its key, the name under which the key is written, and its value. -/
structure Member where
  key : Key
  name : Text
  value : Json

/-- The member with a value under a key. -/
def Member.of (value : Json) : Json → Except MappingFault Member
  | .text t => .ok ⟨.text t, t, value⟩
  | .null => .ok ⟨.null, "null", value⟩
  | .bool true => .ok ⟨.integer 1, "true", value⟩
  | .bool false => .ok ⟨.integer 0, "false", value⟩
  | .int n => .ok ⟨.integer n, Decimal.ofInt n, value⟩
  | .float x => .ok ⟨Key.ofDouble x, x.jsonText, value⟩
  | v => .error (.notKey v.kindName)

/-- Put a member in: its value in the place of one with the same key, which keeps its name, or the
member at the end. -/
def Member.insert (m : Member) : List Member → List Member
  | [] => [m]
  | d :: rest => if d.key = m.key then { d with value := m.value } :: rest else d :: insert m rest

/-- The member that the item at an index stands for. -/
def pair (index : Nat) (item : Json) : Except MappingFault Member :=
  match parts? item with
  | none => .error (.notPair index)
  | some [k, v] => Member.of v k
  | some parts => .error (.wrongLength index parts.length)

/-- The members of a mapping. -/
def mapping : Json → Except MappingFault (List (Text × Json))
  | .obj members => .ok members
  | v =>
    match parts? v with
    | none => .error (.notIterable v.kindName)
    | some items => do
      let members ← items.zipIdx.mapM fun (item, index) => pair index item
      return (members.foldl (fun acc m => m.insert acc) []).map fun m => (m.name, m.value)

/-- What a message is made of. -/
inductive Source where
  | config (c : SystemConfig)
  | mapping (v : Json)

/-- The message that a source makes. -/
def Source.message : Source → Except MappingFault (List (Text × Json))
  | .config c => .ok c.message
  | .mapping v => Setup.mapping v

end SignedSetup.Setup
