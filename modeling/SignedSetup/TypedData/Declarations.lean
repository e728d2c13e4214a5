import SignedSetup.TypedData.Fault

/-!
# Declared types

Typed data declares its types: each is a list of members with a name and a type. A type name may
end in brackets, which make it an array; its core is what stands before the first bracket. The
atomic types are known and need no declaration.

The primary type is the one that no other type refers to. The signed form of a type
(`Declarations.encodeType`) spells out its members, followed by all types that it depends on in
the order of their names.
-/

namespace SignedSetup.TypedData

/-- A member of a declared type. A name is asked for only when the type is spelled out. -/
structure Member where
  name : Option Json
  type : Text

/-- The declared types in order. -/
abbrev Declarations := List (Text × List Member)

/-! ## Type names -/

/-- The name is that of an array. -/
def isArrayName (type : Text) : Bool := type.getLast? = some (CodePoint.ofChar ']')

/-- The name before the first bracket of an array. -/
def coreName (type : Text) : Except Fault Text :=
  let bracket : CodePoint := ('[' : Char)
  if !isArrayName type then .ok type
  else if type.contains bracket then .ok (type.takeWhile (· ≠ bracket))
  else .error .noBracket

/-- The name of the items of an array: what stands before the last bracket. -/
def itemName (type : Text) : Except Fault Text :=
  match type.reverse.dropWhile (· ≠ CodePoint.ofChar '[') with
  | [] => .error .noBracket
  | _ :: before => .ok before.reverse

/-- A type that needs no declaration. -/
inductive Atomic where
  | bool
  | address
  | string
  | bytes
  /-- So many octets. -/
  | fixedBytes (size : Nat)
  /-- An integer of so many bits. -/
  | integer (signed : Bool) (bits : Nat)
deriving DecidableEq

/-- The atomic types whose name holds a number, with that number's place among 32. -/
def Atomic.sized (i : Nat) : List (Text × Atomic) :=
  [("bytes" ++ Decimal.ofNat (i + 1), .fixedBytes (i + 1)),
    ("uint" ++ Decimal.ofNat (8 * (i + 1)), .integer false (8 * (i + 1))),
    ("int" ++ Decimal.ofNat (8 * (i + 1)), .integer true (8 * (i + 1)))]

/-- The atomic types with their names. -/
def Atomic.named : List (Text × Atomic) :=
  let unsized : List (Text × Atomic) :=
    [("bool", .bool), ("address", .address), ("string", .string), ("bytes", .bytes),
      ("uint", .integer false 256), ("int", .integer true 256)]
  unsized ++ (List.range 32).flatMap sized

/-- The atomic type of a name. -/
def Atomic.ofName? (type : Text) : Option Atomic := named.lookup type

namespace Declarations

/-! ## Reading declarations -/

/-- The items that a value has when it is gone through: those of an array. A string or an object
has items that are texts. -/
def itemsOf : Json → Except Fault (List Json)
  | .arr items => .ok items
  | .text t => .ok (t.map fun c => .text [c])
  | .obj members => .ok (members.map fun (key, _) => .text key)
  | _ => .error .unusable

/-- The value under a key of a value that has to be an object. -/
def require (key : Text) : Json → Except Fault Json
  | .obj members =>
    match members.lookup key with
    | some v => .ok v
    | none => .error (.missingKey key)
  | _ => .error .unusable

/-- A member of a type as it is declared. -/
def memberOf (declared : Json) : Except Fault Member := do
  match ← require "type" declared with
  | .text type =>
    let _ ← coreName type
    return ⟨(declared.members?.getD []).lookup (Text.ofString "name"), type⟩
  | _ => .error .notObject

/-- The declarations of an object of types. -/
def ofMembers (types : List (Text × Json)) : Except Fault Declarations :=
  types.mapM fun (name, declared) => do
    return (name, ← (← itemsOf declared).mapM memberOf)

/-! ## Dependencies -/

/-- The core names that members refer to. -/
def references (members : List Member) : Except Fault (List Text) :=
  members.mapM fun member => coreName member.type

/-- The only type that no other type refers to. -/
def primaryType (types : Declarations) : Except Fault Text := do
  let referred ← types.mapM fun (name, members) => do
    return (← references members).filter (· ≠ name)
  match (Entries.keys types).filter fun name => !referred.flatten.contains name with
  | [name] => return name
  | _ => .error .noPrimaryType

/-- The declared types that are reached from a type, added to those that have been. The fuel
bounds the length of a chain of types, none of which comes twice in it. -/
def reach (types : Declarations) : Nat → List Text → Text → Except Fault (List Text)
  | 0, seen, _ => .ok seen
  | fuel + 1, seen, type => do
    let name ← coreName type
    if (Atomic.ofName? name).isSome || seen.contains name then return seen
    match types.lookup name with
    | none => .error (.undefinedType name)
    | some members => (members.map Member.type).foldlM (reach types fuel) (name :: seen)

/-- The types that a type depends on, in the order of their names, without itself. -/
def dependencies (types : Declarations) (type : Text) : Except Fault (List Text) := do
  let seen ← reach types (types.length + 1) [] type
  return (seen.filter (· ≠ type)).mergeSort Text.isAtMost

/-- A member within a spelled-out type. -/
def encodeMember (member : Member) : Except Fault Text :=
  match member.name with
  | some name => .ok (member.type ++ " " ++ name.inserted)
  | none => .error (.missingKey "name")

/-- One type spelled out. -/
def encodeOne (types : Declarations) (type : Text) : Except Fault Text := do
  let members := (types.lookup type).getD []
  return type ++ "(" ++ Text.join "," (← members.mapM encodeMember) ++ ")"

/-- A type spelled out with all types that it depends on. -/
def encodeType (types : Declarations) (type : Text) : Except Fault Text := do
  let names := type :: (← dependencies types type)
  return (← names.mapM (encodeOne types)).flatten

end Declarations

end SignedSetup.TypedData
