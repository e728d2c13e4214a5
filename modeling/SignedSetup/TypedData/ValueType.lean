import SignedSetup.Account.Address
import SignedSetup.TypedData.Declarations
import SignedSetup.TypedData.Layout

/-!
# Types of values

A value that is taken as it is has an atomic type, or is a decimal fraction, an array or a tuple.
It is first checked against its type, and only then written. JSON has no octets, so no JSON value
is of a type of octets.
-/

namespace SignedSetup.TypedData

/-- The type of a value. -/
inductive ValueType where
  | atomic (a : Atomic)
  /-- A fraction with so many decimal places, which is written as an integer of so many bits. -/
  | fixedPoint (signed : Bool) (bits places : Nat)
  /-- Any number of items, or just so many. -/
  | array (item : ValueType) (length : Option Nat)
  | tuple (components : List ValueType)

/-! ## Octets -/

/-- The octets filled up with zeros on the right. -/
def padRight (bytes : Bytes) : Bytes := bytes ++ List.replicate (32 - bytes.length) 0

/-- The octets filled up with zeros on the left. -/
def padLeft (bytes : Bytes) : Bytes := List.replicate (32 - bytes.length) 0 ++ bytes

/-- Any number of octets, filled up with zeros on the right to whole words. -/
def padWords (bytes : Bytes) : Bytes :=
  bytes ++ List.replicate ((32 - bytes.length % 32) % 32) 0

/-- The numbers that an integer type has. -/
def inRange (signed : Bool) (bits : Nat) (n : Int) : Bool :=
  if signed then -(2 ^ (bits - 1)) ≤ n && n < 2 ^ (bits - 1) else 0 ≤ n && n < 2 ^ bits

/-- An integer modulo `2 ^ 256`. -/
def wordOfInt (n : Int) : Bytes := BigEndian.ofNat 32 (n % 2 ^ 256).toNat

/-- The octets of a text. -/
def octetsOfText (t : Text) : Except Fault Bytes := t.encode.mapError .unencodable

namespace ValueType

/-! ## Checking -/

/-- Why a number that a type does not have is refused. -/
def rangeFault (n : Int) : Fault :=
  if Decimal.exceedsLimit n.natAbs then .tooLargeToTell else .outOfRange

/-- The number that a decimal fraction is given as: an integer, or a truth value, which counts as
zero or one. -/
def wholeNumber? : Json → Option Int
  | .int n => some n
  | .bool b => some (if b then 1 else 0)
  | _ => none

/-- A value is of an atomic type. -/
def checkAtomic : Atomic → Json → Except Fault Unit
  | .bool, .bool _ => .ok ()
  | .string, .text _ => .ok ()
  | .address, .text t => if (Address.ofText? t).isSome then .ok () else .error .wrongKind
  | .integer signed bits, .int n =>
    if inRange signed bits n then .ok () else .error (rangeFault n)
  | _, _ => .error .wrongKind

mutual

/-- A value is of a type. -/
def check : ValueType → Json → Except Fault Unit
  | .atomic a, v => checkAtomic a v
  | .fixedPoint signed bits places, v =>
    match wholeNumber? v with
    | some n => if inRange signed bits (n * 10 ^ places) then .ok () else .error (rangeFault n)
    | none => .error .wrongKind
  | .array item length, v =>
    match v with
    | .arr items => do
      items.forM (check item)
      if length.all (· = items.length) then return () else .error .outOfRange
    | _ => .error .wrongKind
  | .tuple components, v =>
    match v with
    | .arr items =>
      if items.length = components.length then checkEach components items
      else .error .outOfRange
    | _ => .error .wrongKind
termination_by structural type => type

/-- Each value is of its type. -/
def checkEach : List ValueType → List Json → Except Fault Unit
  | type :: types, v :: values => do
    check type v
    checkEach types values
  | _, _ => .ok ()
termination_by structural types => types

end

/-! ## Writing -/

mutual

/-- Values of the type have no fixed size. -/
def isDynamic : ValueType → Bool
  | .atomic a => a = .string || a = .bytes
  | .fixedPoint _ _ _ => false
  | .array item length => length.isNone || isDynamic item
  | .tuple components => anyDynamic components
termination_by structural type => type

/-- Values of one of the types have no fixed size. -/
def anyDynamic : List ValueType → Bool
  | [] => false
  | type :: types => isDynamic type || anyDynamic types
termination_by structural types => types

end

/-- The octets of a value of an atomic type. -/
def encodeAtomic : Atomic → Json → Except Fault Bytes
  | .bool, .bool b => .ok (wordOfInt (if b then 1 else 0))
  | .string, .text t => do
    let octets ← octetsOfText t
    return wordOfInt octets.length ++ padWords octets
  | .address, .text t =>
    match Address.ofText? t with
    | some a => .ok (padLeft a.bytes)
    | none => .error .wrongKind
  | .integer _ _, .int n => .ok (wordOfInt n)
  | _, _ => .error .wrongKind

mutual

/-- The octets of a value of a type. -/
def encode : ValueType → Json → Except Fault Bytes
  | .atomic a, v => encodeAtomic a v
  | .fixedPoint _ _ places, v =>
    match wholeNumber? v with
    | some n => .ok (wordOfInt (n * 10 ^ places))
    | none => .error .wrongKind
  | .array item length, v =>
    match v with
    | .arr items => do
      let octets ← items.mapM (encode item)
      let body := Part.assemble (octets.map (⟨isDynamic item, ·⟩))
      return if length.isNone then wordOfInt items.length ++ body else body
    | _ => .error .wrongKind
  | .tuple components, v =>
    match v with
    | .arr items => do return Part.assemble (← encodeEach components items)
    | _ => .error .wrongKind
termination_by structural type => type

/-- The octets of each value of its type. -/
def encodeEach : List ValueType → List Json → Except Fault (List Part)
  | type :: types, v :: values => do
    let octets ← encode type v
    return ⟨isDynamic type, octets⟩ :: (← encodeEach types values)
  | _, _ => .ok []
termination_by structural types => types

end

end ValueType

end SignedSetup.TypedData
