import SignedSetup.Hash.Keccak
import SignedSetup.Number.IntegerLiteral
import SignedSetup.TypedData.TypeExpression

/-!
# Words of typed data

Each field of a structure takes up one word of 32 octets. A value is first brought to the form that
its type asks for (`Word`), and only when all fields of a structure have their forms are these
checked and written. An item of an array may also be a tuple, which is written as it is and may
take up more than a word.
-/

namespace SignedSetup.TypedData

/-- A value in the form that its type asks for. -/
inductive Word where
  /-- The octets of the word themselves. -/
  | ready (bytes : Bytes)
  | bool (b : Bool)
  /-- Octets of which there may be at most so many. -/
  | fixedBytes (size : Nat) (bytes : Bytes)
  /-- A value that has to be of a type. -/
  | value (type : ValueType) (v : Json)
  /-- A value whose type names no type. -/
  | untyped (e : Fault)

namespace Word

/-- The word of zeros. -/
def zero : Word := .ready (List.replicate 32 0)

/-- The type of a word is known. -/
def checkType : Word → Except Fault Unit
  | .untyped e => .error e
  | _ => .ok ()

/-- The value of a word is of its type. -/
def check : Word → Except Fault Unit
  | .fixedBytes size bytes => if bytes.length ≤ size then .ok () else .error .outOfRange
  | .value type v => type.check v
  | _ => .ok ()

/-- The octets of a word. -/
def encode : Word → Except Fault Part
  | .ready bytes => .ok ⟨false, bytes⟩
  | .bool b => .ok ⟨false, wordOfInt (if b then 1 else 0)⟩
  | .fixedBytes _ bytes => .ok ⟨false, padRight bytes⟩
  | .value type v => (type.encode v).map (⟨type.isDynamic, ·⟩)
  | .untyped e => .error e

/-- The octets of words. All types are looked at before any value is checked, and all values are
checked before any is written. -/
def encodeAll (words : List Word) : Except Fault Bytes := do
  words.forM checkType
  words.forM check
  return Part.assemble (← words.mapM encode)

/-! ## From values to words -/

/-- The hexadecimal digits after a lower-case prefix. -/
def hexDigits? (t : Text) : Option Text :=
  (Text.dropWord? "0x" t).bind fun digits => if digits.all Hex.isDigit then some digits else none

/-- The octets of hexadecimal digits, after a zero if their number is odd. -/
def octetsOfHex (digits : Text) : Bytes :=
  (Hex.readExact? (if digits.length % 2 = 1 then Hex.digit 0 :: digits else digits)).getD []

/-- The octets of a value of a type of octets. -/
def octets : Json → Except Fault Bytes
  | .text t =>
    match hexDigits? t with
    | some digits => .ok (octetsOfHex digits)
    | none => octetsOfText t
  | .int n => .ok (BigEndian.minimal n.toNat)
  | .bool b => .ok [if b then 1 else 0]
  | _ => .error .unusable

/-- The octets of a value of type `string`. -/
def stringOctets : Json → Except Fault Bytes
  | .text t => octetsOfText t
  | .int n => if n < 0 then .error .negative else .ok (BigEndian.minimal n.toNat)
  | .bool b => .ok [if b then 1 else 0]
  | _ => .error .unusable

/-- A value as a truth value: what is empty is false, and so are three texts. -/
def truth (v : Json) : Except Fault Bool :=
  if v.isEmpty then .ok false
  else
    match v with
    | .text t => .ok (!([("False" : Text), "false", "0"].contains t))
    | .arr _ => .error .unusable
    | .obj _ => .error .unusable
    | _ => .ok true

/-- The integer that a text spells, in hexadecimal after a prefix. -/
def integerOfText (t : Text) : Except Fault Int :=
  match hexDigits? t with
  | some [] => .error (.badInteger 16 t)
  | some digits => .ok (Hex.value digits)
  | none =>
    match IntegerLiteral.readAnyScript t with
    | .ok n => .ok n
    | .error .malformed => .error (.badInteger 10 t)
    | .error (.tooLong e) => .error (.tooLong e)

/-- The word of a value that is taken as it is. -/
def ofValue (type : Text) (v : Json) : Word :=
  match ValueType.ofText type with
  | .ok type => .value type v
  | .error e => .untyped e

/-- The word of octets. -/
def ofOctets (type : Text) (bytes : Bytes) : Word :=
  match ValueType.ofText type with
  | .ok (.atomic .bytes) => .ready (Keccak.hash bytes)
  | .ok (.atomic (.fixedBytes size)) => .fixedBytes size bytes
  | .ok _ => .untyped .unreadableType
  | .error e => .untyped e

/-- The word of a value that is neither null nor an array nor a structure. -/
def ofAtom (type : Text) (v : Json) : Except Fault Word :=
  if type = "bool" then (truth v).map .bool
  else if (Text.dropWord? "bytes" type).isSome then (octets v).map (ofOctets type)
  else if type = "string" then (stringOctets v).map fun bytes => .ready (Keccak.hash bytes)
  else
    match v with
    | .text t =>
      if (Text.dropWord? "int" type).isSome || (Text.dropWord? "uint" type).isSome then
        (integerOfText t).map fun n => ofValue type (.int n)
      else .ok (ofValue type v)
    | _ => .ok (ofValue type v)

end Word

end SignedSetup.TypedData
