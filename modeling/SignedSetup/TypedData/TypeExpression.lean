import SignedSetup.TypedData.ValueType

/-!
# Type expressions

The type of a value is written as a base, such as `uint`, with a size or a pair of sizes behind it,
or as a list of types between parentheses; pairs of brackets behind either make arrays of it, with a
length between them or not.

An expression can be read and yet stand for no type: a number in it may have too many digits, its
sizes may not fit its base, or no type may have its base. All numbers are looked at first. A base
that is the whole expression is then looked up as it is written, before its size is; in an array or
a tuple the sizes of all bases are looked at, with short names spelled out, before the bases are
looked up.
-/

namespace SignedSetup.TypedData

/-- The size behind a base. -/
inductive Size where
  | none
  | single (n : Nat)
  /-- Two numbers with an `x` between them. -/
  | pair (m n : Nat)
deriving DecidableEq

/-- A size as it is written. -/
def Size.text : Size → Text
  | .none => []
  | .single n => Decimal.ofNat n
  | .pair m n => Decimal.ofNat m ++ "x" ++ Decimal.ofNat n

/-- A number of a size has too many digits. -/
def Size.exceedsLimit : Size → Bool
  | .none => false
  | .single n => Decimal.exceedsLimit n
  | .pair m n => Decimal.exceedsLimit m || Decimal.exceedsLimit n

/-- A type as it is written. -/
inductive TypeExpression where
  | basic (base : Text) (size : Size)
  | array (item : TypeExpression) (length : Option Nat)
  | tuple (components : List TypeExpression)

namespace TypeExpression

/-! ## Reading -/

/-- A letter of a base. -/
def isLetter (c : CodePoint) : Bool :=
  (0x41 ≤ c.val && c.val ≤ 0x5A) || (0x61 ≤ c.val && c.val ≤ 0x7A)

/-- The number at the beginning of a text, which does not begin with a zero, and what follows. -/
def number? (t : Text) : Option (Nat × Text) :=
  let run := t.takeWhile Decimal.isDigit
  if run.isEmpty || run.head? = some (Decimal.digit 0) then none
  else some (Decimal.value run, t.drop run.length)

/-- The size at the beginning of a text, and what follows. -/
def readSize (t : Text) : Size × Text :=
  match number? t with
  | none => (.none, t)
  | some (m, rest) =>
    match (Text.dropWord? "x" rest).bind number? with
    | some (n, rest) => (.pair m n, rest)
    | none => (.single m, rest)

/-- The length between brackets at the beginning of a text, and what follows. -/
def brackets? (t : Text) : Option (Option Nat × Text) := do
  let inner ← Text.dropWord? "[" t
  match number? inner with
  | some (n, rest) => return (some n, ← Text.dropWord? "]" rest)
  | none => return (none, ← Text.dropWord? "]" inner)

/-- A type with the arrays that the brackets behind it make, with fuel for so many pairs. -/
def readArrays : Nat → TypeExpression → Text → TypeExpression × Text
  | 0, e, t => (e, t)
  | fuel + 1, e, t =>
    match brackets? t with
    | none => (e, t)
    | some (length, rest) => readArrays fuel (.array e length) rest

/-- Types with commas between them and a parenthesis behind, with fuel for so many. -/
def readComponents (readOne : Text → Option (TypeExpression × Text)) :
    Nat → Text → Option (List TypeExpression × Text)
  | 0, _ => none
  | fuel + 1, t => do
    let (first, rest) ← readOne t
    match Text.dropWord? ")" rest with
    | some rest => return ([first], rest)
    | none =>
      let (others, rest) ← readComponents readOne fuel (← Text.dropWord? "," rest)
      return (first :: others, rest)

/-- The type at the beginning of a text, and what follows, with fuel for so many parentheses within
each other. -/
def read : Nat → Text → Option (TypeExpression × Text)
  | 0, _ => none
  | fuel + 1, t =>
    match Text.dropWord? "(" t with
    | some inner => do
      let (components, rest) ← readComponents (read fuel) t.length inner
      return readArrays t.length (.tuple components) rest
    | none =>
      let base := t.takeWhile isLetter
      if base.isEmpty then none
      else
        let (size, rest) := readSize (t.drop base.length)
        some (readArrays t.length (.basic base size) rest)

/-- The type that a text spells. -/
def ofText? (t : Text) : Option TypeExpression :=
  match read (t.length + 1) t with
  | some (e, []) => some e
  | _ => none

/-! ## What is meant -/

/-- The bases that types have. -/
def bases : List Text :=
  ["uint", "int", "address", "bool", "ufixed", "fixed", "bytes", "function", "string"]

/-- The expression is no base alone, or a base that types have. -/
def isKnown : TypeExpression → Bool
  | .basic base _ => bases.contains base
  | _ => true

/-- Short names: a base without a size that stands for another with one. -/
def spelledOut (base : Text) (size : Size) : Text × Size :=
  if size ≠ .none then (base, size)
  else if base = "int" || base = "uint" then (base, .single 256)
  else if base = "fixed" || base = "ufixed" then (base, .pair 128 18)
  else if base = "function" then ("bytes", .single 24)
  else if base = "byte" then ("bytes", .single 1)
  else (base, size)

/-- A number of bits that integers have. -/
def isWidth (bits : Nat) : Bool := 8 ≤ bits && bits ≤ 256 && bits % 8 = 0

/-- A size fits its base. -/
def sizeFits (base : Text) (size : Size) : Bool :=
  if base = "string" || base = "address" then size = .none
  else if base = "bytes" then
    match size with
    | .none => true
    | .single n => n ≤ 32
    | .pair _ _ => false
  else if base = "int" || base = "uint" then
    match size with
    | .single bits => isWidth bits
    | _ => false
  else if base = "fixed" || base = "ufixed" then
    match size with
    | .pair bits places => isWidth bits && 1 ≤ places && places ≤ 80
    | _ => false
  else if base = "hash" then
    match size with
    | .single _ => true
    | _ => false
  else true

/-- The type that a base with a size that fits stands for. Functions without a size are octets. -/
def basicType (base : Text) (size : Size) : Except Fault ValueType :=
  if base = "bool" then .ok (.atomic .bool)
  else if base = "address" then .ok (.atomic .address)
  else if base = "string" then .ok (.atomic .string)
  else if base = "function" then .error (.sizedFunction (base ++ size.text))
  else
    match size with
    | .none => if base = "bytes" then .ok (.atomic .bytes) else .error .unknownType
    | .single n =>
      if base = "bytes" then .ok (.atomic (.fixedBytes n))
      else if base = "int" then .ok (.atomic (.integer true n))
      else if base = "uint" then .ok (.atomic (.integer false n))
      else .error .unknownType
    | .pair bits places =>
      if base = "fixed" then .ok (.fixedPoint true bits places)
      else if base = "ufixed" then .ok (.fixedPoint false bits places)
      else .error .unknownType

mutual

/-- A number in an expression has too many digits. -/
def exceedsLimit : TypeExpression → Bool
  | .basic _ size => size.exceedsLimit
  | .array item length => length.any Decimal.exceedsLimit || exceedsLimit item
  | .tuple components => anyExceedsLimit components
termination_by structural e => e

/-- A number in one of the expressions has too many digits. -/
def anyExceedsLimit : List TypeExpression → Bool
  | [] => false
  | e :: es => exceedsLimit e || anyExceedsLimit es
termination_by structural es => es

end

mutual

/-- All sizes of an expression fit. -/
def isValid : TypeExpression → Bool
  | .basic base size => sizeFits (spelledOut base size).1 (spelledOut base size).2
  | .array item _ => isValid item
  | .tuple components => areValid components
termination_by structural e => e

/-- All sizes of expressions fit. -/
def areValid : List TypeExpression → Bool
  | [] => true
  | e :: es => isValid e && areValid es
termination_by structural es => es

end

mutual

/-- The type that a valid expression stands for. -/
def valueType : TypeExpression → Except Fault ValueType
  | .basic base size => basicType (spelledOut base size).1 (spelledOut base size).2
  | .array item length => (valueType item).map (.array · length)
  | .tuple components => (valueTypes components).map .tuple
termination_by structural e => e

/-- The types that valid expressions stand for. -/
def valueTypes : List TypeExpression → Except Fault (List ValueType)
  | [] => .ok []
  | e :: es => do return (← valueType e) :: (← valueTypes es)
termination_by structural es => es

end

end TypeExpression

/-- Why a text that is no type expression cannot be read: where the parentheses of a tuple stand
together, they are to blame. -/
def unreadable (t : Text) : Fault := if Text.holds "()" t then .emptyTuple else .unreadableType

/-- The type of values that a text names. -/
def ValueType.ofText (t : Text) : Except Fault ValueType :=
  match TypeExpression.ofText? t with
  | none => .error (unreadable t)
  | some e =>
    if e.exceedsLimit then .error .longNumber
    else if !e.isKnown then .error .unknownType
    else if !e.isValid then .error .unfitSize
    else e.valueType

end SignedSetup.TypedData
