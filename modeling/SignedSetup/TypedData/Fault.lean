import SignedSetup.Json.Display
import SignedSetup.Text.Utf8

/-!
# Faults of typed data

Everything that can keep typed data from being hashed, as causes. Some of the causes have words of
their own; for the others only the cause is told apart.
-/

namespace SignedSetup.TypedData

/-- Why typed data has no digest. -/
inductive Fault where
  /-- A value that is no object is asked for what only objects have. -/
  | notObject
  /-- A value is of a kind that cannot be used where it stands. -/
  | unusable
  | missingKey (key : Text)
  /-- The domain has other fields than its declaration. -/
  | domainMismatch (given : List Text) (declared : List Json)
  /-- The primary type that is named is not the one that the declarations have. -/
  | primaryTypeMismatch (provided : Json) (derived : Text)
  /-- Not exactly one type is left that no other refers to. -/
  | noPrimaryType
  /-- A type name ends like an array and has no opening bracket. -/
  | noBracket
  | undefinedType (name : Text)
  | invalidDomainKey (key : Text)
  | missingValue (field : Json) (type : Text)
  | notArray (field : Json) (type : Text) (value : Json)
  /-- A text that spells no integer, in a base. -/
  | badInteger (base : Nat) (text : Text)
  | tooLong (e : Decimal.TooLong)
  /-- A text that holds a surrogate has no octets. -/
  | unencodable (e : Text.Surrogates)
  /-- A negative number has no octets. -/
  | negative
  /-- A value is not of its type. -/
  | wrongKind
  /-- A value is too large for its type. -/
  | outOfRange
  /-- A value is too large for its type, and its numeral is too long to be told. -/
  | tooLargeToTell
  /-- A value has a type that cannot be read. -/
  | unreadableType
  /-- A value has a type that cannot be read, with a tuple of nothing in it. -/
  | emptyTuple
  /-- A value has a type that holds a number of too many digits. -/
  | longNumber
  /-- A value has a type with a size that does not fit. -/
  | unfitSize
  /-- A value has a type that nothing is known of. -/
  | unknownType
  /-- A value has a type of functions with a size, where only octets have sizes. -/
  | sizedFunction (type : Text)

namespace Fault

/-- What is said of a text that spells no integer; a long text is cut. -/
def badIntegerMessage (base : Nat) (t : Text) : Text :=
  "invalid literal for int() with base " ++ Decimal.ofNat base ++ ": " ++ t.quoted.take 200

/-- What is said of a fault, for those that have words of their own. -/
def message? : Fault → Option Text
  | .domainMismatch given declared =>
    some ("The fields provided in `domain` do not match the fields provided in " ++
      "`types.EIP712Domain`. The fields provided in `domain` were `" ++
      (Json.arr (given.map Json.text)).display ++
      "`, but the fields provided in `types.EIP712Domain` were `" ++
      (Json.arr declared).display ++ "`.")
  | .primaryTypeMismatch provided derived =>
    some ("The provided `primaryType` does not match the derived `primaryType`. The provided " ++
      "`primaryType` was `" ++ provided.inserted ++ "`, but the derived `primaryType` was `" ++
      derived ++ "`.")
  | .noPrimaryType => some "Unable to determine primary type"
  | .noBracket => some "substring not found"
  | .undefinedType name => some ("No definition of type `" ++ name ++ "`")
  | .invalidDomainKey key => some ("Invalid domain key: `" ++ key ++ "`")
  | .missingValue field type =>
    some ("Missing value for field `" ++ field.inserted ++ "` of type `" ++ type ++ "`")
  | .notArray field type value =>
    some ("Invalid value for field `" ++ field.inserted ++ "` of type `" ++ type ++
      "`: expected array, got `" ++ value.inserted ++ "` of type `<class " ++
      value.kindName.quoted ++ ">`")
  | .badInteger base t => some (badIntegerMessage base t)
  | .tooLong e => some e.message
  | .missingKey key => some key.quoted
  | .unencodable e => some e.message
  | .tooLargeToTell => some (Decimal.tooLongMessage [])
  | .emptyTuple => some "Zero-sized tuple types \"()\" are not supported."
  | .sizedFunction type =>
    some ("Cannot create BytesEncoder for type " ++ type.quoted ++
      ": expected type with base 'bytes'")
  | _ => none

end Fault

end SignedSetup.TypedData
