import SignedSetup.Json.Basic
import SignedSetup.Number.IntegerLiteral
import SignedSetup.Text.Quoted

/-!
# Validation of records

A record is built from the members of an object. Each field reads its own member and either gives
a value or one issue; the record exists iff there is no issue, and the issues come in the order of
the fields. A text field takes every text. An integer field also takes truth values, integral
doubles and numerals, which are written in characters.
-/

namespace SignedSetup.Validation

/-- What is wrong with a value. -/
inductive IssueKind where
  | missing
  /-- No object, where a record of the given name is wanted. -/
  | notRecord (name : Text)
  | notText
  /-- A text with surrogates, where only characters can be read. -/
  | unreadableText
  | notInteger
  | unreadableInteger
  | fraction
  | notFinite
  | tooLarge
  | below (least : Int)
  /-- None of the given words, of which there are at least two. -/
  | notOneOf (first : Text) (last : Text)
  | frozen
deriving DecidableEq

namespace IssueKind

/-- The short name of an issue. -/
def code : IssueKind → Text
  | .missing => "missing"
  | .notRecord _ => "model_type"
  | .notText => "string_type"
  | .unreadableText => "string_unicode"
  | .notInteger => "int_type"
  | .unreadableInteger => "int_parsing"
  | .fraction => "int_from_float"
  | .notFinite => "finite_number"
  | .tooLarge => "int_parsing_size"
  | .below _ => "greater_than_equal"
  | .notOneOf _ _ => "literal_error"
  | .frozen => "frozen_instance"

/-- What is said of an issue. -/
def message : IssueKind → Text
  | .missing => "Field required"
  | .notRecord name => "Input should be a valid dictionary or instance of " ++ name
  | .notText => "Input should be a valid string"
  | .unreadableText =>
    "Input should be a valid string, unable to parse raw data as a unicode string"
  | .notInteger => "Input should be a valid integer"
  | .unreadableInteger =>
    "Input should be a valid integer, unable to parse string as an integer"
  | .fraction => "Input should be a valid integer, got a number with a fractional part"
  | .notFinite => "Input should be a finite number"
  | .tooLarge => "Unable to parse input string as an integer, exceeded maximum size"
  | .below least => "Input should be greater than or equal to " ++ Decimal.ofInt least
  | .notOneOf first last => "Input should be " ++ first.quoted ++ " or " ++ last.quoted
  | .frozen => "Instance is frozen"

end IssueKind

/-- An issue with the names that lead to the value. -/
structure Issue where
  kind : IssueKind
  location : List Text
deriving DecidableEq

/-- The value of a text field. -/
def text : Json → Except IssueKind Text
  | .text t => .ok t
  | _ => .error .notText

/-- The integer a double is equal to. A double outside the range of 64-bit integers is refused. -/
def integerOfDouble (x : Double) : Except IssueKind Int :=
  match x with
  | .nan => .error .notFinite
  | .infinite _ => .error .notFinite
  | .finite .. =>
    match x.toInt? with
    | none => .error .fraction
    | some n => if -(2 ^ 63) < n && n < 2 ^ 63 then .ok n else .error .tooLarge

/-- The value of an integer field. -/
def integer : Json → Except IssueKind Int
  | .int n => .ok n
  | .bool b => .ok (if b then 1 else 0)
  | .float x => integerOfDouble x
  | .text t =>
    if !t.isScalar then .error .unreadableText
    else
      match IntegerLiteral.read t with
      | .ok n => .ok n
      | .error .malformed => .error .unreadableInteger
      | .error (.tooLong _) => .error .tooLarge
  | _ => .error .notInteger

/-- The value of a field for natural numbers that are not below a least one. -/
def natural (least : Nat) (v : Json) : Except IssueKind Nat := do
  let n ← integer v
  if n < least then .error (.below least) else .ok n.toNat

/-- Read the member under a key. -/
def required {α : Type} (members : List (Text × Json)) (key : Text)
    (read : Json → Except IssueKind α) : Except Issue α :=
  match members.lookup key with
  | none => .error ⟨.missing, [key]⟩
  | some v => (read v).mapError (⟨·, [key]⟩)

/-- The issue of a failed reading. -/
def issue? {α : Type} : Except Issue α → Option Issue
  | .ok _ => none
  | .error e => some e

/-- A record in the making: what is left to do with the fields to come, or the issues so far. -/
abbrev Collected (α : Type) := Except (List Issue) α

/-- A record of which no field has been read yet. -/
def Collected.of {α : Type} (make : α) : Collected α := .ok make

/-- Read one more field. Once there is an issue, the issues are all that is kept. -/
def Collected.field {α β : Type} (make : Collected (α → β)) (value : Except Issue α) :
    Collected β :=
  match make, value with
  | .ok make, .ok value => .ok (make value)
  | .ok _, .error issue => .error [issue]
  | .error issues, .ok _ => .error issues
  | .error issues, .error issue => .error (issues ++ [issue])

end SignedSetup.Validation
