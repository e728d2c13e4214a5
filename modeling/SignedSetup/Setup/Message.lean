import SignedSetup.Config.SystemConfig
import SignedSetup.Envelope
import SignedSetup.Json.Parser

/-!
# Setup messages

A setup message is the message of an envelope that declares the nine fields of a system
configuration as strings, with an empty domain. It is built from a configuration, or from any
mapping: a mapping may leave fields out and may hold others.

The node reads single fields of a message. A field that is no string counts as absent, and so does
a number that is not an unsigned 64-bit integer.
-/

namespace SignedSetup.Setup

/-- The name of the type that messages have. -/
def primaryTypeName : Text := "Message"

/-- The names of the members that a setup message is declared with, in the order in which they are
signed. -/
def wireNames : List Text :=
  ["rollupInterval", "minRollupSize", "network", "chainId", "contractAddress", "rollupMaxInterval",
    "evmNodeRpc", "arNodeUrl", "minGcOffset"]

/-- The names that are declared are the keys of a message. -/
theorem wireNames_eq_map_messageEntries :
    wireNames = SystemConfig.messageEntries.map Prod.fst := rfl

theorem wireNames_eq : wireNames = ConfigField.all.map ConfigField.wireName := by
  rw [wireNames_eq_map_messageEntries, SystemConfig.messageEntries_eq, List.map_map]
  rfl

/-- The declaration of a member under a name: its type is always a string. -/
def declarationOf (name : Text) : Json := .obj [("name", .text name), ("type", .text "string")]

/-- The declaration of a field. -/
def declaration (f : ConfigField) : Json := declarationOf f.wireName

/-- The types that a setup envelope declares. -/
def declaredTypes : List (Text × Json) :=
  [("EIP712Domain", .arr []), (primaryTypeName, .arr (wireNames.map declarationOf))]

theorem map_declarationOf_wireNames :
    wireNames.map declarationOf = ConfigField.all.map declaration := by
  rw [wireNames_eq, List.map_map]
  rfl

/-- The envelope of a message. -/
def envelope (message : List (Text × Json)) : Envelope where
  members :=
    [(EnvelopeMember.types.key, .obj declaredTypes), (EnvelopeMember.domain.key, .obj []),
      (EnvelopeMember.primaryType.key, .text primaryTypeName),
      (EnvelopeMember.message.key, .obj message)]
  types := declaredTypes
  primaryType := primaryTypeName
  domain := []
  message := message
  lookup_types := rfl
  lookup_primaryType := rfl
  lookup_domain := rfl
  lookup_message := rfl

/-- Why a message is not amended. -/
inductive AmendmentFault where
  /-- What is to be set is no JSON value. -/
  | json (e : Json.Fault)
  /-- What is to be removed is not there. -/
  | absent (name : Text)
deriving DecidableEq

/-- What is said of an amendment that fails. -/
def AmendmentFault.message : AmendmentFault → Text
  | .json e => e.message
  | .absent name => name.quoted

/-- A message with fields set, one after another, to the values that JSON texts spell. -/
def setFields (set : List (Text × Text)) (message : List (Text × Json)) :
    Except AmendmentFault (List (Text × Json)) :=
  set.foldlM (fun acc (name, written) =>
    match Json.parse written with
    | .ok v => .ok (Entries.insert name v acc)
    | .error e => .error (.json e)) message

/-- A message with fields removed, one after another; each has to be there. -/
def removeFields (names : List Text) (message : List (Text × Json)) :
    Except AmendmentFault (List (Text × Json)) :=
  names.foldlM (fun acc name =>
    if Entries.has name acc then .ok (Entries.erase name acc) else .error (.absent name)) message

/-- An envelope with fields of its message set and then others removed; all other members stay as
they are. -/
def amendEnvelope (set : List (Text × Text)) (drop : List Text) (e : Envelope) :
    Except AmendmentFault Json := do
  let message ← removeFields drop (← setFields set e.message)
  return .obj (Entries.insert EnvelopeMember.message.key (.obj message) e.members)

/-! ## Reading fields -/

/-- The text of a field, if the field is a string. -/
def textField? (message : List (Text × Json)) (name : Text) : Option Text :=
  (message.lookup name).bind Json.text?

/-- The text of a field, or a default. -/
def textField (message : List (Text × Json)) (name : Text) (default : Text) : Text :=
  (textField? message name).getD default

/-- The greatest unsigned 64-bit integer. -/
def maxUnsigned : Nat := 2 ^ 64 - 1

/-- The unsigned 64-bit integer that a text spells: ASCII digits, after at most one plus sign.
Numerals of too many digits are refused before their value is looked at. -/
def unsigned? (t : Text) : Except Decimal.TooLong (Option Nat) :=
  let digits :=
    match t with
    | [] => t
    | c :: rest => if c = '+' then rest else t
  if digits.isEmpty || !digits.all Decimal.isDigit then .ok none
  else (Decimal.read digits).map fun n => if n ≤ maxUnsigned then some n else none

/-- The unsigned 64-bit integer of a field, or a default. -/
def unsignedField {α : Type} (ofNat : Nat → α) (message : List (Text × Json)) (name : Text)
    (default : α) : Except Decimal.TooLong α :=
  match textField? message name with
  | none => .ok default
  | some t => (unsigned? t).map fun n => (n.map ofNat).getD default

/-- The message of any JSON value, which is empty if there is none. A value that is no object, or
that has no object for a message, has no fields to ask for. -/
def messageOf? : Json → Option (List (Text × Json))
  | .obj members =>
    match members.lookup EnvelopeMember.message.key with
    | none => some []
    | some v => v.members?
  | _ => none

end SignedSetup.Setup
