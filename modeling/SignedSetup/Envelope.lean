import SignedSetup.Json.Basic

/-!
# Envelopes

Typed data travels as an object of four members: the declared types, the name of the primary type,
the domain and the message. An `Envelope` is an object that has them, each of its kind; it keeps
all its other members and their order. What the types declare is not looked at here.
-/

namespace SignedSetup

/-- The members that every envelope has. -/
inductive EnvelopeMember where
  | types
  | primaryType
  | domain
  | message
deriving DecidableEq

namespace EnvelopeMember

/-- The key of the member. -/
def key : EnvelopeMember → Text
  | .types => "types"
  | .primaryType => "primaryType"
  | .domain => "domain"
  | .message => "message"

/-- The name of the kind of value that the member has. -/
def kindName : EnvelopeMember → Text
  | .types => "dict"
  | .primaryType => "str"
  | .domain => "dict"
  | .message => "dict"

end EnvelopeMember

/-- An object with the four members of typed data. -/
structure Envelope where
  /-- All members in order, the four and any others. -/
  members : List (Text × Json)
  /-- The declared types. -/
  types : List (Text × Json)
  /-- The name of the type of the message. -/
  primaryType : Text
  /-- The domain. -/
  domain : List (Text × Json)
  /-- The message. -/
  message : List (Text × Json)
  lookup_types : members.lookup EnvelopeMember.types.key = some (.obj types)
  lookup_primaryType : members.lookup EnvelopeMember.primaryType.key = some (.text primaryType)
  lookup_domain : members.lookup EnvelopeMember.domain.key = some (.obj domain)
  lookup_message : members.lookup EnvelopeMember.message.key = some (.obj message)

namespace Envelope

/-- The envelope as a JSON value. -/
def json (e : Envelope) : Json := .obj e.members

/-- Why a value is no envelope. -/
inductive Fault where
  /-- The value is no object but of another kind. -/
  | notObject (kind : Text)
  | missing (member : EnvelopeMember)
  /-- A member is there and of another kind. -/
  | wrongKind (member : EnvelopeMember) (kind : Text)
deriving DecidableEq

/-- What is said of a value that is no envelope. -/
def Fault.message : Fault → Text
  | .notObject kind => "typed data must be a JSON object, got " ++ kind
  | .missing member => "missing field `" ++ member.key ++ "`"
  | .wrongKind member kind =>
    "field `" ++ member.key ++ "` must be " ++ member.kindName ++ ", got " ++ kind

/-- A member of an object that has to be an object. -/
def objectMember (members : List (Text × Json)) (member : EnvelopeMember) :
    Except Fault { ms : List (Text × Json) // members.lookup member.key = some (.obj ms) } :=
  match members.lookup member.key with
  | none => .error (.missing member)
  | some (.obj ms) => .ok ⟨ms, rfl⟩
  | some v => .error (.wrongKind member v.kindName)

/-- A member of an object that has to be a string. -/
def textMember (members : List (Text × Json)) (member : EnvelopeMember) :
    Except Fault { t : Text // members.lookup member.key = some (.text t) } :=
  match members.lookup member.key with
  | none => .error (.missing member)
  | some (.text t) => .ok ⟨t, rfl⟩
  | some v => .error (.wrongKind member v.kindName)

/-- An object as an envelope. The members are checked in their order of declaration, and the first
that is missing or of the wrong kind is the fault. -/
def ofMembers (members : List (Text × Json)) : Except Fault Envelope := do
  let types ← objectMember members .types
  let primaryType ← textMember members .primaryType
  let domain ← objectMember members .domain
  let message ← objectMember members .message
  return {
    members
    types := types.val
    primaryType := primaryType.val
    domain := domain.val
    message := message.val
    lookup_types := types.property
    lookup_primaryType := primaryType.property
    lookup_domain := domain.property
    lookup_message := message.property }

/-- A JSON value as an envelope. -/
def ofJson : Json → Except Fault Envelope
  | .obj members => ofMembers members
  | v => .error (.notObject v.kindName)

end Envelope

end SignedSetup
