import SignedSetup.TypedData.Word

/-!
# The digest of typed data

A structure is hashed as the hash of its spelled-out type followed by one word for each member. A
member that is a structure or an array is hashed in turn. The recursion is on the value: a value
is turned into the words that it gives for any type it might be asked for, and declared types,
which may refer to each other in circles, are only looked up.

The digest covers the domain, which has its own five fields, and the message, which has the primary
type.
-/

namespace SignedSetup.TypedData

/-- The word that a value gives as a member of a name and a type. -/
abbrev Encoder := Json → Text → Except Fault Word

/-- The word of a member that is missing or null: only structures, strings and octets may be. -/
def absentWord (types : Declarations) : Encoder := fun name type =>
  if Entries.has type types then .ok Word.zero
  else if type = "string" || type = "bytes" then .ok Word.zero
  else .error (.missingValue name type)

/-- The octets to hash for a structure, with the words that its members give. `members` is `none`
for a value that is no object; such a value can only stand for a structure without members. -/
def structOctets (types : Declarations) (type : Text) (members : Option (List (Text × Encoder))) :
    Except Fault Bytes := do
  let typeHash := Keccak.hash (← octetsOfText (← types.encodeType type))
  let words ← ((types.lookup type).getD []).mapM fun member => do
    match members with
    | none => .error .notObject
    | some members =>
      match member.name with
      | none => .error (.missingKey "name")
      | some (.arr _) => .error .unusable
      | some (.obj _) => .error .unusable
      | some (.text name) =>
        ((members.lookup name).getD (absentWord types)) (.text name) member.type
      | some name => absentWord types name member.type
  Word.encodeAll (.ready typeHash :: words)

/-- The word of a value that is not null: a structure where the type is declared, else an array
where its name says so, else an atom. `members` and `items` are the words that the value's parts
give, where it has such parts. -/
def presentWord (types : Declarations) (v : Json) (members : Option (List (Text × Encoder)))
    (items : Option (List Encoder)) : Encoder := fun name type =>
  if Entries.has type types then
    (structOctets types type members).map fun octets => .ready (Keccak.hash octets)
  else if isArrayName type then
    match items with
    | none => .error (.notArray name type v)
    | some items => do
      let itemType ← itemName type
      let words ← items.mapM fun item => item name itemType
      return .ready (Keccak.hash (← Word.encodeAll words))
  else Word.ofAtom type v

mutual

/-- The word of a value. -/
def encoder (types : Declarations) : Json → Encoder
  | .null => absentWord types
  | .obj members => presentWord types (.obj members) (some (encoders types members)) none
  | .arr items => presentWord types (.arr items) none (some (itemEncoders types items))
  | .bool b => presentWord types (.bool b) none none
  | .int n => presentWord types (.int n) none none
  | .float x => presentWord types (.float x) none none
  | .text t => presentWord types (.text t) none none
termination_by structural v => v

/-- The words of the members of an object. -/
def encoders (types : Declarations) : List (Text × Json) → List (Text × Encoder)
  | [] => []
  | (key, v) :: members => (key, encoder types v) :: encoders types members
termination_by structural ms => ms

/-- The words of the items of an array. -/
def itemEncoders (types : Declarations) : List Json → List Encoder
  | [] => []
  | v :: items => encoder types v :: itemEncoders types items
termination_by structural vs => vs

end

/-- The hash of a value as a structure of a type. -/
def structHash (types : Declarations) (type : Text) (v : Json) : Except Fault Bytes :=
  (structOctets types type ((v.members?).map (encoders types))).map Keccak.hash

/-! ## The domain -/

/-- The name of the type that domains have. -/
def domainTypeName : Text := "EIP712Domain"

/-- The fields that a domain may have, in the order in which they are hashed. -/
def domainFields : List (Text × Text) :=
  [("name", "string"), ("version", "string"), ("chainId", "uint256"),
    ("verifyingContract", "address"), ("salt", "bytes32")]

/-- The declaration of the fields that a domain has. -/
def domainDeclarations (domain : List (Text × Json)) : Declarations :=
  [(domainTypeName, (domainFields.filter fun (key, _) => Entries.has key domain).map
    fun (key, type) => ⟨some (.text key), type⟩)]

/-- The hash of a domain. -/
def domainHash : Json → Except Fault Bytes
  | .obj domain =>
    match (Entries.keys domain).find? fun key => !Entries.has key domainFields with
    | some key => .error (.invalidDomainKey key)
    | none => structHash (domainDeclarations domain) domainTypeName (.obj domain)
  | _ => .error .notObject

/-- A value can be a key. -/
def isKey : Json → Bool
  | .arr _ => false
  | .obj _ => false
  | _ => true

/-- The names that a declaration of the domain gives are the keys of the domain. -/
def namesAre (keys : List Text) (names : List Json) : Bool :=
  names.all (fun name => (name.text?).any keys.contains) &&
    keys.all fun key => names.any fun name => name.text? = some key

/-- A domain has the fields that its declaration gives. -/
def checkDomain (domain : Json) (declared : Json) : Except Fault Unit := do
  match domain with
  | .obj domain =>
    let names ← (← Declarations.itemsOf declared).mapM (Declarations.require "name")
    if !names.all isKey then .error .unusable
    else if namesAre (Entries.keys domain) names then return ()
    else .error (.domainMismatch (Entries.keys domain) names)
  | _ => .error .notObject

/-! ## The whole -/

/-- A value that can be copied: an object or an array. -/
def isCopyable : Json → Bool
  | .obj _ => true
  | .arr _ => true
  | _ => false

/-- The member of an envelope under a key, which has to be an object or an array. -/
def copied (key : Text) (envelope : Json) : Except Fault Json := do
  let v ← Declarations.require key envelope
  if isCopyable v then return v else .error .notObject

/-- The declared types of an envelope without that of its domain, which is checked against the
domain. -/
def messageTypes (types domain : Json) : Except Fault (List (Text × Json)) :=
  match types with
  | .obj types =>
    match types.lookup domainTypeName with
    | none => return types
    | some declared => do
      checkDomain domain declared
      return Entries.erase domainTypeName types
  | v =>
    let names := (v.items?.getD []).filterMap Json.text?
    match domain with
    | .arr _ => if names.contains domainTypeName then .error .notObject else .error .unusable
    | _ => .error .unusable

/-- The primary type that an envelope names, if it names one, is the one that its declarations
have. -/
def checkPrimaryType (types : List (Text × Json)) (provided : Option Json) : Except Fault Unit :=
  match provided with
  | none => .ok ()
  | some provided => do
    let derived ← (← Declarations.ofMembers types).primaryType
    if provided.text? = some derived then return ()
    else .error (.primaryTypeMismatch provided derived)

/-- The hash of a message under declared types. -/
def messageHash (types : List (Text × Json)) (message : Json) : Except Fault Bytes := do
  let types ← Declarations.ofMembers types
  structHash types (← types.primaryType) message

/-- The digest that is signed for an envelope, which may be any value at all. -/
def digest (envelope : Json) : Except Fault Bytes := do
  if let .null := envelope then .error .notObject
  let types ← copied "types" envelope
  let domain ← copied "domain" envelope
  let types ← messageTypes types domain
  checkPrimaryType types ((envelope.members?.getD []).lookup (Text.ofString "primaryType"))
  let message ← Declarations.require "message" envelope
  let domain ← domainHash domain
  let message ← messageHash types message
  return Keccak.hash (0x19 :: 0x01 :: domain ++ message)

end SignedSetup.TypedData
