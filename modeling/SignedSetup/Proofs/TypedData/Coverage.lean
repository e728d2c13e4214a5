import SignedSetup.Proofs.Entries
import SignedSetup.Proofs.TypedData.SetupDigest

/-!
# What a digest covers

An envelope brings its own declarations, and its digest is made over what they declare. The octets
that are hashed for its message (`messageOctets`) are one word after another, and a text that is
declared as a string has the hash of its octets for its word (`isHashed_of_declaresString`). What is
not declared has no word at all (`messageOctets_eq_of_not_declares`).
-/

namespace SignedSetup.TypedData

/-! ## Words -/

namespace Part

/-- A part that stands in its place is found among the places. -/
theorem octets_isInfix_places {p : Part} (hp : p.isDynamic = false) {parts : List Part}
    (h : p ∈ parts) (offset : Nat) : p.octets <:+: places offset parts := by
  induction parts generalizing offset with
  | nil => cases h
  | cons q parts ih =>
    rcases List.mem_cons.1 h with rfl | h
    · rw [places, if_neg (by simp [hp])]
      exact (List.prefix_append _ _).isInfix
    · rw [places]
      split
      · exact (ih h _).trans (List.suffix_append _ _).isInfix
      · exact (ih h _).trans (List.suffix_append _ _).isInfix

theorem octets_isInfix_assemble {p : Part} (hp : p.isDynamic = false) {parts : List Part}
    (h : p ∈ parts) : p.octets <:+: assemble parts :=
  (octets_isInfix_places hp h _).trans (List.prefix_append _ _).isInfix

end Part

/-- A word of octets is found in what is written for all words. -/
theorem Word.isInfix_of_encodeAll {words : List Word} {octets bytes : Bytes}
    (h : Word.encodeAll words = .ok octets) (hword : .ready bytes ∈ words) :
    bytes <:+: octets := by
  obtain ⟨-, -, h⟩ := bind_eq_ok h
  obtain ⟨-, -, h⟩ := bind_eq_ok h
  obtain ⟨parts, hparts, h⟩ := bind_eq_ok h
  obtain rfl := Except.ok.inj h
  obtain ⟨part, hpart, hencode⟩ := exists_mem_of_mapM_eq_ok hparts hword
  obtain rfl : ⟨false, bytes⟩ = part := Except.ok.inj hencode
  exact Part.octets_isInfix_assemble rfl hpart

/-! ## The declarations of an envelope -/

namespace Declarations

/-- The members of one declared type. -/
def membersOf (declared : Json) : Except Fault (List Member) := do
  (← itemsOf declared).mapM memberOf

/-- Under each name there is what the declaration under that name is read as. -/
theorem lookup_ofMembers {types : List (Text × Json)} {read : Declarations}
    (h : ofMembers types = .ok read) (name : Text) :
    Option.Rel (fun declared members => membersOf declared = .ok members) (types.lookup name)
      (read.lookup name) := by
  have hread := forall₂_of_mapM_eq_ok h
  clear h
  induction hread with
  | nil => exact .none
  | @cons type entry _ _ htype _ ih =>
    obtain ⟨key, declared⟩ := type
    obtain ⟨items, hitems, h⟩ := bind_eq_ok htype
    obtain ⟨members, hmembers, h⟩ := bind_eq_ok h
    obtain rfl : (key, members) = entry := Except.ok.inj h
    rw [List.lookup_cons, List.lookup_cons]
    cases name == key with
    | false => exact ih
    | true =>
      refine .some ?_
      rw [membersOf, hitems, ok_bind, hmembers]

theorem lookup_of_primaryType {types : Declarations} {name : Text}
    (h : types.primaryType = .ok name) : ∃ members, types.lookup name = some members := by
  obtain ⟨referred, -, h⟩ := bind_eq_ok h
  split at h
  · next only hfilter =>
    obtain rfl : only = name := Except.ok.inj h
    have hkey : only ∈ [only] := List.mem_singleton_self only
    rw [← hfilter] at hkey
    obtain ⟨entry, hentry, rfl⟩ := List.mem_map.1 (List.mem_filter.1 hkey).1
    refine Option.ne_none_iff_exists'.1 fun hnone => ?_
    simpa using List.lookup_eq_none_iff.1 hnone entry hentry
  · cases h

end Declarations

/-- The declarations under which the message of an envelope is hashed: those of all its types but
the domain's. The primary type among them is the one that the envelope names. -/
def declarationsOf (e : Envelope) : Except Fault Declarations := do
  let types ← messageTypes (.obj e.types) (.obj e.domain)
  checkPrimaryType types (some (.text e.primaryType))
  Declarations.ofMembers types

theorem checkPrimaryType_eq_ok_iff {types : List (Text × Json)} {name : Text} :
    checkPrimaryType types (some (.text name)) = .ok () ↔
      ∃ read, Declarations.ofMembers types = .ok read ∧ read.primaryType = .ok name := by
  rw [checkPrimaryType]
  constructor
  · intro h
    obtain ⟨read, hread, h⟩ := bind_eq_ok h
    obtain ⟨derived, hderived, h⟩ := bind_eq_ok h
    refine ⟨read, hread, ?_⟩
    split at h
    · next hname =>
      rw [hderived, ← Option.some.inj hname]
    · cases h
  · rintro ⟨read, hread, hprimary⟩
    rw [hread, ok_bind, hprimary, ok_bind]
    exact if_pos rfl

theorem declarationsOf_eq_ok {e : Envelope} {types : Declarations}
    (h : declarationsOf e = .ok types) :
    types.primaryType = .ok e.primaryType ∧
      ∃ declared, messageTypes (.obj e.types) (.obj e.domain) = .ok declared ∧
        Declarations.ofMembers declared = .ok types := by
  obtain ⟨declared, hdeclared, h⟩ := bind_eq_ok h
  obtain ⟨⟨⟩, hcheck, h⟩ := bind_eq_ok h
  obtain ⟨read, hread, hprimary⟩ := checkPrimaryType_eq_ok_iff.1 hcheck
  obtain rfl := Except.ok.inj (h.symm.trans hread)
  exact ⟨hprimary, declared, hdeclared, h⟩

/-- The types of a message are those of its envelope without the domain's. -/
theorem lookup_messageTypes {types declared : List (Text × Json)} {domain : Json}
    (h : messageTypes (.obj types) domain = .ok declared) (name : Text) :
    declared.lookup name = if name = domainTypeName then none else types.lookup name := by
  rw [messageTypes] at h
  split at h
  · next hnone =>
    obtain rfl : types = declared := Except.ok.inj h
    split
    · next hname => rw [hname, hnone]
    · rfl
  · obtain ⟨-, -, h⟩ := bind_eq_ok h
    obtain rfl : Entries.erase domainTypeName types = declared := Except.ok.inj h
    exact Entries.lookup_erase domainTypeName name types

/-- The members of the primary type are read from its declaration. -/
theorem membersOf_primaryType {e : Envelope} {types : Declarations}
    (h : declarationsOf e = .ok types) :
    ∃ declared members, e.types.lookup e.primaryType = some declared ∧
      Declarations.membersOf declared = .ok members ∧
      types.lookup e.primaryType = some members := by
  obtain ⟨hprimary, declared, hdeclared, hread⟩ := declarationsOf_eq_ok h
  obtain ⟨members, hmembers⟩ := Declarations.lookup_of_primaryType hprimary
  have hrel := Declarations.lookup_ofMembers hread e.primaryType
  rw [hmembers, lookup_messageTypes hdeclared] at hrel
  split at hrel
  · cases hrel
  · cases hlookup : e.types.lookup e.primaryType with
    | none =>
      rw [hlookup] at hrel
      cases hrel
    | some v =>
      rw [hlookup] at hrel
      cases hrel with
      | some hv => exact ⟨v, members, rfl, hv, hmembers⟩

/-! ## The octets of a message -/

/-- The octets that are hashed for the message of an envelope. -/
def messageOctets (e : Envelope) : Except Fault Bytes := do
  let types ← declarationsOf e
  structOctets types e.primaryType (some (encoders types e.message))

/-- An envelope with the octets of its message has the digest of these, and no other has one. -/
theorem digest_eq_ok_iff {e : Envelope} {d : Bytes} :
    digest e.json = .ok d ↔
      ∃ domain octets, domainHash (.obj e.domain) = .ok domain ∧ messageOctets e = .ok octets ∧
        d = Keccak.hash (0x19 :: 0x01 :: domain ++ Keccak.hash octets) := by
  rw [Setup.digest_json]
  constructor
  · intro h
    obtain ⟨declared, hdeclared, h⟩ := bind_eq_ok h
    obtain ⟨⟨⟩, hcheck, h⟩ := bind_eq_ok h
    obtain ⟨domain, hdomain, h⟩ := bind_eq_ok h
    obtain ⟨message, hmessage, h⟩ := bind_eq_ok h
    obtain ⟨types, hread, hprimary⟩ := checkPrimaryType_eq_ok_iff.1 hcheck
    have hstruct : structHash types e.primaryType (.obj e.message) = .ok message := by
      rw [messageHash, hread, ok_bind, hprimary, ok_bind] at hmessage
      exact hmessage
    obtain ⟨octets, hoctets, rfl⟩ := map_eq_ok hstruct
    refine ⟨domain, octets, hdomain, ?_, (Except.ok.inj h).symm⟩
    rw [messageOctets, declarationsOf, hdeclared, ok_bind, hcheck, ok_bind, hread, ok_bind]
    exact hoctets
  · rintro ⟨domain, octets, hdomain, hmessage, rfl⟩
    obtain ⟨types, htypes, hoctets⟩ := bind_eq_ok hmessage
    obtain ⟨hprimary, declared, hdeclared, hread⟩ := declarationsOf_eq_ok htypes
    have hstruct : structHash types e.primaryType (.obj e.message) = .ok (Keccak.hash octets) := by
      show (structOctets types e.primaryType (some (encoders types e.message))).map Keccak.hash = _
      rw [hoctets]
      rfl
    rw [hdeclared, ok_bind, checkPrimaryType_eq_ok_iff.2 ⟨types, hread, hprimary⟩, ok_bind, hdomain,
      ok_bind, messageHash, hread, ok_bind, hprimary, ok_bind, hstruct]
    rfl

/-- The word of a member of a message. -/
def memberWord (types : Declarations) (message : List (Text × Json)) (member : Member) :
    Except Fault Word :=
  match member.name with
  | none => .error (.missingKey "name")
  | some (.arr _) => .error .unusable
  | some (.obj _) => .error .unusable
  | some (.text name) =>
    (((encoders types message).lookup name).getD (absentWord types)) (.text name) member.type
  | some name => absentWord types name member.type

theorem structOctets_encoders (types : Declarations) (type : Text)
    (message : List (Text × Json)) :
    structOctets types type (some (encoders types message)) = (do
      let typeHash := Keccak.hash (← octetsOfText (← types.encodeType type))
      let words ← ((types.lookup type).getD []).mapM (memberWord types message)
      Word.encodeAll (.ready typeHash :: words)) := rfl

/-! ## Declared strings -/

/-- The primary type of an envelope has a member of a name, declared as such and such. -/
def Declares (e : Envelope) (name : Text) (ms : List (Text × Json)) : Prop :=
  ∃ items, e.types.lookup e.primaryType = some (.arr items) ∧ .obj ms ∈ items ∧
    ms.lookup (Text.ofString "name") = some (.text name)

/-- The primary type of an envelope has a member of a name that is a string. -/
def DeclaresString (e : Envelope) (name : Text) : Prop :=
  ∃ ms, Declares e name ms ∧ ms.lookup (Text.ofString "type") = some (.text "string")

/-- The octets of a text are hashed, and their hash is found in octets that are hashed in turn. -/
def IsHashed (t : Text) (octets : Bytes) : Prop :=
  ∃ bytes, octetsOfText t = .ok bytes ∧ Keccak.hash bytes <:+: octets

theorem memberOf_eq_ok {v : Json} {member : Member} (h : Declarations.memberOf v = .ok member) :
    ∃ ms, v = .obj ms ∧ ms.lookup (Text.ofString "name") = member.name ∧
      ms.lookup (Text.ofString "type") = some (.text member.type) := by
  obtain ⟨type, htype, h⟩ := bind_eq_ok h
  cases v with
  | obj ms =>
    rw [Declarations.require] at htype
    split at htype
    · next v hv =>
      obtain rfl : v = type := Except.ok.inj htype
      split at h
      · obtain ⟨core, -, h⟩ := bind_eq_ok h
        obtain rfl := Except.ok.inj h
        exact ⟨ms, rfl, rfl, hv⟩
      · cases h
    · cases htype
  | null | bool _ | int _ | float _ | text _ | arr _ => cases htype

theorem mem_of_declaresString {e : Envelope} {types : Declarations} {members : List Member}
    {name : Text} (hread : declarationsOf e = .ok types)
    (hmembers : types.lookup e.primaryType = some members) (h : DeclaresString e name) :
    ⟨some (.text name), "string"⟩ ∈ members := by
  obtain ⟨ms, ⟨items, hitems, hms, hname⟩, htype⟩ := h
  obtain ⟨declared, members', hdeclared, hmembers', hlookup⟩ := membersOf_primaryType hread
  obtain rfl := Option.some.inj (hitems.symm.trans hdeclared)
  obtain rfl := Option.some.inj (hmembers.symm.trans hlookup)
  obtain ⟨member, hmember, hmemberOf⟩ := exists_mem_of_mapM_eq_ok hmembers' hms
  obtain ⟨ms', hobj, hname', htype'⟩ := memberOf_eq_ok hmemberOf
  obtain rfl := Json.obj.inj hobj
  have hstring := Json.text.inj (Option.some.inj (htype.symm.trans htype'))
  rw [hname.symm.trans hname', hstring]
  exact hmember

/-- The word of a text that is declared as a string. -/
theorem memberWord_string {types : Declarations} (hstring : Entries.has "string" types = false)
    {message : List (Text × Json)} {name t : Text} (ht : message.lookup name = some (.text t)) :
    memberWord types message ⟨some (.text name), "string"⟩ =
      (octetsOfText t).map fun bytes => .ready (Keccak.hash bytes) := by
  rw [memberWord]
  dsimp only
  rw [Setup.lookup_encoders, ht, Option.map_some, Option.getD_some, encoder, presentWord, hstring]
  rfl

theorem has_declarationsOf {e : Envelope} {types : Declarations}
    (h : declarationsOf e = .ok types) {name : Text} (hname : e.types.lookup name = none) :
    Entries.has name types = false := by
  obtain ⟨-, declared, hdeclared, hread⟩ := declarationsOf_eq_ok h
  have hrel := Declarations.lookup_ofMembers hread name
  rw [lookup_messageTypes hdeclared, hname, ite_self] at hrel
  rw [Entries.has]
  cases hlookup : types.lookup name with
  | none => rfl
  | some members =>
    rw [hlookup] at hrel
    cases hrel

/-- What a digest covers. Where an envelope has octets of its message, every text of it that is
declared as a string is hashed among them, unless a type named as strings are is declared too. -/
theorem isHashed_of_declaresString {e : Envelope} {octets : Bytes}
    (h : messageOctets e = .ok octets) {name t : Text} (hdeclared : DeclaresString e name)
    (hstring : e.types.lookup (Text.ofString "string") = none)
    (ht : e.message.lookup name = some (.text t)) : IsHashed t octets := by
  obtain ⟨types, htypes, hoctets⟩ := bind_eq_ok h
  obtain ⟨declared, members, -, -, hmembers⟩ := membersOf_primaryType htypes
  rw [structOctets_encoders, hmembers, Option.getD_some] at hoctets
  obtain ⟨type, -, hoctets⟩ := bind_eq_ok hoctets
  obtain ⟨typeOctets, -, hoctets⟩ := bind_eq_ok hoctets
  obtain ⟨words, hwords, hoctets⟩ := bind_eq_ok hoctets
  obtain ⟨word, hword, hencoded⟩ :=
    exists_mem_of_mapM_eq_ok hwords (mem_of_declaresString htypes hmembers hdeclared)
  rw [memberWord_string (has_declarationsOf htypes hstring) ht] at hencoded
  obtain ⟨bytes, hbytes, rfl⟩ := map_eq_ok hencoded
  exact ⟨bytes, hbytes, Word.isInfix_of_encodeAll hoctets (List.mem_cons_of_mem _ hword)⟩

/-! ## Fields that are not declared -/

theorem memberWord_congr {types : Declarations} {m₁ m₂ : List (Text × Json)} {member : Member}
    (h : ∀ name, member.name = some (.text name) → m₁.lookup name = m₂.lookup name) :
    memberWord types m₁ member = memberWord types m₂ member := by
  rw [memberWord, memberWord]
  split
  · rfl
  · rfl
  · rfl
  · next name hname =>
    rw [Setup.lookup_encoders, Setup.lookup_encoders, h name hname]
  · rfl

/-- Messages of an envelope that differ in a field that is not declared have the same octets. -/
theorem messageOctets_eq_of_not_declares {e e' : Envelope} (htypes : e'.types = e.types)
    (hdomain : e'.domain = e.domain) (hprimary : e'.primaryType = e.primaryType) {name : Text}
    (hname : ∀ ms, ¬ Declares e name ms)
    (hmessage : ∀ key, key ≠ name → e'.message.lookup key = e.message.lookup key) :
    messageOctets e' = messageOctets e := by
  have hread : declarationsOf e' = declarationsOf e := by
    rw [declarationsOf, htypes, hdomain, hprimary, declarationsOf]
  rw [messageOctets, messageOctets, hread, hprimary]
  cases htypes : declarationsOf e with
  | error x => rfl
  | ok types =>
    obtain ⟨declared, members, hdeclared, hmembers, hlookup⟩ := membersOf_primaryType htypes
    rw [ok_bind, ok_bind, structOctets_encoders, structOctets_encoders, hlookup, Option.getD_some,
      mapM_congr fun member hmember => memberWord_congr fun key hkey => hmessage key ?_]
    rintro rfl
    obtain ⟨items, hitems, hmembers⟩ := bind_eq_ok hmembers
    obtain ⟨v, hv, hmember⟩ := exists_mem_of_forall₂ (forall₂_of_mapM_eq_ok hmembers).flip hmember
    obtain ⟨ms, rfl, hms, -⟩ := memberOf_eq_ok hmember
    cases declared with
    | arr items' =>
      obtain rfl : items' = items := Except.ok.inj hitems
      exact hname ms ⟨items', hdeclared, hv, hms.trans hkey⟩
    | text t =>
      obtain rfl := Except.ok.inj hitems
      simp at hv
    | obj ms' =>
      obtain rfl := Except.ok.inj hitems
      simp at hv
    | null | bool _ | int _ | float _ => cases hitems

end SignedSetup.TypedData
