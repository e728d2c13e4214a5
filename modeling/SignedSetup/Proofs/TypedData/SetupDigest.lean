import SignedSetup.Proofs.Results
import SignedSetup.Setup.Message
import SignedSetup.TypedData.Digest

/-!
# The digest of a setup envelope

An envelope that declares the types of a setup and has its empty domain and primary type is hashed
by a fixed formula (`digest_eq`): each of the nine fields contributes one word, and nothing else of
the message does. The word is that of the octets that the field gives to be hashed
(`hashedOctets`), or zeros where the field is missing or null.
-/

namespace SignedSetup.Setup

open TypedData

/-- What an envelope that is built for a setup has besides its message. -/
structure IsSetup (e : Envelope) : Prop where
  types : e.types = declaredTypes
  domain : e.domain = []
  primaryType : e.primaryType = primaryTypeName

theorem isSetup_envelope (message : List (Text × Json)) : IsSetup (envelope message) :=
  ⟨rfl, rfl, rfl⟩

/-- The octets that a field of a message gives to be hashed as a string. A field that is missing or
null gives none, which is not the same as giving no octets. -/
def hashedOctets (message : List (Text × Json)) (f : ConfigField) : Except Fault (Option Bytes) :=
  match message.lookup f.wireName with
  | none => .ok none
  | some .null => .ok none
  | some v => (Word.stringOctets v).map some

theorem hashedOctets_of_lookup {message : List (Text × Json)} {f : ConfigField} {v : Json}
    (h : message.lookup f.wireName = some v) (hv : v ≠ .null) :
    hashedOctets message f = (Word.stringOctets v).map some := by
  rw [hashedOctets, h]
  cases v with
  | null => exact absurd rfl hv
  | bool _ | int _ | float _ | text _ | arr _ | obj _ => rfl

/-- The word of a field that gives such octets. -/
def fieldWord : Option Bytes → Bytes
  | none => List.replicate 32 0
  | some octets => Keccak.hash octets

/-! ## Octets of texts -/

theorem octetsOfText_of_isScalar {t : Text} (h : t.isScalar = true) :
    octetsOfText t = .ok (t.flatMap CodePoint.utf8) := by
  rw [octetsOfText, Text.encode, if_pos h]
  rfl

/-- Only texts without surrogates have octets. -/
theorem isScalar_of_octetsOfText {t : Text} {octets : Bytes} (h : octetsOfText t = .ok octets) :
    t.isScalar = true := by
  rw [octetsOfText, Text.encode] at h
  split at h
  · assumption
  · cases h

/-! ## The declarations of a setup -/

/-- The declarations of a setup, read. -/
def declarations : Declarations :=
  [(primaryTypeName, ConfigField.all.map fun f => ⟨some (.text f.wireName), "string"⟩)]

theorem dependencies_eq : declarations.dependencies primaryTypeName = .ok [] := by
  have hreach : declarations.reach (declarations.length + 1) [] primaryTypeName =
      .ok [primaryTypeName] := rfl
  rw [Declarations.dependencies, hreach]
  exact congrArg Except.ok List.mergeSort_nil

/-- The type of a setup message, spelled out. -/
def spelledType : Text :=
  primaryTypeName ++ "(" ++
    Text.join "," (ConfigField.all.map fun f => "string " ++ f.wireName) ++ ")"

theorem encodeType_eq : declarations.encodeType primaryTypeName = .ok spelledType := by
  rw [Declarations.encodeType, dependencies_eq]
  rfl

theorem encode_spelledType : octetsOfText spelledType = .ok (spelledType.flatMap CodePoint.utf8) :=
  rfl

/-! ## One field -/

theorem lookup_encoders (types : Declarations) (message : List (Text × Json)) (key : Text) :
    (encoders types message).lookup key = (message.lookup key).map (encoder types) := by
  induction message with
  | nil => rfl
  | cons member message ih =>
    obtain ⟨k, v⟩ := member
    rw [encoders, List.lookup_cons, List.lookup_cons, ih]
    cases key == k <;> rfl

/-- The word of a present value as a string of a setup. -/
theorem encoder_string {v : Json} (hv : v ≠ .null) (name : Json) :
    encoder declarations v name "string" =
      (Word.stringOctets v).map fun octets => .ready (Keccak.hash octets) := by
  cases v with
  | null => exact absurd rfl hv
  | bool _ | int _ | float _ | text _ | arr _ | obj _ => rfl

/-- The word of a field, whatever is under its name. -/
theorem word_field (message : List (Text × Json)) (f : ConfigField) (name : Json) :
    (((encoders declarations message).lookup f.wireName).getD (absentWord declarations)) name
        "string" =
      (hashedOctets message f).map fun octets => .ready (fieldWord octets) := by
  rw [lookup_encoders]
  cases hlookup : message.lookup f.wireName with
  | none =>
    rw [hashedOctets, hlookup]
    rfl
  | some v =>
    rw [Option.map_some, Option.getD_some]
    by_cases hv : v = .null
    · subst hv
      rw [hashedOctets, hlookup]
      rfl
    · rw [encoder_string hv, hashedOctets_of_lookup hlookup hv, map_map_except]
      rfl

/-! ## All fields -/

/-- Words that are octets already are written one after another. -/
theorem encodeAll_ready (words : List Bytes) :
    Word.encodeAll (words.map .ready) = .ok words.flatten := by
  have hencode : (words.map Word.ready).mapM Word.encode = .ok (words.map (⟨false, ·⟩)) := by
    rw [List.mapM_map]
    exact mapM_eq_ok fun _ _ => rfl
  have hparts : Part.assemble (words.map (⟨false, ·⟩)) = words.flatten := by
    rw [Part.assemble_of_static (by simp), List.flatMap_map, List.flatMap_id']
  rw [Word.encodeAll, forM_eq_ok (by simp [Word.checkType]), ok_bind,
    forM_eq_ok (by simp [Word.check]), ok_bind, hencode, ok_bind, hparts]
  rfl

/-- The octets of a setup message before it is hashed. -/
theorem structOctets_eq (message : List (Text × Json)) :
    structOctets declarations primaryTypeName (some (encoders declarations message)) =
      (ConfigField.all.mapM (hashedOctets message)).map fun octets =>
        Keccak.hash (spelledType.flatMap CodePoint.utf8) ++ octets.flatMap fieldWord := by
  have hmembers : (declarations.lookup primaryTypeName).getD [] =
      ConfigField.all.map fun f => ⟨some (.text f.wireName), "string"⟩ := rfl
  rw [structOctets, encodeType_eq, ok_bind, encode_spelledType, ok_bind, hmembers, List.mapM_map]
  show ((ConfigField.all.mapM fun f =>
    (((encoders declarations message).lookup f.wireName).getD (absentWord declarations))
      (.text f.wireName) "string") >>= fun words =>
        Word.encodeAll (.ready (Keccak.hash (spelledType.flatMap CodePoint.utf8)) :: words)) = _
  rw [mapM_congr fun f _ => word_field message f (.text f.wireName), mapM_map_right]
  cases ConfigField.all.mapM (hashedOctets message) with
  | error e => rfl
  | ok octets =>
    show Word.encodeAll (.ready _ :: octets.map fun o => .ready (fieldWord o)) = .ok _
    have hwords (hash : Bytes) : (Word.ready hash :: octets.map fun o => .ready (fieldWord o)) =
        (hash :: octets.map fieldWord).map .ready := by
      rw [List.map_cons, List.map_map]
      rfl
    rw [hwords, encodeAll_ready, List.flatten_cons, ← List.flatMap_def]

/-- The digest of a setup envelope with such words. -/
def setupDigest (words : Bytes) : Bytes :=
  let domainType := (domainTypeName ++ "()").flatMap CodePoint.utf8
  Keccak.hash (0x19 :: 0x01 :: Keccak.hash (Keccak.hash domainType) ++
    Keccak.hash (Keccak.hash (spelledType.flatMap CodePoint.utf8) ++ words))

theorem domainHash_nil :
    domainHash (.obj []) =
      .ok (Keccak.hash (Keccak.hash ((domainTypeName ++ "()").flatMap CodePoint.utf8))) := by
  have htype : Declarations.encodeType (domainDeclarations []) domainTypeName =
      .ok (domainTypeName ++ "()") := by
    have hdependencies : Declarations.dependencies (domainDeclarations []) domainTypeName =
        .ok [] := by
      have hreach : Declarations.reach (domainDeclarations [])
          ((domainDeclarations []).length + 1) [] domainTypeName = .ok [domainTypeName] := rfl
      rw [Declarations.dependencies, hreach]
      exact congrArg Except.ok List.mergeSort_nil
    rw [Declarations.encodeType, hdependencies]
    rfl
  have hoctets : structOctets (domainDeclarations []) domainTypeName (some []) =
      .ok (Keccak.hash ((domainTypeName ++ "()").flatMap CodePoint.utf8)) := by
    have hencode : octetsOfText (domainTypeName ++ "()") =
        .ok ((domainTypeName ++ "()").flatMap CodePoint.utf8) := rfl
    rw [structOctets, htype, ok_bind, hencode, ok_bind]
    show Word.encodeAll ([Keccak.hash _].map .ready) = _
    rw [encodeAll_ready, List.flatten_singleton]
  show (structOctets (domainDeclarations []) domainTypeName (some [])).map Keccak.hash = _
  rw [hoctets]
  rfl

theorem messageHash_eq {types : List (Text × Json)}
    (hdeclared : Declarations.ofMembers types = .ok declarations) (message : List (Text × Json)) :
    messageHash types (.obj message) =
      (ConfigField.all.mapM (hashedOctets message)).map fun octets =>
        Keccak.hash (Keccak.hash (spelledType.flatMap CodePoint.utf8) ++
          octets.flatMap fieldWord) := by
  have hprimary : declarations.primaryType = .ok primaryTypeName := rfl
  rw [messageHash, hdeclared]
  show (declarations.primaryType.bind fun type => structHash declarations type (.obj message)) = _
  rw [hprimary]
  show (structOctets declarations primaryTypeName
    (some (encoders declarations message))).map Keccak.hash = _
  rw [structOctets_eq, map_map_except]

theorem copied_member {v : Json} {key : Text} {members : List (Text × Json)}
    (h : Declarations.require key v = .ok (.obj members)) : copied key v = .ok (.obj members) := by
  rw [copied, h]
  rfl

theorem require_member {members : List (Text × Json)} {key : Text} {v : Json}
    (h : members.lookup key = some v) : Declarations.require key (.obj members) = .ok v := by
  rw [Declarations.require, h]

/-- The digest of an envelope, in which all members are there and of their kinds. -/
theorem digest_json (e : Envelope) :
    digest e.json = (do
      let types ← messageTypes (.obj e.types) (.obj e.domain)
      checkPrimaryType types (some (.text e.primaryType))
      let domain ← domainHash (.obj e.domain)
      let message ← messageHash types (.obj e.message)
      return Keccak.hash (0x19 :: 0x01 :: domain ++ message)) := by
  have htypes : copied "types" e.json = .ok (.obj e.types) :=
    copied_member (require_member e.lookup_types)
  have hdomain : copied "domain" e.json = .ok (.obj e.domain) :=
    copied_member (require_member e.lookup_domain)
  have hmessage : Declarations.require "message" e.json = .ok (.obj e.message) :=
    require_member e.lookup_message
  have hprimary : (e.json.members?.getD []).lookup (Text.ofString "primaryType") =
      some (.text e.primaryType) := e.lookup_primaryType
  show (do
      let types ← copied "types" e.json
      let domain ← copied "domain" e.json
      let types ← messageTypes types domain
      checkPrimaryType types ((e.json.members?.getD []).lookup (Text.ofString "primaryType"))
      let message ← Declarations.require "message" e.json
      let domain ← domainHash domain
      let message ← messageHash types message
      return Keccak.hash (0x19 :: 0x01 :: domain ++ message)) = _
  rw [htypes, ok_bind, hdomain, ok_bind, hprimary, hmessage]
  rfl

/-- An envelope with the empty domain and the primary type of a setup, whose types are read as the
declarations of a setup. -/
structure HasDeclarations (e : Envelope) : Prop where
  types : ∃ types, messageTypes (.obj e.types) (.obj []) = .ok types ∧
    Declarations.ofMembers types = .ok declarations
  domain : e.domain = []
  primaryType : e.primaryType = primaryTypeName

theorem IsSetup.hasDeclarations {e : Envelope} (h : IsSetup e) : HasDeclarations e where
  types := ⟨declaredTypes.drop 1, by rw [h.types]; rfl, rfl⟩
  domain := h.domain
  primaryType := h.primaryType

theorem digest_of_hasDeclarations {e : Envelope} (h : HasDeclarations e) :
    digest e.json = (ConfigField.all.mapM (hashedOctets e.message)).map fun octets =>
      setupDigest (octets.flatMap fieldWord) := by
  obtain ⟨types, hdeclared, hread⟩ := h.types
  have hchecked : checkPrimaryType types (some (.text primaryTypeName)) = .ok () := by
    rw [checkPrimaryType, hread]
    rfl
  rw [digest_json, h.domain, hdeclared, ok_bind, h.primaryType, hchecked, ok_bind, domainHash_nil,
    ok_bind, messageHash_eq hread]
  cases ConfigField.all.mapM (hashedOctets e.message) <;> rfl

/-- The digest of a setup envelope, from the octets that its fields give. -/
theorem digest_eq {e : Envelope} (h : IsSetup e) :
    digest e.json = (ConfigField.all.mapM (hashedOctets e.message)).map fun octets =>
      setupDigest (octets.flatMap fieldWord) :=
  digest_of_hasDeclarations h.hasDeclarations

end SignedSetup.Setup
