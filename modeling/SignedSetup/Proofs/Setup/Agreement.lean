import SignedSetup.Proofs.Json.Alike
import SignedSetup.Proofs.PayloadReading
import SignedSetup.Proofs.Setup.Binding

/-!
# Payloads that agree on the declared fields

Of a setup envelope nothing but the nine declared fields has a say. Two payloads that declare a
setup and agree on these fields, a missing one being the same as null, are verified alike under
every signature and applied alike for every administrator and configuration
(`apply_eq_of_agree`), however they differ in spelling, in the order of members at any depth and
in all that is not declared.
-/

namespace SignedSetup

namespace Setup

open TypedData

/-- An envelope declares what a setup declares, up to the order of members. -/
structure DeclaresSetup (e : Envelope) : Prop where
  types : Json.Alike (.obj e.types) (.obj declaredTypes)
  domain : e.domain = []
  primaryType : e.primaryType = primaryTypeName

theorem IsSetup.declaresSetup {e : Envelope} (h : IsSetup e) : DeclaresSetup e :=
  ⟨h.types ▸ .refl _, h.domain, h.primaryType⟩

/-- Two messages have the same value for a field, up to the order of members. A field that is
missing is the same as one that is null. -/
def Agree (m₁ m₂ : List (Text × Json)) (f : ConfigField) : Prop :=
  Json.Alike ((m₁.lookup f.wireName).getD .null) ((m₂.lookup f.wireName).getD .null)

/-! ## Declarations -/

theorem memberOf_of_alike {v : Json} {f : ConfigField} (h : Json.Alike v (declaration f)) :
    Declarations.memberOf v = .ok ⟨some (.text f.wireName), "string"⟩ := by
  obtain ⟨ms, rfl, hlookup⟩ := h.exists_members
  obtain ⟨name, hname, halike⟩ := Json.exists_lookup_of_rel (hlookup "name") rfl
  cases halike
  obtain ⟨type, htype, halike⟩ := Json.exists_lookup_of_rel (hlookup "type") rfl
  cases halike
  have hcore : coreName "string" = .ok "string" := rfl
  rw [Declarations.memberOf, require_member htype, ok_bind]
  dsimp only
  rw [hcore, ok_bind]
  show Except.ok (TypedData.Member.mk (ms.lookup (Text.ofString "name")) "string") = _
  rw [hname]

/-- The keys of an envelope's types are different, as those of all that is read. -/
theorem nodup_keys_types {payload : Bytes} {e : Envelope} (he : Payload.decode payload = .ok e) :
    (Entries.keys e.types).Nodup := by
  obtain ⟨raw, -, -, hmerge⟩ := Payload.decode_eq_ok_iff.1 he
  have hdistinct : e.json.hasDistinctKeys = true := hmerge ▸ Json.hasDistinctKeys_merge raw
  have hmembers := (Bool.and_eq_true_iff.1 hdistinct).2
  have htypes := Json.all_of_lookup hmembers e.lookup_types
  exact of_decide_eq_true (Bool.and_eq_true_iff.1 htypes).1

/-- What declares a setup is read as the declarations of a setup, in whatever order it does. -/
theorem DeclaresSetup.hasDeclarations {e : Envelope} (h : DeclaresSetup e)
    (hnodup : (Entries.keys e.types).Nodup) : HasDeclarations e := by
  refine ⟨?_, h.domain, h.primaryType⟩
  obtain ⟨types, htypes, hlookup⟩ := h.types.exists_members
  obtain rfl := Json.obj.inj htypes
  obtain ⟨domain, hdomain, halike⟩ := Json.exists_lookup_of_rel (hlookup domainTypeName) rfl
  obtain ⟨_, rfl, hnil⟩ := halike.exists_items
  cases hnil
  obtain ⟨message, hmessage, halike⟩ := Json.exists_lookup_of_rel (hlookup primaryTypeName) rfl
  obtain ⟨items, rfl, hitems⟩ := halike.exists_items
  rw [map_declarationOf_wireNames] at hitems
  have hnone (k : Text) (hk : k ≠ domainTypeName) (hk' : k ≠ primaryTypeName) :
      e.types.lookup k = none := by
    have hdomain : (k == Text.ofString "EIP712Domain") = false := beq_false_of_ne hk
    have hdeclared : declaredTypes.lookup k = none := by
      rw [declaredTypes, List.lookup_cons, hdomain]
      dsimp only
      rw [List.lookup_cons, beq_false_of_ne hk']
      rfl
    have hrel := hlookup k
    rw [hdeclared] at hrel
    cases hv : e.types.lookup k with
    | none => rfl
    | some v =>
      rw [hv] at hrel
      cases hrel
  have herase : Entries.erase domainTypeName e.types = [(primaryTypeName, .arr items)] :=
    Entries.erase_eq_singleton hnodup hmessage hnone (by decide)
  have hmembers : items.mapM Declarations.memberOf =
      .ok (ConfigField.all.map fun f => ⟨some (.text f.wireName), "string"⟩) :=
    mapM_eq_ok_of_forall₂ (List.forall₂_map_right_iff.1 hitems) fun _ _ => memberOf_of_alike
  refine ⟨[(primaryTypeName, .arr items)], ?_, ?_⟩
  · rw [messageTypes, hdomain]
    exact congrArg Except.ok herase
  · show ((items.mapM Declarations.memberOf >>= fun members => .ok (primaryTypeName, members)) >>=
      fun type => .ok [type]) = _
    rw [hmembers]
    rfl

/-! ## Fields -/

/-- The octets that a field gives to be hashed, from its value or null. -/
theorem hashedOctets_eq_getD (message : List (Text × Json)) (f : ConfigField) :
    hashedOctets message f =
      match (message.lookup f.wireName).getD .null with
      | .null => .ok none
      | v => (Word.stringOctets v).map some := by
  rw [hashedOctets]
  cases message.lookup f.wireName with
  | none => rfl
  | some v => cases v <;> rfl

theorem textField?_eq_getD (message : List (Text × Json)) (name : Text) :
    textField? message name = ((message.lookup name).getD .null).text? := by
  rw [textField?]
  cases message.lookup name <;> rfl

section Messages

variable {m₁ m₂ : List (Text × Json)}

theorem hashedOctets_eq_of_agree {f : ConfigField} (h : Agree m₁ m₂ f) :
    hashedOctets m₁ f = hashedOctets m₂ f := by
  rw [hashedOctets_eq_getD, hashedOctets_eq_getD]
  rw [Agree] at h
  generalize (m₁.lookup f.wireName).getD .null = v at h
  generalize (m₂.lookup f.wireName).getD .null = w at h
  cases h <;> rfl

theorem textField?_eq_of_agree {f : ConfigField} (h : Agree m₁ m₂ f) :
    textField? m₁ f.wireName = textField? m₂ f.wireName := by
  rw [textField?_eq_getD, textField?_eq_getD, Json.Alike.text? h]

theorem configOf_eq_of_agree (h : ∀ f, Agree m₁ m₂ f) (current : NodeConfig) :
    configOf m₁ current = configOf m₂ current := by
  simp only [configOf, networkField, unsignedField, textField,
    textField?_eq_of_agree (h .network), textField?_eq_of_agree (h .minRollupSize),
    textField?_eq_of_agree (h .rollupInterval), textField?_eq_of_agree (h .evmNodeRpc),
    textField?_eq_of_agree (h .arNodeUrl)]

end Messages

/-! ## Payloads -/

section Payloads

variable {p q : Bytes} {d e : Envelope} (hp : Payload.decode p = .ok d)
  (hq : Payload.decode q = .ok e)
include hp hq

theorem signerOf_eq_of_agree (hd : DeclaresSetup d) (he : DeclaresSetup e)
    (h : ∀ f, Agree d.message e.message f) (signature : Text) :
    signerOf d signature = signerOf e signature := by
  have hdigest : digest d.json = digest e.json := by
    rw [digest_of_hasDeclarations (hd.hasDeclarations (nodup_keys_types hp)),
      digest_of_hasDeclarations (he.hasDeclarations (nodup_keys_types hq)),
      mapM_congr fun f _ => hashedOctets_eq_of_agree (h f)]
  simp only [signerOf, recover, hdigest]

/-- Only the declared fields have a say. Payloads that declare a setup and agree on its fields have
the same signer or the same fault under every signature, and for every administrator and
configuration an attempt to apply them has the same events and the same result. -/
theorem apply_eq_of_agree (hd : DeclaresSetup d) (he : DeclaresSetup e)
    (h : ∀ f, Agree d.message e.message f) (signature : Text) :
    (verify p signature).map Verified.signer = (verify q signature).map Verified.signer ∧
      ∀ admin current, apply p signature admin current = apply q signature admin current := by
  have hsigner := signerOf_eq_of_agree hp hq hd he h signature
  rw [verify_of_decode hp, verify_of_decode hq, ← hsigner]
  refine ⟨?_, fun admin current => ?_⟩
  · rw [map_map_except, map_map_except]
  · rw [apply, apply, verify_of_decode hp, verify_of_decode hq, ← hsigner]
    cases signerOf d signature with
    | error x => rfl
    | ok signer =>
      simp only [Except.map, applyVerified, configOf_eq_of_agree h]

end Payloads

/-! ## A setup the other way round -/

theorem alike_swap {a b : Text} (hne : a ≠ b) {v v' w w' : Json} (hv : Json.Alike v v')
    (hw : Json.Alike w w') : Json.Alike (.obj [(a, v), (b, w)]) (.obj [(b, w'), (a, v')]) := by
  refine .obj fun key => ?_
  by_cases hkey : key = a
  · subst hkey
    simpa [List.lookup_cons, beq_false_of_ne hne] using hv
  · by_cases hkey' : key = b
    · subst hkey'
      simpa [List.lookup_cons, beq_false_of_ne hkey] using hw
    · simp [List.lookup_cons, beq_false_of_ne hkey, beq_false_of_ne hkey']

/-- The types of a setup, with their members the other way round. -/
def reversedTypes : List (Text × Json) :=
  [(primaryTypeName, .arr (ConfigField.all.map fun f =>
      .obj [("type", .text "string"), ("name", .text f.wireName)])),
    (domainTypeName, .arr [])]

/-- A message that names a network last, after a member that is not declared and a null. -/
def reversedMessage : List (Text × Json) :=
  [("note", .bool true), ("chainId", .null), ("network", .text "1")]

/-- An envelope with everything the other way round. -/
def reversedEnvelope : Envelope where
  members :=
    [(EnvelopeMember.message.key, .obj reversedMessage),
      (EnvelopeMember.primaryType.key, .text primaryTypeName),
      (EnvelopeMember.domain.key, .obj []), (EnvelopeMember.types.key, .obj reversedTypes)]
  types := reversedTypes
  primaryType := primaryTypeName
  domain := []
  message := reversedMessage
  lookup_types := rfl
  lookup_primaryType := rfl
  lookup_domain := rfl
  lookup_message := rfl

theorem declaresSetup_reversedEnvelope : DeclaresSetup reversedEnvelope := by
  have hmember (f : ConfigField) : Json.Alike
      (.obj [("type", .text "string"), ("name", .text f.wireName)]) (declaration f) :=
    alike_swap (by decide) (.text _) (.text _)
  have hmembers : List.Forall₂ Json.Alike
      (ConfigField.all.map fun f => .obj [("type", .text "string"), ("name", .text f.wireName)])
      (ConfigField.all.map declaration) := by
    rw [List.forall₂_map_left_iff, List.forall₂_map_right_iff, List.forall₂_same]
    exact fun f _ => hmember f
  exact ⟨alike_swap (by decide) (.arr hmembers) (.arr .nil), rfl, rfl⟩

/-- The administrator's signature for a network is one for the reversed envelope too, which is
applied as the other one is. -/
theorem apply_eq_of_agree_reversedEnvelope :
    verify (Payload.encode reversedEnvelope.json) (Signature.sign sampleKey sampleDigest).text =
        .ok ⟨sampleKey.address, reversedEnvelope⟩ ∧
      ∀ admin current,
        apply (Payload.encode (envelope [("network", .text "1")]).json)
            (Signature.sign sampleKey sampleDigest).text admin current =
          apply (Payload.encode reversedEnvelope.json)
            (Signature.sign sampleKey sampleDigest).text admin current := by
  have hq : Payload.decode (Payload.encode reversedEnvelope.json) = .ok reversedEnvelope :=
    Payload.decode_encode_of_isScalar (by decide) (by decide)
  have hverify := verify_eq_ok decode_network digest_network
    (PrivateKey.signer_sign recovers_sampleDigest)
  have hagree (f : ConfigField) : Agree [("network", .text "1")] reversedMessage f := by
    cases f with
    | network => exact .text _
    | _ => exact .null
  obtain ⟨hsigner, happly⟩ := apply_eq_of_agree decode_network hq
    (isSetup_envelope _).declaresSetup declaresSetup_reversedEnvelope hagree
    (Signature.sign sampleKey sampleDigest).text
  refine ⟨?_, happly⟩
  rw [hverify, verify_of_decode hq, map_map_except] at hsigner
  obtain ⟨signer, hsigner, heq⟩ := map_eq_ok hsigner.symm
  rw [verify_of_decode hq, hsigner, show signer = sampleKey.address from heq]
  rfl

end Setup

end SignedSetup
