import SignedSetup.Proofs.Setup.Binding
import SignedSetup.Proofs.Setup.Verification
import SignedSetup.Proofs.TypedData.Coverage

/-!
# Signed fields

What an applied request says is what its payload says, and the administrator signed a digest of that
payload. The digest is made over what the payload itself declares: a field that it declares as a
string is hashed (`isHashed_of_apply`), but whether it declares the fields that are read is not
looked at. A node takes fields that are not declared, and two payloads that differ in such fields
have one signature (`apply_shadowed`).
-/

namespace SignedSetup.Setup

open TypedData

/-- The address signed an envelope: its digest is that of the hash of its domain and of the octets
of its message, and has this address for its signer. -/
def IsSignedBy (e : Envelope) (s : Signature) (signer : Address) (octets : Bytes) : Prop :=
  messageOctets e = .ok octets ∧ ∃ domain, domainHash (.obj e.domain) = .ok domain ∧
    TypedData.digest e.json = .ok (Keccak.hash (0x19 :: 0x01 :: domain ++ Keccak.hash octets)) ∧
    s.signer (Keccak.hash (0x19 :: 0x01 :: domain ++ Keccak.hash octets)) = .ok signer

theorem isSignedBy_of_recover {e : Envelope} {s : Signature} {signer : Address}
    (h : recover e s = .ok signer) : ∃ octets, IsSignedBy e s signer octets := by
  obtain ⟨digest, hdigest, hsigner⟩ := recover_eq_ok_iff.1 h
  obtain ⟨domain, octets, hdomain, hoctets, rfl⟩ := digest_eq_ok_iff.1 hdigest
  exact ⟨octets, hoctets, domain, hdomain, hdigest, hsigner⟩

/-- Only signed fields are applied, as far as the payload declares them. If a request is applied,
then the administrator signed the envelope that the payload spells, the configuration is that of the
envelope's message, and each field of the message that is a string, and that the primary type
declares as one, is hashed among the octets that were signed. A type of its own that is named as
strings are takes the place of strings. -/
theorem isHashed_of_apply {payload : Bytes} {signature admin : Text} {current config : NodeConfig}
    (h : (apply payload signature admin current).result = .ok config) :
    ∃ e s signer octets, Payload.decode payload = .ok e ∧ Signature.ofText signature = .ok s ∧
      Address.ofText? admin = some signer ∧ IsSignedBy e s signer octets ∧
      configOf e.message current = .ok config ∧
      ∀ (f : ConfigField) (t : Text), textField? e.message f.wireName = some t →
        DeclaresString e f.wireName → e.types.lookup (Text.ofString "string") = none →
          IsHashed t octets := by
  rw [result_apply] at h
  obtain ⟨r, hheard, rfl⟩ := map_eq_ok h
  rw [heard] at hheard
  cases hverify : verify payload signature with
  | error x =>
    rw [hverify] at hheard
    cases hheard
  | ok request =>
    rw [hverify] at hheard
    obtain ⟨hadmin, hreading⟩ := authorized_eq_ok hheard
    obtain ⟨s, he, hs, hrecover⟩ := recover_of_verify hverify
    obtain ⟨octets, hsigned⟩ := isSignedBy_of_recover hrecover
    refine ⟨request.envelope, s, request.signer, octets, he, hs, hadmin, hsigned, ?_, ?_⟩
    · rw [configOf_eq, hreading]
      rfl
    · intro f t ht hdeclared hstring
      exact isHashed_of_declaresString hsigned.1 hdeclared hstring (lookup_of_textField? ht)

/-- A request that the administrator signed is applied if its message can be read. -/
theorem result_apply_of_signer {e : Envelope} {s : Signature} {digest : Bytes} {signer : Address}
    {r : Reading} {payload : Bytes} (he : Payload.decode payload = .ok e)
    (hdigest : TypedData.digest e.json = .ok digest) (hsigner : s.signer digest = .ok signer)
    (hr : reading e.message = .ok r) (current : NodeConfig) :
    (apply payload s.text ("0x" ++ Hex.ofBytes signer.bytes) current).result =
      .ok (r.applyTo current) := by
  rw [result_apply, heard, verify_eq_ok he hdigest hsigner]
  dsimp only
  rw [authorized, Address.ofText?_ofBytes]
  dsimp only
  rw [if_pos rfl, hr]
  rfl

/-- The network that the sample key signed is hashed. -/
theorem isHashed_of_apply_network :
    ∃ octets, messageOctets (envelope [("network", .text "1")]) = .ok octets ∧
      IsHashed "1" octets := by
  have happly := result_apply_of_signer decode_network digest_network
    (PrivateKey.signer_sign recovers_sampleDigest)
    (rfl : reading [("network", .text "1")] = .ok ⟨none, none, 1, none, none⟩) ⟨0, 0, 0, [], []⟩
  obtain ⟨e, s, signer, octets, he, -, -, ⟨hoctets, -⟩, -, hhashed⟩ := isHashed_of_apply happly
  obtain rfl := Except.ok.inj (decode_network.symm.trans he)
  refine ⟨octets, hoctets, hhashed .network "1" rfl ?_ rfl⟩
  exact ⟨[("name", .text "network"), ("type", .text "string")],
    ⟨ConfigField.all.map declaration, rfl,
      List.mem_map_of_mem (a := .network) (f := declaration) (by decide), rfl⟩, rfl⟩

/-! ## Fields that are not hashed -/

/-- A field that is not declared can be replaced under the same signature. -/
theorem recover_eq_ok_of_not_declares {e e' : Envelope} (htypes : e'.types = e.types)
    (hdomain : e'.domain = e.domain) (hprimary : e'.primaryType = e.primaryType) {name : Text}
    (hname : ∀ ms, ¬ Declares e name ms)
    (hmessage : ∀ key, key ≠ name → e'.message.lookup key = e.message.lookup key)
    {s : Signature} {signer : Address} :
    recover e' s = .ok signer ↔ recover e s = .ok signer := by
  simp only [recover_eq_ok_iff, digest_eq_ok_iff, hdomain,
    messageOctets_eq_of_not_declares htypes hdomain hprimary hname hmessage]

/-- Types of a message of which only the network is declared, as a string, and a type that is named
as strings are and has no members. -/
def shadowedTypes : List (Text × Json) :=
  [(domainTypeName, .arr []), (primaryTypeName, .arr [declaration .network]), ("string", .arr [])]

/-- A message that names a network and an interval, of which only the network is declared. -/
def shadowedEnvelope (network interval : Text) : Envelope where
  members :=
    [(EnvelopeMember.types.key, .obj shadowedTypes), (EnvelopeMember.domain.key, .obj []),
      (EnvelopeMember.primaryType.key, .text primaryTypeName),
      (EnvelopeMember.message.key,
        .obj [("network", .text network), ("rollupInterval", .text interval)])]
  types := shadowedTypes
  primaryType := primaryTypeName
  domain := []
  message := [("network", .text network), ("rollupInterval", .text interval)]
  lookup_types := rfl
  lookup_primaryType := rfl
  lookup_domain := rfl
  lookup_message := rfl

theorem decode_shadowedEnvelope {network interval : Text} (hnetwork : network.isScalar = true)
    (hinterval : interval.isScalar = true) :
    Payload.decode (Payload.encode (shadowedEnvelope network interval).json) =
      .ok (shadowedEnvelope network interval) := by
  have hscalar : (shadowedEnvelope network interval).json.isScalar =
      (network.isScalar && (interval.isScalar && true) && true) := rfl
  refine Payload.decode_encode_of_isScalar rfl ?_
  rw [hscalar, hnetwork, hinterval]
  rfl

/-- The types of the message, read. -/
def shadowedDeclarations : Declarations :=
  [(primaryTypeName, [⟨some (.text "network"), "string"⟩]), ("string", [])]

theorem declarationsOf_shadowedEnvelope (network interval : Text) :
    declarationsOf (shadowedEnvelope network interval) =
      .ok shadowedDeclarations := rfl

theorem encodeType_shadowed :
    shadowedDeclarations.encodeType primaryTypeName = .ok "Message(string network)" ∧
      shadowedDeclarations.encodeType "string" = .ok "string()" := by
  have hprimary : shadowedDeclarations.dependencies primaryTypeName = .ok [] := by
    have hreach : shadowedDeclarations.reach (shadowedDeclarations.length + 1) [] primaryTypeName =
        .ok [primaryTypeName] := rfl
    rw [Declarations.dependencies, hreach]
    exact congrArg Except.ok List.mergeSort_nil
  have hstring : shadowedDeclarations.dependencies "string" = .ok [] := by
    have hreach : shadowedDeclarations.reach (shadowedDeclarations.length + 1) [] "string" =
        .ok [] := rfl
    rw [Declarations.dependencies, hreach]
    exact congrArg Except.ok List.mergeSort_nil
  constructor
  · rw [Declarations.encodeType, hprimary]
    rfl
  · rw [Declarations.encodeType, hstring]
    rfl

/-- The octets of the message, whatever it names: the hash of its type, and the hash of a value of
the type that is named as strings are. -/
def shadowedOctets : Bytes :=
  BigEndian.ofNat 32 0x96411e668e07d6f64f0bf6fa4608877a7b4a44248d7e237b020d54b75216b752 ++
    BigEndian.ofNat 32 0x949013e25817ca4fac7f42b22aba63747be40678da76de48ca695982762dc7ca

theorem structOctets_shadowed :
    structOctets shadowedDeclarations "string" none =
      .ok (Keccak.hash ((Text.ofString "string()").flatMap CodePoint.utf8)) := by
  have hencode : octetsOfText "string()" =
      .ok ((Text.ofString "string()").flatMap CodePoint.utf8) := rfl
  rw [structOctets, encodeType_shadowed.2, ok_bind, hencode, ok_bind]
  show Word.encodeAll ([Keccak.hash _].map .ready) = _
  rw [encodeAll_ready, List.flatten_singleton]

theorem messageOctets_shadowedEnvelope (network interval : Text) :
    messageOctets (shadowedEnvelope network interval) = .ok shadowedOctets := by
  have hword : memberWord shadowedDeclarations (shadowedEnvelope network interval).message
      ⟨some (.text "network"), "string"⟩ = .ok (.ready (Keccak.hash (Keccak.hash
        ((Text.ofString "string()").flatMap CodePoint.utf8)))) := by
    show (structOctets shadowedDeclarations "string" none).map _ = _
    rw [structOctets_shadowed]
    rfl
  have hencode : octetsOfText "Message(string network)" =
      .ok ((Text.ofString "Message(string network)").flatMap CodePoint.utf8) := rfl
  have hprimary : (shadowedEnvelope network interval).primaryType = primaryTypeName := rfl
  have hmembers : (shadowedDeclarations.lookup primaryTypeName).getD [] =
      [⟨some (.text "network"), "string"⟩] := rfl
  have hhash : Keccak.hash ((Text.ofString "Message(string network)").flatMap CodePoint.utf8) ++
      Keccak.hash (Keccak.hash ((Text.ofString "string()").flatMap CodePoint.utf8)) =
        shadowedOctets := by
    rw [Keccak.hash_eq, Keccak.hash_eq, Keccak.hash_eq]
    decide +kernel
  rw [messageOctets, declarationsOf_shadowedEnvelope, ok_bind, hprimary, structOctets_encoders,
    encodeType_shadowed.1, ok_bind, hencode, ok_bind, hmembers, List.mapM_cons, hword, ok_bind,
    List.mapM_nil, ← hhash]
  generalize Keccak.hash ((Text.ofString "Message(string network)").flatMap _) = typeHash
  generalize Keccak.hash (Keccak.hash _) = hash
  exact (encodeAll_ready [typeHash, hash]).trans (by simp)

/-- The digest of the envelope, whatever its message names. -/
def shadowedDigest : Bytes :=
  BigEndian.ofNat 32 0x48c30f9758c6f3102b9c69ba28c7fe39c6317a21942a0d86df4e20398eaf45f9

theorem digest_shadowedEnvelope (network interval : Text) :
    TypedData.digest (shadowedEnvelope network interval).json = .ok shadowedDigest := by
  refine digest_eq_ok_iff.2
    ⟨_, _, domainHash_nil, messageOctets_shadowedEnvelope network interval, ?_⟩
  have hmessage : Keccak.hash shadowedOctets =
      BigEndian.ofNat 32 0x76423a3f52c655279a617cfcbb359e04154544e5d9fff7fabe097c9baf6ae741 := by
    rw [Keccak.hash_eq]
    decide +kernel
  rw [hash_domain, hmessage, Keccak.hash_eq]
  decide +kernel

/-- What the sample key makes of the digest. -/
def shadowedSignature : Curve.RawSignature :=
  ⟨64589572781310969008350709254937076035072023594236822014032070790196428316273,
    34566414508769122036609166050478872955397104846506111719960339365866023207103, true⟩

theorem signer_shadowedSignature :
    (Signature.ofRaw shadowedSignature).signer shadowedDigest = .ok sampleKey.address := by
  have hpoint : Curve.Point.lift? (Fin.ofNat Curve.prime shadowedSignature.r)
      shadowedSignature.odd = some (Curve.Point.ofAffine (Fin.ofNat Curve.prime shadowedSignature.r)
        (Fin.ofNat Curve.prime
          27910414367082153544743100769236776687914101947231802063998509687196188399287)) := by
    decide +kernel
  have hrecover : Curve.Ecdsa.recover shadowedDigest shadowedSignature =
      .ok sampleKey.coordinates := by
    rw [coordinates_sampleKey]
    exact Curve.Ecdsa.recover_eq_ok hpoint (by decide +kernel) (by decide +kernel)
      (by decide +kernel)
  rw [Signature.signer_ofRaw (by decide) (by decide), hrecover, PrivateKey.address_eq]

/-- The signature of the sample key for a network and an interval is one for any other network and
interval as well, and the node takes both. The network is declared as a string, but a type of that
name takes its place, and the octets of the network are not hashed; the interval is not declared. -/
theorem apply_shadowed :
    ∃ signature admin octets,
      (∀ current, (apply (Payload.encode (shadowedEnvelope "1" "5").json) signature admin
        current).result = .ok { current with networkId := 1, rollupInterval := 5 }) ∧
      (∀ current, (apply (Payload.encode (shadowedEnvelope "2" "6").json) signature admin
        current).result = .ok { current with networkId := 2, rollupInterval := 6 }) ∧
      messageOctets (shadowedEnvelope "1" "5") = .ok octets ∧
      DeclaresString (shadowedEnvelope "1" "5") "network" ∧ ¬ IsHashed "1" octets ∧
      ¬ DeclaresString (shadowedEnvelope "1" "5") "rollupInterval" := by
  have h₁ := decode_shadowedEnvelope (by decide : (Text.ofString "1").isScalar = true)
    (by decide : (Text.ofString "5").isScalar = true)
  have h₂ := decode_shadowedEnvelope (by decide : (Text.ofString "2").isScalar = true)
    (by decide : (Text.ofString "6").isScalar = true)
  refine ⟨(Signature.ofRaw shadowedSignature).text, "0x" ++ Hex.ofBytes sampleKey.address.bytes,
    shadowedOctets, fun current => ?_, fun current => ?_,
    messageOctets_shadowedEnvelope "1" "5", ?_, ?_, ?_⟩
  · exact result_apply_of_signer h₁ (digest_shadowedEnvelope "1" "5") signer_shadowedSignature
      (rfl : reading (shadowedEnvelope "1" "5").message = .ok ⟨none, some 5, 1, none, none⟩) current
  · exact result_apply_of_signer h₂ (digest_shadowedEnvelope "2" "6") signer_shadowedSignature
      (rfl : reading (shadowedEnvelope "2" "6").message = .ok ⟨none, some 6, 2, none, none⟩) current
  · exact ⟨_, ⟨_, rfl, List.mem_singleton_self _, rfl⟩, rfl⟩
  · rintro ⟨bytes, hbytes, hinfix⟩
    obtain rfl : [0x31] = bytes := Except.ok.inj hbytes
    have hnetwork : ¬ Keccak.hash [0x31] <:+: shadowedOctets := by
      rw [Keccak.hash_eq]
      decide +kernel
    exact hnetwork hinfix
  · rintro ⟨ms, ⟨items, hitems, hms, hname⟩, -⟩
    obtain rfl := Json.arr.inj (Option.some.inj hitems)
    rw [List.mem_singleton] at hms
    obtain rfl := Json.obj.inj hms
    exact absurd (Json.text.inj (Option.some.inj hname)) (by decide)

end SignedSetup.Setup
