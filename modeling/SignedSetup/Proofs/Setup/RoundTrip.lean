import SignedSetup.Account.Signer
import SignedSetup.Proofs.Account.Signature
import SignedSetup.Proofs.Hash.Keccak
import SignedSetup.Proofs.Payload
import SignedSetup.Proofs.TypedData.SetupDigest
import SignedSetup.Setup.Verification

/-!
# What a signer signs, a node verifies

A signer hashes the envelope that it is given; a node hashes the envelope that it reads from the
payload. The two differ where strings hold surrogates, but what is hashed is the same in both
whenever there is a digest at all (`digest_scrub`): a field with a surrogate has no digest, and
whatever else is scrubbed or merged is not hashed. So a request that was generated verifies, with
the signer's address (`verify_generate`), given that recovery gives back the key that signed.
-/

namespace SignedSetup

namespace Setup

/-! ## Sources -/

/-- A source is a configuration, or an object that holds neither doubles nor integers of too many
digits and each key once. -/
def Source.IsPlain : Source → Prop
  | .config _ => True
  | .mapping (.obj members) => (Json.obj members).isPlain = true
  | .mapping _ => False

theorem message_config (c : SystemConfig) : (Source.config c).message = .ok c.message := rfl

theorem isPlain_message (c : SystemConfig) : (Json.obj c.message).isPlain = true := by
  rfl

/-- The message of a plain source is plain. -/
theorem Source.IsPlain.isPlain_of_message {source : Source} (h : source.IsPlain)
    {message : List (Text × Json)} (hmessage : source.message = .ok message) :
    (Json.obj message).isPlain = true := by
  match source, h with
  | .config c, _ =>
    rw [← Except.ok.inj hmessage]
    exact isPlain_message c
  | .mapping (.obj members), h =>
    rw [← Except.ok.inj hmessage]
    exact h

/-- What holds of all values in an envelope holds of what is written beside the message, and of all
values in the message. -/
theorem all_envelope (p : Json → Bool) (message : List (Text × Json)) :
    (envelope message).json.all p =
      (p (envelope message).json && ((Json.obj declaredTypes).all p && ((Json.obj []).all p &&
        ((Json.text primaryTypeName).all p && ((Json.obj message).all p && true))))) := rfl

theorem isPlain_envelope {message : List (Text × Json)} (h : (Json.obj message).isPlain = true) :
    (envelope message).json.isPlain = true := by
  rw [Json.isPlain] at h
  rw [Json.isPlain, all_envelope, h]
  rfl

/-! ## Digests of scrubbed envelopes -/

/-- A field of a scrubbed message gives the octets that it gave before, if it gave any. -/
theorem hashedOctets_scrub {message : List (Text × Json)} (h : (Entries.keys message).Nodup)
    {f : ConfigField} {octets : Option Bytes} (ho : hashedOctets message f = .ok octets) :
    hashedOctets (Entries.ofList (Json.scrubMembers message)) f = .ok octets := by
  have hkey : f.wireName.isAscii = true := by cases f <;> rfl
  cases hlookup : message.lookup f.wireName with
  | none =>
    rw [hashedOctets, hlookup] at ho
    rw [hashedOctets, Json.lookup_ofList_scrubMembers h hkey, hlookup]
    exact ho
  | some v =>
    have hscrubbed : (Entries.ofList (Json.scrubMembers message)).lookup f.wireName =
        some v.scrub := by
      rw [Json.lookup_ofList_scrubMembers h hkey, hlookup, Option.map_some]
    cases v with
    | null =>
      rw [hashedOctets, hlookup] at ho
      rw [hashedOctets, hscrubbed]
      exact ho
    | bool _ | int _ | float _ =>
      rw [hashedOctets_of_lookup hlookup (by simp)] at ho
      rw [hashedOctets_of_lookup hscrubbed (by simp [Json.scrub])]
      exact ho
    | text t =>
      rw [hashedOctets_of_lookup hlookup (by simp)] at ho
      rw [hashedOctets_of_lookup hscrubbed (by simp [Json.scrub])]
      obtain ⟨octets, hoctets, rfl⟩ := map_eq_ok ho
      have hself : (Json.text t).scrub = .text t :=
        congrArg Json.text (Text.scrub_eq_self (isScalar_of_octetsOfText hoctets))
      rw [hself]
      exact ho
    | arr _ | obj _ =>
      rw [hashedOctets_of_lookup hlookup (by simp)] at ho
      cases ho

/-- What a setup envelope declares holds no surrogates. -/
theorem isSetup_scrub (message : List (Text × Json))
    (h : (Entries.keys (envelope message).members).Nodup) :
    IsSetup ((envelope message).scrub h) :=
  ⟨rfl, rfl, rfl⟩

/-- A plain envelope that has a digest has the same digest when it is scrubbed. -/
theorem digest_scrub {message : List (Text × Json)} (h : (Json.obj message).isPlain = true)
    {digest : Bytes} (hdigest : TypedData.digest (envelope message).json = .ok digest) :
    TypedData.digest (envelope message).json.scrub = .ok digest := by
  have hkeys := Envelope.nodup_keys_of_isPlain (isPlain_envelope h)
  rw [digest_eq (isSetup_envelope message)] at hdigest
  obtain ⟨octets, hoctets, rfl⟩ := map_eq_ok hdigest
  have hscrubbed : ConfigField.all.mapM (hashedOctets ((envelope message).scrub hkeys).message) =
      .ok octets :=
    mapM_ok_of_ok (fun _ _ _ ho =>
      hashedOctets_scrub (Json.nodup_keys_of_isPlainNode message (Json.all_self h)) ho) hoctets
  rw [← Envelope.json_scrub (envelope message) hkeys, digest_eq (isSetup_scrub message hkeys),
    hscrubbed]
  rfl

/-! ## Configurations that have a digest -/

theorem exists_hashedOctets_config_iff (c : SystemConfig) (f : ConfigField) :
    (∃ octets, hashedOctets c.message f = .ok octets) ↔ (c.value f).isScalar = true := by
  have hlookup : c.message.lookup f.wireName = some (.text (c.value f)) := by cases f <;> rfl
  rw [hashedOctets_of_lookup hlookup nofun]
  constructor
  · rintro ⟨octets, ho⟩
    obtain ⟨octets, ho, -⟩ := map_eq_ok ho
    exact isScalar_of_octetsOfText ho
  · intro hscalar
    rw [TypedData.Word.stringOctets, octetsOfText_of_isScalar hscalar]
    exact ⟨_, rfl⟩

/-- A configuration has a digest iff none of its values holds a surrogate. -/
theorem exists_digest_config_iff (c : SystemConfig) :
    (∃ digest, TypedData.digest (envelope c.message).json = .ok digest) ↔
      ∀ f, (c.value f).isScalar = true := by
  have hall (f : ConfigField) : f ∈ ConfigField.all := by cases f <;> decide
  have hmapM : (∃ octets, ConfigField.all.mapM (hashedOctets c.message) = .ok octets) ↔
      ∀ f, (c.value f).isScalar = true := by
    rw [exists_mapM_eq_ok_iff]
    exact ⟨fun h f => (exists_hashedOctets_config_iff c f).1 (h f (hall f)),
      fun h f _ => (exists_hashedOctets_config_iff c f).2 (h f)⟩
  rw [← hmapM, digest_eq (isSetup_envelope c.message)]
  constructor
  · rintro ⟨digest, h⟩
    obtain ⟨octets, h, -⟩ := map_eq_ok h
    exact ⟨octets, h⟩
  · rintro ⟨octets, h⟩
    exact ⟨_, by rw [show (envelope c.message).message = c.message from rfl, h]; rfl⟩

/-- A configuration has no digest because of its first value with a surrogate, which cannot be
encoded. -/
theorem exists_first_of_digest_config_eq_error {c : SystemConfig} {e : TypedData.Fault}
    (h : TypedData.digest (envelope c.message).json = .error e) :
    ∃ before f after s, ConfigField.all = before ++ f :: after ∧
      (∀ g ∈ before, (c.value g).isScalar = true) ∧ Text.encode (c.value f) = .error s ∧
      e = .unencodable s := by
  rw [digest_eq (isSetup_envelope c.message)] at h
  obtain ⟨before, f, after, hall, hbefore, hf⟩ := exists_of_mapM_eq_error (map_eq_error h)
  change hashedOctets c.message f = .error e at hf
  have hlookup : c.message.lookup f.wireName = some (.text (c.value f)) := by cases f <;> rfl
  rw [hashedOctets_of_lookup hlookup nofun] at hf
  obtain ⟨s, hs, rfl⟩ := mapError_eq_error (map_eq_error hf)
  exact ⟨before, f, after, s, hall,
    fun g hg => (exists_hashedOctets_config_iff c g).1 (hbefore g hg), hs, rfl⟩

/-! ## Generation and verification -/

/-- What a signer makes of a source that has a message. -/
theorem result_generate_eq_ok_iff {s : Signer} {source : Source} {message : List (Text × Json)}
    (hmessage : source.message = .ok message) (signed : SignedPayload Signature) :
    (generate (some fun e => s.sign e.json) source).result = .ok signed ↔
      s.pool = .ready ∧ ∃ digest, TypedData.digest (envelope message).json = .ok digest ∧
        signed = ⟨Signature.sign s.key digest, Payload.encode (envelope message).json⟩ := by
  have hsign : ∀ signature, s.sign (envelope message).json = .ok signature ↔ s.pool = .ready ∧
      ∃ digest, TypedData.digest (envelope message).json = .ok digest ∧
        signature = Signature.sign s.key digest := by
    intro signature
    rw [Signer.sign]
    cases s.pool with
    | absent => exact ⟨nofun, fun h => nomatch h.1⟩
    | broken => exact ⟨nofun, fun h => nomatch h.1⟩
    | ready =>
      rw [PrivateKey.signTypedData]
      cases TypedData.digest (envelope message).json with
      | error e => exact ⟨nofun, fun ⟨_, _, h, _⟩ => nomatch h⟩
      | ok digest =>
        constructor
        · intro h
          exact ⟨rfl, digest, rfl, (Except.ok.inj h).symm⟩
        · rintro ⟨-, _, h, rfl⟩
          rw [← Except.ok.inj h]
          rfl
  simp only [generate, hmessage]
  cases hresult : s.sign (envelope message).json with
  | error e =>
    constructor
    · exact nofun
    · rintro ⟨hready, digest, hdigest, -⟩
      have := (hsign _).2 ⟨hready, digest, hdigest, rfl⟩
      rw [hresult] at this
      cases this
  | ok signature =>
    obtain ⟨hready, digest, hdigest, rfl⟩ := (hsign signature).1 hresult
    constructor
    · intro h
      exact ⟨hready, digest, hdigest, (Except.ok.inj h).symm⟩
    · rintro ⟨-, digest', hdigest', rfl⟩
      rw [hdigest] at hdigest'
      rw [← Except.ok.inj hdigest']

/-- A request verifies if its envelope has a digest from which its signature recovers a signer. -/
theorem verify_eq_ok {payload : Bytes} {e : Envelope} {signature : Signature} {digest : Bytes}
    {signer : Address} (he : Payload.decode payload = .ok e)
    (hdigest : TypedData.digest e.json = .ok digest)
    (hsigner : signature.signer digest = .ok signer) :
    verify payload signature.text = .ok ⟨signer, e⟩ := by
  have hrecover : recover e signature = .ok signer := by
    rw [recover, hdigest]
    show (signature.signer digest).mapError VerificationFault.recovery = .ok signer
    rw [hsigner]
    rfl
  rw [verify, he, Signature.ofText_text]
  show (recover e signature >>= fun signer => .ok (Verified.mk signer e)) = _
  rw [hrecover, ok_bind]

/-- Signing and verifying. Whenever a signer makes a request from a plain source, the request
verifies with the signer's address and the scrubbed envelope, if the signature of that envelope's
digest recovers to the signer. A started signer makes a request from a configuration iff none of
its values holds a surrogate. -/
theorem verify_generate (s : Signer) (source : Source) (h : source.IsPlain) :
    (∀ message signed, source.message = .ok message →
      (∀ digest, TypedData.digest (envelope message).json = .ok digest → s.key.Recovers digest) →
      (generate (some fun e => s.sign e.json) source).result = .ok signed →
        ∃ e, e.json = (envelope message).json.scrub ∧
          verify signed.payload signed.signature.text = .ok ⟨s.key.address, e⟩) ∧
    (∀ c, source = .config c → s.pool = .ready →
      ((∃ signed, (generate (some fun e => s.sign e.json) source).result = .ok signed) ↔
        ∀ f, (c.value f).isScalar = true)) := by
  constructor
  · intro message signed hmessage hrecovers hsigned
    have hplain := h.isPlain_of_message hmessage
    obtain ⟨-, digest, hdigest, rfl⟩ := (result_generate_eq_ok_iff hmessage signed).1 hsigned
    have hkeys := Envelope.nodup_keys_of_isPlain (isPlain_envelope hplain)
    refine ⟨(envelope message).scrub hkeys, Envelope.json_scrub _ hkeys, ?_⟩
    refine verify_eq_ok
      (Payload.decode_encode_eq_scrub (isPlain_envelope hplain)) ?_
      (PrivateKey.signer_sign (hrecovers digest hdigest))
    rw [Envelope.json_scrub]
    exact digest_scrub hplain hdigest
  · rintro c rfl hready
    rw [← exists_digest_config_iff c]
    constructor
    · rintro ⟨signed, hsigned⟩
      obtain ⟨-, digest, hdigest, -⟩ :=
        (result_generate_eq_ok_iff (message_config c) signed).1 hsigned
      exact ⟨digest, hdigest⟩
    · rintro ⟨digest, hdigest⟩
      exact ⟨_, (result_generate_eq_ok_iff (message_config c) _).2 ⟨hready, digest, hdigest, rfl⟩⟩

/-! ## A request that names one network -/

/-- A private key. -/
def sampleKey : PrivateKey :=
  ⟨0xac0974bec39a17e36ba4a6b4d238ff944bacb478cbed5efcae784d7bf4f2ff80, by decide, by decide⟩

/-- The digest of a setup that gives the octet `0x31` for the network and nothing else. -/
def sampleDigest : Bytes :=
  BigEndian.ofNat 32 0x138439f13cdb43cd32422873e5d73655b3901f261192745d4e550484f8bbcc32

/-- What the sample key makes of the sample digest. -/
def sampleSignature : Curve.RawSignature :=
  ⟨46510734445259347478735419139149819528481306156966575414146599359751552643509,
    47715569808746100859398049861185253760659852735500427851258675683850832385330, true⟩

theorem hash_domain :
    Keccak.hash (Keccak.hash ((TypedData.domainTypeName ++ "()").flatMap CodePoint.utf8)) =
      BigEndian.ofNat 32 0x6192106f129ce05c9075d319c1fa6ea9b3ae37cbd0c1ef92e2be7137bb07baa1 := by
  have htype : Keccak.hash ((TypedData.domainTypeName ++ "()").flatMap CodePoint.utf8) =
      BigEndian.ofNat 32 0x20bcc3f8105eea47d067386e42e60246e89393cd61c512edd1e87688890fb914 := by
    rw [Keccak.hash_eq]
    decide +kernel
  rw [htype, Keccak.hash_eq]
  decide +kernel

theorem hash_spelledType :
    Keccak.hash (spelledType.flatMap CodePoint.utf8) =
      BigEndian.ofNat 32 0x6a4a97d44c1d2b92612b6a954eff0be2319756f97332f44032a5e77552133e50 := by
  rw [Keccak.hash_eq]
  decide +kernel

/-- The message behind the sample digest: of all fields only the network is there. -/
theorem hash_network :
    Keccak.hash (Keccak.hash (spelledType.flatMap CodePoint.utf8) ++
      (ConfigField.all.map fun f => if f = .network then some [0x31] else none).flatMap fieldWord) =
      BigEndian.ofNat 32 0xc39cd95714db0f3f2b3c808014053024f143f741d90fdc6aa9d0bba2c2fbceda := by
  have hwords :
      (ConfigField.all.map fun f => if f = .network then some ([0x31] : Bytes) else none) =
        [none, none, some [0x31], none, none, none, none, none, none] := rfl
  have hnetwork : Keccak.hash [0x31] =
      BigEndian.ofNat 32 0xc89efdaa54c0f20c7adf612882df0950f5a951637e0307cdcb4c672f298b8bc6 := by
    rw [Keccak.hash_eq]
    decide +kernel
  rw [hash_spelledType, hwords]
  simp only [List.flatMap_cons, List.flatMap_nil, fieldWord, hnetwork]
  rw [Keccak.hash_eq]
  decide +kernel

theorem digest_eq_sampleDigest {e : Envelope} (h : IsSetup e)
    (hfields : ∀ f, hashedOctets e.message f = .ok (if f = .network then some [0x31] else none)) :
    TypedData.digest e.json = .ok sampleDigest := by
  rw [digest_eq h, mapM_eq_ok fun f _ => hfields f]
  refine congrArg Except.ok ?_
  unfold setupDigest
  dsimp only
  rw [hash_domain, hash_network, Keccak.hash_eq]
  decide +kernel

theorem sign_sampleDigest :
    Curve.Ecdsa.sign sampleKey.value sampleDigest = sampleSignature := by
  decide +kernel

deriving instance DecidableEq for Curve.Point

theorem coordinates_sampleKey :
    sampleKey.coordinates =
      (Fin.ofNat _ 59295962801117472859457908919941473389380284132224861839820747729565200149877,
        Fin.ofNat _
          24099691209996290925259367678540227198235484593389470330605641003500238088869) := by
  decide +kernel

theorem recovers_sampleDigest : sampleKey.Recovers sampleDigest := by
  have hpoint : Curve.Point.lift? (Fin.ofNat Curve.prime sampleSignature.r) sampleSignature.odd =
      some (Curve.Point.ofAffine (Fin.ofNat Curve.prime sampleSignature.r) (Fin.ofNat Curve.prime
        80583231894795032795389614100660188699116469748529245864817755251476956944855)) := by
    decide +kernel
  rw [PrivateKey.Recovers, sign_sampleDigest, coordinates_sampleKey]
  exact Curve.Ecdsa.recover_eq_ok hpoint (by decide +kernel) (by decide +kernel) (by decide +kernel)

/-- A started signer with the sample key. -/
def sampleSigner : Signer := ⟨sampleKey, .null, .ready, []⟩

/-- A message that names a network, with a note of a surrogate beside it. -/
def sampleMessage : List (Text × Json) := [("network", .text "1"), ("note", .text [0xD800])]

theorem digest_sampleMessage :
    TypedData.digest (envelope sampleMessage).json = .ok sampleDigest := by
  refine digest_eq_sampleDigest (isSetup_envelope sampleMessage) fun f => ?_
  cases f <;> rfl

/-- The network alone gives the same octets. -/
theorem digest_network :
    TypedData.digest (envelope [("network", .text "1")]).json = .ok sampleDigest := by
  refine digest_eq_sampleDigest (isSetup_envelope _) fun f => ?_
  cases f <;> rfl

theorem decode_network :
    Payload.decode (Payload.encode (envelope [("network", .text "1")]).json) =
      .ok (envelope [("network", .text "1")]) :=
  Payload.decode_encode_of_isScalar (by decide) (by decide)

/-- The sample message is signed, and verifies with the sample key's address; the note is read as
the replacement character. -/
theorem verify_generate_sampleMessage :
    ∃ signed, (generate (some fun e => sampleSigner.sign e.json)
        (.mapping (.obj sampleMessage))).result = .ok signed ∧
      ∃ e, e.json = (envelope [("network", .text "1"), ("note", .text [0xFFFD])]).json ∧
        verify signed.payload signed.signature.text = .ok ⟨sampleKey.address, e⟩ := by
  have hmessage : (Source.mapping (.obj sampleMessage)).message = .ok sampleMessage := rfl
  have hready : sampleSigner.pool = .ready := rfl
  have hsigned := (result_generate_eq_ok_iff hmessage _).2
    ⟨hready, sampleDigest, digest_sampleMessage, rfl⟩
  have hplain : Source.IsPlain (.mapping (.obj sampleMessage)) := by
    show (Json.obj sampleMessage).isPlain = true
    decide
  refine ⟨_, hsigned, ?_⟩
  refine (verify_generate sampleSigner (.mapping (.obj sampleMessage)) hplain).1 sampleMessage _
    hmessage (fun digest hdigest => ?_) hsigned
  rw [digest_sampleMessage] at hdigest
  rw [← Except.ok.inj hdigest]
  exact recovers_sampleDigest

/-- A configuration with a surrogate among its values. -/
def surrogateConfig : SystemConfig := ⟨fun f => if f = .arNodeUrl then [0xD800] else "1"⟩

/-- Not every configuration is signed, not even by a started signer. -/
theorem generate_surrogateConfig :
    sampleSigner.pool = .ready ∧
      ∀ signed, (generate (some fun e => sampleSigner.sign e.json)
        (.config surrogateConfig)).result ≠ .ok signed := by
  refine ⟨rfl, fun signed hsigned => ?_⟩
  obtain ⟨-, digest, hdigest, -⟩ :=
    (result_generate_eq_ok_iff (message_config surrogateConfig) signed).1 hsigned
  have hscalar := (exists_digest_config_iff surrogateConfig).1 ⟨digest, hdigest⟩ .arNodeUrl
  cases hscalar

end Setup

end SignedSetup
