import SignedSetup.Proofs.Setup.Application
import SignedSetup.Proofs.Setup.RoundTrip
import SignedSetup.Proofs.Text.Utf8
import SignedSetup.Proofs.TypedData.SetupDigest

/-!
# What a signature binds

A signature covers the octets that the nine fields give to be hashed. A node reads the fields
themselves, and a field that is a number or a truth value gives octets although the node takes it
for absent. So two payloads of the same octets have the same signers, but say the same to a node
only where each field is a string in both of them or in neither, or else is a string that the node
takes for absent too (`apply_of_same_octets`).
-/

namespace SignedSetup

/-- A text that a node takes for what an absent field means. Four of the fields are not read at
all. -/
def ConfigField.CountsAsAbsent : ConfigField → Text → Prop
  | .network, t => Setup.unsigned? t = .ok (some 0)
  | .minRollupSize, t => Setup.unsigned? t = .ok none
  | .rollupInterval, t => Setup.unsigned? t = .ok none
  | .evmNodeRpc, _ => False
  | .arNodeUrl, _ => False
  | _, _ => True

namespace Setup

/-- A field is a string in both messages or in neither, or the string counts as absent. -/
def IsAlike (m₁ m₂ : List (Text × Json)) (f : ConfigField) : Prop :=
  match textField? m₁ f.wireName, textField? m₂ f.wireName with
  | some t, none => f.CountsAsAbsent t
  | none, some t => f.CountsAsAbsent t
  | _, _ => True

/-! ## Strings of the same octets -/

theorem flatMap_utf8_injective {t u : Text} (ht : t.isScalar = true) (hu : u.isScalar = true)
    (h : t.flatMap CodePoint.utf8 = u.flatMap CodePoint.utf8) : t = u := by
  have hdecode (t : Text) (ht : t.isScalar = true) :
      Utf8.decode (t.flatMap CodePoint.utf8) = .ok t := by
    have := Utf8.decode_utf8 t
    rwa [Text.utf8, Text.scrub_eq_self ht] at this
  have ht' := hdecode t ht
  rw [h, hdecode u hu] at ht'
  exact (Except.ok.inj ht').symm

theorem lookup_of_textField? {message : List (Text × Json)} {name t : Text}
    (h : textField? message name = some t) : message.lookup name = some (.text t) := by
  obtain ⟨v, hv, htext⟩ := Option.bind_eq_some_iff.1 h
  cases v with
  | text u => rw [hv, Option.some.inj htext]
  | null | bool _ | int _ | float _ | arr _ | obj _ => cases htext

/-- Two strings of the same octets are one string. -/
theorem text_eq_of_hashedOctets {m₁ m₂ : List (Text × Json)} {f : ConfigField} {t u : Text}
    {octets : Option Bytes} (h₁ : hashedOctets m₁ f = .ok octets)
    (h₂ : hashedOctets m₂ f = .ok octets) (ht : textField? m₁ f.wireName = some t)
    (hu : textField? m₂ f.wireName = some u) : t = u := by
  rw [hashedOctets_of_lookup (lookup_of_textField? ht) nofun] at h₁
  rw [hashedOctets_of_lookup (lookup_of_textField? hu) nofun] at h₂
  obtain ⟨o₁, ho₁, rfl⟩ := map_eq_ok h₁
  obtain ⟨o₂, ho₂, heq⟩ := map_eq_ok h₂
  obtain rfl := Option.some.inj heq
  have hst := isScalar_of_octetsOfText ho₁
  have hsu := isScalar_of_octetsOfText ho₂
  have ho₁' : TypedData.octetsOfText t = .ok o₂ := ho₁
  have ho₂' : TypedData.octetsOfText u = .ok o₂ := ho₂
  rw [octetsOfText_of_isScalar hst] at ho₁'
  rw [octetsOfText_of_isScalar hsu] at ho₂'
  exact flatMap_utf8_injective hst hsu ((Except.ok.inj ho₁').trans (Except.ok.inj ho₂').symm)

/-- Where a field is alike in two messages of the same octets, it has the same text or one that
counts as absent. -/
theorem text_of_isAlike {m₁ m₂ : List (Text × Json)} {f : ConfigField} {octets : Option Bytes}
    (h₁ : hashedOctets m₁ f = .ok octets) (h₂ : hashedOctets m₂ f = .ok octets)
    (h : IsAlike m₁ m₂ f) :
    textField? m₁ f.wireName = textField? m₂ f.wireName ∨
      ∃ t, f.CountsAsAbsent t ∧
        (textField? m₁ f.wireName = some t ∧ textField? m₂ f.wireName = none ∨
          textField? m₁ f.wireName = none ∧ textField? m₂ f.wireName = some t) := by
  unfold IsAlike at h
  cases ht : textField? m₁ f.wireName with
  | none =>
    cases hu : textField? m₂ f.wireName with
    | none => exact .inl rfl
    | some u =>
      rw [ht, hu] at h
      exact .inr ⟨u, h, .inr ⟨rfl, rfl⟩⟩
  | some t =>
    cases hu : textField? m₂ f.wireName with
    | none =>
      rw [ht, hu] at h
      exact .inr ⟨t, h, .inl ⟨rfl, rfl⟩⟩
    | some u => exact .inl (congrArg some (text_eq_of_hashedOctets h₁ h₂ ht hu))

/-! ## Messages that read alike -/

section Messages

variable {m₁ m₂ : List (Text × Json)}
  (hoctets : ∀ f, ∃ octets, hashedOctets m₁ f = .ok octets ∧ hashedOctets m₂ f = .ok octets)

theorem number?_of_countsAsAbsent {m : List (Text × Json)} {f : ConfigField} {t : Text}
    (hf : f = .minRollupSize ∨ f = .rollupInterval) (ht : f.CountsAsAbsent t)
    (h : textField? m f.wireName = some t ∨ textField? m f.wireName = none) :
    number? m f = .ok none := by
  rw [number?]
  rcases h with h | h
  · rw [h]
    rcases hf with rfl | rfl <;> exact ht
  · rw [h]

theorem networkField_of_countsAsAbsent {m : List (Text × Json)} {t : Text}
    (ht : ConfigField.network.CountsAsAbsent t)
    (h : textField? m ConfigField.network.wireName = some t ∨
      textField? m ConfigField.network.wireName = none) :
    networkField m = .ok 0 := by
  rw [networkField_eq]
  have ht : unsigned? t = .ok (some 0) := ht
  rcases h with h | h
  · rw [h]
    dsimp only
    rw [ht]
  · rw [h]

include hoctets

theorem number?_eq_of_isAlike {f : ConfigField} (hf : f = .minRollupSize ∨ f = .rollupInterval)
    (h : IsAlike m₁ m₂ f) : number? m₁ f = number? m₂ f := by
  obtain ⟨octets, h₁, h₂⟩ := hoctets f
  rcases text_of_isAlike h₁ h₂ h with heq | ⟨t, ht, ⟨ht₁, ht₂⟩ | ⟨ht₁, ht₂⟩⟩
  · rw [number?, number?, heq]
  · rw [number?_of_countsAsAbsent hf ht (.inl ht₁), number?_of_countsAsAbsent hf ht (.inr ht₂)]
  · rw [number?_of_countsAsAbsent hf ht (.inr ht₁), number?_of_countsAsAbsent hf ht (.inl ht₂)]

theorem networkField_eq_of_isAlike (h : IsAlike m₁ m₂ .network) :
    networkField m₁ = networkField m₂ := by
  obtain ⟨octets, h₁, h₂⟩ := hoctets .network
  rcases text_of_isAlike h₁ h₂ h with heq | ⟨t, ht, ⟨ht₁, ht₂⟩ | ⟨ht₁, ht₂⟩⟩
  · rw [networkField_eq, networkField_eq, heq]
  · rw [networkField_of_countsAsAbsent ht (.inl ht₁), networkField_of_countsAsAbsent ht (.inr ht₂)]
  · rw [networkField_of_countsAsAbsent ht (.inr ht₁), networkField_of_countsAsAbsent ht (.inl ht₂)]

theorem textField?_eq_of_isAlike {f : ConfigField} (hf : f = .evmNodeRpc ∨ f = .arNodeUrl)
    (h : IsAlike m₁ m₂ f) : textField? m₁ f.wireName = textField? m₂ f.wireName := by
  obtain ⟨octets, h₁, h₂⟩ := hoctets f
  rcases text_of_isAlike h₁ h₂ h with heq | ⟨t, ht, -⟩
  · exact heq
  · rcases hf with rfl | rfl <;> exact ht.elim

/-- Messages whose fields are alike read the same. -/
theorem reading_eq_of_isAlike (h : ∀ f, IsAlike m₁ m₂ f) : reading m₁ = reading m₂ := by
  rw [reading, reading, networkField_eq_of_isAlike hoctets (h .network),
    number?_eq_of_isAlike hoctets (.inl rfl) (h .minRollupSize),
    number?_eq_of_isAlike hoctets (.inr rfl) (h .rollupInterval),
    textField?_eq_of_isAlike hoctets (.inl rfl) (h .evmNodeRpc),
    textField?_eq_of_isAlike hoctets (.inr rfl) (h .arNodeUrl)]

end Messages

theorem isAlike_of_textField?_eq {m₁ m₂ : List (Text × Json)} {f : ConfigField}
    (h : textField? m₁ f.wireName = textField? m₂ f.wireName) : IsAlike m₁ m₂ f := by
  unfold IsAlike
  rw [h]
  cases textField? m₂ f.wireName <;> trivial

theorem isAlike_of_number?_eq {m₁ m₂ : List (Text × Json)} {f : ConfigField} {n : Option Nat}
    (hf : f = .minRollupSize ∨ f = .rollupInterval) (h₁ : number? m₁ f = .ok n)
    (h₂ : number? m₂ f = .ok n) : IsAlike m₁ m₂ f := by
  have hnone {t : Text} (ht : unsigned? t = .ok n)
      (hn : (.ok none : Except Decimal.TooLong _) = .ok n) : f.CountsAsAbsent t := by
    rw [← hn] at ht
    rcases hf with rfl | rfl <;> exact ht
  unfold number? at h₁ h₂
  unfold IsAlike
  cases ht : textField? m₁ f.wireName with
  | none =>
    cases hu : textField? m₂ f.wireName with
    | none => trivial
    | some u =>
      rw [ht] at h₁
      rw [hu] at h₂
      exact hnone h₂ h₁
  | some t =>
    cases hu : textField? m₂ f.wireName with
    | none =>
      rw [ht] at h₁
      rw [hu] at h₂
      exact hnone h₁ h₂
    | some u => trivial

theorem unsigned?_of_networkField {m : List (Text × Json)} {t : Text} {n : Nat}
    (ht : textField? m ConfigField.network.wireName = some t) (h : networkField m = .ok n) :
    unsigned? t = .ok (some n) := by
  rw [networkField_eq, ht] at h
  dsimp only at h
  split at h
  · cases h
  · cases h
  · next hn => rw [hn, Except.ok.inj h]

theorem isAlike_of_networkField_eq {m₁ m₂ : List (Text × Json)} {n : Nat}
    (h₁ : networkField m₁ = .ok n) (h₂ : networkField m₂ = .ok n) : IsAlike m₁ m₂ .network := by
  have hzero {m : List (Text × Json)} (hm : textField? m ConfigField.network.wireName = none)
      (h : networkField m = .ok n) : n = 0 := by
    rw [networkField_eq, hm] at h
    exact (Except.ok.inj h).symm
  unfold IsAlike
  cases ht : textField? m₁ ConfigField.network.wireName with
  | none =>
    cases hu : textField? m₂ ConfigField.network.wireName with
    | none => trivial
    | some u =>
      obtain rfl := hzero ht h₁
      exact unsigned?_of_networkField hu h₂
  | some t =>
    cases hu : textField? m₂ ConfigField.network.wireName with
    | none =>
      obtain rfl := hzero hu h₂
      exact unsigned?_of_networkField ht h₁
    | some u => trivial

/-- Messages that read the same have fields that are alike. -/
theorem isAlike_of_reading_eq {m₁ m₂ : List (Text × Json)} {r : Reading}
    (h₁ : reading m₁ = .ok r) (h₂ : reading m₂ = .ok r) (f : ConfigField) : IsAlike m₁ m₂ f := by
  obtain ⟨hnetwork₁, hmin₁, hinterval₁, hevm₁, har₁⟩ := reading_eq_ok h₁
  obtain ⟨hnetwork₂, hmin₂, hinterval₂, hevm₂, har₂⟩ := reading_eq_ok h₂
  cases f with
  | network => exact isAlike_of_networkField_eq hnetwork₁ hnetwork₂
  | minRollupSize => exact isAlike_of_number?_eq (.inl rfl) hmin₁ hmin₂
  | rollupInterval => exact isAlike_of_number?_eq (.inr rfl) hinterval₁ hinterval₂
  | evmNodeRpc => exact isAlike_of_textField?_eq (hevm₁.trans hevm₂.symm)
  | arNodeUrl => exact isAlike_of_textField?_eq (har₁.trans har₂.symm)
  | chainId | contractAddress | rollupMaxInterval | minGcOffset =>
    unfold IsAlike
    split <;> trivial

/-- What is put over every configuration alike is the same. -/
theorem Reading.eq_of_applyTo_eq {r s : Reading}
    (h : ∀ current, r.applyTo current = s.applyTo current) : r = s := by
  have hoption {α : Type} {a b : Option α} (x y : α) (hxy : x ≠ y) (hx : a.getD x = b.getD x)
      (hy : a.getD y = b.getD y) : a = b := by
    cases a <;> cases b <;> simp_all
  -- Two configurations that differ in each field tell a field that is given from one that is kept.
  obtain ⟨h₀, h₁⟩ := And.intro (h ⟨0, 0, 0, [], []⟩) (h ⟨1, 1, 0, [0], [0]⟩)
  simp only [applyTo, NodeConfig.mk.injEq] at h₀ h₁
  obtain ⟨hmin₀, hinterval₀, hnetwork, hevm₀, har₀⟩ := h₀
  obtain ⟨hmin₁, hinterval₁, -, hevm₁, har₁⟩ := h₁
  exact Reading.ext (hoption 0 1 (by decide) hmin₀ hmin₁)
    (hoption 0 1 (by decide) hinterval₀ hinterval₁) hnetwork
    (hoption [] [0] (by decide) hevm₀ hevm₁) (hoption [] [0] (by decide) har₀ har₁)

/-! ## Payloads of the same octets -/

/-- The kinds of exceptions that an attempt to apply a request ends with. -/
inductive FaultKind where
  /-- The request cannot be verified or read. -/
  | verification
  /-- Someone else signed the request. -/
  | permission
  /-- A numeral has too many digits. -/
  | number

/-- The kind of a fault. -/
def ApplicationFault.kind : ApplicationFault → FaultKind
  | .verification _ => .verification
  | .badAdmin _ => .verification
  | .notAdmin _ => .permission
  | .badNetwork _ => .verification
  | .tooLong _ => .number

/-- The outcome of an attempt: the configuration, or the kind of its fault. -/
def outcome (payload : Bytes) (signature admin : Text) (current : NodeConfig) :
    Except FaultKind NodeConfig :=
  (apply payload signature admin current).result.mapError ApplicationFault.kind

/-- What a node makes of an envelope with a signature: the signer. -/
def signerOf (e : Envelope) (signature : Text) : Except VerificationFault Address := do
  recover e (← (Signature.ofText signature).mapError .signature)

/-- An envelope that has a signer gives octets for each field. -/
theorem exists_hashedOctets {e : Envelope} (h : IsSetup e) {signature : Text} {signer : Address}
    (hsigner : signerOf e signature = .ok signer) (f : ConfigField) :
    ∃ octets, hashedOctets e.message f = .ok octets := by
  obtain ⟨s, -, hrecover⟩ := bind_eq_ok hsigner
  obtain ⟨digest, hdigest, -⟩ := bind_eq_ok hrecover
  have hdigest := mapError_eq_ok hdigest
  rw [digest_eq h] at hdigest
  obtain ⟨octets, hoctets, -⟩ := map_eq_ok hdigest
  exact exists_mapM_eq_ok_iff.1 ⟨octets, hoctets⟩ f (by cases f <;> decide)

section Payload

variable {payload : Bytes} {e : Envelope} (he : Payload.decode payload = .ok e)
include he

theorem verify_of_decode (signature : Text) :
    verify payload signature = (signerOf e signature).map (⟨·, e⟩) := by
  rw [verify, he, signerOf]
  cases (Signature.ofText signature).mapError VerificationFault.signature with
  | error x => rfl
  | ok s =>
    show (recover e s).bind _ = (recover e s).map _
    cases recover e s <;> rfl

theorem heard_of_decode (signature admin : Text) :
    heard payload signature admin =
      match signerOf e signature with
      | .error x => .error (.verification x)
      | .ok signer => authorized ⟨signer, e⟩ admin := by
  rw [heard, verify_of_decode he]
  cases signerOf e signature <;> rfl

theorem reading_of_heard {signature admin : Text} {r : Reading}
    (h : heard payload signature admin = .ok r) : reading e.message = .ok r := by
  rw [heard_of_decode he] at h
  split at h
  · cases h
  · exact (authorized_eq_ok h).2

end Payload

theorem outcome_eq_error_iff {payload : Bytes} {signature admin : Text} {current : NodeConfig}
    {kind : FaultKind} : outcome payload signature admin current = .error kind ↔
      (heard payload signature admin).mapError ApplicationFault.kind = .error kind := by
  rw [outcome, result_apply]
  cases heard payload signature admin with
  | error x => simp [Except.map, Except.mapError]
  | ok r => simp [Except.map, Except.mapError]

/-- The outcomes over all configurations tell what was heard. -/
theorem forall_outcome_eq_iff {p q : Bytes} {signature admin : Text} :
    (∀ current, outcome p signature admin current = outcome q signature admin current) ↔
      (heard p signature admin).mapError ApplicationFault.kind =
        (heard q signature admin).mapError ApplicationFault.kind := by
  constructor
  · intro h
    cases hq : heard q signature admin with
    | error y =>
      have hkind : outcome q signature admin ⟨0, 0, 0, [], []⟩ = .error y.kind :=
        outcome_eq_error_iff.2 (by rw [hq]; rfl)
      exact outcome_eq_error_iff.1 ((h _).trans hkind)
    | ok s =>
      simp only [outcome, result_apply, hq] at h
      cases hp : heard p signature admin with
      | error x =>
        rw [hp] at h
        cases h ⟨0, 0, 0, [], []⟩
      | ok r =>
        rw [hp] at h
        rw [Reading.eq_of_applyTo_eq fun current => Except.ok.inj (h current)]
  · intro h current
    rw [outcome, outcome, result_apply, result_apply]
    cases hp : heard p signature admin <;> cases hq : heard q signature admin <;>
      simp_all [Except.map, Except.mapError]

section SameOctets

variable {p q : Bytes} {e₁ e₂ : Envelope} (hp : Payload.decode p = .ok e₁)
  (hq : Payload.decode q = .ok e₂) (h₁ : IsSetup e₁) (h₂ : IsSetup e₂)
  (hsame : ∀ f, hashedOctets e₁.message f = hashedOctets e₂.message f)
include h₁ h₂ hsame

theorem signerOf_eq_of_same_octets (signature : Text) :
    signerOf e₁ signature = signerOf e₂ signature := by
  have hdigest : TypedData.digest e₁.json = TypedData.digest e₂.json := by
    rw [digest_eq h₁, digest_eq h₂, mapM_congr fun f _ => hsame f]
  simp only [signerOf, recover, hdigest]

include hp hq

theorem heard_eq_of_isAlike (halike : ∀ f, IsAlike e₁.message e₂.message f)
    (signature admin : Text) : heard p signature admin = heard q signature admin := by
  rw [heard_of_decode hp, heard_of_decode hq, ← signerOf_eq_of_same_octets h₁ h₂ hsame]
  cases hs : signerOf e₁ signature with
  | error x => rfl
  | ok signer =>
    have hreading : reading e₁.message = reading e₂.message := by
      refine reading_eq_of_isAlike (fun f => ?_) halike
      obtain ⟨octets, hoctets⟩ := exists_hashedOctets h₁ hs f
      exact ⟨octets, hoctets, hsame f ▸ hoctets⟩
    simp only [authorized, hreading]

end SameOctets

/-- What a signature binds. Two setup payloads whose fields give the same octets to be hashed have
the same signer under every signature. They are applied with the same result if each field is
alike; and for a signature and an administrator, their outcomes over all configurations are the
same only if it is, or if both are always refused with the same kind of fault. -/
theorem apply_of_same_octets {p q : Bytes} {e₁ e₂ : Envelope} (hp : Payload.decode p = .ok e₁)
    (hq : Payload.decode q = .ok e₂) (h₁ : IsSetup e₁) (h₂ : IsSetup e₂)
    (hsame : ∀ f, hashedOctets e₁.message f = hashedOctets e₂.message f) :
    (∀ signature,
      (verify p signature).map Verified.signer = (verify q signature).map Verified.signer) ∧
    ((∀ f, IsAlike e₁.message e₂.message f) → ∀ signature admin current,
      (apply p signature admin current).result = (apply q signature admin current).result) ∧
    ∀ signature admin,
      (∀ current, outcome p signature admin current = outcome q signature admin current) ↔
        (∀ f, IsAlike e₁.message e₂.message f) ∨
        ∃ kind, ∀ current, outcome p signature admin current = .error kind ∧
          outcome q signature admin current = .error kind := by
  have hheard := heard_eq_of_isAlike hp hq h₁ h₂ hsame
  refine ⟨fun signature => ?_, fun halike signature admin current => ?_,
    fun signature admin => ⟨fun houtcome => ?_, ?_⟩⟩
  · rw [verify_of_decode hp, verify_of_decode hq, signerOf_eq_of_same_octets h₁ h₂ hsame,
      map_map_except, map_map_except]
  · rw [result_apply, result_apply, hheard halike]
  · have hkind := forall_outcome_eq_iff.1 houtcome
    cases hp' : heard p signature admin with
    | error x =>
      have hp' : (heard p signature admin).mapError ApplicationFault.kind = .error x.kind := by
        rw [hp']
        rfl
      exact .inr ⟨x.kind, fun current =>
        ⟨outcome_eq_error_iff.2 hp', outcome_eq_error_iff.2 (hkind ▸ hp')⟩⟩
    | ok r =>
      rw [hp'] at hkind
      have hq' : heard q signature admin = .ok r := mapError_eq_ok hkind.symm
      exact .inl (isAlike_of_reading_eq (reading_of_heard hp hp') (reading_of_heard hq hq'))
  · rintro (halike | ⟨kind, hkind⟩) current
    · rw [outcome, outcome, result_apply, result_apply, hheard halike]
    · rw [(hkind current).1, (hkind current).2]

/-- The text `1` and the number 49, its octet, are the same to a signature. Whoever has a request
of the one, signed by the administrator, can send the other instead, and the node takes another
network. -/
theorem apply_of_same_octets_number :
    ∃ signature admin, ∀ current : NodeConfig,
      (apply (Payload.encode (envelope [("network", .text "1")]).json) signature admin
        current).result = .ok { current with networkId := 1 } ∧
      (apply (Payload.encode (envelope [("network", .int 49)]).json) signature admin
        current).result = .ok { current with networkId := 0 } := by
  have hp : Payload.decode (Payload.encode (envelope [("network", .text "1")]).json) =
      .ok (envelope [("network", .text "1")]) :=
    Payload.decode_encode_of_isScalar (by decide) (by decide)
  have hq : Payload.decode (Payload.encode (envelope [("network", .int 49)]).json) =
      .ok (envelope [("network", .int 49)]) :=
    Payload.decode_encode_of_isScalar (by decide +kernel) (by decide)
  have htext (f : ConfigField) : hashedOctets [("network", .text "1")] f =
      .ok (if f = .network then some [0x31] else none) := by
    cases f <;> rfl
  have hnumber (f : ConfigField) : hashedOctets [("network", .int 49)] f =
      .ok (if f = .network then some [0x31] else none) := by
    cases f with
    | network =>
      have hminimal : BigEndian.minimal 49 = [0x31] := by decide +kernel
      exact congrArg (fun octets => Except.ok (some octets)) hminimal
    | _ => rfl
  have hsetup := isSetup_envelope [("network", .text "1")]
  have hverify := verify_eq_ok hp (digest_eq_sampleDigest hsetup htext)
    (PrivateKey.signer_sign recovers_sampleDigest)
  have hsigners := (apply_of_same_octets hp hq hsetup (isSetup_envelope [("network", .int 49)])
    fun f => (htext f).trans (hnumber f).symm).1
  refine ⟨(Signature.sign sampleKey sampleDigest).text,
    "0x" ++ Hex.ofBytes sampleKey.address.bytes, fun current => ⟨?_, ?_⟩⟩
  · rw [result_apply, heard, hverify]
    dsimp only
    rw [authorized, Address.ofText?_ofBytes]
    dsimp only
    rw [if_pos rfl]
    rfl
  · have hsigner := hsigners (Signature.sign sampleKey sampleDigest).text
    rw [hverify, verify_of_decode hq, map_map_except] at hsigner
    obtain ⟨signer, hsigner, heq⟩ := map_eq_ok hsigner.symm
    rw [result_apply, heard_of_decode hq, hsigner]
    dsimp only
    rw [authorized, Address.ofText?_ofBytes]
    dsimp only
    rw [if_pos heq.symm]
    rfl

end Setup

end SignedSetup
