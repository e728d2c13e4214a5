import SignedSetup.Proofs.Hex
import SignedSetup.Proofs.PayloadReading
import SignedSetup.Proofs.TypedData.Dependencies
import SignedSetup.Setup.Verification

/-!
# The stages of a verification

A verification gives the signer with the envelope that was read, or it fails in one of three
stages, and the first words of its message tell the stage. `verify_stages` says for each stage when
it is the one that fails: the payload spells no envelope; it does, but the signature does not spell
65 octets; both are right, but the envelope has no digest or the digest has no signer. What a
payload and a signature spell is said by their grammars.
-/

namespace SignedSetup.Setup

/-- The stages in which a verification can fail. -/
inductive Stage where
  | payload
  | signature
  | typedData

/-- The first words of what is said of a failure in the stage. -/
def Stage.words : Stage → Text
  | .payload => "bad typed data for err"
  | .signature => "invalid signature for err"
  | .typedData => "invalid typed data for err"

/-- The stage of a fault. -/
def VerificationFault.stage : VerificationFault → Stage
  | .payload _ => .payload
  | .signature _ => .signature
  | .typedData _ => .typedData
  | .recovery _ => .typedData

/-- A verification fails with a message that begins with the words of a stage. -/
def FailsIn (stage : Stage) (payload : Bytes) (signature : Text) : Prop :=
  ∃ fault, verify payload signature = .error fault ∧ stage.words <+: fault.message

/-- Octets are UTF-8 and JSON without integers of too many digits, and what they spell is an object
with the four members of an envelope, each of its kind. -/
def IsPayload (payload : Bytes) : Prop :=
  ∃ raw, Payload.Spells payload raw ∧ raw.isReadable = true ∧ ∃ e : Envelope, e.json = raw.merge

/-- A text spells 65 octets after an optional prefix. -/
def IsSignature (t : Text) : Prop :=
  ∃ bytes : Bytes, Hex.Spells (Address.dropHexPrefix t) bytes ∧ bytes.length = 65

/-! ## Words and stages -/

theorem words_isPrefix_append {stage : Stage} {words : String}
    (h : stage.words <+: Text.ofString words) (t : Text) : stage.words <+: (words ++ t : Text) :=
  h.trans (List.prefix_append _ t)

theorem words_stage_isPrefix (fault : VerificationFault) : fault.stage.words <+: fault.message := by
  have hpayload : Stage.payload.words <+: Text.ofString "bad typed data for err " := by decide
  have hsignature : Stage.signature.words <+: Text.ofString "invalid signature for err " := by
    decide
  have htypedData : Stage.typedData.words <+: Text.ofString "invalid typed data for err " := by
    decide
  cases fault with
  | payload e => exact words_isPrefix_append hpayload e.message
  | signature e => exact words_isPrefix_append hsignature e.message
  | recovery e => exact words_isPrefix_append htypedData e.message
  | typedData e =>
    rw [VerificationFault.message]
    cases e.message? with
    | none => exact List.prefix_rfl
    | some words => exact words_isPrefix_append htypedData words

/-- The words of a stage do not begin with those of another. -/
theorem eq_of_words_isPrefix {s t : Stage} (h : s.words <+: t.words) : s = t := by
  cases s <;> cases t <;> first | rfl | exact absurd h (by decide)

theorem stage_eq_iff {stage : Stage} {fault : VerificationFault} :
    fault.stage = stage ↔ stage.words <+: fault.message := by
  constructor
  · rintro rfl
    exact words_stage_isPrefix fault
  · intro h
    rcases List.prefix_or_prefix_of_prefix (words_stage_isPrefix fault) h with h | h
    · exact eq_of_words_isPrefix h
    · exact (eq_of_words_isPrefix h).symm

theorem failsIn_of_error {payload : Bytes} {signature : Text} {fault : VerificationFault}
    (h : verify payload signature = .error fault) (stage : Stage) :
    FailsIn stage payload signature ↔ fault.stage = stage := by
  rw [stage_eq_iff, FailsIn, h]
  constructor
  · rintro ⟨_, heq, hwords⟩
    rwa [Except.error.inj heq]
  · exact fun hwords => ⟨fault, rfl, hwords⟩

theorem not_failsIn_of_ok {payload : Bytes} {signature : Text} {request : Verified}
    (h : verify payload signature = .ok request) (stage : Stage) :
    ¬ FailsIn stage payload signature := by
  rintro ⟨fault, hfault, -⟩
  rw [h] at hfault
  cases hfault

/-! ## One stage after another -/

theorem isPayload_iff {payload : Bytes} :
    IsPayload payload ↔ ∃ e, Payload.decode payload = .ok e := by
  simp only [Payload.decode_eq_ok_iff]
  constructor
  · rintro ⟨raw, hspells, hreadable, e, he⟩
    exact ⟨e, raw, hspells, hreadable, he.symm⟩
  · rintro ⟨e, raw, hspells, hreadable, he⟩
    exact ⟨raw, hspells, hreadable, e, he.symm⟩

theorem isSignature_iff {t : Text} : IsSignature t ↔ ∃ s, Signature.ofText t = .ok s :=
  (Signature.exists_ofText_eq_ok_iff t).symm

theorem stage_of_recover {e : Envelope} {s : Signature} {fault : VerificationFault}
    (h : recover e s = .error fault) : fault.stage = .typedData := by
  rw [recover] at h
  cases hdigest : TypedData.digest e.json with
  | error x =>
    rw [hdigest] at h
    rw [← Except.error.inj h]
    rfl
  | ok digest =>
    rw [hdigest] at h
    change (s.signer digest).mapError VerificationFault.recovery = .error fault at h
    cases hsigner : s.signer digest with
    | error x =>
      rw [hsigner] at h
      rw [← Except.error.inj h]
      rfl
    | ok signer =>
      rw [hsigner] at h
      cases h

theorem recover_eq_ok_iff {e : Envelope} {s : Signature} {signer : Address} :
    recover e s = .ok signer ↔
      ∃ digest, TypedData.digest e.json = .ok digest ∧ s.signer digest = .ok signer := by
  constructor
  · intro h
    obtain ⟨digest, hdigest, hsigner⟩ := bind_eq_ok h
    exact ⟨digest, mapError_eq_ok hdigest, mapError_eq_ok hsigner⟩
  · rintro ⟨digest, hdigest, hsigner⟩
    rw [recover, hdigest]
    show (s.signer digest).mapError VerificationFault.recovery = .ok signer
    rw [hsigner]
    rfl

/-- A verification in its stages: the first that fails makes the fault. -/
theorem verify_cases (payload : Bytes) (signature : Text) :
    (∃ x, Payload.decode payload = .error x ∧ verify payload signature = .error (.payload x)) ∨
    (∃ e x, Payload.decode payload = .ok e ∧ Signature.ofText signature = .error x ∧
      verify payload signature = .error (.signature x)) ∨
    (∃ e s fault, Payload.decode payload = .ok e ∧ Signature.ofText signature = .ok s ∧
      recover e s = .error fault ∧ verify payload signature = .error fault) ∨
    ∃ e s signer, Payload.decode payload = .ok e ∧ Signature.ofText signature = .ok s ∧
      recover e s = .ok signer ∧ verify payload signature = .ok ⟨signer, e⟩ := by
  rw [verify]
  cases Payload.decode payload with
  | error x => exact .inl ⟨x, rfl, rfl⟩
  | ok e =>
    cases Signature.ofText signature with
    | error x => exact .inr (.inl ⟨e, x, rfl, rfl, rfl⟩)
    | ok s =>
      cases hrecover : recover e s with
      | error fault =>
        refine .inr (.inr (.inl ⟨e, s, fault, rfl, rfl, hrecover, ?_⟩))
        show (recover e s >>= fun signer => .ok (Verified.mk signer e)) = _
        rw [hrecover]
        rfl
      | ok signer =>
        refine .inr (.inr (.inr ⟨e, s, signer, rfl, rfl, hrecover, ?_⟩))
        show (recover e s >>= fun signer => .ok (Verified.mk signer e)) = _
        rw [hrecover]
        rfl

/-- A verification that succeeds has passed every stage. -/
theorem recover_of_verify {payload : Bytes} {signature : Text} {request : Verified}
    (h : verify payload signature = .ok request) :
    ∃ s, Payload.decode payload = .ok request.envelope ∧ Signature.ofText signature = .ok s ∧
      recover request.envelope s = .ok request.signer := by
  obtain ⟨e, he, h⟩ := bind_eq_ok h
  obtain ⟨s, hs, h⟩ := bind_eq_ok h
  obtain ⟨signer, hrecover, h⟩ := bind_eq_ok h
  obtain rfl := Except.ok.inj h
  exact ⟨s, mapError_eq_ok he, mapError_eq_ok hs, hrecover⟩

theorem failsIn_payload {payload : Bytes} {x : Payload.Fault}
    (h : Payload.decode payload = .error x) (signature : Text) :
    FailsIn .payload payload signature := by
  have hverify : verify payload signature = .error (.payload x) := by
    rw [verify, h]
    rfl
  exact (failsIn_of_error hverify .payload).2 rfl

/-- The envelope of a payload has a digest, of which the signature has this signer. -/
def IsSigner (payload : Bytes) (signature : Text) (signer : Address) : Prop :=
  ∃ e s digest, Payload.decode payload = .ok e ∧ Signature.ofText signature = .ok s ∧
    TypedData.digest e.json = .ok digest ∧ s.signer digest = .ok signer

theorem isSigner_iff {payload : Bytes} {signature : Text} {e : Envelope} {s : Signature}
    {signer : Address} (he : Payload.decode payload = .ok e)
    (hs : Signature.ofText signature = .ok s) :
    IsSigner payload signature signer ↔ recover e s = .ok signer := by
  rw [recover_eq_ok_iff]
  constructor
  · rintro ⟨e', s', digest, he', hs', h⟩
    obtain rfl := Except.ok.inj (he.symm.trans he')
    obtain rfl := Except.ok.inj (hs.symm.trans hs')
    exact ⟨digest, h⟩
  · rintro ⟨digest, h⟩
    exact ⟨e, s, digest, he, hs, h⟩

/-- Each stage fails iff it is the first that is not passed. -/
theorem failsIn_iff (payload : Bytes) (signature : Text) :
    (FailsIn .payload payload signature ↔ ¬ IsPayload payload) ∧
    (FailsIn .signature payload signature ↔ IsPayload payload ∧ ¬ IsSignature signature) ∧
    (FailsIn .typedData payload signature ↔
      IsPayload payload ∧ IsSignature signature ∧
        ¬ ∃ signer, IsSigner payload signature signer) := by
  obtain ⟨x, he, hverify⟩ | ⟨e, x, he, hs, hverify⟩ | ⟨e, s, fault, he, hs, hrecover, hverify⟩ |
    ⟨e, s, signer, he, hs, hrecover, hverify⟩ := verify_cases payload signature
  · have hpayload : ¬ IsPayload payload := by
      rw [isPayload_iff, he]
      exact nofun
    simp [failsIn_of_error hverify, VerificationFault.stage, hpayload]
  · have hpayload : IsPayload payload := isPayload_iff.2 ⟨e, he⟩
    have hsignature : ¬ IsSignature signature := by
      rw [isSignature_iff, hs]
      exact nofun
    simp [failsIn_of_error hverify, VerificationFault.stage, hpayload, hsignature]
  · have hpayload : IsPayload payload := isPayload_iff.2 ⟨e, he⟩
    have hsignature : IsSignature signature := isSignature_iff.2 ⟨s, hs⟩
    have hsigner : ¬ ∃ signer, IsSigner payload signature signer := by
      rintro ⟨signer, h⟩
      rw [isSigner_iff he hs, hrecover] at h
      cases h
    simp [failsIn_of_error hverify, stage_of_recover hrecover, hpayload, hsignature, hsigner]
  · have hpayload : IsPayload payload := isPayload_iff.2 ⟨e, he⟩
    have hsignature : IsSignature signature := isSignature_iff.2 ⟨s, hs⟩
    have hsigner : ∃ signer, IsSigner payload signature signer :=
      ⟨signer, (isSigner_iff he hs).2 hrecover⟩
    simp [not_failsIn_of_ok hverify, hpayload, hsignature, hsigner]

/-- The stages of a verification. It succeeds with the signer and the envelope that the payload
spells, or fails in the first of three stages that is not passed, as the first words of its message
say: in the first one iff the payload spells no envelope, whatever the signature is; in the second
one iff it does, but the signature does not spell 65 octets; in the third one iff both are right,
but there is no digest or no signer. Declarations that refer to each other in circles are no
exception, for the search for dependencies ends on all of them. -/
theorem verify_stages (payload : Bytes) (signature : Text) :
    (∀ request, verify payload signature = .ok request →
      Payload.decode payload = .ok request.envelope ∧ IsPayload payload ∧ IsSignature signature ∧
        IsSigner payload signature request.signer) ∧
    (∀ fault, verify payload signature = .error fault → ∃ stage, FailsIn stage payload signature) ∧
    (FailsIn .payload payload signature ↔ ¬ IsPayload payload) ∧
    (FailsIn .signature payload signature ↔ IsPayload payload ∧ ¬ IsSignature signature) ∧
    (FailsIn .typedData payload signature ↔
      IsPayload payload ∧ IsSignature signature ∧
        ¬ ∃ signer, IsSigner payload signature signer) ∧
    ∀ (types : TypedData.Declarations) (type : Text),
      TypedData.Declarations.Visits types [] [type] (types.reach (types.length + 1) [] type) := by
  obtain ⟨hpayload, hsignature, htypedData⟩ := failsIn_iff payload signature
  refine ⟨fun request h => ?_, fun fault h => ?_, hpayload, hsignature, htypedData,
    TypedData.Declarations.visits_reach⟩
  · obtain ⟨s, he, hs, hrecover⟩ := recover_of_verify h
    exact ⟨he, isPayload_iff.2 ⟨_, he⟩, isSignature_iff.2 ⟨s, hs⟩,
      (isSigner_iff he hs).2 hrecover⟩
  · exact ⟨fault.stage, (failsIn_of_error h _).2 rfl⟩

/-! ## An integer of too many digits -/

/-- So many digits are one more than an integer may have. -/
def overlongDigits : Text := List.replicate (Decimal.limit + 1) (CodePoint.ofChar '1')

/-- The members of an envelope that declares nothing. -/
def bareMembers : Text :=
  "\"types\":\x7b\x7d,\"primaryType\":\"\",\"domain\":\x7b\x7d,\"message\":\x7b\x7d"

/-- An envelope that declares nothing, after a member with an integer of too many digits. -/
def overlongText : Text :=
  CodePoint.ofChar '\x7b' :: CodePoint.ofChar '"' :: CodePoint.ofChar '"' :: CodePoint.ofChar ':' ::
    (overlongDigits ++ CodePoint.ofChar ',' :: (bareMembers ++ [CodePoint.ofChar '\x7d']))

/-- The envelope as a payload. -/
def overlongPayload : Bytes := overlongText.flatMap CodePoint.utf8

theorem isWhole_overlongDigits : Json.IsWhole overlongDigits := by
  refine .inr ⟨⟨List.cons_ne_nil _ _, fun c hc => ?_⟩, ?_⟩
  · rw [List.eq_of_mem_replicate hc]
    rfl
  · exact fun h => absurd (Option.some.inj h) (by decide)

theorem spells_bareMembers :
    Json.Spells (.members [("types", .obj []), ("primaryType", .text []), ("domain", .obj []),
      ("message", .obj [])]) bareMembers := by
  have hobject : Json.Spells (.value (.obj [])) (Text.ofString "\x7b\x7d") :=
    .emptyObject (rfl : Json.IsBlanks [])
  have htext : Json.Spells (.value (.text [])) (Text.ofString "\"\"") :=
    .text (Json.spellsText_of_isUnescaped rfl)
  have hmessage := Json.spells_lastMember
    (by decide : (Text.ofString "message").all Json.isUnescaped = true) hobject
  have hdomain := Json.spells_member
    (by decide : (Text.ofString "domain").all Json.isUnescaped = true) hobject hmessage
  have hprimaryType := Json.spells_member
    (by decide : (Text.ofString "primaryType").all Json.isUnescaped = true) htext hdomain
  exact Json.spells_member
    (by decide : (Text.ofString "types").all Json.isUnescaped = true) hobject hprimaryType

theorem isScalar_overlongText : overlongText.isScalar = true := by
  have hdigits : overlongDigits.all (fun c => !c.isSurrogate) = true := by
    rw [overlongDigits, List.all_replicate]
    decide
  have hrest : bareMembers.all (fun c => !c.isSurrogate) = true := by decide
  rw [Text.isScalar, overlongText]
  simp only [List.all_cons, List.all_append, List.all_nil, hdigits, hrest]
  decide

theorem document_overlongText :
    Json.document overlongText = .error (.tooLong ⟨Decimal.limit + 1⟩) := by
  have hlength : overlongDigits.length = Decimal.limit + 1 := List.length_replicate
  rw [overlongText]
  generalize bareMembers ++ [CodePoint.ofChar '\x7d'] = tail
  have hends : Json.EndsNumber (CodePoint.ofChar ',' :: tail) :=
    ⟨by decide, by decide, by decide, by decide⟩
  have hskip : Json.skipBlanks (overlongDigits ++ CodePoint.ofChar ',' :: tail) =
      overlongDigits ++ CodePoint.ofChar ',' :: tail :=
    (Json.Spells.number (.integer false isWhole_overlongDigits)).skipBlanks_append _
  have hnil : List.all [] Json.isUnescaped = true := rfl
  have hkey : Json.key (CodePoint.ofChar '"' :: CodePoint.ofChar '"' :: CodePoint.ofChar ':' ::
      (overlongDigits ++ CodePoint.ofChar ',' :: tail)) =
        .ok ([], overlongDigits ++ CodePoint.ofChar ',' :: tail) :=
    Json.key_append (Json.spellsKey_of_isUnescaped hnil) hskip
  have hvalue (fuel : Nat) := Json.value_of_overlong isWhole_overlongDigits
    (hlength ▸ Nat.lt_succ_self _) fuel hends
  have hobject (fuel : Nat) : Json.object (Json.value (fuel + 1)) (CodePoint.ofChar '"' ::
      CodePoint.ofChar '"' :: CodePoint.ofChar ':' ::
        (overlongDigits ++ CodePoint.ofChar ',' :: tail)) =
        .error (.tooLong ⟨Decimal.limit + 1⟩) := by
    rw [Json.object, Json.skipBlanks_cons (by decide)]
    dsimp only
    rw [if_neg (by decide), List.length_cons, Json.members, hkey, ok_bind]
    dsimp only
    rw [hvalue, hlength]
    rfl
  have hmark : (CodePoint.ofChar '\x7b' :: CodePoint.ofChar '"' :: CodePoint.ofChar '"' ::
      CodePoint.ofChar ':' :: (overlongDigits ++ CodePoint.ofChar ',' :: tail)).head? ≠
        some 0xFEFF :=
    fun h => absurd (Option.some.inj h) (by decide)
  rw [Json.document, if_neg hmark, Json.skipBlanks_cons (by decide), List.length_cons, Json.value,
    if_neg (by decide), if_neg (by decide), if_pos rfl, hobject]
  rfl

/-- The text is a document, and what it spells has the members of an envelope. -/
theorem spells_overlongPayload :
    ∃ raw, Payload.Spells overlongPayload raw ∧ ∃ e : Envelope, e.json = raw.merge := by
  have hnumber := Json.Spells.number (Json.SpellsNumber.integer false isWhole_overlongDigits)
  have hnil : List.all [] Json.isUnescaped = true := rfl
  have hmembers := Json.spells_object (Json.spells_member hnil hnumber spells_bareMembers)
  generalize Json.signed false (Decimal.value overlongDigits) = n at hmembers
  refine ⟨.obj [([], .int n), ("types", .obj []), ("primaryType", .text []), ("domain", .obj []),
    ("message", .obj [])], ⟨overlongText, isScalar_overlongText, rfl, [], _, [], rfl, hmembers, rfl,
      ?_⟩, ?_⟩
  · simp [overlongText, Json.minusSign]
  · exact ⟨⟨[([], .int n), ("types", .obj []), ("primaryType", .text []), ("domain", .obj []),
      ("message", .obj [])], [], [], [], [], rfl, rfl, rfl, rfl⟩, rfl⟩

/-- A payload that is UTF-8, JSON and an envelope is refused in the first stage all the same if an
integer in it has too many digits. -/
theorem verify_overlongPayload :
    (∃ raw, Payload.Spells overlongPayload raw ∧ ∃ e : Envelope, e.json = raw.merge) ∧
      ∀ signature, FailsIn .payload overlongPayload signature := by
  refine ⟨spells_overlongPayload, fun signature => ?_⟩
  have htext : Utf8.decode overlongPayload = .ok overlongText :=
    Utf8.decode_eq_ok_iff.2 ⟨isScalar_overlongText, rfl⟩
  have hparse : Json.parse overlongText = .error (.tooLong ⟨Decimal.limit + 1⟩) := by
    rw [Json.parse, document_overlongText]
  exact failsIn_payload (Payload.decode_of_parse_error htext hparse) signature

end SignedSetup.Setup
