import SignedSetup.Proofs.Setup.Coverage

/-!
# Numerals of too many digits

An attempt to apply a request ends with a configuration, with a failed verification or with a
denied permission, whatever the payload declares and however long its strings are. The one
exception are numerals of too many digits (`outcome_documented_iff`): they are refused before their
value is looked at, where any other text that is no unsigned 64-bit integer counts as absent or, for
the network, as a failed verification.
-/

namespace SignedSetup.Setup

/-! ## Numerals -/

/-- A text spells a number in ASCII digits, after at most one plus sign. -/
structure IsNumeral (t digits : Text) : Prop where
  spelled : t = digits ∨ t = CodePoint.ofChar '+' :: digits
  ne_nil : digits ≠ []
  isDigit : ∀ c ∈ digits, Decimal.isDigit c = true

/-- What is left of a text when a plus sign at its beginning is taken off. -/
def dropPlus (t : Text) : Text :=
  match t with
  | [] => t
  | c :: rest => if c = '+' then rest else t

theorem dropPlus_of_isDigit {t : Text} (h : ∀ c ∈ t, Decimal.isDigit c = true) :
    dropPlus t = t := by
  cases t with
  | nil => rfl
  | cons c rest =>
    have hne : c ≠ CodePoint.ofChar '+' := by
      rintro rfl
      cases h _ List.mem_cons_self
    rw [dropPlus, if_neg hne]

theorem isNumeral_iff {t digits : Text} :
    IsNumeral t digits ↔
      digits = dropPlus t ∧ (digits.isEmpty || !digits.all Decimal.isDigit) = false := by
  rw [Bool.or_eq_false_iff, Bool.not_eq_false', List.all_eq_true, List.isEmpty_eq_false_iff]
  constructor
  · rintro ⟨rfl | rfl, hne, hdigits⟩
    · exact ⟨(dropPlus_of_isDigit hdigits).symm, hne, hdigits⟩
    · exact ⟨rfl, hne, hdigits⟩
  · rintro ⟨hdrop, hne, hdigits⟩
    refine ⟨?_, hne, hdigits⟩
    rw [hdrop]
    cases t with
    | nil => exact .inl rfl
    | cons c rest =>
      by_cases hc : c = CodePoint.ofChar '+'
      · rw [dropPlus, if_pos hc, hc]
        exact .inr rfl
      · rw [dropPlus, if_neg hc]
        exact .inl rfl

theorem unsigned?_eq (t : Text) :
    unsigned? t =
      if (dropPlus t).isEmpty || !(dropPlus t).all Decimal.isDigit then .ok none
      else (Decimal.read (dropPlus t)).map fun n => if n ≤ maxUnsigned then some n else none := rfl

theorem unsigned?_of_isNumeral {t digits : Text} (h : IsNumeral t digits) :
    unsigned? t =
      (Decimal.read digits).map fun n => if n ≤ maxUnsigned then some n else none := by
  obtain ⟨rfl, hdigits⟩ := isNumeral_iff.1 h
  rw [unsigned?_eq, hdigits, if_neg Bool.false_ne_true]

theorem unsigned?_of_not_isNumeral {t : Text} (h : ¬ ∃ digits, IsNumeral t digits) :
    unsigned? t = .ok none := by
  rw [unsigned?_eq, if_pos]
  rw [← Bool.not_eq_false]
  exact fun hdigits => h ⟨dropPlus t, isNumeral_iff.2 ⟨rfl, hdigits⟩⟩

/-- A text is refused iff it is a numeral of too many digits. -/
theorem exists_unsigned?_eq_error_iff (t : Text) :
    (∃ e, unsigned? t = .error e) ↔
      ∃ digits, IsNumeral t digits ∧ Decimal.limit < digits.length := by
  constructor
  · rintro ⟨e, h⟩
    by_cases hnumeral : ∃ digits, IsNumeral t digits
    · obtain ⟨digits, hdigits⟩ := hnumeral
      refine ⟨digits, hdigits, Nat.lt_of_not_le fun hle => ?_⟩
      rw [unsigned?_of_isNumeral hdigits, Decimal.read, if_pos hle] at h
      cases h
    · rw [unsigned?_of_not_isNumeral hnumeral] at h
      cases h
  · rintro ⟨digits, hdigits, hlong⟩
    rw [unsigned?_of_isNumeral hdigits, Decimal.read, if_neg (Nat.not_le_of_lt hlong)]
    exact ⟨_, rfl⟩

/-- A text is read as a number iff it is a numeral of it that is neither too long nor too great. -/
theorem exists_unsigned?_eq_some_iff (t : Text) :
    (∃ n, unsigned? t = .ok (some n)) ↔
      ∃ digits, IsNumeral t digits ∧ digits.length ≤ Decimal.limit ∧
        Decimal.value digits ≤ maxUnsigned := by
  constructor
  · rintro ⟨n, h⟩
    by_cases hnumeral : ∃ digits, IsNumeral t digits
    · obtain ⟨digits, hdigits⟩ := hnumeral
      rw [unsigned?_of_isNumeral hdigits] at h
      obtain ⟨m, hread, hm⟩ := map_eq_ok h
      rw [Decimal.read] at hread
      split at hread
      · next hlength =>
        obtain rfl := Except.ok.inj hread
        split at hm
        · next hle => exact ⟨digits, hdigits, hlength, hle⟩
        · cases hm
      · cases hread
    · rw [unsigned?_of_not_isNumeral hnumeral] at h
      cases h
  · rintro ⟨digits, hdigits, hlength, hle⟩
    refine ⟨Decimal.value digits, ?_⟩
    rw [unsigned?_of_isNumeral hdigits, Decimal.read, if_pos hlength, Except.map, if_pos hle]

/-! ## Fields -/

/-- The field is a string that is a numeral of too many digits. -/
def IsOverlong (message : List (Text × Json)) (f : ConfigField) : Prop :=
  ∃ t digits, textField? message f.wireName = some t ∧ IsNumeral t digits ∧
    Decimal.limit < digits.length

/-- The field is no string, or spells an unsigned 64-bit integer. -/
def IsUnsignedOrAbsent (message : List (Text × Json)) (f : ConfigField) : Prop :=
  ∀ t, textField? message f.wireName = some t →
    ∃ digits, IsNumeral t digits ∧ digits.length ≤ Decimal.limit ∧
      Decimal.value digits ≤ maxUnsigned

/-- Reading the message meets a numeral of too many digits: that of the network, or that of one of
the other two numbers where the network can be read. -/
def MeetsOverlong (message : List (Text × Json)) : Prop :=
  IsOverlong message .network ∨
    IsUnsignedOrAbsent message .network ∧
      (IsOverlong message .minRollupSize ∨ IsOverlong message .rollupInterval)

theorem exists_number?_eq_error_iff (message : List (Text × Json)) (f : ConfigField) :
    (∃ e, number? message f = .error e) ↔ IsOverlong message f := by
  rw [number?, IsOverlong]
  cases textField? message f.wireName with
  | none => exact iff_of_false (by simp) (by simp)
  | some t =>
    refine (exists_unsigned?_eq_error_iff t).trans ⟨?_, ?_⟩
    · rintro ⟨digits, h⟩
      exact ⟨t, digits, rfl, h⟩
    · rintro ⟨u, digits, hu, h⟩
      exact ⟨digits, Option.some.inj hu ▸ h⟩

theorem exists_networkField_eq_ok_iff (message : List (Text × Json)) :
    (∃ n, networkField message = .ok n) ↔ IsUnsignedOrAbsent message .network := by
  rw [networkField_eq, IsUnsignedOrAbsent]
  cases textField? message ConfigField.network.wireName with
  | none => exact iff_of_true ⟨0, rfl⟩ (by simp)
  | some t =>
    refine Iff.trans ?_ ((exists_unsigned?_eq_some_iff t).trans ⟨?_, fun h => h t rfl⟩)
    · dsimp only
      cases unsigned? t with
      | error e => exact iff_of_false (by simp) (by simp)
      | ok n =>
        cases n with
        | none => exact iff_of_false (by simp) (by simp)
        | some n => exact iff_of_true ⟨n, rfl⟩ ⟨n, rfl⟩
    · intro h u hu
      exact Option.some.inj hu ▸ h

theorem exists_networkField_eq_tooLong_iff (message : List (Text × Json)) :
    (∃ x, networkField message = .error x ∧ x.kind = .number) ↔
      IsOverlong message .network := by
  rw [← exists_number?_eq_error_iff, number?, networkField_eq]
  cases textField? message ConfigField.network.wireName with
  | none => exact iff_of_false (by simp) (by simp)
  | some t =>
    dsimp only
    cases unsigned? t with
    | error e => exact ⟨fun _ => ⟨e, rfl⟩, fun _ => ⟨.tooLong e, rfl, rfl⟩⟩
    | ok n => cases n <;> exact iff_of_false (by simp [ApplicationFault.kind]) (by simp)

/-- A message is refused for a numeral iff reading it meets one of too many digits. -/
theorem reading_eq_number_iff (message : List (Text × Json)) :
    (reading message).mapError ApplicationFault.kind = .error .number ↔ MeetsOverlong message := by
  rw [MeetsOverlong, ← exists_networkField_eq_tooLong_iff, ← exists_networkField_eq_ok_iff,
    ← exists_number?_eq_error_iff, ← exists_number?_eq_error_iff, reading]
  cases networkField message with
  | error x =>
    constructor
    · intro h
      exact .inl ⟨x, rfl, Except.error.inj h⟩
    · rintro (⟨y, hy, hkind⟩ | ⟨⟨n, hn⟩, -⟩)
      · rw [Except.error.inj hy]
        exact congrArg Except.error hkind
      · cases hn
  | ok network =>
    rw [ok_bind]
    cases number? message .minRollupSize with
    | error e => exact ⟨fun _ => .inr ⟨⟨network, rfl⟩, .inl ⟨e, rfl⟩⟩, fun _ => rfl⟩
    | ok minRollupSize =>
      cases number? message .rollupInterval with
      | error e => exact ⟨fun _ => .inr ⟨⟨network, rfl⟩, .inr ⟨e, rfl⟩⟩, fun _ => rfl⟩
      | ok rollupInterval =>
        refine iff_of_false (fun h => ?_) (by simp)
        cases h

/-! ## Attempts -/

theorem outcome_eq_number_iff (payload : Bytes) (signature admin : Text) (current : NodeConfig) :
    outcome payload signature admin current = .error .number ↔
      ∃ request, verify payload signature = .ok request ∧
        Address.ofText? admin = some request.signer ∧ MeetsOverlong request.envelope.message := by
  rw [outcome_eq_error_iff, heard]
  cases verify payload signature with
  | error x => exact iff_of_false (by simp [Except.mapError, ApplicationFault.kind]) (by simp)
  | ok request =>
    dsimp only
    rw [authorized]
    cases haddress : Address.ofText? admin with
    | none => exact iff_of_false (by simp [Except.mapError, ApplicationFault.kind]) (by simp)
    | some address =>
      dsimp only
      by_cases hsigner : address = request.signer
      · rw [if_pos hsigner, reading_eq_number_iff, hsigner]
        constructor
        · intro h
          exact ⟨request, rfl, rfl, h⟩
        · rintro ⟨_, hrequest, -, h⟩
          rwa [Except.ok.inj hrequest]
      · rw [if_neg hsigner]
        refine iff_of_false (by simp [Except.mapError, ApplicationFault.kind]) ?_
        rintro ⟨_, hrequest, hadmin, -⟩
        rw [← Except.ok.inj hrequest] at hadmin
        exact hsigner (Option.some.inj hadmin)

/-- An attempt gives a configuration or fails as a verification or for want of permission, except
where the administrator signed a message that has a numeral of too many digits. -/
theorem outcome_documented_iff (payload : Bytes) (signature admin : Text) (current : NodeConfig) :
    ((∃ config, outcome payload signature admin current = .ok config) ∨
      outcome payload signature admin current = .error .verification ∨
      outcome payload signature admin current = .error .permission) ↔
    ¬ ∃ request, verify payload signature = .ok request ∧
      Address.ofText? admin = some request.signer ∧ MeetsOverlong request.envelope.message := by
  rw [← outcome_eq_number_iff payload signature admin current]
  cases outcome payload signature admin current with
  | ok config => exact iff_of_true (.inl ⟨config, rfl⟩) (by simp)
  | error kind =>
    cases kind with
    | verification => exact iff_of_true (.inr (.inl rfl)) (by simp)
    | permission => exact iff_of_true (.inr (.inr rfl)) (by simp)
    | number =>
      constructor
      · rintro (⟨config, h⟩ | h | h) <;> cases h
      · exact fun h => absurd rfl h

/-- An interval of too many digits, signed by the administrator: the attempt to apply it ends with
none of the other outcomes. -/
theorem outcome_overlongInterval :
    ∃ signature admin, ∀ current,
      ¬ ((∃ config, outcome (Payload.encode (shadowedEnvelope "1" overlongDigits).json) signature
          admin current = .ok config) ∨
        outcome (Payload.encode (shadowedEnvelope "1" overlongDigits).json) signature admin
          current = .error .verification ∨
        outcome (Payload.encode (shadowedEnvelope "1" overlongDigits).json) signature admin
          current = .error .permission) := by
  have hscalar : overlongDigits.isScalar = true := by
    rw [Text.isScalar, overlongDigits, List.all_replicate]
    decide
  have hdecode := decode_shadowedEnvelope (by decide : (Text.ofString "1").isScalar = true) hscalar
  have hverify := verify_eq_ok hdecode (digest_shadowedEnvelope "1" overlongDigits)
    signer_shadowedSignature
  have hnetwork : IsUnsignedOrAbsent (shadowedEnvelope "1" overlongDigits).message .network := by
    intro t ht
    obtain rfl : Text.ofString "1" = t := Option.some.inj ht
    have hnumeral : IsNumeral "1" "1" := ⟨.inl rfl, by decide, List.all_eq_true.1 rfl⟩
    exact ⟨"1", hnumeral, by decide, by decide⟩
  have hinterval :
      IsOverlong (shadowedEnvelope "1" overlongDigits).message .rollupInterval := by
    refine ⟨overlongDigits, overlongDigits, rfl, ⟨.inl rfl, List.cons_ne_nil _ _, ?_⟩, ?_⟩
    · intro c hc
      rw [List.eq_of_mem_replicate hc]
      rfl
    · rw [overlongDigits, List.length_replicate]
      exact Nat.lt_succ_self _
  refine ⟨(Signature.ofRaw shadowedSignature).text, "0x" ++ Hex.ofBytes sampleKey.address.bytes,
    fun current h => ?_⟩
  exact (outcome_documented_iff _ _ _ current).1 h
    ⟨_, hverify, Address.ofText?_ofBytes sampleKey.address, .inr ⟨hnetwork, .inr hinterval⟩⟩

end SignedSetup.Setup
