import SignedSetup.Proofs.Account.AddressSpelling
import SignedSetup.Proofs.Setup.Sources
import SignedSetup.Proofs.Setup.UnsignedFields

/-!
# What becomes of a verified request

A request whose signer is known is decided in stages: the administrator's address must be one, it
must be the signer's, and the network must not be a string that is no number. Then the request is
applied. The stages exclude each other, so that the decision is one result (`result_apply_iff`), and
the log tells which one it was (`tells_apply`). How the administrator's address is spelled makes no
difference (`apply_spelling`).
-/

namespace SignedSetup.Setup

/-! ## Decisions -/

/-- A configuration has what a message gives, and what the current one has where it gives nothing.
The network that a message does not name is zero. -/
structure Configures (message : List (Text × Json)) (current config : NodeConfig) : Prop where
  network : (textField? message ConfigField.network.wireName = none ∧ config.networkId = 0) ∨
    ∃ t, textField? message ConfigField.network.wireName = some t ∧ IsUnsigned t config.networkId
  minRollupSize : Takes id (textField? message ConfigField.minRollupSize.wireName)
    current.minRollupSize config.minRollupSize
  rollupInterval : Takes id (textField? message ConfigField.rollupInterval.wireName)
    current.rollupInterval config.rollupInterval
  evmNodeUrl : config.evmNodeUrl =
    (textField? message ConfigField.evmNodeRpc.wireName).getD current.evmNodeUrl
  arNodeUrl : config.arNodeUrl =
    (textField? message ConfigField.arNodeUrl.wireName).getD current.arNodeUrl

/-- How a verified request is decided, stage by stage. -/
inductive Decides (request : Verified) (admin : Text) (current : NodeConfig) :
    Except ApplicationFault NodeConfig → Prop where
  | badAdmin : (¬ ∃ digits, Address.Spells admin digits) →
      Decides request admin current (.error (.badAdmin admin))
  | notAdmin {a : Address} : a.IsSpelled admin → a ≠ request.signer →
      Decides request admin current (.error (.notAdmin request.signer))
  | badNetwork {t : Text} : request.signer.IsSpelled admin →
      textField? request.envelope.message ConfigField.network.wireName = some t →
      (∀ n, ¬ IsUnsigned t n) → Decides request admin current (.error (.badNetwork t))
  | applied {config : NodeConfig} : request.signer.IsSpelled admin →
      Configures request.envelope.message current config →
      Decides request admin current (.ok config)

section Decision

variable {message : List (Text × Json)} {request : Verified} {admin : Text}
  {current config config' : NodeConfig}

theorem Configures.unique (h : Configures message current config)
    (h' : Configures message current config') : config = config' := by
  have hnetwork : config.networkId = config'.networkId := by
    rcases h.network with ⟨hnone, hzero⟩ | ⟨t, ht, hn⟩
    · rcases h'.network with ⟨-, hzero'⟩ | ⟨t', ht', -⟩
      · rw [hzero, hzero']
      · cases hnone.symm.trans ht'
    · rcases h'.network with ⟨hnone, -⟩ | ⟨t', ht', hn'⟩
      · cases hnone.symm.trans ht
      · obtain rfl := Option.some.inj (ht.symm.trans ht')
        exact hn.unique hn'
  obtain ⟨-, hminRollupSize, hrollupInterval, hevmNodeUrl, harNodeUrl⟩ := h
  obtain ⟨-, hminRollupSize', hrollupInterval', hevmNodeUrl', harNodeUrl'⟩ := h'
  cases config
  cases config'
  congr 1
  · exact hminRollupSize.unique hminRollupSize'
  · exact hrollupInterval.unique hrollupInterval'
  · exact hevmNodeUrl.trans hevmNodeUrl'.symm
  · exact harNodeUrl.trans harNodeUrl'.symm

/-- A network that can be read is none that cannot. -/
theorem Configures.not_badNetwork {t : Text} (h : Configures message current config)
    (ht : textField? message ConfigField.network.wireName = some t)
    (hnone : ∀ n, ¬ IsUnsigned t n) : False := by
  rcases h.network with ⟨hfield, -⟩ | ⟨u, hu, hn⟩
  · cases hfield.symm.trans ht
  · obtain rfl := Option.some.inj (hu.symm.trans ht)
    exact hnone _ hn

/-- A request is decided in one way only. -/
theorem Decides.unique {r r' : Except ApplicationFault NodeConfig}
    (h : Decides request admin current r) (h' : Decides request admin current r') : r = r' := by
  cases h with
  | badAdmin hnot =>
    cases h' with
    | badAdmin => rfl
    | notAdmin hspelled | badNetwork hspelled | applied hspelled =>
      exact absurd hspelled.exists_spells hnot
  | notAdmin hspelled hne =>
    cases h' with
    | badAdmin hnot => exact absurd hspelled.exists_spells hnot
    | notAdmin => rfl
    | badNetwork hsigner | applied hsigner => exact absurd (hspelled.unique hsigner) hne
  | badNetwork hspelled ht hnone =>
    cases h' with
    | badAdmin hnot => exact absurd hspelled.exists_spells hnot
    | notAdmin hother hne => exact absurd (hother.unique hspelled) hne
    | badNetwork _ ht' => rw [Option.some.inj (ht.symm.trans ht')]
    | applied _ hconfig => exact (hconfig.not_badNetwork ht hnone).elim
  | applied hspelled hconfig =>
    cases h' with
    | badAdmin hnot => exact absurd hspelled.exists_spells hnot
    | notAdmin hother hne => exact absurd (hother.unique hspelled) hne
    | badNetwork _ ht hnone => exact (hconfig.not_badNetwork ht hnone).elim
    | applied _ hconfig' => rw [hconfig.unique hconfig']

/-- No field of a configuration is a numeral of too many digits. -/
def IsShort (message : List (Text × Json)) : Prop :=
  ∀ (f : ConfigField) t count, textField? message f.wireName = some t → ¬ IsTooLong t count

theorem unsignedField_of_isShort (h : IsShort message) (f : ConfigField) (default : Nat) :
    ∃ n, Takes id (textField? message f.wireName) default n ∧
      unsignedField id message f.wireName default = .ok n := by
  rcases unsignedField_cases id message f.wireName default with
    ⟨t, count, ht, hlong, -⟩ | ⟨-, n, htakes, hn⟩
  · exact absurd hlong (h f t count ht)
  · exact ⟨n, htakes, hn⟩

/-- The network is the number that the message spells, or zero, or it is refused. -/
theorem networkField_cases (h : IsShort message) :
    (∃ n, networkField message = .ok n ∧
      ((textField? message ConfigField.network.wireName = none ∧ n = 0) ∨
        ∃ t, textField? message ConfigField.network.wireName = some t ∧ IsUnsigned t n)) ∨
    ∃ t, networkField message = .error (.badNetwork t) ∧
      textField? message ConfigField.network.wireName = some t ∧ ∀ n, ¬ IsUnsigned t n := by
  have hshort := h .network
  rw [networkField_eq]
  cases hfield : textField? message ConfigField.network.wireName with
  | none => exact .inl ⟨0, rfl, .inl ⟨rfl, rfl⟩⟩
  | some t =>
    dsimp only
    rcases unsigned?_cases t with ⟨count, hlong, -⟩ | ⟨-, ⟨n, hn, hread⟩ | ⟨hnone, hread⟩⟩
    · exact absurd hlong (hshort t count hfield)
    · rw [hread]
      exact .inl ⟨n, rfl, .inr ⟨t, rfl, hn⟩⟩
    · rw [hread]
      exact .inr ⟨t, rfl, rfl, hnone⟩

theorem configOf_cases (h : IsShort message) (current : NodeConfig) :
    (∃ config, configOf message current = .ok config ∧ Configures message current config) ∨
      ∃ t, configOf message current = .error (.badNetwork t) ∧
        textField? message ConfigField.network.wireName = some t ∧ ∀ n, ¬ IsUnsigned t n := by
  obtain ⟨minRollupSize, hminRollupSize, hreadSize⟩ :=
    unsignedField_of_isShort h .minRollupSize current.minRollupSize
  obtain ⟨rollupInterval, hrollupInterval, hreadInterval⟩ :=
    unsignedField_of_isShort h .rollupInterval current.rollupInterval
  rw [configOf, hreadSize, hreadInterval]
  rcases networkField_cases h with ⟨n, hread, hnetwork⟩ | ⟨t, hread, hnetwork⟩
  · rw [hread]
    exact .inl ⟨_, rfl, hnetwork, hminRollupSize, hrollupInterval, rfl, rfl⟩
  · rw [hread]
    exact .inr ⟨t, rfl, hnetwork⟩

theorem decides_applyVerified (h : IsShort request.envelope.message) (admin : Text)
    (current : NodeConfig) :
    Decides request admin current (applyVerified request admin current).result := by
  rw [applyVerified]
  cases haddress : Address.ofText? admin with
  | none => exact .badAdmin (Address.ofText?_eq_none_iff.1 haddress)
  | some a =>
    have hspelled : a.IsSpelled admin := Address.ofText?_eq_some_iff.1 haddress
    dsimp only
    split
    · next hsigner =>
      rw [hsigner] at hspelled
      rcases configOf_cases h current with ⟨config, hread, hconfig⟩ | ⟨t, hread, ht, hnone⟩
      · rw [hread]
        exact .applied hspelled hconfig
      · rw [hread]
        exact .badNetwork hspelled ht hnone
    · next hne => exact .notAdmin hspelled hne

/-! ## Events -/

/-- How often an attempt logs an event of a name. -/
def Attempt.count (attempt : Attempt) (name : Text) : Nat :=
  (attempt.events.map ApplicationEvent.logged).countP fun event => event.name = name

/-- The log tells how an attempt ended. -/
structure Tells (attempt : Attempt) : Prop where
  applied (config : NodeConfig) : attempt.result = .ok config →
    attempt.count "setup_verifier.applied" = 1 ∧ attempt.count "setup_verifier.not_admin" = 0
  notAdmin (signer : Address) : attempt.result = .error (.notAdmin signer) →
    attempt.count "setup_verifier.applied" = 0 ∧ attempt.count "setup_verifier.not_admin" = 1
  failed (e : ApplicationFault) : attempt.result = .error e → (∀ signer, e ≠ .notAdmin signer) →
    attempt.count "setup_verifier.applied" = 0 ∧ attempt.count "setup_verifier.not_admin" = 0

/-- The faults of reading a message, whoever signed it. -/
def ApplicationFault.IsReading : ApplicationFault → Prop
  | .badNetwork _ | .tooLong _ => True
  | .verification _ | .badAdmin _ | .notAdmin _ => False

theorem isReading_of_networkField {e : ApplicationFault} (h : networkField message = .error e) :
    e.IsReading := by
  rw [networkField_eq] at h
  split at h
  · cases h
  · split at h
    · obtain rfl := Except.error.inj h
      trivial
    · obtain rfl := Except.error.inj h
      trivial
    · cases h

theorem isReading_of_configOf {e : ApplicationFault} (h : configOf message current = .error e) :
    e.IsReading := by
  rw [configOf] at h
  cases hread : networkField message with
  | error fault =>
    rw [hread] at h
    have heq : fault = e := Except.error.inj h
    exact heq ▸ isReading_of_networkField hread
  | ok network =>
    rw [hread, ok_bind] at h
    cases hsize : unsignedField id message ConfigField.minRollupSize.wireName
        current.minRollupSize with
    | error x =>
      rw [hsize] at h
      have heq : ApplicationFault.tooLong x = e := Except.error.inj h
      exact heq ▸ trivial
    | ok minRollupSize =>
      rw [hsize] at h
      cases hinterval : unsignedField id message ConfigField.rollupInterval.wireName
          current.rollupInterval with
      | error x =>
        rw [hinterval] at h
        have heq : ApplicationFault.tooLong x = e := Except.error.inj h
        exact heq ▸ trivial
      | ok rollupInterval =>
        rw [hinterval] at h
        cases h

section Tells

variable {attempt : Attempt}

theorem Tells.of_ok (h : attempt.result = .ok config)
    (hcount : attempt.count "setup_verifier.applied" = 1 ∧
      attempt.count "setup_verifier.not_admin" = 0) : Tells attempt := by
  refine ⟨fun _ _ => hcount, fun signer herror => ?_, fun e herror => ?_⟩
  · cases h.symm.trans herror
  · cases h.symm.trans herror

theorem Tells.of_notAdmin {signer : Address} (h : attempt.result = .error (.notAdmin signer))
    (hcount : attempt.count "setup_verifier.applied" = 0 ∧
      attempt.count "setup_verifier.not_admin" = 1) : Tells attempt := by
  refine ⟨fun config hok => ?_, fun _ _ => hcount, fun e herror hne => ?_⟩
  · cases h.symm.trans hok
  · exact absurd (Except.error.inj (herror.symm.trans h)) (hne signer)

theorem Tells.of_error {e : ApplicationFault} (h : attempt.result = .error e)
    (hne : ∀ signer, e ≠ .notAdmin signer)
    (hcount : attempt.count "setup_verifier.applied" = 0 ∧
      attempt.count "setup_verifier.not_admin" = 0) : Tells attempt := by
  refine ⟨fun config hok => ?_, fun signer herror => ?_, fun _ _ _ => hcount⟩
  · cases h.symm.trans hok
  · exact absurd (Except.error.inj (h.symm.trans herror)) (hne signer)

end Tells

theorem tells_apply (payload : Bytes) (signature admin : Text) (current : NodeConfig) :
    Tells (apply payload signature admin current) := by
  rw [apply]
  cases verify payload signature with
  | error e => exact .of_error rfl (fun _ h => by cases h) ⟨rfl, rfl⟩
  | ok request =>
    dsimp only
    rw [applyVerified]
    cases Address.ofText? admin with
    | none => exact .of_error rfl (fun _ h => by cases h) ⟨rfl, rfl⟩
    | some a =>
      dsimp only
      split
      · cases hread : configOf request.envelope.message current with
        | ok config => exact .of_ok rfl ⟨rfl, rfl⟩
        | error e =>
          refine .of_error rfl (fun signer h => ?_) ⟨rfl, rfl⟩
          rw [h] at hread
          exact (isReading_of_configOf hread).elim
      · exact .of_notAdmin rfl ⟨rfl, rfl⟩

end Decision

/-- A verified request without numerals of too many digits is decided by its stages, and the log
tells how. -/
theorem result_apply_iff {payload : Bytes} {signature : Text} {request : Verified}
    (hverify : verify payload signature = .ok request) (hshort : IsShort request.envelope.message)
    (admin : Text) (current : NodeConfig) :
    (∀ result, (apply payload signature admin current).result = result ↔
      Decides request admin current result) ∧
    Tells (apply payload signature admin current) := by
  have hdecides : Decides request admin current (apply payload signature admin current).result := by
    rw [apply, hverify]
    exact decides_applyVerified hshort admin current
  refine ⟨fun result => ⟨?_, hdecides.unique⟩, tells_apply payload signature admin current⟩
  rintro rfl
  exact hdecides

theorem isNumeral_one : IsNumeral "1" "1" := ⟨.inl rfl, by decide, List.all_eq_true.1 rfl⟩

/-- The sample configuration is applied for an administrator with the sample key. -/
theorem result_apply_iff_sampleConfig :
    verify sampleConfigPayload sampleConfigText =
        .ok ⟨sampleKey.address, envelope sampleConfig.message⟩ ∧
      IsShort sampleConfig.message ∧
      (apply sampleConfigPayload sampleConfigText (Hex.prefixed sampleKey.address.bytes)
        ⟨0, 0, 0, [], []⟩).result = .ok ⟨1, 1, 1, "1", "1"⟩ := by
  have hfield (f : ConfigField) :
      textField? sampleConfig.message f.wireName = some (Text.ofString "1") := by
    rw [textField?, lookup_message]
    rfl
  have hshort : IsShort sampleConfig.message := by
    intro f t count ht hlong
    rw [hfield] at ht
    rw [← Option.some.inj ht, isNumeral_one.isTooLong_iff] at hlong
    obtain ⟨rfl, hlong⟩ := hlong
    exact absurd hlong (by decide)
  have hone : IsUnsigned "1" 1 := isNumeral_one.isUnsigned_iff.2 ⟨by decide, by decide⟩
  have hspelled : sampleKey.address.IsSpelled (Hex.prefixed sampleKey.address.bytes) :=
    Address.ofText?_eq_some_iff.1 (Address.ofText?_ofBytes _)
  have hconfig : Configures sampleConfig.message ⟨0, 0, 0, [], []⟩ ⟨1, 1, 1, "1", "1"⟩ := by
    refine ⟨.inr ⟨_, hfield _, hone⟩, ?_, ?_, ?_, ?_⟩
    · exact .inl ⟨_, 1, hfield _, hone, rfl⟩
    · exact .inl ⟨_, 1, hfield _, hone, rfl⟩
    · rw [hfield]
      rfl
    · rw [hfield]
      rfl
  refine ⟨verify_sampleConfig, hshort, ?_⟩
  exact ((result_apply_iff verify_sampleConfig hshort _ _).1 _).2 (.applied hspelled hconfig)

/-! ## Spellings of the administrator's address -/

section Spelling

variable {payload : Bytes} {signature admin admin' digits digits' : Text} {current : NodeConfig}

/-- A verified request is refused for the administrator's address iff nothing is spelled by it. -/
theorem result_apply_eq_badAdmin_iff :
    (∃ e, (apply payload signature admin current).result = .error (.badAdmin e)) ↔
      (∃ request, verify payload signature = .ok request) ∧
        ¬ ∃ digits, Address.Spells admin digits := by
  rw [apply]
  cases verify payload signature with
  | error x =>
    refine iff_of_false ?_ ?_
    · rintro ⟨e, h⟩
      cases h
    · rintro ⟨⟨request, h⟩, -⟩
      cases h
  | ok request =>
    rw [← Address.ofText?_eq_none_iff]
    dsimp only
    rw [applyVerified]
    cases Address.ofText? admin with
    | none => exact iff_of_true ⟨admin, rfl⟩ ⟨⟨request, rfl⟩, rfl⟩
    | some a =>
      refine iff_of_false ?_ fun h => Option.some_ne_none a h.2
      rintro ⟨e, h⟩
      dsimp only at h
      split at h
      · split at h
        · cases h
        · next fault hread =>
          obtain rfl : fault = .badAdmin e := Except.error.inj h
          exact (isReading_of_configOf hread).elim
      · cases h

/-- Spellings with the same digits up to case lead to the same attempt, events included. -/
theorem apply_congr_of_spells (h : Address.Spells admin digits) (h' : Address.Spells admin' digits')
    (heq : digits.lower = digits'.lower) :
    apply payload signature admin current = apply payload signature admin' current := by
  obtain ⟨a, -, ha⟩ := h.exists_ofText?
  have ha' : Address.ofText? admin' = some a := Address.ofText?_congr h h' heq ▸ ha
  rw [apply, apply]
  cases verify payload signature with
  | error x => rfl
  | ok request =>
    dsimp only
    rw [applyVerified, applyVerified, ha, ha']

/-- A request is applied only where the administrator's address spells its signer. -/
theorem isSpelled_of_apply {config : NodeConfig}
    (h : (apply payload signature admin current).result = .ok config) :
    ∃ request, verify payload signature = .ok request ∧ request.signer.IsSpelled admin := by
  rw [result_apply] at h
  obtain ⟨r, hheard, -⟩ := map_eq_ok h
  rw [heard] at hheard
  split at hheard
  · cases hheard
  · next request hverify =>
    exact ⟨request, hverify, Address.ofText?_eq_some_iff.1 (authorized_eq_ok hheard).1⟩

end Spelling

/-- What spells an address is accepted, however it is spelled, and what is accepted is decided by
its digits up to case. A request is applied only if these are the digits of its signer. -/
theorem apply_spelling (payload : Bytes) (signature : Text) (current : NodeConfig) :
    (∀ admin, (∃ e, (apply payload signature admin current).result = .error (.badAdmin e)) ↔
      (∃ request, verify payload signature = .ok request) ∧
        ¬ ∃ digits, Address.Spells admin digits) ∧
    (∀ admin admin' digits digits', Address.Spells admin digits → Address.Spells admin' digits' →
      digits.lower = digits'.lower →
      apply payload signature admin current = apply payload signature admin' current) ∧
    ∀ admin config, (apply payload signature admin current).result = .ok config →
      ∃ request digits, verify payload signature = .ok request ∧ Address.Spells admin digits ∧
        digits.lower = Hex.ofBytes request.signer.bytes := by
  refine ⟨fun admin => result_apply_eq_badAdmin_iff,
    fun admin admin' digits digits' h h' heq => apply_congr_of_spells h h' heq,
    fun admin config h => ?_⟩
  obtain ⟨request, hverify, digits, hspells, hlower⟩ := isSpelled_of_apply h
  exact ⟨request, digits, hverify, hspells, hlower⟩

/-- The sample configuration is applied as well where the administrator's address is spelled with a
checksum. -/
theorem apply_spelling_sampleConfig :
    (apply sampleConfigPayload sampleConfigText sampleKey.address.checksummed
      ⟨0, 0, 0, [], []⟩).result = .ok ⟨1, 1, 1, "1", "1"⟩ := by
  obtain ⟨digits, hspells, hlower⟩ :=
    Address.ofText?_eq_some_iff.1 (Address.ofText?_checksummed sampleKey.address)
  obtain ⟨digits', hspells', hlower'⟩ :=
    Address.ofText?_eq_some_iff.1 (Address.ofText?_ofBytes sampleKey.address)
  rw [(apply_spelling sampleConfigPayload sampleConfigText ⟨0, 0, 0, [], []⟩).2.1 _ _ _ _ hspells
    hspells' (hlower.trans hlower'.symm)]
  exact result_apply_sampleConfig ⟨0, 0, 0, [], []⟩

end SignedSetup.Setup
