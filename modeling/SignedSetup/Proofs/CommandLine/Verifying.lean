import SignedSetup.Proofs.CommandLine.Arguments
import SignedSetup.Proofs.CommandLine.Runs
import SignedSetup.Proofs.Settings.Printable
import SignedSetup.Proofs.Setup.Application
import SignedSetup.Proofs.Setup.Sources
import SignedSetup.Proofs.Setup.Verification

/-!
# Verifying on the command line

The command that verifies does what the node does. Without an administrator it recovers the signer
of a request and prints the message; with one it applies the request and prints the configuration
(`run_verify`). What it prints is read back as what was recovered or applied. A configuration with
an integer of too many digits could not be printed, but settings that were loaded hold none.

An administrator that is named in the arguments is held against the request unless the name is empty
or a separator: then no check is made, whatever the settings say (`returned_zero_iff_of_admin`).
-/

namespace SignedSetup.CommandLine

/-! ## What is printed of a request -/

/-- The octets that an argument gives for a payload, in hexadecimal with or without a prefix. -/
def payloadOf (argument : Text) : Except Hex.Fault Bytes :=
  Hex.read ((Text.dropWord? "0x" argument).getD argument)

theorem payloadOf_prefixed (octets : Bytes) : payloadOf (Hex.prefixed octets) = .ok octets :=
  Hex.read_ofBytes octets

theorem head?_prefixed (octets : Bytes) :
    (Hex.prefixed octets).head? ≠ some (CodePoint.ofChar '-') :=
  show some (CodePoint.ofChar '0') ≠ some (CodePoint.ofChar '-') by decide

/-- The result that names the signer of a request and its message. -/
def recoveredResult (request : Setup.Verified) : List (Text × Json) :=
  [("address", .text request.signer.checksummed), ("message", .obj request.envelope.message)]

/-- The result that names an administrator and the configuration that was applied. -/
def appliedResult (admin : Text) (config : NodeConfig) : List (Text × Json) :=
  [("admin", .text admin), ("applied", config.json)]

/-- The arguments give a request, and the output is its signer and its message. -/
def IsRecovered (signature payload output : Text) : Prop :=
  ∃ octets request, payloadOf payload = .ok octets ∧ Setup.verify octets signature = .ok request ∧
    Run.Prints (recoveredResult request) output

/-- The arguments give a request that the administrator signed, and the output is the configuration
that it makes of the settings' own. -/
def IsChecked (settings : Settings.Source) (signature payload admin output : Text) : Prop :=
  ∃ octets request defaults config, payloadOf payload = .ok octets ∧
    Setup.verify octets signature = .ok request ∧ Address.ofText? admin = some request.signer ∧
    Settings.nodeConfigOf settings = .ok defaults ∧
    (Setup.apply octets signature admin defaults).result = .ok config ∧
    Run.Prints (appliedResult admin config) output

/-- A request that is applied verifies with the administrator's address, and is read. -/
theorem exists_verified_of_apply {payload : Bytes} {signature admin : Text}
    {current config : NodeConfig}
    (h : (Setup.apply payload signature admin current).result = .ok config) :
    ∃ request r, Setup.verify payload signature = .ok request ∧
      Address.ofText? admin = some request.signer ∧
      Setup.reading request.envelope.message = .ok r ∧ config = r.applyTo current := by
  rw [Setup.result_apply] at h
  obtain ⟨r, hheard, rfl⟩ := map_eq_ok h
  unfold Setup.heard at hheard
  split at hheard
  · cases hheard
  · next request hverify =>
    obtain ⟨hadmin, hreading⟩ := Setup.authorized_eq_ok hheard
    exact ⟨request, r, hverify, hadmin, hreading, rfl⟩

/-- Neither the empty text nor a separator is an address. -/
theorem not_isChecked {settings : Settings.Source} {signature payload admin output : Text}
    (h : admin = [] ∨ admin = "--") : ¬ IsChecked settings signature payload admin output := by
  rintro ⟨octets, request, defaults, config, -, -, haddress, -⟩
  rcases h with rfl | rfl <;> cases haddress

/-! ## Results that can be printed -/

theorem isPrintable_recoveredResult {payload : Bytes} {signature : Text}
    {request : Setup.Verified} (h : Setup.verify payload signature = .ok request) :
    (Json.obj (recoveredResult request)).IsPrintable := by
  obtain ⟨-, hdecode, -, -⟩ := Setup.recover_of_verify h
  have haddress : (Json.text request.signer.checksummed).IsPrintable :=
    Json.isPrintable_text (Text.isUnpaired_of_isScalar (isScalar_checksummed _))
  have hmessage : (Json.obj request.envelope.message).IsPrintable :=
    (Payload.isPrintable_of_decode hdecode).of_lookup request.envelope.lookup_message
  have hkeys : Entries.keys (recoveredResult request) = ["address", "message"] := rfl
  refine Json.isPrintable_obj (by rw [hkeys]; rfl) (by rw [hkeys]; decide) ?_
  exact List.forall_mem_cons.2 ⟨haddress, List.forall_mem_cons.2 ⟨hmessage, nofun⟩⟩

theorem isReadable_appliedResult (admin : Text) (config : NodeConfig) :
    (Json.obj (appliedResult admin config)).isReadable = config.json.isReadable := by
  simp only [appliedResult, Json.isReadable, Json.all, Json.allMembers, Json.isReadableNode,
    Bool.true_and, Bool.and_true]

section Runs

variable {settings : Settings.Source} {read : FileReader}

theorem runRecover_eq {payload : Bytes} {signature : Text} {request : Setup.Verified}
    (h : Setup.verify payload signature = .ok request) :
    runRecover payload signature =
      Run.after [(Setup.ApplicationEvent.recovered request.signer).logged]
        (.printed (recoveredResult request)) := by
  simp only [runRecover, h, recoveredResult]

theorem prints_runRecover {payload : Bytes} {signature : Text} {request : Setup.Verified}
    (h : Setup.verify payload signature = .ok request) :
    Run.Prints (recoveredResult request) (runRecover payload signature).output := by
  rw [runRecover_eq h, Run.output_after]
  exact Run.prints_of_isReadable (isPrintable_recoveredResult h).readable

theorem returned_zero_runRecover_iff (payload : Bytes) (signature : Text) :
    (runRecover payload signature).status = .returned 0 ↔
      ∃ request, Setup.verify payload signature = .ok request := by
  cases hverify : Setup.verify payload signature with
  | ok request =>
    rw [runRecover_eq hverify, Run.status_after, Run.status_printed_iff]
    exact ⟨fun _ => ⟨request, rfl⟩, fun _ => (isPrintable_recoveredResult hverify).readable⟩
  | error e =>
    refine ⟨fun h => ?_, fun ⟨_, h⟩ => nomatch h⟩
    simp only [runRecover, hverify] at h
    cases h

theorem runApply_eq {defaults config : NodeConfig} {payload : Bytes} {signature admin : Text}
    (h : (Setup.apply payload signature admin defaults).result = .ok config) :
    runApply defaults payload signature admin =
      Run.after ((Setup.apply payload signature admin defaults).events.map
        Setup.ApplicationEvent.logged) (.printed (appliedResult admin config)) := by
  simp only [runApply, h, appliedResult]

theorem prints_runApply {defaults config : NodeConfig} {payload : Bytes} {signature admin : Text}
    (h : (Setup.apply payload signature admin defaults).result = .ok config)
    (hconfig : config.json.isReadable = true) :
    Run.Prints (appliedResult admin config)
      (runApply defaults payload signature admin).output := by
  rw [runApply_eq h, Run.output_after]
  exact Run.prints_of_isReadable ((isReadable_appliedResult admin config).trans hconfig)

theorem returned_zero_runApply_iff (defaults : NodeConfig) (payload : Bytes)
    (signature admin : Text) :
    (runApply defaults payload signature admin).status = .returned 0 ↔
      ∃ config, (Setup.apply payload signature admin defaults).result = .ok config ∧
        config.json.isReadable = true := by
  cases hresult : (Setup.apply payload signature admin defaults).result with
  | ok config =>
    rw [runApply_eq hresult, Run.status_after, Run.status_printed_iff, isReadable_appliedResult]
    constructor
    · exact fun h => ⟨config, rfl, h⟩
    · rintro ⟨config', hconfig, h⟩
      exact Except.ok.inj hconfig ▸ h
  | error e =>
    refine ⟨fun h => ?_, fun ⟨_, h, _⟩ => nomatch h⟩
    simp only [runApply, hresult] at h
    split at h
    · next hok => cases hok
    · cases h
    · cases h

/-- A run that verifies and returns zero has a signature and a payload. -/
theorem exists_of_returned_zero {signature payload : Option Text} {admin : Option (Option Text)}
    (h : (runVerify settings signature payload admin).status = .returned 0) :
    (∃ s, signature = some s) ∧ ∃ p, payload = some p := by
  unfold runVerify at h
  split at h
  · cases h
  · next p =>
    split at h
    · cases h
    · split at h
      · next s _ _ => exact ⟨⟨s, rfl⟩, p, rfl⟩
      · next s _ => exact ⟨⟨s, rfl⟩, p, rfl⟩
      · split at h <;> cases h

section Payload

variable {signature payload a : Text} {admin : Option (Option Text)} {octets : Bytes}

theorem runVerify_of_error {e : Hex.Fault} (hpayload : payloadOf payload = .error e) :
    runVerify settings (some signature) (some payload) admin =
      .failed ("payload is not hex: " ++ e.message) := by
  replace hpayload : Hex.read ((Text.dropWord? "0x" payload).getD payload) = .error e := hpayload
  simp only [runVerify, hpayload]

theorem runVerify_of_none (hpayload : payloadOf payload = .ok octets)
    (hadmin : effectiveAdmin settings admin = none) :
    runVerify settings (some signature) (some payload) admin = runRecover octets signature := by
  replace hpayload : Hex.read ((Text.dropWord? "0x" payload).getD payload) = .ok octets := hpayload
  simp only [runVerify, hpayload, hadmin]

theorem runVerify_of_some (hpayload : payloadOf payload = .ok octets)
    (hadmin : effectiveAdmin settings admin = some (.text a)) :
    runVerify settings (some signature) (some payload) admin =
      runCheck settings octets signature (.text a) := by
  replace hpayload : Hex.read ((Text.dropWord? "0x" payload).getD payload) = .ok octets := hpayload
  simp only [runVerify, hpayload, hadmin]

theorem runCheck_of_ok {defaults : NodeConfig}
    (hdefaults : Settings.nodeConfigOf settings = .ok defaults) :
    runCheck settings octets signature (.text a) = runApply defaults octets signature a := by
  simp only [runCheck, hdefaults]

theorem runCheck_of_error {issues : List Validation.Issue}
    (hdefaults : Settings.nodeConfigOf settings = .error issues) :
    runCheck settings octets signature (.text a) = .crash (.settings issues) := by
  simp only [runCheck, hdefaults]

/-- Without an administrator the signer is recovered. -/
theorem returned_zero_runVerify_iff_of_none (hadmin : effectiveAdmin settings admin = none) :
    (runVerify settings (some signature) (some payload) admin).status = .returned 0 ↔
      IsRecovered signature payload
        (runVerify settings (some signature) (some payload) admin).output := by
  cases hpayload : payloadOf payload with
  | error e =>
    rw [runVerify_of_error hpayload]
    exact ⟨nofun, fun ⟨_, _, h, _⟩ => nomatch hpayload.symm.trans h⟩
  | ok octets =>
    rw [runVerify_of_none hpayload hadmin, returned_zero_runRecover_iff]
    constructor
    · rintro ⟨request, hverify⟩
      exact ⟨octets, request, hpayload, hverify, prints_runRecover hverify⟩
    · rintro ⟨octets', request, hoctets, hverify, -⟩
      obtain rfl := Except.ok.inj (hpayload.symm.trans hoctets)
      exact ⟨request, hverify⟩

/-- With an administrator the request is checked. -/
theorem returned_zero_runVerify_iff_of_some
    (hadmin : effectiveAdmin settings admin = some (.text a)) :
    (runVerify settings (some signature) (some payload) admin).status = .returned 0 ↔
      IsChecked settings signature payload a
        (runVerify settings (some signature) (some payload) admin).output := by
  cases hpayload : payloadOf payload with
  | error e =>
    rw [runVerify_of_error hpayload]
    exact ⟨nofun, fun ⟨_, _, _, _, h, _⟩ => nomatch hpayload.symm.trans h⟩
  | ok octets =>
    rw [runVerify_of_some hpayload hadmin]
    cases hdefaults : Settings.nodeConfigOf settings with
    | error issues =>
      rw [runCheck_of_error hdefaults]
      exact ⟨nofun, fun ⟨_, _, _, _, _, _, _, h, _⟩ => nomatch hdefaults.symm.trans h⟩
    | ok defaults =>
      rw [runCheck_of_ok hdefaults, returned_zero_runApply_iff]
      constructor
      · rintro ⟨config, hconfig, hreadable⟩
        obtain ⟨request, -, hverify, haddress, -⟩ := exists_verified_of_apply hconfig
        exact ⟨octets, request, defaults, config, hpayload, hverify, haddress, hdefaults, hconfig,
          prints_runApply hconfig hreadable⟩
      · rintro ⟨octets', _, defaults', config, hoctets, -, -, hdefaults', hconfig, hprints⟩
        obtain rfl := Except.ok.inj (hpayload.symm.trans hoctets)
        obtain rfl := Except.ok.inj (hdefaults.symm.trans hdefaults')
        exact ⟨config, hconfig, (isReadable_appliedResult a config).symm.trans hprints.isReadable⟩

end Payload

theorem run_of_parse {arguments : List Text} {command : Command}
    (h : parse arguments = .ok command) :
    run settings read arguments = runCommand settings read command := by
  rw [run, h]

section Verify

variable {signature : Text} {payload : Bytes} {admin : Option Text}

theorem run_verifyArguments (hsignature : signature.head? ≠ some (CodePoint.ofChar '-'))
    (hadmin : ∀ a ∈ admin, a.head? ≠ some (CodePoint.ofChar '-')) :
    run settings read ("verify" :: verifyArguments signature (Hex.prefixed payload) admin) =
      runVerify settings (some signature) (some (Hex.prefixed payload)) (admin.map some) :=
  run_of_parse (parse_verify hsignature (head?_prefixed payload) hadmin)

/-- With arguments that give no administrator the signer is recovered. -/
theorem run_verifyArguments_of_none (hsignature : signature.head? ≠ some (CodePoint.ofChar '-'))
    (hadmin : ∀ a ∈ admin, a.head? ≠ some (CodePoint.ofChar '-'))
    (hnone : effectiveAdmin settings (admin.map some) = none) :
    run settings read ("verify" :: verifyArguments signature (Hex.prefixed payload) admin) =
      runRecover payload signature := by
  rw [run_verifyArguments hsignature hadmin]
  exact runVerify_of_none (payloadOf_prefixed payload) hnone

end Verify

end Runs

/-! ## An administrator in the arguments -/

theorem effectiveAdmin_given (settings : Settings.Source) {admin : Text} (h : admin ≠ []) :
    effectiveAdmin settings (some (some admin)) = some (.text admin) := by
  cases admin with
  | nil => exact absurd rfl h
  | cons c t => rfl

/-- An administrator whose name is empty or a separator is none, whatever the settings say. -/
theorem effectiveAdmin_withoutSeparator (settings : Settings.Source) (admin : Text) :
    effectiveAdmin settings (some (withoutSeparator [admin])) =
      if admin = [] ∨ admin = "--" then none else some (.text admin) := by
  rw [withoutSeparator_singleton]
  split
  · next h => rw [if_pos (.inr h)]; rfl
  · next hseparator =>
    by_cases hempty : admin = []
    · rw [if_pos (.inl hempty), hempty]
      rfl
    · rw [if_neg (not_or.2 ⟨hempty, hseparator⟩)]
      exact effectiveAdmin_given settings hempty

/-- Where the arguments of the command that verifies name an administrator, the last one that they
name is the one that counts. A run that returns zero has checked the request against it and prints
what was applied, unless the name is empty or a separator: then the run has recovered the signer
only, whoever that is. -/
theorem returned_zero_iff_of_admin (settings : Settings.Source) (read : FileReader)
    {arguments : List Text} {admin : Text} (h : (adminValues arguments).getLast? = some admin) :
    let r := run settings read ("verify" :: arguments)
    (r.status = .returned 0 ↔ ∃ signature payload,
      parse ("verify" :: arguments) =
        .ok (.verify (some signature) (some payload) (some (withoutSeparator [admin]))) ∧
      if admin = [] ∨ admin = "--" then IsRecovered signature payload r.output
      else IsChecked settings signature payload admin r.output) ∧
    (admin = [] ∨ admin = "--" →
      ∀ signature payload, ¬ IsChecked settings signature payload admin r.output) := by
  intro r
  refine ⟨?_, fun hadmin signature payload => not_isChecked hadmin⟩
  -- Which way the run goes is decided by the name alone, as it overrides the settings.
  have hbranch {signature payload : Text} (hrun : r = runVerify settings (some signature)
      (some payload) (some (withoutSeparator [admin]))) :
      r.status = .returned 0 ↔ if admin = [] ∨ admin = "--" then
        IsRecovered signature payload r.output
        else IsChecked settings signature payload admin r.output := by
    have hadmin := effectiveAdmin_withoutSeparator settings admin
    rw [hrun]
    split
    · next hnone =>
      rw [if_pos hnone] at hadmin
      exact returned_zero_runVerify_iff_of_none hadmin
    · next hsome =>
      rw [if_neg hsome] at hadmin
      exact returned_zero_runVerify_iff_of_some hadmin
  constructor
  · intro hstatus
    cases hparse : parse ("verify" :: arguments) with
    | error ending =>
      have hrun : r = _ := show run settings read ("verify" :: arguments) = _ by rw [run, hparse]
      rw [hrun] at hstatus
      cases hstatus
    | ok command =>
      obtain ⟨signature, payload, rfl⟩ := admin_of_parse hparse
      rw [h, Option.map_some] at hparse ⊢
      have hrun : r = _ := run_of_parse hparse
      have hstatus' := hstatus
      rw [hrun] at hstatus'
      obtain ⟨⟨signature, rfl⟩, payload, rfl⟩ := exists_of_returned_zero hstatus'
      exact ⟨signature, payload, rfl, (hbranch hrun).1 hstatus⟩
  · rintro ⟨signature, payload, hparse, hresult⟩
    exact (hbranch (run_of_parse hparse)).2 hresult

section Sample

open Setup

/-- The settings that hold where no source says otherwise. -/
def sampleSettings : Settings.Source := Settings.default.members

/-- A reader of no files. -/
def noFiles : FileReader := fun _ => .error .missing

theorem head?_sampleConfigText : sampleConfigText.head? ≠ some (CodePoint.ofChar '-') :=
  head?_prefixed _

/-- The arguments that give the sample request. -/
abbrev sampleRequest (admin : Option Text) : List Text :=
  verifyArguments sampleConfigText (Hex.prefixed sampleConfigPayload) admin

/-- With an empty administrator a request is let pass that was held against nobody. -/
theorem returned_zero_iff_of_admin_empty :
    (adminValues (sampleRequest (some []))).getLast? = some [] ∧
    (run sampleSettings noFiles ("verify" :: sampleRequest (some []))).status = .returned 0 ∧
    ∀ signature payload, ¬ IsChecked sampleSettings signature payload []
      (run sampleSettings noFiles ("verify" :: sampleRequest (some []))).output := by
  have hempty : ∀ a ∈ some ([] : Text), a.head? ≠ some (CodePoint.ofChar '-') := by
    intro a ha
    rw [← Option.some.inj ha]
    exact nofun
  have hparse := parse_verify head?_sampleConfigText (head?_prefixed sampleConfigPayload) hempty
  have hlast : (adminValues (sampleRequest (some []))).getLast? = some [] := by
    rw [adminValues_verifyArguments head?_sampleConfigText (head?_prefixed sampleConfigPayload)
      hempty]
    rfl
  have hrun : run sampleSettings noFiles ("verify" :: sampleRequest (some [])) =
      runRecover sampleConfigPayload sampleConfigText :=
    run_verifyArguments_of_none head?_sampleConfigText hempty rfl
  obtain ⟨hiff, hunchecked⟩ := returned_zero_iff_of_admin sampleSettings noFiles hlast
  refine ⟨hlast, hiff.2 ⟨_, _, hparse, ?_⟩, hunchecked (.inl rfl)⟩
  rw [if_pos (.inl rfl), hrun]
  exact ⟨sampleConfigPayload, _, payloadOf_prefixed _, verify_sampleConfig,
    prints_runRecover verify_sampleConfig⟩

end Sample

/-! ## The command -/

theorem effectiveAdmin_none {settings : Settings.Source}
    (h : (settings.value "ADMIN_ADDR").isEmpty = true) : effectiveAdmin settings none = none := by
  rw [effectiveAdmin, Option.filter_some, h]
  rfl

section Sample

open Setup

end Sample

end SignedSetup.CommandLine
