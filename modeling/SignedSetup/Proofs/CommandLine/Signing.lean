import SignedSetup.Proofs.CommandLine.Verifying
import SignedSetup.Proofs.Json.LineEnds

/-!
# Signing on the command line

The command that signs reads a configuration from a file and prints a request for it, and what it
prints can be handed to the command that verifies (`run_sign`). A file is fit for that if its octets
are UTF-8 of a JSON text that a configuration is read from; the ends of its lines do not matter. A
configuration with a surrogate has no digest, so it is not signed, and a signer starts only with so
many workers as can be counted.
-/

namespace SignedSetup.CommandLine

open Setup

/-! ## Configurations in files -/

/-- The octets are UTF-8 of a JSON text, and a configuration is read from its value. -/
def IsConfigFile (octets : Bytes) (v : Json) (c : SystemConfig) : Prop :=
  ∃ t, Utf8.decode octets = .ok t ∧ Json.parse t = .ok v ∧ SystemConfig.ofJson v = .ok c

/-- The value that a record gives for a field: under the wire name, or else under the attribute
name. -/
def givenValue (v : Json) (f : ConfigField) : Option Json :=
  let members := v.members?.getD []
  (members.lookup f.wireName).or (members.lookup f.attributeName)

theorem load_eq_ok_iff {read : FileReader} {path : Text} {c : SystemConfig} :
    load read path = .ok c ↔ ∃ octets v, read path = .ok octets ∧ IsConfigFile octets v c := by
  constructor
  · intro h
    obtain ⟨octets, hoctets, h⟩ := bind_eq_ok h
    obtain ⟨t, ht, h⟩ := bind_eq_ok h
    obtain ⟨v, hv, h⟩ := bind_eq_ok h
    exact ⟨octets, v, mapError_eq_ok hoctets, t, mapError_eq_ok ht,
      Json.parse_normalizeNewlines.1 (mapError_eq_ok hv), mapError_eq_ok h⟩
  · rintro ⟨octets, v, hoctets, t, ht, hv, hc⟩
    rw [load, hoctets]
    simp only [Except.mapError, ok_bind, ht, Json.parse_normalizeNewlines.2 hv, hc]

/-- A record gives each field the text that a configuration read from it has. -/
theorem givenValue_of_ofJson {v : Json} {c : SystemConfig} (h : SystemConfig.ofJson v = .ok c)
    (f : ConfigField) : givenValue v f = some (.text (c.value f)) := by
  cases v with
  | obj members =>
    have hfield := field_of_ofMembers h f
    unfold SystemConfig.field at hfield
    show (members.lookup f.wireName).or (members.lookup f.attributeName) = _
    split at hfield
    · next hlookup =>
      rw [hlookup, Validation.eq_text_of_text (mapError_eq_ok hfield)]
      rfl
    · next hnone hlookup =>
      rw [hnone, hlookup, Validation.eq_text_of_text (mapError_eq_ok hfield)]
      rfl
    · cases hfield
  | _ => cases h

/-! ## The signer of a run -/

/-- The result that names a signer and holds a request. -/
def signedResult (key : PrivateKey) (signature : Signature) (payload : Bytes) :
    List (Text × Json) :=
  [("address", .text key.address.checksummed), ("signature", .text signature.text),
    ("payload", .text (Hex.prefixed payload))]

/-- The result of signing can be printed and read. -/
theorem isPrintable_signedResult (key : PrivateKey) (signature : Signature) (payload : Bytes) :
    (Json.obj (signedResult key signature payload)).IsPrintable := by
  have htext {t : Text} (h : t.isScalar = true) : (Json.text t).IsPrintable :=
    Json.isPrintable_text (Text.isUnpaired_of_isScalar h)
  have hsignature : signature.text.isScalar = true := isScalar_prefixed signature.bytes
  have hkeys : Entries.keys (signedResult key signature payload) =
      ["address", "signature", "payload"] := rfl
  refine Json.isPrintable_obj (by rw [hkeys]; rfl) (by rw [hkeys]; decide) ?_
  exact List.forall_mem_cons.2 ⟨htext (isScalar_checksummed _), List.forall_mem_cons.2
    ⟨htext hsignature, List.forall_mem_cons.2 ⟨htext (isScalar_prefixed payload), nofun⟩⟩⟩

section SignWith

variable {key : PrivateKey} {workers : Int} {c : SystemConfig}

/-- A signer that is started and has nothing to log late. -/
def readySigner (key : PrivateKey) (workers : Int) : Signer := ⟨key, .int workers, .ready, []⟩

theorem perform_start (hleast : 1 ≤ workers) (hmost : workers ≤ Signer.mostWorkers) :
    (Signer.new key (.int workers)).perform .start =
      ⟨readySigner key workers, [.started key.address (.int workers)], .started false⟩ := by
  have hstarted : ¬(Signer.new key (.int workers)).started = true := Bool.false_ne_true
  have hworkers : Signer.workersFault? (Signer.new key (.int workers)).maxWorkers = none := by
    show Signer.workersFault? (.int workers) = none
    rw [Signer.workersFault?, if_neg (by omega), if_neg (by omega)]
  show Signer.start _ = _
  rw [Signer.start, if_neg hstarted]
  simp only [hworkers]
  rfl

/-- A configuration that has a digest is signed. -/
theorem signWith_of_digest (hleast : 1 ≤ workers) (hmost : workers ≤ Signer.mostWorkers)
    {digest : Bytes} (h : TypedData.digest (envelope c.message).json = .ok digest) :
    (signWith key (.int workers) c).status = .returned 0 ∧
      Run.Prints (signedResult key (Signature.sign key digest)
        (Payload.encode (envelope c.message).json)) (signWith key (.int workers) c).output := by
  have hgenerate := (result_generate_eq_ok_iff (s := readySigner key workers)
    (message_config c) _).2 ⟨rfl, digest, h, rfl⟩
  have hreadable := (isPrintable_signedResult key (Signature.sign key digest)
    (Payload.encode (envelope c.message).json)).readable
  have hprints := Run.prints_of_isReadable hreadable
  unfold signWith
  simp only [perform_start hleast hmost]
  simp only [Signer.perform, hgenerate, Signer.waited]
  exact ⟨Run.status_printed_iff.2 hreadable, hprints⟩

/-- A configuration whose digest has a fault is not signed: the run ends with the fault that a
worker reports, and nothing is printed. -/
theorem signWith_of_fault (hleast : 1 ≤ workers) (hmost : workers ≤ Signer.mostWorkers)
    {e : TypedData.Fault} (h : TypedData.digest (envelope c.message).json = .error e)
    (hreported : Signer.isUnreported e = false) :
    (signWith key (.int workers) c).status = .crashed (.signer (.typedData e)) ∧
      (signWith key (.int workers) c).output = [] := by
  have hworker : Signer.ofWorker e = .typedData e := by
    rw [Signer.ofWorker, hreported]
    rfl
  have hsign : (readySigner key workers).sign (envelope c.message).json =
      .error (.typedData e) := by
    simp only [Signer.sign, readySigner, PrivateKey.signTypedData, h]
    exact congrArg Except.error hworker
  have hgenerate := result_generate (message_config c) (readySigner key workers)
  unfold signWith
  simp only [perform_start hleast hmost]
  simp only [Signer.perform, hgenerate, hsign]
  exact ⟨rfl, rfl⟩

/-- With more workers than can be counted no signer starts. -/
theorem signWith_of_lt (hmost : Signer.mostWorkers < workers) :
    signWith key (.int workers) c = .crash (.signer .tooManyWorkers) := by
  have hpositive : ¬workers ≤ 0 := by
    have : (0 : Int) < Signer.mostWorkers := by decide
    omega
  have hworkers : Signer.workersFault? (Signer.new key (.int workers)).maxWorkers =
      some .tooManyWorkers := by
    show Signer.workersFault? (.int workers) = some .tooManyWorkers
    rw [Signer.workersFault?, if_neg hpositive, if_pos hmost]
  have hstarted : ¬(Signer.new key (.int workers)).started = true := Bool.false_ne_true
  have hstart : (Signer.new key (.int workers)).perform .start =
      ⟨Signer.new key (.int workers), [], .failed .tooManyWorkers⟩ := by
    show Signer.start _ = _
    rw [Signer.start, if_neg hstarted]
    simp only [hworkers]
  unfold signWith
  simp only [hstart]

end SignWith

/-! ## The command -/

/-- What is empty is no private key. -/
theorem isEmpty_of_ofJson {v : Json} {key : PrivateKey} (h : PrivateKey.ofJson v = .ok key) :
    v.isEmpty = false := by
  cases v with
  | null | float _ | arr _ | obj _ => cases h
  | bool b =>
    cases b with
    | false => cases h
    | true => rfl
  | int n =>
    have hzero : BigEndian.minimal 0 = [0] := by
      rw [BigEndian.minimal]
      rfl
    refine decide_eq_false fun hn => ?_
    replace h : PrivateKey.ofBytes (BigEndian.minimal 0) = .ok key := by rwa [hn] at h
    rw [hzero] at h
    cases h
  | text t =>
    cases t with
    | nil => cases h
    | cons c t => rfl

section Sign

variable {settings : Settings.Source} {read : FileReader} {key : PrivateKey} {workers : Int}
  {name : Text} {c : SystemConfig}

theorem run_sign_of_load (hkey : PrivateKey.ofJson (settings.value "SIGNER_PRIVATE_KEY") = .ok key)
    (hname : name.head? ≠ some (CodePoint.ofChar '-')) (hload : load read (pathOf name) = .ok c) :
    run settings read ["sign", name] =
      signWith key (settings.value "SIGNER_MAX_WORKERS") c := by
  rw [run_of_parse (parse_sign hname), runCommand, runSign, if_neg]
  · simp only [hload, hkey]
  · rw [isEmpty_of_ofJson hkey]
    exact Bool.false_ne_true

theorem run_sign_of_fault (hkey : PrivateKey.ofJson (settings.value "SIGNER_PRIVATE_KEY") = .ok key)
    (hname : name.head? ≠ some (CodePoint.ofChar '-')) {e : LoadFault}
    (hload : load read (pathOf name) = .error e) :
    (run settings read ["sign", name]).status = .returned 1 ∧
      (run settings read ["sign", name]).output = [] := by
  have hrun : run settings read ["sign", name] =
      .failed ("cannot load config " ++ name ++ ": " ++ e.message (pathOf name)) := by
    rw [run_of_parse (parse_sign hname), runCommand, runSign, if_neg]
    · simp only [hload]
    · rw [isEmpty_of_ofJson hkey]
      exact Bool.false_ne_true
  rw [hrun]
  exact ⟨rfl, rfl⟩

/-- The request of a configuration that has a digest is recovered from its arguments. -/
theorem run_verify_signed (read : FileReader)
    (hadmin : (settings.value "ADMIN_ADDR").isEmpty = true) {digest : Bytes}
    (hdigest : TypedData.digest (envelope c.message).json = .ok digest)
    (hrecovers : key.Recovers digest) :
    let r := run settings read ["verify", (Signature.sign key digest).text,
      Hex.prefixed (Payload.encode (envelope c.message).json)]
    r.status = .returned 0 ∧
      Json.parse r.output = .ok (.obj [("address", .text key.address.checksummed),
        ("message", .obj c.message)]) := by
  intro r
  have hverify := verify_signedConfig hdigest hrecovers
  have hsignature : (Signature.sign key digest).text.head? ≠ some (CodePoint.ofChar '-') :=
    head?_prefixed _
  have hrun : r = runRecover (Payload.encode (envelope c.message).json)
      (Signature.sign key digest).text :=
    @run_verifyArguments_of_none settings read _ (Payload.encode (envelope c.message).json) none
      hsignature nofun (effectiveAdmin_none hadmin)
  rw [hrun]
  exact ⟨(returned_zero_runRecover_iff _ _).2 ⟨_, hverify⟩,
    (prints_runRecover hverify).parse (isPrintable_recoveredResult hverify)⟩

end Sign

/-- Signing on the command line and verifying what it prints. With a key, workers that can be
counted and no administrator, the command that signs returns zero iff the file is read as a
configuration without surrogates. A configuration with a surrogate ends the run with the fault of
encoding its first value that holds one, for which the run is not prepared; any other file makes it
return one, and in neither case is anything printed. When it returns zero, its output is read as an
address, a signature and a payload, with which the command that verifies returns zero and prints the
same address and a message: the nine fields in the order in which they are signed, each with the
value that the file gives it. -/
theorem run_sign {settings : Settings.Source} (read : FileReader) {key : PrivateKey}
    {workers : Int} {name : Text}
    (hkey : PrivateKey.ofJson (settings.value "SIGNER_PRIVATE_KEY") = .ok key)
    (hworkers : settings.value "SIGNER_MAX_WORKERS" = .int workers) (hleast : 1 ≤ workers)
    (hmost : workers ≤ Signer.mostWorkers)
    (hadmin : (settings.value "ADMIN_ADDR").isEmpty = true)
    (hname : name.head? ≠ some (CodePoint.ofChar '-')) :
    let r := run settings read ["sign", name]
    (r.status = .returned 0 ↔ ∃ octets v c, read (pathOf name) = .ok octets ∧
      IsConfigFile octets v c ∧ ∀ f, (c.value f).isScalar = true) ∧
    (∀ octets v c, read (pathOf name) = .ok octets → IsConfigFile octets v c →
      (¬∀ f, (c.value f).isScalar = true) → r.output = [] ∧ ∃ before f after e,
        ConfigField.all = before ++ f :: after ∧ (∀ g ∈ before, (c.value g).isScalar = true) ∧
        Text.encode (c.value f) = .error e ∧
        r.status = .crashed (.signer (.typedData (.unencodable e)))) ∧
    ((¬∃ octets v c, read (pathOf name) = .ok octets ∧ IsConfigFile octets v c) →
      r.status = .returned 1 ∧ r.output = []) ∧
    ∀ octets v c, read (pathOf name) = .ok octets → IsConfigFile octets v c →
      (∀ digest, TypedData.digest (envelope c.message).json = .ok digest → key.Recovers digest) →
      r.status = .returned 0 →
      ∃ address signature payload message,
        Json.parse r.output = .ok (.obj [("address", .text address),
          ("signature", .text signature), ("payload", .text payload)]) ∧
        (run settings read ["verify", signature, payload]).status = .returned 0 ∧
        Json.parse (run settings read ["verify", signature, payload]).output =
          .ok (.obj [("address", .text address), ("message", .obj message)]) ∧
        Entries.keys message = wireNames ∧
        ∀ f : ConfigField, message.lookup f.wireName = givenValue v f := by
  intro r
  -- The run is that of the signer if a configuration is read, and else it has failed.
  have hrun {octets : Bytes} {v : Json} {c : SystemConfig} (hread : read (pathOf name) = .ok octets)
      (hfile : IsConfigFile octets v c) : r = signWith key (.int workers) c :=
    hworkers ▸ run_sign_of_load hkey hname (load_eq_ok_iff.2 ⟨octets, v, hread, hfile⟩)
  have hcrash {octets : Bytes} {v : Json} {c : SystemConfig}
      (hread : read (pathOf name) = .ok octets) (hfile : IsConfigFile octets v c)
      (hvalues : ¬∀ f, (c.value f).isScalar = true) : r.output = [] ∧ ∃ before f after e,
        ConfigField.all = before ++ f :: after ∧ (∀ g ∈ before, (c.value g).isScalar = true) ∧
        Text.encode (c.value f) = .error e ∧
        r.status = .crashed (.signer (.typedData (.unencodable e))) := by
    cases hdigest : TypedData.digest (envelope c.message).json with
    | ok digest => exact absurd ((exists_digest_config_iff c).1 ⟨digest, hdigest⟩) hvalues
    | error e =>
      obtain ⟨before, f, after, e, hall, hbefore, hf, rfl⟩ :=
        exists_first_of_digest_config_eq_error hdigest
      rw [hrun hread hfile]
      obtain ⟨hcrashed, houtput⟩ := signWith_of_fault hleast hmost hdigest rfl
      exact ⟨houtput, before, f, after, e, hall, hbefore, hf, hcrashed⟩
  have hscalar {octets : Bytes} {v : Json} {c : SystemConfig}
      (hread : read (pathOf name) = .ok octets) (hfile : IsConfigFile octets v c)
      (hstatus : r.status = .returned 0) : ∀ f, (c.value f).isScalar = true := by
    by_contra hvalues
    obtain ⟨-, _, _, _, _, -, -, -, hcrashed⟩ := hcrash hread hfile hvalues
    exact nomatch hcrashed.symm.trans hstatus
  have hfault (hnone : ¬∃ octets v c, read (pathOf name) = .ok octets ∧ IsConfigFile octets v c) :
      r.status = .returned 1 ∧ r.output = [] := by
    cases hload : load read (pathOf name) with
    | ok c =>
      obtain ⟨octets, v, hread, hfile⟩ := load_eq_ok_iff.1 hload
      exact absurd ⟨octets, v, c, hread, hfile⟩ hnone
    | error e => exact run_sign_of_fault hkey hname hload
  refine ⟨⟨fun hstatus => ?_, ?_⟩, fun _ _ _ => hcrash, hfault, ?_⟩
  · by_cases hfile : ∃ octets v c, read (pathOf name) = .ok octets ∧ IsConfigFile octets v c
    · obtain ⟨octets, v, c, hread, hfile⟩ := hfile
      exact ⟨octets, v, c, hread, hfile, hscalar hread hfile hstatus⟩
    · exact nomatch (hfault hfile).1.symm.trans hstatus
  · rintro ⟨octets, v, c, hread, hfile, hvalues⟩
    obtain ⟨digest, hdigest⟩ := (exists_digest_config_iff c).2 hvalues
    rw [hrun hread hfile]
    exact (signWith_of_digest hleast hmost hdigest).1
  · intro octets v c hread hfile hrecovers hstatus
    obtain ⟨digest, hdigest⟩ := (exists_digest_config_iff c).2 (hscalar hread hfile hstatus)
    obtain ⟨hverify, hparse⟩ := run_verify_signed read hadmin hdigest (hrecovers digest hdigest)
    refine ⟨key.address.checksummed, (Signature.sign key digest).text,
      Hex.prefixed (Payload.encode (envelope c.message).json), c.message, ?_, hverify, hparse, rfl,
      fun f => ?_⟩
    · rw [hrun hread hfile]
      exact (signWith_of_digest hleast hmost hdigest).2.parse (isPrintable_signedResult _ _ _)
    · obtain ⟨t, -, -, hc⟩ := hfile
      rw [lookup_message, givenValue_of_ofJson hc]

section Sample

/-- A file that a configuration is read from. -/
def configFile (c : SystemConfig) : Bytes := (Json.render .compactAscii (.obj c.message)).utf8

theorem isConfigFile_configFile {c : SystemConfig}
    (hunpaired : (Json.obj c.message).isUnpaired = true)
    (hscalar : (Json.render .compactAscii (.obj c.message)).isScalar = true) :
    IsConfigFile (configFile c) (.obj c.message) c := by
  have hstyle : Json.Style.compactAscii.IsReadable := ⟨⟨[], rfl, rfl⟩, ⟨[], rfl, rfl⟩⟩
  have hprintable : (Json.obj c.message).IsPrintable := ⟨hunpaired, rfl, rfl, rfl⟩
  refine ⟨Json.render .compactAscii (.obj c.message), ?_, ?_,
    ofMembers_of_lookup (lookup_message c)⟩
  · rw [configFile, Utf8.decode_utf8, Text.scrub_eq_self hscalar]
  · rw [← List.append_nil (Json.render _ _), hprintable.parse_render_append hstyle rfl]

theorem isConfigFile_sampleConfig :
    IsConfigFile (configFile sampleConfig) (.obj sampleConfig.message) sampleConfig :=
  isConfigFile_configFile rfl (by decide +kernel)

theorem isConfigFile_surrogateConfig :
    IsConfigFile (configFile surrogateConfig) (.obj surrogateConfig.message) surrogateConfig :=
  isConfigFile_configFile rfl (by decide +kernel)

/-- Settings with the sample key and so many workers, and no administrator. -/
def signerSettings (workers : Int) : Settings.Source :=
  [("SIGNER_PRIVATE_KEY",
      .text "0xac0974bec39a17e36ba4a6b4d238ff944bacb478cbed5efcae784d7bf4f2ff80"),
    ("SIGNER_MAX_WORKERS", .int workers), ("ADMIN_ADDR", .text [])]

theorem ofJson_signerSettings (workers : Int) :
    PrivateKey.ofJson ((signerSettings workers).value "SIGNER_PRIVATE_KEY") = .ok sampleKey := rfl

/-- The name of a file. -/
def sampleName : Text := "config.json"

theorem head?_sampleName : sampleName.head? ≠ some (CodePoint.ofChar '-') := by decide

/-- The sample configuration is signed, and the output verifies. -/
theorem run_sign_sampleConfig :
    let read : FileReader := fun _ => .ok (configFile sampleConfig)
    let r := run (signerSettings 1) read ["sign", sampleName]
    r.status = .returned 0 ∧ ∃ address signature payload message,
      Json.parse r.output = .ok (.obj [("address", .text address),
        ("signature", .text signature), ("payload", .text payload)]) ∧
      Json.parse (run (signerSettings 1) read ["verify", signature, payload]).output =
        .ok (.obj [("address", .text address), ("message", .obj message)]) ∧
      ∀ f : ConfigField, message.lookup f.wireName = some (.text "1") := by
  intro read r
  obtain ⟨hiff, -, -, hverified⟩ := run_sign read (ofJson_signerSettings 1) rfl (by decide)
    (by decide) rfl head?_sampleName
  have hstatus : r.status = .returned 0 :=
    hiff.2 ⟨_, _, _, rfl, isConfigFile_sampleConfig, fun f => by cases f <;> rfl⟩
  have hrecovers (digest : Bytes)
      (hdigest : TypedData.digest (envelope sampleConfig.message).json = .ok digest) :
      sampleKey.Recovers digest := by
    rw [digest_sampleConfig] at hdigest
    rw [← Except.ok.inj hdigest]
    exact recovers_sampleConfigDigest
  obtain ⟨address, signature, payload, message, hparse, -, hmessage, -, hvalues⟩ :=
    hverified _ _ _ rfl isConfigFile_sampleConfig hrecovers hstatus
  refine ⟨hstatus, address, signature, payload, message, hparse, hmessage, fun f => ?_⟩
  rw [hvalues f]
  cases f <;> rfl

theorem load_of_isConfigFile {octets : Bytes} {v : Json} {c : SystemConfig}
    (h : IsConfigFile octets v c) (path : Text) : load (fun _ => .ok octets) path = .ok c :=
  load_eq_ok_iff.2 ⟨octets, v, rfl, h⟩

/-- A configuration with a surrogate is read from a file but not signed, and none is signed with too
many workers. -/
theorem run_sign_unsigned :
    (IsConfigFile (configFile surrogateConfig) (.obj surrogateConfig.message) surrogateConfig ∧
      ∀ code, (run (signerSettings 1) (fun _ => .ok (configFile surrogateConfig))
        ["sign", sampleName]).status ≠ .returned code) ∧
    (IsConfigFile (configFile sampleConfig) (.obj sampleConfig.message) sampleConfig ∧
      ∀ code, (run (signerSettings (2 ^ 31 - 1)) (fun _ => .ok (configFile sampleConfig))
        ["sign", sampleName]).status ≠ .returned code) := by
  refine ⟨⟨isConfigFile_surrogateConfig, fun code hstatus => ?_⟩, isConfigFile_sampleConfig,
    fun code hstatus => ?_⟩
  · rw [run_sign_of_load (ofJson_signerSettings 1) head?_sampleName
      (load_of_isConfigFile isConfigFile_surrogateConfig _)] at hstatus
    cases hdigest : TypedData.digest (envelope surrogateConfig.message).json with
    | ok digest =>
      have hscalar := (exists_digest_config_iff surrogateConfig).1 ⟨digest, hdigest⟩ .arNodeUrl
      cases hscalar
    | error e =>
      obtain ⟨_, _, _, _, -, -, -, rfl⟩ := exists_first_of_digest_config_eq_error hdigest
      have hcrash :=
        @signWith_of_fault sampleKey 1 surrogateConfig (by decide) (by decide) _ hdigest rfl
      exact nomatch hcrash.1.symm.trans hstatus
  · rw [run_sign_of_load (ofJson_signerSettings (2 ^ 31 - 1)) head?_sampleName
      (load_of_isConfigFile isConfigFile_sampleConfig _)] at hstatus
    have hcrash := @signWith_of_lt sampleKey (2 ^ 31 - 1) sampleConfig (by decide)
    exact nomatch (congrArg Run.status hcrash).symm.trans hstatus

end Sample

end SignedSetup.CommandLine
