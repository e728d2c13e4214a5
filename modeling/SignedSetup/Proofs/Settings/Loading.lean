import SignedSetup.Main
import SignedSetup.Proofs.Account.Lifecycle

/-!
# What the settings are loaded from

Each of the eleven settings is read from the first source that supplies it, and from no other: the
settings are loaded iff what is supplied first is valid for each of them, and every other supplied
value has an issue under its name (`Settings.load_usable`). Whatever is loaded can be used: the
bounds that the settings are read with are those that a node configuration asks for, so that there
always is one, with the values of the settings; and a signer with so many workers never lacks them.
-/

namespace SignedSetup

open Validation

namespace Validation

variable {α β : Type}

/-- The issues that a record in the making has so far. -/
def Collected.issues : Collected α → List Issue
  | .ok _ => []
  | .error issues => issues

@[simp]
theorem Collected.issues_of (make : α) : (Collected.of make).issues = [] := rfl

/-- A field adds its own issue. -/
@[simp]
theorem Collected.issues_field (make : Collected (α → β)) (value : Except Issue α) :
    (make.field value).issues = make.issues ++ (issue? value).toList := by
  cases make <;> cases value <;> simp [Collected.field, Collected.issues, issue?]

theorem issue?_map (f : α → β) (x : Except Issue α) : issue? (x.map f) = issue? x := by
  cases x <;> rfl

theorem issue?_eq_none_iff {x : Except Issue α} : issue? x = none ↔ ∃ a, x = .ok a := by
  cases x <;> simp [issue?]

end Validation

namespace Settings

/-! ## The single settings -/

/-- A setting. -/
inductive Setting where
  | environment
  | appName
  | logLevel
  | signerPrivateKey
  | signerMaxWorkers
  | adminAddress
  | rollupIntervalMs
  | minRollupSize
  | networkId
  | evmNodeUrl
  | arNodeUrl
deriving DecidableEq

namespace Setting

/-- The settings in the order in which they are read. -/
def all : List Setting :=
  [.environment, .appName, .logLevel, .signerPrivateKey, .signerMaxWorkers, .adminAddress,
    .rollupIntervalMs, .minRollupSize, .networkId, .evmNodeUrl, .arNodeUrl]

/-- The name under which a source supplies a setting. -/
def name : Setting → Text
  | .environment => "APP_ENV"
  | .appName => "APP_NAME"
  | .logLevel => "LOG_LEVEL"
  | .signerPrivateKey => "SIGNER_PRIVATE_KEY"
  | .signerMaxWorkers => "SIGNER_MAX_WORKERS"
  | .adminAddress => "ADMIN_ADDR"
  | .rollupIntervalMs => "ROLLUP_INTERVAL_MS"
  | .minRollupSize => "MIN_ROLLUP_SIZE"
  | .networkId => "NETWORK_ID"
  | .evmNodeUrl => "EVM_NODE_URL"
  | .arNodeUrl => "AR_NODE_URL"

/-- The value that settings have for a setting. -/
def value (s : Settings) : Setting → Json
  | .environment => .text s.environment.name
  | .appName => .text s.appName
  | .logLevel => .text s.logLevel
  | .signerPrivateKey => .text s.signerPrivateKey
  | .signerMaxWorkers => .int s.signerMaxWorkers
  | .adminAddress => .text s.adminAddress
  | .rollupIntervalMs => .int s.rollupIntervalMs
  | .minRollupSize => .int s.minRollupSize
  | .networkId => .int s.networkId
  | .evmNodeUrl => .text s.evmNodeUrl
  | .arNodeUrl => .text s.arNodeUrl

/-- The value of a setting that a supplied value is read as: one of two words, an integer that is
not below the least one, or a text. -/
def read : Setting → Json → Except IssueKind Json
  | .environment => fun v => (environmentOf v).map fun e => .text e.name
  | .signerMaxWorkers => fun v => (atLeast 1 v).map .int
  | .rollupIntervalMs | .minRollupSize | .networkId => fun v => (atLeast 0 v).map .int
  | _ => fun v => (text v).map .text

/-- What becomes of a setting that sources may supply. -/
def loaded (sources : List Source) (x : Setting) : Except Issue Json :=
  setting sources x.name x.read (x.value default)

theorem mem_all (x : Setting) : x ∈ all := by cases x <;> decide

end Setting

theorem members_eq_map (s : Settings) :
    s.members = Setting.all.map fun x => (x.name, x.value s) := rfl

/-- A source supplies a value under a name, and none before it does. -/
inductive Supplies (initial environment file : Source) (name : Text) : Json → Prop where
  | initial {v : Json} (h : initial.lookup name = some v) :
      Supplies initial environment file name v
  | environment {v : Json} (hinitial : initial.lookup name = none)
      (h : environment.lookup name = some v) : Supplies initial environment file name v
  | file {v : Json} (hinitial : initial.lookup name = none)
      (henvironment : environment.lookup name = none) (h : file.lookup name = some v) :
      Supplies initial environment file name v

/-- The value that is looked up is the one that is supplied. -/
theorem lookup_eq_some_iff {initial environment file : Source} {name : Text} {v : Json} :
    lookup [initial, environment, file] name = some v ↔
      Supplies initial environment file name v := by
  have hnil : lookup [] name = none := rfl
  have hcons (source : Source) (sources : List Source) :
      lookup (source :: sources) name = (source.lookup name).or (lookup sources name) := by
    rw [lookup, List.findSome?_cons, lookup]
    cases source.lookup name <;> rfl
  rw [hcons, hcons, hcons, hnil, Option.or_none]
  constructor
  · intro h
    cases hinitial : initial.lookup name with
    | some u =>
      rw [hinitial] at h
      exact .initial (hinitial.trans h)
    | none =>
      rw [hinitial] at h
      cases henvironment : environment.lookup name with
      | some u =>
        rw [henvironment] at h
        exact .environment hinitial (henvironment.trans h)
      | none =>
        rw [henvironment] at h
        exact .file hinitial henvironment h
  · rintro (h | ⟨hinitial, h⟩ | ⟨hinitial, henvironment, h⟩)
    · rw [h]
      rfl
    · rw [hinitial, h]
      rfl
    · rw [hinitial, henvironment, h]
      rfl

/-! ## Reading the settings -/

section Loading

variable {sources : List Source} {s : Settings}

theorem setting_map {α β : Type} (g : α → β) (name : Text) (read : Json → Except IssueKind α)
    (default : α) :
    setting sources name (fun v => (read v).map g) (g default) =
      (setting sources name read default).map g := by
  rw [setting, setting]
  cases lookup sources name with
  | none => rfl
  | some v =>
    dsimp only
    cases read v <;> rfl

theorem loaded_eq (sources : List Source) (x : Setting) :
    x.loaded sources =
      match x with
      | .environment =>
        (setting sources "APP_ENV" environmentOf default.environment).map fun e => .text e.name
      | .appName => (setting sources "APP_NAME" text default.appName).map .text
      | .logLevel => (setting sources "LOG_LEVEL" text default.logLevel).map .text
      | .signerPrivateKey =>
        (setting sources "SIGNER_PRIVATE_KEY" text default.signerPrivateKey).map .text
      | .signerMaxWorkers =>
        (setting sources "SIGNER_MAX_WORKERS" (atLeast 1) default.signerMaxWorkers).map .int
      | .adminAddress => (setting sources "ADMIN_ADDR" text default.adminAddress).map .text
      | .rollupIntervalMs =>
        (setting sources "ROLLUP_INTERVAL_MS" (atLeast 0) default.rollupIntervalMs).map .int
      | .minRollupSize =>
        (setting sources "MIN_ROLLUP_SIZE" (atLeast 0) default.minRollupSize).map .int
      | .networkId => (setting sources "NETWORK_ID" (atLeast 0) default.networkId).map .int
      | .evmNodeUrl => (setting sources "EVM_NODE_URL" text default.evmNodeUrl).map .text
      | .arNodeUrl => (setting sources "AR_NODE_URL" text default.arNodeUrl).map .text := by
  cases x <;> exact setting_map _ _ _ _

/-- The issues are those of the single settings, in their order. -/
theorem issues_load (sources : List Source) :
    (load sources).issues = Setting.all.flatMap fun x => (issue? (x.loaded sources)).toList := by
  simp only [load, Collected.issues_field, Collected.issues_of, Setting.all, loaded_eq, issue?_map,
    List.flatMap_cons, List.flatMap_nil, List.append_nil, List.nil_append, List.append_assoc]

/-- Settings each of which is loaded are loaded together. -/
theorem exists_load (h : ∀ x : Setting, ∃ v, x.loaded sources = .ok v) :
    ∃ s, load sources = .ok s ∧ ∀ x : Setting, x.loaded sources = .ok (x.value s) := by
  have hread (x : Setting) := loaded_eq sources x ▸ h x
  have hof {α : Type} {name : Text} {read : Json → Except IssueKind α} {default : α}
      {g : α → Json} (h : ∃ v, (setting sources name read default).map g = .ok v) :
      ∃ a, setting sources name read default = .ok a :=
    h.elim fun _ hv => (map_eq_ok hv).imp fun _ ha => ha.1
  obtain ⟨environment, henvironment⟩ := hof (hread .environment)
  obtain ⟨appName, happName⟩ := hof (hread .appName)
  obtain ⟨logLevel, hlogLevel⟩ := hof (hread .logLevel)
  obtain ⟨signerPrivateKey, hsignerPrivateKey⟩ := hof (hread .signerPrivateKey)
  obtain ⟨signerMaxWorkers, hsignerMaxWorkers⟩ := hof (hread .signerMaxWorkers)
  obtain ⟨adminAddress, hadminAddress⟩ := hof (hread .adminAddress)
  obtain ⟨rollupIntervalMs, hrollupIntervalMs⟩ := hof (hread .rollupIntervalMs)
  obtain ⟨minRollupSize, hminRollupSize⟩ := hof (hread .minRollupSize)
  obtain ⟨networkId, hnetworkId⟩ := hof (hread .networkId)
  obtain ⟨evmNodeUrl, hevmNodeUrl⟩ := hof (hread .evmNodeUrl)
  obtain ⟨arNodeUrl, harNodeUrl⟩ := hof (hread .arNodeUrl)
  refine ⟨⟨environment, appName, logLevel, signerPrivateKey, signerMaxWorkers, adminAddress,
    rollupIntervalMs, minRollupSize, networkId, evmNodeUrl, arNodeUrl⟩, ?_, fun x => ?_⟩
  · simp only [load, Collected.of, Collected.field, henvironment, happName, hlogLevel,
      hsignerPrivateKey, hsignerMaxWorkers, hadminAddress, hrollupIntervalMs, hminRollupSize,
      hnetworkId, hevmNodeUrl, harNodeUrl]
  · rw [loaded_eq]
    cases x <;> simp only [henvironment, happName, hlogLevel, hsignerPrivateKey,
      hsignerMaxWorkers, hadminAddress, hrollupIntervalMs, hminRollupSize, hnetworkId, hevmNodeUrl,
      harNodeUrl] <;> rfl

/-- Each of the settings that are loaded is loaded by itself. -/
theorem loaded_of_load (h : load sources = .ok s) (x : Setting) :
    x.loaded sources = .ok (x.value s) := by
  have hissues := issues_load sources
  rw [h] at hissues
  have hloaded (x : Setting) : ∃ v, x.loaded sources = .ok v :=
    issue?_eq_none_iff.1 (by simpa using List.flatMap_eq_nil_iff.1 hissues.symm x x.mem_all)
  obtain ⟨s', hs', hvalues⟩ := exists_load hloaded
  rw [h] at hs'
  rw [hvalues x, ← Except.ok.inj hs']

/-- A setting that is not loaded has its issue among those of the settings. -/
theorem mem_issues_of_loaded {x : Setting} {issue : Issue} (h : x.loaded sources = .error issue) :
    ∃ issues, load sources = .error issues ∧ issue ∈ issues := by
  have hmem : issue ∈ (load sources).issues := by
    rw [issues_load, List.mem_flatMap]
    exact ⟨x, x.mem_all, by rw [h]; exact List.mem_singleton_self issue⟩
  cases hload : load sources with
  | ok s =>
    rw [hload] at hmem
    cases hmem
  | error issues =>
    rw [hload] at hmem
    exact ⟨issues, rfl, hmem⟩

theorem loaded_of_lookup_eq_none {x : Setting} (h : lookup sources x.name = none) :
    x.loaded sources = .ok (x.value default) := by
  rw [Setting.loaded, setting, h]

theorem loaded_of_lookup_eq_some {x : Setting} {v : Json} (h : lookup sources x.name = some v) :
    x.loaded sources = (x.read v).mapError (⟨·, [x.name]⟩) := by
  rw [Setting.loaded, setting, h]

end Loading

/-! ## Using the settings -/

/-- The integers of settings are in their ranges. -/
structure InRange (s : Settings) : Prop where
  signerMaxWorkers : 1 ≤ s.signerMaxWorkers
  rollupIntervalMs : 0 ≤ s.rollupIntervalMs
  minRollupSize : 0 ≤ s.minRollupSize
  networkId : 0 ≤ s.networkId

/-- The integer that is read is not below the least one. -/
theorem le_of_atLeast {least n : Int} {v : Json} (h : atLeast least v = .ok n) : least ≤ n := by
  obtain ⟨m, -, h⟩ := bind_eq_ok h
  split at h
  · cases h
  · next hle =>
    rw [← Except.ok.inj h]
    exact Int.not_lt.1 hle

/-- An integer setting that is loaded is in its range if its default is. -/
theorem le_of_loaded {sources : List Source} {x : Setting} {least d n : Int}
    (hread : x.read = fun v => (atLeast least v).map .int) (hdefault : x.value default = .int d)
    (hd : least ≤ d) (h : x.loaded sources = .ok (.int n)) : least ≤ n := by
  cases hlookup : lookup sources x.name with
  | none =>
    rw [loaded_of_lookup_eq_none hlookup, hdefault] at h
    obtain rfl : d = n := Json.int.inj (Except.ok.inj h)
    exact hd
  | some v =>
    rw [loaded_of_lookup_eq_some hlookup, hread] at h
    obtain ⟨m, hm, heq⟩ := map_eq_ok (mapError_eq_ok h)
    obtain rfl : m = n := Json.int.inj heq
    exact le_of_atLeast hm

theorem inRange_of_load {sources : List Source} {s : Settings} (h : load sources = .ok s) :
    InRange s where
  signerMaxWorkers := le_of_loaded rfl rfl (by decide) (loaded_of_load h .signerMaxWorkers)
  rollupIntervalMs := le_of_loaded rfl rfl (by decide) (loaded_of_load h .rollupIntervalMs)
  minRollupSize := le_of_loaded rfl rfl (by decide) (loaded_of_load h .minRollupSize)
  networkId := le_of_loaded rfl rfl (by decide) (loaded_of_load h .networkId)

theorem natural_int {n : Int} (h : 0 ≤ n) : natural 0 (.int n) = .ok n.toNat :=
  if_neg (Int.not_lt.2 h)

/-- A node configuration has the values of the settings behind it. -/
structure StandsBehind (s : Settings) (n : NodeConfig) : Prop where
  minRollupSize : n.minRollupSize = s.minRollupSize
  rollupInterval : n.rollupInterval = s.rollupIntervalMs
  networkId : n.networkId = s.networkId
  evmNodeUrl : n.evmNodeUrl = s.evmNodeUrl
  arNodeUrl : n.arNodeUrl = s.arNodeUrl

/-- Settings in their ranges give a node configuration, which has their values. -/
theorem nodeDefaults_of_inRange {s : Settings} (h : InRange s) :
    ∃ n, s.nodeDefaults = .ok n ∧ StandsBehind s n := by
  refine ⟨⟨s.minRollupSize.toNat, s.rollupIntervalMs.toNat, s.networkId.toNat, s.evmNodeUrl,
    s.arNodeUrl⟩, ?_, ?_⟩
  · show (((((Collected.of NodeConfig.mk).field
      ((natural 0 (.int s.minRollupSize)).mapError _)).field
      ((natural 0 (.int s.rollupIntervalMs)).mapError _)).field
      ((natural 0 (.int s.networkId)).mapError _)).field _).field _ = _
    rw [natural_int h.minRollupSize, natural_int h.rollupIntervalMs, natural_int h.networkId]
    rfl
  · exact ⟨Int.toNat_of_nonneg h.minRollupSize, Int.toNat_of_nonneg h.rollupIntervalMs,
      Int.toNat_of_nonneg h.networkId, rfl, rfl⟩

/-- A signer that is to start with at least one worker never lacks workers, and starts if they are
not too many. -/
theorem answer_start {signer : Signer} {n : Int} (hworkers : signer.maxWorkers = .int n)
    (hn : 1 ≤ n) :
    (signer.perform .start).answer =
      if signer.started = true ∨ n ≤ Signer.mostWorkers then .started signer.started
      else .failed .tooManyWorkers := by
  have hfault : Signer.workersFault? signer.maxWorkers =
      if n ≤ Signer.mostWorkers then none else some .tooManyWorkers := by
    rw [hworkers, Signer.workersFault?, if_neg (by omega)]
    by_cases hmost : n ≤ Signer.mostWorkers
    · rw [if_pos hmost, if_neg (Int.not_lt.2 hmost)]
    · rw [if_neg hmost, if_pos (Int.not_le.1 hmost)]
  rw [Signer.perform, Signer.start, hfault]
  by_cases hstarted : signer.started = true
  · rw [if_pos hstarted, if_pos (.inl hstarted), hstarted]
  · rw [if_neg hstarted]
    by_cases hmost : n ≤ Signer.mostWorkers
    · rw [if_pos hmost, if_pos (.inr hmost), Bool.eq_false_iff.2 hstarted]
    · rw [if_neg hmost, if_neg (not_or.2 ⟨hstarted, hmost⟩)]

/-- Settings from initial values, an environment and a settings file. They are loaded iff the value
that is supplied first is valid for each setting; one that is not has an issue under its name,
whatever the sources behind it hold. Then each setting is what its supplied value is read as, or
its default if there is none. There always is a node configuration with the five values of the
settings, and no signer with the number of workers of the settings ever fails to start for want of
workers, in any state that operations can bring it to: it starts unless they are too many to be
counted. -/
theorem load_usable (initial : Source) (environment : List (Text × Text)) (content : Text) :
    let file := File.parse environment content
    let sources := [initial, sourceOf environment, sourceOf file]
    let supplies := Supplies initial (sourceOf environment) (sourceOf file)
    ((∃ s, load sources = .ok s) ↔
      ∀ (x : Setting) v, supplies x.name v → ∃ w, x.read v = .ok w) ∧
    (∀ (x : Setting) v kind, supplies x.name v → x.read v = .error kind →
      ∃ issues, load sources = .error issues ∧ ⟨kind, [x.name]⟩ ∈ issues) ∧
    ∀ s, load sources = .ok s →
      s.members = Setting.all.map (fun x => (x.name, x.value s)) ∧
      (∀ x : Setting, (∀ v, supplies x.name v → x.read v = .ok (x.value s)) ∧
        ((∀ v, ¬ supplies x.name v) → x.value s = x.value default)) ∧
      (∃ n, s.nodeDefaults = .ok n ∧ StandsBehind s n) ∧
      ∀ key operations,
        let workers := Source.value s.members Setting.signerMaxWorkers.name
        let signer := ((Signer.new key workers).performAll operations).1
        (signer.perform .start).answer ≠ .failed .noWorkers ∧
        (s.signerMaxWorkers ≤ Signer.mostWorkers →
          (signer.perform .start).answer = .started signer.started) := by
  intro file sources supplies
  have hlookup {name : Text} {v : Json} (h : supplies name v) : lookup sources name = some v :=
    lookup_eq_some_iff.2 h
  have herror (x : Setting) (v : Json) (kind : IssueKind) (hv : supplies x.name v)
      (hkind : x.read v = .error kind) :
      ∃ issues, load sources = .error issues ∧ ⟨kind, [x.name]⟩ ∈ issues := by
    refine mem_issues_of_loaded (x := x) ?_
    rw [loaded_of_lookup_eq_some (hlookup hv), hkind]
    rfl
  have hread (s : Settings) (hs : load sources = .ok s) (x : Setting) (v : Json)
      (hv : supplies x.name v) : x.read v = .ok (x.value s) := by
    have hloaded := loaded_of_load hs x
    rw [loaded_of_lookup_eq_some (hlookup hv)] at hloaded
    exact mapError_eq_ok hloaded
  refine ⟨⟨?_, ?_⟩, herror, fun s hs =>
    ⟨members_eq_map s, fun x => ⟨hread s hs x, fun hnone => ?_⟩, ?_, ?_⟩⟩
  · rintro ⟨s, hs⟩ x v hv
    exact ⟨_, hread s hs x v hv⟩
  · intro hvalid
    have hloaded (x : Setting) : ∃ w, x.loaded sources = .ok w := by
      cases hx : lookup sources x.name with
      | none => exact ⟨_, loaded_of_lookup_eq_none hx⟩
      | some v =>
        obtain ⟨w, hw⟩ := hvalid x v (lookup_eq_some_iff.1 hx)
        exact ⟨w, by rw [loaded_of_lookup_eq_some hx, hw]; rfl⟩
    exact (exists_load hloaded).imp fun _ hs => hs.1
  · have hx : lookup sources x.name = none :=
      Option.eq_none_iff_forall_not_mem.2 fun v hv => hnone v (lookup_eq_some_iff.1 hv)
    have hloaded := loaded_of_load hs x
    rw [loaded_of_lookup_eq_none hx] at hloaded
    exact (Except.ok.inj hloaded).symm
  · exact nodeDefaults_of_inRange (inRange_of_load hs)
  · intro key operations workers signer
    have hworkers : signer.maxWorkers = .int s.signerMaxWorkers :=
      (Signer.keeps_performAll _ operations).maxWorkers
    have hanswer := answer_start hworkers (inRange_of_load hs).signerMaxWorkers
    refine ⟨fun h => ?_, fun hmost => by rw [hanswer, if_pos (.inr hmost)]⟩
    rw [hanswer] at h
    split at h <;> cases h

/-- A number for a network. -/
def sampleInitial : Source := [("NETWORK_ID", .int 3)]

/-- An environment with a number of workers, and a network that is not looked at. -/
def sampleEnvironment : List (Text × Text) := [("SIGNER_MAX_WORKERS", " 4 "), ("NETWORK_ID", "x")]

/-- A settings file with a size, and a number of workers that is not looked at. -/
def sampleFile : Text := "SIGNER_MAX_WORKERS=0\nexport MIN_ROLLUP_SIZE='7' # small\n"

/-- The environment stands before the file, and initial values before both; no workers in the
environment are an issue also where the file has some. -/
theorem load_usable_sampleFile :
    (∃ s, load [sampleInitial, sourceOf sampleEnvironment,
        sourceOf (File.parse sampleEnvironment sampleFile)] = .ok s ∧
      s.networkId = 3 ∧ s.signerMaxWorkers = 4 ∧ s.minRollupSize = 7 ∧
      s.rollupIntervalMs = 600000 ∧ ∃ n, s.nodeDefaults = .ok n ∧ n.networkId = 3) ∧
    ∃ issues, load [[], sourceOf [("SIGNER_MAX_WORKERS", "0")],
        sourceOf (File.parse [("SIGNER_MAX_WORKERS", "0")] "SIGNER_MAX_WORKERS=4")] =
          .error issues ∧ ⟨.below 1, [Setting.signerMaxWorkers.name]⟩ ∈ issues := by
  obtain ⟨hloads, -, hvalues⟩ := load_usable sampleInitial sampleEnvironment sampleFile
  have hloaded : ∃ s, load [sampleInitial, sourceOf sampleEnvironment,
      sourceOf (File.parse sampleEnvironment sampleFile)] = .ok s := ⟨_, rfl⟩
  obtain ⟨s, hs⟩ := hloaded
  obtain ⟨-, hsupplied, ⟨n, hn, hbehind⟩, -⟩ := hvalues s hs
  have hnetwork : Except.ok (Json.int 3) = .ok (.int s.networkId) :=
    (hsupplied .networkId).1 (.int 3) (.initial rfl)
  have hworkers : Except.ok (Json.int 4) = .ok (.int s.signerMaxWorkers) :=
    (hsupplied .signerMaxWorkers).1 (.text " 4 ") (.environment rfl rfl)
  have hsize : Except.ok (Json.int 7) = .ok (.int s.minRollupSize) :=
    (hsupplied .minRollupSize).1 (.text "7") (.file rfl rfl rfl)
  have hinterval : Json.int s.rollupIntervalMs = .int 600000 :=
    (hsupplied .rollupIntervalMs).2 fun v hv => nomatch lookup_eq_some_iff.2 hv
  have hsame {m n : Int} (h : (.ok (.int m) : Except IssueKind Json) = .ok (.int n)) : n = m :=
    (Json.int.inj (Except.ok.inj h)).symm
  refine ⟨⟨s, hs, hsame hnetwork, hsame hworkers, hsame hsize, Json.int.inj hinterval, n, hn, ?_⟩,
    ?_⟩
  · have hthree := hbehind.networkId.trans (hsame hnetwork)
    exact Int.ofNat.inj hthree
  · exact (load_usable [] [("SIGNER_MAX_WORKERS", "0")] "SIGNER_MAX_WORKERS=4").2.1
      .signerMaxWorkers (.text "0") (.below 1) (.environment rfl rfl) rfl

end Settings

end SignedSetup
