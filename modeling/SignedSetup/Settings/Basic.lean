import SignedSetup.Config.NodeConfig

/-!
# Settings

The settings of the program: its environment, the signer's credentials and the defaults of a
storage node. Each value comes from the first of three sources that names it, initial values,
environment and settings file, and else is a default. A value that is not valid where it is found
is an issue, whatever the later sources say. Names are case-sensitive and unknown ones are ignored.
-/

namespace SignedSetup

/-- Where the program runs. -/
inductive Environment where
  | dev
  | prod
deriving DecidableEq

/-- The name of an environment. -/
def Environment.name : Environment → Text
  | .dev => "dev"
  | .prod => "prod"

/-- The settings of the program. -/
structure Settings where
  environment : Environment
  appName : Text
  logLevel : Text
  signerPrivateKey : Text
  signerMaxWorkers : Int
  adminAddress : Text
  rollupIntervalMs : Int
  minRollupSize : Int
  networkId : Int
  evmNodeUrl : Text
  arNodeUrl : Text
deriving DecidableEq

namespace Settings

open Validation

/-- The settings that hold where no source says otherwise. -/
def default : Settings where
  environment := .dev
  appName := "db3-config-sig"
  logLevel := "INFO"
  signerPrivateKey := []
  signerMaxWorkers := 1
  adminAddress := []
  rollupIntervalMs := 600000
  minRollupSize := 1048576
  networkId := 0
  evmNodeUrl := "http://127.0.0.1:8545"
  arNodeUrl := "http://127.0.0.1:1984"

/-- The values that sources give under names. -/
abbrev Source := List (Text × Json)

/-- The value of a name; null if there is none. -/
def Source.value (values : Source) (name : Text) : Json := (values.lookup name).getD .null

/-- The value of a name in the first source that has it. -/
def lookup (sources : List Source) (name : Text) : Option Json :=
  sources.findSome? fun source => source.lookup name

/-- The environment that a value names. -/
def environmentOf (v : Json) : Except IssueKind Environment :=
  if v.text? = some Environment.dev.name then .ok .dev
  else if v.text? = some Environment.prod.name then .ok .prod
  else .error (.notOneOf Environment.dev.name Environment.prod.name)

/-- The integer that a value gives, which must not be below a least one. -/
def atLeast (least : Int) (v : Json) : Except IssueKind Int := do
  let n ← integer v
  if n < least then .error (.below least) else .ok n

/-- The value of a setting: read where a source names it, else its default. -/
def setting {α : Type} (sources : List Source) (name : Text) (read : Json → Except IssueKind α)
    (default : α) : Except Issue α :=
  match lookup sources name with
  | none => .ok default
  | some v => (read v).mapError (⟨·, [name]⟩)

/-- The settings that sources give, the first source first. -/
def load (sources : List Source) : Collected Settings :=
  (((((((((((Collected.of Settings.mk).field
    (setting sources "APP_ENV" environmentOf default.environment)).field
    (setting sources "APP_NAME" text default.appName)).field
    (setting sources "LOG_LEVEL" text default.logLevel)).field
    (setting sources "SIGNER_PRIVATE_KEY" text default.signerPrivateKey)).field
    (setting sources "SIGNER_MAX_WORKERS" (atLeast 1) default.signerMaxWorkers)).field
    (setting sources "ADMIN_ADDR" text default.adminAddress)).field
    (setting sources "ROLLUP_INTERVAL_MS" (atLeast 0) default.rollupIntervalMs)).field
    (setting sources "MIN_ROLLUP_SIZE" (atLeast 0) default.minRollupSize)).field
    (setting sources "NETWORK_ID" (atLeast 0) default.networkId)).field
    (setting sources "EVM_NODE_URL" text default.evmNodeUrl)).field
    (setting sources "AR_NODE_URL" text default.arNodeUrl)

/-- The settings under their names. -/
def members (s : Settings) : List (Text × Json) :=
  [("APP_ENV", .text s.environment.name), ("APP_NAME", .text s.appName),
    ("LOG_LEVEL", .text s.logLevel), ("SIGNER_PRIVATE_KEY", .text s.signerPrivateKey),
    ("SIGNER_MAX_WORKERS", .int s.signerMaxWorkers), ("ADMIN_ADDR", .text s.adminAddress),
    ("ROLLUP_INTERVAL_MS", .int s.rollupIntervalMs), ("MIN_ROLLUP_SIZE", .int s.minRollupSize),
    ("NETWORK_ID", .int s.networkId), ("EVM_NODE_URL", .text s.evmNodeUrl),
    ("AR_NODE_URL", .text s.arNodeUrl)]

/-- The names of the settings. -/
def names : List Text := Entries.keys default.members

/-- The members of a node configuration with the settings that stand behind them. -/
def nodeSettings : List (Text × Text) :=
  [("min_rollup_size", "MIN_ROLLUP_SIZE"), ("rollup_interval", "ROLLUP_INTERVAL_MS"),
    ("network_id", "NETWORK_ID"), ("evm_node_url", "EVM_NODE_URL"), ("ar_node_url", "AR_NODE_URL")]

/-- The node configuration that values under the names of settings give. -/
def nodeConfigOf (values : Source) : Collected NodeConfig :=
  NodeConfig.ofMembers (nodeSettings.filterMap fun (key, name) =>
    (values.lookup name).map fun v => (key, v))

/-- The node configuration that stands behind fields that a message leaves out. -/
def nodeDefaults (s : Settings) : Collected NodeConfig := nodeConfigOf s.members

end Settings

end SignedSetup
