import SignedSetup.Validation

/-!
# System configurations

The configuration that an administrator signs has nine fields, all of them texts, the numeric ones
included. A field has two names: the wire name, under which it is signed, and the attribute name.
A record may give it under either; the wire name wins.

What a message holds is a list of its own, with its keys spelled out. It is the list of the fields
under their wire names (`messageEntries_eq`), so that a message is read as it was written.
-/

namespace SignedSetup

/-- A field of a system configuration. -/
inductive ConfigField where
  | rollupInterval
  | minRollupSize
  | network
  | chainId
  | contractAddress
  | rollupMaxInterval
  | evmNodeRpc
  | arNodeUrl
  | minGcOffset
deriving DecidableEq

namespace ConfigField

/-- The fields in the order of their declaration. -/
def all : List ConfigField :=
  [.rollupInterval, .minRollupSize, .network, .chainId, .contractAddress, .rollupMaxInterval,
    .evmNodeRpc, .arNodeUrl, .minGcOffset]

/-- The name under which a field is given first of all. -/
def wireName : ConfigField → Text
  | .rollupInterval => "rollupInterval"
  | .minRollupSize => "minRollupSize"
  | .network => "network"
  | .chainId => "chainId"
  | .contractAddress => "contractAddress"
  | .rollupMaxInterval => "rollupMaxInterval"
  | .evmNodeRpc => "evmNodeRpc"
  | .arNodeUrl => "arNodeUrl"
  | .minGcOffset => "minGcOffset"

/-- The name of a field in a record. -/
def attributeName : ConfigField → Text
  | .rollupInterval => "rollup_interval"
  | .minRollupSize => "min_rollup_size"
  | .network => "network"
  | .chainId => "chain_id"
  | .contractAddress => "contract_address"
  | .rollupMaxInterval => "rollup_max_interval"
  | .evmNodeRpc => "evm_node_rpc"
  | .arNodeUrl => "ar_node_url"
  | .minGcOffset => "min_gc_offset"

end ConfigField

/-- A configuration to sign: a text for each field. -/
@[ext]
structure SystemConfig where
  value : ConfigField → Text

namespace SystemConfig

open Validation

/-- The text that an object gives for a field. A wrong value under the wire name is an issue even
where the attribute name has a right one. -/
def field (members : List (Text × Json)) (f : ConfigField) : Except Issue Text :=
  match members.lookup f.wireName, members.lookup f.attributeName with
  | some v, _ => (text v).mapError (⟨·, [f.wireName]⟩)
  | none, some v => (text v).mapError (⟨·, [f.attributeName]⟩)
  | none, none => .error ⟨.missing, [f.wireName]⟩

/-- The issues of an object, one for each field that it does not give. -/
def issues (members : List (Text × Json)) : List Issue :=
  ConfigField.all.filterMap fun f => issue? (field members f)

/-- The configuration that an object gives. -/
def ofMembers (members : List (Text × Json)) : Collected SystemConfig :=
  match issues members with
  | [] => .ok ⟨fun f => (field members f).toOption.getD []⟩
  | found => .error found

/-- The configuration that a JSON value gives. -/
def ofJson : Json → Collected SystemConfig
  | .obj members => ofMembers members
  | _ => .error [⟨.notRecord "SystemConfig", []⟩]

/-- The keys of a message, each with the field whose text stands under it. -/
def messageEntries : List (Text × ConfigField) :=
  [("rollupInterval", .rollupInterval), ("minRollupSize", .minRollupSize), ("network", .network),
    ("chainId", .chainId), ("contractAddress", .contractAddress),
    ("rollupMaxInterval", .rollupMaxInterval), ("evmNodeRpc", .evmNodeRpc),
    ("arNodeUrl", .arNodeUrl), ("minGcOffset", .minGcOffset)]

theorem messageEntries_eq :
    messageEntries = ConfigField.all.map fun f => (f.wireName, f) := rfl

/-- The message of a configuration. -/
def message (c : SystemConfig) : List (Text × Json) :=
  messageEntries.map fun (key, f) => (key, .text (c.value f))

theorem message_eq (c : SystemConfig) :
    c.message = ConfigField.all.map fun f => (f.wireName, .text (c.value f)) := by
  rw [message, messageEntries_eq, List.map_map]
  rfl

/-- The fields under their attribute names. -/
def attributes (c : SystemConfig) : List (Text × Json) :=
  ConfigField.all.map fun f => (f.attributeName, .text (c.value f))

end SystemConfig

end SignedSetup
