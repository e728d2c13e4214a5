import SignedSetup.Validation

/-!
# Node configurations

The configuration that a storage node runs with: three natural numbers of any size and two
addresses of other nodes.
-/

namespace SignedSetup

/-- The configuration of a storage node. -/
structure NodeConfig where
  minRollupSize : Nat
  /-- The rollup interval in milliseconds. -/
  rollupInterval : Nat
  networkId : Nat
  evmNodeUrl : Text
  arNodeUrl : Text
deriving DecidableEq

namespace NodeConfig

open Validation

/-- The configuration that an object gives. -/
def ofMembers (members : List (Text × Json)) : Collected NodeConfig :=
  (((((Collected.of NodeConfig.mk).field
    (required members "min_rollup_size" (natural 0))).field
    (required members "rollup_interval" (natural 0))).field
    (required members "network_id" (natural 0))).field
    (required members "evm_node_url" text)).field
    (required members "ar_node_url" text)

/-- The configuration that a JSON value gives. -/
def ofJson : Json → Collected NodeConfig
  | .obj members => ofMembers members
  | _ => .error [⟨.notRecord "NodeSystemConfig", []⟩]

/-- The configuration as an object. -/
def members (c : NodeConfig) : List (Text × Json) :=
  [("min_rollup_size", .int c.minRollupSize), ("rollup_interval", .int c.rollupInterval),
    ("network_id", .int c.networkId), ("evm_node_url", .text c.evmNodeUrl),
    ("ar_node_url", .text c.arNodeUrl)]

/-- The configuration as a JSON value. -/
def json (c : NodeConfig) : Json := .obj c.members

end NodeConfig

end SignedSetup
