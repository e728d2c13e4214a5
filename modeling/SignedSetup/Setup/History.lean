import SignedSetup.Setup.Application

/-!
# The history of a node

A node meets one request after another. Each is tried on the configuration that the node has then;
a request that is not applied leaves it as it was.
-/

namespace SignedSetup.Setup

/-- A request as a node meets it, with the administrator it is held against. -/
structure Request where
  payload : Bytes
  signature : Text
  admin : Text

/-- The attempt to apply a request. -/
def Request.attempt (r : Request) (current : NodeConfig) : Attempt :=
  apply r.payload r.signature r.admin current

/-- The configuration of a node after one request. -/
def step (current : NodeConfig) (r : Request) : NodeConfig :=
  match (r.attempt current).result with
  | .ok config => config
  | .error _ => current

/-- The configuration of a node after a history of requests. -/
def run (initial : NodeConfig) (history : List Request) : NodeConfig := history.foldl step initial

end SignedSetup.Setup
