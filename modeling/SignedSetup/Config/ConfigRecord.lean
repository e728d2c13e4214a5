import SignedSetup.Config.SystemConfig

/-!
# Records of configurations

A configuration is kept as a record of values under attribute names. Its fields do not change one by
one. A name with an underscore at its beginning is no field and can be set, though a few such names
are taken, and one of them stands for all values of the record together: what is put there replaces
them. A record whose values were replaced may lack fields; it is then no configuration any more.
-/

namespace SignedSetup

/-- The values of a configuration under their names. -/
structure ConfigRecord where
  values : List (Text × Json)

namespace ConfigRecord

/-- The record of a configuration. -/
def ofConfig (c : SystemConfig) : ConfigRecord := ⟨c.attributes⟩

/-! ## Setting values -/

/-- Why nothing is put under a name. -/
inductive Fault where
  | frozen (issue : Validation.Issue)
  /-- The name holds no such values. -/
  | wrongKind
  /-- What stands under the name can only be read. -/
  | readOnly
deriving DecidableEq

/-- A name with an underscore at its beginning, which is no field. -/
def isPrivateName (name : Text) : Bool := name.head? = some (('_' : Char) : CodePoint)

/-- The private name of what a record is, which no JSON value can be. -/
def kindName : Text := "__class__"

/-- The private name of all values together. -/
def valuesName : Text := "__dict__"

/-- The private names of what can only be read. -/
def readOnlyNames : List Text := ["__weakref__", "__fields__", "__fields_set__"]

/-- The record with a value under a private name. -/
def assignPrivate (r : ConfigRecord) (name : Text) (v : Json) : Except Fault ConfigRecord :=
  if name = kindName then .error .wrongKind
  else if readOnlyNames.contains name then .error .readOnly
  else if name = valuesName then
    match v with
    | .obj values => .ok ⟨values⟩
    | _ => .error .wrongKind
  else .ok ⟨Entries.insert name v r.values⟩

/-- The record with a value under a name. -/
def assign (r : ConfigRecord) (name : Text) (v : Json) : Except Fault ConfigRecord :=
  if isPrivateName name then r.assignPrivate name v else .error (.frozen ⟨.frozen, [name]⟩)

/-! ## Reading fields -/

/-- The fields under their attribute names, in the order of the record. -/
def attributes (r : ConfigRecord) : List (Text × Json) :=
  r.values.filter fun (name, _) => ConfigField.all.any fun f => f.attributeName = name

/-- The fields under their wire names, in the order of the record. -/
def aliased (r : ConfigRecord) : List (Text × Json) :=
  r.values.filterMap fun (name, v) =>
    (ConfigField.all.find? fun f => f.attributeName = name).map fun f => (f.wireName, v)

/-- The message of the record, if none of its fields is missing. -/
def message? (r : ConfigRecord) : Option (List (Text × Json)) :=
  SystemConfig.messageEntries.mapM fun (key, f) =>
    (r.values.lookup f.attributeName).map fun v => (key, v)

end ConfigRecord

end SignedSetup
