import SignedSetup.Log.Record

/-!
# Calls that log

An event is logged by a call that is named for its level, or by one of two more: `fatal` logs as
`critical` does, and `exception` logs as `error` does and asks for the exception that is being
handled. A call whose fields have names that the logger needs for itself is refused.
-/

namespace SignedSetup.Log

/-- A call that logs an event. -/
inductive Call where
  | plain (level : Level)
  | exception
  | fatal
deriving DecidableEq

namespace Call

/-- The name of a call. -/
def name : Call → Text
  | .plain level => level.name
  | .exception => "exception"
  | .fatal => "fatal"

/-- The level at which a call logs. -/
def level : Call → Level
  | .plain level => level
  | .exception => .error
  | .fatal => .critical

/-- All calls. -/
def all : List Call :=
  [.plain .debug, .plain .info, .plain .warning, .plain .error, .plain .critical, .exception,
    .fatal]

/-- The call of a name; `warn` is short for `warning`. -/
def ofName? (name : Text) : Option Call :=
  if name = "warn" then some (.plain .warning) else all.find? fun call => call.name = name

/-- Why a call is refused. -/
inductive Fault where
  /-- A field has the name of a part of the call that is given besides the fields. -/
  | clash (call : Call) (name : Text)
  /-- A field has a name that the logger uses within. -/
  | internalName
  /-- A field stands where the logger looks for a record, and is none. -/
  | notRecord
deriving DecidableEq

/-- What is said of a call that is refused, if anything is. -/
def Fault.message? : Fault → Option Text
  | .clash call name =>
    some ("BoundLogger." ++ call.name ++ "() got multiple values for argument " ++ name.quoted)
  | _ => none

/-- Why a call with fields is refused, if it is. Names that clash with parts of the call are found
first, in the order of the fields. -/
def fault? (call : Call) (fields : List (Text × Value)) : Option Fault :=
  let names := fields.map Prod.fst
  match names.find? fun (name : Text) => name = "event" || name = "self" with
  | some name => some (.clash call name)
  | none =>
    if names.contains "method_name" then some .internalName
    else
      match fields.lookup (Text.ofString "_record") with
      | none => none
      | some (.json .null) => none
      | some _ => some .notRecord

/-- The fields that a call logs: one for the exception is added if it is asked for. -/
def loggedFields (call : Call) (fields : List (Text × Value)) : List (Text × Value) :=
  if call = .exception && !Entries.has exceptionFlagKey fields then
    fields ++ [(exceptionFlagKey, .json (.bool true))]
  else fields

/-- The event that a call logs. Of fields with one name the last counts. -/
def event (call : Call) (logger name : Text) (fields : List (Text × Value)) :
    Except Fault Event :=
  let fields := Entries.ofList fields
  match call.fault? fields with
  | some e => .error e
  | none => .ok ⟨logger, call.level, name, call.loggedFields fields⟩

end Call

end SignedSetup.Log
