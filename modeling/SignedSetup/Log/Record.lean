import SignedSetup.Json.Printer
import SignedSetup.Json.Display
import SignedSetup.Text.Utf8

/-!
# Log records

An event is logged with a level and fields under names. The record that is written adds to them the
application, the level, the logger and the time. A field of one of these names keeps its place;
the level, the logger and the time replace its value, the application does not. A few names have a
meaning for the logger itself: fields of such names are left out.

A record is written either as one line of JSON or as a line for the console, with the fields in the
order of their names. On the console the texts of a call stack and of an exception stand below the
line. A record that has no text in the form that is asked for is not written.
-/

namespace SignedSetup.Log

/-- How serious an event is. -/
inductive Level where
  | debug
  | info
  | warning
  | error
  | critical
deriving DecidableEq

/-- The name of a level in records. -/
def Level.name : Level → Text
  | .debug => "debug"
  | .info => "info"
  | .warning => "warning"
  | .error => "error"
  | .critical => "critical"

/-- The rank of a level, which is compared with the threshold. -/
def Level.rank : Level → Nat
  | .debug => 10
  | .info => 20
  | .warning => 30
  | .error => 40
  | .critical => 50

/-- The value of a field. -/
inductive Value where
  | json (v : Json)
  | bytes (b : Bytes)

/-- The value as it is written: octets are read as text, faults replaced. -/
def Value.written : Value → Json
  | .json v => v
  | .bytes b => .text (Utf8.decodeLossy b)

/-- An event as it is logged. -/
structure Event where
  logger : Text
  level : Level
  name : Text
  fields : List (Text × Value)

/-- What every record of an event holds beside the event. -/
structure Context where
  /-- The name of the application, where it is known. -/
  app : Option Json
  time : Text

/-- The names of the entries that are not fields. -/
def eventKey : Text := "event"

@[inherit_doc eventKey]
def appKey : Text := "app"

@[inherit_doc eventKey]
def levelKey : Text := "level"

@[inherit_doc eventKey]
def loggerKey : Text := "logger"

@[inherit_doc eventKey]
def timeKey : Text := "timestamp"

/-- The names of fields that are not written: they tell the logger what to do. -/
def unwrittenNames : List Text := ["stack_info", "_record", "_from_structlog"]

/-- The name under which a logger is known; the one without a name is at the root of all. -/
def loggerName (logger : Text) : Text := if logger.isEmpty then "root" else logger

/-- The entries of the record of an event. -/
def Event.record (e : Event) (context : Context) : List (Text × Json) :=
  let written := e.fields.filter fun (k, _) => !unwrittenNames.contains k
  let fields := Entries.ofList (written.map fun (k, v) => (k, v.written))
  let named := Entries.insert eventKey (.text e.name) fields
  let known :=
    match context.app with
    | some app => if Entries.has appKey named then named else named ++ [(appKey, app)]
    | none => named
  Entries.insert timeKey (.text context.time)
    (Entries.insert loggerKey (.text (loggerName e.logger))
      (Entries.insert levelKey (.text e.level.name) known))

/-- How records are written. -/
inductive Renderer where
  | json
  | console
deriving DecidableEq

/-- A character that keeps a text from standing bare on the console. -/
def needsQuotes (c : CodePoint) : Bool :=
  c = ' ' || c = '\t' || c = '=' || c = '\r' || c = '\n' || c = '"' || c = '\''

/-- The value of a field on the console. -/
def consoleValue : Json → Text
  | .text t => if t.any needsQuotes then t.quoted else t
  | v => v.display

/-- A field on the console. -/
def consoleField (name : Text) (v : Json) : Text := name ++ "=" ++ consoleValue v

/-- The name of a logger on the console. -/
def consoleLogger (v : Json) : Text := "[" ++ v.inserted ++ "]"

/-- The entries that have a place of their own on the console, in the order of their places, with
what is shown of each. -/
def consolePlaces : List (Text × (Json → Text)) :=
  [([], consoleField []), (timeKey, Json.inserted),
    (levelKey, fun v => "[" ++ v.inserted.padRight 9 ++ "]"),
    (eventKey, fun v => v.inserted.padRight 30), (loggerKey, consoleLogger),
    ("logger_name", consoleLogger)]

/-- The names of the entries that stand below the line on the console, or not at all. -/
def stackKey : Text := "stack"

@[inherit_doc stackKey]
def exceptionKey : Text := "exception"

@[inherit_doc stackKey]
def exceptionFlagKey : Text := "exc_info"

/-- The line of a record on the console: the entries that have their places, and then the others in
the order of their names. -/
def consoleLine (record : List (Text × Json)) : Text :=
  let placed := consolePlaces.filterMap fun (k, shown) => (record.lookup k).map shown
  let apart := [stackKey, exceptionKey, exceptionFlagKey] ++ Entries.keys consolePlaces
  let others := (record.filter fun (k, _) => !apart.contains k).mergeSort
    fun a b => a.1.isAtMost b.1
  let columns := placed ++ others.map fun (k, v) => consoleField k v
  (Text.join " " (columns.filter fun c => !c.isEmpty)).trimRight fun c => c = ' '

/-- The text under a name. -/
def textUnder? (record : List (Text × Json)) (name : Text) : Option Text :=
  (record.lookup name).bind Json.text?

/-- What stands below the line of a record on the console: the stack and the exception, with a rule
between them. -/
def belowLine (record : List (Text × Json)) : Text :=
  let exception? := textUnder? record exceptionKey
  let flagged := ((record.lookup exceptionFlagKey).map fun v => !v.isEmpty).getD false
  let rule := "\n\n" ++ List.replicate 79 (CodePoint.ofChar '=') ++ "\n"
  let stack :=
    match textUnder? record stackKey with
    | none => []
    | some stack => "\n" ++ stack ++ (if flagged || exception?.isSome then rule else [])
  stack ++ (exception?.map fun (exception : Text) => "\n" ++ exception).getD []

/-- A record on the console. -/
def consoleText (record : List (Text × Json)) : Text := consoleLine record ++ belowLine record

/-- A value can stand below the line on the console: a text, or null for none. -/
def isBelow : Json → Bool
  | .null => true
  | .text _ => true
  | _ => false

/-- An entry can be shown on the console. The flag is looked at only for whether it is set. -/
def isShown (name : Text) (v : Json) : Bool :=
  if name = stackKey || name = exceptionKey then isBelow v
  else name = exceptionFlagKey || v.isReadable

/-- The text of a record, if it can be written: an integer of too many digits has no numeral in
either form. -/
def Renderer.line : Renderer → List (Text × Json) → Option Text
  | .json, record =>
    let v := Json.obj record
    if v.isReadable then some (v.render .spaced) else none
  | .console, record =>
    if record.all fun (k, v) => isShown k v then some (consoleText record) else none

end SignedSetup.Log
