import SignedSetup.Log.Record
import SignedSetup.Settings.Basic
import SignedSetup.Text.Uppercase

/-!
# The logger

The logger holds a threshold, a renderer and the name of the application. A setup takes what is not
asked for from the values of the settings. It first puts the renderer in place, and only then looks
up the name of the level: an unknown name leaves the threshold and the application as they were.
Events at or above the threshold are written, one line each, in their order; one whose record has
no text is passed over.
-/

namespace SignedSetup.Log

/-- The threshold of a level name in upper case. -/
def threshold? (name : Text) : Option Nat :=
  let thresholds : List (Text × Nat) :=
    [("CRITICAL", 50), ("FATAL", 50), ("ERROR", 40), ("WARN", 30), ("WARNING", 30), ("INFO", 20),
      ("DEBUG", 10), ("NOTSET", 0)]
  thresholds.lookup name

/-- The state of logging. Without a renderer nothing is written. -/
structure Logger where
  renderer : Option Renderer
  /-- The least rank of the events that are written. -/
  threshold : Nat
  app : Option Json

/-- The logger before any setup: warnings and errors count. -/
def Logger.initial : Logger := ⟨none, 30, none⟩

/-- What is wrong with the level of a setup. -/
inductive LevelFault where
  /-- A name, in upper case, stands for no level. -/
  | unknown (name : Text)
  /-- A value that is no text names no level. -/
  | notText
deriving DecidableEq

/-- What is said of the level of a setup, if anything is. -/
def LevelFault.message? : LevelFault → Option Text
  | .unknown name => some ("Unknown level: " ++ name.quoted)
  | .notText => none

/-- How a setup is asked for: a level name and whether records are JSON, where the settings decide
if nothing is said. An empty level says nothing. -/
structure SetupRequest where
  level : Json
  json : Option Bool

/-- The renderer of a setup: JSON unless the environment is `dev`. -/
def SetupRequest.renderer (r : SetupRequest) (settings : Settings.Source) : Renderer :=
  if r.json.getD ((settings.value "APP_ENV").text? ≠ some Environment.dev.name) then .json
  else .console

/-- The level name of a setup, in upper case. -/
def SetupRequest.levelName (r : SetupRequest) (settings : Settings.Source) :
    Except LevelFault Text :=
  match if r.level.isEmpty then settings.value "LOG_LEVEL" else r.level with
  | .text name => .ok name.upper
  | _ => .error .notText

/-- The threshold of a setup. -/
def SetupRequest.threshold (r : SetupRequest) (settings : Settings.Source) :
    Except LevelFault Nat := do
  let name ← r.levelName settings
  match threshold? name with
  | some threshold => return threshold
  | none => .error (.unknown name)

/-- The logger after a setup, and what was wrong with the level. -/
def Logger.setup (logger : Logger) (settings : Settings.Source) (r : SetupRequest) :
    Logger × Option LevelFault :=
  match r.threshold settings with
  | .ok threshold =>
    (⟨some (r.renderer settings), threshold, some (settings.value "APP_NAME")⟩, none)
  | .error e => ({ logger with renderer := some (r.renderer settings) }, some e)

/-- An event is written. -/
def Logger.writes (logger : Logger) (e : Event) : Bool := logger.threshold ≤ e.level.rank

/-- The line that is written for an event at a time, if one is. -/
def Logger.line (logger : Logger) (time : Text) (e : Event) : Option Text :=
  if logger.writes e then
    logger.renderer.bind fun renderer => renderer.line (e.record ⟨logger.app, time⟩)
  else none

/-- The lines that are written for events, all at one time. -/
def Logger.lines (logger : Logger) (time : Text) (events : List Event) : List Text :=
  events.filterMap (logger.line time)

end SignedSetup.Log
