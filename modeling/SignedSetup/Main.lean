import SignedSetup.CommandLine.Program
import SignedSetup.Log.Time
import SignedSetup.Settings.File
import Std.Time.DateTime.Timestamp

/-!
# The executable

Reads the settings, the arguments, the time and the files that the program asks for, and writes what
a run of the program says.
-/

namespace SignedSetup

/-- The reason that the system gives for not reading a file. -/
def fileFault : IO.Error → CommandLine.FileFault
  | .noFileOrDirectory .. => .missing
  | .inappropriateType _ code _ => if code = 21 then .isDirectory else .notDirectory
  | .permissionDenied _ code _ => .refused code.toNat "Permission denied"
  | .invalidArgument _ code details =>
    if code = 36 then .nameTooLong else .refused code.toNat details
  | e => .refused 5 (toString e)

/-- The octets of a file. -/
def readFile (path : Text) : IO (Except CommandLine.FileFault Bytes) := do
  if path.contains 0 then return .error .nullCharacter
  try
    return .ok (← IO.FS.readBinFile path.toString).toList
  catch e =>
    return .error (fileFault e)

/-- The values that the environment has under names. -/
def environmentValues (names : List Text) : IO (List (Text × Text)) := do
  let values ← names.mapM fun name => do
    return (← IO.getEnv name.toString).map fun v => (name, Text.ofString v)
  return values.filterMap id

/-- Texts as the values of settings. -/
def sourceOf (values : List (Text × Text)) : Settings.Source :=
  values.map fun (name, v) => (name, .text v)

/-- The settings that the environment gives. -/
def environmentSource : IO Settings.Source := do
  return sourceOf (← environmentValues Settings.names)

/-- The text of the settings file, from what became of reading it. Without such a file it is empty;
one that is there has to be readable. -/
def settingsText : Except CommandLine.FileFault Bytes → Except Text Text
  | .ok bytes => (Utf8.decode bytes).mapError fun e => e.message
  | .error .missing => .ok []
  | .error .isDirectory => .ok []
  | .error .notDirectory => .ok []
  | .error e => .error (e.message ".env")

/-- The settings that the settings file gives, or what is wrong with it. -/
def fileSource : IO (Except Text Settings.Source) := do
  match settingsText (← readFile ".env") with
  | .error words => return .error words
  | .ok file =>
    let environment ← environmentValues (Settings.File.references file)
    return .ok (sourceOf (Settings.File.parse environment file))

/-- The time of now. -/
def now : IO Text := do
  let stamp ← Std.Time.Timestamp.now
  return Log.timeText (stamp.toNanosecondsSinceUnixEpoch.val.toNat / 1000)

/-- Write a text. -/
def write (stream : IO.FS.Stream) (t : Text) : IO Unit := do
  stream.write ⟨t.utf8.toArray⟩
  stream.flush

/-- The file that a command asks for, as a reader that knows only this file. -/
def readerFor (arguments : List Text) : IO CommandLine.FileReader := do
  match CommandLine.parse arguments with
  | .ok (.sign (some config)) =>
    let bytes ← readFile (CommandLine.pathOf config)
    return fun _ => bytes
  | _ => return fun _ => .error .missing

/-- Run the program with settings. -/
def runWith (settings : Settings) (arguments : List Text) : IO UInt32 := do
  let stderr ← IO.getStderr
  let (logger, fault) := Log.Logger.initial.setup settings.members ⟨.null, none⟩
  match fault with
  | some e =>
    write stderr (e.message?.getD "no level is named" ++ "\n")
    return 1
  | none =>
    let read ← readerFor arguments
    let run := CommandLine.run settings.members read arguments
    write stderr (run.errorOutput logger (← now) ++ run.lastWords)
    write (← IO.getStdout) run.output
    return UInt32.ofNat run.status.code

/-- Run the program. -/
def runProgram (arguments : List Text) : IO UInt32 := do
  let stderr ← IO.getStderr
  match ← fileSource with
  | .error words =>
    write stderr (words ++ "\n")
    return 1
  | .ok file =>
    match Settings.load [← environmentSource, file] with
    | .error issues =>
      for issue in issues do
        write stderr (Text.join "." issue.location ++ ": " ++ issue.kind.message ++ "\n")
      return 1
    | .ok settings => runWith settings arguments

end SignedSetup

/-- The entry of the program. -/
def main (arguments : List String) : IO UInt32 :=
  SignedSetup.runProgram (arguments.map SignedSetup.Text.ofString)
