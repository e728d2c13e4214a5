import SignedSetup.Account.Signer
import SignedSetup.CommandLine.Command
import SignedSetup.CommandLine.File
import SignedSetup.Log.Logger
import SignedSetup.Setup.Application

/-!
# The program

A run of the program gives a status, what it prints, and what it says on the side: events that are
logged and lines of text, in one order. Results alone are printed, so that they stay readable.

The settings come as values under names. Settings that were loaded have right values, but any values
may be put in their place; what is wrong with one is found where it is used.
-/

namespace SignedSetup.CommandLine

/-- Something said on the side. -/
inductive Note where
  | event (e : Log.Event)
  | line (t : Text)

/-- What ends a run that was not prepared for it. -/
inductive Crash where
  | key (e : PrivateKey.Fault)
  | signer (e : Signer.Fault)
  /-- The settings give no node configuration. -/
  | settings (issues : List Validation.Issue)
  | tooLong (e : Decimal.TooLong)
  /-- An integer of a result has too many digits to be printed. -/
  | unprintable
  /-- A positional argument has no value. -/
  | noConfig
  | noSignature
  | noPayload

/-- What is said of a run that ended without being prepared for it. -/
def Crash.message : Crash → Text
  | .key (.notInRange octets) => PrivateKey.rangeMessage octets
  | .key (.negative n) => PrivateKey.negativeMessage n
  | .key _ => "the private key is not hexadecimal"
  | .signer .noWorkers => Signer.noWorkersMessage
  | .signer .tooManyWorkers => "there are not so many workers"
  | .signer .uncountedWorkers => "the number of workers is no integer"
  | .signer .brokenPool => "the workers are broken"
  | .signer .notStarted => Signer.notStartedMessage
  | .signer (.typedData e) => (e.message?).getD "the typed data cannot be hashed"
  | .settings issues =>
    Decimal.ofNat issues.length ++ " settings give no node configuration"
  | .tooLong e => e.message
  | .unprintable => Decimal.tooLongMessage []
  | .noConfig => "no configuration is named"
  | .noSignature => "no signature is given"
  | .noPayload => "no payload is given"

/-- How a run ends. -/
inductive Status where
  | returned (code : Nat)
  | exited (code : Nat)
  | crashed (e : Crash)

/-- The status that is handed to the system. -/
def Status.code : Status → Nat
  | .returned code => code
  | .exited code => code
  | .crashed _ => 1

/-- A run of the program. -/
structure Run where
  status : Status
  output : Text
  notes : List Note

namespace Run

/-- A run that fails with words. -/
def failed (words : Text) : Run := ⟨.returned 1, [], [.line ("ERROR: " ++ words)]⟩

/-- A run that ends without being prepared for it. -/
def crash (e : Crash) : Run := ⟨.crashed e, [], []⟩

/-- A run that prints a result, if it can be printed. -/
def printed (members : List (Text × Json)) : Run :=
  if (Json.obj members).isReadable then
    ⟨.returned 0, (Json.obj members).render .indented ++ "\n", []⟩
  else .crash .unprintable

/-- A run with events before everything else. -/
def after (events : List Log.Event) (r : Run) : Run :=
  { r with notes := events.map .event ++ r.notes }

/-- What is said at the end of a run that was not prepared for it. -/
def lastWords (r : Run) : Text :=
  match r.status with
  | .crashed e => e.message ++ "\n"
  | _ => []

/-- What a run writes on the side, with a logger and all events at one time. -/
def errorOutput (r : Run) (logger : Log.Logger) (time : Text) : Text :=
  r.notes.flatMap fun
    | .line t => t ++ "\n"
    | .event e =>
      match logger.line time e with
      | some line => line ++ "\n"
      | none => []

end Run

/-- The name of the logger of the program's own events. -/
def loggerName : Text := "cli.config_sig"

/-! ## Signing -/

/-- Why a configuration cannot be loaded. -/
inductive LoadFault where
  | file (e : FileFault)
  | utf8 (e : Utf8.Fault)
  | json (e : Json.Fault)
  | config (issues : List Validation.Issue)

/-- What is said of a configuration that cannot be loaded. The issues are counted. -/
def LoadFault.message (path : Text) : LoadFault → Text
  | .file e => e.message path
  | .utf8 e => e.message
  | .json e => e.message
  | .config issues =>
    Decimal.ofNat issues.length ++ " validation error" ++
      (if issues.length = 1 then "" else "s") ++ " for SystemConfig"

/-- The configuration in a file. -/
def load (read : FileReader) (path : Text) : Except LoadFault SystemConfig := do
  let bytes ← (read path).mapError .file
  let text ← (Utf8.decode bytes).mapError .utf8
  let value ← (Json.parse text.normalizeNewlines).mapError .json
  (SystemConfig.ofJson value).mapError .config

/-- The run that signs a configuration with a key and workers. A signer lives only for this. -/
def signWith (key : PrivateKey) (workers : Json) (config : SystemConfig) : Run :=
  let started := (Signer.new key workers).perform .start
  let generated := started.signer.perform (.generate (.config config))
  let stopped := generated.signer.perform .shutdown
  let events := (started.events ++ generated.events ++ stopped.events).map Signer.Event.logged
  match started.answer, generated.answer with
  | .failed e, _ => .crash (.signer e)
  | _, .generated (.ok signed) =>
    let event : Log.Event :=
      ⟨loggerName, .info, "config_sig.signed",
        [("address", .json (.text key.address.checksummed)),
          ("payload_size", .json (.int signed.payload.length))]⟩
    Run.after (events ++ [event])
      (.printed [("address", .text key.address.checksummed),
        ("signature", .text signed.signature.text),
        ("payload", .text ("0x" ++ Hex.ofBytes signed.payload))])
  | _, .generated (.error (.signer e)) => Run.after events (.crash (.signer e))
  | _, _ => Run.after events (.crash (.signer .notStarted))

/-- The run of the command that signs. -/
def runSign (settings : Settings.Source) (read : FileReader) (config : Option Text) : Run :=
  if (settings.value "SIGNER_PRIVATE_KEY").isEmpty then .failed "SIGNER_PRIVATE_KEY is not set"
  else
    match config with
    | none => .crash .noConfig
    | some name =>
      match load read (pathOf name) with
      | .error e =>
        .failed ("cannot load config " ++ name ++ ": " ++ e.message (pathOf name))
      | .ok config =>
        match PrivateKey.ofJson (settings.value "SIGNER_PRIVATE_KEY") with
        | .error e => .crash (.key e)
        | .ok key => signWith key (settings.value "SIGNER_MAX_WORKERS") config

/-! ## Verifying -/

/-- The run of a verification that failed. -/
def verifyFailed (words : Text) : Run :=
  Run.after [⟨loggerName, .warning, "config_sig.verify_failed", [("error", .json (.text words))]⟩]
    (.failed words)

/-- The run that recovers the signer of a payload. -/
def runRecover (payload : Bytes) (signature : Text) : Run :=
  match Setup.verify payload signature with
  | .error e => verifyFailed e.message
  | .ok request =>
    Run.after [(Setup.ApplicationEvent.recovered request.signer).logged]
      (.printed [("address", .text request.signer.checksummed),
        ("message", .obj request.envelope.message)])

/-- The run that checks a payload against an administrator's address, with the node configuration
that stands behind it. -/
def runApply (defaults : NodeConfig) (payload : Bytes) (signature admin : Text) : Run :=
  let attempt := Setup.apply payload signature admin defaults
  Run.after (attempt.events.map Setup.ApplicationEvent.logged)
    (match attempt.result with
    | .ok config => .printed [("admin", .text admin), ("applied", config.json)]
    | .error (.tooLong e) => .crash (.tooLong e)
    | .error e => verifyFailed e.message)

/-- The run that checks a payload against a value that is no text, and so nobody's address. -/
def runRefuse (payload : Bytes) (signature : Text) (admin : Json) : Run :=
  match Setup.verify payload signature with
  | .error e => verifyFailed e.message
  | .ok request =>
    Run.after [(Setup.ApplicationEvent.recovered request.signer).logged]
      (verifyFailed (Setup.badAdminMessage admin))

/-- The run that checks a payload against an administrator. The settings have to give a node
configuration. -/
def runCheck (settings : Settings.Source) (payload : Bytes) (signature : Text) (admin : Json) :
    Run :=
  match Settings.nodeConfigOf settings, admin with
  | .error issues, _ => .crash (.settings issues)
  | .ok defaults, .text admin => runApply defaults payload signature admin
  | .ok _, admin => runRefuse payload signature admin

/-- The administrator that a payload is checked against: that of the arguments, or else that of the
settings. An empty one is none. -/
def effectiveAdmin (settings : Settings.Source) (admin : Option (Option Text)) : Option Json :=
  let given :=
    match admin with
    | some given => given.map Json.text
    | none => some (settings.value "ADMIN_ADDR")
  given.filter fun v => !v.isEmpty

/-- The run of the command that verifies. -/
def runVerify (settings : Settings.Source) (signature payload : Option Text)
    (admin : Option (Option Text)) : Run :=
  match payload with
  | none => .crash .noPayload
  | some payload =>
    match Hex.read ((Text.dropWord? "0x" payload).getD payload) with
    | .error e => .failed ("payload is not hex: " ++ e.message)
    | .ok payload =>
      match signature, effectiveAdmin settings admin with
      | some signature, some admin => runCheck settings payload signature admin
      | some signature, none => runRecover payload signature
      | none, _ =>
        match Payload.decode payload with
        | .error e => verifyFailed (Setup.VerificationFault.payload e).message
        | .ok _ => .crash .noSignature

/-! ## The whole -/

/-- The run of a command. -/
def runCommand (settings : Settings.Source) (read : FileReader) : Command → Run
  | .sign config => runSign settings read config
  | .verify signature payload admin => runVerify settings signature payload admin

/-- The run of the program with arguments. -/
def run (settings : Settings.Source) (read : FileReader) (arguments : List Text) : Run :=
  match parse arguments with
  | .error ending =>
    ⟨.exited ending.status, ending.output, ending.errorLines.map .line⟩
  | .ok command => runCommand settings read command

end SignedSetup.CommandLine
