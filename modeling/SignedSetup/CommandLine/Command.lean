import SignedSetup.CommandLine.Arguments

/-!
# Commands

There are two commands: one signs a configuration file, the other verifies a signed payload and may
check it against the address of an administrator. Where the arguments are no command, or ask for
help, the program ends with a text of its own.
-/

namespace SignedSetup.CommandLine

/-- What the program is asked to do. A positional argument of which only a separator is left has no
value. -/
inductive Command where
  | sign (config : Option Text)
  /-- `admin` is `none` if the option is not given. -/
  | verify (signature payload : Option Text) (admin : Option (Option Text))

/-- The program ends without a command: for help, or for a complaint. -/
inductive Ending where
  | help (text : Text)
  | complaint (usage : Text) (program : Text) (words : Text)

/-- The text of an ending on standard output. -/
def Ending.output : Ending → Text
  | .help text => text
  | .complaint _ _ _ => []

/-- The lines of an ending on standard error. -/
def Ending.errorLines : Ending → List Text
  | .help _ => []
  | .complaint usage program words => ["usage: " ++ usage, program ++ ": error: " ++ words]

/-- The status of an ending. -/
def Ending.status : Ending → Nat
  | .help _ => 0
  | .complaint _ _ _ => 2

/-- The description of a program or a command. -/
structure Description where
  program : Text
  usage : Text
  /-- What help says after the usage. -/
  details : Text

/-- The ending of a command whose arguments are not taken. -/
def Description.ending (d : Description) : Stop → Ending
  | .help => .help ("usage: " ++ d.usage ++ "\n\n" ++ d.details)
  | .ambiguous argument spellings =>
    .complaint d.usage d.program
      ("ambiguous option: " ++ argument ++ " could match " ++ Text.join ", " spellings)
  | .misused flag words =>
    .complaint d.usage d.program ("argument " ++ flag.shown ++ ": " ++ words)
  | .missing names =>
    .complaint d.usage d.program
      ("the following arguments are required: " ++ Text.join ", " names)

/-- The program. -/
def program : Description where
  program := "config-sig"
  usage := "config-sig [-h] \x7bsign,verify\x7d ..."
  details :=
    "Sign and verify storage-node setup payloads\n\n" ++
    "positional arguments:\n" ++
    "  \x7bsign,verify\x7d\n" ++
    "    sign         Sign a SystemConfig JSON file\n" ++
    "    verify       Recover the signer of a payload\n\n" ++
    "options:\n" ++
    "  -h, --help     show this help message and exit\n"

/-- The command that signs. -/
def signDescription : Description where
  program := "config-sig sign"
  usage := "config-sig sign [-h] config"
  details :=
    "positional arguments:\n" ++
    "  config      Path to a JSON file with the nine config fields\n\n" ++
    "options:\n" ++
    "  -h, --help  show this help message and exit\n"

/-- The command that verifies. -/
def verifyDescription : Description where
  program := "config-sig verify"
  usage := "config-sig verify [-h] [--admin ADMIN] signature payload"
  details :=
    "positional arguments:\n" ++
    "  signature      0x-prefixed 65-byte hex signature\n" ++
    "  payload        Hex-encoded payload bytes\n\n" ++
    "options:\n" ++
    "  -h, --help     show this help message and exit\n" ++
    "  --admin ADMIN  Expected admin address (default: ADMIN_ADDR)\n"

/-- The value of a positional argument that has been taken. -/
def Taken.positional (taken : Taken) (name : Text) : Option Text :=
  (taken.positionals.lookup name).bind withoutSeparator

/-- The arguments of the command that signs. -/
def takeSign (arguments : List Text) : Except Ending (Command × List Text) := do
  let taken ← (takeArguments [.help] [.one "config"] arguments).mapError signDescription.ending
  return (.sign (taken.positional "config"), taken.extras)

/-- The arguments of the command that verifies. -/
def takeVerify (arguments : List Text) : Except Ending (Command × List Text) := do
  let taken ← (takeArguments [.help, .valued "admin"] [.one "signature", .one "payload"]
    arguments).mapError verifyDescription.ending
  return (.verify (taken.positional "signature") (taken.positional "payload")
    (taken.options.lookup (Text.ofString "admin")), taken.extras)

/-- A complaint about the arguments of the program. -/
def complain {α : Type} (words : Text) : Except Ending α :=
  .error (.complaint program.usage program.program words)

/-- The arguments behind the name of a command. -/
def takeCommand (name : Text) (arguments : List Text) : Except Ending (Command × List Text) :=
  if name = "sign" then takeSign arguments
  else if name = "verify" then takeVerify arguments
  else
    complain ("argument command: invalid choice: " ++ name.quoted ++
      " (choose from 'sign', 'verify')")

/-- The command that arguments give. -/
def parse (arguments : List Text) : Except Ending Command := do
  let taken ← (takeArguments [.help] [.rest "command"] arguments).mapError program.ending
  match taken.positionals with
  | (_, name :: arguments) :: _ =>
    let (command, extras) ← takeCommand name arguments
    let strays := taken.extras ++ extras
    if strays.isEmpty then return command
    else complain ("unrecognized arguments: " ++ Text.join " " strays)
  | _ => .error (program.ending (.missing ["command"]))

end SignedSetup.CommandLine
